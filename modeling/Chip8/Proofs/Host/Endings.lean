import Chip8.Clock
import Chip8.Proofs.Host.Pictures

/-! # How runs end

A run ends when the user asks to quit, when something fails, or when its clock stops. Its latest
event tells that it was the user or an instruction; a fault of the front end is the one that the
last call of it raised. However it ends, what the operations of the front end keep holds of the
front end that is left.
-/

namespace Chip8

variable {τ σ : Type}

/-- What is kept by each operation that a run performs on a front end. -/
structure Front.Keeps [Front τ σ] (kept : σ → Prop) : Prop where
  setTitle : ∀ title (front : σ), kept front → kept (leftBy (Front.setTitle title) front)
  draw : ∀ cells (front : σ), kept front → kept (leftBy (Front.draw cells) front)
  poll : ∀ (now : τ) keypad (front : σ), kept front →
    kept (leftBy (Front.poll now) (keypad, front)).2

namespace Host

variable {host left : Host τ σ} {now : τ}

/-- The latest event of a host. -/
def latest? (host : Host τ σ) : Option Event := host.journal.head?.map Entry.event

/-- The user was not found to ask to quit. -/
def Unasked (host : Host τ σ) : Prop := ∀ entry ∈ host.journal, entry.event ≠ .polled true

/-- The last thing that was done failed with a fault: an instruction, or a call of the front end
that left it as it is. -/
def Caused [Front τ σ] (host : Host τ σ) : Fault → Prop
  | .machine fault => host.latest? = some (.cycled (some fault))
  | .title fault =>
      host.latest? = some (.faulted (.title fault)) ∧
        ∃ title before, Front.setTitle title before = .error fault host.front
  | .display fault =>
      host.latest? = some (.faulted (.display fault)) ∧
        ∃ cells before, Front.draw cells before = .error fault host.front
  | .input fault =>
      host.latest? = some (.faulted (.input fault)) ∧
        ∃ now keypad before,
          Front.poll now (keypad, before) = .error fault (host.machine.keypad, host.front)
  | .speedTooLarge | .rate _ | .timeTooLarge => True

/-- The latest event tells an ending by the user, who asked to quit in no other run. A run that
failed did so by what it did last. -/
def Concluded [Front τ σ] (host : Host τ σ) : Ending → Prop
  | .quit => host.latest? = some (.polled true)
  | .failed fault => host.Unasked ∧ host.Caused fault

section Telling

variable [Front τ σ]

/-- What a host tells of how its run ended, if it did. -/
def Told (host : Host τ σ) : Prop :=
  match host.ending? with
  | none => host.Unasked
  | some ending => host.Concluded ending

theorem Told.quit_iff (told : host.Told) :
    host.ending? = some .quit ↔ ∃ entry ∈ host.journal, entry.event = .polled true := by
  rw [Told] at told
  constructor
  · intro ended
    rw [ended] at told
    obtain ⟨entry, first, same⟩ := Option.map_eq_some_iff.mp told
    exact ⟨entry, List.mem_of_head? first, same⟩
  · rintro ⟨entry, member, asked⟩
    cases ended : host.ending? with
    | none =>
      rw [ended] at told
      exact absurd asked (told entry member)
    | some ending =>
      rw [ended] at told
      cases ending with
      | quit => rfl
      | failed fault => exact absurd asked (told.1 entry member)

theorem told_of_running (unasked : host.Unasked) (running : host.ending? = none) : host.Told := by
  rw [Told, running]
  exact unasked

theorem told_of_ended {ending : Ending} (ended : host.ending? = some ending)
    (concluded : host.Concluded ending) : host.Told := by
  rw [Told, ended]
  exact concluded

/-- What concluded a run does not depend on the phase that it is left in. -/
theorem told_of_concluded {ending : Ending} (concluded : host.Concluded ending) :
    ({ host with phase := .ended ending } : Host τ σ).Told := by
  refine told_of_ended rfl ?_
  cases ending with
  | quit => exact concluded
  | failed fault => cases fault <;> exact concluded

theorem Told.unasked (told : host.Told) (running : host.ending? = none) : host.Unasked := by
  rw [Told, running] at told
  exact told

theorem Told.loseTime (told : host.Told) (running : host.ending? = none) : host.loseTime.Told :=
  told_of_ended rfl ⟨told.unasked running, trivial⟩

end Telling

section Events

variable {after : Host τ σ}

theorem Unasked.enter (unasked : host.Unasked) (event : Event) (other : event ≠ .polled true)
    (same : after.journal = (host.enter event).journal) : after.Unasked := by
  rw [Unasked, same]
  exact List.forall_mem_cons.mpr ⟨other, unasked⟩

/-- A poll that asks nothing of the host. -/
theorem Unasked.watching [TimeScale τ] (unasked : host.Unasked) (now : τ)
    (left : Keypad × σ) : (host.watching now left).Unasked :=
  unasked.enter (.polled false) (by simp) rfl

theorem Unasked.faulted (unasked : host.Unasked) (fault : Fault) (front : σ) :
    (host.faulted fault front).Unasked :=
  unasked.enter (.faulted fault) (by simp) rfl

theorem Unasked.timed (unasked : host.Unasked) (machine : Machine) (nextTimer : τ)
    (count : Nat) : (host.timed machine nextTimer count).Unasked :=
  unasked.enter (.ticked count) (by simp) rfl

theorem Unasked.cycled (unasked : host.Unasked) : host.cycled.Unasked := by
  have executed : host.executed.Unasked := by
    apply executed_induction
    · exact unasked
    · intro host line unasked
      exact unasked.enter (.traced line) (by simp) rfl
  exact executed.enter (.cycled host.machine.cycle.fault) (by simp) rfl

theorem front_cycled (host : Host τ σ) : host.cycled.front = host.front :=
  @executed_induction _ _ (fun left => left.front = host.front) host rfl fun _ _ same => same

end Events

/-! ### The front end -/

theorem front_polled [Front τ σ] {kept : σ → Prop} (keeps : Front.Keeps kept)
    (holds : kept host.front) {quit : Bool} {left : Keypad × σ}
    (polled : host.poll now = .ok quit left) : kept left.2 :=
  @of_leftBy_ok _ _ _ (fun left => kept left.2) _ _ _ _
    (keeps.poll now host.machine.keypad _ holds) polled

section Readings

variable [TimeScale τ] [Front τ σ] {kept : σ → Prop}

/-- How creating a host ends, with the calls of the front end that came before. -/
inductive Creates (machine : Machine) (front : σ) : EStateM.Result Fault σ (Host τ σ) → Prop
  | refused (fault : Fault) : Creates machine front (.error fault front)
  | unsized {fault : Display.Fault} {left : σ}
      (failure : Front.resize machine.framebuffer.width machine.framebuffer.height front =
        .error fault left) : Creates machine front (.error (.display fault) left)
  | untitled {fault : Display.Fault} {sized left : σ}
      (resized : Front.resize machine.framebuffer.width machine.framebuffer.height front =
        .ok () sized)
      (failure : Front.setTitle (title 0 0) sized = .error fault left) :
      Creates machine front (.error (.title fault) left)
  | created {host : Host τ σ} {sized : σ}
      (resized : Front.resize machine.framebuffer.width machine.framebuffer.height front =
        .ok () sized)
      (told : Front.setTitle (title 0 0) sized = .ok () host.front)
      (journal : host.journal = [⟨0, TimeScale.zero, .reported 0 0⟩]) :
      Creates machine front (.ok host host.front)

theorem creates (machine : Machine) (speed : Option Speed) (front : σ) :
    Creates machine front (create machine speed front) := by
  have read : (get : EStateM Fault σ σ) front = .ok front front := rfl
  unfold create
  cases @intervalOf τ _ (speed.getD (.whole standardSpeed)) with
  | error fault => exact .refused fault
  | ok interval =>
    dsimp only
    rw [bind_ok read]
    cases resized : Front.resize machine.framebuffer.width machine.framebuffer.height front with
    | error fault left => exact .unsized resized
    | ok _ sized =>
      dsimp only
      cases told : Front.setTitle (title 0 0) sized with
      | error fault left => exact .untitled resized told
      | ok _ left => exact .created resized told rfl

/-- A host is created with the front end that is left, and nobody has asked it to quit. -/
theorem meets_create (machine : Machine) (speed : Option Speed) (keeps : Front.Keeps kept)
    (resizes : ∀ width height (front : σ), kept front →
      kept (leftBy (Front.resize width height) front)) :
    Meets kept (create machine speed : EStateM Fault σ (Host τ σ))
      (fun host left => left = host.front ∧ kept left ∧ host.Unasked)
      (fun _ left => kept left) := by
  have sizes := resizes machine.framebuffer.width machine.framebuffer.height
  constructor
  · intro front host left holds ran
    have creates := creates machine speed front
    rw [ran] at creates
    cases creates with
    | created resized told journal =>
      have sized := of_leftBy_ok (sizes front holds) resized
      refine ⟨rfl, of_leftBy_ok (keeps.setTitle (title 0 0) _ sized) told, ?_⟩
      rw [Unasked, journal]
      exact List.forall_mem_singleton.mpr (by simp)
  · intro front fault left holds ran
    have creates := creates machine speed front
    rw [ran] at creates
    cases creates with
    | refused => exact holds
    | unsized failure => exact of_leftBy_error (sizes front holds) failure
    | untitled resized failure =>
      have sized := of_leftBy_ok (sizes front holds) resized
      exact of_leftBy_error (keeps.setTitle (title 0 0) _ sized) failure

theorem Reports.front {ending : Option Ending} (reports : Reports host now ending left)
    (keeps : Front.Keeps kept) (holds : kept host.front) : kept left.front := by
  have titled := keeps.setTitle (title host.frames host.operations) _ holds
  cases reports with
  | early => exact holds
  | told due told => exact of_leftBy_ok titled told
  | failed due failure => exact of_leftBy_error titled failure

theorem Displays.front {ending : Option Ending} (displays : Displays host now ending left)
    (keeps : Front.Keeps kept) (holds : kept host.front) : kept left.front := by
  cases displays with
  | early => exact holds
  | unanswered due failure =>
    exact @of_leftBy_error _ _ _ (fun left => kept left.2) _ _ _ _
      (keeps.poll now host.machine.keypad _ holds) failure
  | quit due asked => exact front_polled keeps holds asked
  | unchanged due stays => exact front_polled keeps holds stays
  | drawn due stays dirty drew =>
    exact of_leftBy_ok (keeps.draw host.picture _ (front_polled keeps holds stays)) drew
  | failed due stays dirty failure =>
    exact of_leftBy_error (keeps.draw host.picture _ (front_polled keeps holds stays)) failure

theorem Iterates.front (iterates : Iterates host now left) (keeps : Front.Keeps kept)
    (holds : kept host.front) : kept left.front := by
  cases iterates with
  | unreported reports => exact reports.front keeps holds
  | stopped reports displays => exact displays.front keeps (reports.front keeps holds)
  | failed reports displays failure =>
    change kept (cycled _).front
    rw [front_cycled]
    exact displays.front keeps (reports.front keeps holds)
  | completed reports displays success =>
    change kept (cycled _).front
    rw [front_cycled]
    exact displays.front keeps (reports.front keeps holds)

theorem Feeds.front (feeds : Feeds host now left) (keeps : Front.Keeps kept)
    (holds : kept host.front) : kept left.front := by
  cases feeds with
  | iterates looping iterates => exact iterates.front keeps holds
  | _ => exact holds

/-! ### The ending -/

theorem Reports.unasked {ending : Option Ending} (reports : Reports host now ending left)
    (unasked : host.Unasked) : left.Unasked := by
  cases reports with
  | early => exact unasked
  | told => exact unasked.enter (.reported host.frames host.operations) (by simp) rfl
  | failed => exact unasked.enter (.faulted (.title _)) (by simp) rfl

theorem Reports.concluded {ending : Ending} (reports : Reports host now (some ending) left)
    (unasked : host.Unasked) : left.Concluded ending := by
  have still := reports.unasked unasked
  cases reports with
  | failed due failure => exact ⟨still, rfl, _, _, failure⟩

theorem Displays.unasked (displays : Displays host now none left) (unasked : host.Unasked) :
    left.Unasked := by
  cases displays with
  | early => exact unasked
  | unchanged due stays clean => exact unasked.watching now _
  | drawn due stays dirty drew =>
    exact (unasked.watching now _).enter (.drawn host.picture) (by simp) rfl

theorem Displays.concluded {ending : Ending} (displays : Displays host now (some ending) left)
    (unasked : host.Unasked) : left.Concluded ending := by
  cases displays with
  | unanswered due failure =>
    refine ⟨unasked.enter (.faulted (.input _)) (by simp) rfl, rfl, ?_⟩
    exact ⟨now, host.machine.keypad, host.front, failure⟩
  | quit due asked => exact rfl
  | failed due stays dirty failure =>
    exact ⟨(unasked.watching now _).faulted _ _, rfl, _, _, failure⟩

theorem Iterates.told (iterates : Iterates host now left) (unasked : host.Unasked) :
    left.Told := by
  cases iterates with
  | unreported reports => exact told_of_concluded (reports.concluded unasked)
  | stopped reports displays =>
    exact told_of_concluded (displays.concluded (reports.unasked unasked))
  | failed reports displays failure =>
    refine told_of_concluded ⟨?_, congrArg (some ∘ Event.cycled) failure⟩
    exact ((displays.unasked (reports.unasked unasked)).timed _ _ _).cycled
  | completed reports displays success =>
    apply told_of_running
    · exact ((displays.unasked (reports.unasked unasked)).timed _ _ _).cycled
    · exact ending?_paced _ now

theorem Told.feeds (told : host.Told) (feeds : Feeds host now left) : left.Told := by
  cases feeds with
  | idle => exact told
  | ended => exact told
  | @begins rate starting =>
    have unasked := told.unasked (by rw [ending?, starting])
    have observed : (host.observe now).Unasked := unasked
    exact told_of_running (observed.enter (.running rate) (by simp) rfl) rfl
  | refuses starting =>
    have unasked := told.unasked (by rw [ending?, starting])
    exact told_of_ended rfl ⟨unasked, trivial⟩
  | iterates looping iterates =>
    have unasked := told.unasked (by rw [ending?, looping])
    exact iterates.told unasked
  | waits pacing early =>
    have running : host.ending? = none := by rw [ending?, pacing]
    exact told_of_running (told.unasked running) running
  | resumes pacing due =>
    have unasked := told.unasked (by rw [ending?, pacing])
    exact told_of_running unasked rfl

end Readings

end Host

/-! ### Runs on a clock -/

namespace Clock

variable [TimeScale τ] [Front τ σ]

section Feeding

variable {count : Nat} {clock : Clock} {host : Host τ σ}

theorem feed_ended {ending : Host.Ending} (ended : host.ending? = some ending) :
    feed count clock host = (clock, host) := by
  cases count with
  | zero => rfl
  | succ count => rw [feed, ended]

theorem feed_shown {now : τ} (running : host.ending? = none)
    (shown : clock.advance.time? τ = some now) :
    feed (count + 1) clock host = feed count clock.advance (host.feed now) := by
  rw [feed, running]
  dsimp only
  rw [shown]

theorem feed_lost (running : host.ending? = none) (lost : clock.advance.time? τ = none) :
    feed (count + 1) clock host = (clock.advance, host.loseTime) := by
  rw [feed, running]
  dsimp only
  rw [lost]

/-- What readings keep, and a reading that shows no time, is kept by a clock that feeds a host. -/
theorem feed_keeps {motive : Host τ σ → Prop}
    (feeds : ∀ host now, motive host → motive (host.feed now))
    (loses : ∀ host, host.ending? = none → motive host → motive host.loseTime)
    (holds : motive host) : motive (feed count clock host).2 := by
  induction count generalizing clock host with
  | zero => exact holds
  | succ count ih =>
    cases ended : host.ending? with
    | some ending =>
      rw [feed_ended ended]
      exact holds
    | none =>
      cases shown : clock.advance.time? τ with
      | some now =>
        rw [feed_shown ended shown]
        exact ih (feeds host now holds)
      | none =>
        rw [feed_lost ended shown]
        exact loses host ended holds

/-- A run that did not end by itself made all of the readings. -/
theorem readings_feed (running : (feed count clock host).2.ending? = none) :
    (feed count clock host).1.readings = clock.readings + count := by
  induction count generalizing clock host with
  | zero => rfl
  | succ count ih =>
    cases ended : host.ending? with
    | some ending =>
      rw [feed_ended ended, ended] at running
      cases running
    | none =>
      cases shown : clock.advance.time? τ with
      | some now =>
        rw [feed_shown ended shown] at running ⊢
        rw [ih running, advance, Nat.add_assoc, Nat.add_comm 1]
      | none =>
        rw [feed_lost ended shown] at running
        cases running

end Feeding

variable {host : Host τ σ}

theorem told_run (clock : Clock) (unasked : host.Unasked) : (clock.run host).2.Told := by
  apply feed_keeps
  · exact fun host now told => told.feeds (host.feeds now)
  · exact fun host running told => told.loseTime running
  · exact Host.told_of_running unasked rfl

theorem front_run (clock : Clock) {kept : σ → Prop} (keeps : Front.Keeps kept)
    (holds : kept host.front) : kept (clock.run host).2.front := by
  apply @feed_keeps _ _ _ _ _ _ _ fun left : Host τ σ => kept left.front
  · exact fun host now holds => (host.feeds now).front keeps holds
  · exact fun host running holds => holds
  · exact holds

/-- A run that was interrupted made as many readings as its clock has. -/
theorem limit_le_readings_run (clock : Clock) (running : (clock.run host).2.ending? = none) :
    clock.limit ≤ (clock.run host).1.readings := by
  rw [run, readings_feed running]
  omega

end Clock

end Chip8
