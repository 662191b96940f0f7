import Chip8.Proofs.Host.Iteration

/-! # When pictures are drawn

An iteration hands its picture to the display exactly if it polled the inputs, was not asked to
quit, and found the picture changed. A picture that was shown is entered right after the poll.
-/

namespace Chip8.Host

variable {τ σ : Type}

/-- Pictures are drawn right after polls that asked nothing of the host, in the same iteration. -/
def DrawsFollowPolls (entries : List (Entry τ)) : Prop :=
  ∀ ⦃entry earlier cells⦄, entry :: earlier <:+ entries → entry.event = .drawn cells →
    earlier.head? = some { entry with event := .polled false }

theorem drawsFollowPolls_nil : DrawsFollowPolls ([] : List (Entry τ)) := by
  intro entry earlier cells suffixed
  cases List.eq_nil_of_suffix_nil suffixed

theorem drawsFollowPolls_cons {entries : List (Entry τ)} {entry : Entry τ}
    (follow : DrawsFollowPolls entries)
    (first : ∀ cells, entry.event = .drawn cells →
      entries.head? = some { entry with event := .polled false }) :
    DrawsFollowPolls (entry :: entries) := by
  intro latest earlier cells suffixed draws
  rcases List.suffix_cons_iff.mp suffixed with same | suffixed
  · cases same
    exact first cells draws
  · exact follow suffixed draws

/-- Whether an event is one of the display or its input. -/
def Event.isShow : Event → Bool
  | .polled _ => true
  | .drawn _ => true
  | _ => false

/-- The events of the display and its input among some entries. -/
def shows (entries : List (Entry τ)) : List Event :=
  (entries.map Entry.event).filter Event.isShow

theorem shows_append (later earlier : List (Entry τ)) :
    shows (later ++ earlier) = shows later ++ shows earlier := by
  rw [shows, List.map_append, List.filter_append, shows, shows]

theorem mem_shows {event : Event} (isShow : event.isShow = true) {entries : List (Entry τ)} :
    event ∈ shows entries ↔ event ∈ entries.map Entry.event := by
  rw [shows, List.mem_filter, and_iff_left isShow]

/-- Between two states a host neither polled nor drew. -/
def Unseen (before after : Host τ σ) : Prop :=
  ∃ new, after.journal = new ++ before.journal ∧ shows new = []

variable {before host left : Host τ σ} {now : τ}

theorem Unseen.refl (host : Host τ σ) : Unseen host host := ⟨[], rfl, rfl⟩

theorem Unseen.enter {event : Event} (unseen : Unseen before host)
    (entered : left.journal = host.entry event :: host.journal) (hidden : event.isShow = false) :
    Unseen before left := by
  obtain ⟨new, journal, nothing⟩ := unseen
  refine ⟨host.entry event :: new, ?_, ?_⟩
  · rw [entered, journal, List.cons_append]
  · rw [shows, List.map_cons, List.filter_cons_of_neg (by simpa [entry] using hidden)]
    exact nothing

theorem Unseen.executed (unseen : Unseen before host) : Unseen before host.executed := by
  refine executed_induction (motive := Unseen before) unseen ?_
  intro host line unseen
  exact unseen.enter rfl rfl

/-- What follows the display in an iteration is not seen. -/
theorem unseen_cycled (host : Host τ σ) (machine : Machine) (nextTimer : τ) (count : Nat) :
    Unseen host (host.timed machine nextTimer count).cycled := by
  have timed : Unseen host (host.timed machine nextTimer count) :=
    (Unseen.refl host).enter rfl rfl
  exact timed.executed.enter rfl rfl

/-- An ending that a display failed with. -/
def DisplayFailed (ending : Option Ending) : Prop :=
  ∃ fault, ending = some (.failed (.display fault))

/-- A picture is drawn, or its display fails, exactly if the host polled, was not asked to quit,
and the picture was marked as changed. -/
def Presents (changed : Bool) (failed : Prop) (events : List Event) : Prop :=
  ((∃ cells, .drawn cells ∈ events) ∨ failed) ↔ .polled false ∈ events ∧ changed = true

theorem presents_shows {changed : Bool} {failed : Prop} {entries : List (Entry τ)} :
    Presents changed failed (shows entries) ↔
      Presents changed failed (entries.map Entry.event) := by
  have draws : (∃ cells, .drawn cells ∈ shows entries) ↔
      ∃ cells, .drawn cells ∈ entries.map Entry.event :=
    exists_congr fun cells => mem_shows rfl
  rw [Presents, Presents, draws, mem_shows rfl]

/-- Without an iteration there is neither a poll nor a picture. -/
theorem presents_idle {changed : Bool} {failed : Prop} {new : List (Entry τ)}
    (hidden : shows new = []) (fine : ¬ failed) :
    Presents changed failed (new.map Entry.event) := by
  rw [← presents_shows, hidden, Presents]
  simp [fine]

theorem not_displayFailed_of_same (ending : Option Ending) :
    ¬ (ending = none ∧ DisplayFailed ending) := by
  rintro ⟨going, fault, failed⟩
  rw [going] at failed
  cases failed

theorem ending?_paced [TimeScale τ] (host : Host τ σ) (now : τ) :
    (host.paced now).ending? = none := by
  rw [ending?, paced]
  cases host.interval <;> rfl

section Readings

variable [TimeScale τ] [Front τ σ] {ending : Option Ending}

theorem Reports.unseen (reports : Reports host now ending left) : Unseen host left := by
  cases reports with
  | early => exact .refl host
  | told => exact (Unseen.refl host).enter rfl rfl
  | failed => exact (Unseen.refl host).enter rfl rfl

theorem Reports.machine (reports : Reports host now ending left) :
    left.machine = host.machine := by
  cases reports <;> rfl

theorem Reports.not_displayFailed (reports : Reports host now ending left) :
    ¬ DisplayFailed ending := by
  cases reports <;> simp [DisplayFailed]

theorem Displays.presents (displays : Displays host now ending left) :
    ∃ new, left.journal = new ++ host.journal ∧
      Presents host.machine.framebuffer.dirty (DisplayFailed ending) (shows new) := by
  cases displays with
  | early => exact ⟨[], rfl, by simp [Presents, DisplayFailed, shows]⟩
  | unanswered =>
    refine ⟨[host.entry (.faulted (.input _))], rfl, ?_⟩
    simp [Presents, DisplayFailed, shows, entry, Event.isShow]
  | quit due asked =>
    refine ⟨[host.entry (.polled true)], rfl, ?_⟩
    simp [Presents, DisplayFailed, shows, entry]
  | unchanged due stays clean =>
    refine ⟨[host.entry (.polled false)], rfl, ?_⟩
    simp [Presents, DisplayFailed, shows, entry, clean]
  | drawn due stays dirty =>
    refine ⟨[host.entry (.drawn host.picture), host.entry (.polled false)], rfl, ?_⟩
    simp [Presents, DisplayFailed, shows, entry, dirty, Event.isShow]
  | failed due stays dirty =>
    refine ⟨[host.entry (.faulted (.display _)), host.entry (.polled false)], rfl, ?_⟩
    simp [Presents, DisplayFailed, shows, entry, dirty, Event.isShow]

/-- What an iteration does before and after the display is not seen. -/
theorem Displays.presents_within {reported displayed : Host τ σ}
    (reports : Reports host now none reported)
    (displays : Displays reported now ending displayed) (unseen : Unseen displayed left) :
    ∃ new, left.journal = new ++ host.journal ∧
      Presents host.machine.framebuffer.dirty (DisplayFailed ending) (shows new) := by
  have machine := reports.machine
  obtain ⟨early, reports, hidden⟩ := reports.unseen
  obtain ⟨shown, journal, presents⟩ := displays.presents
  obtain ⟨late, rest, hiddenToo⟩ := unseen
  refine ⟨late ++ (shown ++ early), ?_, ?_⟩
  · rw [rest, journal, reports, List.append_assoc, List.append_assoc]
  · rw [machine] at presents
    rw [shows_append, shows_append, hidden, hiddenToo, List.append_nil, List.nil_append]
    exact presents

theorem Iterates.presents (iterates : Iterates host now left) :
    ∃ new, left.journal = new ++ host.journal ∧
      Presents host.machine.framebuffer.dirty (DisplayFailed left.ending?) (shows new) := by
  cases iterates with
  | unreported reports =>
    obtain ⟨new, journal, hidden⟩ := reports.unseen
    refine ⟨new, journal, ?_⟩
    rw [hidden]
    simpa [Presents, ending?] using reports.not_displayFailed
  | stopped reports displays => exact displays.presents_within reports (.refl _)
  | failed reports displays failure =>
    obtain ⟨new, journal, presents⟩ := displays.presents_within reports (unseen_cycled _ _ _ _)
    refine ⟨new, journal, ?_⟩
    simpa [DisplayFailed, ending?] using presents
  | completed reports displays success =>
    obtain ⟨new, journal, presents⟩ := displays.presents_within reports (unseen_cycled _ _ _ _)
    refine ⟨new, journal, ?_⟩
    rw [ending?_paced]
    exact presents

/-- At each reading, the host hands its picture to the display exactly if it polled the inputs, was
not asked to quit, and the picture was marked as changed. -/
theorem presents_feed (host : Host τ σ) (now : τ) :
    ∃ new, (host.feed now).journal = new ++ host.journal ∧
      Presents host.machine.framebuffer.dirty
        (host.ending? = none ∧ DisplayFailed (host.feed now).ending?)
        (new.map Entry.event) := by
  have feeds := feeds host now
  generalize host.feed now = left at feeds
  cases feeds with
  | idle => exact ⟨[], rfl, presents_idle rfl (not_displayFailed_of_same _)⟩
  | ended => exact ⟨[], rfl, presents_idle rfl (not_displayFailed_of_same _)⟩
  | begins =>
    refine ⟨[_], rfl, presents_idle rfl ?_⟩
    rintro ⟨-, fault, failed⟩
    cases failed
  | refuses =>
    refine ⟨[], rfl, presents_idle rfl ?_⟩
    rintro ⟨-, fault, failed⟩
    cases failed
  | iterates looping iterates =>
    obtain ⟨new, journal, presents⟩ := iterates.presents
    have going : host.ending? = none := by rw [ending?, looping]
    refine ⟨new, journal, ?_⟩
    rw [← presents_shows, going, and_iff_right rfl]
    exact presents
  | waits => exact ⟨[], rfl, presents_idle rfl (not_displayFailed_of_same _)⟩
  | resumes =>
    refine ⟨[], rfl, presents_idle rfl ?_⟩
    rintro ⟨-, fault, failed⟩
    cases failed

end Readings

end Chip8.Host
