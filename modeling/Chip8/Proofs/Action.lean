/-! # What actions leave

An action leaves a state whether or not it fails. A relation between states that composes holds
between the states before and after an action if it holds so for the steps of the action.

Where what is left depends on how the action ends, the states that it may begin in, the ones that
it returns in and the ones that it fails in each have a property of their own.
-/

namespace Chip8

variable {ε σ α β : Type}

/-- The state that an action leaves, whether or not it fails. -/
def leftBy (action : EStateM ε σ α) (state : σ) : σ :=
  match action state with
  | .ok _ left => left
  | .error _ left => left

/-- The state before an action is always related to the one that it leaves. -/
def Relates (relation : σ → σ → Prop) (action : EStateM ε σ α) : Prop :=
  ∀ state, relation state (leftBy action state)

variable {relation : σ → σ → Prop}

theorem leftBy_ok {action : EStateM ε σ α} {state left : σ} {value : α}
    (ran : action state = .ok value left) : leftBy action state = left := by
  rw [leftBy, ran]

theorem leftBy_error {action : EStateM ε σ α} {state left : σ} {fault : ε}
    (failed : action state = .error fault left) : leftBy action state = left := by
  rw [leftBy, failed]

theorem of_leftBy_ok {kept : σ → Prop} {action : EStateM ε σ α} {state left : σ} {value : α}
    (holds : kept (leftBy action state)) (ran : action state = .ok value left) : kept left := by
  rw [leftBy_ok ran] at holds
  exact holds

theorem of_leftBy_error {kept : σ → Prop} {action : EStateM ε σ α} {state left : σ} {fault : ε}
    (holds : kept (leftBy action state)) (failed : action state = .error fault left) :
    kept left := by
  rw [leftBy_error failed] at holds
  exact holds

theorem bind_ok {action : EStateM ε σ α} {next : α → EStateM ε σ β} {state middle : σ} {value : α}
    (ran : action state = .ok value middle) : (action >>= next) state = next value middle := by
  simp only [bind, EStateM.bind, ran]

theorem bind_error {action : EStateM ε σ α} {next : α → EStateM ε σ β} {state left : σ} {fault : ε}
    (failed : action state = .error fault left) : (action >>= next) state = .error fault left := by
  simp only [bind, EStateM.bind, failed]

theorem catch_ok {action : EStateM ε σ α} {handle : ε → EStateM ε σ α} {state left : σ} {value : α}
    (ran : action state = .ok value left) : (tryCatch action handle) state = .ok value left := by
  change EStateM.tryCatch action handle state = _
  delta EStateM.tryCatch
  rw [ran]

theorem catch_error {action : EStateM ε σ α} {handle : ε → EStateM ε σ α} {state left : σ}
    {fault : ε} (failed : action state = .error fault left) :
    (tryCatch action handle) state = handle fault left := by
  change EStateM.tryCatch action handle state = _
  delta EStateM.tryCatch
  rw [failed]
  rfl

/-- What runs after an action runs on the state that the action left, if it did not fail. -/
theorem leftBy_bind (action : EStateM ε σ α) (next : α → EStateM ε σ β) (state : σ) :
    leftBy (action >>= next) state =
      match action state with
      | .ok value middle => leftBy (next value) middle
      | .error _ left => left := by
  simp only [leftBy, bind, EStateM.bind]
  cases action state <;> rfl

theorem Relates.pure [Std.Refl relation] (value : α) :
    Relates relation (pure value : EStateM ε σ α) := Std.Refl.refl

theorem Relates.bind [Trans relation relation relation] {action : EStateM ε σ α}
    {next : α → EStateM ε σ β} (first : Relates relation action)
    (rest : ∀ value, Relates relation (next value)) : Relates relation (action >>= next) := by
  intro state
  have early := first state
  rw [leftBy_bind]
  cases ran : action state with
  | ok value middle =>
    rw [leftBy_ok ran] at early
    exact Trans.trans early (rest value middle)
  | error fault left =>
    rw [leftBy_error ran] at early
    exact early

/-! ### How actions end -/

/-- What holds where an action returns and where it fails, if something holds where it begins. A
structure, so that no state of the action is computed where only the property is meant. -/
structure Meets (before : σ → Prop) (action : EStateM ε σ α) (returns : α → σ → Prop)
    (fails : ε → σ → Prop) : Prop where
  returned : ∀ {state value left}, before state → action state = .ok value left →
    returns value left
  failed : ∀ {state fault left}, before state → action state = .error fault left →
    fails fault left

namespace Meets

variable {before : σ → Prop} {action : EStateM ε σ α} {next : α → EStateM ε σ β}
  {middle : α → σ → Prop} {returns : β → σ → Prop} {fails : ε → σ → Prop}

theorem pure {value : β} (holds : ∀ state, before state → returns value state) :
    Meets before (pure value : EStateM ε σ β) returns fails where
  returned := by
    rintro state _ _ begins ⟨⟩
    exact holds state begins
  failed := nofun

theorem throw {fault : ε} (holds : ∀ state, before state → fails fault state) :
    Meets before (throw fault : EStateM ε σ β) returns fails where
  returned := nofun
  failed := by
    rintro state _ _ begins ⟨⟩
    exact holds state begins

theorem modify {change : σ → σ} {returns : PUnit → σ → Prop}
    (holds : ∀ state, before state → returns ⟨⟩ (change state)) :
    Meets before (modify change : EStateM ε σ PUnit) returns fails where
  returned := by
    rintro state _ _ begins ⟨⟩
    exact holds state begins
  failed := nofun

theorem bind (first : Meets before action middle fails)
    (rest : ∀ value, Meets (middle value) (next value) returns fails) :
    Meets before (action >>= next) returns fails where
  returned := by
    intro state value left begins ran
    cases early : action state with
    | ok found between =>
      rw [bind_ok early] at ran
      exact (rest found).returned (first.returned begins early) ran
    | error fault between =>
      rw [bind_error early] at ran
      cases ran
  failed := by
    intro state fault left begins ran
    cases early : action state with
    | ok found between =>
      rw [bind_ok early] at ran
      exact (rest found).failed (first.returned begins early) ran
    | error fault between =>
      rw [bind_error early] at ran
      cases ran
      exact first.failed begins early

/-- A fact that holds wherever an action begins may be assumed of the action. -/
theorem given {fact : Prop} {action : EStateM ε σ β}
    (meets : fact → Meets before action returns fails) :
    Meets (fun state => before state ∧ fact) action returns fails where
  returned begins ran := (meets begins.2).returned begins.1 ran
  failed begins ran := (meets begins.2).failed begins.1 ran

theorem weaken {later : α → σ → Prop} {failing : ε → σ → Prop}
    (meets : Meets before action middle fails)
    (returns : ∀ value state, middle value state → later value state)
    (failed : ∀ fault state, fails fault state → failing fault state) :
    Meets before action later failing where
  returned begins ran := returns _ _ (meets.returned begins ran)
  failed begins ran := failed _ _ (meets.failed begins ran)

end Meets

end Chip8
