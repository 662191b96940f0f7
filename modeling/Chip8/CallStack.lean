/-! # Call stack

The return addresses of the subroutines in progress, the innermost first. The stack is not part
of the machine's memory, and no program can read its depth. Going past its capacity and
returning from no subroutine are both refused.
-/

namespace Chip8

structure CallStack where
  entries : List Int := []
  capacity : Int := 16
deriving DecidableEq, Repr

namespace CallStack

inductive Fault where
  | overflow (capacity : Int)
  | underflow
deriving DecidableEq, Repr

def depth (stack : CallStack) : Nat := stack.entries.length

/-- The entries with the outermost first. -/
def fromOutermost (stack : CallStack) : List Int := stack.entries.reverse

def push (stack : CallStack) (entry : Int) : Except Fault CallStack :=
  if stack.capacity ≤ stack.depth then .error (.overflow stack.capacity)
  else .ok { stack with entries := entry :: stack.entries }

def pop (stack : CallStack) : Except Fault (Int × CallStack) :=
  match stack.entries with
  | [] => .error .underflow
  | entry :: rest => .ok (entry, { stack with entries := rest })

def clear (stack : CallStack) : CallStack := { stack with entries := [] }

def Fault.message : Fault → String
  | overflow capacity => s!"Stack overflow ({capacity} levels in use)"
  | underflow => "Stack underflow"

theorem push_eq_ok_iff {stack pushed : CallStack} {entry : Int} :
    stack.push entry = .ok pushed ↔
      stack.depth < stack.capacity ∧ pushed = { stack with entries := entry :: stack.entries } := by
  rw [push]
  split
  · next full => simp [Int.not_lt.mpr full]
  · next room => simp [Int.not_le.mp room, eq_comm]

theorem push_eq_error_iff {stack : CallStack} {entry : Int} {fault : Fault} :
    stack.push entry = .error fault ↔
      stack.capacity ≤ stack.depth ∧ fault = .overflow stack.capacity := by
  rw [push]
  split
  · next full => simp [full, eq_comm]
  · next room => simp [room]

theorem pop_eq_ok_iff {stack popped : CallStack} {entry : Int} :
    stack.pop = .ok (entry, popped) ↔
      stack.entries = entry :: popped.entries ∧ popped.capacity = stack.capacity := by
  rcases stack with ⟨_ | ⟨top, rest⟩, capacity⟩
  · simp [pop]
  · rcases popped with ⟨entries, room⟩
    simp only [pop, Except.ok.injEq, Prod.mk.injEq, CallStack.mk.injEq, List.cons.injEq]
    exact ⟨fun same => ⟨⟨same.1, same.2.1⟩, same.2.2.symm⟩,
      fun same => ⟨same.1.1, same.1.2, same.2.symm⟩⟩

theorem pop_eq_error_iff {stack : CallStack} {fault : Fault} :
    stack.pop = .error fault ↔ stack.entries = [] ∧ fault = .underflow := by
  rcases stack with ⟨_ | ⟨top, rest⟩, capacity⟩
  · simp [pop, eq_comm]
  · simp [pop]

theorem pop_of_push {stack pushed : CallStack} {entry : Int}
    (success : stack.push entry = .ok pushed) : pushed.pop = .ok (entry, stack) := by
  simp only [push] at success
  split at success
  · cases success
  · cases success; rfl

end CallStack

end Chip8
