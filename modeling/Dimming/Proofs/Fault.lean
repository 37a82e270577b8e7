import Dimming.Fault

/-!
# Computations that may fail

What succeeds has succeeded in all its parts. What is done step by step stops at the first step that
fails, so it always gets somewhere.
-/

set_option autoImplicit false

namespace Dimming

section Succeeding

variable {Failure Value Other : Type} {other : Other}

theorem ok_bind (value : Value) (next : Value → Except Failure Other) :
    (Except.ok value >>= next) = next value := rfl

theorem bind_ok {first : Except Failure Value} {next : Value → Except Failure Other}
    (ok : (first >>= next) = .ok other) : ∃ value, first = .ok value ∧ next value = .ok other := by
  cases first with
  | error fault => cases ok
  | ok value => exact ⟨value, rfl, ok⟩

theorem map_ok {first : Except Failure Value} {change : Value → Other}
    (ok : first.map change = .ok other) : ∃ value, first = .ok value ∧ change value = other := by
  cases first with
  | error fault => cases ok
  | ok value => exact ⟨value, rfl, Except.ok.inj ok⟩

end Succeeding

section Stopping

variable {Failure State Item : Type} {step : State → Item → Except Failure State}
  {left : State → Item → State} {state later : State}

theorem up_to_fault_of_ok {items : List Item} (ok : items.foldlM step state = .ok later) :
    upToFault step left state items = later := by
  induction items generalizing state with
  | nil =>
      cases ok
      rfl
  | cons item items ih =>
      rw [List.foldlM_cons] at ok
      obtain ⟨next, stepped, rest⟩ := bind_ok ok
      rw [upToFault, stepped]
      exact ih rest

/-- What steps keep, and what is left by one that fails as well, is kept by however many. -/
theorem up_to_fault_keeps (holds : State → Prop)
    (stepped : ∀ {state item later}, step state item = .ok later → holds state → holds later)
    (failed : ∀ {state} item, holds state → holds (left state item)) (items : List Item)
    (held : holds state) : holds (upToFault step left state items) := by
  induction items generalizing state with
  | nil => exact held
  | cons item items ih =>
      unfold upToFault
      split
      next next found => exact ih (stepped found held)
      next => exact failed item held

end Stopping

end Dimming
