import Mathlib.Logic.Basic

set_option autoImplicit false

/-- What becomes of one command sent to a remote store: it succeeds, it fails without
effect, or it takes effect and the reply is lost. -/
inductive Fate where
  | ok
  | failed
  | lost
  deriving DecidableEq, Repr

namespace Fate

variable {State : Type}

/-- The store after the command. -/
def settle (fate : Fate) (command : State → State) (state : State) : State :=
  match fate with
  | failed => state
  | ok => command state
  | lost => command state

@[simp] theorem settle_ok (command : State → State) (state : State) :
    ok.settle command state = command state := rfl
@[simp] theorem settle_failed (command : State → State) (state : State) :
    failed.settle command state = state := rfl
@[simp] theorem settle_lost (command : State → State) (state : State) :
    lost.settle command state = command state := rfl

theorem settle_cases (fate : Fate) (command : State → State) (state : State) :
    fate.settle command state = state ∨ fate.settle command state = command state := by
  cases fate
  · exact .inr rfl
  · exact .inl rfl
  · exact .inr rfl

/-- What the command and its absence both keep, its outcome keeps. -/
theorem settle_preserves (holds : State → Prop) (fate : Fate) {command : State → State}
    {state : State} (before : holds state) (after : holds (command state)) :
    holds (fate.settle command state) := by
  rcases settle_cases fate command state with same | same
  · rw [same]
    exact before
  · rw [same]
    exact after

/-- What the caller does next: it goes on, or it sees an error. -/
def branch {Next : Type} (fate : Fate) (proceed fail : Next) : Next :=
  match fate with
  | ok => proceed
  | failed => fail
  | lost => fail

@[simp] theorem branch_ok {Next : Type} (proceed fail : Next) :
    ok.branch proceed fail = proceed := rfl

theorem branch_cases {Next : Type} (fate : Fate) (proceed fail : Next) :
    fate = ok ∧ fate.branch proceed fail = proceed ∨
      fate ≠ ok ∧ fate.branch proceed fail = fail := by
  cases fate
  · exact .inl ⟨rfl, rfl⟩
  · exact .inr ⟨by decide, rfl⟩
  · exact .inr ⟨by decide, rfl⟩

end Fate
