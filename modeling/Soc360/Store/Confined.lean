import Mathlib.Logic.Basic

set_option autoImplicit false

/-! Calls on a state that several owners share, each made for one of them. `agree one` relates
the states that look the same to that owner. -/

variable {Owner State Op Out : Type}

/-- The calls one after the other, with what each of them gives out. -/
def runAll (step : Op → State → Out × State) : List Op → State → List Out × State
  | [], state => ([], state)
  | op :: rest, state =>
      let (out, next) := step op state
      let (outs, last) := runAll step rest next
      (out :: outs, last)

/-- A call gives out and leaves to its owner what depends on their part of the state alone, and
no other owner sees it. -/
structure Confined (agree : Owner → State → State → Prop) (one : Owner)
    (call : State → Out × State) : Prop where
  same : ∀ {first second}, agree one first second →
    (call first).1 = (call second).1 ∧ agree one (call first).2 (call second).2
  frame : ∀ {other} state, other ≠ one → agree other state (call state).2

namespace Confined

variable {agree : Owner → State → State → Prop} {one : Owner}

/-- A call that only reads. -/
theorem read (refl : ∀ owner state, agree owner state state) {query : State → Out}
    (same : ∀ {first second}, agree one first second → query first = query second) :
    Confined agree one fun state => (query state, state) :=
  ⟨fun agrees => ⟨same agrees, agrees⟩, fun state _ => refl _ state⟩

theorem runAll {step : Op → State → Out × State} (refl : ∀ owner state, agree owner state state)
    (trans : ∀ {owner first second third}, agree owner first second →
      agree owner second third → agree owner first third)
    (confined : ∀ op, Confined agree one (step op)) (ops : List Op) :
    Confined agree one (runAll step ops) := by
  induction ops with
  | nil => exact ⟨fun agrees => ⟨rfl, agrees⟩, fun state _ => refl _ state⟩
  | cons op rest ih =>
      refine ⟨?_, ?_⟩
      · intro first second agrees
        obtain ⟨out, next⟩ := (confined op).same agrees
        obtain ⟨outs, last⟩ := ih.same next
        refine ⟨?_, last⟩
        change (step op first).1 :: _ = (step op second).1 :: _
        rw [out, outs]
      · intro other state differ
        exact trans ((confined op).frame state differ) (ih.frame _ differ)

end Confined
