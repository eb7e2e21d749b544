import Mathlib.Logic.Basic

set_option autoImplicit false

/-- A machine that takes one labelled step at a time. The label resolves every
choice of the scheduler, the environment and the faults, so a step is a partial
function and a whole run can be evaluated. -/
structure Machine (State Label : Type) where
  start : State → Prop
  step : State → Label → Option State

namespace Machine

variable {State Label : Type}

/-- The state after a list of labels, if every one of them was enabled. -/
def exec (m : Machine State Label) : State → List Label → Option State
  | state, [] => some state
  | state, label :: rest => (m.step state label).bind fun next => m.exec next rest

@[simp] theorem exec_nil (m : Machine State Label) (state : State) :
    m.exec state [] = some state := rfl

theorem exec_cons (m : Machine State Label) (state : State) (label : Label) (rest : List Label) :
    m.exec state (label :: rest) = (m.step state label).bind fun next => m.exec next rest := rfl

theorem exec_append (m : Machine State Label) (state : State) (first second : List Label) :
    m.exec state (first ++ second) =
      (m.exec state first).bind fun next => m.exec next second := by
  induction first generalizing state with
  | nil => rfl
  | cons label rest ih =>
      simp only [List.cons_append, exec_cons, Option.bind_assoc]
      congr 1
      funext next
      exact ih next

theorem exec_cons_some {m : Machine State Label} {state last : State} {label : Label}
    {rest : List Label} :
    m.exec state (label :: rest) = some last ↔
      ∃ next, m.step state label = some next ∧ m.exec next rest = some last := by
  rw [exec_cons, Option.bind_eq_some_iff]

/-- The states of the runs all of whose steps meet `allowed`. -/
inductive ReachableBy (m : Machine State Label) (allowed : State → Label → Prop) : State → Prop
  | start {state : State} (begins : m.start state) : ReachableBy m allowed state
  | step {state next : State} {label : Label} (before : ReachableBy m allowed state)
      (meets : allowed state label) (taken : m.step state label = some next) :
      ReachableBy m allowed next

/-- The states of all runs. -/
abbrev Reachable (m : Machine State Label) : State → Prop :=
  m.ReachableBy fun _ _ => True

/-- The induction every safety result of this development rests on. A step may use
that the state it leaves is itself reachable. -/
theorem ReachableBy.invariant {m : Machine State Label} {allowed : State → Label → Prop}
    {inv : State → Prop} (initial : ∀ state, m.start state → inv state)
    (preserved : ∀ state next label, m.ReachableBy allowed state → inv state →
      allowed state label → m.step state label = some next → inv next)
    {state : State} (reached : m.ReachableBy allowed state) : inv state := by
  induction reached with
  | start begins => exact initial _ begins
  | step before meets taken ih => exact preserved _ _ _ before ih meets taken

theorem ReachableBy.mono {m : Machine State Label} {allowed weaker : State → Label → Prop}
    (implies : ∀ state label, allowed state label → weaker state label) {state : State}
    (reached : m.ReachableBy allowed state) : m.ReachableBy weaker state := by
  induction reached with
  | start begins => exact .start begins
  | step _ meets taken ih => exact .step ih (implies _ _ meets) taken

theorem ReachableBy.reachable {m : Machine State Label} {allowed : State → Label → Prop}
    {state : State} (reached : m.ReachableBy allowed state) : m.Reachable state :=
  reached.mono fun _ _ _ => trivial

/-- Every step of a list of labels meets a condition where it is taken. -/
def Allows (m : Machine State Label) (allowed : State → Label → Prop) : State → List Label → Prop
  | _, [] => True
  | state, label :: rest =>
      allowed state label ∧ ∀ next, m.step state label = some next → m.Allows allowed next rest

instance decidableAllows (m : Machine State Label) (allowed : State → Label → Prop)
    [∀ state label, Decidable (allowed state label)] :
    ∀ (state : State) (labels : List Label), Decidable (m.Allows allowed state labels)
  | _, [] => .isTrue trivial
  | state, label :: rest =>
      match taken : m.step state label with
      | none => decidable_of_iff (allowed state label) (by simp [Allows, taken])
      | some next =>
          have := decidableAllows m allowed next rest
          decidable_of_iff (allowed state label ∧ m.Allows allowed next rest)
            (by simp [Allows, taken])

theorem ReachableBy.exec {m : Machine State Label} {allowed : State → Label → Prop}
    {state last : State} {labels : List Label} (reached : m.ReachableBy allowed state)
    (allows : m.Allows allowed state labels) (run : m.exec state labels = some last) :
    m.ReachableBy allowed last := by
  induction labels generalizing state with
  | nil =>
      cases run
      exact reached
  | cons label rest ih =>
      obtain ⟨next, taken, run⟩ := exec_cons_some.mp run
      exact ih (.step reached allows.1 taken) (allows.2 next taken) run

/-- A property that every allowed step keeps holds at the end of an allowed run. -/
theorem Allows.preserves {m : Machine State Label} {allowed : State → Label → Prop}
    {inv : State → Prop} (preserved : ∀ state next label, inv state → allowed state label →
      m.step state label = some next → inv next)
    {state last : State} {labels : List Label} (allows : m.Allows allowed state labels)
    (holds : inv state) (run : m.exec state labels = some last) : inv last := by
  induction labels generalizing state with
  | nil =>
      cases run
      exact holds
  | cons label rest ih =>
      obtain ⟨next, taken, run⟩ := exec_cons_some.mp run
      exact ih (allows.2 next taken) (preserved _ _ _ holds allows.1 taken) run

/-- The steps of an allowed run are allowed where they are taken. -/
theorem Allows.at {m : Machine State Label} {allowed : State → Label → Prop}
    {state middle : State} {first rest : List Label} {label : Label}
    (allows : m.Allows allowed state (first ++ label :: rest))
    (run : m.exec state first = some middle) : allowed middle label := by
  induction first generalizing state with
  | nil =>
      cases run
      exact allows.1
  | cons head tail ih =>
      obtain ⟨next, taken, run⟩ := exec_cons_some.mp run
      exact ih (allows.2 next taken) run

theorem Allows.append {m : Machine State Label} {allowed : State → Label → Prop}
    {state middle : State} {first rest : List Label} (before : m.Allows allowed state first)
    (run : m.exec state first = some middle) (after : m.Allows allowed middle rest) :
    m.Allows allowed state (first ++ rest) := by
  induction first generalizing state with
  | nil =>
      cases run
      exact after
  | cons label tail ih =>
      obtain ⟨next, taken, run⟩ := exec_cons_some.mp run
      refine ⟨before.1, ?_⟩
      intro other reached
      have same : next = other := Option.some.inj (taken.symm.trans reached)
      subst same
      exact ih (before.2 next taken) run

/-- Labels that meet the condition everywhere. -/
theorem allows_of_forall (m : Machine State Label) {allowed : State → Label → Prop}
    (state : State) {labels : List Label}
    (meets : ∀ label ∈ labels, ∀ state, allowed state label) : m.Allows allowed state labels := by
  induction labels generalizing state with
  | nil => trivial
  | cons label rest ih =>
      refine ⟨meets label List.mem_cons_self state, ?_⟩
      intro next _
      exact ih next fun other member => meets other (List.mem_cons_of_mem _ member)

theorem allows_all (m : Machine State Label) (state : State) (labels : List Label) :
    m.Allows (fun _ _ => True) state labels :=
  m.allows_of_forall state fun _ _ _ => trivial

theorem Reachable.exec {m : Machine State Label} {state last : State} {labels : List Label}
    (reached : m.Reachable state) (run : m.exec state labels = some last) :
    m.Reachable last :=
  ReachableBy.exec reached (m.allows_all state labels) run

/-- A property kept by every single step is kept by every continuation of a run. -/
theorem exec_preserves {m : Machine State Label} (inv : State → Prop)
    (preserved : ∀ state next label, inv state → m.step state label = some next → inv next)
    {state last : State} {labels : List Label} (holds : inv state)
    (run : m.exec state labels = some last) : inv last := by
  induction labels generalizing state with
  | nil =>
      cases run
      exact holds
  | cons label rest ih =>
      obtain ⟨next, taken, run⟩ := exec_cons_some.mp run
      exact ih (preserved _ _ _ holds taken) run

end Machine
