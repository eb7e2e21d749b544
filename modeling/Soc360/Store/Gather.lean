import Soc360.Store.Machine
import Mathlib.Data.List.Induction
import Mathlib.Logic.Function.Basic
import Mathlib.Tactic.Common

set_option autoImplicit false

/-- Tasks that run side by side over one store. -/
structure Gather (Key Task Store : Type) where
  tasks : Key → Task
  store : Store

namespace Gather

variable {Key Task Store Choice : Type}

/-- The next step of a task, with the choice that the environment makes for it. -/
abbrev Next (Key Task Store Choice : Type) :=
  Key → Choice → Task → Store → Option (Task × Store)

/-- What one task does with the choices made for it when it has the store to itself. -/
def alone (next : Next Key Task Store Choice) (key : Key) :
    List Choice → Task → Store → Option (Task × Store)
  | [], task, store => some (task, store)
  | choice :: rest, task, store =>
      (next key choice task store).bind fun (task, store) => alone next key rest task store

/-- The part of the store that the step of each task depends on, by a relation between two
stores: the task cannot tell the first from the second, and other tasks keep it so. -/
structure Independent (next : Next Key Task Store Choice)
    (same : Key → Store → Store → Prop) : Prop where
  refl : ∀ key store, same key store store
  own : ∀ {key choice task store other task' store'}, same key store other →
    next key choice task store = some (task', store') →
      ∃ other', next key choice task other = some (task', other') ∧ same key store' other'
  others : ∀ {key mover choice task store other task' store'}, mover ≠ key →
    same key store other → next mover choice task store = some (task', store') →
      same key store' other

variable [DecidableEq Key]

def move (next : Next Key Task Store Choice) (state : Gather Key Task Store) (key : Key)
    (choice : Choice) : Option (Gather Key Task Store) :=
  (next key choice (state.tasks key) state.store).map fun (task, store) =>
    ⟨Function.update state.tasks key task, store⟩

/-- One step of one of the tasks at a time, in any order. -/
def machine (keys : List Key) (next : Next Key Task Store Choice) :
    Machine (Gather Key Task Store) (Key × Choice) where
  start _ := True
  step state label := if label.1 ∈ keys then state.move next label.1 label.2 else none

/-- The choices of a schedule for one task. -/
def choicesOf (key : Key) (schedule : List (Key × Choice)) : List Choice :=
  (schedule.filter (·.1 = key)).map (·.2)

section

variable {keys : List Key} {next : Next Key Task Store Choice} {state last : Gather Key Task Store}
  {schedule : List (Key × Choice)} {key : Key}

theorem choicesOf_cons_self (choice : Choice) :
    choicesOf key ((key, choice) :: schedule) = choice :: choicesOf key schedule := by
  simp [choicesOf]

theorem choicesOf_cons_other {mover : Key} (differ : mover ≠ key) (choice : Choice) :
    choicesOf key ((mover, choice) :: schedule) = choicesOf key schedule := by
  simp [choicesOf, differ]

theorem choicesOf_append (first second : List (Key × Choice)) :
    choicesOf key (first ++ second) = choicesOf key first ++ choicesOf key second := by
  simp [choicesOf]

theorem choicesOf_map_self (choices : List Choice) :
    choicesOf key (choices.map fun choice => (key, choice)) = choices := by
  induction choices with
  | nil => rfl
  | cons choice rest ih => rw [List.map_cons, choicesOf_cons_self, ih]

theorem choicesOf_map_other {mover : Key} (differ : mover ≠ key) (choices : List Choice) :
    choicesOf key (choices.map fun choice => (mover, choice)) = [] := by
  induction choices with
  | nil => rfl
  | cons choice rest ih => rw [List.map_cons, choicesOf_cons_other differ, ih]

theorem step_some {label : Key × Choice}
    (taken : (machine keys next).step state label = some last) :
    label.1 ∈ keys ∧ ∃ task store,
      next label.1 label.2 (state.tasks label.1) state.store = some (task, store) ∧
        last = ⟨Function.update state.tasks label.1 task, store⟩ := by
  simp only [machine] at taken
  split at taken
  next member =>
    obtain ⟨⟨task, store⟩, stepped, rfl⟩ := Option.map_eq_some_iff.mp taken
    exact ⟨member, task, store, stepped, rfl⟩
  next => cases taken

/-- A task that other tasks leave alone ends as it would by itself, on a store that looks the
same to it. -/
theorem Independent.alone {same : Key → Store → Store → Prop} (independent : Independent next same)
    {other : Store} (before : same key state.store other)
    (run : (machine keys next).exec state schedule = some last) :
    ∃ store, Gather.alone next key (choicesOf key schedule) (state.tasks key) other =
        some (last.tasks key, store) ∧ same key last.store store := by
  induction schedule generalizing state other with
  | nil =>
      cases run
      exact ⟨other, rfl, before⟩
  | cons label rest ih =>
      obtain ⟨middle, taken, run⟩ := Machine.exec_cons_some.mp run
      obtain ⟨_, task, store, stepped, rfl⟩ := step_some taken
      obtain ⟨mover, choice⟩ := label
      by_cases own : mover = key
      · subst own
        obtain ⟨other', stepped', after⟩ := independent.own before stepped
        obtain ⟨final, ended, agrees⟩ := ih after run
        refine ⟨final, ?_, agrees⟩
        rw [choicesOf_cons_self, Gather.alone, stepped', Option.bind_some]
        change Gather.alone next mover (choicesOf mover rest)
          (Function.update state.tasks mover task mover) other' = _ at ended
        rw [Function.update_self] at ended
        exact ended
      · have after := independent.others own before stepped
        obtain ⟨final, ended, agrees⟩ := ih after run
        refine ⟨final, ?_, agrees⟩
        rw [choicesOf_cons_other own]
        change Gather.alone next key (choicesOf key rest)
          (Function.update state.tasks mover task key) other = _ at ended
        rw [Function.update_of_ne (Ne.symm own)] at ended
        exact ended

/-- One task after the other is a schedule. -/
theorem exec_alone (member : key ∈ keys) {choices : List Choice} {task : Task} {store : Store}
    (ran : Gather.alone next key choices (state.tasks key) state.store = some (task, store)) :
    (machine keys next).exec state (choices.map fun choice => (key, choice)) =
      some ⟨Function.update state.tasks key task, store⟩ := by
  induction choices generalizing state with
  | nil =>
      cases ran
      rw [Function.update_eq_self]
      rfl
  | cons choice rest ih =>
      obtain ⟨⟨middle, between⟩, stepped, ran⟩ := Option.bind_eq_some_iff.mp ran
      have moved : (machine keys next).step state (key, choice) =
          some ⟨Function.update state.tasks key middle, between⟩ := by
        simp only [machine, move, if_pos member, stepped, Option.map_some]
      have rest_alone : Gather.alone next key rest
          (Function.update state.tasks key middle key) between = some (task, store) := by
        rw [Function.update_self]
        exact ran
      have rest_ran : (machine keys next).exec ⟨Function.update state.tasks key middle, between⟩
          (rest.map fun choice => (key, choice)) =
            some ⟨Function.update (Function.update state.tasks key middle) key task, store⟩ :=
        ih rest_alone
      rw [List.map_cons, Machine.exec_cons, moved, Option.bind_some, rest_ran]
      rw [Function.update_idem]

/-- Where every task can finish by itself, all of them can, each with the choices that it would
have made by itself. -/
theorem exec_completes (state : Gather Key Task Store) (settled : Task → Prop)
    (follows : Key → List Choice → Prop)
    (finishes : ∀ key ∈ keys, ∀ store, ∃ choices task store', follows key choices ∧
      Gather.alone next key choices (state.tasks key) store = some (task, store') ∧ settled task)
    (distinct : keys.Nodup) :
    ∃ schedule last, (machine keys next).exec state schedule = some last ∧
      ∀ key ∈ keys, settled (last.tasks key) ∧ follows key (choicesOf key schedule) := by
  have prefixes : ∀ done rest, done ++ rest = keys →
      ∃ schedule last, (machine keys next).exec state schedule = some last ∧
        (∀ key ∈ done, settled (last.tasks key) ∧ follows key (choicesOf key schedule)) ∧
        ∀ key, key ∉ done → last.tasks key = state.tasks key ∧ choicesOf key schedule = [] := by
    intro done
    induction done using List.reverseRecOn with
    | nil =>
        intro rest _
        exact ⟨[], state, rfl, fun key member => absurd member List.not_mem_nil,
          fun _ _ => ⟨rfl, rfl⟩⟩
    | append_singleton done key ih =>
        intro rest all
        have all' : done ++ (key :: rest) = keys := by simpa using all
        obtain ⟨schedule, middle, ran, finished, waiting⟩ := ih (key :: rest) all'
        have member : key ∈ keys := by rw [← all']; simp
        have new : key ∉ done := by
          rw [← all'] at distinct
          have apart := (List.nodup_append.mp distinct).2.2
          intro inside
          exact apart key inside key List.mem_cons_self rfl
        obtain ⟨choices, task, store, allowed, alone_ran, ended⟩ :=
          finishes key member middle.store
        rw [← (waiting key new).1] at alone_ran
        refine ⟨schedule ++ choices.map fun choice => (key, choice),
          ⟨Function.update middle.tasks key task, store⟩, ?_, ?_, ?_⟩
        · rw [Machine.exec_append, ran, Option.bind_some]
          exact exec_alone member alone_ran
        · intro other inside
          show settled (Function.update middle.tasks key task other) ∧ _
          rw [choicesOf_append]
          by_cases own : other = key
          · subst own
            rw [Function.update_self, (waiting other new).2, choicesOf_map_self, List.nil_append]
            exact ⟨ended, allowed⟩
          · have before : other ∈ done := by simpa [own] using inside
            rw [Function.update_of_ne own, choicesOf_map_other (Ne.symm own), List.append_nil]
            exact finished other before
        · intro other outside
          have apart : other ∉ done ∧ other ≠ key := by simpa using outside
          obtain ⟨kept, none_made⟩ := waiting other apart.1
          show Function.update middle.tasks key task other = _ ∧ _
          rw [choicesOf_append, choicesOf_map_other (Ne.symm apart.2), List.append_nil]
          rw [Function.update_of_ne apart.2]
          exact ⟨kept, none_made⟩
  obtain ⟨schedule, last, ran, finished, _⟩ := prefixes keys [] (List.append_nil keys)
  exact ⟨schedule, last, ran, finished⟩

end

end Gather
