import Mathlib.Algebra.Order.Monoid.Unbundled.Basic
import Mathlib.Data.List.Sort

set_option autoImplicit false

/-! Calls that wait in turn for one of a number of slots. -/

namespace Slots

variable {Time : Type} [LinearOrder Time] [AddMonoid Time]

/-- When each call ends, given how long it takes: it begins when the first slot is free. `free` are
the times from which the slots are free, in order. -/
def finishes : List Time → List Time → List Time
  | _, [] => []
  | [], _ :: _ => []
  | first :: others, duration :: rest =>
      (first + duration) :: finishes (others.orderedInsert (· ≤ ·) (first + duration)) rest

/-- With `count` slots, all free at first. -/
def schedule (count : Nat) (durations : List Time) : List Time :=
  finishes (List.replicate count 0) durations

section

variable {free durations others : List Time}

/-- A call ends when it does whatever the calls after it take. -/
theorem finishes_before {index : Nat}
    (same : durations.take (index + 1) = others.take (index + 1)) :
    (finishes free durations)[index]? = (finishes free others)[index]? := by
  induction durations generalizing free others index with
  | nil =>
      cases others with
      | nil => rfl
      | cons other rest => cases same
  | cons duration rest ih =>
      cases others with
      | nil => cases same
      | cons other rest' =>
          rw [List.take_succ_cons, List.take_succ_cons] at same
          obtain ⟨rfl, rest_same⟩ := List.cons.inj same
          cases free with
          | nil => rfl
          | cons first slots =>
              rw [finishes, finishes]
              cases index with
              | zero => rfl
              | succ index =>
                  rw [List.getElem?_cons_succ, List.getElem?_cons_succ]
                  exact ih rest_same

/-- Free slots stay in front. -/
theorem orderedInsert_free (others : List Time) (count : Nat) {time : Time} (positive : 0 ≤ time) :
    ∃ later, (List.replicate count 0 ++ others).orderedInsert (· ≤ ·) time =
      List.replicate count 0 ++ later := by
  induction count with
  | zero => exact ⟨_, rfl⟩
  | succ count ih =>
      obtain ⟨later, shape⟩ := ih
      rw [List.replicate_succ, List.cons_append, List.orderedInsert]
      split
      next first =>
        refine ⟨0 :: others, ?_⟩
        have zeros : 0 :: List.replicate (count + 1) (0 : Time) =
            List.replicate (count + 1) 0 ++ [0] := by
          rw [← List.replicate_succ, List.replicate_succ']
        rw [le_antisymm first positive, ← List.cons_append, ← List.replicate_succ,
          ← List.cons_append, zeros, List.append_assoc, List.singleton_append]
      next =>
        refine ⟨later, ?_⟩
        rw [shape, List.cons_append]

/-- Where there is a slot for each call, none waits. -/
theorem finishes_roomy (others : List Time) {count : Nat}
    (positive : ∀ duration ∈ durations, 0 ≤ duration) (room : durations.length ≤ count) :
    finishes (List.replicate count 0 ++ others) durations = durations := by
  induction durations generalizing count others with
  | nil => rw [finishes]
  | cons duration rest ih =>
      cases count with
      | zero => cases room
      | succ count =>
          obtain ⟨later, shape⟩ := orderedInsert_free others count
            (positive duration List.mem_cons_self)
          rw [List.replicate_succ, List.cons_append, finishes, zero_add, shape,
            ih later (fun other member => positive other (List.mem_cons_of_mem _ member))
              (Nat.le_of_succ_le_succ room)]

theorem schedule_roomy {count : Nat} (positive : ∀ duration ∈ durations, 0 ≤ duration)
    (room : durations.length ≤ count) : schedule count durations = durations := by
  have whole := finishes_roomy [] positive room
  rwa [List.append_nil] at whole

end

end Slots
