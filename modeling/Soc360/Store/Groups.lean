import Mathlib.Algebra.GroupWithZero.Nat
import Mathlib.Data.List.Dedup
import Mathlib.Data.List.Perm.Basic

set_option autoImplicit false

/-! Rows counted by a key: `GROUP BY` and the lookups of its answer. -/

namespace Groups

variable {Row Key : Type} [DecidableEq Key]

/-- `SELECT key, count(*) … GROUP BY key`, in no particular order. -/
def counts (key : Row → Key) (rows : List Row) : List (Key × Nat) :=
  (rows.map key).dedup.map fun group => (group, (rows.map key).count group)

/-- `dict(groups).get(key, 0)`. -/
def get (groups : List (Key × Nat)) (group : Key) : Nat := (groups.lookup group).getD 0

section

variable {key : Row → Key} {rows : List Row} {group : Key} {keys : List Key}

theorem lookup_tagged {size : Key → Nat} (member : group ∈ keys) :
    (keys.map fun other => (other, size other)).lookup group = some (size group) := by
  induction keys with
  | nil => cases member
  | cons first rest ih =>
    rw [List.map_cons, List.lookup_cons]
    by_cases same : group = first
    · subst same
      simp
    · have apart : (group == first) = false := beq_eq_false_iff_ne.mpr same
      rw [apart]
      exact ih ((List.mem_cons.mp member).resolve_left same)

theorem lookup_untagged {size : Key → Nat} (foreign : group ∉ keys) :
    (keys.map fun other => (other, size other)).lookup group = none := by
  induction keys with
  | nil => rfl
  | cons first rest ih =>
    rw [List.mem_cons, not_or] at foreign
    have apart : (group == first) = false := beq_eq_false_iff_ne.mpr foreign.1
    rw [List.map_cons, List.lookup_cons, apart]
    exact ih foreign.2

/-- A group holds the rows with its key, and no group stands for none of them. -/
theorem get_counts (key : Row → Key) (rows : List Row) (group : Key) :
    get (counts key rows) group = rows.countP fun row => key row == group := by
  have total : (rows.map key).count group = rows.countP fun row => key row == group := by
    rw [List.count, List.countP_map]
    rfl
  by_cases member : group ∈ rows.map key
  · rw [get, counts, lookup_tagged (List.mem_dedup.mpr member), Option.getD_some, total]
  · rw [get, counts, lookup_untagged fun listed => member (List.mem_dedup.mp listed), ← total,
      List.count_eq_zero_of_not_mem member]
    rfl

/-- A key apart from the others counts its rows apart from theirs. -/
theorem countP_insert {first : Key} (apart : first ∉ keys) (rows : List Row) :
    (rows.countP fun row => key row == first) + (rows.countP fun row => decide (key row ∈ keys)) =
      rows.countP fun row => decide (key row ∈ first :: keys) := by
  induction rows with
  | nil => rfl
  | cons row rows ih =>
    rw [List.countP_cons, List.countP_cons, List.countP_cons, ← ih]
    by_cases same : key row = first
    · simp [same, apart]
      omega
    · simp [same]
      omega

/-- Distinct keys share out the rows that have one of them. -/
theorem sum_counts {meets : Row → Bool} (distinct : keys.Nodup)
    (inside : ∀ row ∈ rows, meets row = true ↔ key row ∈ keys) :
    (keys.map (get (counts key rows))).sum = rows.countP meets := by
  have groups : keys.map (get (counts key rows)) =
      keys.map fun group => rows.countP fun row => key row == group :=
    List.map_congr_left fun group _ => get_counts key rows group
  have members : rows.countP meets = rows.countP fun row => decide (key row ∈ keys) := by
    apply List.countP_congr
    intro row member
    rw [inside row member, decide_eq_true_eq]
  rw [groups, members]
  clear groups members inside
  induction keys with
  | nil => simp
  | cons first rest ih =>
    obtain ⟨apart, distinct⟩ := List.nodup_cons.mp distinct
    rw [List.map_cons, List.sum_cons, ih distinct, countP_insert apart]

theorem get_perm {others : List Row} (perm : rows.Perm others) :
    get (counts key rows) = get (counts key others) := by
  funext group
  rw [get_counts, get_counts]
  exact perm.countP_eq _

end

end Groups
