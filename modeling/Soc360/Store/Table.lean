import Mathlib.Logic.Function.Basic
import Mathlib.Data.List.Nodup
import Mathlib.Data.List.Perm.Subperm

set_option autoImplicit false

/-- A count over distinct keys does not grow when every key counted now was counted before. -/
theorem List.countP_le_of_subset {Key : Type} {before after : List Key}
    {matched matching : Key → Bool} (distinct : after.Nodup)
    (counted : ∀ key ∈ after, matching key = true → key ∈ before ∧ matched key = true) :
    after.countP matching ≤ before.countP matched := by
  rw [List.countP_eq_length_filter, List.countP_eq_length_filter]
  have subset : after.filter matching ⊆ before.filter matched := by
    intro key member
    have inside := List.mem_filter.mp member
    exact List.mem_filter.mpr (counted key inside.1 inside.2)
  have subperm := (distinct.filter matching).subperm subset
  exact subperm.length_le

/-- A primary key of a table: never inserted, holding a row, or deleted for good.
Keys are random identifiers, so a deleted key is never inserted again. -/
inductive Slot (Row : Type) where
  | fresh
  | live (row : Row)
  | gone

namespace Slot

variable {Row : Type}

/-- What a query sees at the key. -/
def row? : Slot Row → Option Row
  | live row => some row
  | _ => none

@[simp] theorem row?_live (row : Row) : (live row).row? = some row := rfl
@[simp] theorem row?_fresh : (fresh : Slot Row).row? = none := rfl
@[simp] theorem row?_gone : (gone : Slot Row).row? = none := rfl

theorem row?_eq_some {slot : Slot Row} {row : Row} : slot.row? = some row ↔ slot = live row := by
  cases slot <;> simp [row?]

/-- Whether the key holds a row that matches. -/
def satisfies (slot : Slot Row) (matching : Row → Bool) : Bool :=
  match slot with
  | live row => matching row
  | _ => false

@[simp] theorem satisfies_live (row : Row) (matching : Row → Bool) :
    (live row).satisfies matching = matching row := rfl
@[simp] theorem satisfies_fresh (matching : Row → Bool) :
    (fresh : Slot Row).satisfies matching = false := rfl
@[simp] theorem satisfies_gone (matching : Row → Bool) :
    (gone : Slot Row).satisfies matching = false := rfl

theorem satisfies_iff {slot : Slot Row} {matching : Row → Bool} :
    slot.satisfies matching = true ↔ ∃ row, slot = live row ∧ matching row = true := by
  cases slot <;> simp

end Slot

/-- A table: the keys ever inserted, newest first, and what each key holds. -/
structure Table (Key Row : Type) where
  keys : List Key
  slot : Key → Slot Row

namespace Table

variable {Key Row : Type}

def empty : Table Key Row := ⟨[], fun _ => .fresh⟩

/-- The row stored under a key, if any. -/
def find (table : Table Key Row) (key : Key) : Option Row := (table.slot key).row?

/-- `SELECT count(*)` with a predicate on the row. -/
def count (table : Table Key Row) (matching : Row → Bool) : Nat :=
  table.keys.countP fun key => (table.slot key).satisfies matching

/-- One conditional `UPDATE`: `change` gives the new row where the predicate
matches. No key appears or disappears. -/
def update (table : Table Key Row) (change : Key → Row → Option Row) : Table Key Row :=
  { table with slot := fun key =>
      match table.slot key with
      | .live row => .live ((change key row).getD row)
      | other => other }

/-- The rowcount of the same statement. -/
def rowcount (table : Table Key Row) (change : Key → Row → Option Row) : Nat :=
  table.keys.countP fun key => (table.slot key).satisfies fun row => (change key row).isSome

variable [DecidableEq Key]

def insert (table : Table Key Row) (key : Key) (row : Row) : Table Key Row :=
  ⟨key :: table.keys, Function.update table.slot key (.live row)⟩

def delete (table : Table Key Row) (key : Key) : Table Key Row :=
  { table with slot := Function.update table.slot key .gone }

omit [DecidableEq Key] in
theorem slot_update (table : Table Key Row) (change : Key → Row → Option Row) (key : Key) :
    (table.update change).slot key =
      match table.slot key with
      | .live row => .live ((change key row).getD row)
      | other => other := rfl

omit [DecidableEq Key] in
theorem find_update (table : Table Key Row) (change : Key → Row → Option Row) (key : Key) :
    (table.update change).find key =
      (table.find key).map fun row => (change key row).getD row := by
  rw [find, find, slot_update]
  cases table.slot key <;> rfl

theorem find_insert {table : Table Key Row} {inserted key : Key} {row : Row} :
    (table.insert inserted row).find key =
      if key = inserted then some row else table.find key := by
  rw [find, insert]
  by_cases same : key = inserted
  · subst same
    simp
  · rw [if_neg same]
    change (Function.update table.slot inserted (Slot.live row) key).row? = _
    rw [Function.update_of_ne same]
    rfl

/-- Keys are distinct and every key that was ever used is listed. -/
structure Listed (table : Table Key Row) : Prop where
  nodup : table.keys.Nodup
  known : ∀ key, table.slot key ≠ .fresh → key ∈ table.keys

omit [DecidableEq Key] in
theorem Listed.empty : Listed (Table.empty : Table Key Row) :=
  ⟨List.nodup_nil, fun _ used => absurd rfl used⟩

theorem Listed.insert {table : Table Key Row} (listed : Listed table) {key : Key} {row : Row}
    (new : key ∉ table.keys) : Listed (table.insert key row) := by
  refine ⟨List.nodup_cons.mpr ⟨new, listed.nodup⟩, ?_⟩
  intro other used
  by_cases same : other = key
  · exact same ▸ List.mem_cons_self
  · refine List.mem_cons_of_mem _ (listed.known other ?_)
    simpa only [Table.insert, Function.update_of_ne same] using used

theorem Listed.delete {table : Table Key Row} (listed : Listed table) {key : Key}
    (member : key ∈ table.keys) : Listed (table.delete key) := by
  refine ⟨listed.nodup, ?_⟩
  intro other used
  by_cases same : other = key
  · exact same ▸ member
  · refine listed.known other ?_
    simpa only [Table.delete, Function.update_of_ne same] using used

omit [DecidableEq Key] in
theorem Listed.update {table : Table Key Row} (listed : Listed table)
    (change : Key → Row → Option Row) : Listed (table.update change) := by
  refine ⟨listed.nodup, ?_⟩
  intro other used
  refine listed.known other ?_
  intro untouched
  exact used (by rw [slot_update, untouched])

end Table

/-- A session with an open transaction: its statements act on `working`. -/
structure Session (Key Row : Type) where
  committed : Table Key Row
  working : Table Key Row

namespace Session

variable {Key Row : Type}

def start (table : Table Key Row) : Session Key Row := ⟨table, table⟩

def commit (session : Session Key Row) : Session Key Row := start session.working

def rollback (session : Session Key Row) : Session Key Row := start session.committed

def update (session : Session Key Row) (change : Key → Row → Option Row) : Session Key Row :=
  { session with working := session.working.update change }

end Session

/-! What a column of texts holds. -/

/-- PostgreSQL has no NUL. -/
def Char.storable (char : Char) : Bool := char.toNat != 0

def String.storable (text : String) : Bool := text.toList.all Char.storable

theorem String.storable_iff {text : String} : text.storable = true ↔ '\x00' ∉ text.toList := by
  rw [String.storable, List.all_eq_true]
  constructor
  · intro stored nul
    exact absurd (stored '\x00' nul) (by decide)
  · intro absent char member
    apply bne_iff_ne.mpr
    intro zero
    have nul : char = '\x00' := Char.toNat_inj.mp zero
    rw [nul] at member
    exact absent member
