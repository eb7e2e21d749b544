import Mathlib.Data.Rat.Defs
import Mathlib.Logic.Function.Basic
import Mathlib.Algebra.Order.Ring.Rat
import Mathlib.Tactic.Linarith

set_option autoImplicit false

/-! A store of keys with a time to live. Time is exact. -/

abbrev Time := ℚ

/-- A value, and when its key goes away, if it ever does. -/
structure Entry (Value : Type) where
  value : Value
  expiresAt : Option Time
  deriving DecidableEq, Repr

abbrev Expiring (Key Value : Type) := Key → Option (Entry Value)

namespace Expiring

variable {Key Value : Type}

def empty : Expiring Key Value := fun _ => none

/-- What is read of a key. -/
def get (store : Expiring Key Value) (key : Key) : Option Value := (store key).map Entry.value

/-- Time has come to `now`. -/
def sweep (now : Time) (store : Expiring Key Value) : Expiring Key Value := fun key =>
  (store key).filter fun entry => entry.expiresAt.all fun time => decide (now < time)

section

variable [DecidableEq Key]

/-- A write to a key that is there leaves its expiry. A new key has none. -/
def write (key : Key) (change : Option Value → Value) (store : Expiring Key Value) :
    Expiring Key Value :=
  Function.update store key
    (some ⟨change (store.get key), (store key).bind Entry.expiresAt⟩)

/-- `EXPIRE`, which does nothing to a key that is not there. -/
def expire (key : Key) (time : Time) (store : Expiring Key Value) : Expiring Key Value :=
  Function.update store key ((store key).map fun entry => ⟨entry.value, some time⟩)

/-- `SET` with `EX`: the key gets a new value and a new expiry. -/
def put (key : Key) (value : Value) (time : Time) (store : Expiring Key Value) :
    Expiring Key Value :=
  Function.update store key (some ⟨value, some time⟩)

/-- `DEL`. -/
def delete (key : Key) (store : Expiring Key Value) : Expiring Key Value :=
  Function.update store key none

end

/-- What holds of every expiry in the store. -/
def Each (holds : Time → Prop) (store : Expiring Key Value) : Prop :=
  ∀ key entry time, store key = some entry → entry.expiresAt = some time → holds time

/-- A key that is there and never goes away. -/
def Lasting (store : Expiring Key Value) (key : Key) : Prop :=
  ∃ entry, store key = some entry ∧ entry.expiresAt = none

instance (store : Expiring Key Value) (key : Key) : Decidable (store.Lasting key) :=
  decidable_of_iff ((store key).any fun entry => entry.expiresAt.isNone)
    (by simp [Lasting, Option.any_eq_true])

section

variable {store : Expiring Key Value} {key other : Key} {entry : Entry Value} {now time : Time}
  {holds weaker : Time → Prop} {change : Option Value → Value}

theorem sweep_some : store.sweep now key = some entry ↔
    store key = some entry ∧ ∀ time, entry.expiresAt = some time → now < time := by
  simp only [sweep, Option.filter_eq_some_iff, Option.all_eq_true, decide_eq_true_eq]

/-- What the sweep takes away has expired. -/
theorem sweep_none (found : store key = some entry) (gone : store.sweep now key = none) :
    ∃ time, entry.expiresAt = some time ∧ time ≤ now := by
  cases expires : entry.expiresAt with
  | none =>
      have kept : store.sweep now key = some entry := by
        apply sweep_some.mpr
        simp [found, expires]
      rw [gone] at kept
      cases kept
  | some time =>
      refine ⟨time, rfl, ?_⟩
      apply not_lt.mp
      intro ahead
      have kept : store.sweep now key = some entry := by
        apply sweep_some.mpr
        refine ⟨found, ?_⟩
        intro other same
        cases expires.symm.trans same
        exact ahead
      rw [gone] at kept
      cases kept

theorem Each.sweep (each : store.Each holds) : (store.sweep now).Each holds := by
  intro key entry time found expires
  exact each key entry time (sweep_some.mp found).1 expires

/-- The expiries that are left lie ahead. -/
theorem sweep_ahead : (store.sweep now).Each (now < ·) := by
  intro key entry time found expires
  exact (sweep_some.mp found).2 time expires

theorem Each.mono (each : store.Each holds) (implies : ∀ time, holds time → weaker time) :
    store.Each weaker := by
  intro key entry time found expires
  exact implies time (each key entry time found expires)

theorem Lasting.of_sweep (lasting : (store.sweep now).Lasting key) : store.Lasting key := by
  obtain ⟨entry, found, forever⟩ := lasting
  exact ⟨entry, (sweep_some.mp found).1, forever⟩

variable [DecidableEq Key]

@[simp] theorem write_self : store.write key change key =
    some ⟨change (store.get key), (store key).bind Entry.expiresAt⟩ := Function.update_self ..

@[simp] theorem write_other (differ : other ≠ key) : store.write key change other = store other :=
  Function.update_of_ne differ ..

@[simp] theorem expire_self : store.expire key time key =
    (store key).map fun entry => ⟨entry.value, some time⟩ := Function.update_self ..

@[simp] theorem expire_other (differ : other ≠ key) : store.expire key time other = store other :=
  Function.update_of_ne differ ..

@[simp] theorem put_self {value : Value} : store.put key value time key =
    some ⟨value, some time⟩ := Function.update_self ..

@[simp] theorem put_other {value : Value} (differ : other ≠ key) :
    store.put key value time other = store other :=
  Function.update_of_ne differ ..

@[simp] theorem delete_self : store.delete key key = none := Function.update_self ..

@[simp] theorem delete_other (differ : other ≠ key) : store.delete key other = store other :=
  Function.update_of_ne differ ..

theorem Each.write (each : store.Each holds) : (store.write key change).Each holds := by
  intro other entry time found expires
  by_cases same : other = key
  · subst same
    rw [write_self] at found
    cases found
    cases there : store other with
    | none => simp [there] at expires
    | some before =>
        simp only [there, Option.bind_some] at expires
        exact each other before time there expires
  · rw [write_other same] at found
    exact each other entry time found expires

theorem Each.expire (each : store.Each holds) (held : holds time) :
    (store.expire key time).Each holds := by
  intro other entry time' found expires
  by_cases same : other = key
  · subst same
    rw [expire_self] at found
    obtain ⟨before, _, rfl⟩ := Option.map_eq_some_iff.mp found
    cases expires
    exact held
  · rw [expire_other same] at found
    exact each other entry time' found expires

theorem Each.delete (each : store.Each holds) : (store.delete key).Each holds := by
  intro other entry time found expires
  by_cases same : other = key
  · subst same
    rw [delete_self] at found
    cases found
  · rw [delete_other same] at found
    exact each other entry time found expires

/-- A write makes a key last only if it is new. -/
theorem Lasting.of_write (lasting : (store.write key change).Lasting other) :
    store.Lasting other ∨ (other = key ∧ store key = none) := by
  obtain ⟨entry, found, forever⟩ := lasting
  by_cases same : other = key
  · subst same
    rw [write_self] at found
    cases found
    cases there : store other with
    | none => exact .inr ⟨rfl, rfl⟩
    | some before =>
        simp only [there, Option.bind_some] at forever
        exact .inl ⟨before, there, forever⟩
  · rw [write_other same] at found
    exact .inl ⟨entry, found, forever⟩

theorem Lasting.of_expire (lasting : (store.expire key time).Lasting other) :
    other ≠ key ∧ store.Lasting other := by
  obtain ⟨entry, found, forever⟩ := lasting
  by_cases same : other = key
  · subst same
    rw [expire_self] at found
    obtain ⟨_, _, rfl⟩ := Option.map_eq_some_iff.mp found
    cases forever
  · rw [expire_other same] at found
    exact ⟨same, entry, found, forever⟩

theorem Lasting.of_delete (lasting : (store.delete key).Lasting other) :
    other ≠ key ∧ store.Lasting other := by
  obtain ⟨entry, found, forever⟩ := lasting
  by_cases same : other = key
  · subst same
    rw [delete_self] at found
    cases found
  · rw [delete_other same] at found
    exact ⟨same, entry, found, forever⟩

end

end Expiring
