import Mathlib.Data.List.Count
import Soc360.Store.Table

set_option autoImplicit false

/-- How a named change acts on a row: `none` where its `WHERE` clause does not match. -/
class RowAction (Change Row : Type) where
  act : Change → Row → Option Row

/-- What one statement does to one key. -/
inductive Effect (Row Change : Type) where
  | insert (row : Row)
  | change (how : Change)
  | delete

namespace Effect

variable {Row Change Key : Type}

/-- The effects of a mixed list that concern one key. -/
def onKey [DecidableEq Key] (key : Key) (effects : List (Key × Effect Row Change)) :
    List (Effect Row Change) :=
  effects.filterMap fun entry => if entry.1 = key then some entry.2 else none

section

variable [DecidableEq Key]

@[simp] theorem onKey_nil (key : Key) :
    onKey key ([] : List (Key × Effect Row Change)) = [] := rfl

theorem onKey_append (key : Key) (first second : List (Key × Effect Row Change)) :
    onKey key (first ++ second) = onKey key first ++ onKey key second :=
  List.filterMap_append ..

theorem onKey_snoc_same (key : Key) (first : List (Key × Effect Row Change))
    (effect : Effect Row Change) :
    onKey key (first ++ [(key, effect)]) = onKey key first ++ [effect] := by
  unfold onKey
  simp

theorem onKey_snoc_other {key other : Key} (differ : other ≠ key)
    (first : List (Key × Effect Row Change)) (effect : Effect Row Change) :
    onKey key (first ++ [(other, effect)]) = onKey key first := by
  unfold onKey
  simp [differ]

theorem mem_onKey {key : Key} {effects : List (Key × Effect Row Change)}
    {effect : Effect Row Change} : effect ∈ onKey key effects ↔ (key, effect) ∈ effects := by
  unfold onKey
  simp only [List.mem_filterMap, Option.ite_none_right_eq_some, Option.some.injEq, Prod.exists]
  constructor
  · rintro ⟨_, _, member, rfl, rfl⟩
    exact member
  · intro member
    exact ⟨key, effect, member, rfl, rfl⟩

theorem onKey_eq_nil {key : Key} {effects : List (Key × Effect Row Change)}
    (absent : ∀ effect, (key, effect) ∉ effects) : onKey key effects = [] := by
  rw [List.eq_nil_iff_forall_not_mem]
  intro effect member
  exact absent effect (mem_onKey.mp member)

end

variable [RowAction Change Row]

def apply : Effect Row Change → Slot Row → Option (Slot Row)
  | insert row, .fresh => some (.live row)
  | change how, .live row => (RowAction.act how row).map .live
  | delete, .live _ => some .gone
  | _, _ => none

theorem apply_insert_some {row : Row} {slot next : Slot Row} :
    (insert row : Effect Row Change).apply slot = some next ↔
      slot = .fresh ∧ next = .live row := by
  unfold apply
  cases slot <;> simp [eq_comm (a := next)]

theorem apply_change_some {how : Change} {slot next : Slot Row} :
    (change how).apply slot = some next ↔
      ∃ row row', slot = .live row ∧ RowAction.act how row = some row' ∧ next = .live row' := by
  unfold apply
  cases slot <;> simp [eq_comm (a := next)]

theorem apply_delete_some {slot next : Slot Row} :
    (delete : Effect Row Change).apply slot = some next ↔
      (∃ row, slot = .live row) ∧ next = .gone := by
  unfold apply
  cases slot <;> simp [eq_comm (a := next)]

theorem apply_ne_fresh {effect : Effect Row Change} {slot next : Slot Row}
    (applied : effect.apply slot = some next) : next ≠ .fresh := by
  cases effect with
  | insert row =>
      obtain ⟨_, rfl⟩ := apply_insert_some.mp applied
      simp
  | change how =>
      obtain ⟨_, row', _, _, rfl⟩ := apply_change_some.mp applied
      simp
  | delete =>
      obtain ⟨_, rfl⟩ := apply_delete_some.mp applied
      simp

/-- A sequential history of one key. -/
def replay : List (Effect Row Change) → Slot Row → Option (Slot Row)
  | [], slot => some slot
  | effect :: rest, slot => (effect.apply slot).bind (replay rest)

@[simp] theorem replay_nil (slot : Slot Row) :
    replay ([] : List (Effect Row Change)) slot = some slot := rfl

theorem replay_append (first second : List (Effect Row Change)) (slot : Slot Row) :
    replay (first ++ second) slot = (replay first slot).bind (replay second) := by
  induction first generalizing slot with
  | nil => rfl
  | cons effect rest ih =>
      simp only [List.cons_append, replay, Option.bind_assoc]
      congr 1
      funext next
      exact ih next

theorem replay_snoc (first : List (Effect Row Change)) (last : Effect Row Change)
    (slot : Slot Row) :
    replay (first ++ [last]) slot = (replay first slot).bind last.apply := by
  rw [replay_append]
  congr 1
  funext next
  simp [replay]

end Effect

/-- Rows under READ COMMITTED with row locks. A transaction works on private drafts
of the rows it has locked, every other row is read as last committed, and a commit
publishes the drafts at once. `log` keeps what each commit published. -/
structure Ledger (Txn Key Row Change : Type) where
  table : Table Key Row
  owner : Key → Option Txn
  draft : Key → Slot Row
  effects : Txn → List (Key × Effect Row Change)
  log : List (Txn × List (Key × Effect Row Change))

namespace Ledger

variable {Txn Key Row Change : Type}

def empty : Ledger Txn Key Row Change :=
  ⟨.empty, fun _ => none, fun _ => .fresh, fun _ => [], []⟩

/-- The effects of all commits, oldest first. -/
def published (ledger : Ledger Txn Key Row Change) : List (Key × Effect Row Change) :=
  ledger.log.flatMap (·.2)

/-- No other transaction holds the row's lock. -/
def Unblocked (ledger : Ledger Txn Key Row Change) (txn : Txn) (key : Key) : Prop :=
  ledger.owner key = none ∨ ledger.owner key = some txn

theorem Unblocked.foreign {ledger : Ledger Txn Key Row Change} {txn other : Txn} {key : Key}
    (unblocked : ledger.Unblocked txn key) (differ : other ≠ txn) :
    ledger.owner key ≠ some other := by
  rcases unblocked with none | same
  · simp [none]
  · simpa [same] using Ne.symm differ

variable [DecidableEq Txn]

instance (ledger : Ledger Txn Key Row Change) (txn : Txn) (key : Key) :
    Decidable (ledger.Unblocked txn key) :=
  inferInstanceAs (Decidable (_ ∨ _))

/-- A key as a statement of the transaction sees it. -/
def view (ledger : Ledger Txn Key Row Change) (txn : Txn) (key : Key) : Slot Row :=
  if ledger.owner key = some txn then ledger.draft key else ledger.table.slot key

/-- `SELECT count(*)` in the transaction. -/
def count (ledger : Ledger Txn Key Row Change) (txn : Txn) (matching : Row → Bool) : Nat :=
  ledger.table.keys.countP fun key => (ledger.view txn key).satisfies matching

theorem view_owned {ledger : Ledger Txn Key Row Change} {txn : Txn} {key : Key}
    (owned : ledger.owner key = some txn) : ledger.view txn key = ledger.draft key := by
  rw [view, if_pos owned]

theorem view_foreign {ledger : Ledger Txn Key Row Change} {txn : Txn} {key : Key}
    (foreign : ledger.owner key ≠ some txn) :
    ledger.view txn key = ledger.table.slot key := by
  rw [view, if_neg foreign]

/-- Publish the drafts of a transaction and release its locks. -/
def commit (ledger : Ledger Txn Key Row Change) (txn : Txn) : Ledger Txn Key Row Change where
  table := { ledger.table with slot := ledger.view txn }
  owner := fun key => if ledger.owner key = some txn then none else ledger.owner key
  draft := ledger.draft
  effects := Function.update ledger.effects txn []
  log := ledger.log ++ [(txn, ledger.effects txn)]

/-- Drop the drafts of a transaction and release its locks. -/
def rollback (ledger : Ledger Txn Key Row Change) (txn : Txn) : Ledger Txn Key Row Change :=
  { ledger with
    owner := fun key => if ledger.owner key = some txn then none else ledger.owner key
    effects := Function.update ledger.effects txn [] }

theorem published_commit (ledger : Ledger Txn Key Row Change) (txn : Txn) :
    (ledger.commit txn).published = ledger.published ++ ledger.effects txn := by
  simp [published, commit]

theorem view_commit_self (ledger : Ledger Txn Key Row Change) (txn : Txn) :
    (ledger.commit txn).view txn = ledger.view txn := by
  funext key
  simp only [view, commit]
  by_cases owned : ledger.owner key = some txn <;> simp [owned]

theorem view_commit_other (ledger : Ledger Txn Key Row Change) {txn other : Txn}
    (differ : other ≠ txn) (key : Key) :
    (ledger.commit txn).view other key =
      if ledger.owner key = some other then ledger.draft key else ledger.view txn key := by
  by_cases owned : ledger.owner key = some other
  · simp [view, commit, owned, differ]
  · have foreign : (ledger.commit txn).owner key ≠ some other := by
      simp only [commit]
      split
      · simp
      · exact owned
    rw [view_foreign foreign, if_neg owned]
    rfl

theorem view_rollback_self (ledger : Ledger Txn Key Row Change) (txn : Txn) :
    (ledger.rollback txn).view txn = ledger.table.slot := by
  funext key
  simp only [view, rollback]
  by_cases owned : ledger.owner key = some txn <;> simp [owned]

theorem view_rollback_other (ledger : Ledger Txn Key Row Change) {txn other : Txn}
    (differ : other ≠ txn) : (ledger.rollback txn).view other = ledger.view other := by
  funext key
  simp only [view, rollback]
  by_cases owned : ledger.owner key = some other
  · simp [owned, differ]
  · by_cases mine : ledger.owner key = some txn <;>
      simp [owned, mine, Ne.symm differ]

variable [DecidableEq Key]

/-- `SELECT … FOR UPDATE` of one row. `none` while another transaction holds it. -/
def lock (ledger : Ledger Txn Key Row Change) (txn : Txn) (key : Key) :
    Option (Ledger Txn Key Row Change) :=
  if ledger.Unblocked txn key then
    some { ledger with
      owner := Function.update ledger.owner key (some txn)
      draft := Function.update ledger.draft key (ledger.view txn key) }
  else none

/-- The effects committed on a key, oldest first. -/
def history (ledger : Ledger Txn Key Row Change) (key : Key) : List (Effect Row Change) :=
  Effect.onKey key ledger.published

/-- The effects a transaction has pending on a key. -/
def pending (ledger : Ledger Txn Key Row Change) (txn : Txn) (key : Key) :
    List (Effect Row Change) :=
  Effect.onKey key (ledger.effects txn)

theorem lock_some {ledger next : Ledger Txn Key Row Change} {txn : Txn} {key : Key}
    (locked : ledger.lock txn key = some next) :
    ledger.Unblocked txn key ∧ next = { ledger with
      owner := Function.update ledger.owner key (some txn)
      draft := Function.update ledger.draft key (ledger.view txn key) } := by
  unfold lock at locked
  split at locked
  next unblocked => exact ⟨unblocked, (Option.some.inj locked).symm⟩
  next => cases locked

/-- A lock alone changes what no transaction sees. -/
theorem view_lock {ledger next : Ledger Txn Key Row Change} {txn : Txn} {key : Key}
    (locked : ledger.lock txn key = some next) : next.view = ledger.view := by
  obtain ⟨unblocked, rfl⟩ := lock_some locked
  funext other place
  by_cases same : place = key
  · subst same
    by_cases mine : other = txn
    · subst mine
      simp [view]
    · simp [view, Ne.symm mine, unblocked.foreign mine]
  · simp [view, same]

theorem history_commit (ledger : Ledger Txn Key Row Change) (txn : Txn) (key : Key) :
    (ledger.commit txn).history key = ledger.history key ++ ledger.pending txn key := by
  rw [history, published_commit, Effect.onKey_append]
  rfl

theorem pending_commit_self (ledger : Ledger Txn Key Row Change) (txn : Txn) (key : Key) :
    (ledger.commit txn).pending txn key = [] := by
  simp [pending, commit]

theorem pending_commit_other (ledger : Ledger Txn Key Row Change) {txn other : Txn}
    (differ : other ≠ txn) (key : Key) :
    (ledger.commit txn).pending other key = ledger.pending other key := by
  simp [pending, commit, differ]

theorem pending_rollback_self (ledger : Ledger Txn Key Row Change) (txn : Txn) (key : Key) :
    (ledger.rollback txn).pending txn key = [] := by
  simp [pending, rollback]

theorem pending_rollback_other (ledger : Ledger Txn Key Row Change) {txn other : Txn}
    (differ : other ≠ txn) (key : Key) :
    (ledger.rollback txn).pending other key = ledger.pending other key := by
  simp [pending, rollback, differ]

variable [RowAction Change Row]

/-- A statement that writes one row it matches: it takes the lock first. -/
def write (ledger : Ledger Txn Key Row Change) (txn : Txn) (key : Key)
    (effect : Effect Row Change) : Option (Ledger Txn Key Row Change) :=
  if ledger.Unblocked txn key then
    (effect.apply (ledger.view txn key)).map fun slot => { ledger with
      owner := Function.update ledger.owner key (some txn)
      draft := Function.update ledger.draft key slot
      effects := Function.update ledger.effects txn (ledger.effects txn ++ [(key, effect)]) }
  else none

/-- A conditional `UPDATE` or `DELETE` of one row with its rowcount. It waits for a
matching row that is locked elsewhere and passes by one that does not match. -/
def update (ledger : Ledger Txn Key Row Change) (txn : Txn) (key : Key)
    (effect : Effect Row Change) : Option (Ledger Txn Key Row Change × Bool) :=
  match effect.apply (ledger.view txn key) with
  | none => some (ledger, false)
  | some _ => (ledger.write txn key effect).map (·, true)

/-- `INSERT` under a key that no transaction used before. -/
def insert (ledger : Ledger Txn Key Row Change) (txn : Txn) (key : Key) (row : Row) :
    Option (Ledger Txn Key Row Change) :=
  if key ∈ ledger.table.keys then none
  else
    ({ ledger with table := { ledger.table with keys := key :: ledger.table.keys } } :
      Ledger Txn Key Row Change).write txn key (.insert row)

theorem write_some {ledger next : Ledger Txn Key Row Change} {txn : Txn} {key : Key}
    {effect : Effect Row Change} (written : ledger.write txn key effect = some next) :
    ledger.Unblocked txn key ∧ ∃ slot, effect.apply (ledger.view txn key) = some slot ∧
      next = { ledger with
        owner := Function.update ledger.owner key (some txn)
        draft := Function.update ledger.draft key slot
        effects := Function.update ledger.effects txn
          (ledger.effects txn ++ [(key, effect)]) } := by
  unfold write at written
  split at written
  next unblocked =>
    obtain ⟨slot, applied, rfl⟩ := Option.map_eq_some_iff.mp written
    exact ⟨unblocked, slot, applied, rfl⟩
  next => cases written

theorem update_some {ledger next : Ledger Txn Key Row Change} {txn : Txn} {key : Key}
    {effect : Effect Row Change} {hit : Bool}
    (updated : ledger.update txn key effect = some (next, hit)) :
    (hit = false ∧ next = ledger ∧ effect.apply (ledger.view txn key) = none) ∨
      (hit = true ∧ ledger.write txn key effect = some next) := by
  unfold update at updated
  split at updated
  next missed =>
    cases updated
    exact .inl ⟨rfl, rfl, missed⟩
  next =>
    obtain ⟨_, written, same⟩ := Option.map_eq_some_iff.mp updated
    cases same
    exact .inr ⟨rfl, written⟩

/-- A write shows at once to its own transaction and to no other. -/
theorem view_write {ledger next : Ledger Txn Key Row Change} {txn : Txn} {key : Key}
    {effect : Effect Row Change} (written : ledger.write txn key effect = some next) :
    ∃ slot, effect.apply (ledger.view txn key) = some slot ∧
      next.view = Function.update ledger.view txn
        (Function.update (ledger.view txn) key slot) := by
  obtain ⟨unblocked, slot, applied, rfl⟩ := write_some written
  refine ⟨slot, applied, ?_⟩
  funext other place
  by_cases same : place = key
  · subst same
    by_cases mine : other = txn
    · subst mine
      simp [view]
    · simp [view, mine, Ne.symm mine, unblocked.foreign mine]
  · by_cases mine : other = txn
    · subst mine
      simp [view, same]
    · simp [view, same, mine]

theorem insert_some {ledger next : Ledger Txn Key Row Change} {txn : Txn} {key : Key} {row : Row}
    (inserted : ledger.insert txn key row = some next) :
    key ∉ ledger.table.keys ∧ next.table.keys = key :: ledger.table.keys ∧
      next.effects =
        Function.update ledger.effects txn (ledger.effects txn ++ [(key, .insert row)]) ∧
      ledger.view txn key = .fresh ∧
      next.view =
        Function.update ledger.view txn (Function.update (ledger.view txn) key (.live row)) := by
  unfold insert at inserted
  split at inserted
  next => cases inserted
  next new =>
    obtain ⟨slot, applied, views⟩ := view_write inserted
    obtain ⟨fresh, rfl⟩ := Effect.apply_insert_some.mp applied
    obtain ⟨_, _, _, rfl⟩ := write_some inserted
    exact ⟨new, rfl, rfl, fresh, views⟩

/-- What a statement or a rollback of one transaction leaves as it was: the committed rows,
the log and everything that belongs to another transaction. -/
structure Undisturbed (txn : Txn) (before after : Ledger Txn Key Row Change) : Prop where
  slot : after.table.slot = before.table.slot
  log : after.log = before.log
  keys : ∀ key, key ∈ before.table.keys → key ∈ after.table.keys
  owner : ∀ key other, other ≠ txn → before.owner key = some other →
    after.owner key = some other
  view : ∀ other, other ≠ txn → after.view other = before.view other
  effects : ∀ other, other ≠ txn → after.effects other = before.effects other

namespace Undisturbed

variable {ledger next : Ledger Txn Key Row Change} {txn : Txn} {key : Key}

omit [DecidableEq Key] [RowAction Change Row] in
theorem refl : Undisturbed txn ledger ledger :=
  ⟨rfl, rfl, fun _ member => member, fun _ _ _ owned => owned, fun _ _ => rfl, fun _ _ => rfl⟩

omit [DecidableEq Txn] [RowAction Change Row] in
theorem owner_update {place : Key} {other : Txn} (unblocked : ledger.Unblocked txn key)
    (differ : other ≠ txn) (owned : ledger.owner place = some other) :
    Function.update ledger.owner key (some txn) place = some other := by
  by_cases same : place = key
  · subst same
    exact absurd owned (unblocked.foreign differ)
  · simpa [same] using owned

omit [RowAction Change Row] in
theorem lock (locked : ledger.lock txn key = some next) : Undisturbed txn ledger next := by
  have same_view := view_lock locked
  obtain ⟨unblocked, rfl⟩ := lock_some locked
  refine ⟨rfl, rfl, fun _ member => member, ?_, ?_, fun _ _ => rfl⟩
  · intro place other differ owned
    exact owner_update unblocked differ owned
  · intro other _
    rw [same_view]

theorem write {effect : Effect Row Change} (written : ledger.write txn key effect = some next) :
    Undisturbed txn ledger next := by
  obtain ⟨slot, _, views⟩ := view_write written
  obtain ⟨unblocked, _, _, rfl⟩ := write_some written
  refine ⟨rfl, rfl, fun _ member => member, ?_, ?_, ?_⟩
  · intro place other differ owned
    exact owner_update unblocked differ owned
  · intro other differ
    rw [views, Function.update_of_ne differ]
  · intro other differ
    exact Function.update_of_ne differ _ _

theorem update {effect : Effect Row Change} {hit : Bool}
    (updated : ledger.update txn key effect = some (next, hit)) :
    Undisturbed txn ledger next := by
  rcases update_some updated with ⟨-, rfl, -⟩ | ⟨-, written⟩
  · exact refl
  · exact write written

theorem insert {row : Row} (inserted : ledger.insert txn key row = some next) :
    Undisturbed txn ledger next := by
  unfold Ledger.insert at inserted
  split at inserted
  next => cases inserted
  next =>
    have written := write inserted
    refine ⟨written.slot, written.log, ?_, written.owner, written.view, written.effects⟩
    intro place member
    exact written.keys place (List.mem_cons_of_mem _ member)

omit [DecidableEq Key] [RowAction Change Row] in
theorem rollback (ledger : Ledger Txn Key Row Change) (txn : Txn) :
    Undisturbed txn ledger (ledger.rollback txn) := by
  refine ⟨rfl, rfl, fun _ member => member, ?_, ?_, ?_⟩
  · intro place other differ owned
    simp [Ledger.rollback, owned, differ]
  · intro other differ
    exact view_rollback_other ledger differ
  · intro other differ
    exact Function.update_of_ne differ _ _

end Undisturbed

/-- The committed rows are a sequential history per key, and what a transaction sees
is the committed row with its own pending effects on top. -/
structure Sound (ledger : Ledger Txn Key Row Change) : Prop where
  listed : ledger.table.Listed
  committed : ∀ key, Effect.replay (ledger.history key) .fresh = some (ledger.table.slot key)
  viewed : ∀ txn key,
    Effect.replay (ledger.pending txn key) (ledger.table.slot key) = some (ledger.view txn key)
  held : ∀ txn key effect, (key, effect) ∈ ledger.effects txn → ledger.owner key = some txn
  known : ∀ txn key, ledger.view txn key ≠ .fresh → key ∈ ledger.table.keys

theorem Sound.empty : (Ledger.empty : Ledger Txn Key Row Change).Sound where
  listed := .empty
  committed := fun _ => rfl
  viewed := fun _ _ => rfl
  held := fun _ _ _ member => absurd member List.not_mem_nil
  known := fun _ _ used => absurd rfl used

namespace Sound

variable {ledger next : Ledger Txn Key Row Change} {txn : Txn} {key : Key}

theorem pending_foreign (sound : ledger.Sound) (foreign : ledger.owner key ≠ some txn) :
    ledger.pending txn key = [] :=
  Effect.onKey_eq_nil fun effect member => foreign (sound.held txn key effect member)

/-- A transaction without effects sees the committed rows. -/
theorem view_untouched (sound : ledger.Sound) (untouched : ledger.effects txn = []) :
    ledger.view txn key = ledger.table.slot key := by
  have viewed := sound.viewed txn key
  rw [pending, untouched] at viewed
  exact (Option.some.inj viewed).symm

theorem lock (sound : ledger.Sound) (locked : ledger.lock txn key = some next) :
    next.Sound := by
  have same_view := view_lock locked
  obtain ⟨unblocked, rfl⟩ := lock_some locked
  refine ⟨sound.listed, sound.committed, ?_, ?_, ?_⟩
  · intro other place
    rw [same_view]
    exact sound.viewed other place
  · intro other place effect member
    have owned := sound.held other place effect member
    by_cases same : place = key
    · subst same
      by_cases mine : other = txn
      · simp [mine]
      · exact absurd owned (unblocked.foreign mine)
    · simpa [same] using owned
  · intro other place used
    rw [same_view] at used
    exact sound.known other place used

theorem write (sound : ledger.Sound) {effect : Effect Row Change}
    (written : ledger.write txn key effect = some next) (member : key ∈ ledger.table.keys) :
    next.Sound := by
  obtain ⟨slot, applied, views⟩ := view_write written
  obtain ⟨unblocked, _, _, rfl⟩ := write_some written
  refine ⟨sound.listed, sound.committed, ?_, ?_, ?_⟩
  · intro other place
    rw [views]
    by_cases mine : other = txn
    · subst mine
      by_cases same : place = key
      · subst same
        have before := sound.viewed other place
        simp only [pending, Function.update_self, Effect.onKey_snoc_same,
          Effect.replay_snoc]
        simp only [pending] at before
        rw [before]
        exact applied
      · simp only [pending, Function.update_self, Function.update_of_ne same,
          Effect.onKey_snoc_other (Ne.symm same)]
        exact sound.viewed other place
    · simp only [pending, Function.update_of_ne mine]
      exact sound.viewed other place
  · intro other place effect' inside
    by_cases mine : other = txn
    · subst mine
      simp only [Function.update_self, List.mem_append, List.mem_singleton,
        Prod.mk.injEq] at inside
      rcases inside with old | ⟨rfl, -⟩
      · by_cases same : place = key
        · simp [same]
        · simpa [same] using sound.held other place effect' old
      · simp
    · simp only [Function.update_of_ne mine] at inside
      have owned := sound.held other place effect' inside
      by_cases same : place = key
      · subst same
        exact absurd owned (unblocked.foreign mine)
      · simpa [same] using owned
  · intro other place used
    rw [views] at used
    by_cases same : place = key
    · exact same ▸ member
    · refine sound.known other place ?_
      by_cases mine : other = txn
      · subst mine
        simpa [same] using used
      · simpa [mine] using used

theorem insert (sound : ledger.Sound) {row : Row}
    (inserted : ledger.insert txn key row = some next) : next.Sound := by
  unfold Ledger.insert at inserted
  split at inserted
  next => cases inserted
  next new =>
    refine Sound.write ?_ inserted List.mem_cons_self
    refine ⟨⟨List.nodup_cons.mpr ⟨new, sound.listed.nodup⟩, ?_⟩, sound.committed,
      sound.viewed, sound.held, ?_⟩
    · intro other used
      exact List.mem_cons_of_mem _ (sound.listed.known other used)
    · intro other place used
      exact List.mem_cons_of_mem _ (sound.known other place used)

theorem commit (sound : ledger.Sound) (txn : Txn) : (ledger.commit txn).Sound := by
  refine ⟨⟨sound.listed.nodup, fun key used => sound.known txn key used⟩, ?_, ?_, ?_, ?_⟩
  · intro key
    rw [history_commit, Effect.replay_append, sound.committed key]
    exact sound.viewed txn key
  · intro other key
    by_cases mine : other = txn
    · subst mine
      rw [pending_commit_self, view_commit_self]
      rfl
    · rw [pending_commit_other ledger mine, view_commit_other ledger mine]
      by_cases owned : ledger.owner key = some other
      · have foreign : ledger.owner key ≠ some txn := by simpa [owned] using mine
        have before := sound.viewed other key
        rw [view_owned owned, ← view_foreign foreign] at before
        rw [if_pos owned]
        exact before
      · rw [if_neg owned, sound.pending_foreign owned]
        rfl
  · intro other key effect member
    by_cases mine : other = txn
    · subst mine
      simp [Ledger.commit] at member
    · simp only [Ledger.commit, Function.update_of_ne mine] at member
      have owned := sound.held other key effect member
      simp [Ledger.commit, owned, mine]
  · intro other key used
    by_cases mine : other = txn
    · subst mine
      rw [view_commit_self] at used
      exact sound.known other key used
    · rw [view_commit_other ledger mine] at used
      split at used
      next owned => exact sound.known other key (by rwa [view_owned owned])
      next => exact sound.known txn key used

theorem rollback (sound : ledger.Sound) (txn : Txn) : (ledger.rollback txn).Sound := by
  refine ⟨sound.listed, sound.committed, ?_, ?_, ?_⟩
  · intro other key
    by_cases mine : other = txn
    · subst mine
      rw [pending_rollback_self, view_rollback_self]
      rfl
    · rw [pending_rollback_other ledger mine, view_rollback_other ledger mine]
      exact sound.viewed other key
  · intro other key effect member
    by_cases mine : other = txn
    · subst mine
      simp [Ledger.rollback] at member
    · simp only [Ledger.rollback, Function.update_of_ne mine] at member
      have owned := sound.held other key effect member
      simp [Ledger.rollback, owned, mine]
  · intro other key used
    by_cases mine : other = txn
    · subst mine
      rw [view_rollback_self] at used
      exact sound.listed.known key used
    · rw [view_rollback_other ledger mine] at used
      exact sound.known other key used

end Sound

end Ledger
