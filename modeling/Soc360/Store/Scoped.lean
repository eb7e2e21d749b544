import Soc360.Store.Table
import Mathlib.Data.List.Sort
import Mathlib.Order.Basic
import Mathlib.Tactic.Common

set_option autoImplicit false

/-! Tables each of whose rows belongs to an owner, and queries scoped to one of them. -/

namespace Table

section

variable {Key Row Owner : Type} [DecidableEq Owner]

/-- The row that a query sees under a key. A query without a scope sees all rows. -/
def visible (owner : Row → Owner) (scope : Option Owner) (table : Table Key Row) (key : Key) :
    Option Row :=
  (table.find key).filter fun row => scope.all (owner row == ·)

/-- The rows that match, each under its key, in no particular order. -/
def rows (table : Table Key Row) (matching : Key → Row → Bool) : List (Key × Row) :=
  table.keys.filterMap fun key =>
    (table.find key).bind fun row => if matching key row then some (key, row) else none

/-- The rows that match, the oldest key first. -/
def rowsByKey [LE Key] [DecidableLE Key] (table : Table Key Row) (matching : Key → Row → Bool) :
    List (Key × Row) :=
  (table.rows matching).insertionSort fun first second => first.1 ≤ second.1

/-- `ORDER BY created_at DESC, id DESC` on rows with their `created_at`. -/
def Newest [LE Key] (first second : Nat × Key × Row) : Prop :=
  second.1 < first.1 ∨ first.1 = second.1 ∧ second.2.1 ≤ first.2.1

instance [LE Key] [DecidableLE Key] (first second : Nat × Key × Row) :
    Decidable (Newest first second) :=
  inferInstanceAs (Decidable (_ ∨ _))

/-- One page of the rows that match, newest first. -/
def page [LE Key] [DecidableLE Key] (table : Table Key Row) (created : Key → Row → Nat)
    (matching : Key → Row → Bool) (limit offset : Nat) : List (Key × Row) :=
  (((((table.rows matching).map fun entry => (created entry.1 entry.2, entry)).insertionSort
    Newest).drop offset).take limit).map Prod.snd

/-- The page and the total of a list endpoint, both under the scope and the same filter. -/
def listing [LE Key] [DecidableLE Key] (owner : Row → Owner) (scope : Option Owner)
    (filter : Row → Bool) (created : Key → Row → Nat) (limit offset : Nat)
    (table : Table Key Row) : List (Key × Row) × Nat :=
  (table.page created (fun _ row => scope.all (owner row == ·) && filter row) limit offset,
    table.count fun row => scope.all (owner row == ·) && filter row)

/-- The DELETE of the rows that match. -/
def deleteWhere (table : Table Key Row) (matching : Key → Row → Bool) : Table Key Row :=
  { table with slot := fun key =>
      match table.slot key with
      | .live row => if matching key row then .gone else .live row
      | other => other }

/-- The UPDATE of the row under one key. -/
def put [DecidableEq Key] (table : Table Key Row) (key : Key) (row : Row) : Table Key Row :=
  table.update fun id _ => if id = key then some row else none

/-- Two tables with the same rows of one owner. -/
def Agree (owner : Row → Owner) (one : Owner) (first second : Table Key Row) : Prop :=
  ∀ key, first.visible owner (some one) key = second.visible owner (some one) key

end

section

variable {Key Row Owner : Type} [DecidableEq Owner] {owner : Row → Owner} {one other : Owner}
  {first second third : Table Key Row} {key : Key} {row : Row}
  {matching matching' : Key → Row → Bool} {change change' : Key → Row → Option Row}

theorem visible_some : first.visible owner (some one) key = some row ↔
    first.find key = some row ∧ owner row = one := by
  simp [visible, Option.filter_eq_some_iff]

theorem page_subset [LE Key] [DecidableLE Key] {created : Key → Row → Nat} {limit offset : Nat}
    {entry : Key × Row} (member : entry ∈ first.page created matching limit offset) :
    entry ∈ first.rows matching := by
  obtain ⟨timed, inside, rfl⟩ := List.mem_map.mp member
  have sorted := List.mem_of_mem_drop (List.mem_of_mem_take inside)
  obtain ⟨source, given, rfl⟩ := List.mem_map.mp ((List.mem_insertionSort Newest).mp sorted)
  exact given

theorem find_deleteWhere : (first.deleteWhere matching).find key =
    (first.find key).filter fun row => !matching key row := by
  rw [find, find]
  change Slot.row? (match first.slot key with
    | .live row => if matching key row then .gone else .live row
    | other => other) = _
  cases first.slot key with
  | fresh => rfl
  | gone => rfl
  | live row =>
      cases matched : matching key row
      · simp [matched, Option.filter]
      · simp [matched, Option.filter]

theorem find_delete [DecidableEq Key] {gone : Key} : (first.delete gone).find key =
    if key = gone then none else first.find key := by
  rw [find, delete]
  by_cases same : key = gone
  · subst same
    simp
  · rw [if_neg same]
    change (Function.update first.slot gone Slot.gone key).row? = _
    rw [Function.update_of_ne same]
    rfl

theorem Listed.deleteWhere (listed : first.Listed) : (first.deleteWhere matching).Listed := by
  refine ⟨listed.nodup, ?_⟩
  intro key used
  refine listed.known key ?_
  intro untouched
  refine used ?_
  change (match first.slot key with
    | .live row => if matching key row then Slot.gone else .live row
    | other => other) = _
  rw [untouched]

theorem mem_rows (listed : first.Listed) : (key, row) ∈ first.rows matching ↔
    first.find key = some row ∧ matching key row = true := by
  rw [rows, List.mem_filterMap]
  constructor
  · rintro ⟨id, _, given⟩
    obtain ⟨stored, found, given⟩ := Option.bind_eq_some_iff.mp given
    split at given
    next matched =>
      cases given
      exact ⟨found, matched⟩
    next => cases given
  · rintro ⟨found, matched⟩
    refine ⟨key, listed.known key ?_, ?_⟩
    · rw [Slot.row?_eq_some.mp found]
      intro fresh
      cases fresh
    · rw [found, Option.bind_some, if_pos matched]

theorem mem_listing [LE Key] [DecidableLE Key] (listed : first.Listed) {filter : Row → Bool}
    {created : Key → Row → Nat} {limit offset : Nat}
    (member : (key, row) ∈ (listing owner (some one) filter created limit offset first).1) :
    first.find key = some row ∧ owner row = one := by
  rw [listing] at member
  obtain ⟨found, matched⟩ := (mem_rows listed).mp (page_subset member)
  exact ⟨found, eq_of_beq ((Bool.and_eq_true _ _).mp matched).1⟩

theorem nodup_rows (listed : first.Listed) : (first.rows matching).Nodup := by
  refine List.Nodup.filterMap ?_ listed.nodup
  intro id id' entry given given'
  obtain ⟨stored, _, given⟩ := Option.bind_eq_some_iff.mp given
  obtain ⟨stored', _, given'⟩ := Option.bind_eq_some_iff.mp given'
  split at given
  next =>
    split at given'
    next =>
      cases given
      cases given'
      rfl
    next => cases given'
  next => cases given

theorem count_eq (predicate : Row → Bool) :
    first.count predicate = (first.rows fun _ => predicate).length := by
  rw [count, rows, List.length_filterMap_eq_countP]
  congr 1
  funext key
  rw [find]
  cases first.slot key with
  | fresh => rfl
  | gone => rfl
  | live row => cases matched : predicate row <;> simp [matched]

/-- The rows of a query that meet a condition are those of a narrower query. -/
theorem countP_rows (meets : Row → Bool) :
    (first.rows matching).countP (fun entry => meets entry.2) =
      (first.rows fun key row => matching key row && meets row).length := by
  rw [rows, rows, List.countP_filterMap, List.length_filterMap_eq_countP]
  congr 1
  funext key
  cases first.find key with
  | none => rfl
  | some row => cases matched : matching key row <;> cases met : meets row <;> simp [matched, met]

theorem rowcount_eq :
    first.rowcount change = (first.rows fun key row => (change key row).isSome).length := by
  rw [rowcount, rows, List.length_filterMap_eq_countP]
  congr 1
  funext key
  rw [find]
  cases first.slot key with
  | fresh => rfl
  | gone => rfl
  | live row => cases matched : change key row <;> simp [matched]

theorem Agree.refl : Agree owner one first first := fun _ => rfl

theorem Agree.symm (agree : Agree owner one first second) : Agree owner one second first :=
  fun key => (agree key).symm

theorem Agree.trans (before : Agree owner one first second)
    (after : Agree owner one second third) : Agree owner one first third :=
  fun key => (before key).trans (after key)

theorem Agree.find (agree : Agree owner one first second) (found : first.find key = some row)
    (own : owner row = one) : second.find key = some row := by
  have seen := agree key
  rw [visible_some.mpr ⟨found, own⟩] at seen
  exact (visible_some.mp seen.symm).1

theorem agree_iff : Agree owner one first second ↔
    ∀ key row, owner row = one → (first.find key = some row ↔ second.find key = some row) := by
  constructor
  · intro agree key row own
    exact ⟨fun found => agree.find found own, fun found => agree.symm.find found own⟩
  · intro same key
    apply Option.ext
    intro row
    rw [visible_some, visible_some]
    constructor
    · rintro ⟨found, own⟩
      exact ⟨(same key row own).mp found, own⟩
    · rintro ⟨found, own⟩
      exact ⟨(same key row own).mpr found, own⟩

theorem Agree.visible (agree : Agree owner one first second) (key : Key) :
    first.visible owner (some one) key = second.visible owner (some one) key := agree key

/-- A lookup that names the owner answers the same. -/
theorem Agree.lookup (agree : Agree owner one first second) {wanted wanted' : Row → Bool}
    (key : Key) (same : ∀ row, first.find key = some row → owner row = one →
      wanted row = wanted' row) :
    (first.find key).any (fun row => wanted row && owner row == one) =
      (second.find key).any fun row => wanted' row && owner row == one := by
  refine Bool.eq_iff_iff.mpr ?_
  rw [Option.any_eq_true, Option.any_eq_true]
  constructor
  · rintro ⟨row, found, matched⟩
    have own := eq_of_beq ((Bool.and_eq_true _ _).mp matched).2
    rw [same row found own] at matched
    exact ⟨row, agree.find found own, matched⟩
  · rintro ⟨row, found, matched⟩
    have own := eq_of_beq ((Bool.and_eq_true _ _).mp matched).2
    have found' := agree.symm.find found own
    rw [← same row found' own] at matched
    exact ⟨row, found', matched⟩

/-- A query that matches rows of one owner alone gives the same rows. -/
theorem Agree.rows (agree : Agree owner one first second) (listed : first.Listed)
    (listed' : second.Listed)
    (same : ∀ key row, owner row = one → matching key row = matching' key row)
    (names : ∀ key row, first.find key = some row → matching key row = true → owner row = one)
    (names' : ∀ key row, second.find key = some row → matching' key row = true →
      owner row = one) :
    (first.rows matching).Perm (second.rows matching') := by
  refine (List.perm_ext_iff_of_nodup (nodup_rows listed) (nodup_rows listed')).mpr ?_
  rintro ⟨key, row⟩
  rw [mem_rows listed, mem_rows listed']
  constructor
  · rintro ⟨found, matched⟩
    have own := names key row found matched
    exact ⟨agree.find found own, same key row own ▸ matched⟩
  · rintro ⟨found, matched⟩
    have own := names' key row found matched
    refine ⟨agree.symm.find found own, ?_⟩
    rw [same key row own]
    exact matched

/-- A count whose predicate names the owner is the same. -/
theorem Agree.count (agree : Agree owner one first second) (listed : first.Listed)
    (listed' : second.Listed) {predicate : Row → Bool}
    (names : ∀ row, predicate row = true → owner row = one) :
    first.count predicate = second.count predicate := by
  rw [count_eq, count_eq]
  exact (agree.rows listed listed' (fun _ _ _ => rfl) (fun _ row _ => names row)
    (fun _ row _ => names row)).length_eq

/-- So is the rowcount of an UPDATE of rows of one owner alone. -/
theorem Agree.rowcount (agree : Agree owner one first second) (listed : first.Listed)
    (listed' : second.Listed)
    (names : ∀ key row, first.find key = some row → (change key row).isSome = true →
      owner row = one)
    (names' : ∀ key row, second.find key = some row → (change key row).isSome = true →
      owner row = one) :
    first.rowcount change = second.rowcount change := by
  rw [rowcount_eq, rowcount_eq]
  exact (agree.rows listed listed' (fun _ _ _ => rfl) names names').length_eq

/-- A unique index that names the owner answers the same. -/
theorem Agree.any (agree : Agree owner one first second) (listed : first.Listed)
    (listed' : second.Listed)
    (names : ∀ key row, matching key row = true → owner row = one) :
    (first.keys.any fun key => (first.slot key).satisfies (matching key)) =
      second.keys.any fun key => (second.slot key).satisfies (matching key) := by
  have passes : ∀ {one_way other_way : Table Key Row}, Agree owner one one_way other_way →
      other_way.Listed → (one_way.keys.any fun key =>
        (one_way.slot key).satisfies (matching key)) = true →
      (other_way.keys.any fun key => (other_way.slot key).satisfies (matching key)) = true := by
    intro one_way other_way agrees known some_row
    obtain ⟨key, _, satisfied⟩ := List.any_eq_true.mp some_row
    obtain ⟨row, live, matched⟩ := Slot.satisfies_iff.mp satisfied
    have found := agrees.find (Slot.row?_eq_some.mpr live) (names key row matched)
    have live' := Slot.row?_eq_some.mp found
    refine List.any_eq_true.mpr ⟨key, known.known key ?_, ?_⟩
    · rw [live']
      intro fresh
      cases fresh
    · rw [live']
      exact matched
  refine Bool.eq_iff_iff.mpr ⟨passes agree listed', passes agree.symm listed⟩

section

variable [LinearOrder Key]

theorem newest_total : Std.Total (Newest : Nat × Key × Row → Nat × Key × Row → Prop) := by
  refine ⟨?_⟩
  intro first second
  rcases Nat.lt_trichotomy first.1 second.1 with later | same | sooner
  · exact .inr (.inl later)
  · rcases le_total first.2.1 second.2.1 with below | above
    · exact .inr (.inr ⟨same.symm, below⟩)
    · exact .inl (.inr ⟨same, above⟩)
  · exact .inl (.inl sooner)

theorem newest_trans : IsTrans (Nat × Key × Row) Newest := by
  refine ⟨?_⟩
  intro first second third before after
  rcases before with later | ⟨same, above⟩
  · rcases after with later' | ⟨same', _⟩
    · exact .inl (Nat.lt_trans later' later)
    · exact .inl (same' ▸ later)
  · rcases after with later' | ⟨same', above'⟩
    · exact .inl (same ▸ later')
    · exact .inr ⟨same.trans same', above'.trans above⟩

/-- Pages do not depend on how the table lists its rows. -/
theorem Agree.page (agree : Agree owner one first second) (listed : first.Listed)
    (listed' : second.Listed) {created created' : Key → Row → Nat} (limit offset : Nat)
    (times : ∀ key row, first.find key = some row → owner row = one →
      created key row = created' key row)
    (names : ∀ key row, matching key row = true → owner row = one) :
    first.page created matching limit offset = second.page created' matching limit offset := by
  have perm := agree.rows listed listed' (fun _ _ _ => rfl) (fun key row _ => names key row)
    fun key row _ => names key row
  have timed : (first.rows matching).map (fun entry => (created entry.1 entry.2, entry)) =
      (first.rows matching).map fun entry => (created' entry.1 entry.2, entry) := by
    refine List.map_congr_left ?_
    rintro ⟨key, row⟩ member
    obtain ⟨found, matched⟩ := (mem_rows listed).mp member
    rw [times key row found (names key row matched)]
  have sorted : ((first.rows matching).map fun entry => (created' entry.1 entry.2, entry)).insertionSort
        Newest =
      ((second.rows matching).map fun entry => (created' entry.1 entry.2, entry)).insertionSort
        Newest := by
    have total : Std.Total (Newest : Nat × Key × Row → Nat × Key × Row → Prop) := newest_total
    have transitive : IsTrans (Nat × Key × Row) Newest := newest_trans
    refine List.Perm.eq_of_pairwise ?_ (List.pairwise_insertionSort Newest _)
      (List.pairwise_insertionSort Newest _) ?_
    · rintro ⟨time, key, row⟩ ⟨time', key', row'⟩ inside inside' before after
      have inside := (List.mem_insertionSort Newest).mp inside
      have inside' := (List.mem_insertionSort Newest).mp inside'
      obtain ⟨⟨id, stored⟩, member, same⟩ := List.mem_map.mp inside
      obtain ⟨⟨id', stored'⟩, member', same'⟩ := List.mem_map.mp inside'
      cases same
      cases same'
      have keys : key = key' := by
        rcases before with later | ⟨level, above⟩
        · rcases after with later' | ⟨level, _⟩
          · exact absurd later (Nat.lt_asymm later')
          · exact absurd later (level ▸ Nat.lt_irrefl _)
        · rcases after with later' | ⟨_, below⟩
          · exact absurd later' (level ▸ Nat.lt_irrefl _)
          · exact le_antisymm below above
      subst keys
      have found := ((mem_rows listed).mp (perm.mem_iff.mpr member')).1
      have found' := ((mem_rows listed).mp member).1
      rw [found'] at found
      cases found
      rfl
    · exact (List.perm_insertionSort Newest _).trans
        ((perm.map _).trans (List.perm_insertionSort Newest _).symm)
  rw [Table.page, Table.page, timed, sorted]

theorem Agree.listing (agree : Agree owner one first second) (listed : first.Listed)
    (listed' : second.Listed) (filter : Row → Bool) {created created' : Key → Row → Nat}
    (limit offset : Nat)
    (times : ∀ key row, first.find key = some row → owner row = one →
      created key row = created' key row) :
    listing owner (some one) filter created limit offset first =
      listing owner (some one) filter created' limit offset second := by
  have names : ∀ row, (((some one).all (owner row == ·)) && filter row) = true →
      owner row = one := by
    intro row matched
    exact eq_of_beq ((Bool.and_eq_true _ _).mp matched).1
  rw [Table.listing, Table.listing, agree.count listed listed' names,
    agree.page listed listed' limit offset times fun _ => names]

theorem Agree.rowsByKey (agree : Agree owner one first second) (listed : first.Listed)
    (listed' : second.Listed)
    (same : ∀ key row, owner row = one → matching key row = matching' key row)
    (names : ∀ key row, matching key row = true → owner row = one)
    (names' : ∀ key row, matching' key row = true → owner row = one) :
    first.rowsByKey matching = second.rowsByKey matching' := by
  have perm := agree.rows listed listed' same (fun key row _ => names key row)
    fun key row _ => names' key row
  have total : Std.Total fun first second : Key × Row => first.1 ≤ second.1 :=
    ⟨fun first second => le_total first.1 second.1⟩
  have transitive : IsTrans (Key × Row) fun first second => first.1 ≤ second.1 :=
    ⟨fun _ _ _ before after => before.trans after⟩
  refine List.Perm.eq_of_pairwise ?_ (List.pairwise_insertionSort _ _)
    (List.pairwise_insertionSort _ _) ?_
  · rintro ⟨key, row⟩ ⟨key', row'⟩ inside inside' before after
    have keys : key = key' := le_antisymm before after
    subst keys
    have found := (mem_rows listed).mp ((List.mem_insertionSort _).mp inside)
    have found' := (mem_rows listed).mp (perm.mem_iff.mpr ((List.mem_insertionSort _).mp inside'))
    rw [found.1] at found'
    cases found'.1
    rfl
  · exact (List.perm_insertionSort _ _).trans (perm.trans (List.perm_insertionSort _ _).symm)

end

/-- An UPDATE that treats the rows of one owner alike, and gives no row away. -/
theorem Agree.update (agree : Agree owner one first second)
    (same : ∀ key row, first.find key = some row → owner row = one →
      change key row = change' key row)
    (keeps : ∀ key row row', first.find key = some row → change key row = some row' →
      owner row' = owner row)
    (keeps' : ∀ key row row', second.find key = some row → change' key row = some row' →
      owner row' = owner row) :
    Agree owner one (first.update change) (second.update change') := by
  refine agree_iff.mpr ?_
  intro key row own
  rw [find_update, find_update, Option.map_eq_some_iff, Option.map_eq_some_iff]
  have stays : ∀ {table : Table Key Row} {statement : Key → Row → Option Row} {before : Row},
      (∀ key row row', table.find key = some row → statement key row = some row' →
        owner row' = owner row) → table.find key = some before →
      (statement key before).getD before = row → owner before = one := by
    intro table statement before keeps found result
    cases changed : statement key before with
    | none =>
        rw [changed] at result
        have equal : before = row := result
        rw [equal]
        exact own
    | some after =>
        rw [changed] at result
        have equal : after = row := result
        rw [← keeps key before after found changed, equal]
        exact own
  constructor
  · rintro ⟨before, found, result⟩
    have owned := stays keeps found result
    refine ⟨before, agree.find found owned, ?_⟩
    rw [← same key before found owned]
    exact result
  · rintro ⟨before, found, result⟩
    have owned := stays keeps' found result
    have found' := agree.symm.find found owned
    refine ⟨before, found', ?_⟩
    rw [same key before found' owned]
    exact result

theorem update_none : first.update (fun _ _ => none) = first := by
  obtain ⟨keys, slot⟩ := first
  rw [Table.update]
  congr 1
  funext key
  change (match slot key with
    | .live row => Slot.live ((none : Option Row).getD row)
    | other => other) = slot key
  cases slot key <;> rfl

/-- An UPDATE that leaves the rows of an owner alone. -/
theorem Agree.of_update
    (spares : ∀ key row, first.find key = some row → owner row = other → change key row = none)
    (keeps : ∀ key row row', first.find key = some row → change key row = some row' →
      owner row' = owner row) : Agree owner other first (first.update change) := by
  have begun : Agree owner other first first := .refl
  have updated : Agree owner other (first.update fun _ _ => none) (first.update change) := by
    refine begun.update ?_ ?_ keeps
    · intro key row found own
      exact (spares key row found own).symm
    · intro key row row' _ changed
      cases changed
  rw [update_none] at updated
  exact updated

/-- A DELETE that treats the rows of one owner alike. -/
theorem Agree.deleteWhere (agree : Agree owner one first second)
    (same : ∀ key row, first.find key = some row → owner row = one →
      matching key row = matching' key row) :
    Agree owner one (first.deleteWhere matching) (second.deleteWhere matching') := by
  refine agree_iff.mpr ?_
  intro key row own
  rw [find_deleteWhere, find_deleteWhere, Option.filter_eq_some_iff, Option.filter_eq_some_iff]
  constructor
  · rintro ⟨found, spared⟩
    rw [same key row found own] at spared
    exact ⟨agree.find found own, spared⟩
  · rintro ⟨found, spared⟩
    have found' := agree.symm.find found own
    refine ⟨found', ?_⟩
    rw [same key row found' own]
    exact spared

/-- A DELETE that spares the rows of an owner. -/
theorem Agree.of_deleteWhere
    (spares : ∀ key row, first.find key = some row → owner row = other →
      matching key row = false) : Agree owner other first (first.deleteWhere matching) := by
  refine agree_iff.mpr ?_
  intro key row own
  rw [find_deleteWhere, Option.filter_eq_some_iff]
  constructor
  · intro found
    refine ⟨found, ?_⟩
    rw [spares key row found own]
    rfl
  · rintro ⟨found, _⟩
    exact found

section

variable [DecidableEq Key] {gone : Key}

/-- An INSERT for another owner. -/
theorem Agree.of_insert (fresh : first.find key = none)
    (differ : owner row ≠ other) : Agree owner other first (first.insert key row) := by
  refine agree_iff.mpr ?_
  intro id stored own
  rw [find_insert]
  by_cases same : id = key
  · subst same
    rw [fresh, if_pos rfl]
    constructor
    · intro nothing
      cases nothing
    · intro equal
      cases equal
      exact absurd own differ
  · rw [if_neg same]

theorem Agree.delete (agree : Agree owner one first second) :
    Agree owner one (first.delete gone) (second.delete gone) := by
  refine agree_iff.mpr ?_
  intro key row own
  rw [find_delete, find_delete]
  by_cases same : key = gone
  · rw [if_pos same, if_pos same]
  · rw [if_neg same, if_neg same]
    exact agree_iff.mp agree key row own

theorem Agree.of_delete (found : first.find gone = some row) (differ : owner row ≠ other) :
    Agree owner other first (first.delete gone) := by
  refine agree_iff.mpr ?_
  intro key stored own
  rw [find_delete]
  by_cases same : key = gone
  · subst same
    rw [found, if_pos rfl]
    constructor
    · intro equal
      cases equal
      exact absurd own differ
    · intro nothing
      cases nothing
  · rw [if_neg same]

variable {before after : Row}

theorem Agree.put (agree : Agree owner one first second) (found : first.find key = some before)
    (own : owner before = one) (own' : owner after = one) :
    Agree owner one (first.put key after) (second.put key after) := by
  have keeps : ∀ {table : Table Key Row}, table.find key = some before →
      ∀ id row row', table.find id = some row →
        (if id = key then some after else none) = some row' → owner row' = owner row := by
    intro table stored id row row' there written
    split at written
    next same =>
      subst same
      cases written
      rw [stored] at there
      cases there
      exact own'.trans own.symm
    next => cases written
  exact agree.update (fun _ _ _ _ => rfl) (keeps found) (keeps (agree.find found own))

theorem Agree.of_put (found : first.find key = some before) (own : owner after = owner before)
    (differ : owner before ≠ other) : Agree owner other first (first.put key after) := by
  refine Agree.of_update ?_ ?_
  · intro id row there its
    refine if_neg ?_
    rintro rfl
    rw [found] at there
    cases there
    exact differ its
  · intro id row row' there written
    split at written
    next same =>
      subst same
      cases written
      rw [found] at there
      cases there
      exact own
    next => cases written

end

end

end Table
