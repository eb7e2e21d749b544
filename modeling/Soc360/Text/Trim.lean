import Mathlib.Data.List.DropRight
import Mathlib.Tactic.Common

set_option autoImplicit false

/-! A list without its outer elements of a kind, and a list in pieces. -/

namespace List

variable {Item : Type} {outer other : Item → Bool} {items : List Item} {item : Item}

theorem rdropWhile_of_last (last : ∀ item ∈ items.getLast?, outer item = false) :
    items.rdropWhile outer = items := by
  rw [rdropWhile_eq_self_iff]
  intro nonempty found
  have kept := last _ (getLast?_eq_some_getLast nonempty)
  rw [kept] at found
  cases found

theorem rdropWhile_append {tail : List Item} (items : List Item)
    (dropped : ∀ item ∈ tail, outer item = true) :
    (items ++ tail).rdropWhile outer = items.rdropWhile outer := by
  rw [rdropWhile, reverse_append, dropWhile_append_of_pos]
  · rfl
  · intro item member
    exact dropped item (mem_reverse.mp member)

theorem mem_rdropWhile (member : item ∈ items) (kept : outer item = false) :
    item ∈ items.rdropWhile outer := by
  have whole := @rdropWhile_append_rtakeWhile _ outer items
  rw [← whole] at member
  rcases mem_append.mp member with member | member
  · exact member
  · have dropped := mem_rtakeWhile_imp member
    rw [kept] at dropped
    cases dropped

/-- Without the items on both ends that are `outer`. -/
def trim (outer : Item → Bool) (items : List Item) : List Item :=
  (items.dropWhile outer).rdropWhile outer

theorem trim_within : items.trim outer <:+: items :=
  ( rdropWhile_prefix outer (items.dropWhile outer)).isInfix.trans (dropWhile_suffix outer).isInfix

theorem length_trim_le : (items.trim outer).length ≤ items.length := trim_within.length_le

/-- A trimmed list begins with no outer item. -/
theorem dropWhile_trim : (items.trim outer).dropWhile outer = items.trim outer := by
  obtain ⟨dropped, shape⟩ := rdropWhile_prefix outer (items.dropWhile outer)
  change items.trim outer ++ dropped = _ at shape
  cases trimmed : items.trim outer with
  | nil => rfl
  | cons first rest =>
    have kept : (items.dropWhile outer).dropWhile outer = items.dropWhile outer :=
      dropWhile_idempotent _ _
    rw [← shape, trimmed, cons_append] at kept
    apply dropWhile_cons_of_neg
    intro found
    rw [dropWhile_cons_of_pos found] at kept
    have shorter := (dropWhile_sublist outer (l := rest ++ dropped)).length_le
    rw [kept, length_cons] at shorter
    omega

theorem trim_trim : (items.trim outer).trim outer = items.trim outer := by
  rw [trim, dropWhile_trim]
  exact rdropWhile_idempotent _ _

theorem trim_cons (found : outer item = true) : (item :: items).trim outer = items.trim outer := by
  rw [trim, dropWhile_cons_of_pos found, trim]

/-- No outer item at either end. -/
theorem trim_eq_self (first : ∀ item ∈ items.head?, outer item = false)
    (last : ∀ item ∈ items.getLast?, outer item = false) : items.trim outer = items := by
  have front : items.dropWhile outer = items := by
    cases items with
    | nil => rfl
    | cons item rest =>
      apply dropWhile_cons_of_neg
      simp [first item rfl]
  rw [trim, front]
  exact rdropWhile_of_last last

theorem trim_solid (solid : ∀ item ∈ items, outer item = false) : items.trim outer = items := by
  apply trim_eq_self
  · intro item first
    exact solid item (mem_of_head? first)
  · intro item last
    exact solid item (mem_of_getLast? last)

/-- Only outer items are left out. -/
theorem mem_trim (member : item ∈ items) (kept : outer item = false) :
    item ∈ items.trim outer := by
  have whole := @takeWhile_append_dropWhile _ outer items
  rw [← whole] at member
  rcases mem_append.mp member with member | member
  · have dropped := mem_takeWhile_imp member
    rw [kept] at dropped
    cases dropped
  · exact mem_rdropWhile member kept

/-- Outer items about a trimmed list are what is left out. -/
theorem trim_between {lead trail : List Item} (before : ∀ item ∈ lead, outer item = true)
    (after : ∀ item ∈ trail, outer item = true) (trimmed : items.trim outer = items) :
    (lead ++ items ++ trail).trim outer = items := by
  have back : (items ++ trail).trim outer = items := by
    rw [trim, dropWhile_append]
    split
    next empty =>
      have gone : items = [] := by
        rw [← trimmed, trim, isEmpty_iff.mp empty, rdropWhile_nil]
      rw [dropWhile_eq_nil_iff.mpr after, rdropWhile_nil, gone]
    next =>
      rw [rdropWhile_append _ after]
      exact trimmed
  rw [trim, append_assoc, dropWhile_append_of_pos before]
  exact back

/-- What is left out on the two ends. -/
theorem exists_trim (outer : Item → Bool) (items : List Item) :
    ∃ lead trail, items = lead ++ items.trim outer ++ trail ∧
      (∀ item ∈ lead, outer item = true) ∧ ∀ item ∈ trail, outer item = true := by
  refine ⟨items.takeWhile outer, (items.dropWhile outer).rtakeWhile outer, ?_, ?_, ?_⟩
  · rw [append_assoc, trim, rdropWhile_append_rtakeWhile, takeWhile_append_dropWhile]
  · intro item member
    exact mem_takeWhile_imp member
  · intro item member
    exact mem_rtakeWhile_imp member

/-- A list that comes back from two trims has come back from each. -/
theorem trim_twice : (items.trim outer).trim other = items ↔
    items.trim outer = items ∧ items.trim other = items := by
  constructor
  · intro same
    have longer : items.length ≤ (items.trim outer).length := by
      calc items.length = ((items.trim outer).trim other).length := by rw [same]
        _ ≤ (items.trim outer).length := length_trim_le
    have once : items.trim outer = items := trim_within.eq_of_length_le longer
    rw [once] at same
    exact ⟨once, same⟩
  · intro both
    rw [both.1, both.2]

section

variable [DecidableEq Item] {separator : Item} {lists : List (List Item)} {piece : List Item}

/-- The nonempty pieces between the separators, trimmed. -/
def pieces (separator : Item) (outer : Item → Bool) (items : List Item) : List (List Item) :=
  ((items.splitOn separator).map (trim outer)).filter (· ≠ [])

theorem pieces_append (before after : List Item) :
    (before ++ separator :: after).pieces separator outer =
      before.pieces separator outer ++ after.pieces separator outer := by
  rw [pieces, splitOn_append_cons_self, map_append, filter_append]
  rfl

theorem pieces_cons (found : outer item = true) (apart : item ≠ separator) :
    (item :: items).pieces separator outer = items.pieces separator outer := by
  obtain ⟨first, rest, split⟩ := exists_cons_of_ne_nil (splitOn_ne_nil separator items)
  have differ : ¬ (item == separator) = true := by simpa using apart
  rw [pieces, pieces, splitOn_cons_eq_if_modifyHead, if_neg differ, split, modifyHead_cons,
    map_cons, map_cons, trim_cons found]

/-- No piece of a split holds the separator. -/
theorem not_mem_splitOn (member : piece ∈ items.splitOn separator) : separator ∉ piece := by
  induction items generalizing piece with
  | nil =>
    rw [splitOn_nil, mem_singleton] at member
    simp [member]
  | cons item rest ih =>
    rw [splitOn_cons_eq_if_modifyHead] at member
    split at member
    next =>
      rcases mem_cons.mp member with rfl | later
      · simp
      · exact ih later
    next apart =>
      obtain ⟨first, others, split⟩ := exists_cons_of_ne_nil (splitOn_ne_nil separator rest)
      rw [split, modifyHead_cons] at member
      rcases mem_cons.mp member with rfl | later
      · have free : separator ∉ first := ih (split ▸ mem_cons_self)
        have differ : item ≠ separator := by simpa using apart
        simp [free, differ.symm]
      · exact ih (split ▸ mem_cons_of_mem _ later)

/-- A text that is a piece of itself. -/
structure Whole (separator : Item) (outer : Item → Bool) (items : List Item) : Prop where
  nonempty : items ≠ []
  apart : separator ∉ items
  trimmed : items.trim outer = items

theorem mem_pieces (member : piece ∈ items.pieces separator outer) :
    piece.Whole separator outer := by
  obtain ⟨member, nonempty⟩ := mem_filter.mp member
  obtain ⟨part, found, rfl⟩ := mem_map.mp member
  refine ⟨by simpa using nonempty, ?_, trim_trim⟩
  intro held
  exact not_mem_splitOn found (trim_within.subset held)

theorem pieces_whole (whole : items.Whole separator outer) :
    items.pieces separator outer = [items] := by
  rw [pieces, splitOn_eq_singleton whole.apart, map_singleton, whole.trimmed]
  simp [whole.nonempty]

theorem pieces_nil : ([] : List Item).pieces separator outer = [] := by
  simp [pieces, trim]

/-- Pieces of a joined list: the separator of the join, then an outer item. -/
theorem pieces_intercalate (found : outer item = true) (apart : item ≠ separator) :
    ([separator, item].intercalate lists).pieces separator outer =
      lists.flatMap (pieces separator outer) := by
  induction lists with
  | nil => exact pieces_nil
  | cons first rest ih =>
    cases rest with
    | nil => simp [intercalate]
    | cons second rest =>
      have joined : [separator, item].intercalate (first :: second :: rest) =
          first ++ separator :: item :: [separator, item].intercalate (second :: rest) := by
        simp [intercalate_cons_cons]
      rw [joined, flatMap_cons, ← ih, pieces_append, pieces_cons found apart]

omit [DecidableEq Item] in
theorem eraseDups_nodup [BEq Item] [LawfulBEq Item] (distinct : items.Nodup) :
    items.eraseDups = items := by
  induction items with
  | nil => rfl
  | cons item rest ih =>
    obtain ⟨new, distinct⟩ := nodup_cons.mp distinct
    have kept : rest.filter (fun other => !other == item) = rest := by
      rw [filter_eq_self]
      intro other member
      have differ : other ≠ item := ne_of_mem_of_not_mem member new
      simpa using differ
    rw [eraseDups_cons, kept, ih distinct]

omit [DecidableEq Item] in
theorem nodup_eraseDups [BEq Item] [LawfulBEq Item] (items : List Item) :
    items.eraseDups.Nodup := by
  match items with
  | [] => exact nodup_nil
  | item :: rest =>
    have shorter : (rest.filter fun other => !other == item).length < rest.length + 1 :=
      Nat.lt_succ_of_le (length_filter_le _ _)
    rw [eraseDups_cons, nodup_cons]
    refine ⟨?_, nodup_eraseDups _⟩
    rw [mem_eraseDups, mem_filter]
    simp
termination_by items.length

omit [DecidableEq Item] in
theorem eraseDups_map {Image : Type} [BEq Item] [LawfulBEq Item] [BEq Image] [LawfulBEq Image]
    {image : Item → Image} (injective : Function.Injective image) (items : List Item) :
    (items.map image).eraseDups = items.eraseDups.map image := by
  match items with
  | [] => rfl
  | item :: rest =>
    have shorter : (rest.filter fun other => !other == item).length < rest.length + 1 :=
      Nat.lt_succ_of_le (length_filter_le _ _)
    have same : (fun other => !other == image item) ∘ image = fun other => !other == item := by
      funext other
      simp [injective.eq_iff]
    rw [map_cons, eraseDups_cons, eraseDups_cons, map_cons, filter_map, same,
      eraseDups_map injective]
termination_by items.length

/-- Lists that come back from being joined and split, without repetitions. -/
theorem eraseDups_pieces_iff :
    (lists.flatMap (pieces separator outer)).eraseDups = lists ↔
      lists.Nodup ∧ ∀ items ∈ lists, items.Whole separator outer := by
  constructor
  · intro same
    refine ⟨same ▸ nodup_eraseDups _, ?_⟩
    intro items member
    rw [← same, mem_eraseDups] at member
    obtain ⟨source, -, piece⟩ := mem_flatMap.mp member
    exact mem_pieces piece
  · rintro ⟨distinct, whole⟩
    have each : lists.flatMap (pieces separator outer) = lists := by
      clear distinct
      induction lists with
      | nil => rfl
      | cons first rest ih =>
        rw [flatMap_cons, pieces_whole (whole first mem_cons_self),
          ih fun items member => whole items (mem_cons_of_mem _ member)]
        rfl
    rw [each, eraseDups_nodup distinct]

end

end List
