import Mathlib.Algebra.GroupWithZero.Nat
import Mathlib.Data.List.Flatten
import Mathlib.Data.List.Induction
import Mathlib.Tactic.Common

set_option autoImplicit false

/-! Words joined by a separator that they may contain. -/

namespace Joined

variable {α : Type} [BEq α] {separator : α} {word : List α}
  {words words' : List (List α)}

/-- The pieces between the separators of the words, in the order of the words. -/
def pieces (separator : α) (words : List (List α)) : List (List α) :=
  words.flatMap fun word => word.splitOn separator

/-- How many separators each word has. -/
def marks (separator : α) (words : List (List α)) : List Nat :=
  words.map fun word => word.count separator

theorem length_splitOn : (word.splitOn separator).length = word.count separator + 1 := by
  induction word with
  | nil => rfl
  | cons first rest ih =>
      rw [List.splitOn_cons_eq_if_modifyHead, List.count_cons]
      split
      next => simp only [List.length_cons, ih]
      next => simp only [List.length_modifyHead, ih, Nat.add_zero]

theorem length_pieces : (pieces separator words).length =
    (marks separator words).sum + (marks separator words).length := by
  induction words with
  | nil => rfl
  | cons word rest ih =>
      have first : (word.splitOn separator).length = word.count separator + 1 := length_splitOn
      unfold pieces marks at ih ⊢
      rw [List.flatMap_cons, List.length_append, List.map_cons, List.sum_cons, List.length_cons]
      omega

section

omit [BEq α]

variable {item : α} {front back : List (List α)} {before after more : List α}

theorem intercalate_cons (some : words ≠ []) : [separator].intercalate (word :: words) =
    word ++ separator :: [separator].intercalate words := by
  rw [List.intercalate_cons_of_ne_nil some, List.append_assoc, List.singleton_append]

theorem mem_intercalate (member : item ∈ [separator].intercalate words) :
    item = separator ∨ ∃ word ∈ words, item ∈ word := by
  induction words with
  | nil => cases member
  | cons word rest ih =>
      cases rest with
      | nil => exact .inr ⟨word, List.mem_cons_self, by simpa [List.intercalate] using member⟩
      | cons next rest =>
          rw [intercalate_cons (List.cons_ne_nil _ _), List.mem_append, List.mem_cons] at member
          rcases member with member | rfl | member
          · exact .inr ⟨word, List.mem_cons_self, member⟩
          · exact .inl rfl
          · rcases ih member with same | ⟨other, member, inside⟩
            · exact .inl same
            · exact .inr ⟨other, List.mem_cons_of_mem _ member, inside⟩

theorem mem_intercalate_of_mem (listed : word ∈ words) (inside : item ∈ word) :
    item ∈ [separator].intercalate words := by
  induction words with
  | nil => cases listed
  | cons first rest ih =>
      cases rest with
      | nil =>
          rw [List.mem_singleton.mp listed] at inside
          rw [List.intercalate_singleton]
          exact inside
      | cons next rest =>
          rw [intercalate_cons (List.cons_ne_nil _ _)]
          rcases List.mem_cons.mp listed with rfl | listed
          · exact List.mem_append_left _ inside
          · exact List.mem_append_right _ (List.mem_cons_of_mem _ (ih listed))

theorem length_intercalate (some : words ≠ []) :
    ([separator].intercalate words).length + 1 = (words.map List.length).sum + words.length := by
  induction words with
  | nil => exact absurd rfl some
  | cons word rest ih =>
      cases rest with
      | nil => simp [List.intercalate]
      | cons next rest =>
          have more := ih (List.cons_ne_nil _ _)
          rw [intercalate_cons (List.cons_ne_nil _ _), List.length_append, List.length_cons,
            List.map_cons, List.sum_cons, List.length_cons (a := word)]
          omega

theorem intercalate_append (some : front ≠ []) (some' : back ≠ []) :
    [separator].intercalate (front ++ back) =
      [separator].intercalate front ++ separator :: [separator].intercalate back := by
  induction front with
  | nil => exact absurd rfl some
  | cons word rest ih =>
      cases rest with
      | nil =>
          rw [List.singleton_append, intercalate_cons some', List.intercalate_singleton]
      | cons next rest =>
          have more : next :: rest ++ back ≠ [] := List.cons_ne_nil _ _
          rw [List.cons_append, intercalate_cons more, intercalate_cons (List.cons_ne_nil _ _),
            ih (List.cons_ne_nil _ _), List.append_assoc, List.cons_append]

/-- A word in two parts. -/
theorem intercalate_within :
    [separator].intercalate (front ++ (before ++ more) :: back) =
      [separator].intercalate (front ++ [before]) ++ [separator].intercalate (more :: back) := by
  have inside : [separator].intercalate ((before ++ more) :: back) =
      before ++ [separator].intercalate (more :: back) := by
    cases back with
    | nil => rw [List.intercalate_singleton, List.intercalate_singleton]
    | cons next rest =>
        rw [intercalate_cons (List.cons_ne_nil _ _), intercalate_cons (List.cons_ne_nil _ _),
          List.append_assoc]
  cases front with
  | nil => rw [List.nil_append, List.nil_append, List.intercalate_singleton, inside]
  | cons word rest =>
      rw [intercalate_append (List.cons_ne_nil _ _) (List.cons_ne_nil _ _),
        intercalate_append (List.cons_ne_nil _ _) (List.cons_ne_nil _ _), inside,
        List.intercalate_singleton, List.append_assoc, List.cons_append]

/-- Where a joined text is cut: between two words, or within one. -/
theorem intercalate_eq_append_cons : [separator].intercalate words = before ++ item :: after ↔
    (∃ front back, words = front ++ back ∧ front ≠ [] ∧ back ≠ [] ∧ item = separator ∧
      before = [separator].intercalate front ∧ after = [separator].intercalate back) ∨
    ∃ front head tail back, words = front ++ (head ++ item :: tail) :: back ∧
      before = [separator].intercalate (front ++ [head]) ∧
      after = [separator].intercalate (tail :: back) := by
  constructor
  · intro shape
    induction words generalizing before with
    | nil => simp at shape
    | cons word rest ih =>
        by_cases alone : rest = []
        · rw [alone, List.intercalate_singleton] at shape
          refine .inr ⟨[], before, after, [], ?_, ?_, ?_⟩
          · rw [alone, shape, List.nil_append]
          · rw [List.nil_append, List.intercalate_singleton]
          · rw [List.intercalate_singleton]
        · rw [intercalate_cons alone] at shape
          rcases List.append_eq_append_iff.mp shape with
            ⟨between, left, right⟩ | ⟨tail, left, right⟩
          · cases between with
            | nil =>
                obtain ⟨same, left'⟩ := List.cons.inj right
                refine .inl ⟨[word], rest, rfl, List.cons_ne_nil _ _, alone, same.symm, ?_,
                  left'.symm⟩
                rw [left, List.append_nil, List.intercalate_singleton]
            | cons first others =>
                obtain ⟨rfl, later⟩ := List.cons.inj right
                rcases ih later with ⟨front, back, rfl, some, some', same, rfl, rfl⟩ |
                  ⟨front, head, tail, back, rfl, rfl, rfl⟩
                · refine .inl ⟨word :: front, back, rfl, List.cons_ne_nil _ _, some', same, ?_, rfl⟩
                  rw [left, intercalate_cons some]
                · refine .inr ⟨word :: front, head, tail, back, rfl, ?_, rfl⟩
                  rw [left, List.cons_append, intercalate_cons (by simp)]
          · cases tail with
            | nil =>
                obtain ⟨same, right'⟩ := List.cons.inj right
                refine .inl ⟨[word], rest, rfl, List.cons_ne_nil _ _, alone, same, ?_, right'⟩
                rw [left, List.append_nil, List.intercalate_singleton]
            | cons first others =>
                obtain ⟨rfl, later⟩ := List.cons.inj right
                refine .inr ⟨[], before, others, rest, ?_, ?_, ?_⟩
                · rw [left, List.nil_append]
                · rw [List.nil_append, List.intercalate_singleton]
                · rw [intercalate_cons alone]
                  exact later
  · rintro (⟨front, back, rfl, some, some', rfl, rfl, rfl⟩ |
      ⟨front, head, tail, back, rfl, rfl, rfl⟩)
    · exact intercalate_append some some'
    · rw [intercalate_within, List.intercalate_cons_cons_left]

end

variable [LawfulBEq α]

theorem splitOn_inj {word' : List α} (same : word.splitOn separator = word'.splitOn separator) :
    word = word' := by
  have whole := @List.intercalate_splitOn _ word _ _ separator
  rw [same, List.intercalate_splitOn] at whole
  exact whole.symm

theorem mem_of_splitOn {item : α} {piece : List α} (listed : piece ∈ word.splitOn separator)
    (inside : item ∈ piece) : item ∈ word := by
  rw [← @List.intercalate_splitOn _ word _ _ separator]
  exact mem_intercalate_of_mem listed inside

theorem splitOn_pair {first second : List α} (split : word.splitOn separator = [first, second]) :
    word = first ++ separator :: second := by
  have whole : [separator].intercalate (word.splitOn separator) = word :=
    List.intercalate_splitOn separator
  rw [split, List.intercalate_cons_cons, List.intercalate_singleton, List.append_assoc,
    List.singleton_append] at whole
  exact whole.symm

/-- The pieces of a joined text are those of its words. -/
theorem splitOn_intercalate (some : words ≠ []) :
    ([separator].intercalate words).splitOn separator = pieces separator words := by
  induction words with
  | nil => exact absurd rfl some
  | cons word rest ih =>
      cases rest with
      | nil => simp [pieces, List.intercalate]
      | cons next rest =>
          rw [intercalate_cons (List.cons_ne_nil _ _), List.splitOn_append_cons_self,
            ih (List.cons_ne_nil next rest)]
          rfl

/-- A joined text tells its pieces and nothing else. -/
theorem intercalate_eq_iff (some : words ≠ []) (some' : words' ≠ []) :
    [separator].intercalate words = [separator].intercalate words' ↔
      pieces separator words = pieces separator words' := by
  rw [← splitOn_intercalate some, ← splitOn_intercalate some']
  constructor
  · intro same
    rw [same]
  · exact splitOn_inj

/-- Pieces and separators together tell the words. -/
theorem eq_iff : words = words' ↔
    pieces separator words = pieces separator words' ∧
      marks separator words = marks separator words' := by
  constructor
  · rintro rfl
    exact ⟨rfl, rfl⟩
  · rintro ⟨samePieces, sameMarks⟩
    induction words generalizing words' with
    | nil =>
        cases words' with
        | nil => rfl
        | cons word' rest' => cases sameMarks
    | cons word rest ih =>
        cases words' with
        | nil => cases sameMarks
        | cons word' rest' =>
            obtain ⟨sameCount, sameMarks⟩ := List.cons.inj sameMarks
            have sameLength : (word.splitOn separator).length =
                (word'.splitOn separator).length := by
              rw [length_splitOn, length_splitOn]
              exact congrArg (· + 1) sameCount
            obtain ⟨sameFirst, samePieces⟩ := List.append_inj samePieces sameLength
            rw [splitOn_inj sameFirst, ih samePieces sameMarks]

end Joined
