import Soc360.Text.Pattern
import Soc360.Text.Python

set_option autoImplicit false

/-! The pieces of `re.sub`, told apart from the fuel that finds them. -/

namespace Python

abbrev Piece := Char ⊕ List Char

/-- What a piece was cut from. -/
def spell : Piece → List Char
  | .inl char => [char]
  | .inr taken => taken

/-- What a matcher takes it takes from the start, and it takes something. -/
structure Takes (matcher : Matcher) : Prop where
  splits : ∀ before text taken left, matcher before text = some (taken, left) →
    taken ++ left = text
  nonempty : ∀ before text left, matcher before text ≠ some ([], left)

/-- The pieces that are found from the left: no match starts at a character that is left alone. -/
def Cut (matcher : Matcher) : Option Char → List Piece → Prop
  | _, [] => True
  | before, .inl char :: rest =>
      matcher before (char :: rest.flatMap spell) = none ∧ Cut matcher (some char) rest
  | before, .inr taken :: rest =>
      matcher before (taken ++ rest.flatMap spell) = some (taken, rest.flatMap spell) ∧
        Cut matcher taken.getLast? rest

section

variable {matcher : Matcher} {before : Option Char} {text front rest taken left : List Char}
  {given first others : List Piece}

theorem spell_plain (word : List Char) : (word.map Sum.inl : List Piece).flatMap spell = word := by
  induction word with
  | nil => rfl
  | cons char rest ih =>
      rw [List.map_cons, List.flatMap_cons, ih]
      rfl

theorem pieces_cut (takes : Takes matcher) {fuel : Nat} (enough : text.length ≤ fuel) :
    (pieces matcher fuel before text).flatMap spell = text ∧
      Cut matcher before (pieces matcher fuel before text) := by
  induction fuel generalizing before text with
  | zero =>
      rw [List.length_eq_zero_iff.mp (Nat.le_zero.mp enough)]
      exact ⟨rfl, trivial⟩
  | succ fuel ih =>
      cases text with
      | nil => exact ⟨rfl, trivial⟩
      | cons char rest =>
          rw [pieces]
          cases found : matcher before (char :: rest) with
          | none =>
              have short : rest.length ≤ fuel := Nat.le_of_succ_le_succ enough
              obtain ⟨whole, cut⟩ := @ih (some char) rest short
              refine ⟨by rw [List.flatMap_cons, whole]; rfl, ?_, cut⟩
              rw [whole]
              exact found
          | some match' =>
              obtain ⟨taken, left⟩ := match'
              have split := takes.splits _ _ _ _ found
              have some' : taken ≠ [] := by
                rintro rfl
                exact takes.nonempty _ _ _ found
              have short : left.length ≤ fuel := by
                have lengths := congrArg List.length split
                have positive := List.length_pos_of_ne_nil some'
                rw [List.length_append] at lengths
                omega
              obtain ⟨whole, cut⟩ := @ih taken.getLast? left short
              refine ⟨by rw [List.flatMap_cons, whole]; exact split, ?_, cut⟩
              rw [whole, split]
              exact found

/-- There is one way to cut a text. -/
theorem Cut.pieces_eq (cut : Cut matcher before given) (takes : Takes matcher) {fuel : Nat}
    (enough : (given.flatMap spell).length ≤ fuel) :
    pieces matcher fuel before (given.flatMap spell) = given := by
  induction given generalizing before fuel with
  | nil => cases fuel <;> rfl
  | cons piece others ih =>
      rw [List.flatMap_cons] at enough ⊢
      cases piece with
      | inl char =>
          obtain ⟨none', cut⟩ := cut
          cases fuel with
          | zero => cases enough
          | succ fuel =>
              have short : (others.flatMap spell).length ≤ fuel := Nat.le_of_succ_le_succ enough
              change pieces matcher (fuel + 1) before (char :: others.flatMap spell) = _
              rw [pieces, none']
              simp only
              rw [ih cut short]
      | inr taken =>
          obtain ⟨found, cut⟩ := cut
          cases taken with
          | nil => exact absurd found (takes.nonempty _ _ _)
          | cons char word =>
              cases fuel with
              | zero => cases enough
              | succ fuel =>
                  have short : (others.flatMap spell).length ≤ fuel := by
                    rw [List.length_append] at enough
                    have positive : 1 ≤ (spell (.inr (char :: word))).length :=
                      Nat.succ_le_succ (Nat.zero_le _)
                    omega
                  have found' : matcher before (char :: (word ++ others.flatMap spell)) = _ := found
                  change pieces matcher (fuel + 1) before (char :: (word ++ others.flatMap spell)) =
                    _
                  rw [pieces, found']
                  simp only
                  rw [ih cut short]

/-- From any piece on, the pieces are cut. -/
theorem Cut.later (cut : Cut matcher before (first ++ others)) (takes : Takes matcher) :
    Cut matcher ((first.flatMap spell).getLast?.or before) others := by
  induction first generalizing before with
  | nil => exact cut
  | cons piece more ih =>
      cases piece with
      | inl char =>
          have later := ih cut.2
          rw [List.flatMap_cons, spell, List.singleton_append, Pattern.getLast?_cons_or]
          exact later
      | inr taken =>
          have some' : taken ≠ [] := by
            rintro rfl
            exact takes.nonempty _ _ _ cut.1
          have later := ih cut.2
          have last := List.getLast?_eq_some_getLast some'
          rw [List.flatMap_cons, spell, List.getLast?_append, Option.or_assoc]
          rw [last] at later ⊢
          exact later

/-- A place in a text is a place between pieces, or inside a match. -/
theorem split_spell (whole : given.flatMap spell = front ++ rest) :
    (∃ earlier later, given = earlier ++ later ∧ earlier.flatMap spell = front ∧
        later.flatMap spell = rest) ∨
      ∃ earlier head tail later, given = earlier ++ .inr (head ++ tail) :: later ∧ head ≠ [] ∧
        tail ≠ [] ∧ front = earlier.flatMap spell ++ head ∧
        rest = tail ++ later.flatMap spell := by
  induction given generalizing front with
  | nil =>
      obtain ⟨rfl, rfl⟩ := List.append_eq_nil_iff.mp whole.symm
      exact .inl ⟨[], [], rfl, rfl, rfl⟩
  | cons piece more ih =>
      cases front with
      | nil => exact .inl ⟨[], piece :: more, rfl, rfl, whole⟩
      | cons char front =>
          cases piece with
          | inl other =>
              rw [List.flatMap_cons, spell, List.singleton_append, List.cons_append] at whole
              obtain ⟨rfl, shorter⟩ := List.cons.inj whole
              rcases ih shorter with ⟨earlier, later, rfl, rfl, rfl⟩ |
                ⟨earlier, head, tail, later, rfl, some', more', rfl, rfl⟩
              · exact .inl ⟨.inl other :: earlier, later, rfl, rfl, rfl⟩
              · exact .inr ⟨.inl other :: earlier, head, tail, later, rfl, some', more', rfl, rfl⟩
          | inr taken =>
              rw [List.flatMap_cons, spell] at whole
              rcases List.append_eq_append_iff.mp whole with
                ⟨middle, shape, shorter⟩ | ⟨middle, shape, shape'⟩
              · rcases ih shorter with ⟨earlier, later, rfl, rfl, rfl⟩ |
                  ⟨earlier, head, tail, later, rfl, some', more', rfl, rfl⟩
                · refine .inl ⟨.inr taken :: earlier, later, rfl, ?_, rfl⟩
                  rw [shape]
                  rfl
                · refine .inr ⟨.inr taken :: earlier, head, tail, later, rfl, some', more', ?_, rfl⟩
                  rw [shape, List.flatMap_cons, spell, List.append_assoc]
              · cases middle with
                | nil =>
                    rw [List.append_nil] at shape
                    refine .inl ⟨[.inr taken], more, rfl, ?_, shape'.symm⟩
                    rw [shape]
                    exact List.append_nil _
                | cons next word =>
                    refine .inr ⟨[], char :: front, next :: word, more, ?_, List.cons_ne_nil _ _,
                      List.cons_ne_nil _ _, rfl, shape'⟩
                    rw [shape]
                    rfl

/-- The matches of a text, wherever they start, are the pieces that are taken, if none starts inside
another. -/
theorem Cut.matches_iff (cut : Cut matcher before given) (takes : Takes matcher)
    (isolated : ∀ before head tail left, head ≠ [] → tail ≠ [] →
      matcher before (head ++ tail ++ left) = some (head ++ tail, left) →
      matcher head.getLast? (tail ++ left) = none)
    (whole : given.flatMap spell = front ++ (taken ++ left)) :
    matcher (front.getLast?.or before) (taken ++ left) = some (taken, left) ↔
      ∃ earlier later, given = earlier ++ .inr taken :: later ∧ earlier.flatMap spell = front ∧
        later.flatMap spell = left := by
  constructor
  · intro found
    rcases split_spell whole with ⟨earlier, later, rfl, rfl, shape⟩ |
      ⟨earlier, head, tail, later, rfl, some', more, rfl, shape⟩
    · have here := cut.later takes
      cases later with
      | nil =>
          rw [← shape] at found
          have split := takes.splits _ _ _ _ found
          obtain ⟨rfl, _⟩ := List.append_eq_nil_iff.mp split
          exact absurd found (takes.nonempty _ _ _)
      | cons piece later =>
          cases piece with
          | inl char =>
              have none' := here.1
              change matcher _ ((Sum.inl char :: later).flatMap spell) = none at none'
              rw [shape, found] at none'
              cases none'
          | inr other =>
              have same := here.1
              change matcher _ ((Sum.inr other :: later).flatMap spell) = _ at same
              rw [shape, found] at same
              obtain ⟨rfl, rfl⟩ := Prod.mk.inj (Option.some.inj same)
              exact ⟨earlier, later, rfl, rfl, rfl⟩
    · have here := (cut.later takes).1
      rw [List.append_assoc] at here
      have none' := isolated _ head tail (later.flatMap spell) some' more
        (by rw [List.append_assoc]; exact here)
      have last := List.getLast?_eq_some_getLast some'
      rw [shape, List.getLast?_append, last] at found
      rw [last] at none'
      exact absurd (none'.symm.trans found) (by simp)
  · rintro ⟨earlier, later, rfl, rfl, rfl⟩
    exact (cut.later takes).1

/-! A place of a text. -/

/-- Some word of the text is good, with what stands before and after it. -/
def Somewhere (good : Option Char → List Char → List Char → Prop) (before : Option Char)
    (text : List Char) : Prop :=
  ∃ front word back, text = front ++ (word ++ back) ∧ good (front.getLast?.or before) word back

theorem somewhere_cons {good : Option Char → List Char → List Char → Prop} {char : Char} :
    Somewhere good before (char :: text) ↔
      (∃ word back, char :: text = word ++ back ∧ good before word back) ∨
        Somewhere good (some char) text := by
  constructor
  · rintro ⟨front, word, back, shape, held⟩
    cases front with
    | nil => exact .inl ⟨word, back, shape, held⟩
    | cons first front =>
        obtain ⟨rfl, rest⟩ := List.cons.inj shape
        rw [Pattern.getLast?_cons_or] at held
        exact .inr ⟨front, word, back, rest, held⟩
  · rintro (⟨word, back, shape, held⟩ | ⟨front, word, back, shape, held⟩)
    · exact ⟨[], word, back, shape, held⟩
    · refine ⟨char :: front, word, back, by rw [shape, List.cons_append], ?_⟩
      rw [Pattern.getLast?_cons_or]
      exact held

end

end Python
