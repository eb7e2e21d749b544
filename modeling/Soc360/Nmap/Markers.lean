import Mathlib.Tactic.Linarith
import Mathlib.Tactic.Positivity
import Soc360.Nmap.Findings

set_option autoImplicit false

namespace Nmap

open Pattern (boundary chars getLast?_append_or getLast?_cons_or mem_boundary mem_chars mem_seq
  mem_star_chars mem_word opt plus seq star times word)
open Vulnerabilities (FindingDraft)

/-- The characters stand for the letters, in any case. -/
def Spells (letters : String) (found : List Char) : Prop :=
  List.Forall₂ (fun letter char => caseless letter char = true) letters.toList found

/-- A word between a text and a text that end and start with no word character. -/
structure Unicode.Standalone (unicode : Unicode) (letters : String) (front found back : List Char) :
    Prop where
  spells : Spells letters found
  starts : front.getLast?.any unicode.isWord = false
  ends : back.head?.any unicode.isWord = false

/-- The text ends in the word `NOT` and white space. -/
def Unicode.Negated (unicode : Unicode) (front : List Char) : Prop :=
  ∃ start found spaces, front = start ++ found ++ spaces ∧ spaces ≠ [] ∧
    (∀ char ∈ spaces, Python.isSpace char = true) ∧ unicode.Standalone "NOT" start found spaces

/-- What `\bNOT\s+VULNERABLE\b` takes. -/
def NegatedMarker (taken : List Char) : Prop :=
  ∃ first spaces second, taken = first ++ spaces ++ second ∧ Spells "NOT" first ∧ spaces ≠ [] ∧
    (∀ char ∈ spaces, Python.isSpace char = true) ∧ Spells "VULNERABLE" second

/-- Some word `VULNERABLE` does not follow `NOT`. -/
def Unicode.Marked (unicode : Unicode) (output : List Char) : Prop :=
  ∃ front found back, output = front ++ found ++ back ∧
    unicode.Standalone "VULNERABLE" front found back ∧ ¬unicode.Negated front

section

variable {unicode : Unicode} {before before' : Option Char} {text rest front found back : List Char}
  {letters : String} {char letter : Char}

theorem caseless_iff : caseless letter char = true ↔
    char = letter ∨ char = letter.toLower ∨ letter = 'S' ∧ char = 'ſ' := by
  simp [caseless, or_assoc]

theorem caseless_isWord (upper : Python.isUpper letter = true)
    (same : caseless letter char = true) : unicode.isWord char = true := by
  have range : 0x41 ≤ letter.toNat ∧ letter.toNat ≤ 0x5a := by
    simpa [Python.isUpper] using upper
  rcases caseless_iff.mp same with rfl | rfl | ⟨rfl, rfl⟩
  · rw [unicode.isWord_ascii char (by omega)]
    simp [Python.isAlnum, Python.isLetter, upper]
  · have lower := Python.toLower_toNat upper
    rw [unicode.isWord_ascii _ (by omega)]
    have letter' : Python.isLetter letter.toLower = true := by
      simp only [Python.isLetter, lower, Bool.or_eq_true, Bool.and_eq_true, decide_eq_true_eq]
      omega
    simp [Python.isAlnum, letter']
  · exact unicode.isWord_longS

theorem Spells.isWord (unicode : Unicode) (spelled : Spells letters found)
    (upper : ∀ letter ∈ letters.toList, Python.isUpper letter = true) :
    ∀ char ∈ found, unicode.isWord char = true := by
  unfold Spells at spelled
  generalize letters.toList = capitals at spelled upper
  induction spelled with
  | nil => simp
  | cons same _ ih =>
      intro char member
      rcases List.mem_cons.mp member with rfl | member
      · exact caseless_isWord (upper _ List.mem_cons_self) same
      · exact ih (fun letter inside => upper letter (List.mem_cons_of_mem _ inside)) char member

theorem Spells.nonempty (spelled : Spells letters found) (some : letters.toList ≠ []) :
    found ≠ [] := by
  rintro rfl
  exact some (List.forall₂_nil_right_iff.mp spelled)

theorem any_head? {isWord : Char → Bool} (inside : ∀ char ∈ found, isWord char = true)
    (nonempty : found ≠ []) : (found ++ rest).head?.any isWord = true := by
  cases found with
  | nil => exact absurd rfl nonempty
  | cons char more => exact inside char List.mem_cons_self

theorem any_last {isWord : Char → Bool} (inside : ∀ char ∈ found, isWord char = true)
    (nonempty : found ≠ []) : (found.getLast?.or before).any isWord = true := by
  rw [List.getLast?_eq_some_getLast nonempty]
  exact inside _ (List.getLast_mem nonempty)

theorem marker_upper : ∀ letter ∈ "VULNERABLE".toList, Python.isUpper letter = true :=
  List.all_eq_true.mp (by decide)

theorem not_upper : ∀ letter ∈ "NOT".toList, Python.isUpper letter = true :=
  List.all_eq_true.mp (by decide)

theorem Spells.marker_nonempty (spelled : Spells "VULNERABLE" found) : found ≠ [] :=
  spelled.nonempty (by decide)

theorem Spells.not_nonempty (spelled : Spells "NOT" found) : found ≠ [] :=
  spelled.nonempty (by decide)

theorem mem_wordOf {run : Found} : run ∈ (wordOf letters).runs before text ↔
    run.captured = none ∧ text = run.taken ++ run.left ∧ Spells letters run.taken := by
  rw [wordOf, mem_word, List.forall₂_map_left_iff]
  rfl

/-- Where `\bVULNERABLE\b` matches. -/
theorem mem_marker {run : Found} : run ∈ (marker unicode).runs before text ↔
    before.any unicode.isWord = false ∧ run.captured = none ∧ text = run.taken ++ run.left ∧
      Spells "VULNERABLE" run.taken ∧ run.left.head?.any unicode.isWord = false := by
  rw [marker, Pattern.mem_boundary_seq, Pattern.mem_seq_boundary, mem_wordOf]
  constructor
  · rintro ⟨starts, ⟨captured, shape, spelled⟩, ends⟩
    rw [shape, any_head? (spelled.isWord unicode marker_upper) spelled.marker_nonempty] at starts
    rw [Found.last, any_last (spelled.isWord unicode marker_upper) spelled.marker_nonempty] at ends
    exact ⟨Bool.eq_false_iff.mpr starts, captured, shape, spelled,
      Bool.eq_false_iff.mpr ends.symm⟩
  · rintro ⟨starts, captured, shape, spelled, ends⟩
    refine ⟨?_, ⟨captured, shape, spelled⟩, ?_⟩
    · rw [starts, shape, any_head? (spelled.isWord unicode marker_upper) spelled.marker_nonempty]
      exact Bool.false_ne_true
    · rw [Found.last, any_last (spelled.isWord unicode marker_upper) spelled.marker_nonempty, ends]
      exact Bool.true_eq_false.mp

theorem mem_negatedMarker {run : Found} : run ∈ (negatedMarker unicode).runs before text ↔
    before.any unicode.isWord = false ∧ run.captured = none ∧ text = run.taken ++ run.left ∧
      NegatedMarker run.taken ∧ run.left.head?.any unicode.isWord = false := by
  rw [negatedMarker, Pattern.mem_boundary_seq, mem_seq]
  constructor
  · rintro ⟨starts, first, member, later, given, rfl⟩
    obtain ⟨captured, shape, spelled⟩ := mem_wordOf.mp member
    obtain ⟨spaces, member', second, given', rfl⟩ := mem_seq.mp given
    obtain ⟨captured', shape', nonempty, solid⟩ := Pattern.mem_plus_chars.mp member'
    obtain ⟨member'', ends⟩ := Pattern.mem_seq_boundary.mp given'
    obtain ⟨captured'', shape'', spelled'⟩ := mem_wordOf.mp member''
    rw [shape, any_head? (spelled.isWord unicode not_upper) spelled.not_nonempty] at starts
    rw [Found.last, any_last (spelled'.isWord unicode marker_upper) spelled'.marker_nonempty] at ends
    refine ⟨Bool.eq_false_iff.mpr starts, by simp [Found.append, captured, captured', captured''],
      ?_, ⟨first.taken, spaces.taken, second.taken, ?_, spelled, nonempty, solid, spelled'⟩,
      Bool.eq_false_iff.mpr ends.symm⟩
    · simp only [Found.append, List.append_assoc]
      rw [← shape'', ← shape', ← shape]
    · simp only [Found.append, List.append_assoc]
  · obtain ⟨taken, captured, left⟩ := run
    rintro ⟨starts, rfl, rfl, ⟨first, spaces, second, rfl, spelled, nonempty, solid, spelled'⟩,
      ends⟩
    refine ⟨?_, ⟨first, none, spaces ++ second ++ left⟩, mem_wordOf.mpr ⟨rfl, by simp, spelled⟩,
      ⟨spaces ++ second, none, left⟩, ?_, by simp [Found.append]⟩
    · rw [starts, List.append_assoc, List.append_assoc,
        any_head? (spelled.isWord unicode not_upper) spelled.not_nonempty]
      exact Bool.false_ne_true
    · refine mem_seq.mpr ⟨⟨spaces, none, second ++ left⟩, ?_, ⟨second, none, left⟩, ?_, rfl⟩
      · exact Pattern.mem_plus_chars.mpr ⟨rfl, by simp, nonempty, solid⟩
      · rw [Pattern.mem_seq_boundary]
        refine ⟨mem_wordOf.mpr ⟨rfl, rfl, spelled'⟩, ?_⟩
        rw [Found.last, any_last (spelled'.isWord unicode marker_upper) spelled'.marker_nonempty, ends]
        exact Bool.true_eq_false.mp

/-! The two searches, from a character on. -/

/-- `Negated` of a text that follows the given character. -/
def NegatedFrom (unicode : Unicode) (before : Option Char) (front : List Char) : Prop :=
  ∃ start found spaces, front = start ++ found ++ spaces ∧ spaces ≠ [] ∧
    (∀ char ∈ spaces, Python.isSpace char = true) ∧ Spells "NOT" found ∧
    (start.getLast?.or before).any unicode.isWord = false

/-- `Marked` of a text that follows the given character. -/
def MarkedFrom (unicode : Unicode) (before : Option Char) (text : List Char) : Prop :=
  ∃ front found back, text = front ++ found ++ back ∧ Spells "VULNERABLE" found ∧
    (front.getLast?.or before).any unicode.isWord = false ∧
    back.head?.any unicode.isWord = false ∧ ¬NegatedFrom unicode before front

theorem negated_iff : unicode.Negated front ↔ NegatedFrom unicode none front := by
  constructor
  · rintro ⟨start, found, spaces, shape, nonempty, solid, alone⟩
    refine ⟨start, found, spaces, shape, nonempty, solid, alone.spells, ?_⟩
    rw [Option.or_none]
    exact alone.starts
  · rintro ⟨start, found, spaces, shape, nonempty, solid, spelled, starts⟩
    rw [Option.or_none] at starts
    refine ⟨start, found, spaces, shape, nonempty, solid, spelled, starts, ?_⟩
    cases spaces with
    | nil => rfl
    | cons space more => exact unicode.isWord_space space (solid space List.mem_cons_self)

theorem marked_iff : unicode.Marked text ↔ MarkedFrom unicode none text := by
  constructor
  · rintro ⟨front, found, back, shape, ⟨spelled, starts, ends⟩, positive⟩
    rw [negated_iff] at positive
    refine ⟨front, found, back, shape, spelled, ?_, ends, positive⟩
    rw [Option.or_none]
    exact starts
  · rintro ⟨front, found, back, shape, spelled, starts, ends, positive⟩
    rw [Option.or_none] at starts
    rw [← negated_iff] at positive
    exact ⟨front, found, back, shape, ⟨spelled, starts, ends⟩, positive⟩

theorem NegatedFrom.append (negated : NegatedFrom unicode (text.getLast?.or before) front) :
    NegatedFrom unicode before (text ++ front) := by
  obtain ⟨start, found, spaces, rfl, nonempty, solid, spelled, starts⟩ := negated
  refine ⟨text ++ start, found, spaces, by simp, nonempty, solid, spelled, ?_⟩
  rw [getLast?_append_or]
  exact starts

/-- Nothing negated starts here, so a marker is here or further on. -/
theorem markedFrom_cons (unmatched : (negatedMarker unicode).runs before (char :: rest) = []) :
    MarkedFrom unicode before (char :: rest) ↔
      (∃ run, run ∈ (marker unicode).runs before (char :: rest)) ∨
        MarkedFrom unicode (some char) rest := by
  constructor
  · rintro ⟨front, found, back, shape, spelled, starts, ends, positive⟩
    cases front with
    | nil =>
        rw [List.nil_append] at shape
        exact .inl ⟨⟨found, none, back⟩,
          mem_marker.mpr ⟨starts, rfl, shape, spelled, ends⟩⟩
    | cons first front =>
        obtain ⟨rfl, rfl⟩ := List.cons.inj shape
        rw [getLast?_cons_or] at starts
        refine .inr ⟨front, found, back, rfl, spelled, starts, ends, ?_⟩
        intro negated
        exact positive (@NegatedFrom.append unicode before [char] front negated)
  · rintro (⟨run, member⟩ | ⟨front, found, back, rfl, spelled, starts, ends, positive⟩)
    · obtain ⟨starts, _, shape, spelled, ends⟩ := mem_marker.mp member
      refine ⟨[], run.taken, run.left, shape, spelled, starts, ends, ?_⟩
      rintro ⟨start, found, spaces, nothing, nonempty, _⟩
      exact nonempty (List.append_eq_nil_iff.mp nothing.symm).2
    · refine ⟨char :: front, found, back, rfl, spelled, ?_, ends, ?_⟩
      · rw [getLast?_cons_or]
        exact starts
      · rintro ⟨start, first, spaces, shape, nonempty, solid, spelled', starts'⟩
        cases start with
        | nil =>
            have matched : (⟨first ++ spaces ++ found, none, back⟩ : Found) ∈
                (negatedMarker unicode).runs before (char :: (front ++ found ++ back)) := by
              refine mem_negatedMarker.mpr ⟨starts', rfl, ?_,
                ⟨first, spaces, found, rfl, spelled', nonempty, solid, spelled⟩, ends⟩
              rw [List.nil_append] at shape
              change _ = first ++ spaces ++ found ++ back
              rw [← shape]
              rfl
            rw [unmatched] at matched
            cases matched
        | cons other start =>
            obtain ⟨rfl, rfl⟩ := List.cons.inj shape
            rw [getLast?_cons_or] at starts'
            exact positive ⟨start, first, spaces, rfl, nonempty, solid, spelled', starts'⟩

/-- No `NOT` starts inside a word. -/
theorem unmatched_inside (inside : before.any unicode.isWord = true) :
    (negatedMarker unicode).runs before text = [] := by
  apply List.eq_nil_iff_forall_not_mem.mpr
  intro run member
  have starts := (mem_negatedMarker.mp member).1
  rw [inside] at starts
  cases starts

/-- The rest of a word is kept, and so is where it ends. -/
theorem delete_word {word : List Char} {fuel : Nat} (enough : text.length ≤ fuel)
    (inside : before.any unicode.isWord = true)
    (solid : ∀ char ∈ word, unicode.isWord char = true) :
    (∃ left, (negatedMarker unicode).delete fuel before text = word ++ left ∧
        left.head?.any unicode.isWord = false) ↔
      ∃ left, text = word ++ left ∧ left.head?.any unicode.isWord = false := by
  induction word generalizing before text fuel with
  | nil =>
      have same : ((negatedMarker unicode).delete fuel before text).head? = text.head? := by
        cases text with
        | nil => cases fuel <;> rfl
        | cons char rest =>
            obtain ⟨fuel, rfl⟩ := Nat.exists_eq_succ_of_ne_zero (Nat.ne_zero_of_lt enough)
            rw [Pattern.delete_cons_none (unmatched_inside inside)]
            rfl
      simp only [List.nil_append, ↓existsAndEq, true_and, same]
  | cons char word ih =>
      cases text with
      | nil => cases fuel <;> simp [Pattern.delete]
      | cons first rest =>
          obtain ⟨fuel, rfl⟩ := Nat.exists_eq_succ_of_ne_zero (Nat.ne_zero_of_lt enough)
          rw [Pattern.delete_cons_none (unmatched_inside inside)]
          by_cases same : first = char
          · subst same
            have rest' := @ih (some first) rest fuel (Nat.le_of_succ_le_succ enough)
              (solid first List.mem_cons_self)
              fun char member => solid char (List.mem_cons_of_mem _ member)
            simpa only [List.cons_append, List.cons.injEq, true_and] using rest'
          · simp only [List.cons_append, List.cons.injEq, same, false_and, exists_false]

/-- A marker here is kept, and none is made here. -/
theorem marker_delete {fuel : Nat} (enough : rest.length ≤ fuel)
    (agree : before = before' ∨ unicode.isWord char = false) :
    (∃ run, run ∈ (marker unicode).runs before'
        (char :: (negatedMarker unicode).delete fuel (some char) rest)) ↔
      ∃ run, run ∈ (marker unicode).runs before (char :: rest) := by
  have here : ∀ (context : Option Char) (others : List Char),
      (∃ run, run ∈ (marker unicode).runs context (char :: others)) ↔
        context.any unicode.isWord = false ∧ ∃ word, Spells "VULNERABLE" (char :: word) ∧
          ∃ left, others = word ++ left ∧ left.head?.any unicode.isWord = false := by
    intro context others
    constructor
    · rintro ⟨run, member⟩
      obtain ⟨starts, _, shape, spelled, ends⟩ := mem_marker.mp member
      obtain ⟨taken, captured, left⟩ := run
      cases taken with
      | nil => exact absurd rfl spelled.marker_nonempty
      | cons first word =>
          obtain ⟨rfl, rfl⟩ := List.cons.inj shape
          exact ⟨starts, word, spelled, left, rfl, ends⟩
    · rintro ⟨starts, word, spelled, left, rfl, ends⟩
      exact ⟨⟨char :: word, none, left⟩, mem_marker.mpr ⟨starts, rfl, rfl, spelled, ends⟩⟩
  rw [here, here]
  rcases agree with rfl | other
  · apply and_congr_right
    intro _
    apply exists_congr
    intro word
    apply and_congr_right
    intro spelled
    have solid := spelled.isWord unicode marker_upper
    exact delete_word enough (solid char List.mem_cons_self)
      fun char member => solid char (List.mem_cons_of_mem _ member)
  · have impossible : ∀ word, ¬Spells "VULNERABLE" (char :: word) := by
      intro word spelled
      have solid := spelled.isWord unicode marker_upper char List.mem_cons_self
      rw [other] at solid
      cases solid
    simp only [impossible, false_and, exists_false, and_false]

theorem Spells.exists_letter (spelled : Spells letters found) (member : char ∈ found) :
    ∃ letter ∈ letters.toList, caseless letter char = true := by
  unfold Spells at spelled
  generalize letters.toList = capitals at spelled ⊢
  induction spelled with
  | nil => cases member
  | @cons letter first capitals more same _ ih =>
      rcases List.mem_cons.mp member with rfl | member
      · exact ⟨letter, List.mem_cons_self, same⟩
      · obtain ⟨letter', inside, same'⟩ := ih member
        exact ⟨letter', List.mem_cons_of_mem _ inside, same'⟩

theorem Spells.reverse (spelled : Spells letters found) :
    List.Forall₂ (fun letter char => caseless letter char = true) letters.toList.reverse
      found.reverse :=
  List.forall₂_reverse_iff.mpr spelled

theorem caseless_toNat (upper : Python.isUpper letter = true)
    (same : caseless letter char = true) :
    char.toNat = letter.toNat ∨ char.toNat = letter.toNat + 32 ∨ letter = 'S' ∧ char.toNat = 383 := by
  rcases caseless_iff.mp same with rfl | rfl | ⟨rfl, rfl⟩
  · exact .inl rfl
  · exact .inr (.inl (Python.toLower_toNat upper))
  · exact .inr (.inr ⟨rfl, rfl⟩)

/-- No character stands for two capitals. -/
theorem caseless_unique {letter' : Char} (upper : Python.isUpper letter = true)
    (upper' : Python.isUpper letter' = true) (same : caseless letter char = true)
    (same' : caseless letter' char = true) : letter = letter' := by
  have number := caseless_toNat upper same
  have number' := caseless_toNat upper' same'
  simp only [Python.isUpper, Bool.and_eq_true, decide_eq_true_eq] at upper upper'
  by_cases long : char.toNat = 383
  · have letterS : letter = 'S' := by
      rcases number with number | number | number
      · omega
      · omega
      · exact number.1
    have letterS' : letter' = 'S' := by
      rcases number' with number' | number' | number'
      · omega
      · omega
      · exact number'.1
    rw [letterS, letterS']
  · apply Char.toNat_inj.mp
    simp only [long, and_false, or_false] at number number'
    omega

/-- The last letter of a marker is none of `NOT` and no white space. -/
theorem marker_last {first spaces taken : List Char} (spelled : Spells "NOT" first)
    (solid : ∀ char ∈ spaces, Python.isSpace char = true) (negated : NegatedMarker taken) :
    ∀ char ∈ taken.getLast?, char ∉ first ++ spaces := by
  obtain ⟨first', spaces', second, rfl, _, _, _, spelled'⟩ := negated
  intro char last member
  rw [List.getLast?_append, List.getLast?_eq_head?_reverse] at last
  have reversed := spelled'.reverse
  cases shape : second.reverse with
  | nil => exact spelled'.marker_nonempty (List.reverse_eq_nil_iff.mp shape)
  | cons final more =>
      rw [shape] at last reversed
      cases last
      have final' : caseless 'E' char = true := (List.forall₂_cons.mp reversed).1
      rcases List.mem_append.mp member with member | member
      · obtain ⟨letter, inside, same⟩ := spelled.exists_letter member
        have equal := caseless_unique (by decide) (not_upper letter inside) final' same
        subst equal
        revert inside
        decide
      · have space := solid char member
        rcases caseless_iff.mp final' with rfl | rfl | ⟨other, _⟩
        · revert space
          decide
        · revert space
          decide
        · revert other
          decide

/-- A marker that starts inside a negated one is the negated one. -/
theorem unaligned {cut left : List Char} (spelled : Spells "VULNERABLE" found)
    (starts : before.any unicode.isWord = false)
    (starts' : (front.getLast?.or before).any unicode.isWord = false)
    (positive : ¬NegatedFrom unicode before front) (shape : found ++ back = (char :: cut) ++ left) :
    ¬NegatedMarker (front ++ char :: cut) := by
  rintro ⟨first, spaces, second, parts, spelled', nonempty, solid, spelled''⟩
  have initial : caseless 'V' char = true := by
    cases found with
    | nil => exact absurd rfl spelled.marker_nonempty
    | cons other more =>
        obtain ⟨rfl, _⟩ := List.cons.inj shape
        exact (List.forall₂_cons.mp spelled).1
  have inFirst : char ∉ first := by
    intro member
    obtain ⟨letter, inside, same⟩ := spelled'.exists_letter member
    have equal := caseless_unique (by decide) (not_upper letter inside) initial same
    subst equal
    revert inside
    decide
  have inSpaces : char ∉ spaces := by
    intro member
    have word : unicode.isWord char = true := caseless_isWord (by decide) initial
    rw [unicode.isWord_space char (solid char member)] at word
    cases word
  have atSpaces : front ≠ first ++ spaces := by
    rintro rfl
    exact positive ⟨[], first, spaces, rfl, nonempty, solid, spelled', starts⟩
  rw [List.append_assoc] at parts
  rcases List.append_eq_append_iff.mp parts with ⟨rest, rfl, parts'⟩ | ⟨rest, rfl, parts'⟩
  · cases rest with
    | nil =>
        cases spaces with
        | nil => exact nonempty rfl
        | cons space more =>
            rw [List.nil_append, List.cons_append, List.cons.injEq] at parts'
            exact inSpaces (parts'.1 ▸ List.mem_cons_self)
    | cons other rest =>
        rw [List.cons_append, List.cons.injEq] at parts'
        exact inFirst (List.mem_append_right _ (parts'.1 ▸ List.mem_cons_self))
  · rcases List.append_eq_append_iff.mp parts' with ⟨more, rfl, parts''⟩ | ⟨more, rfl, parts''⟩
    · cases more with
      | nil => exact atSpaces (by simp)
      | cons other more =>
          rw [← List.append_assoc, getLast?_append_or,
            any_last (fun char member => spelled''.isWord unicode marker_upper char
              (by rw [parts'']; exact List.mem_append_left _ member)) (List.cons_ne_nil _ _)]
            at starts'
          cases starts'
    · cases more with
      | nil => exact atSpaces (by simp)
      | cons other more =>
          rw [List.cons_append, List.cons.injEq] at parts''
          apply inSpaces
          rw [parts''.1]
          exact List.mem_append_right _ List.mem_cons_self

/-- A negated marker that is left out hides no other and makes no other. -/
theorem markedFrom_skip {taken left : List Char} (starts : before.any unicode.isWord = false)
    (negated : NegatedMarker taken) :
    MarkedFrom unicode before (taken ++ left) ↔
      MarkedFrom unicode (taken.getLast?.or before) left := by
  constructor
  · rintro ⟨front, found, back, shape, spelled, starts', ends, positive⟩
    rw [List.append_assoc] at shape
    rcases List.append_eq_append_iff.mp shape with ⟨front, rfl, rfl⟩ | ⟨cut, rfl, shape'⟩
    · rw [getLast?_append_or] at starts'
      refine ⟨front, found, back, by simp, spelled, starts', ends, ?_⟩
      intro negated'
      exact positive negated'.append
    · cases cut with
      | nil =>
          rw [List.append_nil, List.nil_append] at *
          refine ⟨[], found, back, shape'.symm, spelled, starts', ends, ?_⟩
          rintro ⟨start, first, spaces, nothing, nonempty, _⟩
          exact nonempty (List.append_eq_nil_iff.mp nothing.symm).2
      | cons char cut => exact absurd negated (unaligned spelled starts starts' positive shape')
  · rintro ⟨front, found, back, rfl, spelled, starts', ends, positive⟩
    refine ⟨taken ++ front, found, back, by simp, spelled, ?_, ends, ?_⟩
    · rw [getLast?_append_or]
      exact starts'
    · rintro ⟨start, first, spaces, shape, nonempty, solid, spelled', starts''⟩
      rw [List.append_assoc] at shape
      rcases List.append_eq_append_iff.mp shape with ⟨start, rfl, rfl⟩ | ⟨cut, rfl, shape'⟩
      · rw [getLast?_append_or] at starts''
        exact positive ⟨start, first, spaces, by simp, nonempty, solid, spelled', starts''⟩
      · cases cut with
        | nil =>
            rw [List.append_nil, List.nil_append] at *
            exact positive ⟨[], first, spaces, by simpa using shape'.symm, nonempty, solid, spelled',
              starts''⟩
        | cons char cut =>
            refine marker_last spelled' solid negated ((char :: cut).getLast (by simp)) ?_ ?_
            · simp [List.getLast?_eq_some_getLast]
            · rw [shape']
              exact List.mem_append_left _ (List.getLast_mem _)

theorem search_nil : ((marker unicode).search before' []).isSome = true ↔
    MarkedFrom unicode before [] := by
  constructor
  · intro found
    obtain ⟨run, first⟩ := Option.isSome_iff_exists.mp found
    obtain ⟨_, _, shape, spelled, _⟩ := mem_marker.mp (List.mem_of_head? first)
    exact absurd (List.append_eq_nil_iff.mp shape.symm).1 spelled.marker_nonempty
  · rintro ⟨front, found, back, shape, spelled, _⟩
    have nothing := (List.append_eq_nil_iff.mp shape.symm).1
    exact absurd (List.append_eq_nil_iff.mp nothing).2 spelled.marker_nonempty

/-- The search in what is left after the deletion finds the markers that are not negated. -/
theorem search_delete {fuel : Nat} (enough : text.length ≤ fuel)
    (agree : before = before' ∨ text.head?.any unicode.isWord = false) :
    ((marker unicode).search before'
        ((negatedMarker unicode).delete fuel before text)).isSome = true ↔
      MarkedFrom unicode before text := by
  induction fuel generalizing before before' text with
  | zero =>
      rw [List.length_eq_zero_iff.mp (Nat.le_zero.mp enough)]
      exact search_nil
  | succ fuel ih =>
      cases text with
      | nil => exact search_nil
      | cons char rest =>
          cases tried : ((negatedMarker unicode).runs before (char :: rest)).head? with
          | none =>
              have unmatched := List.head?_eq_none_iff.mp tried
              have agree' : before = before' ∨ unicode.isWord char = false := agree
              rw [Pattern.delete_cons_none unmatched, Pattern.search_cons_isSome,
                markedFrom_cons unmatched,
                marker_delete (Nat.le_of_succ_le_succ enough) agree',
                ih (Nat.le_of_succ_le_succ enough) (.inl rfl)]
          | some run =>
              obtain ⟨starts, _, shape, negated, ends⟩ :=
                mem_negatedMarker.mp (List.mem_of_head? tried)
              have shorter : run.left.length ≤ fuel := by
                have taken : run.taken.length ≠ 0 := by
                  obtain ⟨first, spaces, second, parts, _, nonempty, _⟩ := negated
                  simp [parts, nonempty]
                have whole := congrArg List.length shape
                rw [List.length_append] at whole
                omega
              rw [Pattern.delete_cons_some tried, ih shorter (.inr ends), shape]
              exact (markedFrom_skip starts negated).symm

theorem isVulnerable_iff : isVulnerable unicode text = true ↔ unicode.Marked text := by
  rw [isVulnerable, search_delete (Nat.le_refl _) (.inl rfl), marked_iff]

instance (unicode : Unicode) (output : List Char) : Decidable (unicode.Marked output) :=
  decidable_of_iff (isVulnerable unicode output = true) isVulnerable_iff

end

/-! What a draft holds. -/

/-- The places of a report in the order of the document. -/
def NmapReport.places (report : NmapReport) : List Place := report.hosts.flatMap NmapHost.places

/-- `CVE-dddd-dddd+`. -/
def Unicode.IsCve (unicode : Unicode) (text : List Char) : Prop :=
  ∃ year number, text = "CVE-".toList ++ year ++ '-' :: number ∧ year.length = 4 ∧
    4 ≤ number.length ∧ ∀ char ∈ year ++ number, unicode.isDigit char = true

structure SoundDraft (unicode : Unicode) (output : List Char) (draft : FindingDraft) : Prop where
  canonical : (Vulnerabilities.VulnerabilitySeverity.ofString? draft.severity).isSome = true
  bounded : ∀ score ∈ draft.cvssScore, 0 ≤ score ∧ score ≤ 10
  graded : draft.severity = severityFromCvss draft.cvssScore
  titled : draft.title.length ≤ 255
  described : draft.description.length ≤ 8000
  named : ∀ cve ∈ draft.cveId, unicode.IsCve cve.toList ∧ cve.length ≤ 50 ∧ cve.toList <:+: output

section

variable {unicode : Unicode} {output : List Char} {place : Place} {report : NmapReport}

theorem severityFromCvss_canonical (score : Option ℚ) :
    (Vulnerabilities.VulnerabilitySeverity.ofString? (severityFromCvss score)).isSome = true := by
  unfold severityFromCvss
  split
  next => rfl
  next =>
    split
    next => rfl
    next =>
      split
      next => rfl
      next =>
        split
        next => rfl
        next => split <;> rfl

theorem roundTenths_bounds {value : ℚ} (above : 0 ≤ value) (below : value ≤ 10) :
    0 ≤ roundTenths value ∧ roundTenths value ≤ 10 := by
  obtain ⟨low, high⟩ := @Doubles.roundHalfEven_bounds (value * 10) 0 100 (by push_cast; linarith)
    (by push_cast; linarith)
  have low' : (0 : ℚ) ≤ Doubles.roundHalfEven (value * 10) := by exact_mod_cast low
  have high' : (Doubles.roundHalfEven (value * 10) : ℚ) ≤ 100 := by exact_mod_cast high
  constructor
  · rw [roundTenths]
    positivity
  · rw [roundTenths]
    linarith

theorem clamped_bounds (text : List Char) :
    0 ≤ clamped unicode text ∧ clamped unicode text ≤ 10 := by
  rw [clamped]
  split
  next value _ => exact ⟨le_min (by norm_num) (le_max_left _ _), min_le_left _ _⟩
  next => split <;> norm_num

theorem shorten_length (width : Nat) (text : List Char) : (shorten width text).length ≤ width := by
  rw [shorten, String.length_ofList]
  exact List.length_take_le width text

theorem cveOf_some {cve : List Char} (given : cveOf unicode output = some cve) :
    unicode.IsCve cve ∧ cve <:+: output := by
  obtain ⟨run, found, rfl⟩ := Option.map_eq_some_iff.mp given
  obtain ⟨front, shape, member⟩ := Pattern.search_some found
  refine ⟨?_, front, run.left, by rw [shape, List.append_assoc]⟩
  obtain ⟨head, member₁, later₁, rest₁, rfl⟩ := mem_seq.mp member
  obtain ⟨year, member₂, later₂, rest₂, rfl⟩ := mem_seq.mp rest₁
  obtain ⟨dash, member₃, later₃, rest₃, rfl⟩ := mem_seq.mp rest₂
  obtain ⟨four, member₄, more, member₅, rfl⟩ := mem_seq.mp rest₃
  obtain ⟨_, _, spelled⟩ := mem_word.mp member₁
  obtain ⟨_, _, length, digits⟩ := Pattern.mem_times_chars.mp member₂
  obtain ⟨mark, _, same, _, rfl⟩ := mem_chars.mp member₃
  obtain ⟨_, _, length', digits'⟩ := Pattern.mem_times_chars.mp member₄
  obtain ⟨_, _, digits''⟩ := mem_star_chars.mp member₅
  rw [beq_iff_eq] at same
  have literal : head.taken = "CVE-".toList := by
    have equal := (List.forall₂_map_left_iff.mp spelled).imp fun _ _ same => (beq_iff_eq.mp same).symm
    rw [List.forall₂_eq_eq_eq] at equal
    exact equal.symm
  refine ⟨year.taken, four.taken ++ more.taken, ?_, length, ?_, ?_⟩
  · simp only [Found.append, literal, same, List.append_assoc, List.cons_append, List.nil_append]
  · rw [List.length_append]
    omega
  · intro char member
    simp only [List.mem_append] at member
    rcases member with member | member | member
    · exact digits char member
    · exact digits' char member
    · exact digits'' char member

/-- Shortening a CVE leaves a CVE. -/
theorem Unicode.IsCve.take {cve : List Char} (named : unicode.IsCve cve) :
    unicode.IsCve (cve.take 50) := by
  obtain ⟨year, number, rfl, length, length', digits⟩ := named
  refine ⟨year, number.take 41, ?_, length, ?_, ?_⟩
  · have width : ("CVE-".toList ++ year).length = 8 := by
      rw [List.length_append, length]
      rfl
    rw [List.take_append, width, List.take_of_length_le (by omega), List.take_succ_cons]
  · rw [List.length_take]
    omega
  · intro char member
    apply digits
    rcases List.mem_append.mp member with member | member
    · exact List.mem_append_left _ member
    · exact List.mem_append_right _ (List.mem_of_mem_take member)

theorem draft_sound : SoundDraft unicode place.output (place.draft unicode) where
  canonical := severityFromCvss_canonical _
  bounded := by
    intro score given
    obtain ⟨text, _, rfl⟩ := Option.map_eq_some_iff.mp given
    obtain ⟨above, below⟩ := @clamped_bounds unicode text
    exact roundTenths_bounds above below
  graded := rfl
  titled := shorten_length 255 _
  described := shorten_length 8000 _
  named := by
    intro cve given
    obtain ⟨whole, found, rfl⟩ := Option.map_eq_some_iff.mp given
    obtain ⟨named, inside⟩ := cveOf_some found
    refine ⟨?_, shorten_length 50 whole, ?_⟩
    · rw [shorten, String.toList_ofList]
      exact named.take
    · rw [shorten, String.toList_ofList]
      exact (List.take_prefix 50 whole).isInfix.trans inside

theorem extractFindings_eq : extractFindings unicode report =
    (report.places.filter fun place => unicode.Marked place.output).map (·.draft unicode) := by
  have each : ∀ host : NmapHost, (host.places.filterMap fun place =>
      if isVulnerable unicode place.output then some (place.draft unicode) else none) =
        (host.places.filter fun place => unicode.Marked place.output).map (·.draft unicode) := by
    intro host
    induction host.places with
    | nil => rfl
    | cons place places ih =>
        rw [List.filterMap_cons, List.filter_cons, ih]
        by_cases marked : unicode.Marked place.output
        · simp only [isVulnerable_iff.mpr marked, marked, ↓reduceIte, decide_true, List.map_cons]
        · have unmarked := mt isVulnerable_iff.mp marked
          simp only [unmarked, marked, ↓reduceIte, decide_false, Bool.false_eq_true]
  rw [extractFindings, NmapReport.places]
  induction report.hosts with
  | nil => rfl
  | cons host hosts ih =>
      rw [List.flatMap_cons, List.flatMap_cons, List.filter_append, List.map_append, each host, ih]

/-- A draft for each script with a marker that is not negated, and for no other: host by host,
for its scripts and then for those of each port. Every draft is sound. -/
theorem extract_findings_marked :
    (extractFindings unicode report = report.hosts.flatMap fun host =>
      let address := host.addresses.head?.getD "unknown"
      let drafts (port : Option Nat) (protocol : Option String) (scripts : List ScriptFinding) :=
        ((scripts.map fun script => Place.mk script address port protocol).filter fun place =>
          unicode.Marked place.output).map (·.draft unicode)
      drafts none none host.hostScripts ++ host.ports.flatMap fun port =>
        drafts (some port.portId) port.protocol port.scripts) ∧
    ∀ place : Place, SoundDraft unicode place.output (place.draft unicode) := by
  refine ⟨?_, fun _ => draft_sound⟩
  rw [extractFindings_eq, NmapReport.places, List.filter_flatMap, List.map_flatMap]
  congr 1
  funext host
  rw [NmapHost.places, List.filter_append, List.map_append, List.filter_flatMap, List.map_flatMap]

end

end Nmap
