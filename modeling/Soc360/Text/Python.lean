import Mathlib.Algebra.GroupWithZero.Nat
import Soc360.Text.Trim
import Mathlib.Data.String.Basic

set_option autoImplicit false

/-! Methods of Python's `str`, on lists of characters. -/

namespace Python

/-- `str.isspace` of a character. -/
def isSpace (char : Char) : Bool :=
  char.toNat ∈ [0x9, 0xa, 0xb, 0xc, 0xd, 0x1c, 0x1d, 0x1e, 0x1f, 0x20, 0x85, 0xa0, 0x1680, 0x2000,
    0x2001, 0x2002, 0x2003, 0x2004, 0x2005, 0x2006, 0x2007, 0x2008, 0x2009, 0x200a, 0x2028, 0x2029,
    0x202f, 0x205f, 0x3000]

/-- `[A-Z]`. -/
def isUpper (char : Char) : Bool := 0x41 ≤ char.toNat && char.toNat ≤ 0x5a

/-- `[a-zA-Z]`. -/
def isLetter (char : Char) : Bool := isUpper char || 0x61 ≤ char.toNat && char.toNat ≤ 0x7a

/-- `[a-zA-Z0-9]`. -/
def isAlnum (char : Char) : Bool := isLetter char || 0x30 ≤ char.toNat && char.toNat ≤ 0x39

/-- `strip`. -/
def strip (text : List Char) : List Char := (text.dropWhile isSpace).rdropWhile isSpace

/-- `rstrip(".")`. -/
def rstripDots (text : List Char) : List Char := text.rdropWhile (· == '.')

theorem toLower_toNat {letter : Char} (upper : isUpper letter = true) :
    letter.toLower.toNat = letter.toNat + 32 := by
  have range : 0x41 ≤ letter.toNat ∧ letter.toNat ≤ 0x5a := by
    simpa [isUpper] using upper
  have capital : letter.val ≥ 'A'.val ∧ letter.val ≤ 'Z'.val := by
    simp only [ge_iff_le, UInt32.le_iff_toNat_le]
    exact range
  have shift : ('a'.val - 'A'.val).toNat = 32 := by decide
  have small : letter.val.toNat ≤ 0x5a := range.2
  delta Char.toLower
  rw [dif_pos capital]
  change (letter.val + _).toNat = letter.val.toNat + 32
  rw [UInt32.toNat_add, shift]
  omega

theorem isUpper_toLower (char : Char) : isUpper char.toLower = false := by
  by_cases upper : isUpper char = true
  · have lower := toLower_toNat upper
    simp only [isUpper, Bool.and_eq_true, decide_eq_true_eq] at upper
    rw [isUpper, lower, Bool.and_eq_false_iff]
    exact .inr (decide_eq_false (by omega))
  · have other : ¬(char.val ≥ 'A'.val ∧ char.val ≤ 'Z'.val) := by
      simp only [ge_iff_le, UInt32.le_iff_toNat_le]
      simpa [isUpper] using upper
    delta Char.toLower
    rw [dif_neg other]
    exact Bool.eq_false_iff.mpr upper

theorem strip_strip (text : List Char) : strip (strip text) = strip text := List.trim_trim

section

variable {word : List Char}

/-- What holds of each character of a given text, by evaluation. -/
theorem each_of_all {accepts : Char → Bool} {value : Bool}
    (all : (word.all fun char => accepts char == value) = true) :
    ∀ char ∈ word, accepts char = value := by
  intro char member
  exact beq_iff_eq.mp (List.all_eq_true.mp all char member)

theorem strip_word (solid : ∀ char ∈ word, isSpace char = false) : strip word = word :=
  List.trim_solid solid

theorem strip_line (solid : ∀ char ∈ word, isSpace char = false) :
    strip (word ++ ['\n']) = word := by
  have newline : ∀ char ∈ ['\n'], isSpace char = true := by
    intro char member
    rw [List.mem_singleton.mp member]
    decide
  exact List.trim_between (List.forall_mem_nil _) newline (List.trim_solid solid)

/-- The last line is dots, and whitespace may follow. -/
def DotsLine (text : List Char) : Prop :=
  ∃ front dots spaces, text = front ++ '\n' :: (dots ++ spaces) ∧ dots ≠ [] ∧
    (∀ char ∈ dots, char = '.') ∧ ∀ char ∈ spaces, isSpace char = true

/-- A newline that ends a text without its outer whitespace and dots stood before the dots. -/
theorem dotsLine_of_rstripDots {text : List Char}
    (ended : (rstripDots (strip text)).getLast? = some '\n') : DotsLine text := by
  obtain ⟨front, shape⟩ := List.getLast?_eq_some_iff.mp ended
  have stripped : strip text = front ++ '\n' :: (strip text).rtakeWhile (· == '.') := by
    have parts : rstripDots (strip text) ++ (strip text).rtakeWhile (· == '.') = strip text :=
      List.rdropWhile_append_rtakeWhile
    rw [shape, List.append_assoc] at parts
    exact parts.symm
  have whole : text = text.takeWhile isSpace ++
      (strip text ++ (text.dropWhile isSpace).rtakeWhile isSpace) := by
    rw [strip, List.rdropWhile_append_rtakeWhile, List.takeWhile_append_dropWhile]
  refine ⟨text.takeWhile isSpace ++ front, (strip text).rtakeWhile (· == '.'),
    (text.dropWhile isSpace).rtakeWhile isSpace, ?_, ?_, ?_, ?_⟩
  · calc text = text.takeWhile isSpace ++
          (strip text ++ (text.dropWhile isSpace).rtakeWhile isSpace) := whole
      _ = text.takeWhile isSpace ++ (front ++ '\n' :: (strip text).rtakeWhile (· == '.') ++
          (text.dropWhile isSpace).rtakeWhile isSpace) := by rw [← stripped]
      _ = _ := by simp only [List.append_assoc, List.cons_append]
  · intro nothing
    rw [nothing] at stripped
    have nonempty : strip text ≠ [] := by
      rw [stripped]
      exact List.append_ne_nil_of_right_ne_nil _ (List.cons_ne_nil _ _)
    apply List.rdropWhile_last_not isSpace (text.dropWhile isSpace) nonempty
    have last : (strip text).getLast? = some '\n' := by
      rw [stripped, List.getLast?_concat]
    rw [List.getLast?_eq_some_getLast nonempty] at last
    change isSpace ((strip text).getLast nonempty) = true
    rw [Option.some.inj last]
    decide
  · intro char member
    have dot := @List.mem_rtakeWhile_imp _ (· == '.') _ _ member
    exact eq_of_beq dot
  · intro char member
    exact List.mem_rtakeWhile_imp member

theorem rstripDots_of_dotsLine {text : List Char} (line : DotsLine text) :
    rstripDots (strip text) = [] ∨ (rstripDots (strip text)).getLast? = some '\n' := by
  obtain ⟨front, dots, spaces, rfl, nonempty, dotted, spaced⟩ := line
  have undotted : ∀ word, rstripDots (word ++ dots) = rstripDots word :=
    fun word => List.rdropWhile_append word fun char member => beq_iff_eq.mpr (dotted char member)
  have last : ∀ word, (word ++ dots).rdropWhile isSpace = word ++ dots := by
    intro word
    apply List.rdropWhile_of_last
    intro char member
    rw [List.getLast?_append_of_ne_nil _ nonempty] at member
    rw [dotted char (List.mem_of_getLast? member)]
    decide
  have stripped : ∀ word, (word ++ dots ++ spaces).rdropWhile isSpace = word ++ dots := by
    intro word
    rw [List.rdropWhile_append _ spaced, last]
  by_cases blank : ∀ char ∈ front, isSpace char = true
  · left
    have trimmed : strip (front ++ '\n' :: (dots ++ spaces)) = [] ++ dots := by
      have lead : ∀ char ∈ front ++ ['\n'], isSpace char = true := by
        intro char member
        rcases List.mem_append.mp member with member | member
        · exact blank char member
        · rw [List.mem_singleton.mp member]
          decide
      have shape : front ++ '\n' :: (dots ++ spaces) = (front ++ ['\n']) ++ (dots ++ spaces) := by
        rw [List.append_assoc, List.singleton_append]
      obtain ⟨dot, others, rfl⟩ := List.exists_cons_of_ne_nil nonempty
      rw [strip, shape, List.dropWhile_append_of_pos lead, List.cons_append,
        List.dropWhile_cons_of_neg, ← List.cons_append]
      · exact stripped []
      · rw [dotted dot List.mem_cons_self]
        decide
    rw [trimmed, undotted]
    rfl
  · right
    have some' : (front.dropWhile isSpace).isEmpty = false := by
      apply Bool.eq_false_iff.mpr
      intro nothing
      apply blank
      exact List.dropWhile_eq_nil_iff.mp (List.isEmpty_iff.mp nothing)
    have trimmed : strip (front ++ '\n' :: (dots ++ spaces)) =
        (front.dropWhile isSpace ++ ['\n']) ++ dots := by
      rw [strip, List.dropWhile_append, some', if_neg (by decide)]
      have shape : front.dropWhile isSpace ++ '\n' :: (dots ++ spaces) =
          (front.dropWhile isSpace ++ ['\n']) ++ dots ++ spaces := by
        simp only [List.append_assoc, List.cons_append, List.nil_append]
      rw [shape, stripped]
    have newline : rstripDots (front.dropWhile isSpace ++ ['\n']) =
        front.dropWhile isSpace ++ ['\n'] :=
      List.rdropWhile_concat_neg _ _ _ (by decide)
    rw [trimmed, undotted, newline, List.getLast?_concat]

end

/-! `split(".")`. -/

section

open String (utf8Len utf8Len_append utf8Len_eq_zero get_of_valid next_of_valid extract_of_valid)

theorem atEnd_ofList (before rest : List Char) :
    String.Pos.Raw.atEnd (String.ofList (before ++ rest)) ⟨utf8Len before⟩ = true ↔ rest = [] := by
  rw [String.atEnd_iff, String.rawEndPos_ofList, utf8Len_append, String.Pos.Raw.mk_le_mk,
    ← utf8Len_eq_zero]
  omega

/-- With `before` behind, `word` read since the last separator and `after` ahead. -/
theorem splitOnAux_dot (before word after : List Char) (found : List String) :
    String.splitOnAux (String.ofList (before ++ word ++ after)) "." ⟨utf8Len before⟩
        ⟨utf8Len before + utf8Len word⟩ 0 found =
      found.reverse ++ (after.splitOnPPrepend (· == '.') word.reverse).map String.ofList := by
  induction after generalizing before word found with
  | nil =>
      have whole := extract_of_valid before word []
      have ends := (atEnd_ofList (before ++ word) []).mpr rfl
      rw [utf8Len_append] at ends
      unfold String.splitOnAux
      rw [if_pos ends, whole]
      simp
  | cons char rest ih =>
      have get : String.Pos.Raw.get (String.ofList (before ++ word ++ char :: rest))
          ⟨utf8Len before + utf8Len word⟩ = char := by
        simpa using get_of_valid (before ++ word) (char :: rest)
      have next : String.Pos.Raw.next (String.ofList (before ++ word ++ char :: rest))
          ⟨utf8Len before + utf8Len word⟩ = ⟨utf8Len before + utf8Len word + char.utf8Size⟩ := by
        simpa using next_of_valid (before ++ word) char rest
      have goesOn : ¬ String.Pos.Raw.atEnd (String.ofList (before ++ word ++ char :: rest))
          ⟨utf8Len before + utf8Len word⟩ = true := by
        rw [← utf8Len_append, atEnd_ofList]
        exact List.cons_ne_nil char rest
      unfold String.splitOnAux
      rw [if_neg goesOn, get]
      by_cases same : char = '.'
      · subst same
        have piece := extract_of_valid before word ('.' :: rest)
        have step := ih (before ++ word ++ ['.']) [] (String.ofList word :: found)
        have back : String.Pos.Raw.unoffsetBy ⟨utf8Len before + utf8Len word + '.'.utf8Size⟩
            (String.Pos.Raw.next "." 0) = ⟨utf8Len before + utf8Len word⟩ := by
          rw [String.Pos.Raw.ext_iff]
          exact Nat.add_sub_cancel _ _
        rw [if_pos (by decide), next]
        simp only
        rw [if_pos (by decide), back, piece, List.splitOnPPrepend_cons_pos (by rfl)]
        simp [Nat.add_assoc] at step ⊢
        exact step
      · have step := ih before (word ++ [char]) found
        have other : ¬ (char == String.Pos.Raw.get "." 0) = true := by
          rw [beq_iff_eq]
          exact same
        have back : (String.Pos.Raw.unoffsetBy ⟨utf8Len before + utf8Len word⟩ 0) =
            ⟨utf8Len before + utf8Len word⟩ := rfl
        rw [if_neg other, back, next, List.splitOnPPrepend_cons_neg (by simpa using same)]
        simp [Nat.add_assoc] at step ⊢
        exact step

theorem splitOn_dot (text : String) :
    text.splitOn "." = (text.toList.splitOn '.').map String.ofList := by
  have whole := splitOnAux_dot [] [] text.toList []
  rw [String.splitOn, if_neg (by decide), List.splitOn_eq_splitOnP]
  simpa using whole

end

/-- The parts of a text with one more character, which is no separator. -/
theorem splitOn_concat (separator char : Char) (other : char ≠ separator) (text : List Char) :
    ∃ front last, text.splitOn separator = front ++ [last] ∧ last ⊆ text ∧
      (text ++ [char]).splitOn separator = front ++ [last ++ [char]] := by
  induction text with
  | nil => exact ⟨[], [], rfl, by simp, by simp [List.splitOn_cons_eq_if_modifyHead, other]⟩
  | cons first rest ih =>
      obtain ⟨front, last, split, inside, split'⟩ := ih
      have inside' : last ⊆ first :: rest := List.subset_cons_of_subset first inside
      rw [List.cons_append, List.splitOn_cons_eq_if_modifyHead,
        List.splitOn_cons_eq_if_modifyHead, split, split']
      by_cases same : first = separator
      · exact ⟨[] :: front, last, by simp [same], inside', by simp [same]⟩
      · cases front with
        | nil =>
            refine ⟨[], first :: last, by simp [same], ?_, by simp [same]⟩
            exact List.cons_subset_cons first inside
        | cons part front =>
            exact ⟨(first :: part) :: front, last, by simp [same], inside', by simp [same]⟩

/-! `re.sub`. A matcher is given the character before and the text from there on, and says what it
takes and what it leaves. -/

abbrev Matcher := Option Char → List Char → Option (List Char × List Char)

/-- The text as characters that are left alone and matches, from the left. -/
def pieces (matcher : Matcher) : Nat → Option Char → List Char → List (Char ⊕ List Char)
  | 0, _, _ => []
  | _ + 1, _, [] => []
  | fuel + 1, before, char :: rest =>
      match matcher before (char :: rest) with
      | none => .inl char :: pieces matcher fuel (some char) rest
      | some (taken, left) => .inr taken :: pieces matcher fuel taken.getLast? left

/-- No match is empty, so a turn for every character is enough. -/
def sub (matcher : Matcher) (replace : List Char → List Char) (text : List Char) : List Char :=
  (pieces matcher text.length none text).flatMap fun piece =>
    match piece with
    | .inl char => [char]
    | .inr taken => replace taken

/-- The matches and the other characters are those of the text. -/
theorem pieces_within {matcher : Matcher} (splits : ∀ before text taken left,
      matcher before text = some (taken, left) → taken ++ left = text)
    (fuel : Nat) (before : Option Char) (text : List Char) :
    ∀ piece ∈ pieces matcher fuel before text, piece.elim (· ∈ text) (· ⊆ text) := by
  have wider : ∀ {some' more : List Char} {piece : Char ⊕ List Char}, some' ⊆ more →
      piece.elim (· ∈ some') (· ⊆ some') → piece.elim (· ∈ more) (· ⊆ more) := by
    intro some' more piece inside held
    cases piece with
    | inl char => exact inside held
    | inr taken => exact List.Subset.trans held inside
  induction fuel generalizing before text with
  | zero => simp [pieces]
  | succ fuel ih =>
      intro piece member
      cases text with
      | nil => cases member
      | cons char rest =>
          rw [pieces] at member
          split at member
          next =>
            rcases List.mem_cons.mp member with rfl | member
            · exact List.mem_cons_self
            · exact wider (List.subset_cons_self _ _) (ih _ _ piece member)
          next taken left found =>
            have whole := splits _ _ _ _ found
            rcases List.mem_cons.mp member with rfl | member
            · exact whole ▸ List.subset_append_left taken left
            · exact wider (whole ▸ List.subset_append_right taken left) (ih _ _ piece member)

/-- The matcher of `[accepts]{least,}`. -/
def runOf (accepts : Char → Bool) (least : Nat) : Matcher := fun _ text =>
  let taken := text.takeWhile accepts
  if least ≤ taken.length then some (taken, text.dropWhile accepts) else none

/-- `str.join`. -/
def join (separator : String) (parts : List String) : String := separator.intercalate parts

section

variable {separator part : String} {parts : List String}

theorem join_cons (some' : parts ≠ []) :
    join separator (part :: parts) = part ++ separator ++ join separator parts :=
  String.intercalate_cons_of_ne_nil some'

theorem mem_join {char : Char} (member : char ∈ (join separator parts).toList) :
    char ∈ separator.toList ∨ ∃ part ∈ parts, char ∈ part.toList := by
  induction parts with
  | nil => cases member
  | cons part rest ih =>
      cases rest with
      | nil =>
          rw [join, String.intercalate_singleton] at member
          exact .inr ⟨part, List.mem_cons_self, member⟩
      | cons next rest =>
          rw [join_cons (List.cons_ne_nil _ _), String.toList_append, String.toList_append,
            List.mem_append, List.mem_append] at member
          rcases member with (member | member) | member
          · exact .inr ⟨part, List.mem_cons_self, member⟩
          · exact .inl member
          · rcases ih member with inside | ⟨other, member, inside⟩
            · exact .inl inside
            · exact .inr ⟨other, List.mem_cons_of_mem _ member, inside⟩

theorem length_join (some' : parts ≠ []) :
    (join separator parts).length + separator.length =
      (parts.map String.length).sum + parts.length * separator.length := by
  induction parts with
  | nil => exact absurd rfl some'
  | cons part rest ih =>
      cases rest with
      | nil => simp [join]
      | cons next rest =>
          have later := ih (List.cons_ne_nil _ _)
          rw [join_cons (List.cons_ne_nil _ _), String.length_append, String.length_append,
            List.map_cons, List.sum_cons, List.length_cons (a := part), Nat.succ_mul]
          omega

end

end Python
