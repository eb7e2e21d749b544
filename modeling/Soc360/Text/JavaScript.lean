import Mathlib.Data.String.Basic
import Soc360.Text.Doubles
import Soc360.Text.Trim

set_option autoImplicit false

/-! What the frontend uses of JavaScript's strings and numbers. A number is a finite double. -/

namespace JavaScript

/-- What `trim` removes: white space and line terminators. -/
def isSpace (char : Char) : Bool :=
  char.toNat ∈ [0x9, 0xa, 0xb, 0xc, 0xd, 0x20, 0xa0, 0x1680, 0x2000, 0x2001, 0x2002, 0x2003, 0x2004,
    0x2005, 0x2006, 0x2007, 0x2008, 0x2009, 0x200a, 0x2028, 0x2029, 0x202f, 0x205f, 0x3000, 0xfeff]

def trim (text : String) : String := String.ofList (text.toList.trim isSpace)

/-- `length`, in units of UTF-16. -/
def length (text : String) : Nat :=
  (text.toList.map fun char => if char.toNat < 0x10000 then 1 else 2).sum

/-- The pieces of a text of which `skip` characters belong to a separator. -/
def splitFrom (separator : List Char) : Nat → List Char → List (List Char)
  | _, [] => [[]]
  | skip + 1, _ :: rest => splitFrom separator skip rest
  | 0, char :: rest =>
      if separator <+: char :: rest then [] :: splitFrom separator (separator.length - 1) rest
      else (splitFrom separator 0 rest).modifyHead (char :: ·)

/-- `split(separator)`, of a separator that is not empty. -/
def split (separator text : List Char) : List (List Char) := splitFrom separator 0 text

/-- `replace(",", ".")`, of the first comma. -/
def replaceComma (text : String) : String :=
  let (before, after) := text.toList.span (· != ',')
  match after with
  | _ :: after => String.ofList (before ++ '.' :: after)
  | [] => text

/-- `String(x)`. -/
def numberText (x : ℚ) : String :=
  let positive (x : ℚ) : List Char :=
    let (value, point) := Doubles.shortest x
    let digits := Nat.toDigits 10 value
    if digits.length ≤ point && point ≤ 21 then
      digits ++ List.replicate (point - digits.length).toNat '0'
    else if 0 < point && point ≤ 21 then
      digits.take point.toNat ++ '.' :: digits.drop point.toNat
    else if -6 < point && point ≤ 0 then
      '0' :: '.' :: List.replicate (-point).toNat '0' ++ digits
    else
      let power := (Nat.toDigits 10 (point - 1).natAbs)
      digits.take 1 ++ (if digits.length = 1 then [] else '.' :: digits.drop 1) ++
        'e' :: (if 0 < point then '+' else '-') :: power
  String.ofList (if x = 0 then ['0'] else if x < 0 then '-' :: positive (-x) else positive x)

def natOf (base : Nat) (digits : List Char) : Nat :=
  digits.foldl (fun value digit =>
    let code := digit.toLower.toNat
    value * base + (if code < 0x61 then code - 0x30 else code - 0x57)) 0

/-- The exponent of a decimal literal, and nothing after it. -/
def literalExponent : List Char → Option Int
  | [] => some 0
  | mark :: '-' :: digits =>
      if (mark == 'e' || mark == 'E') && !digits.isEmpty && digits.all Char.isDigit then
        some (-(natOf 10 digits : Int))
      else none
  | mark :: '+' :: digits | mark :: digits =>
      if (mark == 'e' || mark == 'E') && !digits.isEmpty && digits.all Char.isDigit then
        some (natOf 10 digits)
      else none

/-- `StrUnsignedDecimalLiteral`, without `Infinity`. -/
def decimalLiteral (chars : List Char) : Option ℚ :=
  let (whole, rest) := chars.span Char.isDigit
  let (fraction, rest) := match rest with
    | '.' :: rest => rest.span Char.isDigit
    | rest => ([], rest)
  if whole = [] && fraction = [] then none
  else (literalExponent rest).map fun power =>
    Doubles.shift (power - fraction.length) (natOf 10 (whole ++ fraction))

/-- `0b`, `0o` and `0x`. -/
def radixLiteral : List Char → Option ℚ
  | '0' :: mark :: digits =>
      let base := match mark.toLower with
        | 'b' => 2
        | 'o' => 8
        | 'x' => 16
        | _ => 0
      let digit (char : Char) : Bool :=
        (char.isDigit || 'a' ≤ char.toLower && char.toLower ≤ 'f') && natOf 16 [char] < base
      if !digits.isEmpty && digits.all digit then some (natOf base digits) else none
  | _ => none

/-- `Number(text)`, or nothing where that is `NaN` or infinite. -/
def number (text : String) : Option ℚ :=
  let value : Option ℚ := match (trim text).toList with
    | [] => some 0
    | '-' :: chars => (decimalLiteral chars).map fun value => -value
    | '+' :: chars => decimalLiteral chars
    | chars => (radixLiteral chars).or (decimalLiteral chars)
  value.bind Doubles.nearest

/-- `Math.round`. -/
def round (x : ℚ) : Int := (x + 1 / 2).floor

section

variable {text : String}

theorem length_of_small (small : ∀ char ∈ text.toList, char.toNat < 0x10000) :
    length text = text.length := by
  have ones : (text.toList.map fun char => if char.toNat < 0x10000 then 1 else 2) =
      text.toList.map fun _ => 1 := by
    apply List.map_congr_left
    intro char member
    exact if_pos (small char member)
  rw [length, ones, List.map_const', List.sum_replicate_nat, Nat.mul_one, String.length_toList]

theorem trim_solid (solid : ∀ char ∈ text.toList, isSpace char = false) : trim text = text := by
  rw [trim, List.trim_solid solid, String.ofList_toList]

end

/-! The pieces of a text. -/

section

variable {separator text word before after : List Char} {char : Char}

theorem splitFrom_pass : splitFrom separator word.length (word ++ text) = split separator text := by
  induction word with
  | nil => rfl
  | cons char word ih => exact ih

/-- A separator at the start leaves an empty piece. -/
theorem split_separator (some : separator ≠ []) :
    split separator (separator ++ text) = [] :: split separator text := by
  obtain ⟨first, others, rfl⟩ := List.exists_cons_of_ne_nil some
  have found : first :: others <+: first :: (others ++ text) := List.prefix_append _ text
  rw [split, List.cons_append, splitFrom, if_pos found]
  exact congrArg ([] :: ·) splitFrom_pass

theorem split_cons (apart : ¬separator <+: char :: text) :
    split separator (char :: text) = (split separator text).modifyHead (char :: ·) := by
  rw [split, splitFrom, if_neg apart]
  rfl

theorem split_none (absent : ¬separator <:+: text) : split separator text = [text] := by
  induction text with
  | nil => rfl
  | cons char rest ih =>
      have apart : ¬separator <+: char :: rest := fun found => absent found.isInfix
      have later : ¬separator <:+: rest :=
        fun found => absent (found.trans (List.suffix_cons char rest).isInfix)
      rw [split_cons apart, ih later]
      rfl

/-- The text up to the first separator is the first piece. -/
theorem split_append (some : separator ≠ [])
    (absent : ¬separator <:+: before ++ separator.dropLast) :
    split separator (before ++ (separator ++ after)) = before :: split separator after := by
  induction before with
  | nil => exact split_separator some
  | cons char before ih =>
      have apart : ¬separator <+: char :: (before ++ (separator ++ after)) := by
        intro found
        have front : char :: (before ++ separator.dropLast) <+:
            char :: (before ++ (separator ++ after)) := by
          rw [List.cons_prefix_cons, List.prefix_append_right_inj]
          exact ⟨rfl, (List.dropLast_prefix separator).trans (List.prefix_append _ _)⟩
        apply absent
        refine (List.prefix_of_prefix_length_le found front ?_).isInfix
        rw [List.length_cons, List.length_append, List.length_dropLast]
        omega
      have later : ¬separator <:+: before ++ separator.dropLast :=
        fun found => absent (found.trans (List.suffix_cons char _).isInfix)
      rw [List.cons_append, split_cons apart, ih later]
      rfl

theorem split_ne_nil (some : separator ≠ []) (text : List Char) : split separator text ≠ [] := by
  induction text with
  | nil => exact List.cons_ne_nil _ _
  | cons char rest ih =>
      by_cases found : separator <+: char :: rest
      · obtain ⟨tail, whole⟩ := found
        rw [← whole, split_separator some]
        exact List.cons_ne_nil _ _
      · rw [split_cons found, ne_eq, List.modifyHead_eq_nil_iff]
        exact ih

/-- A character is in a piece or belongs to a separator. -/
theorem mem_split (some : separator ≠ []) (member : char ∈ text) :
    char ∈ separator ∨ ∃ piece ∈ split separator text, char ∈ piece := by
  induction size : text.length using Nat.strong_induction_on generalizing text with
  | _ size ih =>
    subst size
    by_cases found : separator <+: text
    · obtain ⟨tail, rfl⟩ := found
      rw [split_separator some]
      rcases List.mem_append.mp member with member | member
      · exact .inl member
      · have shorter : tail.length < (separator ++ tail).length := by
          rw [List.length_append]
          exact Nat.lt_add_of_pos_left (List.length_pos_iff.mpr some)
        exact (ih _ shorter member rfl).imp_right
          fun ⟨piece, listed, inside⟩ => ⟨piece, List.mem_cons_of_mem _ listed, inside⟩
    · cases text with
      | nil => cases member
      | cons first rest =>
          obtain ⟨piece, pieces, shape⟩ := List.exists_cons_of_ne_nil (split_ne_nil some rest)
          rw [split_cons found, shape, List.modifyHead_cons]
          rcases List.mem_cons.mp member with rfl | member
          · exact .inr ⟨_, List.mem_cons_self, List.mem_cons_self⟩
          · refine (ih _ (Nat.lt_succ_self _) member rfl).imp_right ?_
            rintro ⟨other, listed, inside⟩
            rw [shape] at listed
            rcases List.mem_cons.mp listed with rfl | listed
            · exact ⟨_, List.mem_cons_self, List.mem_cons_of_mem _ inside⟩
            · exact ⟨other, List.mem_cons_of_mem _ listed, inside⟩

end

end JavaScript
