import Mathlib.Data.List.Basic
import Mathlib.Data.Rat.Defs

set_option autoImplicit false

/-! The documents that `json.loads` reads. They have numbers and texts that `jsonb` has not: the
infinities and NaN, and surrogates that stand alone. -/

/-- A code point of a Python text, which may be a surrogate. -/
abbrev CodePoint := Fin 0x110000

namespace CodePoint

def ofChar (char : Char) : CodePoint := Fin.ofNat _ char.toNat

def char? (code : CodePoint) : Option Char :=
  if valid : code.val.isValidChar then some (Char.ofNatAux code.val valid) else none

/-- The character of a high surrogate and the low one after it. -/
def paired? (high low : CodePoint) : Option Char :=
  if 0xD800 ≤ high.val ∧ high.val < 0xDC00 ∧ 0xDC00 ≤ low.val ∧ low.val < 0xE000 then
    char? (Fin.ofNat _ (0x10000 + (high.val - 0xD800) * 0x400 + (low.val - 0xDC00)))
  else none

end CodePoint

/-- A text of a document. -/
abbrev LoadedText := List CodePoint

def codePoints (text : String) : LoadedText := text.toList.map CodePoint.ofChar

/-- The text that `jsonb` reads where `json.dumps` has escaped the code points. -/
def readText : LoadedText → Option (List Char)
  | [] => some []
  | [code] => code.char?.map ([·])
  | code :: next :: rest =>
      match CodePoint.paired? code next with
      | some char => (readText rest).map (char :: ·)
      | none => code.char?.bind fun char => (readText (next :: rest)).map (char :: ·)

inductive LoadedFloat where
  | finite (value : ℚ)
  | infinity (negative : Bool)
  | nan
  deriving DecidableEq, Repr

def LoadedFloat.value? : LoadedFloat → Option ℚ
  | finite value => some value
  | _ => none

inductive Loaded where
  | null
  | bool (value : Bool)
  | int (value : Int)
  | float (value : LoadedFloat)
  | str (text : LoadedText)
  | arr (items : List Loaded)
  | obj (fields : List (LoadedText × Loaded))

/-- A `dict` of a body. -/
abbrev LoadedObject := List (LoadedText × Loaded)

section

open CodePoint (ofChar paired?)

variable {char : Char} {code next : CodePoint} {codes : LoadedText} {text : List Char}

theorem CodePoint.ofChar_val : (ofChar char).val = char.toNat := by
  have valid : char.toNat.isValidChar := char.valid
  unfold Nat.isValidChar at valid
  exact Nat.mod_eq_of_lt (by omega)

theorem CodePoint.char?_ofChar : (ofChar char).char? = some char := by
  have valid : (ofChar char).val.isValidChar := by
    rw [CodePoint.ofChar_val]
    exact char.valid
  rw [CodePoint.char?, dif_pos valid]
  apply congrArg some
  apply Char.ext
  apply UInt32.toNat_inj.mp
  exact CodePoint.ofChar_val

theorem CodePoint.char?_some (read : code.char? = some char) : code = ofChar char := by
  unfold CodePoint.char? at read
  by_cases valid : code.val.isValidChar
  · rw [dif_pos valid] at read
    cases read
    apply Fin.ext
    rw [CodePoint.ofChar_val]
    rfl
  · rw [dif_neg valid] at read
    cases read

/-- A character is half of no pair. -/
theorem CodePoint.paired?_ofChar : paired? (ofChar char) next = none := by
  have valid : char.toNat.isValidChar := char.valid
  unfold Nat.isValidChar at valid
  rw [paired?, CodePoint.ofChar_val, if_neg (by omega)]

/-- A pair makes a character above the basic plane. -/
theorem CodePoint.paired?_some (pair : paired? code next = some char) : 0x10000 ≤ char.toNat := by
  unfold paired? at pair
  split at pair
  next surrogates =>
    have whole := congrArg Fin.val (CodePoint.char?_some pair)
    rw [CodePoint.ofChar_val, Fin.val_ofNat] at whole
    omega
  next => cases pair

theorem readText_cons (alone : paired? code next = none) : readText (code :: next :: codes) =
    code.char?.bind fun char => (readText (next :: codes)).map (char :: ·) := by
  rw [readText, alone]

theorem readText_ofChar : readText (text.map ofChar) = some text := by
  induction text with
  | nil => rfl
  | cons char rest ih =>
      cases rest with
      | nil =>
          show (ofChar char).char?.map ([·]) = _
          rw [CodePoint.char?_ofChar]
          rfl
      | cons next rest =>
          show readText (ofChar char :: ofChar next :: rest.map ofChar) = _
          rw [readText_cons CodePoint.paired?_ofChar, CodePoint.char?_ofChar, Option.bind_some]
          show (readText ((next :: rest).map ofChar)).map (char :: ·) = _
          rw [ih]
          rfl

/-- Characters of the basic plane are read from their own code points only. -/
theorem readText_basic (read : readText codes = some text)
    (basic : ∀ char ∈ text, char.toNat < 0x10000) : codes = text.map ofChar := by
  induction codes using readText.induct generalizing text with
  | case1 =>
      cases read
      rfl
  | case2 code =>
      obtain ⟨char, own, rfl⟩ := Option.map_eq_some_iff.mp read
      rw [CodePoint.char?_some own]
      rfl
  | case3 code next rest char pair ih =>
      rw [readText, pair] at read
      obtain ⟨others, _, rfl⟩ := Option.map_eq_some_iff.mp read
      have above := CodePoint.paired?_some pair
      have below := basic char List.mem_cons_self
      omega
  | case4 code next rest alone ih =>
      rw [readText_cons alone] at read
      obtain ⟨char, own, read⟩ := Option.bind_eq_some_iff.mp read
      obtain ⟨others, later, rfl⟩ := Option.map_eq_some_iff.mp read
      rw [CodePoint.char?_some own, ih later fun other member =>
        basic other (List.mem_cons_of_mem _ member)]
      rfl

theorem CodePoint.ofChar_injective : Function.Injective ofChar := by
  intro char other same
  have values := congrArg Fin.val same
  rw [CodePoint.ofChar_val, CodePoint.ofChar_val] at values
  exact Char.toNat_inj.mp values

/-- What the first code point of a text is read as. -/
theorem readText_first (read : readText codes = some text) :
    codes.head?.elim (text = []) fun code => ∃ first, text.head? = some first ∧
      (code = ofChar first ∨ (∃ next, paired? code next = some first)) := by
  induction codes using readText.induct with
  | case1 =>
      cases read
      rfl
  | case2 code =>
      obtain ⟨first, own, rfl⟩ := Option.map_eq_some_iff.mp read
      exact ⟨first, rfl, .inl (CodePoint.char?_some own)⟩
  | case3 code next rest first pair ih =>
      rw [readText, pair] at read
      obtain ⟨others, _, rfl⟩ := Option.map_eq_some_iff.mp read
      exact ⟨first, rfl, .inr ⟨next, pair⟩⟩
  | case4 code next rest alone ih =>
      rw [readText_cons alone] at read
      obtain ⟨first, own, read⟩ := Option.bind_eq_some_iff.mp read
      obtain ⟨others, _, rfl⟩ := Option.map_eq_some_iff.mp read
      exact ⟨first, rfl, .inl (CodePoint.char?_some own)⟩

theorem readText_nil_iff (read : readText codes = some text) : codes = [] ↔ text = [] := by
  have first := readText_first read
  cases codes with
  | nil => exact iff_of_true rfl first
  | cons code others =>
      obtain ⟨char, starts, _⟩ := first
      refine iff_of_false (List.cons_ne_nil _ _) ?_
      rintro rfl
      cases starts

theorem readText_head_iff (read : readText codes = some text) (basic : char.toNat < 0x10000) :
    codes.head? = some (ofChar char) ↔ text.head? = some char := by
  have first := readText_first read
  cases codes with
  | nil =>
      have empty : text = [] := first
      rw [empty]
      exact iff_of_false (fun none => by cases none) (fun none => by cases none)
  | cons code others =>
      obtain ⟨other, starts, own | ⟨next, pair⟩⟩ := first
      · rw [starts, List.head?_cons, own, Option.some.injEq, Option.some.injEq,
          CodePoint.ofChar_injective.eq_iff]
      · have above := CodePoint.paired?_some pair
        rw [starts, List.head?_cons]
        refine iff_of_false ?_ ?_
        · intro same
          cases Option.some.inj same
          rw [CodePoint.paired?_ofChar] at pair
          cases pair
        · intro same
          cases same
          omega

end

/-- The text in UTF-8, where it can be encoded. -/
def LoadedText.encoded (text : LoadedText) : Option String :=
  (text.mapM CodePoint.char?).map String.ofList

theorem LoadedText.encoded_codePoints (text : String) : LoadedText.encoded (codePoints text) = some text := by
  have points (chars : List Char) :
      (chars.map CodePoint.ofChar).mapM CodePoint.char? = some chars := by
    induction chars with
    | nil => rfl
    | cons char chars ih =>
        rw [List.map_cons, List.mapM_cons, CodePoint.char?_ofChar, ih]
        rfl
  rw [LoadedText.encoded, codePoints, points, Option.map_some, String.ofList_toList]

theorem LoadedText.mapM_char? {codes : LoadedText} {chars : List Char}
    (read : codes.mapM CodePoint.char? = some chars) : codes = chars.map CodePoint.ofChar := by
  induction codes generalizing chars with
  | nil =>
      cases read
      rfl
  | cons code codes ih =>
      rw [List.mapM_cons] at read
      obtain ⟨char, own, read⟩ := Option.bind_eq_some_iff.mp read
      obtain ⟨others, later, read⟩ := Option.bind_eq_some_iff.mp read
      cases read
      rw [CodePoint.char?_some own, ih later, List.map_cons]

/-- What can be encoded is the code points of a string. -/
theorem LoadedText.encoded_some {codes : LoadedText} {text : String} (read : LoadedText.encoded codes = some text) :
    codes = codePoints text := by
  obtain ⟨chars, each, rfl⟩ := Option.map_eq_some_iff.mp read
  rw [codePoints, String.toList_ofList]
  exact LoadedText.mapM_char? each
