import Soc360.Nmap.Mentions
import Soc360.Text.Joined
import Soc360.Text.Numerals
import Soc360.Text.Trim

set_option autoImplicit false

/-! Python's `int` of a text. -/

namespace Nmap

open Numerals (maxStrDigits)

/-- The spaces that `int` skips: those of `isspace` but four separators of ASCII. -/
def isIntSpace (char : Char) : Bool :=
  Python.isSpace char && !(0x1c ≤ char.toNat && char.toNat ≤ 0x1f)

def unsigned (body : List Char) : List Char := if body.head?.any isSign then body.tail else body

section

variable (unicode : Unicode)

def signedValue (negative : Prop) [Decidable negative] (digits : List Char) : Int :=
  if negative then -(natOf unicode digits : Int) else (natOf unicode digits : Int)

/-- `int(text)`, or `none` for its `ValueError`. -/
def readInt (text : List Char) : Option Int :=
  let body := text.trim isIntSpace
  let groups := (unsigned body).splitOn '_'
  if (∀ group ∈ groups, group ≠ [] ∧ group.all unicode.isDigit = true) ∧
      groups.flatten.length ≤ maxStrDigits then
    some (signedValue unicode (body.head? = some '-') groups.flatten)
  else none

/-- An integer as Python writes and reads it. -/
structure Literal where
  lead : List Char
  sign : List Char
  groups : List (List Char)
  trail : List Char
  lead_space : ∀ char ∈ lead, isIntSpace char = true
  trail_space : ∀ char ∈ trail, isIntSpace char = true
  sign_one : sign = [] ∨ sign = ['+'] ∨ sign = ['-']
  groups_nonempty : groups ≠ []
  digits : ∀ group ∈ groups, group ≠ [] ∧ ∀ char ∈ group, unicode.isDigit char = true
  short : groups.flatten.length ≤ maxStrDigits

end

section

variable {unicode : Unicode}

namespace Literal

variable (literal : Literal unicode)

def body : List Char := literal.sign ++ ['_'].intercalate literal.groups

def text : List Char := literal.lead ++ literal.body ++ literal.trail

def value : Int := signedValue unicode (literal.sign = ['-']) literal.groups.flatten

end Literal

theorem isDigit_solid {char : Char} (digit : unicode.isDigit char = true) :
    isIntSpace char = false := by
  have word := unicode.isWord_decimal char digit
  by_contra blank
  rw [Bool.not_eq_false, isIntSpace, Bool.and_eq_true] at blank
  rw [unicode.isWord_space char blank.1] at word
  cases word

theorem isDigit_underscore : unicode.isDigit '_' = false :=
  ascii_digitless (by decide) (by decide)

/-- Only a sign is taken off. -/
theorem exists_sign (body : List Char) :
    ∃ sign, body = sign ++ unsigned body ∧ (sign = [] ∨ sign = ['+'] ∨ sign = ['-']) ∧
      (body.head? = some '-' ↔ sign = ['-']) := by
  unfold unsigned
  cases body with
  | nil => exact ⟨[], rfl, .inl rfl, by simp⟩
  | cons char rest =>
    by_cases signed : isSign char = true
    · have signs : char = '+' ∨ char = '-' := by simpa [isSign] using signed
      refine ⟨[char], ?_, ?_, by simp⟩
      · rw [List.head?_cons, Option.any_some, if_pos signed]
        rfl
      · cases signs with
        | inl plus => exact .inr (.inl (by rw [plus]))
        | inr minus => exact .inr (.inr (by rw [minus]))
    · refine ⟨[], ?_, .inl rfl, ?_⟩
      · rw [List.head?_cons, Option.any_some, if_neg signed]
        rfl
      · have other : char ≠ '-' := by
          rintro rfl
          exact signed rfl
        simp [other]

namespace Literal

variable (literal : Literal unicode)

/-- What follows the sign begins with a digit. -/
theorem head_digit : ∃ digit rest, ['_'].intercalate literal.groups = digit :: rest ∧
    unicode.isDigit digit = true := by
  obtain ⟨first, others, groups⟩ := List.exists_cons_of_ne_nil literal.groups_nonempty
  obtain ⟨nonempty, digits⟩ := literal.digits first (groups ▸ List.mem_cons_self)
  obtain ⟨digit, rest, shape⟩ := List.exists_cons_of_ne_nil nonempty
  have isDigit : unicode.isDigit digit = true := digits digit (shape ▸ List.mem_cons_self)
  rw [groups, shape]
  by_cases single : others = []
  · rw [single, List.intercalate_singleton]
    exact ⟨digit, rest, rfl, isDigit⟩
  · rw [List.intercalate_cons_of_ne_nil single]
    exact ⟨digit, _, rfl, isDigit⟩

theorem text_nonempty : literal.text ≠ [] := by
  obtain ⟨digit, rest, shape, _⟩ := literal.head_digit
  rw [text, body, shape]
  simp

theorem body_solid : ∀ char ∈ literal.body, isIntSpace char = false := by
  intro char member
  rw [body, List.mem_append] at member
  cases member with
  | inl signed =>
    rcases literal.sign_one with absent | plus | minus
    · rw [absent] at signed
      cases signed
    · rw [plus, List.mem_singleton] at signed
      rw [signed]
      decide
    · rw [minus, List.mem_singleton] at signed
      rw [signed]
      decide
  | inr inside =>
    cases Joined.mem_intercalate inside with
    | inl underscore =>
      rw [underscore]
      decide
    | inr found =>
      obtain ⟨group, held, inside⟩ := found
      exact isDigit_solid ((literal.digits group held).2 char inside)

theorem trim_text : literal.text.trim isIntSpace = literal.body := by
  apply List.trim_between literal.lead_space literal.trail_space
  exact List.trim_solid literal.body_solid

theorem unsigned_body : unsigned literal.body = ['_'].intercalate literal.groups := by
  obtain ⟨digit, rest, shape, isDigit⟩ := literal.head_digit
  have plain := digit_signless isDigit
  rw [body, shape, unsigned]
  rcases literal.sign_one with absent | plus | minus
  · rw [absent, List.nil_append, List.head?_cons, Option.any_some, plain]
    rfl
  · rw [plus]
    rfl
  · rw [minus]
    rfl

theorem head_body : literal.body.head? = some '-' ↔ literal.sign = ['-'] := by
  obtain ⟨digit, rest, shape, isDigit⟩ := literal.head_digit
  have other : digit ≠ '-' := by
    rintro rfl
    rw [isSign_digit (by decide)] at isDigit
    cases isDigit
  rw [body, shape]
  rcases literal.sign_one with absent | plus | minus
  · simp [absent, other]
  · simp [plus]
  · simp [minus]

theorem splitOn_groups :
    (['_'].intercalate literal.groups).splitOn '_' = literal.groups := by
  apply List.splitOn_intercalate
  · intro group held underscore
    have digit := (literal.digits group held).2 '_' underscore
    rw [isDigit_underscore] at digit
    cases digit
  · exact literal.groups_nonempty

theorem readInt_text : readInt unicode literal.text = some literal.value := by
  have digits : ∀ group ∈ literal.groups, group ≠ [] ∧ group.all unicode.isDigit = true := by
    intro group held
    obtain ⟨nonempty, digits⟩ := literal.digits group held
    exact ⟨nonempty, List.all_eq_true.mpr digits⟩
  unfold readInt
  simp only [literal.trim_text, literal.unsigned_body, literal.splitOn_groups]
  rw [if_pos ⟨digits, literal.short⟩, value, signedValue, signedValue]
  simp only [literal.head_body]

end Literal

/-- `int` takes the literals, each for its value, and nothing else. -/
theorem readInt_eq_some_iff {text : List Char} {value : Int} :
    readInt unicode text = some value ↔
      ∃ literal : Literal unicode, literal.text = text ∧ literal.value = value := by
  constructor
  · intro read
    unfold readInt at read
    dsimp only at read
    split at read
    next valid =>
      obtain ⟨digits, short⟩ := valid
      obtain ⟨lead, trail, shape, lead_space, trail_space⟩ := text.exists_trim isIntSpace
      obtain ⟨sign, signed, sign_one, minus⟩ := exists_sign (text.trim isIntSpace)
      have joined : ['_'].intercalate ((unsigned (text.trim isIntSpace)).splitOn '_') =
          unsigned (text.trim isIntSpace) := List.intercalate_splitOn '_'
      refine ⟨{
        lead := lead
        sign := sign
        groups := (unsigned (text.trim isIntSpace)).splitOn '_'
        trail := trail
        lead_space := lead_space
        trail_space := trail_space
        sign_one := sign_one
        groups_nonempty := List.splitOn_ne_nil _ _
        digits := fun group held =>
          ⟨(digits group held).1, List.all_eq_true.mp (digits group held).2⟩
        short := short }, ?_, ?_⟩
      · rw [Literal.text, Literal.body, joined, ← signed]
        exact shape.symm
      · rw [← Option.some.inj read, Literal.value, signedValue, signedValue]
        simp only [minus]
    next => cases read
  · rintro ⟨literal, rfl, rfl⟩
    exact literal.readInt_text

theorem decimal_digit {char : Char} (digit : Numerals.isDigit char = true) :
    unicode.decimal char = some (Numerals.digitOf char) := by
  simp only [Numerals.isDigit, Bool.and_eq_true, decide_eq_true_eq] at digit
  have range : '0' ≤ char ∧ char ≤ '9' := digit
  rw [unicode.decimal_ascii char (by omega), if_pos range, Numerals.digitOf, if_pos digit.2]

theorem natOf_digits {digits : List Char}
    (plain : ∀ char ∈ digits, Numerals.isDigit char = true) :
    natOf unicode digits = Numerals.value 10 digits := by
  induction digits using List.reverseRecOn with
  | nil => rfl
  | append_singleton digits char ih =>
    have last : unicode.decimal char = some (Numerals.digitOf char) :=
      decimal_digit (plain char (by simp))
    have step : natOf unicode (digits ++ [char]) =
        10 * natOf unicode digits + (unicode.decimal char).getD 0 := by
      rw [natOf, List.foldl_append]
      rfl
    rw [step, ih fun other member => plain other (List.mem_append_left _ member), last,
      Option.getD_some, Numerals.value_concat]

/-- A number in decimal is read as itself. -/
theorem readInt_toDigits {number : Nat} (short : (Nat.toDigits 10 number).length ≤ maxStrDigits) :
    readInt unicode (Nat.toDigits 10 number) = some (number : Int) := by
  have plain : ∀ char ∈ Nat.toDigits 10 number, Numerals.isDigit char = true := by
    intro char member
    exact Numerals.isDigit_toDigits member
  have digits : ∀ char ∈ Nat.toDigits 10 number, unicode.isDigit char = true := by
    intro char member
    rw [Unicode.isDigit, decimal_digit (plain char member)]
    rfl
  rw [readInt_eq_some_iff]
  refine ⟨{
    lead := []
    sign := []
    groups := [Nat.toDigits 10 number]
    trail := []
    lead_space := by simp
    trail_space := by simp
    sign_one := .inl rfl
    groups_nonempty := by simp
    digits := by simpa using digits
    short := by simpa using short }, ?_, ?_⟩
  · simp [Literal.text, Literal.body]
  · have counted : natOf unicode (Nat.toDigits 10 number) = number := by
      rw [natOf_digits plain, Numerals.value_toDigits (by decide) (by decide)]
    simp [Literal.value, signedValue, counted]

end

end Nmap
