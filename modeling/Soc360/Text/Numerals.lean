import Mathlib.Algebra.Group.Nat.Defs
import Mathlib.Data.List.Induction
import Mathlib.Tactic.Common

set_option autoImplicit false

/-! Numerals with digits up to `f`, of either case. -/

namespace Numerals

/-- `[0-9]`. -/
def isDigit (char : Char) : Bool := 0x30 ≤ char.toNat && char.toNat ≤ 0x39

/-- `[0-9A-Fa-f]`. -/
def isHex (char : Char) : Bool :=
  isDigit char || 0x61 ≤ char.toNat && char.toNat ≤ 0x66 || 0x41 ≤ char.toNat && char.toNat ≤ 0x46

/-- What a digit counts. -/
def digitOf (char : Char) : Nat :=
  if char.toNat ≤ 0x39 then char.toNat - 0x30
  else if char.toNat ≤ 0x46 then char.toNat - 0x37 else char.toNat - 0x57

/-- `sys.get_int_max_str_digits()`. -/
def maxStrDigits : Nat := 4300

/-- `int(text, base)`, for a text of digits. -/
def value (base : Nat) (text : List Char) : Nat :=
  text.foldl (fun number char => base * number + digitOf char) 0

/-- A numeral that is filled with zeros, as of `%04d` or `%032x`. -/
def padded (base width number : Nat) : List Char := (Nat.toDigits base number).leftpad width '0'

section

variable {base number width : Nat} {char : Char} {text : List Char}

@[simp] theorem value_nil : value base [] = 0 := rfl

@[simp] theorem value_concat : value base (text ++ [char]) = base * value base text + digitOf char := by
  rw [value, List.foldl_append]
  rfl

theorem digitOf_digitChar : ∀ {digit : Nat}, digit < 16 → digitOf digit.digitChar = digit := by
  decide

theorem isHex_digitChar : ∀ {digit : Nat}, digit < 16 → isHex digit.digitChar = true := by
  decide

theorem isDigit_digitChar : ∀ {digit : Nat}, digit < 10 → isDigit digit.digitChar = true := by
  decide

theorem digitOf_digit (digit : isDigit char = true) : digitOf char < 10 := by
  simp only [isDigit, Bool.and_eq_true, decide_eq_true_eq] at digit
  rw [digitOf, if_pos digit.2]
  omega

theorem digitOf_hex (hex : isHex char = true) : digitOf char < 16 := by
  simp only [isHex, isDigit, Bool.or_eq_true, Bool.and_eq_true, decide_eq_true_eq] at hex
  rw [digitOf]
  split
  · omega
  · split
    · omega
    · omega

/-- A numeral is read as the number that it writes. -/
theorem value_toDigits (low : 1 < base) (high : base ≤ 16) :
    value base (Nat.toDigits base number) = number := by
  induction number using Nat.base_induction base low with
  | single digit small =>
      rw [Nat.toDigits_of_lt_base small]
      have counted : digitOf digit.digitChar = digit := digitOf_digitChar (by omega)
      simp [value, counted]
  | digit rest digit small positive ih =>
      have counted : digitOf digit.digitChar = digit := digitOf_digitChar (by omega)
      rw [← Nat.toDigits_append_toDigits low positive small, Nat.toDigits_of_lt_base small,
        value_concat, ih, counted]

/-- The digits of a numeral. -/
theorem mem_toDigits (low : 1 < base) (member : char ∈ Nat.toDigits base number) :
    ∃ digit < base, char = digit.digitChar := by
  induction number using Nat.base_induction base low with
  | single digit small =>
      rw [Nat.toDigits_of_lt_base small, List.mem_singleton] at member
      exact ⟨digit, small, member⟩
  | digit rest digit small positive ih =>
      rw [← Nat.toDigits_append_toDigits low positive small, Nat.toDigits_of_lt_base small,
        List.mem_append, List.mem_singleton] at member
      rcases member with member | rfl
      · exact ih member
      · exact ⟨digit, small, rfl⟩

theorem isDigit_toDigits (member : char ∈ Nat.toDigits 10 number) : isDigit char = true := by
  obtain ⟨digit, small, rfl⟩ := mem_toDigits (by decide) member
  exact isDigit_digitChar small

theorem isHex_toDigits (member : char ∈ Nat.toDigits 16 number) : isHex char = true := by
  obtain ⟨digit, small, rfl⟩ := mem_toDigits (by decide) member
  exact isHex_digitChar small

/-- Only zero has a numeral that starts with a zero. -/
theorem head?_toDigits (low : 1 < base) (high : base ≤ 16)
    (zero : (Nat.toDigits base number).head? = some '0') : number = 0 := by
  induction number using Nat.base_induction base low with
  | single digit small =>
      rw [Nat.toDigits_of_lt_base small, List.head?_cons, Option.some.injEq] at zero
      have counted : digitOf digit.digitChar = digit := digitOf_digitChar (by omega)
      rw [← counted, zero]
      rfl
  | digit rest digit small positive ih =>
      rw [← Nat.toDigits_append_toDigits low positive small, List.head?_append] at zero
      cases first : (Nat.toDigits base rest).head? with
      | none => exact absurd (List.head?_eq_none_iff.mp first) Nat.toDigits_ne_nil
      | some char =>
          rw [first, Option.some_or] at zero
          rw [ih (first.trans zero)] at positive
          exact absurd positive (Nat.lt_irrefl 0)

theorem value_lt (digits : ∀ char ∈ text, digitOf char < base) :
    value base text < base ^ text.length := by
  induction text using List.reverseRecOn with
  | nil => simp
  | append_singleton text char ih =>
      have smaller := ih fun other member => digits other (List.mem_append_left _ member)
      have last := digits char (List.mem_append_right _ List.mem_cons_self)
      have more := Nat.mul_le_mul_left base (Nat.succ_le_of_lt smaller)
      rw [value_concat, List.length_append, List.length_singleton, Nat.pow_succ,
        Nat.mul_comm (base ^ _)]
      rw [Nat.mul_succ] at more
      omega

/-- No text of digits is shorter than the numeral of its number. -/
theorem length_toDigits_le (low : 1 < base) (nonempty : text ≠ [])
    (digits : ∀ char ∈ text, digitOf char < base) :
    (Nat.toDigits base (value base text)).length ≤ text.length :=
  (Nat.length_toDigits_le_iff low (List.length_pos_iff.mpr nonempty)).mpr (value_lt digits)

theorem value_zeros (count : Nat) :
    value base (List.replicate count '0' ++ text) = value base text := by
  have zeros : value base (List.replicate count '0') = 0 := by
    induction count with
    | zero => rfl
    | succ count ih =>
      rw [List.replicate_succ', value_concat, ih]
      rfl
  rw [value] at zeros
  rw [value, List.foldl_append, zeros, value]

theorem value_padded (low : 1 < base) (high : base ≤ 16) :
    value base (padded base width number) = number := by
  rw [padded, List.leftpad, value_zeros, value_toDigits low high]

theorem mem_padded (low : 1 < base) (member : char ∈ padded base width number) :
    ∃ digit < base, char = digit.digitChar := by
  rw [padded, List.leftpad, List.mem_append] at member
  rcases member with zero | digit
  · exact ⟨0, by omega, List.eq_of_mem_replicate zero⟩
  · exact mem_toDigits low digit

end

end Numerals
