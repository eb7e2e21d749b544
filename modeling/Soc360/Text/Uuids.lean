import Soc360.Text.Numerals

set_option autoImplicit false

/-! The 128 bits of a UUID, and their text. -/

abbrev Uuid := Fin (2 ^ 128)

namespace Uuid

/-- `'%032x' % self.int`. -/
def hex (int : Nat) : List Char := Numerals.padded 16 32 int

/-- `str` of the UUID that has this `int`. -/
def str (int : Nat) : List Char :=
  (hex int).take 8 ++ '-' :: ((hex int).drop 8).take 4 ++ '-' :: ((hex int).drop 12).take 4 ++
    '-' :: ((hex int).drop 16).take 4 ++ '-' :: (hex int).drop 20

/-- `str` of a UUID. -/
def text (uuid : Uuid) : List Char := str uuid

section

variable {int other : Nat} {char : Char}

theorem isHex_hex (member : char ∈ hex int) : Numerals.isHex char = true := by
  obtain ⟨digit, small, rfl⟩ := Numerals.mem_padded (by decide) member
  exact Numerals.isHex_digitChar small

/-- The digits are what is left without the hyphens. -/
theorem filter_str : (str int).filter (· != '-') = hex int := by
  have kept : ∀ {digits : List Char}, (∀ digit ∈ digits, digit ∈ hex int) →
      digits.filter (· != '-') = digits := by
    intro digits inside
    rw [List.filter_eq_self]
    intro digit member
    have hexadecimal := isHex_hex (inside digit member)
    rw [bne_iff_ne]
    rintro rfl
    exact absurd hexadecimal (by decide)
  have taken {start count : Nat} : (((hex int).drop start).take count).filter (· != '-') =
      ((hex int).drop start).take count :=
    kept fun _ member => List.mem_of_mem_drop (List.mem_of_mem_take member)
  have first : ((hex int).take 8).filter (· != '-') = (hex int).take 8 :=
    kept fun _ => List.mem_of_mem_take
  have last : ((hex int).drop 20).filter (· != '-') = (hex int).drop 20 :=
    kept fun _ => List.mem_of_mem_drop
  have drop {start count : Nat} : ((hex int).drop start).take count ++ (hex int).drop (start + count) =
      (hex int).drop start := by
    rw [← List.drop_drop, List.take_append_drop]
  simp only [str, List.filter_append, List.filter_cons, taken, first, last]
  simp only [bne_self_eq_false, Bool.false_eq_true, if_false, List.append_assoc]
  rw [@drop 16 4, @drop 12 4, @drop 8 4, List.take_append_drop]

theorem str_inj (same : str int = str other) : int = other := by
  have digits : hex int = hex other := by
    rw [← filter_str, same, filter_str]
  have number := congrArg (Numerals.value 16) digits
  rw [hex, hex, Numerals.value_padded (by decide) (by decide),
    Numerals.value_padded (by decide) (by decide)] at number
  exact number

theorem text_inj {uuid uuid' : Uuid} (same : uuid.text = uuid'.text) : uuid = uuid' :=
  Fin.ext (str_inj same)

theorem text_ne_nil {uuid : Uuid} : uuid.text ≠ [] := by
  simp [text, str]

end

end Uuid
