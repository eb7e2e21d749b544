import Mathlib.Algebra.Order.Floor.Ring
import Mathlib.Data.Rat.Floor
import Mathlib.Tactic.Linarith
import Mathlib.Tactic.Positivity

set_option autoImplicit false

/-! The finite numbers of binary64, as rationals, and their shortest decimal texts. -/

namespace Doubles

/-- `q * 2 ^ power`. -/
def scale (power : Int) (q : ℚ) : ℚ :=
  if 0 ≤ power then q * (2 ^ power.toNat : Nat) else q / (2 ^ (-power).toNat : Nat)

/-- The power of two below a positive rational. -/
def exponent (q : ℚ) : Int :=
  let power : Int := (Nat.log2 q.num.natAbs : Int) - Nat.log2 q.den
  if scale power 1 ≤ q then power else power - 1

/-- To the nearest integer, ties to even. -/
def roundHalfEven (q : ℚ) : Int :=
  let below := q.floor
  if q - below < 1 / 2 then below
  else if 1 / 2 < q - below then below + 1
  else if below % 2 = 0 then below else below + 1

/-- The double nearest to a rational, or nothing from where the doubles are infinite. -/
def nearest (q : ℚ) : Option ℚ :=
  if q = 0 then some 0
  else
    let unit := max (exponent |q|) (-1022) - 52
    let rounded := scale unit (roundHalfEven (scale (-unit) q))
    if |rounded| < scale 1024 1 then some rounded else none

def digitCount (n : Nat) : Nat := (Nat.toDigits 10 n).length

/-- `q * 10 ^ power`. -/
def shift (power : Int) (q : ℚ) : ℚ :=
  if 0 ≤ power then q * (10 ^ power.toNat : Nat) else q / (10 ^ (-power).toNat : Nat)

/-- The number of digits before the point of a positive rational: less than one counts the zeros
after the point. -/
def pointOf (q : ℚ) : Int :=
  if 1 ≤ q then digitCount q.floor.toNat else 1 - digitCount ((1 / q).ceil - 1).toNat

/-- The digits of a positive double, and where its point is: as few digits as tell it from the
other doubles, and of those the closest. -/
def shortest (q : ℚ) : Nat × Int :=
  let point := pointOf q
  let found : Option (Nat × Int) := (List.range' 1 17).findSome? fun (count : Nat) =>
    let exact := shift ((count : Int) - point) q
    let below : Int := exact.floor
    let candidates : List Int := if exact - below ≤ 1 / 2 then [below, below + 1] else [below + 1, below]
    (candidates.find? fun (digits : Int) =>
      nearest (shift (point - (count : Int)) digits) == some q).map fun digits =>
        -- A power of ten just above has a digit before the point more.
        if digits = 10 ^ count then (1, point + 1) else (digits.toNat, point)
  found.getD (0, point)

/-- `Decimal(str(x))`: the rational that the shortest text of a double stands for. -/
def decimal (q : ℚ) : ℚ :=
  let positive (q : ℚ) : ℚ :=
    let (digits, point) := shortest q
    shift (point - digitCount digits) digits
  if q = 0 then 0 else if q < 0 then - positive (- q) else positive q

section

variable {value : ℚ} {low high : Int}

/-- Rounding keeps what lies between two integers between them. -/
theorem roundHalfEven_bounds (above : (low : ℚ) ≤ value)
    (below : value ≤ high) :
    low ≤ roundHalfEven value ∧ roundHalfEven value ≤ high := by
  have floor_low : low ≤ value.floor := Rat.le_floor_iff.mpr above
  have floor_high : value.floor ≤ high := by
    have monotone := Rat.floor_monotone below
    rwa [Rat.floor_intCast] at monotone
  have exact_high : value.floor = high → value - value.floor = 0 := by
    intro same
    have floor_le := Rat.floor_le value
    rw [same] at floor_le ⊢
    linarith
  simp only [roundHalfEven]
  by_cases top : value.floor = high
  · rw [exact_high top, if_pos (by norm_num)]
    omega
  · split
    next => omega
    next =>
      split
      next => omega
      next => split <;> omega

theorem exponent_le_zero (positive : 0 < value) (small : value ≤ 1) : exponent value ≤ 0 := by
  have digits : value.num.natAbs ≤ value.den := by
    have below : (value.num : ℚ) ≤ value.den := by
      have quotient := Rat.num_div_den value
      have denominator : (0 : ℚ) < value.den := by exact_mod_cast value.den_pos
      rw [← quotient, div_le_one denominator] at small
      exact small
    have below' : value.num ≤ value.den := by exact_mod_cast below
    have numerator : 0 < value.num := Rat.num_pos.mpr positive
    omega
  have some_digit : value.num.natAbs ≠ 0 := by
    have numerator : 0 < value.num := Rat.num_pos.mpr positive
    omega
  have logs : Nat.log2 value.num.natAbs ≤ Nat.log2 value.den :=
    (Nat.le_log2 value.den_nz).mpr ((Nat.log2_self_le some_digit).trans digits)
  simp only [exponent]
  split <;> omega

/-- A number from zero to one has a nearest double, and it is one too. -/
theorem nearest_unit (above : 0 ≤ value) (below : value ≤ 1) :
    ∃ double, nearest value = some double ∧ 0 ≤ double ∧ double ≤ 1 := by
  rw [nearest]
  by_cases zero : value = 0
  · exact ⟨0, if_pos zero, le_refl 0, zero_le_one⟩
  have positive : 0 < value := lt_of_le_of_ne above (Ne.symm zero)
  obtain ⟨places, unit⟩ : ∃ places : Nat, max (exponent |value|) (-1022) - 52 = -(places : Int) := by
    have low := exponent_le_zero positive below
    rw [abs_of_pos positive]
    exact ⟨(52 - max (exponent value) (-1022)).toNat, by omega⟩
  have scaled : scale (places : Int) value = value * (2 ^ places : Nat) := by
    rw [scale, if_pos (Int.natCast_nonneg places), Int.toNat_natCast]
  have power : (0 : ℚ) < (2 ^ places : Nat) := by positivity
  obtain ⟨low, high⟩ := @roundHalfEven_bounds (value * (2 ^ places : Nat)) 0 (2 ^ places)
    (by push_cast; positivity) (by push_cast; exact mul_le_of_le_one_left (by positivity) below)
  have low' : (0 : ℚ) ≤ roundHalfEven (value * (2 ^ places : Nat)) := by exact_mod_cast low
  have high' : (roundHalfEven (value * (2 ^ places : Nat)) : ℚ) ≤ (2 ^ places : Nat) := by
    exact_mod_cast high
  have back : scale (-(places : Int)) (roundHalfEven (value * (2 ^ places : Nat))) =
      roundHalfEven (value * (2 ^ places : Nat)) / (2 ^ places : Nat) := by
    rw [scale]
    split
    next whole =>
      have none : places = 0 := by omega
      subst none
      simp
    next => rw [Int.neg_neg, Int.toNat_natCast]
  have nonneg := div_nonneg low' power.le
  have small : (roundHalfEven (value * (2 ^ places : Nat)) : ℚ) / (2 ^ places : Nat) ≤ 1 :=
    (div_le_one power).mpr high'
  have wide : ∀ power : Nat, power ≠ 0 → (1 : ℚ) < (2 ^ power : Nat) := by
    intro power some_power
    exact_mod_cast Nat.one_lt_two_pow some_power
  have finite : (1 : ℚ) < scale 1024 1 := by
    rw [scale, if_pos (by decide), one_mul]
    exact wide _ (by decide)
  simp only [if_neg zero, unit, Int.neg_neg, scaled, back]
  rw [if_pos]
  · exact ⟨_, rfl, nonneg, small⟩
  · rw [abs_of_nonneg nonneg]
    exact lt_of_le_of_lt small finite

end

end Doubles
