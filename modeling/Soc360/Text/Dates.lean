import Soc360.Text.Numerals

set_option autoImplicit false

/-! Days of the Gregorian calendar, counted from the first day of year 1, and texts of moments. -/

namespace Dates

structure Date where
  year : Nat
  month : Nat
  day : Nat
  deriving DecidableEq, Repr

def isLeap (year : Nat) : Bool := year % 4 == 0 && (year % 100 != 0 || year % 400 == 0)

/-- `_days_before_year`. -/
def daysBeforeYear (year : Nat) : Nat :=
  (year - 1) * 365 + (year - 1) / 4 - (year - 1) / 100 + (year - 1) / 400

/-- `_DAYS_BEFORE_MONTH`. -/
def daysBefore (month : Nat) : Nat :=
  [0, 0, 31, 59, 90, 120, 151, 181, 212, 243, 273, 304, 334].getD month 0

/-- `_DAYS_IN_MONTH`. -/
def daysIn (month : Nat) : Nat :=
  [0, 31, 28, 31, 30, 31, 30, 31, 31, 30, 31, 30, 31].getD month 0

/-- `_days_before_month`. -/
def daysBeforeMonth (leap : Bool) (month : Nat) : Nat :=
  daysBefore month + if 2 < month && leap then 1 else 0

/-- `_ymd2ord`. -/
def ofDate (date : Date) : Nat :=
  daysBeforeYear date.year + daysBeforeMonth (isLeap date.year) date.month + date.day

/-- The month and its day, for a day of a year. -/
def monthDay (leap : Bool) (day : Nat) : Nat × Nat :=
  let month := (day + 50) / 32
  let preceding := daysBeforeMonth leap month
  if day < preceding then
    (month - 1, day - (preceding - (daysIn (month - 1) + if month - 1 == 2 && leap then 1 else 0)) + 1)
  else (month, day - preceding + 1)

/-- `_ord2ymd`. -/
def toDate (ordinal : Nat) : Date :=
  let n := ordinal - 1
  let n400 := n / 146097
  let n := n % 146097
  let n100 := n / 36524
  let n := n % 36524
  let n4 := n / 1461
  let n := n % 1461
  let n1 := n / 365
  let n := n % 365
  let year := n400 * 400 + 1 + n100 * 100 + n4 * 4 + n1
  if n1 == 4 || n100 == 4 then ⟨year - 1, 12, 31⟩
  else
    let (month, day) := monthDay (n1 == 3 && (n4 != 24 || n100 == 3)) n
    ⟨year, month, day⟩

/-- The month before one starts by its length earlier. -/
theorem daysBeforeMonth_pred : ∀ leap, ∀ month < 13, 1 < month →
    daysBeforeMonth leap month - (daysIn (month - 1) + if month - 1 == 2 && leap then 1 else 0) =
        daysBeforeMonth leap (month - 1) ∧
      daysBeforeMonth leap (month - 1) + 50 ≤ 32 * month := by
  decide

theorem monthDay_spec {leap : Bool} {day : Nat} (inside : day < 365) :
    daysBeforeMonth leap (monthDay leap day).1 + (monthDay leap day).2 = day + 1 := by
  rw [monthDay]
  split
  case isTrue early =>
    have second : 1 < (day + 50) / 32 := by
      by_contra first
      have month : (day + 50) / 32 = 1 := by omega
      rw [month] at early
      exact Nat.not_lt_zero _ early
    obtain ⟨before, low⟩ := daysBeforeMonth_pred leap ((day + 50) / 32) (by omega) second
    rw [before]
    dsimp only
    omega
  case isFalse =>
    dsimp only
    omega

section

variable {a b c d : Nat}

theorem daysBeforeYear_cycle (century : b < 4) (four : c < 25) (year : d < 4) :
    daysBeforeYear (a * 400 + 1 + b * 100 + c * 4 + d) =
      146097 * a + 36524 * b + 1461 * c + 365 * d := by
  rw [daysBeforeYear]
  omega

theorem isLeap_cycle (century : b < 4) (four : c < 25) (year : d < 4) :
    isLeap (a * 400 + 1 + b * 100 + c * 4 + d) = (d == 3 && (c != 24 || b == 3)) := by
  rw [isLeap, Bool.eq_iff_iff]
  simp only [Bool.and_eq_true, Bool.or_eq_true, beq_iff_eq, bne_iff_ne]
  omega

/-- The last day of a leap year. -/
theorem ofDate_last (century : b < 4) (four : c < 25) (leap : c ≠ 24 ∨ b = 3) :
    ofDate ⟨a * 400 + 1 + b * 100 + c * 4 + 3, 12, 31⟩ =
      146097 * a + 36524 * b + 1461 * c + 1461 := by
  have long : isLeap (a * 400 + 1 + b * 100 + c * 4 + 3) = true := by
    rw [isLeap_cycle century four (by decide)]
    simpa using leap
  rw [ofDate, daysBeforeYear_cycle century four (by decide), long]
  rfl

end

/-- A day is counted back from its date. -/
theorem ofDate_toDate {ordinal : Nat} (positive : 0 < ordinal) :
    ofDate (toDate ordinal) = ordinal := by
  obtain ⟨n, rfl⟩ := Nat.exists_eq_add_of_lt positive
  rw [Nat.zero_add]
  have whole := Nat.div_add_mod n 146097
  have cycle := Nat.mod_lt n (show 0 < 146097 by decide)
  rw [toDate, Nat.add_sub_cancel]
  generalize n / 146097 = a at whole
  generalize n % 146097 = rest at whole cycle ⊢
  have whole' := Nat.div_add_mod rest 36524
  have cycle' := Nat.mod_lt rest (show 0 < 36524 by decide)
  dsimp only
  generalize rest / 36524 = b at whole'
  generalize rest % 36524 = rest' at whole' cycle' ⊢
  have whole'' := Nat.div_add_mod rest' 1461
  have cycle'' := Nat.mod_lt rest' (show 0 < 1461 by decide)
  generalize rest' / 1461 = c at whole''
  generalize rest' % 1461 = rest'' at whole'' cycle'' ⊢
  have last := Nat.div_add_mod rest'' 365
  have inside := Nat.mod_lt rest'' (show 0 < 365 by decide)
  generalize rest'' / 365 = d at last
  generalize rest'' % 365 = day at last inside ⊢
  by_cases ends : d = 4 ∨ b = 4
  · have ends' : (d == 4 || b == 4) = true := by simpa using ends
    rw [if_pos ends']
    rcases ends with rfl | rfl
    · have date := @ofDate_last a b c (by omega) (by omega) (by omega)
      rw [show a * 400 + 1 + b * 100 + c * 4 + 4 - 1 = a * 400 + 1 + b * 100 + c * 4 + 3 by omega,
        date]
      omega
    · have date := @ofDate_last a 3 24 (by decide) (by decide) (.inr rfl)
      rw [show a * 400 + 1 + 4 * 100 + c * 4 + d - 1 = a * 400 + 1 + 3 * 100 + 24 * 4 + 3 by omega,
        date]
      omega
  · rw [not_or] at ends
    have ends' : ¬ (d == 4 || b == 4) = true := by simpa using ends
    rw [if_neg ends']
    have within := @monthDay_spec (d == 3 && (c != 24 || b == 3)) day inside
    rw [ofDate]
    dsimp only
    rw [daysBeforeYear_cycle (by omega) (by omega) (by omega),
      isLeap_cycle (by omega) (by omega) (by omega)]
    omega

def microsecondsPerDay : Nat := 86400000000

/-- What follows the seconds. -/
def fraction (micros : Nat) : List Char :=
  (if micros = 0 then [] else '.' :: Numerals.padded 10 6 micros) ++ ['+', '0', '0', ':', '0', '0']

/-- `isoformat` of a moment in UTC, which is counted in microseconds from 1970. -/
def isoformat (moment : Nat) : List Char :=
  let date := toDate (719163 + moment / microsecondsPerDay)
  let seconds := moment % microsecondsPerDay / 1000000
  Numerals.padded 10 4 date.year ++ '-' :: Numerals.padded 10 2 date.month ++
    '-' :: Numerals.padded 10 2 date.day ++ 'T' :: Numerals.padded 10 2 (seconds / 3600) ++
    ':' :: Numerals.padded 10 2 (seconds % 3600 / 60) ++
    ':' :: Numerals.padded 10 2 (seconds % 60) ++ fraction (moment % 1000000)

section

variable {front front' back back' : List Char} {mark mark' : Char}

/-- Digits up to a mark are told apart from what follows. -/
theorem cut (digits : ∀ char ∈ front, Numerals.isDigit char = true)
    (digits' : ∀ char ∈ front', Numerals.isDigit char = true)
    (ends : Numerals.isDigit mark = false) (ends' : Numerals.isDigit mark' = false)
    (same : front ++ mark :: back = front' ++ mark' :: back') :
    front = front' ∧ mark = mark' ∧ back = back' := by
  have taken {text rest : List Char} {char : Char}
      (digits : ∀ char ∈ text, Numerals.isDigit char = true)
      (ends : Numerals.isDigit char = false) :
      (text ++ char :: rest).takeWhile Numerals.isDigit = text := by
    rw [List.takeWhile_append_of_pos digits, List.takeWhile_cons_of_neg (by rw [ends]; decide),
      List.append_nil]
  have fronts := congrArg (List.takeWhile Numerals.isDigit) same
  rw [taken digits ends, taken digits' ends'] at fronts
  subst fronts
  have rests := List.append_cancel_left same
  exact ⟨rfl, List.head_eq_of_cons_eq rests, List.tail_eq_of_cons_eq rests⟩

theorem isDigit_padded {width number : Nat} :
    ∀ char ∈ Numerals.padded 10 width number, Numerals.isDigit char = true := by
  intro char member
  obtain ⟨digit, small, rfl⟩ := Numerals.mem_padded (by decide) member
  exact Numerals.isDigit_digitChar small

/-- A padded number before a mark. -/
theorem cut_padded {width number number' : Nat} (ends : Numerals.isDigit mark = false)
    (ends' : Numerals.isDigit mark' = false)
    (same : Numerals.padded 10 width number ++ mark :: back =
      Numerals.padded 10 width number' ++ mark' :: back') :
    number = number' ∧ mark = mark' ∧ back = back' := by
  obtain ⟨fronts, marks, backs⟩ := cut isDigit_padded isDigit_padded ends ends' same
  have numbers := congrArg (Numerals.value 10) fronts
  rw [Numerals.value_padded (by decide) (by decide),
    Numerals.value_padded (by decide) (by decide)] at numbers
  exact ⟨numbers, marks, backs⟩

end

theorem fraction_inj {width number number' micros micros' : Nat}
    (same : Numerals.padded 10 width number ++ fraction micros =
      Numerals.padded 10 width number' ++ fraction micros') :
    number = number' ∧ micros = micros' := by
  have plus : Numerals.isDigit '+' = false := by decide
  have dot : Numerals.isDigit '.' = false := by decide
  rw [fraction, fraction] at same
  by_cases zero : micros = 0
  · by_cases zero' : micros' = 0
    · rw [if_pos zero, if_pos zero'] at same
      exact ⟨(cut_padded plus plus same).1, zero.trans zero'.symm⟩
    · rw [if_pos zero, if_neg zero'] at same
      exact absurd (cut_padded plus dot same).2.1 (by decide)
  · by_cases zero' : micros' = 0
    · rw [if_neg zero, if_pos zero'] at same
      exact absurd (cut_padded dot plus same).2.1 (by decide)
    · rw [if_neg zero, if_neg zero', List.cons_append, List.cons_append] at same
      obtain ⟨numbers, _, rests⟩ := cut_padded dot dot same
      exact ⟨numbers, (cut_padded plus plus rests).1⟩

/-- A moment is told from its text. -/
theorem isoformat_inj {moment other : Nat} (same : isoformat moment = isoformat other) :
    moment = other := by
  have hyphen : Numerals.isDigit '-' = false := by decide
  have colon : Numerals.isDigit ':' = false := by decide
  have letter : Numerals.isDigit 'T' = false := by decide
  simp only [isoformat, List.append_assoc, List.cons_append] at same
  obtain ⟨years, _, same⟩ := cut_padded hyphen hyphen same
  obtain ⟨months, _, same⟩ := cut_padded hyphen hyphen same
  obtain ⟨days, _, same⟩ := cut_padded letter letter same
  obtain ⟨hours, _, same⟩ := cut_padded colon colon same
  obtain ⟨minutes, _, same⟩ := cut_padded colon colon same
  obtain ⟨seconds, micros⟩ := fraction_inj same
  have dates : toDate (719163 + moment / microsecondsPerDay) =
      toDate (719163 + other / microsecondsPerDay) := by
    cases first : toDate (719163 + moment / microsecondsPerDay)
    cases second : toDate (719163 + other / microsecondsPerDay)
    rw [first, second] at years months days
    cases years
    cases months
    cases days
    rfl
  have ordinals := congrArg ofDate dates
  rw [ofDate_toDate (Nat.add_pos_left (by decide) _),
    ofDate_toDate (Nat.add_pos_left (by decide) _)] at ordinals
  rw [microsecondsPerDay] at *
  omega

end Dates
