import Soc360.Ip.RoundTrips

set_option autoImplicit false

/-! How long the texts of addresses and networks are. -/

namespace Ip

open Numerals (value)

def hexDigits (hextet : Nat) : Nat := (Nat.toDigits 16 hextet).length

/-- What `::` saves where it stands for a run of zeros. -/
def Run.saved (run : Run) : Nat :=
  if 1 < run.length then
    2 * run.length - 1 - (if run.start = 0 then 1 else 0) -
      if run.start + run.length = 8 then 1 else 0
  else 0

/-- The digits of the hextets and seven colons, but for what `::` saves. -/
def width6 (number : Nat) : Nat :=
  ((hextets number).map hexDigits).sum + 7 - (longestRun (hextets number)).saved

section

variable {number : Nat} {written : List Nat} {high low : List (List Char)}

theorem hexDigits_le {hextet : Nat} (small : hextet < 2 ^ 16) : hexDigits hextet ≤ 4 :=
  (Nat.length_toDigits_le_iff (by decide) (by decide)).mpr small

theorem around_nonempty : partsAround high low ≠ [] := by
  simp [partsAround]

/-- The length of a text with a `::` between its hextets. -/
theorem length_around : ([':'].intercalate (partsAround high low)).length =
    (high.map List.length).sum + (low.map List.length).sum + (high.length + low.length) +
      (if high = [] then 1 else 0) + if low = [] then 1 else 0 := by
  have joined := @Joined.length_intercalate _ ':' _ (@around_nonempty high low)
  have words : ((partsAround high low).map List.length).sum =
      (high.map List.length).sum + (low.map List.length).sum := by
    rw [partsAround]
    split
    · split
      · simp
      · simp
    · split
      · simp
      · simp
  have count : (partsAround high low).length = high.length + low.length + 1 +
      (if high = [] then 1 else 0) + if low = [] then 1 else 0 := by
    rw [partsAround]
    simp only [List.length_append, List.length_singleton]
    split
    · split
      · simp only [List.length_singleton]
        omega
      · simp only [List.length_singleton, List.length_nil]
        omega
    · split
      · simp only [List.length_singleton, List.length_nil]
        omega
      · simp only [List.length_nil]
        omega
  rw [words, count] at joined
  omega

theorem length_digits (hextets : List Nat) :
    ((hextets.map (Nat.toDigits 16)).map List.length).sum = (hextets.map hexDigits).sum := by
  rw [List.map_map]
  rfl

theorem length_compress (eight : written.length = 8) :
    ([':'].intercalate (compress written)).length + (longestRun written).saved =
      (written.map hexDigits).sum + 7 := by
  by_cases long : 1 < (longestRun written).length
  · obtain ⟨front, back, shape, start, parts⟩ := compress_long eight long
    have total := congrArg List.length shape
    simp only [List.length_append, List.length_replicate, eight] at total
    have digits : (written.map hexDigits).sum =
        (front.map hexDigits).sum + (longestRun written).length + (back.map hexDigits).sum := by
      have zeros : ((List.replicate (longestRun written).length 0).map hexDigits).sum =
          (longestRun written).length := by
        rw [List.map_replicate, List.sum_replicate, smul_eq_mul]
        exact Nat.mul_one _
      rw [congrArg (fun hextets => (hextets.map hexDigits).sum) shape]
      simp only [List.map_append, List.sum_append, zeros]
    have first : (if front.map (Nat.toDigits 16) = [] then 1 else 0) =
        if (longestRun written).start = 0 then 1 else 0 := by
      simp only [← start, List.length_eq_zero_iff, List.map_eq_nil_iff]
    have last : (if back.map (Nat.toDigits 16) = [] then 1 else 0) =
        if (longestRun written).start + (longestRun written).length = 8 then 1 else 0 := by
      have ends : back = [] ↔ (longestRun written).start + (longestRun written).length = 8 := by
        rw [← List.length_eq_zero_iff]
        omega
      simp only [List.map_eq_nil_iff, ends]
    rw [parts, length_around, length_digits, length_digits, first, last, Run.saved, if_pos long,
      digits, List.length_map, List.length_map]
    split
    · split
      · omega
      · omega
    · split
      · omega
      · omega
  · have nonempty : written.map (Nat.toDigits 16) ≠ [] := by
      intro nothing
      rw [List.map_eq_nil_iff.mp nothing] at eight
      cases eight
    have joined := @Joined.length_intercalate _ ':' _ nonempty
    rw [length_digits, List.length_map, eight] at joined
    rw [compress_short long, Run.saved, if_neg long]
    omega

theorem length_print6 : (print6 number).length = width6 number := by
  have length := length_compress (@hextets_length number)
  rw [print6, width6]
  omega

theorem sum_hexDigits_le (small : ∀ hextet ∈ written, hextet < 2 ^ 16) :
    (written.map hexDigits).sum ≤ 4 * written.length := by
  induction written with
  | nil => simp
  | cons hextet rest ih =>
      have first := hexDigits_le (small hextet List.mem_cons_self)
      have others := ih fun other member => small other (List.mem_cons_of_mem _ member)
      rw [List.map_cons, List.sum_cons, List.length_cons]
      omega

theorem width6_le : width6 number ≤ 39 := by
  have digits := sum_hexDigits_le (@hextets_small number)
  rw [hextets_length] at digits
  rw [width6]
  omega

theorem length_print4 : (print4 number).length ≤ 15 := by
  have joined := @Joined.length_intercalate _ '.' ((octets number).map (Nat.toDigits 10))
    (List.cons_ne_nil _ _)
  have octet : ∀ part, (Nat.toDigits 10 (part % 256)).length ≤ 3 := by
    intro part
    have small : part % 256 < 10 ^ 3 := lt_trans (Nat.mod_lt _ (by decide)) (by decide)
    exact (Nat.length_toDigits_le_iff (by decide) (by decide)).mpr small
  have first := octet (number / 2 ^ 24)
  have second := octet (number / 2 ^ 16)
  have third := octet (number / 2 ^ 8)
  have fourth := octet number
  simp only [octets, List.map_cons, List.map_nil, List.sum_cons, List.sum_nil, List.length_cons,
    List.length_nil] at joined
  rw [print4, octets]
  simp only [List.map_cons, List.map_nil] at joined ⊢
  omega

end

/-! No run of zeros is longer than the one that is written as `::`. -/

/-- No run in what has been seen is longer than the best, and none that ends it than the current. -/
structure Runs.Maximal (runs : Runs) (seen : List Nat) : Prop where
  best : ∀ front count back, seen = front ++ List.replicate count 0 ++ back →
    count ≤ runs.best.length
  current : ∀ front count, seen = front ++ List.replicate count 0 → count ≤ runs.current.length

section

variable {runs : Runs} {seen rest written : List Nat} {hextet : Nat}

theorem ends_replicate {front : List Nat} {count : Nat}
    (shape : seen ++ [hextet] = front ++ List.replicate (count + 1) 0) :
    hextet = 0 ∧ seen = front ++ List.replicate count 0 := by
  rw [List.replicate_succ', ← List.append_assoc] at shape
  obtain ⟨same, last⟩ := List.append_inj' shape rfl
  exact ⟨(List.cons.inj last).1, same⟩

theorem Runs.Maximal.next (maximal : runs.Maximal seen) (index : Nat) :
    (runs.next index hextet).Maximal (seen ++ [hextet]) := by
  have inside : ∀ front count back last,
      seen ++ [hextet] = front ++ List.replicate count 0 ++ (back ++ [last]) →
        count ≤ runs.best.length := by
    intro front count back last shape
    rw [← List.append_assoc] at shape
    exact maximal.best front count back (List.append_inj' shape rfl).1
  by_cases zero : hextet = 0
  · rw [Runs.next, if_pos zero]
    have current : ∀ front count, seen ++ [hextet] = front ++ List.replicate count 0 →
        count ≤ runs.current.length + 1 := by
      intro front count shape
      cases count with
      | zero => exact Nat.zero_le _
      | succ count => exact Nat.succ_le_succ (maximal.current front count (ends_replicate shape).2)
    refine ⟨?_, current⟩
    intro front count back shape
    cases back using List.reverseRecOn with
    | nil =>
        rw [List.append_nil] at shape
        have last := current front count shape
        simp only
        split
        · exact last
        · omega
    | append_singleton back last =>
        have earlier := inside front count back last shape
        simp only
        split
        next longer =>
          simp only at longer ⊢
          omega
        next => exact earlier
  · rw [Runs.next, if_neg zero]
    have current : ∀ front count, seen ++ [hextet] = front ++ List.replicate count 0 →
        count = 0 := by
      intro front count shape
      cases count with
      | zero => rfl
      | succ count => exact absurd (ends_replicate shape).1 zero
    refine ⟨?_, fun front count shape => (current front count shape).le⟩
    intro front count back shape
    cases back using List.reverseRecOn with
    | nil =>
        rw [List.append_nil] at shape
        rw [current front count shape]
        exact Nat.zero_le _
    | append_singleton back last => exact inside front count back last shape

theorem Runs.Maximal.foldl (maximal : runs.Maximal seen) (start : Nat) :
    ((rest.zipIdx start).foldl (fun (runs : Runs) entry => runs.next entry.2 entry.1)
      runs).Maximal (seen ++ rest) := by
  induction rest generalizing runs seen start with
  | nil => simpa using maximal
  | cons hextet rest ih =>
      have more := ih (@Runs.Maximal.next _ _ hextet maximal start) (start + 1)
      rw [List.append_assoc] at more
      exact more

theorem longestRun_maximal {front back : List Nat} {count : Nat}
    (shape : written = front ++ List.replicate count 0 ++ back) :
    count ≤ (longestRun written).length := by
  have start : Runs.none.Maximal [] := by
    constructor
    · intro front count back nothing
      have total := congrArg List.length nothing
      simp only [List.length_append, List.length_replicate, List.length_nil] at total
      omega
    · intro front count nothing
      have total := congrArg List.length nothing
      simp only [List.length_append, List.length_replicate, List.length_nil] at total
      omega
  have whole := @Runs.Maximal.foldl _ _ written start 0
  exact whole.best front count back shape

end

/-! What is written is longer than what was read by one character at most. -/

section

variable {parts words high low : List (List Char)} {numbers : List Nat} {number : Nat}

theorem joinHextets_div (small : ∀ hextet ∈ numbers, hextet < 2 ^ 16) (index : Nat)
    (inside : index < numbers.length) :
    joinHextets numbers / 2 ^ (16 * (numbers.length - 1 - index)) % 2 ^ 16 = numbers[index] := by
  induction numbers using List.reverseRecOn with
  | nil => exact absurd inside (Nat.not_lt_zero _)
  | append_singleton numbers last ih =>
      have before := fun other member => small other (List.mem_append_left _ member)
      have bound := small last (List.mem_append_right _ List.mem_cons_self)
      rw [List.length_append, List.length_singleton] at inside
      rw [joinHextets_concat, List.length_append, List.length_singleton, Nat.add_sub_cancel]
      by_cases final : index = numbers.length
      · subst final
        rw [Nat.sub_self, Nat.mul_zero, Nat.pow_zero, Nat.div_one, List.getElem_concat_length rfl]
        omega
      · have earlier : index < numbers.length := by omega
        have power : 16 * (numbers.length - index) = 16 + 16 * (numbers.length - 1 - index) := by
          omega
        have quotient : (joinHextets numbers * 2 ^ 16 + last) / 2 ^ 16 = joinHextets numbers := by
          omega
        rw [power, Nat.pow_add, ← Nat.div_div_eq_div_mul, quotient,
          List.getElem_append_left earlier]
        exact ih before earlier

theorem hextets_joinHextets (small : ∀ hextet ∈ numbers, hextet < 2 ^ 16)
    (eight : numbers.length = 8) : hextets (joinHextets numbers) = numbers := by
  apply List.ext_getElem
  · rw [hextets_length, eight]
  · intro index inside inside'
    have part := joinHextets_div small index inside'
    rw [eight] at part
    simpa only [hextets, List.getElem_map, List.getElem_range] using part

/-- What is expanded is whole, or has one `::`. -/
theorem expand_some (many : 3 ≤ parts.length) (read : expand parts = some words) :
    parts = words ∧ words.length = 8 ∨
      ∃ high low, parts = partsAround high low ∧ high.length + low.length ≤ 7 ∧
        words = high ++ List.replicate (8 - (high.length + low.length)) ['0'] ++ low := by
  obtain ⟨first, rest, rfl⟩ : ∃ first rest, parts = first :: rest := by
    cases parts with
    | nil => exact absurd many (by decide)
    | cons first rest => exact ⟨first, rest, rfl⟩
  obtain ⟨inner, last, rfl⟩ : ∃ inner last, rest = inner ++ [last] := by
    cases rest using List.reverseRecOn with
    | nil => exact absurd many (by simp)
    | append_singleton inner last => exact ⟨inner, last, rfl⟩
  have final : (first :: (inner ++ [last])).getLast? = some last := by
    rw [← List.cons_append, List.getLast?_concat]
  simp only [expand, final, List.head?_cons, Option.getD_some, List.tail_cons,
    List.dropLast_concat] at read
  split at read
  next word after cut =>
    have empty : word = [] := by
      have some' : inner.dropWhile (· != []) ≠ [] := by
        rw [cut]
        exact List.cons_ne_nil _ _
      have front := List.head_dropWhile_not (· != []) some'
      simpa [cut] using front
    have whole : inner = inner.takeWhile (· != []) ++ [] :: after := by
      have parts := @List.takeWhile_append_dropWhile _ (· != []) inner
      rw [cut, empty] at parts
      exact parts.symm
    generalize inner.takeWhile (· != []) = before at read whole
    generalize upper : (if first = [] then [] else first :: before) = high at read
    generalize lower : (if last = [] then [] else after ++ [last]) = low at read
    by_cases apart : [] ∈ after
    · rw [if_pos apart] at read
      cases read
    by_cases alone : first = [] ∧ before ≠ []
    · rw [if_neg apart, if_pos alone] at read
      cases read
    by_cases alone' : last = [] ∧ after ≠ []
    · rw [if_neg apart, if_neg alone, if_pos alone'] at read
      cases read
    rw [if_neg apart, if_neg alone, if_neg alone'] at read
    by_cases crowded : 8 < high.length + low.length + 1
    · rw [if_pos crowded] at read
      cases read
    rw [if_neg crowded] at read
    refine .inr ⟨high, low, ?_, by omega, (Option.some.inj read).symm⟩
    have front : (if high = [] then [[]] else []) ++ high = first :: before := by
      by_cases none' : first = []
      · have nothing : before = [] := by
          by_contra some'
          exact alone ⟨none', some'⟩
        rw [if_pos none'] at upper
        simp [← upper, none', nothing]
      · rw [if_neg none'] at upper
        simp [← upper]
    have back : low ++ (if low = [] then [[]] else []) = after ++ [last] := by
      by_cases none' : last = []
      · have nothing : after = [] := by
          by_contra some'
          exact alone' ⟨none', some'⟩
        rw [if_pos none'] at lower
        simp [← lower, none', nothing]
      · rw [if_neg none'] at lower
        simp [← lower]
    rw [partsAround, front, List.append_assoc, back, whole]
    simp
  next =>
    split at read
    next => cases read
    next plain =>
      left
      cases read
      refine ⟨rfl, ?_⟩
      by_contra other
      exact plain (.inl other)

theorem sum_hexDigits
    (all : List.Forall₂ (fun word number => parseHextet word = some number) words numbers) :
    (numbers.map hexDigits).sum ≤ (words.map List.length).sum := by
  induction all with
  | nil => exact le_rfl
  | cons read _ ih =>
      obtain ⟨hex, _, nonempty, rfl⟩ := parseHextet_some.mp read
      have first := Numerals.length_toDigits_le (by decide) nonempty
        fun char member => Numerals.digitOf_hex (hex char member)
      simp only [List.map_cons, List.sum_cons]
      exact Nat.add_le_add first ih

/-- The hextets of an IPv4 suffix are no longer than it is. -/
theorem suffix_shrinks {last : List Char} (read : parse4 last = some number) :
    (Nat.toDigits 16 (number / 2 ^ 16 % 2 ^ 16)).length +
      (Nat.toDigits 16 (number % 2 ^ 16)).length + 1 ≤ last.length := by
  obtain ⟨w₁, w₂, w₃, w₄, split', a, b, c, d, h₁, h₂, h₃, h₄, rfl⟩ := parse4_some.mp read
  have joined := @Joined.length_intercalate _ '.' (last.splitOn '.') (List.splitOn_ne_nil _ _)
  rw [List.intercalate_splitOn, split'] at joined
  simp only [List.map_cons, List.map_nil, List.sum_cons, List.sum_nil, List.length_cons,
    List.length_nil] at joined
  have pair : ∀ {one other : List Char} {high low : Nat}, parseOctet one = some high →
      parseOctet other = some low →
      high ≤ 255 ∧ low ≤ 255 ∧
        (Nat.toDigits 16 (high * 256 + low)).length ≤ one.length + other.length + 1 := by
    intro one other high low read read'
    obtain ⟨nonempty, digits, _, _, small, rfl⟩ := parseOctet_some.mp read
    obtain ⟨nonempty', _, _, _, small', rfl⟩ := parseOctet_some.mp read'
    have bound := Numerals.value_lt fun char member => Numerals.digitOf_digit (digits char member)
    have some' := List.length_pos_iff.mpr nonempty
    have some'' := List.length_pos_iff.mpr nonempty'
    refine ⟨small, small', ?_⟩
    by_cases long : 2 ≤ one.length
    · have four : (Nat.toDigits 16 (value 10 one * 256 + value 10 other)).length ≤ 4 :=
        hexDigits_le (by omega)
      omega
    · have single : one.length = 1 := by omega
      rw [single] at bound
      have three : (Nat.toDigits 16 (value 10 one * 256 + value 10 other)).length ≤ 3 :=
        (Nat.length_toDigits_le_iff (by decide) (by decide)).mpr (by omega)
      omega
  obtain ⟨a', b', high⟩ := pair h₁ h₂
  obtain ⟨c', d', low⟩ := pair h₃ h₄
  have upper : (((a * 256 + b) * 256 + c) * 256 + d) / 2 ^ 16 % 2 ^ 16 = a * 256 + b := by omega
  have lower : (((a * 256 + b) * 256 + c) * 256 + d) % 2 ^ 16 = c * 256 + d := by omega
  rw [upper, lower]
  omega

theorem unfoldSuffix_shrinks (nonempty : parts ≠ []) (read : unfoldSuffix parts = some words) :
    parts.length ≤ words.length ∧
      (words.map List.length).sum + words.length ≤ (parts.map List.length).sum + parts.length := by
  obtain ⟨front, last, rfl⟩ : ∃ front last, parts = front ++ [last] := by
    cases parts using List.reverseRecOn with
    | nil => exact absurd rfl nonempty
    | append_singleton front last => exact ⟨front, last, rfl⟩
  simp only [unfoldSuffix, List.getLast?_concat, Option.getD_some, List.dropLast_concat] at read
  split at read
  next =>
    obtain ⟨number, found, rfl⟩ := Option.map_eq_some_iff.mp read
    have shorter := suffix_shrinks found
    simp only [List.map_append, List.sum_append, List.map_cons, List.map_nil, List.sum_cons,
      List.sum_nil, List.length_append, List.length_cons, List.length_nil]
    omega
  next =>
    cases read
    exact ⟨le_rfl, le_rfl⟩

/-- A run of its own length saves at least what a shorter one could. -/
theorem le_saved {run : Run} {count ends : Nat} (inside : run.start + run.length ≤ 8)
    (longest : count ≤ run.length) (all : count = 8 → ends = 2) :
    2 * count ≤ run.saved + 2 + ends := by
  rw [Run.saved]
  by_cases long : 1 < run.length
  · rw [if_pos long]
    by_cases first : run.start = 0
    · by_cases last : run.start + run.length = 8
      · rw [if_pos first, if_pos last]
        omega
      · rw [if_pos first, if_neg last]
        omega
    · rw [if_neg first]
      split
      · omega
      · omega
  · rw [if_neg long]
    omega

theorem longestRun_inside {written : List Nat} (long : (longestRun written).length ≠ 0) :
    (longestRun written).start + (longestRun written).length ≤ written.length := by
  obtain ⟨front, back, shape, start⟩ := longestRun_sound written
  have total := congrArg List.length shape
  simp only [List.length_append, List.length_replicate] at total
  have first := start long
  omega

theorem replicate_zeros {count : Nat} (all : List.Forall₂
      (fun word number => parseHextet word = some number) (List.replicate count ['0']) numbers) :
    numbers = List.replicate count 0 := by
  induction count generalizing numbers with
  | zero => exact List.forall₂_nil_left_iff.mp all
  | succ count ih =>
      obtain ⟨number, rest, read, others, rfl⟩ := List.forall₂_cons_left_iff.mp all
      obtain ⟨_, _, _, rfl⟩ := parseHextet_some.mp read
      rw [ih others]
      rfl

/-- The zeros that a `::` stands for are a run of the number. -/
theorem run_around {count : Nat} (all : List.Forall₂
      (fun word number => parseHextet word = some number)
      (high ++ List.replicate count ['0'] ++ low) numbers) :
    count ≤ (longestRun numbers).length := by
  have front : numbers = numbers.take high.length ++ numbers.drop high.length :=
    (List.take_append_drop _ _).symm
  have later := List.forall₂_drop high.length all
  rw [List.append_assoc, List.drop_left] at later
  have middle := List.forall₂_take count later
  have exact' := @List.take_left _ (List.replicate count ['0']) low
  rw [List.length_replicate] at exact'
  rw [exact'] at middle
  have zeros := replicate_zeros middle
  refine @longestRun_maximal _ (numbers.take high.length)
    ((numbers.drop high.length).drop count) _ ?_
  rw [← zeros, List.append_assoc, List.take_append_drop, List.take_append_drop]

/-- An IPv6 address is written with at most one character more than it was read with. -/
theorem width6_growth {text : List Char} (read : parse6 text = some number) :
    width6 number ≤ text.length + 1 := by
  obtain ⟨many, parts, unfolded, _, words, numbers, expanded, all, rfl⟩ := parse6_some.mp read
  have eight : numbers.length = 8 := by rw [← all.length_eq, expand_length expanded]
  have joined := @Joined.length_intercalate _ ':' _ (List.splitOn_ne_nil ':' text)
  rw [List.intercalate_splitOn] at joined
  obtain ⟨more, shorter⟩ := unfoldSuffix_shrinks (List.splitOn_ne_nil ':' text) unfolded
  have digits := sum_hexDigits all
  rw [width6, hextets_joinHextets (hextets_lt all) eight]
  rcases expand_some (many.trans more) expanded with ⟨rfl, whole⟩ | ⟨high, low, rfl, room, rfl⟩
  · omega
  · have around := @length_around high low
    have joined' := @Joined.length_intercalate _ ':' _ (@around_nonempty high low)
    have run := run_around all
    have zeros : ((List.replicate (8 - (high.length + low.length)) ['0']).map List.length).sum =
        8 - (high.length + low.length) := by
      rw [List.map_replicate, List.sum_replicate, smul_eq_mul]
      exact Nat.mul_one _
    simp only [List.map_append, List.sum_append, zeros] at digits
    have first : (if high = [] then 1 else 0) = if high.length = 0 then 1 else 0 := by
      simp only [List.length_eq_zero_iff]
    have last : (if low = [] then 1 else 0) = if low.length = 0 then 1 else 0 := by
      simp only [List.length_eq_zero_iff]
    rw [first, last] at around
    have saves : 2 * (8 - (high.length + low.length)) ≤ (longestRun numbers).saved + 2 +
        ((if high.length = 0 then 1 else 0) + if low.length = 0 then 1 else 0) := by
      apply le_saved _ run
      · intro all
        have high' : high.length = 0 := by omega
        have low' : low.length = 0 := by omega
        rw [if_pos high', if_pos low']
      · have inside := @longestRun_inside numbers (by omega)
        omega
    omega

/-- An IPv4 address is written as long as it was read. -/
theorem print4_growth {text : List Char} (read : parse4 text = some number) :
    (print4 number).length ≤ text.length := by
  obtain ⟨w₁, w₂, w₃, w₄, split', a, b, c, d, h₁, h₂, h₃, h₄, rfl⟩ := parse4_some.mp read
  have joined := @Joined.length_intercalate _ '.' (text.splitOn '.') (List.splitOn_ne_nil _ _)
  rw [List.intercalate_splitOn, split'] at joined
  have octet : ∀ {word : List Char} {part : Nat}, parseOctet word = some part →
      part ≤ 255 ∧ (Nat.toDigits 10 part).length ≤ word.length := by
    intro word part read
    obtain ⟨nonempty, digits, _, _, small, rfl⟩ := parseOctet_some.mp read
    exact ⟨small, Numerals.length_toDigits_le (by decide) nonempty
      fun char member => Numerals.digitOf_digit (digits char member)⟩
  obtain ⟨a', first⟩ := octet h₁
  obtain ⟨b', second⟩ := octet h₂
  obtain ⟨c', third⟩ := octet h₃
  obtain ⟨d', fourth⟩ := octet h₄
  have parts : octets (((a * 256 + b) * 256 + c) * 256 + d) = [a, b, c, d] := by
    simp only [octets, List.cons.injEq, and_true]
    omega
  have joined' := @Joined.length_intercalate _ '.' ([a, b, c, d].map (Nat.toDigits 10))
    (List.cons_ne_nil _ _)
  rw [print4, parts]
  simp only [List.map_cons, List.map_nil, List.sum_cons, List.sum_nil, List.length_cons,
    List.length_nil] at joined joined' ⊢
  omega

/-! The texts of addresses and networks. -/

variable {address : Address} {network : Network} {zone source : List Char}

theorem length_text_zone (given : address.scope = some zone) :
    address.text.length = width6 address.number + 1 + zone.length := by
  have version := (address.validScope zone given).1
  rw [text_v6 version, given, List.length_append, length_print6]
  simp only [Option.map_some, Option.getD_some, List.length_cons]
  omega

theorem length_text_plain (plain : address.scope = none) : address.text.length ≤ 39 := by
  cases version : address.version with
  | v4 =>
      rw [text_v4 version]
      exact length_print4.trans (by decide)
  | v6 =>
      rw [text_v6 version, plain, List.length_append, length_print6]
      exact width6_le

/-- An address is written with at most one character more than it was read with. -/
theorem text_growth (read : ipAddress source = some address) :
    address.text.length ≤ source.length + 1 := by
  rcases Option.or_eq_some_iff.mp read with read | ⟨_, read⟩
  · obtain ⟨_, read, version, _⟩ := ipv4Address_some.mp read
    rw [text_v4 version]
    exact (print4_growth read).trans (Nat.le_succ _)
  · obtain ⟨_, version, body, split', read⟩ := ipv6Address_some.mp read
    have growth := width6_growth read
    rw [text_v6 version, List.length_append, length_print6]
    rcases (splitScope_some.mp split').2 with ⟨scope, rfl⟩ | ⟨name, scope, rfl, _⟩
    · rw [scope]
      exact growth
    · rw [scope, List.length_append]
      simp only [Option.map_some, Option.getD_some, List.length_cons]
      omega

theorem length_networkText : network.text.length =
    network.network.text.length + 1 + (Nat.toDigits 10 network.prefixlen).length := by
  rw [Network.text, List.length_append, List.length_cons]
  omega

theorem length_networkText_plain (plain : network.network.scope = none) :
    network.text.length ≤ 43 := by
  have address := length_text_plain plain
  have bound : network.prefixlen < 10 ^ 3 := by
    have bound := network.bound
    cases version : network.network.version with
    | v4 =>
        rw [version] at bound
        exact lt_of_le_of_lt bound (by decide)
    | v6 =>
        rw [version] at bound
        exact lt_of_le_of_lt bound (by decide)
  have digits := (Nat.length_toDigits_le_iff (by decide) (by decide)).mpr bound
  rw [length_networkText]
  omega

end

end Ip
