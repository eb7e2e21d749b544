import Soc360.Ip.Texts

set_option autoImplicit false

/-! What `ipaddress` writes is read back. -/

namespace Ip

open Numerals (isDigit isHex value)

section

variable {number : Nat} {text : List Char}

/-! IPv4. -/

theorem parseOctet_digits (small : number ≤ 255) :
    parseOctet (Nat.toDigits 10 number) = some number := by
  have written : value 10 (Nat.toDigits 10 number) = number :=
    Numerals.value_toDigits (by decide) (by decide)
  apply parseOctet_some.mpr
  refine ⟨Nat.toDigits_ne_nil, fun char member => Numerals.isDigit_toDigits member, ?_, ?_, ?_,
    written.symm⟩
  · rw [Nat.length_toDigits_le_iff (by decide) (by decide)]
    omega
  · by_cases zero : number = 0
    · rw [zero]
      exact .inl (Nat.toDigits_zero 10)
    · exact .inr fun head => zero (Numerals.head?_toDigits (by decide) (by decide) head)
  · rw [written]
    exact small

theorem digits_apart {char : Char} (other : isDigit char = false) :
    char ∉ Nat.toDigits 10 number := by
  intro member
  rw [Numerals.isDigit_toDigits member] at other
  cases other

theorem print4_split : (print4 number).splitOn '.' = (octets number).map (Nat.toDigits 10) := by
  rw [print4]
  apply List.splitOn_intercalate
  · intro word member
    obtain ⟨octet, _, rfl⟩ := List.mem_map.mp member
    exact digits_apart (by decide)
  · exact List.cons_ne_nil _ _

theorem parse4_print (bound : number < 2 ^ 32) : parse4 (print4 number) = some number := by
  apply parse4_some.mpr
  refine ⟨_, _, _, _, print4_split, _, _, _, _, parseOctet_digits (by omega),
    parseOctet_digits (by omega), parseOctet_digits (by omega), parseOctet_digits (by omega), ?_⟩
  omega

/-- What is read as IPv4 has digits and points only. -/
theorem parse4_chars (read : parse4 text = some number) :
    ∀ char ∈ text, isDigit char = true ∨ char = '.' := by
  obtain ⟨first, second, third, fourth, shape, _, _, _, _, h₁, h₂, h₃, h₄, _⟩ := parse4_some.mp read
  have whole := @List.intercalate_splitOn _ text _ _ '.'
  rw [shape] at whole
  intro char member
  rw [← whole] at member
  rcases Joined.mem_intercalate member with rfl | ⟨word, member, inside⟩
  · exact .inr rfl
  · left
    simp only [List.mem_cons, List.not_mem_nil, or_false] at member
    rcases member with rfl | rfl | rfl | rfl
    · exact (parseOctet_some.mp h₁).2.1 char inside
    · exact (parseOctet_some.mp h₂).2.1 char inside
    · exact (parseOctet_some.mp h₃).2.1 char inside
    · exact (parseOctet_some.mp h₄).2.1 char inside

theorem mem_print4 {char : Char} (member : char ∈ print4 number) :
    isDigit char = true ∨ char = '.' := by
  rcases Joined.mem_intercalate member with rfl | ⟨word, member, inside⟩
  · exact .inr rfl
  · obtain ⟨octet, _, rfl⟩ := List.mem_map.mp member
    exact .inl (Numerals.isDigit_toDigits inside)

/-! The hextets of IPv6. -/

theorem hextets_small : ∀ hextet ∈ hextets number, hextet < 2 ^ 16 := by
  intro hextet member
  obtain ⟨index, _, rfl⟩ := List.mem_map.mp member
  exact Nat.mod_lt _ (by decide)

theorem hextets_length : (hextets number).length = 8 := rfl

theorem hextet_step (low : Nat) :
    number / 2 ^ (low + 16) * 2 ^ 16 + number / 2 ^ low % 2 ^ 16 = number / 2 ^ low := by
  rw [Nat.pow_add, ← Nat.div_div_eq_div_mul, Nat.mul_comm]
  exact Nat.div_add_mod _ _

theorem joinHextets_hextets (bound : number < 2 ^ 128) : joinHextets (hextets number) = number := by
  have top : 0 * 2 ^ 16 + number / 2 ^ 112 % 2 ^ 16 = number / 2 ^ 112 := by
    rw [Nat.zero_mul, Nat.zero_add, Nat.mod_eq_of_lt]
    exact Nat.div_lt_of_lt_mul bound
  change ((((((((0 * 2 ^ 16 + number / 2 ^ 112 % 2 ^ 16) * 2 ^ 16 + number / 2 ^ 96 % 2 ^ 16) *
    2 ^ 16 + number / 2 ^ 80 % 2 ^ 16) * 2 ^ 16 + number / 2 ^ 64 % 2 ^ 16) * 2 ^ 16 +
    number / 2 ^ 48 % 2 ^ 16) * 2 ^ 16 + number / 2 ^ 32 % 2 ^ 16) * 2 ^ 16 +
    number / 2 ^ 16 % 2 ^ 16) * 2 ^ 16 + number / 2 ^ 0 % 2 ^ 16) = number
  rw [top, hextet_step 96, hextet_step 80, hextet_step 64, hextet_step 48, hextet_step 32,
    hextet_step 16, hextet_step 0, Nat.pow_zero, Nat.div_one]

theorem parseHextet_digits (small : number < 2 ^ 16) :
    parseHextet (Nat.toDigits 16 number) = some number := by
  apply parseHextet_some.mpr
  refine ⟨fun char member => Numerals.isHex_toDigits member, ?_, Nat.toDigits_ne_nil, ?_⟩
  · rw [Nat.length_toDigits_le_iff (by decide) (by decide)]
    exact small
  · exact (Numerals.value_toDigits (by decide) (by decide)).symm

end

/-! The longest run of zeros. -/

/-- The best run is in what has been seen, and the current one ends it. -/
structure Runs.Sound (runs : Runs) (seen : List Nat) : Prop where
  best : ∃ front back, seen = front ++ List.replicate runs.best.length 0 ++ back ∧
    (runs.best.length ≠ 0 → front.length = runs.best.start)
  current : ∃ front, seen = front ++ List.replicate runs.current.length 0 ∧
    (runs.current.length ≠ 0 → front.length = runs.current.start)

section

variable {runs : Runs} {seen rest : List Nat} {hextet : Nat}

theorem Runs.Sound.next (sound : runs.Sound seen) :
    (runs.next seen.length hextet).Sound (seen ++ [hextet]) := by
  obtain ⟨⟨front, back, shape, start⟩, front', shape', start'⟩ := sound
  have kept : ∃ front back, seen ++ [hextet] = front ++ List.replicate runs.best.length 0 ++ back ∧
      (runs.best.length ≠ 0 → front.length = runs.best.start) := by
    refine ⟨front, back ++ [hextet], ?_, start⟩
    rw [shape, List.append_assoc]
  by_cases zero : hextet = 0
  · rw [Runs.next, if_pos zero]
    have grown : ∃ front, seen ++ [hextet] =
          front ++ List.replicate (runs.current.length + 1) 0 ∧
        (runs.current.length + 1 ≠ 0 → front.length =
          if runs.current.length = 0 then seen.length else runs.current.start) := by
      refine ⟨front', ?_, ?_⟩
      · rw [shape', zero, List.append_assoc, ← List.replicate_succ']
      · intro _
        split
        next none' => rw [shape', none', List.replicate_zero, List.append_nil]
        next some' => exact start' some'
    refine ⟨?_, grown⟩
    by_cases longer : runs.best.length < runs.current.length + 1
    · simp only [longer, ↓reduceIte]
      obtain ⟨front, shape, start⟩ := grown
      exact ⟨front, [], by rw [shape, List.append_nil], start⟩
    · simp only [longer, ↓reduceIte]
      exact kept
  · rw [Runs.next, if_neg zero]
    exact ⟨kept, seen ++ [hextet], by simp, by simp⟩

theorem Runs.Sound.foldl (sound : runs.Sound seen) :
    ((rest.zipIdx seen.length).foldl (fun (runs : Runs) entry => runs.next entry.2 entry.1)
      runs).Sound (seen ++ rest) := by
  induction rest generalizing runs seen with
  | nil => simpa using sound
  | cons hextet rest ih =>
      have more := @ih _ (seen ++ [hextet]) (sound.next)
      rw [List.length_append, List.length_singleton, List.append_assoc] at more
      exact more

theorem longestRun_sound (hextets : List Nat) : ∃ front back,
    hextets = front ++ List.replicate (longestRun hextets).length 0 ++ back ∧
      ((longestRun hextets).length ≠ 0 → front.length = (longestRun hextets).start) := by
  have start : Runs.none.Sound [] := ⟨⟨[], [], rfl, by simp [Runs.none]⟩, [], rfl, by simp [Runs.none]⟩
  have whole := @Runs.Sound.foldl _ _ hextets start
  exact whole.best

end

/-! The parts between the colons. -/

section

variable {high low parts : List (List Char)}

/-- The parts of a text with a `::` between these. -/
def partsAround (high low : List (List Char)) : List (List Char) :=
  (if high = [] then [[]] else []) ++ high ++ [[]] ++ low ++ if low = [] then [[]] else []

theorem takeWhile_solid {words : List (List Char)} (solid : [] ∉ words) (rest : List (List Char)) :
    (words ++ [] :: rest).takeWhile (· != []) = words ∧
      (words ++ [] :: rest).dropWhile (· != []) = [] :: rest := by
  have accepted : ∀ word ∈ words, (word != []) = true := by
    intro word member
    rw [bne_iff_ne]
    rintro rfl
    exact solid member
  rw [List.takeWhile_append_of_pos accepted, List.dropWhile_append_of_pos accepted]
  simp

/-- A `::` between hextets, at the start or at the end stands for the zeros that are missing. -/
theorem expand_around (high' : [] ∉ high) (low' : [] ∉ low) (room : high.length + low.length ≤ 7) :
    expand (partsAround high low) =
      some (high ++ List.replicate (8 - (high.length + low.length)) ['0'] ++ low) := by
  have short : ¬8 < high.length + low.length + 1 := by omega
  cases high with
  | nil =>
      cases low using List.reverseRecOn with
      | nil => rfl
      | append_singleton low last =>
          have last' : last ≠ [] := by
            rintro rfl
            exact low' (List.mem_append_right _ List.mem_cons_self)
          have inner : [] ∉ low := fun member => low' (List.mem_append_left _ member)
          have shape : partsAround [] (low ++ [last]) = [] :: ([] :: low ++ [last]) := by
            simp [partsAround]
          have final : ([] :: ([] :: low ++ [last])).getLast? = some last := by
            rw [← List.cons_append, List.getLast?_concat]
          have cut := takeWhile_solid (List.not_mem_nil : [] ∉ ([] : List (List Char))) low
          simp only [List.nil_append] at cut
          simp only [expand, shape, final, List.head?_cons, Option.getD_some, List.tail_cons,
            List.dropLast_concat, cut, last', inner, ↓reduceIte, ne_eq, not_true_eq_false,
            and_false, false_and]
          rw [if_neg short]
  | cons first high =>
      have first' : first ≠ [] := by
        rintro rfl
        exact high' List.mem_cons_self
      have inner : [] ∉ high := fun member => high' (List.mem_cons_of_mem _ member)
      cases low using List.reverseRecOn with
      | nil =>
          have shape : partsAround (first :: high) [] = first :: (high ++ [[]] ++ [[]]) := by
            simp [partsAround]
          have last : (first :: (high ++ [[]] ++ [[]])).getLast? = some [] := by
            rw [← List.cons_append, List.getLast?_concat]
          have cut := takeWhile_solid inner []
          simp only [expand, shape, last, List.head?_cons, Option.getD_some, List.tail_cons,
            List.dropLast_concat, cut, first', List.not_mem_nil, ↓reduceIte, ne_eq,
            not_true_eq_false, and_false, false_and]
          rw [if_neg short]
      | append_singleton low last =>
          have last' : last ≠ [] := by
            rintro rfl
            exact low' (List.mem_append_right _ List.mem_cons_self)
          have inner' : [] ∉ low := fun member => low' (List.mem_append_left _ member)
          have shape : partsAround (first :: high) (low ++ [last]) =
              first :: (high ++ [] :: low ++ [last]) := by
            simp [partsAround]
          have final : (first :: (high ++ [] :: low ++ [last])).getLast? = some last := by
            rw [← List.cons_append, List.getLast?_concat]
          have cut := takeWhile_solid inner low
          simp only [expand, shape, final, List.head?_cons, Option.getD_some, List.tail_cons,
            List.dropLast_concat, cut, first', last', inner', ↓reduceIte, false_and]
          rw [if_neg short]

theorem expand_whole (parts' : [] ∉ parts) (eight : parts.length = 8) :
    expand parts = some parts := by
  cases parts with
  | nil => cases eight
  | cons first rest =>
      cases rest using List.reverseRecOn with
      | nil => cases eight
      | append_singleton inner last =>
          have first' : first ≠ [] := by
            rintro rfl
            exact parts' List.mem_cons_self
          have last' : last ≠ [] := by
            rintro rfl
            exact parts' (List.mem_cons_of_mem _ (List.mem_append_right _ List.mem_cons_self))
          have final : (first :: (inner ++ [last])).getLast? = some last := by
            rw [← List.cons_append, List.getLast?_concat]
          have none' : inner.dropWhile (· != []) = [] := by
            rw [List.dropWhile_eq_nil_iff]
            intro word member
            rw [bne_iff_ne]
            rintro rfl
            exact parts' (List.mem_cons_of_mem _ (List.mem_append_left _ member))
          simp only [expand, final, List.head?_cons, Option.getD_some, List.tail_cons,
            List.dropLast_concat, none', eight, first', last', ne_eq, not_true_eq_false, or_self,
            ↓reduceIte]

end

section

variable {written : List Nat} {number : Nat}

/-- A run of two zeros or more is written as `::`. -/
theorem compress_long (eight : written.length = 8) (long : 1 < (longestRun written).length) :
    ∃ front back, written = front ++ List.replicate (longestRun written).length 0 ++ back ∧
      front.length = (longestRun written).start ∧
      compress written = partsAround (front.map (Nat.toDigits 16)) (back.map (Nat.toDigits 16)) := by
  obtain ⟨front, back, shape, start⟩ := longestRun_sound written
  have start := start (by omega)
  refine ⟨front, back, shape, start, ?_⟩
  have texts : written.map (Nat.toDigits 16) = front.map (Nat.toDigits 16) ++
      (List.replicate (longestRun written).length (Nat.toDigits 16 0) ++
        back.map (Nat.toDigits 16)) := by
    rw [← List.map_replicate, ← List.map_append, ← List.map_append, ← List.append_assoc, ← shape]
  have total := congrArg List.length shape
  simp only [List.length_append, List.length_replicate] at total
  have high : (written.map (Nat.toDigits 16)).take (longestRun written).start =
      front.map (Nat.toDigits 16) := by
    rw [texts, ← start, ← List.length_map (f := Nat.toDigits 16), List.take_left]
  have low : (written.map (Nat.toDigits 16)).drop
      ((longestRun written).start + (longestRun written).length) = back.map (Nat.toDigits 16) := by
    rw [texts, ← List.append_assoc, List.drop_left']
    rw [List.length_append, List.length_map, List.length_replicate, start]
  have first : (longestRun written).start = 0 ↔ front.map (Nat.toDigits 16) = [] := by
    rw [← start, List.length_eq_zero_iff, List.map_eq_nil_iff]
  have last : (longestRun written).start + (longestRun written).length =
      (written.map (Nat.toDigits 16)).length ↔ back.map (Nat.toDigits 16) = [] := by
    rw [List.length_map, List.map_eq_nil_iff, ← List.length_eq_zero_iff]
    omega
  simp only [compress, long, ↓reduceIte, high, low, first, last, partsAround, List.append_assoc]

theorem compress_short (short : ¬1 < (longestRun written).length) :
    compress written = written.map (Nat.toDigits 16) := by
  simp only [compress, short, ↓reduceIte]

theorem compress_cases (eight : written.length = 8) :
    compress written = written.map (Nat.toDigits 16) ∨
      ∃ front count back, written = front ++ List.replicate count 0 ++ back ∧ 1 < count ∧
        compress written =
          partsAround (front.map (Nat.toDigits 16)) (back.map (Nat.toDigits 16)) := by
  by_cases long : 1 < (longestRun written).length
  · obtain ⟨front, back, shape, _, parts⟩ := compress_long eight long
    exact .inr ⟨front, _, back, shape, long, parts⟩
  · exact .inl (compress_short long)

theorem digits_nonempty : [] ∉ written.map (Nat.toDigits 16) := by
  intro member
  obtain ⟨hextet, _, empty⟩ := List.mem_map.mp member
  exact Nat.toDigits_ne_nil empty

/-- What is compressed is expanded again. -/
theorem expand_compress (eight : written.length = 8) :
    expand (compress written) = some (written.map (Nat.toDigits 16)) := by
  rcases compress_cases eight with whole | ⟨front, count, back, shape, long, parts⟩
  · rw [whole]
    exact expand_whole digits_nonempty (by rw [List.length_map, eight])
  · have total := congrArg List.length shape
    simp only [List.length_append, List.length_replicate, eight] at total
    rw [parts, expand_around digits_nonempty digits_nonempty
      (by rw [List.length_map, List.length_map]; omega)]
    have missing : 8 - ((front.map (Nat.toDigits 16)).length +
        (back.map (Nat.toDigits 16)).length) = count := by
      rw [List.length_map, List.length_map]
      omega
    rw [missing, shape, List.map_append, List.map_append, List.map_replicate, Nat.toDigits_zero]

theorem mem_compress (eight : written.length = 8) {word : List Char}
    (member : word ∈ compress written) : ∀ char ∈ word, isHex char = true := by
  have digits : ∀ numbers : List Nat, word ∈ numbers.map (Nat.toDigits 16) →
      ∀ char ∈ word, isHex char = true := by
    intro numbers member char inside
    obtain ⟨hextet, _, rfl⟩ := List.mem_map.mp member
    exact Numerals.isHex_toDigits inside
  rcases compress_cases eight with whole | ⟨front, count, back, shape, long, parts⟩
  · rw [whole] at member
    exact digits written member
  · rw [parts, partsAround] at member
    simp only [List.mem_append, List.mem_singleton] at member
    have empty : ∀ condition : Prop, [Decidable condition] →
        word ∈ (if condition then [[]] else ([] : List (List Char))) → word = [] := by
      intro condition _ member
      split at member
      next => exact List.mem_singleton.mp member
      next => cases member
    rcases member with (((member | member) | rfl) | member) | member
    · rw [empty _ member]
      simp
    · exact digits front member
    · simp
    · exact digits back member
    · rw [empty _ member]
      simp

theorem compress_length (eight : written.length = 8) :
    3 ≤ (compress written).length ∧ (compress written).length ≤ 9 := by
  rcases compress_cases eight with whole | ⟨front, count, back, shape, long, parts⟩
  · rw [whole, List.length_map]
    omega
  · have total := congrArg List.length shape
    simp only [List.length_append, List.length_replicate, eight] at total
    rw [parts, partsAround]
    simp only [List.length_append, List.length_map, List.length_singleton,
      ← List.length_eq_zero_iff]
    split
    · split
      · simp only [List.length_singleton]
        omega
      · simp only [List.length_singleton, List.length_nil]
        omega
    · split
      · simp only [List.length_singleton, List.length_nil]
        omega
      · simp only [List.length_nil]
        omega

theorem print6_split : (print6 number).splitOn ':' = compress (hextets number) := by
  rw [print6]
  apply List.splitOn_intercalate
  · intro word member colon
    have hex := mem_compress hextets_length member _ colon
    revert hex
    decide
  · intro none'
    have some' := (compress_length (@hextets_length number)).1
    rw [none'] at some'
    exact absurd some' (by decide)

theorem unfoldSuffix_compress (eight : written.length = 8) :
    unfoldSuffix (compress written) = some (compress written) := by
  have plain : '.' ∉ (compress written).getLast?.getD [] := by
    cases last : (compress written).getLast? with
    | none => exact List.not_mem_nil
    | some word =>
        intro point
        have hex := mem_compress eight (List.mem_of_getLast? last) _ point
        revert hex
        decide
  rw [unfoldSuffix, if_neg plain]

theorem parse6_print (bound : number < 2 ^ 128) : parse6 (print6 number) = some number := by
  obtain ⟨many, few⟩ := compress_length (@hextets_length number)
  apply parse6_some.mpr
  rw [print6_split]
  refine ⟨many, _, unfoldSuffix_compress hextets_length, few, _, hextets number,
    expand_compress hextets_length, ?_, (joinHextets_hextets bound).symm⟩
  rw [List.forall₂_map_left_iff, List.forall₂_same]
  intro hextet member
  exact parseHextet_digits (hextets_small hextet member)

theorem mem_print6 {char : Char} (member : char ∈ print6 number) :
    isHex char = true ∨ char = ':' := by
  rcases Joined.mem_intercalate member with rfl | ⟨word, member, inside⟩
  · exact .inr rfl
  · exact .inl (mem_compress hextets_length member char inside)

theorem colon_print6 : ':' ∈ print6 number := by
  have many := (compress_length (@hextets_length number)).1
  rw [← print6_split, Joined.length_splitOn] at many
  exact List.count_pos_iff.mp (by omega)

/-- What is read as IPv6 has a colon. -/
theorem parse6_colon {text : List Char} (read : parse6 text = some number) : ':' ∈ text := by
  have many := (parse6_some.mp read).1
  rw [Joined.length_splitOn] at many
  exact List.count_pos_iff.mp (by omega)

end

/-! Addresses. -/

section

variable {address : Address} {text : List Char}

theorem ipv4Address_some : ipv4Address text = some address ↔
    '/' ∉ text ∧ parse4 text = some address.number ∧ address.version = .v4 ∧
      address.scope = none := by
  rw [ipv4Address]
  split
  next slash => simp [slash]
  next plain =>
    rw [Option.pmap_eq_some_iff]
    constructor
    · rintro ⟨number, bound, read, rfl⟩
      exact ⟨plain, read, rfl, rfl⟩
    · rintro ⟨_, read, version, scope⟩
      exact ⟨address.number, parse4_lt read, read, Address.ext version rfl scope⟩

theorem ipv6Address_some : ipv6Address text = some address ↔
    '/' ∉ text ∧ address.version = .v6 ∧ ∃ body, splitScope text = some (body, address.scope) ∧
      parse6 body = some address.number := by
  rw [ipv6Address]
  split
  next slash => simp [slash]
  next plain =>
    split
    next none' => simp [none']
    next body scope split' =>
      rw [Option.pmap_eq_some_iff]
      constructor
      · rintro ⟨number, bound, read, rfl⟩
        exact ⟨plain, rfl, body, split', read⟩
      · rintro ⟨_, version, other, same, read⟩
        obtain ⟨rfl, rfl⟩ : body = other ∧ scope = address.scope := by
          simpa using split'.symm.trans same
        exact ⟨address.number, parse6_lt read, read, Address.ext version rfl rfl⟩

theorem text_v4 (version : address.version = .v4) : address.text = print4 address.number := by
  rw [Address.text, version]

theorem text_v6 (version : address.version = .v6) : address.text =
    print6 address.number ++ (address.scope.map fun name => '%' :: name).getD [] := by
  rw [Address.text, version]
  cases address.scope with
  | none => rfl
  | some name => rfl

theorem scope_v4 (version : address.version = .v4) : address.scope = none := by
  cases given : address.scope with
  | none => rfl
  | some name =>
      have other := (address.validScope name given).1
      rw [version] at other
      cases other

theorem text_plain : '/' ∉ address.text := by
  intro slash
  cases version : address.version with
  | v4 =>
      rw [text_v4 version] at slash
      rcases mem_print4 slash with digit | point
      · exact absurd digit (by decide)
      · exact absurd point (by decide)
  | v6 =>
      rw [text_v6 version, List.mem_append] at slash
      rcases slash with slash | slash
      · rcases mem_print6 slash with hex | colon
        · exact absurd hex (by decide)
        · exact absurd colon (by decide)
      · cases given : address.scope with
        | none =>
            rw [given] at slash
            cases slash
        | some name =>
            rw [given] at slash
            rcases List.mem_cons.mp slash with other | inside
            · exact absurd other (by decide)
            · exact (address.validScope name given).2.2.2 inside

theorem splitScope_text (version : address.version = .v6) :
    splitScope address.text = some (print6 address.number, address.scope) := by
  rw [splitScope_some, text_v6 version]
  constructor
  · intro percent
    rcases mem_print6 percent with hex | colon
    · exact absurd hex (by decide)
    · exact absurd colon (by decide)
  · cases given : address.scope with
    | none => exact .inl ⟨rfl, by simp⟩
    | some name =>
        obtain ⟨_, nonempty, single, _⟩ := address.validScope name given
        exact .inr ⟨name, rfl, by simp, nonempty, single⟩

/-- A text with a colon is no IPv4 address. -/
theorem ipv4Address_colon (colon : ':' ∈ text) : ipv4Address text = none := by
  cases read : ipv4Address text with
  | none => rfl
  | some address =>
      rcases parse4_chars (ipv4Address_some.mp read).2.1 ':' colon with digit | point
      · exact absurd digit (by decide)
      · exact absurd point (by decide)

theorem colon_text (version : address.version = .v6) : ':' ∈ address.text := by
  rw [text_v6 version]
  exact List.mem_append_left _ colon_print6

theorem ipv4Address_text (version : address.version = .v4) :
    ipv4Address address.text = some address := by
  have bound := address.bound
  rw [version] at bound
  apply ipv4Address_some.mpr
  refine ⟨text_plain, ?_, version, scope_v4 version⟩
  rw [text_v4 version]
  exact parse4_print bound

theorem ipv6Address_text (version : address.version = .v6) :
    ipv6Address address.text = some address := by
  have bound := address.bound
  rw [version] at bound
  apply ipv6Address_some.mpr
  exact ⟨text_plain, version, print6 address.number, splitScope_text version, parse6_print bound⟩

/-- The text of an address is read as that address. -/
theorem ipAddress_text (address : Address) : ipAddress address.text = some address := by
  cases version : address.version with
  | v4 => rw [ipAddress, ipv4Address_text version, Option.some_or]
  | v6 =>
      rw [ipAddress, ipv4Address_colon (colon_text version), Option.none_or,
        ipv6Address_text version]

end

/-! Networks. -/

section

variable {network : Network} {address : Address}

theorem prefixFromText_digits {width prefixlen : Nat} (bound : prefixlen ≤ width)
    (short : width ≤ 128) :
    prefixFromText width (Nat.toDigits 10 prefixlen) = some prefixlen := by
  have written : value 10 (Nat.toDigits 10 prefixlen) = prefixlen :=
    Numerals.value_toDigits (by decide) (by decide)
  rw [prefixFromText, written, if_pos]
  refine ⟨Nat.toDigits_ne_nil, ?_, ?_, bound⟩
  · exact List.all_eq_true.mpr fun char member => Numerals.isDigit_toDigits member
  · have three : (Nat.toDigits 10 prefixlen).length ≤ 3 := by
      rw [Nat.length_toDigits_le_iff (by decide) (by decide)]
      omega
    exact le_trans three (by decide)

theorem prefixOf_digits {version : Version} {prefixlen : Nat} (bound : prefixlen ≤ version.width) :
    prefixOf version (Nat.toDigits 10 prefixlen) = some prefixlen := by
  cases version with
  | v4 =>
      have read : prefixFromText 32 (Nat.toDigits 10 prefixlen) = some prefixlen :=
        prefixFromText_digits bound (by decide)
      rw [prefixOf, read, Option.some_or]
  | v6 => exact prefixFromText_digits bound le_rfl

/-- The network of an address without host bits keeps the address. -/
theorem networkOf_aligned :
    networkOf network.network network.prefixlen network.bound = network := by
  have plain : masked (network.network.version.width - network.prefixlen) network.network.number =
      network.network.number := Nat.div_mul_cancel network.aligned
  simp only [networkOf, plain, ↓reduceDIte]

section

variable {prefixlen : Nat} (address) (bound : prefixlen ≤ address.version.width)

theorem networkOf_version : (networkOf address prefixlen bound).version = address.version := by
  rw [Network.version, networkOf]
  split
  next => rfl
  next => rfl

theorem networkOf_number : (networkOf address prefixlen bound).network.number =
    masked (address.version.width - prefixlen) address.number := by
  rw [networkOf]
  split
  next plain => exact plain.symm
  next => rfl

theorem networkOf_scope : (networkOf address prefixlen bound).network.scope =
    if masked (address.version.width - prefixlen) address.number = address.number then
      address.scope
    else none := by
  rw [networkOf]
  split
  next => rfl
  next => rfl

theorem networkOf_prefixlen : (networkOf address prefixlen bound).prefixlen = prefixlen := by
  rw [networkOf]
  split
  next => rfl
  next => rfl

end

theorem split_prefixed (prefixlen : Nat) :
    (address.text ++ '/' :: Nat.toDigits 10 prefixlen).splitOn '/' =
      [address.text, Nat.toDigits 10 prefixlen] := by
  rw [List.splitOn_append_cons_self, List.splitOn_eq_singleton text_plain,
    List.splitOn_eq_singleton (digits_apart (by decide))]
  rfl

theorem readNetwork_prefixed {read : List Char → Option Address} {prefixlen : Nat}
    (read' : read address.text = some address) (bound : prefixlen ≤ address.version.width) :
    readNetwork read (address.text ++ '/' :: Nat.toDigits 10 prefixlen) =
      some (networkOf address prefixlen bound) := by
  simp only [readNetwork, split_prefixed, read', Option.bind_some]
  rw [Option.pmap_eq_some_iff]
  exact ⟨prefixlen, bound, prefixOf_digits bound, rfl⟩

theorem readNetwork_none {read : List Char → Option Address} {prefixlen : Nat}
    (read' : read address.text = none) :
    readNetwork read (address.text ++ '/' :: Nat.toDigits 10 prefixlen) = none := by
  simp only [readNetwork, split_prefixed, read', Option.bind_none]

/-- An address with a length is read as the network of that length around it. -/
theorem ipNetwork_prefixed {prefixlen : Nat} (bound : prefixlen ≤ address.version.width) :
    ipNetwork (address.text ++ '/' :: Nat.toDigits 10 prefixlen) =
      some (networkOf address prefixlen bound) := by
  cases version : address.version with
  | v4 =>
      rw [ipNetwork, readNetwork_prefixed (ipv4Address_text version) bound, Option.some_or]
  | v6 =>
      rw [ipNetwork, readNetwork_none (ipv4Address_colon (colon_text version)), Option.none_or,
        readNetwork_prefixed (ipv6Address_text version) bound]

/-- The text of a network is read as that network. -/
theorem ipNetwork_text (network : Network) : ipNetwork network.text = some network := by
  rw [Network.text, ipNetwork_prefixed network.bound, networkOf_aligned]

/-- What is read as an address is read as the network of that address alone. -/
theorem ipNetwork_of_address {source : List Char} (read : ipAddress source = some address) :
    ipNetwork source = some (networkOf address address.version.width le_rfl) := by
  rcases Option.or_eq_some_iff.mp read with read | ⟨none', read⟩
  · have split : source.splitOn '/' = [source] :=
      List.splitOn_eq_singleton (ipv4Address_some.mp read).1
    simp only [ipNetwork, readNetwork, split, read, Option.map_some, Option.some_or]
  · have split : source.splitOn '/' = [source] :=
      List.splitOn_eq_singleton (ipv6Address_some.mp read).1
    simp only [ipNetwork, readNetwork, split, none', read, Option.map_none, Option.map_some,
      Option.none_or]

theorem ipNetwork_address (address : Address) :
    ipNetwork address.text = some (networkOf address address.version.width le_rfl) :=
  ipNetwork_of_address (ipAddress_text address)

theorem networkOf_full : networkOf address address.version.width le_rfl =
    ⟨address, address.version.width, le_rfl, by rw [Nat.sub_self]; exact one_dvd _⟩ := by
  have plain : masked (address.version.width - address.version.width) address.number =
      address.number := by
    rw [Nat.sub_self, masked, Nat.pow_zero, Nat.div_one, Nat.mul_one]
  simp only [networkOf, plain, ↓reduceDIte]

end

end Ip
