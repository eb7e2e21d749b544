import Mathlib.Data.List.TakeWhile
import Soc360.Ip.Addresses
import Soc360.Text.Joined
import Soc360.Text.Numerals

set_option autoImplicit false

/-! The texts of addresses and networks, as `ipaddress` reads and writes them. -/

namespace Ip

open Numerals (isDigit isHex maxStrDigits value)

/-! IPv4. -/

/-- `_parse_octet`. -/
def parseOctet (text : List Char) : Option Nat :=
  if text = [] then none
  else if ¬text.all isDigit = true then none
  else if 3 < text.length then none
  else if text ≠ ['0'] ∧ text.head? = some '0' then none
  else if 255 < value 10 text then none else some (value 10 text)

/-- `_ip_int_from_string` of IPv4. -/
def parse4 (text : List Char) : Option Nat :=
  match text.splitOn '.' with
  | [first, second, third, fourth] => do
      let first ← parseOctet first
      let second ← parseOctet second
      let third ← parseOctet third
      let fourth ← parseOctet fourth
      return ((first * 256 + second) * 256 + third) * 256 + fourth
  | _ => none

def octets (number : Nat) : List Nat :=
  [number / 2 ^ 24 % 256, number / 2 ^ 16 % 256, number / 2 ^ 8 % 256, number % 256]

def print4 (number : Nat) : List Char :=
  ['.'].intercalate ((octets number).map (Nat.toDigits 10))

/-! IPv6. -/

/-- `_parse_hextet`: `int` refuses an empty text. -/
def parseHextet (text : List Char) : Option Nat :=
  if ¬text.all isHex = true then none
  else if 4 < text.length then none
  else if text = [] then none else some (value 16 text)

/-- An IPv4 suffix as two hextets. -/
def unfoldSuffix (parts : List (List Char)) : Option (List (List Char)) :=
  let last := parts.getLast?.getD []
  if '.' ∈ last then
    (parse4 last).map fun number => parts.dropLast ++
      [Nat.toDigits 16 (number / 2 ^ 16 % 2 ^ 16), Nat.toDigits 16 (number % 2 ^ 16)]
  else some parts

/-- The eight hextets: a `::` stands for at least one zero. -/
def expand (parts : List (List Char)) : Option (List (List Char)) :=
  let first := parts.head?.getD []
  let last := parts.getLast?.getD []
  let inner := parts.tail.dropLast
  let before := inner.takeWhile (· != [])
  match inner.dropWhile (· != []) with
  | _ :: after =>
      if [] ∈ after then none
      else if first = [] ∧ before ≠ [] then none
      else if last = [] ∧ after ≠ [] then none
      else
        let high := if first = [] then [] else first :: before
        let low := if last = [] then [] else after ++ [last]
        if 8 < high.length + low.length + 1 then none
        else some (high ++ List.replicate (8 - (high.length + low.length)) ['0'] ++ low)
  | [] => if parts.length ≠ 8 ∨ first = [] ∨ last = [] then none else some parts

/-- `ip_int <<= 16; ip_int |= hextet`. -/
def joinHextets (hextets : List Nat) : Nat :=
  hextets.foldl (fun number hextet => number * 2 ^ 16 + hextet) 0

/-- `_ip_int_from_string` of IPv6. -/
def parse6 (text : List Char) : Option Nat :=
  let parts := text.splitOn ':'
  if parts.length < 3 then none
  else do
    let parts ← unfoldSuffix parts
    if 9 < parts.length then none
    else do
      let hextets ← expand parts
      let hextets ← hextets.mapM parseHextet
      return joinHextets hextets

def hextets (number : Nat) : List Nat :=
  (List.range 8).map fun index => number / 2 ^ (16 * (7 - index)) % 2 ^ 16

/-- A run of zeros: where it starts and how long it is. -/
structure Run where
  start : Nat
  length : Nat

/-- The longest run so far and the run that ends here. -/
structure Runs where
  best : Run
  current : Run

/-- A hextet more. -/
def Runs.next (runs : Runs) (index hextet : Nat) : Runs :=
  if hextet = 0 then
    let start := if runs.current.length = 0 then index else runs.current.start
    let current : Run := ⟨start, runs.current.length + 1⟩
    ⟨if runs.best.length < current.length then current else runs.best, current⟩
  else { runs with current := ⟨0, 0⟩ }

def Runs.none : Runs := ⟨⟨0, 0⟩, ⟨0, 0⟩⟩

/-- The first of the longest runs of zeros. -/
def longestRun (hextets : List Nat) : Run :=
  (hextets.zipIdx.foldl (fun (runs : Runs) entry => runs.next entry.2 entry.1) .none).best

/-- `_compress_hextets`. -/
def compress (hextets : List Nat) : List (List Char) :=
  let run := longestRun hextets
  let texts := hextets.map (Nat.toDigits 16)
  if 1 < run.length then
    (if run.start = 0 then [[]] else []) ++ texts.take run.start ++ [[]] ++
      texts.drop (run.start + run.length) ++
        if run.start + run.length = texts.length then [[]] else []
  else texts

def print6 (number : Nat) : List Char := [':'].intercalate (compress (hextets number))

/-! What is read is within bounds. -/

section

variable {text : List Char} {parts : List (List Char)} {number : Nat} {numbers : List Nat}

theorem parseOctet_some : parseOctet text = some number ↔
    text ≠ [] ∧ (∀ char ∈ text, isDigit char = true) ∧ text.length ≤ 3 ∧
      (text = ['0'] ∨ text.head? ≠ some '0') ∧ value 10 text ≤ 255 ∧ number = value 10 text := by
  simp only [parseOctet, List.all_eq_true]
  repeat' split
  all_goals grind

theorem parse4_some : parse4 text = some number ↔
    ∃ first second third fourth, text.splitOn '.' = [first, second, third, fourth] ∧
      ∃ first' second' third' fourth', parseOctet first = some first' ∧
        parseOctet second = some second' ∧ parseOctet third = some third' ∧
        parseOctet fourth = some fourth' ∧
        number = ((first' * 256 + second') * 256 + third') * 256 + fourth' := by
  rw [parse4]
  split
  next first second third fourth shape =>
    simp only [shape, Option.pure_def, Option.bind_eq_bind, Option.bind_eq_some_iff,
      Option.some.injEq]
    constructor
    · rintro ⟨first', read₁, second', read₂, third', read₃, fourth', read₄, rfl⟩
      exact ⟨first, second, third, fourth, rfl, first', second', third', fourth', read₁, read₂,
        read₃, read₄, rfl⟩
    · rintro ⟨_, _, _, _, same, first', second', third', fourth', read₁, read₂, read₃, read₄, rfl⟩
      obtain ⟨rfl, rfl, rfl, rfl⟩ : first = _ ∧ second = _ ∧ third = _ ∧ fourth = _ := by
        simpa using same
      exact ⟨first', read₁, second', read₂, third', read₃, fourth', read₄, rfl⟩
  next other =>
    simp only [reduceCtorEq, false_iff, not_exists, not_and]
    intro first second third fourth shape
    exact absurd shape (other first second third fourth)

theorem parse4_lt (read : parse4 text = some number) : number < 2 ^ Version.v4.width := by
  obtain ⟨_, _, _, _, _, first, second, third, fourth, h₁, h₂, h₃, h₄, rfl⟩ := parse4_some.mp read
  have b₁ := (parseOctet_some.mp h₁).2.2.2.2
  have b₂ := (parseOctet_some.mp h₂).2.2.2.2
  have b₃ := (parseOctet_some.mp h₃).2.2.2.2
  have b₄ := (parseOctet_some.mp h₄).2.2.2.2
  have width : 2 ^ Version.v4.width = 4294967296 := rfl
  omega

theorem mapM_some {α β : Type} {read : α → Option β} {given : List α} {found : List β} :
    given.mapM read = some found ↔ List.Forall₂ (fun one other => read one = some other) given found := by
  induction given generalizing found with
  | nil => simp [eq_comm]
  | cons one given ih =>
      simp only [List.mapM_cons, Option.pure_def, Option.bind_eq_bind, Option.bind_eq_some_iff,
        Option.some.injEq, ih, List.forall₂_cons_left_iff]
      constructor
      · rintro ⟨other, read', found', all, rfl⟩
        exact ⟨other, found', read', all, rfl⟩
      · rintro ⟨other, found', read', all, rfl⟩
        exact ⟨other, read', found', all, rfl⟩

theorem parseHextet_some : parseHextet text = some number ↔
    (∀ char ∈ text, isHex char = true) ∧ text.length ≤ 4 ∧ text ≠ [] ∧ number = value 16 text := by
  simp only [parseHextet, List.all_eq_true]
  repeat' split
  all_goals grind

theorem parseHextet_lt (read : parseHextet text = some number) : number < 2 ^ 16 := by
  obtain ⟨hex, short, _, rfl⟩ := parseHextet_some.mp read
  have small := Numerals.value_lt fun char member => Numerals.digitOf_hex (hex char member)
  have four := Nat.pow_le_pow_right (by decide : 0 < 16) short
  omega

theorem joinHextets_concat {hextet : Nat} :
    joinHextets (numbers ++ [hextet]) = joinHextets numbers * 2 ^ 16 + hextet := by
  rw [joinHextets, List.foldl_append]
  rfl

theorem joinHextets_lt (small : ∀ hextet ∈ numbers, hextet < 2 ^ 16) :
    joinHextets numbers < 2 ^ (16 * numbers.length) := by
  induction numbers using List.reverseRecOn with
  | nil => decide
  | append_singleton numbers hextet ih =>
      have before := ih fun other member => small other (List.mem_append_left _ member)
      have last := small hextet (List.mem_append_right _ List.mem_cons_self)
      rw [joinHextets_concat, List.length_append, List.length_singleton, Nat.mul_add, Nat.mul_one,
        Nat.pow_add]
      omega

theorem expand_length {hextets : List (List Char)} (read : expand parts = some hextets) :
    hextets.length = 8 := by
  simp only [expand] at read
  split at read
  next _ after _ =>
    repeat' split at read
    all_goals simp only [reduceCtorEq, Option.some.injEq] at read
    all_goals subst read
    all_goals simp only [List.length_append, List.length_replicate]
    all_goals grind
  next =>
    split at read
    next => cases read
    next whole =>
      cases read
      rw [not_or] at whole
      exact not_not.mp whole.1

theorem parse6_some : parse6 text = some number ↔
    3 ≤ (text.splitOn ':').length ∧ ∃ parts, unfoldSuffix (text.splitOn ':') = some parts ∧
      parts.length ≤ 9 ∧ ∃ hextets numbers, expand parts = some hextets ∧
        List.Forall₂ (fun hextet number => parseHextet hextet = some number) hextets numbers ∧
        number = joinHextets numbers := by
  simp only [parse6]
  split
  next few => simp [few]
  next many =>
    simp only [Option.pure_def, Option.bind_eq_bind, Option.bind_eq_some_iff, Nat.not_lt.mp many,
      true_and]
    constructor
    · rintro ⟨parts, unfolded, read⟩
      split at read
      next => cases read
      next short =>
        obtain ⟨hextets, expanded, read⟩ := Option.bind_eq_some_iff.mp read
        obtain ⟨numbers, all, whole⟩ := Option.bind_eq_some_iff.mp read
        exact ⟨parts, unfolded, Nat.not_lt.mp short, hextets, numbers, expanded, mapM_some.mp all,
          (Option.some.inj whole).symm⟩
    · rintro ⟨parts, unfolded, short, hextets, numbers, expanded, all, rfl⟩
      refine ⟨parts, unfolded, ?_⟩
      rw [if_neg (Nat.not_lt.mpr short), expanded, Option.bind_some, mapM_some.mpr all,
        Option.bind_some]

theorem hextets_lt {hextets : List (List Char)}
    (all : List.Forall₂ (fun hextet number => parseHextet hextet = some number) hextets numbers) :
    ∀ hextet ∈ numbers, hextet < 2 ^ 16 := by
  induction all with
  | nil => simp
  | cons read _ ih =>
      intro hextet member
      rcases List.mem_cons.mp member with rfl | member
      · exact parseHextet_lt read
      · exact ih hextet member

theorem parse6_lt (read : parse6 text = some number) : number < 2 ^ Version.v6.width := by
  obtain ⟨_, parts, _, _, hextets, numbers, expanded, all, rfl⟩ := parse6_some.mp read
  have eight : numbers.length = 8 := by rw [← all.length_eq, expand_length expanded]
  have whole := joinHextets_lt (hextets_lt all)
  rw [eight] at whole
  exact whole

end

/-! Addresses. -/

def ipv4Address (text : List Char) : Option Address :=
  if '/' ∈ text then none
  else (parse4 text).pmap (fun number bound => ⟨.v4, number, none, bound, no_scope .v4⟩)
    fun _ read => parse4_lt read

/-- `_split_scope_id`. -/
def splitScope (text : List Char) : Option (List Char × Option (List Char)) :=
  match text.dropWhile (· != '%') with
  | [] => some (text, none)
  | _ :: name => if name = [] ∨ '%' ∈ name then none else some (text.takeWhile (· != '%'), some name)

theorem splitScope_some {text body : List Char} {scope : Option (List Char)} :
    splitScope text = some (body, scope) ↔
      '%' ∉ body ∧ (scope = none ∧ text = body ∨
        ∃ name, scope = some name ∧ text = body ++ '%' :: name ∧ name ≠ [] ∧ '%' ∉ name) := by
  constructor
  · intro split
    have whole := List.takeWhile_append_dropWhile (p := (· != '%')) (l := text)
    have apart : '%' ∉ text.takeWhile (· != '%') := by
      intro member
      exact absurd (List.mem_takeWhile_imp member) (by decide)
    rw [splitScope] at split
    cases found : text.dropWhile (· != '%') with
    | nil =>
        rw [found] at split whole
        cases split
        rw [← whole, List.append_nil]
        exact ⟨apart, .inl ⟨rfl, rfl⟩⟩
    | cons first name =>
        rw [found] at split whole
        have first' : first = '%' := by
          have head := List.head?_dropWhile_not (· != '%') text
          rw [found] at head
          simpa using head
        subst first'
        simp only at split
        split at split
        next => cases split
        next valid =>
          cases split
          rw [not_or] at valid
          exact ⟨apart, .inr ⟨name, rfl, whole.symm, valid.1, valid.2⟩⟩
  · rintro ⟨apart, split⟩
    have solid : ∀ char ∈ body, (char != '%') = true := by
      intro char member
      rw [bne_iff_ne]
      rintro rfl
      exact apart member
    rw [splitScope]
    rcases split with ⟨rfl, rfl⟩ | ⟨name, rfl, rfl, nonempty, single⟩
    · rw [List.dropWhile_eq_nil_iff.mpr solid]
    · rw [List.dropWhile_append_of_pos solid, List.takeWhile_append_of_pos solid,
        List.dropWhile_cons_of_neg (by decide), List.takeWhile_cons_of_neg (by decide),
        List.append_nil]
      simp only [nonempty, single, or_self, ↓reduceIte]

/-- A scope id is not empty, and nothing of what separates it is in it. -/
theorem splitScope_valid {text body : List Char} {scope : Option (List Char)} (plain : '/' ∉ text)
    (split : splitScope text = some (body, scope)) :
    ∀ name ∈ scope, name ≠ [] ∧ '%' ∉ name ∧ '/' ∉ name := by
  intro name given
  rcases (splitScope_some.mp split).2 with ⟨rfl, _⟩ | ⟨other, rfl, rfl, nonempty, single⟩
  · cases given
  · cases given
    refine ⟨nonempty, single, ?_⟩
    intro slash
    exact plain (List.mem_append_right _ (List.mem_cons_of_mem _ slash))

def ipv6Address (text : List Char) : Option Address :=
  if slash : '/' ∈ text then none
  else
    match split : splitScope text with
    | none => none
    | some (body, scope) =>
        (parse6 body).pmap
          (fun number bound => ⟨.v6, number, scope, bound,
            fun name given => ⟨rfl, splitScope_valid slash split name given⟩⟩)
          fun _ read => parse6_lt read

def ipAddress (text : List Char) : Option Address :=
  (ipv4Address text).or (ipv6Address text)

/-- `str(address)`. -/
def Address.text (address : Address) : List Char :=
  match address.version with
  | .v4 => print4 address.number
  | .v6 => print6 address.number ++
      match address.scope with
      | some name => '%' :: name
      | none => []

/-! Networks. -/

/-- `_prefix_from_prefix_string`. -/
def prefixFromText (width : Nat) (text : List Char) : Option Nat :=
  if text ≠ [] ∧ text.all isDigit = true ∧ text.length ≤ maxStrDigits ∧ value 10 text ≤ width then
    some (value 10 text)
  else none

/-- `_prefix_from_ip_int`: ones and then zeros. -/
def prefixFromMask (mask : Nat) : Option Nat :=
  let zeros := ((List.range 32).find? mask.testBit).getD 32
  if mask / 2 ^ zeros = 2 ^ (32 - zeros) - 1 then some (32 - zeros) else none

/-- `_prefix_from_ip_string`: a netmask, or else a hostmask. -/
def prefixFromIp (text : List Char) : Option Nat :=
  (parse4 text).bind fun mask => (prefixFromMask mask).or (prefixFromMask (2 ^ 32 - 1 - mask))

/-- `_make_netmask`, as the length of the prefix. -/
def prefixOf (version : Version) (text : List Char) : Option Nat :=
  match version with
  | .v4 => (prefixFromText 32 text).or (prefixFromIp text)
  | .v6 => prefixFromText 128 text

theorem prefixFromText_le {width prefixlen : Nat} {text : List Char}
    (read : prefixFromText width text = some prefixlen) : prefixlen ≤ width := by
  rw [prefixFromText] at read
  split at read
  next valid =>
    cases read
    exact valid.2.2.2
  next => cases read

theorem prefixFromMask_le {mask prefixlen : Nat} (read : prefixFromMask mask = some prefixlen) :
    prefixlen ≤ 32 := by
  simp only [prefixFromMask] at read
  split at read
  next =>
    cases read
    exact Nat.sub_le _ _
  next => cases read

theorem prefixOf_le {version : Version} {text : List Char} {prefixlen : Nat}
    (read : prefixOf version text = some prefixlen) : prefixlen ≤ version.width := by
  cases version with
  | v4 =>
      rcases Option.or_eq_some_iff.mp read with read | ⟨_, read⟩
      · exact prefixFromText_le read
      · obtain ⟨mask, _, read⟩ := Option.bind_eq_some_iff.mp read
        rcases Option.or_eq_some_iff.mp read with read | ⟨_, read⟩
        · exact prefixFromMask_le read
        · exact prefixFromMask_le read
  | v6 => exact prefixFromText_le read

/-- The network of an address; where host bits are set, a new address stands for it. -/
def networkOf (address : Address) (prefixlen : Nat) (bound : prefixlen ≤ address.version.width) :
    Network :=
  let host := address.version.width - prefixlen
  if plain : masked host address.number = address.number then
    ⟨address, prefixlen, bound, plain ▸ (Block.around host address.number).aligned⟩
  else
    ⟨⟨address.version, masked host address.number, none,
      lt_of_le_of_lt (Nat.div_mul_le_self _ _) address.bound, by simp⟩, prefixlen, bound,
      (Block.around host address.number).aligned⟩

/-- A network of one family: the address and the prefix, all bits if there is none. -/
def readNetwork (read : List Char → Option Address) (text : List Char) : Option Network :=
  match text.splitOn '/' with
  | [body] => (read body).map fun address => networkOf address address.version.width le_rfl
  | [body, mask] => (read body).bind fun address =>
      (prefixOf address.version mask).pmap (networkOf address) fun _ read => prefixOf_le read
  | _ => none

/-- `ip_network(text, strict=False)`. -/
def ipNetwork (text : List Char) : Option Network :=
  (readNetwork ipv4Address text).or (readNetwork ipv6Address text)

/-- `str(network)`. -/
def Network.text (network : Network) : List Char :=
  network.network.text ++ '/' :: Nat.toDigits 10 network.prefixlen

end Ip
