import Soc360.Assets.Widths
import Soc360.Text.JavaScript
import Soc360.Text.Whole

set_option autoImplicit false

/-! The check of an asset's value in the form, and what it takes of addresses, networks, names and
resources. -/

namespace Frontend

namespace AssetValues

open Assets (AssetType alnum alnumDash Conforming dot fqdn_host hostname_host isHost isHost_lt label
  letter lowerAscii lowerAscii_newline lowerChar lowerChar_small lowerChar_upper notColon valueWidth)
open Numerals (isDigit isHex value)
open Python (isAlnum isLetter isUpper)
open Regex (between chars literal plus seq star)
open Scans (addressText addressTexts networkText)

/-! The patterns. -/

/-- `.` of JavaScript, which is no line terminator. -/
def isInLine (char : Char) : Bool := char.toNat ∉ [0xa, 0xd, 0x2028, 0x2029]

def digits : Regex := between (chars isDigit) 1 3

def group : Regex := between (chars isHex) 1 4

/-- `(?=.{1,253}$)`. -/
def short : Regex := between (chars isInLine) 1 253

/-- `FQDN` after its lookahead. -/
def fqdn : Regex := seq (plus (seq label dot)) (between letter 2 63)

/-- `HOSTNAME` after its lookahead. -/
def hostname : Regex := seq (star (seq label dot)) label

/-- `ARN`. -/
def arn : Regex :=
  seq (literal "arn:") (seq (plus notColon) (seq (literal ":") (seq (plus notColon) (seq (literal ":")
    (seq (star notColon) (seq (literal ":") (seq (star notColon) (seq (literal ":")
      (plus (chars isInLine))))))))))

/-! The check. -/

/-- `IPV4` matches four runs of digits, of which `Number` makes 255 at most. -/
def isIpv4 (text : List Char) : Bool :=
  let parts := text.splitOn '.'
  parts.length == 4 && parts.all fun part => digits.matchesWhole part && value 10 part ≤ 255

def groups (text : List Char) : List (List Char) := if text = [] then [] else text.splitOn ':'

def isIpv6 (text : List Char) : Bool :=
  if !text.contains ':' then false
  else
    match JavaScript.split [':', ':'] text with
    | [head] => (groups head).length == 8 && (groups head).all group.matchesWhole
    | [head, tail] =>
        (groups head).length + (groups tail).length ≤ 7 &&
          (groups head ++ groups tail).all group.matchesWhole
    | _ => false

def isSubnet (text : List Char) : Bool :=
  match text.splitOn '/' with
  | address :: mask :: _ =>
      if !digits.matchesWhole mask then false
      else if isIpv4 address then value 10 mask ≤ 32
      else if isIpv6 address then value 10 mask ≤ 128
      else false
  | _ => false

/-- `protocol` of `new URL(text)`, or nothing where that throws. -/
def isWebApp (protocol : String → Option String) (text : String) : Bool :=
  match protocol text with
  | none => false
  | some scheme => scheme == "http:" || scheme == "https:"

def isValidValue (protocol : String → Option String) (type : AssetType) (text : String) : Bool :=
  match type with
  | .ip => isIpv4 text.toList || isIpv6 text.toList
  | .domain => short.matchesWhole text.toList && fqdn.matchesWhole text.toList
  | .hostname => short.matchesWhole text.toList && hostname.matchesWhole text.toList
  | .webApp => isWebApp protocol text
  | .subnet => isSubnet text.toList
  | .cloudResource => arn.matchesWhole text.toList

/-- `validateAssetValue`: the message, or nothing where the form accepts the value. -/
def validateAssetValue (protocol : String → Option String) (type : AssetType) (rawValue : String) :
    Option String :=
  let value := JavaScript.trim rawValue
  if value = "" then some "Introduce un valor."
  else if 255 < JavaScript.length value then some "El valor no puede superar 255 caracteres."
  else if !isValidValue protocol type value then
    some "El valor no es válido para el tipo seleccionado."
  else none

theorem validateAssetValue_none {protocol : String → Option String} {type : AssetType}
    {text : String} (trimmed : JavaScript.trim text = text) :
    validateAssetValue protocol type text = none ↔
      text ≠ "" ∧ JavaScript.length text ≤ 255 ∧ isValidValue protocol type text = true := by
  simp only [validateAssetValue, trimmed]
  split
  next empty => simp [empty]
  next some' =>
    split
    next long =>
      refine iff_of_false (Option.some_ne_none _) ?_
      rintro ⟨_, short, _⟩
      exact absurd short (Nat.not_le.mpr long)
    next short =>
      rw [Nat.not_lt] at short
      cases valid : isValidValue protocol type text with
      | false => simp
      | true => simp [some', short]

/-! Addresses. -/

section

variable {text word body mask : List Char} {parts high low : List (List Char)} {number : Nat}
  {address : Ip.Address}

theorem digits_iff : digits.matchesWhole text = true ↔
    (1 ≤ text.length ∧ text.length ≤ 3) ∧ ∀ char ∈ text, isDigit char = true :=
  Regex.matchesWhole_between (by decide)

theorem group_iff : group.matchesWhole text = true ↔
    (1 ≤ text.length ∧ text.length ≤ 4) ∧ ∀ char ∈ text, isHex char = true :=
  Regex.matchesWhole_between (by decide)

theorem isIpv4_iff : isIpv4 text = true ↔ (text.splitOn '.').length = 4 ∧
    ∀ part ∈ text.splitOn '.', digits.matchesWhole part = true ∧ value 10 part ≤ 255 := by
  simp only [isIpv4, Bool.and_eq_true, beq_iff_eq, List.all_eq_true, decide_eq_true_eq]

/-- What the form takes for IPv4 has digits and points only. -/
theorem isIpv4_chars (accepted : isIpv4 text = true) :
    ∀ char ∈ text, isDigit char = true ∨ char = '.' := by
  have parts := (isIpv4_iff.mp accepted).2
  intro char member
  rw [← @List.intercalate_splitOn _ text _ _ '.'] at member
  rcases Joined.mem_intercalate member with rfl | ⟨part, listed, inside⟩
  · exact .inr rfl
  · exact .inl ((digits_iff.mp (parts part listed).1).2 char inside)

theorem isIpv4_of_read (read : Ip.parse4 text = some number) : isIpv4 text = true := by
  obtain ⟨first, second, third, fourth, shape, _, _, _, _, h₁, h₂, h₃, h₄, _⟩ :=
    Ip.parse4_some.mp read
  have octet : ∀ {part : List Char} {octet : Nat}, Ip.parseOctet part = some octet →
      digits.matchesWhole part = true ∧ value 10 part ≤ 255 := by
    intro part octet read
    obtain ⟨some', inside, short, _, small, _⟩ := Ip.parseOctet_some.mp read
    exact ⟨digits_iff.mpr ⟨⟨List.length_pos_iff.mpr some', short⟩, inside⟩, small⟩
  rw [isIpv4_iff, shape]
  refine ⟨rfl, ?_⟩
  simp only [List.forall_mem_cons]
  exact ⟨octet h₁, octet h₂, octet h₃, octet h₄, List.forall_mem_nil _⟩

theorem isIpv6_iff : isIpv6 text = true ↔ ':' ∈ text ∧
    ((∃ head, JavaScript.split [':', ':'] text = [head] ∧ (groups head).length = 8 ∧
        ∀ part ∈ groups head, group.matchesWhole part = true) ∨
      ∃ head tail, JavaScript.split [':', ':'] text = [head, tail] ∧
        (groups head).length + (groups tail).length ≤ 7 ∧
        ∀ part ∈ groups head ++ groups tail, group.matchesWhole part = true) := by
  rw [isIpv6, List.contains_eq_mem]
  by_cases colon : ':' ∈ text
  · simp only [colon, decide_true, Bool.not_true, Bool.false_eq_true, ↓reduceIte, true_and]
    split
    next head split' =>
      simp [split']
    next head tail split' =>
      simp [split', or_imp, forall_and]
    next other other' =>
      refine iff_of_false Bool.false_ne_true ?_
      rintro (⟨head, split', _⟩ | ⟨head, tail, split', _⟩)
      · exact other head split'
      · exact other' head tail split'
  · simp [colon]

theorem groups_chars {char : Char} (member : char ∈ text) :
    char = ':' ∨ ∃ part ∈ groups text, char ∈ part := by
  have some : text ≠ [] := List.ne_nil_of_mem member
  rw [groups, if_neg some]
  rw [← @List.intercalate_splitOn _ text _ _ ':'] at member
  exact Joined.mem_intercalate member

/-- What the form takes for IPv6 has hexadecimal digits and colons only. -/
theorem isIpv6_chars (accepted : isIpv6 text = true) :
    ∀ char ∈ text, isHex char = true ∨ char = ':' := by
  intro char member
  have grouped : ∀ head, (∀ part ∈ groups head, group.matchesWhole part = true) → char ∈ head →
      isHex char = true ∨ char = ':' := by
    intro head all member
    rcases groups_chars member with rfl | ⟨part, listed, inside⟩
    · exact .inr rfl
    · exact .inl ((group_iff.mp (all part listed)).2 char inside)
  rcases JavaScript.mem_split (List.cons_ne_nil ':' [':']) member with pair | ⟨piece, listed, inside⟩
  · right
    simpa using pair
  · rcases (isIpv6_iff.mp accepted).2 with ⟨head, split', _, all⟩ | ⟨head, tail, split', _, all⟩
    · rw [split'] at listed
      rw [List.mem_singleton.mp listed] at inside
      exact grouped head all inside
    · rw [split'] at listed
      obtain ⟨upper, lower⟩ := List.forall_mem_append.mp all
      rcases List.mem_pair.mp listed with rfl | rfl
      · exact grouped _ upper inside
      · exact grouped _ lower inside

/-- Words without colons, joined by single ones. -/
theorem pairless (some : ∀ part ∈ parts, part ≠ [] ∧ ':' ∉ part) :
    ¬[':', ':'] <:+: [':'].intercalate parts ++ [':'] := by
  rintro ⟨before, after, shape⟩
  have ended : [':'].intercalate parts ++ [':'] = [':'].intercalate (parts ++ [[]]) ∨ parts = [] := by
    by_cases none' : parts = []
    · exact .inr none'
    · left
      rw [Joined.intercalate_append none' (List.cons_ne_nil _ _), List.intercalate_singleton]
  rcases ended with ended | rfl
  · have words : ∀ part ∈ parts ++ [[]], ':' ∉ part := by
      rw [List.forall_mem_append]
      exact ⟨fun part listed => (some part listed).2, by simp⟩
    have split := List.splitOn_intercalate ':' words (List.append_ne_nil_of_right_ne_nil _
      (List.cons_ne_nil _ _))
    have cut : (before ++ [':', ':'] ++ after).splitOn ':' =
        before.splitOn ':' ++ [] :: after.splitOn ':' := by
      rw [List.append_assoc, List.cons_append, List.splitOn_append_cons_self]
      exact congrArg (before.splitOn ':' ++ ·) (@List.splitOn_append_cons_self _ _ _ ':' [] after)
    obtain ⟨front, last, shape'⟩ : ∃ front last, after.splitOn ':' = front ++ [last] :=
      ⟨_, _, (List.dropLast_append_getLast (List.splitOn_ne_nil ':' after)).symm⟩
    rw [← ended, ← shape, cut, shape', ← List.cons_append, ← List.append_assoc] at split
    have same := (List.append_inj' split rfl).1
    have empty : [] ∈ parts := by
      rw [← same]
      exact List.mem_append_right _ List.mem_cons_self
    exact (some [] empty).1 rfl
  · have lengths := congrArg List.length shape
    simp at lengths
    omega

theorem intercalate_around : [':'].intercalate (Ip.partsAround high low) =
    [':'].intercalate high ++ ([':', ':'] ++ [':'].intercalate low) := by
  obtain ⟨front, some, same, high'⟩ : ∃ front : List (List Char), front ≠ [] ∧
      [':'].intercalate front = [':'].intercalate high ∧
      (if high = [] then [[]] else []) ++ high = front := by
    cases high with
    | nil => exact ⟨[[]], List.cons_ne_nil _ _, rfl, rfl⟩
    | cons part high => exact ⟨part :: high, List.cons_ne_nil _ _, rfl, rfl⟩
  obtain ⟨back, some', same', low'⟩ : ∃ back : List (List Char), back ≠ [] ∧
      [':'].intercalate back = [':'].intercalate low ∧
      low ++ (if low = [] then [[]] else []) = back := by
    cases low with
    | nil => exact ⟨[[]], List.cons_ne_nil _ _, rfl, rfl⟩
    | cons part low => exact ⟨part :: low, List.cons_ne_nil _ _, rfl, List.append_nil _⟩
  have shape : Ip.partsAround high low = front ++ [] :: back := by
    rw [Ip.partsAround, high', List.append_assoc _ low, low', List.append_assoc]
    rfl
  rw [shape, Joined.intercalate_append some (List.cons_ne_nil _ _),
    Joined.intercalate_cons some', same, same']
  rfl

/-- Parts with a pair of colons between them. -/
theorem split_around (some : ∀ part ∈ high, part ≠ [] ∧ ':' ∉ part)
    (some' : ∀ part ∈ low, part ≠ [] ∧ ':' ∉ part) :
    JavaScript.split [':', ':'] ([':'].intercalate (Ip.partsAround high low)) =
      [[':'].intercalate high, [':'].intercalate low] := by
  have absent : ¬[':', ':'] <:+: [':'].intercalate low :=
    fun found => pairless some' (found.trans (List.prefix_append _ _).isInfix)
  rw [intercalate_around, JavaScript.split_append (List.cons_ne_nil _ _) (pairless some),
    JavaScript.split_none absent]

theorem groups_intercalate (some : ∀ part ∈ parts, part ≠ [] ∧ ':' ∉ part) :
    groups ([':'].intercalate parts) = parts := by
  cases parts with
  | nil => rfl
  | cons part parts =>
      have split := List.splitOn_intercalate ':' (fun part listed => (some part listed).2)
        (List.cons_ne_nil part parts)
      rw [groups, if_neg, split]
      intro empty
      rw [empty, List.splitOn_nil] at split
      exact (some part List.mem_cons_self).1 (List.cons.inj split).1.symm

theorem parseHextet_group {hextet : Nat} (read : Ip.parseHextet word = some hextet) :
    group.matchesWhole word = true ∧ word ≠ [] ∧ ':' ∉ word := by
  obtain ⟨inside, short, some', _⟩ := Ip.parseHextet_some.mp read
  refine ⟨group_iff.mpr ⟨⟨List.length_pos_iff.mpr some', short⟩, inside⟩, some', ?_⟩
  intro colon
  exact absurd (inside ':' colon) (by decide)

theorem hextets_groups {numbers : List Nat}
    (all : List.Forall₂ (fun hextet number => Ip.parseHextet hextet = some number) parts numbers) :
    ∀ part ∈ parts, group.matchesWhole part = true ∧ part ≠ [] ∧ ':' ∉ part := by
  induction all with
  | nil => exact List.forall_mem_nil _
  | cons read _ ih => exact List.forall_mem_cons.mpr ⟨parseHextet_group read, ih⟩

/-- IPv6 without an IPv4 suffix is what the form takes. -/
theorem isIpv6_of_read (read : Ip.parse6 text = some number) (plain : '.' ∉ text) :
    isIpv6 text = true := by
  have colon := Ip.parse6_colon read
  obtain ⟨many, parts, unfolded, _, hextets, numbers, expanded, all, _⟩ := Ip.parse6_some.mp read
  have whole := @List.intercalate_splitOn _ text _ _ ':'
  have suffixless : '.' ∉ (text.splitOn ':').getLast?.getD [] := by
    cases last : (text.splitOn ':').getLast? with
    | none => exact List.not_mem_nil
    | some word =>
        intro point
        exact plain (Joined.mem_of_splitOn (List.mem_of_getLast? last) point)
  rw [Ip.unfoldSuffix, if_neg suffixless] at unfolded
  cases unfolded
  have words := hextets_groups all
  rcases Ip.expand_some many expanded with ⟨rfl, eight⟩ | ⟨high, low, around, room, rfl⟩
  · have solid : ∀ part ∈ text.splitOn ':', part ≠ [] ∧ ':' ∉ part :=
      fun part listed => (words part listed).2
    have absent : ¬[':', ':'] <:+: text := by
      have absent := pairless solid
      rw [whole] at absent
      exact fun found => absent (found.trans (List.prefix_append _ _).isInfix)
    have parts := groups_intercalate solid
    rw [whole] at parts
    refine isIpv6_iff.mpr ⟨colon, .inl ⟨text, JavaScript.split_none absent, ?_, ?_⟩⟩
    · rw [parts, eight]
    · rw [parts]
      exact fun part listed => (words part listed).1
  · rw [List.forall_mem_append, List.forall_mem_append] at words
    obtain ⟨⟨upper, _⟩, lower⟩ := words
    have upper' : ∀ part ∈ high, part ≠ [] ∧ ':' ∉ part := fun part listed => (upper part listed).2
    have lower' : ∀ part ∈ low, part ≠ [] ∧ ':' ∉ part := fun part listed => (lower part listed).2
    have split := split_around upper' lower'
    rw [← around, whole] at split
    refine isIpv6_iff.mpr ⟨colon, .inr ⟨_, _, split, ?_, ?_⟩⟩
    · rw [groups_intercalate upper', groups_intercalate lower']
      exact room
    · rw [groups_intercalate upper', groups_intercalate lower', List.forall_mem_append]
      exact ⟨fun part listed => (upper part listed).1, fun part listed => (lower part listed).1⟩

/-- No zone, and no IPv4 suffix. -/
def Plain (text : List Char) : Prop := '%' ∉ text ∧ ¬(':' ∈ text ∧ '.' ∈ text)

/-- The form takes the text for an address of the version. -/
def Shown (text : List Char) : Ip.Version → Prop
  | .v4 => isIpv4 text = true
  | .v6 => isIpv4 text = false ∧ isIpv6 text = true

theorem isIpv4_colon (colon : ':' ∈ text) : isIpv4 text = false := by
  apply Bool.eq_false_iff.mpr
  intro accepted
  rcases isIpv4_chars accepted ':' colon with digit | point
  · exact absurd digit (by decide)
  · exact absurd point (by decide)

theorem plain_of_shown (shown : isIpv4 text = true ∨ isIpv6 text = true) : Plain text := by
  rcases shown with shown | shown
  · have chars := isIpv4_chars shown
    constructor
    · intro percent
      exact absurd (chars '%' percent) (by decide)
    · rintro ⟨colon, _⟩
      exact absurd (chars ':' colon) (by decide)
  · have chars := isIpv6_chars shown
    constructor
    · intro percent
      exact absurd (chars '%' percent) (by decide)
    · rintro ⟨_, point⟩
      exact absurd (chars '.' point) (by decide)

theorem isHex_of_isDigit {char : Char} (digit : isDigit char = true) : isHex char = true := by
  simp only [isHex, digit, Bool.true_or]

/-- A printed character of ASCII. -/
def Visible (char : Char) : Prop := 0x20 < char.toNat ∧ char.toNat < 0x7f

instance (char : Char) : Decidable (Visible char) := inferInstanceAs (Decidable (_ ∧ _))

theorem isHex_visible {char : Char} (hex : isHex char = true) : Visible char := by
  simp only [isHex, isDigit, Bool.or_eq_true, Bool.and_eq_true, decide_eq_true_eq] at hex
  rw [Visible]
  omega

/-- What the form takes for an address is visible. -/
theorem address_visible (accepted : isIpv4 text = true ∨ isIpv6 text = true) :
    ∀ char ∈ text, Visible char := by
  intro char member
  rcases accepted with accepted | accepted
  · rcases isIpv4_chars accepted char member with digit | rfl
    · exact isHex_visible (isHex_of_isDigit digit)
    · decide
  · rcases isIpv6_chars accepted char member with hex | rfl
    · exact isHex_visible hex
    · decide

theorem address_nonempty (accepted : isIpv4 text = true ∨ isIpv6 text = true) : text ≠ [] := by
  rintro rfl
  rcases accepted with accepted | accepted
  · exact absurd accepted (by decide)
  · exact absurd accepted (by decide)

theorem Shown.either {version : Ip.Version} (shown : Shown text version) :
    isIpv4 text = true ∨ isIpv6 text = true := by
  cases version with
  | v4 => exact .inl shown
  | v6 => exact .inr shown.2

theorem shown_v4 (read : Ip.ipv4Address text = some address) : Shown text address.version := by
  obtain ⟨_, read, version, _⟩ := Ip.ipv4Address_some.mp read
  rw [version]
  exact isIpv4_of_read read

/-- What is read as IPv6 is taken for it unless it has a zone or an IPv4 suffix. -/
theorem shown_v6 (read : Ip.ipv6Address text = some address) (plain : Plain text) :
    Shown text address.version ∧ address.scope = none := by
  obtain ⟨_, version, body, split, read⟩ := Ip.ipv6Address_some.mp read
  rcases (Ip.splitScope_some.mp split).2 with ⟨scope, rfl⟩ | ⟨name, _, rfl, _⟩
  · have colon := Ip.parse6_colon read
    rw [version]
    refine ⟨⟨isIpv4_colon colon, isIpv6_of_read read ?_⟩, scope⟩
    exact fun point => plain.2 ⟨colon, point⟩
  · exact absurd (List.mem_append_right body List.mem_cons_self) plain.1

theorem shown_read (found : Ip.ipv4Address text = some address ∨ Ip.ipv6Address text = some address)
    (plain : Plain text) : Shown text address.version ∧ address.scope = none := by
  rcases found with found | found
  · exact ⟨shown_v4 found, Ip.scope_v4 (Ip.ipv4Address_some.mp found).2.2.1⟩
  · exact shown_v6 found plain

theorem shown_text (plain : address.scope = none) : Shown address.text address.version := by
  have bound := address.bound
  cases version : address.version with
  | v4 =>
      rw [version] at bound
      rw [Ip.text_v4 version]
      exact isIpv4_of_read (Ip.parse4_print bound)
  | v6 =>
      rw [version] at bound
      rw [Ip.text_v6 version, plain, Option.map_none, Option.getD_none, List.append_nil]
      refine ⟨isIpv4_colon Ip.colon_print6, isIpv6_of_read (Ip.parse6_print bound) ?_⟩
      intro point
      exact absurd (Ip.mem_print6 point) (by decide)

/-! Networks. -/

theorem isSubnet_iff (split : text.splitOn '/' = [body, mask]) : isSubnet text = true ↔
    digits.matchesWhole mask = true ∧
      (isIpv4 body = true ∧ value 10 mask ≤ 32 ∨
        isIpv4 body = false ∧ isIpv6 body = true ∧ value 10 mask ≤ 128) := by
  simp only [isSubnet, split]
  cases digits.matchesWhole mask with
  | false => simp
  | true =>
      cases isIpv4 body with
      | true => simp
      | false => cases isIpv6 body <;> simp

theorem Shown.subnet {version : Ip.Version} (shown : Shown body version)
    (split : text.splitOn '/' = [body, mask]) (decimal : digits.matchesWhole mask = true)
    (bound : value 10 mask ≤ version.width) : isSubnet text = true := by
  refine (isSubnet_iff split).mpr ⟨decimal, ?_⟩
  cases version with
  | v4 => exact .inl ⟨shown, bound⟩
  | v6 => exact .inr ⟨shown.1, shown.2, bound⟩

/-- Digits after the slash are the length of the prefix. -/
theorem prefixOf_decimal {version : Ip.Version} {prefixlen : Nat}
    (decimal : ∀ char ∈ mask, isDigit char = true)
    (read : Ip.prefixOf version mask = some prefixlen) : value 10 mask ≤ version.width := by
  have counted : ∀ {width : Nat}, Ip.prefixFromText width mask = some prefixlen →
      value 10 mask ≤ width := by
    intro width read
    rw [Ip.prefixFromText] at read
    split at read
    next valid => exact valid.2.2.2
    next => cases read
  cases version with
  | v4 =>
      rcases Option.or_eq_some_iff.mp read with read | ⟨_, read⟩
      · exact counted read
      · obtain ⟨number, dotted, _⟩ := Option.bind_eq_some_iff.mp read
        obtain ⟨_, _, _, _, split, _⟩ := Ip.parse4_some.mp dotted
        have pointless : '.' ∉ mask := fun point => absurd (decimal '.' point) (by decide)
        rw [List.splitOn_eq_singleton pointless] at split
        cases split
  | v6 => exact counted read

theorem network_parts {network : Ip.Network} (read : Ip.ipNetwork text = some network) :
    (text.splitOn '/').length ≤ 2 := by
  have parts : ∀ {family : List Char → Option Ip.Address},
      Ip.readNetwork family text = some network → (text.splitOn '/').length ≤ 2 := by
    intro family read
    rw [Ip.readNetwork.eq_def] at read
    split at read
    next body split' => simp [split']
    next body mask split' => simp [split']
    next => cases read
  exact (Option.or_eq_some_iff.mp read).elim parts fun found => parts found.2

/-- A network with a prefix is the one of its address. -/
theorem network_pair {network : Ip.Network} (read : Ip.ipNetwork text = some network)
    (split : text.splitOn '/' = [body, mask]) :
    ∃ (address : Ip.Address) (prefixlen : Nat) (bound : prefixlen ≤ address.version.width),
      (Ip.ipv4Address body = some address ∨ Ip.ipv6Address body = some address) ∧
      Ip.prefixOf address.version mask = some prefixlen ∧
      network = Ip.networkOf address prefixlen bound := by
  have pair : ∀ {family : List Char → Option Ip.Address},
      Ip.readNetwork family text = some network →
      ∃ (address : Ip.Address) (prefixlen : Nat) (bound : prefixlen ≤ address.version.width),
        family body = some address ∧ Ip.prefixOf address.version mask = some prefixlen ∧
        network = Ip.networkOf address prefixlen bound := by
    intro family read
    simp only [Ip.readNetwork, split] at read
    obtain ⟨address, found, read⟩ := Option.bind_eq_some_iff.mp read
    obtain ⟨prefixlen, bound, found', rfl⟩ := Option.pmap_eq_some_iff.mp read
    exact ⟨address, prefixlen, bound, found, found', rfl⟩
  rcases Option.or_eq_some_iff.mp read with read | ⟨_, read⟩
  · obtain ⟨address, prefixlen, bound, found, rest⟩ := pair read
    exact ⟨address, prefixlen, bound, .inl found, rest⟩
  · obtain ⟨address, prefixlen, bound, found, rest⟩ := pair read
    exact ⟨address, prefixlen, bound, .inr found, rest⟩

/-- An address with a length of one to three digits. -/
def Prefixed (text : List Char) : Prop :=
  ∃ body mask, text = body ++ '/' :: mask ∧ digits.matchesWhole mask = true ∧ Plain body

theorem slash_apart (decimal : digits.matchesWhole mask = true) : '/' ∉ mask := by
  intro slash
  exact absurd ((digits_iff.mp decimal).2 '/' slash) (by decide)

/-- What the form takes for a network of two parts. -/
theorem subnet_pair (few : (text.splitOn '/').length ≤ 2) (accepted : isSubnet text = true) :
    ∃ body mask, text = body ++ '/' :: mask ∧ digits.matchesWhole mask = true ∧
      (isIpv4 body = true ∨ isIpv6 body = true) := by
  obtain ⟨body, mask, split⟩ : ∃ body mask, text.splitOn '/' = [body, mask] := by
    rw [isSubnet.eq_def] at accepted
    split at accepted
    next body mask others split' =>
      rw [split'] at few
      have none' : others = [] := by
        rw [← List.length_eq_zero_iff]
        simp only [List.length_cons] at few
        omega
      rw [none'] at split'
      exact ⟨body, mask, split'⟩
    next => cases accepted
  obtain ⟨decimal, shown⟩ := (isSubnet_iff split).mp accepted
  exact ⟨body, mask, Joined.splitOn_pair split, decimal, shown.imp And.left fun shown => shown.2.1⟩

theorem digits_written (small : number < 10 ^ 3) :
    digits.matchesWhole (Nat.toDigits 10 number) = true := by
  refine digits_iff.mpr ⟨⟨List.length_pos_iff.mpr Nat.toDigits_ne_nil, ?_⟩,
    fun char member => Numerals.isDigit_toDigits member⟩
  exact (Nat.length_toDigits_le_iff (by decide) (by decide)).mpr small

theorem width_small (version : Ip.Version) : version.width < 10 ^ 3 := by
  cases version with
  | v4 => decide
  | v6 => decide

theorem subnet_visible (few : (text.splitOn '/').length ≤ 2) (accepted : isSubnet text = true) :
    ∀ char ∈ text, Visible char := by
  obtain ⟨body, mask, rfl, decimal, shown⟩ := subnet_pair few accepted
  rw [List.forall_mem_append, List.forall_mem_cons]
  refine ⟨address_visible shown, by decide, ?_⟩
  intro char member
  exact isHex_visible (isHex_of_isDigit ((digits_iff.mp decimal).2 char member))

/-- A network with such a prefix is taken, and so is its canonical form. -/
theorem subnet_of_prefixed {network : Ip.Network} (read : Ip.ipNetwork text = some network)
    (prefixed : Prefixed text) : isSubnet text = true ∧ isSubnet network.text = true := by
  obtain ⟨body, mask, rfl, decimal, plain⟩ := prefixed
  have few := network_parts read
  rw [Joined.length_splitOn, List.count_append, List.count_cons_self] at few
  have apart : '/' ∉ body := by
    rw [← List.count_eq_zero]
    omega
  have split : (body ++ '/' :: mask).splitOn '/' = [body, mask] := by
    rw [List.splitOn_append_cons_self, List.splitOn_eq_singleton apart,
      List.splitOn_eq_singleton (slash_apart decimal)]
    rfl
  obtain ⟨address, prefixlen, bound, found, found', rfl⟩ := network_pair read split
  obtain ⟨shown, scopeless⟩ := shown_read found plain
  have canonical : (Ip.networkOf address prefixlen bound).network.scope = none := by
    rw [Ip.networkOf_scope, scopeless, ite_self]
  have shown' := shown_text canonical
  constructor
  · exact shown.subnet split decimal (prefixOf_decimal (digits_iff.mp decimal).2 found')
  · have width := (Ip.networkOf address prefixlen bound).bound
    have written : value 10 (Nat.toDigits 10 (Ip.networkOf address prefixlen bound).prefixlen) =
        (Ip.networkOf address prefixlen bound).prefixlen :=
      Numerals.value_toDigits (by decide) (by decide)
    refine shown'.subnet (Ip.split_prefixed _) (digits_written ?_) ?_
    · exact lt_of_le_of_lt width (width_small _)
    · rw [written]
      exact width

end

/-! Names. -/

section

variable {text : List Char} {accepts : Char → Bool} {body : Regex}

theorem reflects_chars (capital : ∀ char, isUpper char = true → accepts (lowerChar char) = true →
      accepts char = true) : (chars accepts).Reflects lowerChar := by
  intro char accepted
  cases upper : isUpper char with
  | true => exact capital char upper accepted
  | false =>
      rw [lowerChar_small upper] at accepted
      exact accepted

theorem label_reflects : label.Reflects lowerChar := by
  have alnum' : alnum.Reflects lowerChar :=
    reflects_chars fun char upper _ => by simp [isAlnum, isLetter, upper]
  have dash : alnumDash.Reflects lowerChar :=
    reflects_chars fun char upper _ => by simp [isAlnum, isLetter, upper]
  exact ⟨alnum', ⟨dash.between 0 61, alnum'⟩, trivial⟩

theorem dotted_reflects : (seq label dot).Reflects lowerChar := by
  refine ⟨label_reflects, reflects_chars ?_⟩
  intro char upper point
  have written := lowerChar_upper upper
  rw [eq_of_beq point] at written
  have forty : '.'.toNat = 46 := rfl
  simp only [isUpper, Bool.and_eq_true, decide_eq_true_eq] at upper
  omega

theorem fqdn_reflects : fqdn.Reflects lowerChar := by
  refine ⟨⟨dotted_reflects, dotted_reflects⟩, Regex.Reflects.between (reflects_chars ?_) 2 63⟩
  intro char upper _
  simp [isLetter, upper]

theorem hostname_reflects : hostname.Reflects lowerChar := ⟨dotted_reflects, label_reflects⟩

/-- A host name of 253 characters at most is what the lookahead takes. -/
theorem short_iff (hosts : ∀ char ∈ text, isHost char = true) : short.matchesWhole text = true ↔
    1 ≤ text.length ∧ text.length ≤ 253 := by
  rw [short, Regex.matchesWhole_between (by decide)]
  refine and_iff_left ?_
  intro char member
  have range := isHost_lt (hosts char member)
  simp only [isInLine, List.mem_cons, List.not_mem_nil, or_false, decide_eq_true_eq]
  omega

/-- What the service matches without a last newline, the form matches. -/
theorem named_whole (unended : text.getLast? ≠ some '\n')
    (matched : (seq Assets.shortAhead (seq body Regex.stop)).matchesStart text = true) :
    (1 ≤ text.length ∧ text.length ≤ 253) ∧ body.matchesWhole text = true := by
  obtain ⟨looked, matched⟩ := Regex.matchesStart_ahead.mp matched
  rw [Regex.matchesStart_stop unended] at looked matched
  exact ⟨((Regex.matchesWhole_between (by decide)).mp looked).1, matched⟩

/-- Of an ASCII value whose lower case the service matches, the form matches both. -/
theorem named_both {value : String} (unended : value.toList.getLast? ≠ some '\n')
    (reflects : body.Reflects lowerChar)
    (host : ∀ char, body.alphabet char = true → isHost char = true)
    (matched : (seq Assets.shortAhead (seq body Regex.stop)).matchesStart
      (lowerAscii value).toList = true) :
    ∀ name, name = value ∨ name = lowerAscii value →
      (short.matchesWhole name.toList && body.matchesWhole name.toList) = true ∧
        ∀ char ∈ name.toList, isHost char = true := by
  have unended' : (lowerAscii value).toList.getLast? ≠ some '\n' :=
    (not_congr (lowerAscii_newline value)).mpr unended
  obtain ⟨length, whole⟩ := named_whole unended' matched
  have taken : ∀ name : String, name.toList.length = (lowerAscii value).toList.length →
      body.matchesWhole name.toList = true →
      (short.matchesWhole name.toList && body.matchesWhole name.toList) = true ∧
        ∀ char ∈ name.toList, isHost char = true := by
    intro name same whole
    have hosts : ∀ char ∈ name.toList, isHost char = true :=
      fun char member => host char (Regex.matchesWhole_alphabet whole char member)
    refine ⟨?_, hosts⟩
    rw [Bool.and_eq_true, short_iff hosts, same]
    exact ⟨length, whole⟩
  rintro name (rfl | rfl)
  · have lowered : (lowerAscii name).toList = name.toList.map lowerChar := String.toList_ofList
    refine taken name ?_ ?_
    · rw [lowered, List.length_map]
    · rw [lowered] at whole
      exact Regex.matchesWhole_image reflects whole
  · exact taken _ rfl whole

end

/-! Resources. -/

section

variable {text front resource rest : List Char} {last : Regex}

/-- `arn:[^:]+:[^:]+:[^:]*:[^:]*:` and what follows. -/
def headed (last : Regex) : Regex :=
  seq (literal "arn:") (seq (plus notColon) (seq (literal ":") (seq (plus notColon) (seq (literal ":")
    (seq (star notColon) (seq (literal ":") (seq (star notColon) (seq (literal ":") last))))))))

/-- What `headed` takes up to its end: two fields that are not empty and two more. -/
def Heading (front : List Char) : Prop :=
  ∃ one two three four : List Char, (one ≠ [] ∧ two ≠ []) ∧
    (':' ∉ one ∧ ':' ∉ two ∧ ':' ∉ three ∧ ':' ∉ four) ∧
    front = "arn:".toList ++
      (one ++ ':' :: (two ++ ':' :: (three ++ ':' :: (four ++ [':']))))

theorem notColon_field {field : List Char} : (∀ char ∈ field, (char != ':') = true) ↔
    ':' ∉ field := by
  constructor
  · intro apart colon
    exact absurd (apart ':' colon) (by decide)
  · intro absent char member
    rw [bne_iff_ne]
    rintro rfl
    exact absent member

theorem mem_headed : rest ∈ (headed last).rests text ↔
    ∃ front resource, text = front ++ resource ∧ Heading front ∧ rest ∈ last.rests resource := by
  have colon : ∀ {text rest : List Char}, rest ∈ (literal ":").rests text ↔ text = ':' :: rest :=
    Regex.mem_literal_iff
  have name : ∀ {text rest : List Char}, rest ∈ (literal "arn:").rests text ↔
      text = "arn:".toList ++ rest := Regex.mem_literal_iff
  simp only [headed, Regex.mem_seq, name, notColon, Regex.mem_plus_chars, Regex.mem_star_chars,
    colon, notColon_field]
  constructor
  · rintro ⟨_, rfl, _, ⟨one, some, rfl, apart⟩, _, rfl, _, ⟨two, some', rfl, apart'⟩, _, rfl, _,
      ⟨three, rfl, apart''⟩, _, rfl, _, ⟨four, rfl, apart'''⟩, resource, rfl, left⟩
    refine ⟨_, resource, ?_, ⟨one, two, three, four, ⟨some, some'⟩,
      ⟨apart, apart', apart'', apart'''⟩, rfl⟩, left⟩
    simp only [List.append_assoc, List.cons_append, List.nil_append]
  · rintro ⟨_, resource, rfl, ⟨one, two, three, four, ⟨some, some'⟩,
      ⟨apart, apart', apart'', apart'''⟩, rfl⟩, left⟩
    simp only [List.append_assoc, List.cons_append, List.nil_append]
    exact ⟨_, rfl, _, ⟨one, some, rfl, apart⟩, _, rfl, _, ⟨two, some', rfl, apart'⟩, _, rfl, _,
      ⟨three, rfl, apart''⟩, _, rfl, _, ⟨four, rfl, apart'''⟩, resource, rfl, left⟩

/-- What the form takes for a resource. -/
theorem arn_iff : arn.matchesWhole text = true ↔ ∃ front resource, text = front ++ resource ∧
    Heading front ∧ resource ≠ [] ∧ ∀ char ∈ resource, isInLine char = true := by
  have shape : arn = headed (plus (chars isInLine)) := rfl
  rw [Regex.matchesWhole_iff, shape, mem_headed]
  simp only [Regex.mem_plus_chars]
  constructor
  · rintro ⟨front, _, rfl, heading, resource, some, rfl, inside⟩
    rw [List.append_nil]
    exact ⟨front, resource, rfl, heading, some, inside⟩
  · rintro ⟨front, resource, rfl, heading, some, inside⟩
    exact ⟨front, resource, rfl, heading, resource, some, (List.append_nil _).symm, inside⟩

/-- What the service takes for a resource without a newline after it. -/
theorem serviceArn_iff (unended : text.getLast? ≠ Option.some '\n')
    (matched : Assets.arn.matchesStart text = true) :
    ∃ front resource, text = front ++ resource ∧ Heading front ∧ resource ≠ [] := by
  have shape : Assets.arn = headed (seq (plus Assets.anyChar) Regex.stop) := rfl
  rw [shape] at matched
  obtain ⟨rest, left⟩ := Regex.matches_iff.mp matched
  obtain ⟨front, resource, rfl, heading, left⟩ := mem_headed.mp left
  obtain ⟨word, some, rfl, _⟩ := Regex.mem_plus_chars.mp (Regex.seq_stop left).1
  exact ⟨front, word ++ rest, rfl, heading, List.append_ne_nil_of_left_ne_nil some _⟩

/-- The resource is what the fifth colon stands before. -/
theorem heading_split (heading : Heading front) :
    ((front ++ resource).splitOn ':').drop 5 = resource.splitOn ':' := by
  obtain ⟨one, two, three, four, _, ⟨apart, apart', apart'', apart'''⟩, rfl⟩ := heading
  have arn : "arn:".toList = "arn".toList ++ [':'] := rfl
  rw [arn]
  simp only [List.append_assoc, List.cons_append, List.nil_append, List.splitOn_append_cons_self,
    List.splitOn_eq_singleton apart, List.splitOn_eq_singleton apart',
    List.splitOn_eq_singleton apart'', List.splitOn_eq_singleton apart''']
  rfl

end

end AssetValues

end Frontend
