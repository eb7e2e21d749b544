import Soc360.Scans.Schemas
import Soc360.Text.Documents

set_option autoImplicit false

/-! The documents that are JSON, and the configs that are documents. -/

mutual

/-- The JSON value that a document is, unless it has something that JSON has not. -/
def Loaded.json? : Loaded → Option Scans.Json
  | .null => some .null
  | .bool value => some (.bool value)
  | .int value => some (.int value)
  | .float value => value.value?.map .float
  | .str text => (readText text).map fun text => .str (String.ofList text)
  | .arr items => (Loaded.items? items).map .arr
  | .obj fields => (Loaded.object? fields).map .obj

def Loaded.items? : List Loaded → Option (List Scans.Json)
  | [] => some []
  | item :: items => item.json?.bind fun item => (Loaded.items? items).map (item :: ·)

def Loaded.object? : LoadedObject → Option Scans.JsonObject
  | [] => some []
  | (key, value) :: fields =>
      (readText key).bind fun key => value.json?.bind fun value =>
        (Loaded.object? fields).map ((String.ofList key, value) :: ·)

end

def Loaded.isBool : Loaded → Bool
  | .bool _ => true
  | _ => false

/-- `isinstance(value, list) and value and all(...)`. -/
def Loaded.isListOf (accepts : LoadedText → Bool) : Loaded → Bool
  | .arr items => !items.isEmpty && items.all fun item =>
      match item with
      | .str text => accepts text
      | _ => false
  | _ => false

namespace Payloads

open CodePoint (ofChar)
open Scans (Json JsonObject ScanType configKeys validateScanConfig)

/-! `_validate_scan_config` on a document. -/

/-- What the stanza of a key accepts. -/
def stanza (key : String) (value : Loaded) : Bool :=
  if key = "host_discovery" then value.isBool
  else if key = "checks" then value.isListOf fun item => item != []
  else value.isListOf fun item => item.head? == some (ofChar '/')

/-- The config has the keys of the type, with values that their stanzas accept, and no others. -/
def acceptsConfig (scanType : ScanType) (config : LoadedObject) : Bool :=
  (config.all fun field => (configKeys scanType).any fun key => field.1 == codePoints key) &&
    (configKeys scanType).all fun key => (config.lookup (codePoints key)).any (stanza key)

/-! A config that is JSON is accepted where `validateScanConfig` accepts it. -/

/-- A field of a document and the field of the JSON object that it is. -/
def FieldReads (field : LoadedText × Loaded) (json : String × Json) : Prop :=
  (∃ text, readText field.1 = some text ∧ json.1 = String.ofList text) ∧
    field.2.json? = some json.2

section

variable {config : LoadedObject} {fields : JsonObject} {items : List Loaded} {values : List Json}
  {value : Loaded} {json : Json} {key : String} {kind : ScanType} {rule : Scans.ConfigRule}

theorem items?_some (read : Loaded.items? items = some values) :
    List.Forall₂ (fun item value => item.json? = some value) items values := by
  induction items generalizing values with
  | nil =>
      cases read
      exact .nil
  | cons item items ih =>
      unfold Loaded.items? at read
      obtain ⟨value, own, read⟩ := Option.bind_eq_some_iff.mp read
      obtain ⟨others, later, rfl⟩ := Option.map_eq_some_iff.mp read
      exact .cons own (ih later)

theorem object?_some (read : Loaded.object? config = some fields) :
    List.Forall₂ FieldReads config fields := by
  induction config generalizing fields with
  | nil =>
      cases read
      exact .nil
  | cons field config ih =>
      obtain ⟨name, value⟩ := field
      unfold Loaded.object? at read
      obtain ⟨text, named, read⟩ := Option.bind_eq_some_iff.mp read
      obtain ⟨json, own, read⟩ := Option.bind_eq_some_iff.mp read
      obtain ⟨others, later, rfl⟩ := Option.map_eq_some_iff.mp read
      exact .cons ⟨⟨text, named, rfl⟩, own⟩ (ih later)

/-- A text in the basic plane is the key of a field in both. -/
theorem FieldReads.key_iff {field : LoadedText × Loaded} {named : String × Json}
    (reads : FieldReads field named) (basic : ∀ char ∈ key.toList, char.toNat < 0x10000) :
    field.1 = codePoints key ↔ named.1 = key := by
  obtain ⟨⟨text, read, same⟩, _⟩ := reads
  rw [same]
  constructor
  · intro own
    rw [own, codePoints, readText_ofChar] at read
    rw [← Option.some.inj read, String.ofList_toList]
  · intro own
    rw [← own, String.toList_ofList] at basic
    rw [codePoints, ← own, String.toList_ofList]
    exact readText_basic read basic

theorem lookup_reads (reads : List.Forall₂ FieldReads config fields)
    (basic : ∀ char ∈ key.toList, char.toNat < 0x10000) :
    (config.lookup (codePoints key) = none ∧ fields.lookup key = none) ∨
      ∃ value json, config.lookup (codePoints key) = some value ∧ fields.lookup key = some json ∧
        value.json? = some json := by
  induction reads with
  | nil => exact .inl ⟨rfl, rfl⟩
  | @cons field named config fields first reads ih =>
      have own := first.key_iff basic
      rw [List.lookup_cons, List.lookup_cons]
      by_cases same : named.1 = key
      · have here : (codePoints key == field.1) = true := beq_iff_eq.mpr (own.mpr same).symm
        have there : (key == named.1) = true := beq_iff_eq.mpr same.symm
        rw [here, there]
        exact .inr ⟨field.2, named.2, rfl, rfl, first.2⟩
      · have here : (codePoints key == field.1) = false :=
          beq_eq_false_iff_ne.mpr fun equal => same (own.mp equal.symm)
        have there : (key == named.1) = false := beq_eq_false_iff_ne.mpr (Ne.symm same)
        rw [here, there]
        exact ih

theorem isBool_reads (read : value.json? = some json) : value.isBool = json.isBool := by
  cases value with
  | float number =>
      obtain ⟨_, _, rfl⟩ := Option.map_eq_some_iff.mp read
      rfl
  | str codes =>
      obtain ⟨_, _, rfl⟩ := Option.map_eq_some_iff.mp read
      rfl
  | arr items =>
      obtain ⟨_, _, rfl⟩ := Option.map_eq_some_iff.mp read
      rfl
  | obj fields =>
      obtain ⟨_, _, rfl⟩ := Option.map_eq_some_iff.mp read
      rfl
  | _ =>
      cases read
      rfl

/-- A list of texts is one in both. -/
theorem isListOf_reads {accepts : LoadedText → Bool} {accepts' : String → Bool}
    (same : ∀ codes text, readText codes = some text →
      accepts codes = accepts' (String.ofList text))
    (read : value.json? = some json) : value.isListOf accepts = json.isListOf accepts' := by
  cases value with
  | float number =>
      obtain ⟨_, _, rfl⟩ := Option.map_eq_some_iff.mp read
      rfl
  | str codes =>
      obtain ⟨_, _, rfl⟩ := Option.map_eq_some_iff.mp read
      rfl
  | obj fields =>
      obtain ⟨_, _, rfl⟩ := Option.map_eq_some_iff.mp read
      rfl
  | arr items =>
      obtain ⟨values, each, rfl⟩ := Option.map_eq_some_iff.mp read
      have reads := items?_some each
      show (!items.isEmpty && items.all _) = (!values.isEmpty && values.all _)
      have length : items.isEmpty = values.isEmpty := by
        cases reads <;> rfl
      rw [length]
      congr 1
      clear read each length
      induction reads with
      | nil => rfl
      | @cons item value items values first reads ih =>
          rw [List.all_cons, List.all_cons, ih]
          congr 1
          cases item with
          | str codes =>
              obtain ⟨text, read, rfl⟩ := Option.map_eq_some_iff.mp first
              exact same codes text read
          | float number =>
              obtain ⟨_, _, rfl⟩ := Option.map_eq_some_iff.mp first
              rfl
          | arr items =>
              obtain ⟨_, _, rfl⟩ := Option.map_eq_some_iff.mp first
              rfl
          | obj fields =>
              obtain ⟨_, _, rfl⟩ := Option.map_eq_some_iff.mp first
              rfl
          | _ =>
              cases first
              rfl
  | _ =>
      cases read
      rfl

/-- The rules of the three keys. -/
def configRules : List Scans.ConfigRule :=
  [Scans.hostDiscoveryRule, Scans.checksRule, Scans.pathsRule]

theorem configRules_basic (listed : rule ∈ configRules) :
    ∀ char ∈ rule.key.toList, char.toNat < 0x10000 := by
  have all : (configRules.all fun rule =>
      rule.key.toList.all fun char => decide (char.toNat < 0x10000)) = true := by decide
  intro char member
  have own := List.all_eq_true.mp all rule listed
  exact of_decide_eq_true (List.all_eq_true.mp own char member)

theorem configKeys_basic (listed : key ∈ configKeys kind) :
    ∀ char ∈ key.toList, char.toNat < 0x10000 := by
  have all : ((configKeys kind).all fun key =>
      key.toList.all fun char => decide (char.toNat < 0x10000)) = true := by
    cases kind <;> decide
  intro char member
  have own := List.all_eq_true.mp all key listed
  exact of_decide_eq_true (List.all_eq_true.mp own char member)

theorem stanza_reads (listed : rule ∈ configRules) (read : value.json? = some json) :
    stanza rule.key value = rule.accepts json := by
  rcases List.mem_cons.mp listed with rfl | listed
  · exact isBool_reads read
  · rcases List.mem_cons.mp listed with rfl | listed
    · refine isListOf_reads (fun codes text read => ?_) read
      have empty := readText_nil_iff read
      rw [Bool.eq_iff_iff, bne_iff_ne, bne_iff_ne, ne_eq, ne_eq, empty, ← String.toList_inj,
        String.toList_ofList]
      rfl
    · rw [List.mem_singleton] at listed
      subst listed
      refine isListOf_reads (fun codes text read => ?_) read
      rw [Bool.eq_iff_iff, beq_iff_eq, beq_iff_eq, String.toList_ofList]
      exact readText_head_iff read (by decide)

/-- A value under a key is accepted where the rule of the key accepts it. -/
theorem lookup_accepted (reads : List.Forall₂ FieldReads config fields)
    (listed : rule ∈ configRules) :
    (config.lookup (codePoints rule.key)).any (stanza rule.key) = (rule.value fields).isSome := by
  unfold Scans.ConfigRule.value
  rw [Option.isSome_filter]
  rcases lookup_reads reads (configRules_basic listed) with ⟨none', none''⟩ |
    ⟨value, json, here, there, read⟩
  · rw [none', none'']
    rfl
  · rw [here, there, Option.any_some, Option.any_some]
    exact stanza_reads listed read

theorem keys_accepted (reads : List.Forall₂ FieldReads config fields) :
    (config.all fun field => (configKeys kind).any fun key => field.1 == codePoints key) = true ↔
      ∀ field ∈ fields, field.1 ∈ configKeys kind := by
  induction reads with
  | nil => simp
  | @cons field named config fields first reads ih =>
      have own : ((configKeys kind).any fun key => field.1 == codePoints key) = true ↔
          named.1 ∈ configKeys kind := by
        rw [List.any_eq_true]
        constructor
        · intro ⟨key, listed, same⟩
          rw [(first.key_iff (configKeys_basic listed)).mp (beq_iff_eq.mp same)]
          exact listed
        · intro listed
          exact ⟨_, listed, beq_iff_eq.mpr ((first.key_iff (configKeys_basic listed)).mpr rfl)⟩
      rw [List.all_cons, Bool.and_eq_true, own, ih, List.forall_mem_cons]

theorem acceptsConfig_iff (read : Loaded.object? config = some fields) :
    acceptsConfig kind config = true ↔
      ∃ normalised, validateScanConfig (some kind) (.obj fields) = .ok normalised := by
  have reads := object?_some read
  have host : (config.lookup (codePoints "host_discovery")).any (stanza "host_discovery") =
      (Scans.hostDiscoveryRule.value fields).isSome :=
    lookup_accepted reads List.mem_cons_self
  have checks : (config.lookup (codePoints "checks")).any (stanza "checks") =
      (Scans.checksRule.value fields).isSome :=
    lookup_accepted reads (List.mem_cons_of_mem _ List.mem_cons_self)
  have paths : (config.lookup (codePoints "paths")).any (stanza "paths") =
      (Scans.pathsRule.value fields).isSome :=
    lookup_accepted reads (List.mem_cons_of_mem _ (List.mem_cons_of_mem _ List.mem_cons_self))
  have valid : (∃ normalised, validateScanConfig (some kind) (.obj fields) = .ok normalised) ↔
      (validateScanConfig (some kind) (.obj fields)).toOption.isSome = true := by
    cases validateScanConfig (some kind) (.obj fields) with
    | error message => simp [Except.toOption]
    | ok normalised => simp [Except.toOption]
  rw [valid, Scans.validateScanConfig_toOption, acceptsConfig, Bool.and_eq_true,
    keys_accepted reads]
  by_cases allowed : ∀ field ∈ fields, field.1 ∈ configKeys kind
  · rw [if_pos allowed, and_iff_right allowed]
    cases kind with
    | discovery =>
        unfold Scans.collect configKeys
        rw [List.all_cons, List.all_nil, Bool.and_true, host, Option.isSome_map]
    | vulnerability =>
        unfold Scans.collect configKeys
        rw [List.all_cons, List.all_nil, Bool.and_true, checks, Option.isSome_map]
    | web =>
        unfold Scans.collect configKeys
        rw [List.all_cons, List.all_nil, Bool.and_true, paths, Option.isSome_map]
    | full =>
        unfold Scans.collect configKeys
        rw [List.all_cons, List.all_cons, List.all_cons, List.all_nil, Bool.and_true, host, checks,
          paths]
        cases Scans.hostDiscoveryRule.value fields with
        | none => simp
        | some host =>
            cases Scans.checksRule.value fields with
            | none => simp
            | some checks => simp
  · rw [if_neg allowed]
    exact iff_of_false (fun both => allowed both.1) (fun none => by cases none)

end

end Payloads
