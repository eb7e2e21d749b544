import Mathlib.Data.List.Sort
import Mathlib.Data.Rat.Defs
import Mathlib.Data.String.Basic
import Soc360.Store.Checks
import Soc360.Store.Table

set_option autoImplicit false

namespace Scans

/-- A decoded JSON value. A number keeps the Python type it decodes to. -/
inductive Json where
  | null
  | bool (value : Bool)
  | int (value : Int)
  | float (value : ℚ)
  | str (value : String)
  | arr (items : List Json)
  | obj (fields : List (String × Json))
  deriving Repr

def Json.text? : Json → Option String
  | .str text => some text
  | _ => none

/-- A text, or `null` for `None`. -/
def Json.ofText? : Option String → Json
  | none => .null
  | some text => .str text

/-- A `dict` with string keys. Its keys are distinct and their order carries no meaning. -/
abbrev JsonObject := List (String × Json)

mutual

/-- The JSON values that a `jsonb` holds: no text in them has a NUL. -/
def Json.storable : Json → Bool
  | .str text => text.storable
  | .arr items => Json.storableItems items
  | .obj fields => Json.storableFields fields
  | _ => true

def Json.storableItems : List Json → Bool
  | [] => true
  | item :: items => item.storable && Json.storableItems items

def Json.storableFields : JsonObject → Bool
  | [] => true
  | (key, value) :: fields => key.storable && (value.storable && Json.storableFields fields)

end

/-- The number a value stands for in a comparison: `True == 1 == 1.0`. -/
def Json.number? : Json → Option ℚ
  | .bool value => some (if value then 1 else 0)
  | .int value => some value
  | .float value => some value
  | _ => none

mutual

/-- Python's `==`. -/
def Json.pyEq : Json → Json → Bool
  | .null, other => match other with
    | .null => true
    | _ => false
  | .bool value, other => other.number? == some (if value then 1 else 0)
  | .int value, other => other.number? == some (value : ℚ)
  | .float value, other => other.number? == some value
  | .str value, other => match other with
    | .str value' => value == value'
    | _ => false
  | .arr items, other => match other with
    | .arr items' => pyEqItems items items'
    | _ => false
  | .obj fields, other => match other with
    | .obj fields' => fields.length == fields'.length && pyEqFields fields fields'
    | _ => false

def Json.pyEqItems : List Json → List Json → Bool
  | [], others => others.isEmpty
  | item :: items, others => match others with
    | [] => false
    | item' :: items' => item.pyEq item' && pyEqItems items items'

def Json.pyEqFields : JsonObject → JsonObject → Bool
  | [], _ => true
  | (key, value) :: fields, others =>
      (match others.lookup key with
        | some value' => value.pyEq value'
        | none => false) && pyEqFields fields others

end

/-- The four canonical scan types. -/
inductive ScanType where
  | discovery
  | vulnerability
  | web
  | full
  deriving DecidableEq, Repr

def ScanType.value : ScanType → String
  | discovery => "discovery"
  | vulnerability => "vulnerability"
  | web => "web"
  | full => "full"

/-- `{scan_type!r}`. -/
def ScanType.repr (scanType : ScanType) : String := "'" ++ scanType.value ++ "'"

/-- `_CONFIG_KEYS`, in the public order used for normalisation. -/
def configKeys : ScanType → List String
  | .discovery => ["host_discovery"]
  | .vulnerability => ["checks"]
  | .web => ["paths"]
  | .full => ["host_discovery", "checks", "paths"]

def checksMessage : String := "config.checks must be a non-empty list of non-empty strings"
def pathsMessage : String := "config.paths must be a non-empty list of paths beginning with '/'"

/-- One of the per-key stanzas of `_validate_scan_config`. -/
structure ConfigRule where
  key : String
  accepts : Json → Bool
  message : String

def Json.isBool : Json → Bool
  | .bool _ => true
  | _ => false

/-- `isinstance(value, list) and value and all(...)`. -/
def Json.isListOf (accepts : String → Bool) : Json → Bool
  | .arr items => !items.isEmpty && items.all fun item =>
      match item with
      | .str value => accepts value
      | _ => false
  | _ => false

def hostDiscoveryRule : ConfigRule where
  key := "host_discovery"
  accepts := Json.isBool
  message := "config.host_discovery must be a boolean"

def checksRule : ConfigRule where
  key := "checks"
  accepts := Json.isListOf fun item => item != ""
  message := checksMessage

def pathsRule : ConfigRule where
  key := "paths"
  accepts := Json.isListOf fun item => item.toList.head? == some '/'
  message := pathsMessage

/-- The message of a `ScanConfigError`. -/
abbrev ScanConfigError := String

def configField (rule : ConfigRule) (scanType : ScanType) (config normalised : JsonObject) :
    Except ScanConfigError JsonObject :=
  if rule.key ∈ configKeys scanType then
    match config.lookup rule.key with
    | none =>
        .error ("config." ++ rule.key ++ " is required for scan_type " ++ scanType.repr)
    | some value =>
        if rule.accepts value then .ok (normalised ++ [(rule.key, value)])
        else .error (rule.message ++ " for scan_type " ++ scanType.repr)
  else .ok normalised

/-- `_validate_scan_config`. A `PATCH` may name the type with an explicit null. -/
def validateScanConfig (scanType : Option ScanType) (config : Json) :
    Except ScanConfigError JsonObject :=
  match scanType, config with
  | none, _ => .error "unknown scan_type None"
  | some scanType, .obj config =>
      let keys := (config.map Prod.fst).insertionSort (· ≤ ·)
      match keys.find? fun key => decide (key ∉ configKeys scanType) with
      | some key =>
          .error ("config." ++ key ++ " is not allowed for scan_type " ++ scanType.repr)
      | none => do
          let normalised ← configField hostDiscoveryRule scanType config []
          let normalised ← configField checksRule scanType config normalised
          configField pathsRule scanType config normalised
  | some scanType, _ =>
      .error ("config must be an object for scan_type " ++ scanType.repr)

theorem configField_ok {rule : ConfigRule} {scanType : ScanType}
    {config normalised result : JsonObject}
    (accepted : configField rule scanType config normalised = .ok result) :
    (rule.key ∉ configKeys scanType ∧ result = normalised) ∨
      ∃ value, rule.key ∈ configKeys scanType ∧ config.lookup rule.key = some value ∧
        rule.accepts value = true ∧ result = normalised ++ [(rule.key, value)] := by
  unfold configField at accepted
  split at accepted
  next allowed =>
    split at accepted
    next => cases accepted
    next value found =>
      split at accepted
      next valid =>
        cases accepted
        exact .inr ⟨value, allowed, found, valid, rfl⟩
      next => cases accepted
  next absent =>
    cases accepted
    exact .inl ⟨absent, rfl⟩

theorem configField_keys {rule : ConfigRule} {scanType : ScanType}
    {config normalised result : JsonObject}
    (accepted : configField rule scanType config normalised = .ok result) :
    result.map Prod.fst =
      normalised.map Prod.fst ++ if rule.key ∈ configKeys scanType then [rule.key] else [] := by
  rcases configField_ok accepted with ⟨absent, rfl⟩ | ⟨value, allowed, -, -, rfl⟩
  · simp [absent]
  · simp [allowed]

/-- An accepted configuration has exactly the keys of its type, in the public order. -/
theorem validateScanConfig_keys {scanType : Option ScanType} {config : Json}
    {result : JsonObject} (accepted : validateScanConfig scanType config = .ok result) :
    ∃ kind, scanType = some kind ∧ result.map Prod.fst = configKeys kind := by
  unfold validateScanConfig at accepted
  split at accepted
  next => cases accepted
  next kind fields =>
    refine ⟨kind, rfl, ?_⟩
    simp only at accepted
    split at accepted
    next => cases accepted
    next =>
      obtain ⟨first, host, accepted⟩ := Except.bind_eq_ok.mp accepted
      obtain ⟨second, checks, paths⟩ := Except.bind_eq_ok.mp accepted
      rw [configField_keys paths, configField_keys checks, configField_keys host]
      cases kind <;> rfl
  next => cases accepted

end Scans
