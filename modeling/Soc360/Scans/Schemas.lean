import Soc360.Scans.JsonValues
import Soc360.Scans.Validity
import Soc360.Text.Trim

set_option autoImplicit false

namespace Scans

/-! The create schemas. A `PATCH` passes its config as it came. -/

/-- Unicode's `White_Space`, which `strip_whitespace` removes on both sides. -/
def isWhiteSpace (char : Char) : Bool :=
  char.toNat ∈ [0x9, 0xa, 0xb, 0xc, 0xd, 0x20, 0x85, 0xa0, 0x1680, 0x2000, 0x2001, 0x2002, 0x2003,
    0x2004, 0x2005, 0x2006, 0x2007, 0x2008, 0x2009, 0x200a, 0x2028, 0x2029, 0x202f, 0x205f, 0x3000]

def stripWhitespace (text : String) : String :=
  String.ofList ((text.toList.dropWhile isWhiteSpace).rdropWhile isWhiteSpace)

/-- The texts that Pydantic reads as a boolean, in any ASCII case. -/
def boolOfText (text : String) : Option Bool :=
  let word := text.map Char.toLower
  if word ∈ ["0", "f", "n", "no", "off", "false"] then some false
  else if word ∈ ["1", "t", "y", "on", "yes", "true"] then some true
  else none

/-- Pydantic's lax `bool`. -/
def Json.laxBool : Json → Option Bool
  | .bool value => some value
  | .str text => boolOfText text
  | .int value => if value = 0 then some false else if value = 1 then some true else none
  | .float value => if value = 0 then some false else if value = 1 then some true else none
  | _ => none

/-- `list[str]` with `min_length=1`; `constrain` is what its entries go through. -/
def Json.textList (constrain : String → String) : Json → Option Json
  | .arr items => (items.mapM Json.text?).bind fun texts =>
      if texts = [] then none else some (.arr (texts.map (.str ∘ constrain)))
  | _ => none

/-- A field of a config model, with what its annotation makes of a JSON value. -/
structure ConfigField where
  key : String
  parse : Json → Option Json

def hostDiscoveryField : ConfigField := ⟨"host_discovery", fun value => value.laxBool.map .bool⟩

/-- `CheckList`. -/
def checksField : ConfigField := ⟨"checks", Json.textList stripWhitespace⟩

def pathsField : ConfigField := ⟨"paths", Json.textList id⟩

/-- `DiscoveryConfig`, `VulnerabilityConfig`, `WebConfig` and `FullConfig`. -/
def configModel : ScanType → List ConfigField
  | .discovery => [hostDiscoveryField]
  | .vulnerability => [checksField]
  | .web => [pathsField]
  | .full => [hostDiscoveryField, checksField, pathsField]

/-- A config model with `extra="forbid"` reads an object; the result is its `model_dump`. -/
def modelDump (model : List ConfigField) (config : JsonObject) : Option JsonObject :=
  if config.all fun field => decide (field.1 ∈ model.map ConfigField.key) then
    model.mapM fun field =>
      ((config.lookup field.key).bind field.parse).map fun value => (field.key, value)
  else none

/-- The config that `create_scan` commits for the body of a `POST`, or nothing where the schema, the
service or its column refuses it. The asset exists. -/
def createdConfig (repr : String → String) (kind : ScanType) (config : JsonObject)
    (tenantId : TenantId) (assetId : AssetId) (name : String) (scanId : ScanId)
    (session : Session ScanId Scan) : Option JsonObject :=
  (modelDump (configModel kind) config).bind fun dumped =>
    match createScan repr ⟨assetId, name, kind, dumped⟩ tenantId true scanId session with
    | (.ok created, after) =>
        ((after.committed.find created).bind Scan.config).filter Json.storableFields
    | (.error _, _) => none

/-- The config that `update_scan` commits for a `PATCH` of the type and the config, or nothing
where it refuses them. -/
def updatedConfig (kind : ScanType) (config : JsonObject) (scanId : ScanId)
    (tenantId : Option TenantId) (session : Session ScanId Scan) : Option JsonObject :=
  match updateScan scanId tenantId ⟨none, some (some kind), some (some config)⟩ session with
  | (.ok (some _), after) =>
      ((after.committed.find scanId).bind Scan.config).filter Json.storableFields
  | _ => none

/-- Both are refused, or the same config is stored. -/
def SameConfig : Option JsonObject → Option JsonObject → Prop
  | none, none => True
  | some created, some updated => Json.pyEq (.obj created) (.obj updated) = true
  | _, _ => False

/-- A key that the type asks for holds an accepted value. -/
def Asked (kind : ScanType) (config : JsonObject) (key : String) (accepts : Json → Bool) : Prop :=
  key ∈ configKeys kind → (config.lookup key).any accepts = true

/-- A list with an entry that has outer whitespace. -/
def Json.hasOuterSpace : Json → Bool
  | .arr items => items.any fun item => item.text?.any fun text => stripWhitespace text != text
  | _ => false

/-- The create schema turns the config into another one that is accepted, or one of the two is
accepted and not the other. Its column holds the texts. -/
structure Rewritten (kind : ScanType) (config : JsonObject) : Prop where
  keys : ∀ field ∈ config, field.1 ∈ configKeys kind
  paths : Asked kind config "paths" pathsRule.accepts
  storable : Asked kind config "checks" Json.storable ∧ Asked kind config "paths" Json.storable
  rewrites :
    (Asked kind config "host_discovery" Json.isBool ∧ "checks" ∈ configKeys kind ∧
      Asked kind config "checks" fun value => checksRule.accepts value && value.hasOuterSpace) ∨
    ("host_discovery" ∈ configKeys kind ∧
      (Asked kind config "host_discovery" fun value => !value.isBool && value.laxBool.isSome) ∧
      Asked kind config "checks" (Json.isListOf fun text => stripWhitespace text != ""))

section

variable {kind : ScanType} {config fields created updated stored : JsonObject}

theorem Json.isBool_inj {value value' other : Json} (accepted : value.isBool = true)
    (accepted' : value'.isBool = true) (equal : value.pyEq other = true)
    (equal' : value'.pyEq other = true) : value = value' := by
  cases value with
  | bool first =>
      cases value' with
      | bool second =>
          rw [Json.pyEq, beq_iff_eq] at equal equal'
          rw [equal] at equal'
          cases first <;> cases second <;> simp_all
      | null => cases accepted'
      | int value => cases accepted'
      | float value => cases accepted'
      | str value => cases accepted'
      | arr items => cases accepted'
      | obj fields => cases accepted'
  | null => cases accepted
  | int value => cases accepted
  | float value => cases accepted
  | str value => cases accepted
  | arr items => cases accepted
  | obj fields => cases accepted

/-- Accepted lists hold texts. -/
theorem Json.isListOf_texts {accepts : String → Bool} {value : Json}
    (accepted : value.isListOf accepts = true) :
    ∃ texts : List String, texts ≠ [] ∧ value = .arr (texts.map .str) ∧
      ∀ text ∈ texts, accepts text = true := by
  cases value with
  | arr items =>
      obtain ⟨nonempty, strings⟩ := (Bool.and_eq_true _ _).mp accepted
      have read : ∃ texts : List String, items = texts.map .str ∧
          ∀ text ∈ texts, accepts text = true := by
        clear accepted nonempty
        induction items with
        | nil => exact ⟨[], rfl, by simp⟩
        | cons item rest ih =>
            rw [List.all_cons, Bool.and_eq_true] at strings
            obtain ⟨texts, rfl, each⟩ := ih strings.2
            cases item with
            | str text =>
                refine ⟨text :: texts, rfl, ?_⟩
                intro other member
                cases member with
                | head => exact strings.1
                | tail _ later => exact each other later
            | null => cases strings.1
            | bool value => cases strings.1
            | int value => cases strings.1
            | float value => cases strings.1
            | arr items => cases strings.1
            | obj fields => cases strings.1
      obtain ⟨texts, rfl, each⟩ := read
      refine ⟨texts, ?_, rfl, each⟩
      rintro rfl
      cases nonempty
  | null => cases accepted
  | bool value => cases accepted
  | int value => cases accepted
  | float value => cases accepted
  | str value => cases accepted
  | obj fields => cases accepted

theorem pyEqItems_texts (texts : List String) (others : List Json) :
    Json.pyEqItems (texts.map .str) others = true ↔ others = texts.map .str := by
  induction texts generalizing others with
  | nil => simp [Json.pyEqItems]
  | cons text rest ih =>
      cases others with
      | nil => simp [Json.pyEqItems]
      | cons other others =>
          rw [List.map_cons, Json.pyEqItems, Bool.and_eq_true, ih, List.cons.injEq]
          apply and_congr_left
          intro _
          cases other with
          | str text' =>
              simp only [Json.pyEq, beq_iff_eq, Json.str.injEq]
              exact eq_comm
          | _ => simp [Json.pyEq]

theorem Json.isListOf_inj {accepts : String → Bool} {value value' other : Json}
    (accepted : value.isListOf accepts = true) (accepted' : value'.isListOf accepts = true)
    (equal : value.pyEq other = true) (equal' : value'.pyEq other = true) : value = value' := by
  obtain ⟨texts, _, rfl, _⟩ := isListOf_texts accepted
  obtain ⟨texts', _, rfl, _⟩ := isListOf_texts accepted'
  cases other with
  | arr items =>
      rw [Json.pyEq, pyEqItems_texts] at equal equal'
      rw [← equal, ← equal']
  | null => cases equal
  | bool value => cases equal
  | int value => cases equal
  | float value => cases equal
  | str value => cases equal
  | obj fields => cases equal

/-- Two canonical configs that equal one stored value are the same. -/
theorem Canonical.inj {other : Json} (left : Canonical kind created)
    (right : Canonical kind updated) (equal : Json.pyEq (.obj created) other = true)
    (equal' : Json.pyEq (.obj updated) other = true) : created = updated := by
  cases other with
  | obj fields =>
      rw [Json.pyEq, Bool.and_eq_true] at equal equal'
      cases left with
      | discovery host =>
          cases right with
          | discovery host' =>
              cases found : fields.lookup "host_discovery" with
              | none => simp [Json.pyEqFields, found] at equal
              | some value =>
                  simp only [Json.pyEqFields, found, Bool.and_true] at equal equal'
                  rw [Json.isBool_inj host host' equal.2 equal'.2]
      | vulnerability checks =>
          cases right with
          | vulnerability checks' =>
              cases found : fields.lookup "checks" with
              | none => simp [Json.pyEqFields, found] at equal
              | some value =>
                  simp only [Json.pyEqFields, found, Bool.and_true] at equal equal'
                  rw [Json.isListOf_inj checks checks' equal.2 equal'.2]
      | web paths =>
          cases right with
          | web paths' =>
              cases found : fields.lookup "paths" with
              | none => simp [Json.pyEqFields, found] at equal
              | some value =>
                  simp only [Json.pyEqFields, found, Bool.and_true] at equal equal'
                  rw [Json.isListOf_inj paths paths' equal.2 equal'.2]
      | full host checks paths =>
          cases right with
          | full host' checks' paths' =>
              cases first : fields.lookup "host_discovery" with
              | none => simp [Json.pyEqFields, first] at equal
              | some value =>
                  cases second : fields.lookup "checks" with
                  | none => simp [Json.pyEqFields, second] at equal
                  | some value' =>
                      cases third : fields.lookup "paths" with
                      | none => simp [Json.pyEqFields, third] at equal
                      | some value'' =>
                          simp only [Json.pyEqFields, first, second, third, Bool.and_true,
                            Bool.and_eq_true] at equal equal'
                          rw [Json.isBool_inj host host' equal.2.1 equal'.2.1,
                            Json.isListOf_inj checks checks' equal.2.2.1 equal'.2.2.1,
                            Json.isListOf_inj paths paths' equal.2.2.2 equal'.2.2.2]
  | null => cases equal
  | bool value => cases equal
  | int value => cases equal
  | float value => cases equal
  | str value => cases equal
  | arr items => cases equal

/-- What the validator makes of the values under the keys of a type. -/
def collect (kind : ScanType) (host checks paths : Option Json) : Option JsonObject :=
  match kind with
  | .discovery => host.map fun value => [("host_discovery", value)]
  | .vulnerability => checks.map fun value => [("checks", value)]
  | .web => paths.map fun value => [("paths", value)]
  | .full =>
      host.bind fun host => checks.bind fun checks => paths.map fun paths =>
        [("host_discovery", host), ("checks", checks), ("paths", paths)]

/-- The value under the key of a rule, where the rule accepts it. -/
def ConfigRule.value (rule : ConfigRule) (config : JsonObject) : Option Json :=
  (config.lookup rule.key).filter rule.accepts

/-- The same where the field of a schema has read it. -/
def ConfigRule.dumped (rule : ConfigRule) (field : ConfigField) (config : JsonObject) :
    Option Json :=
  ((config.lookup field.key).bind field.parse).filter rule.accepts

theorem configField_toOption (rule : ConfigRule) (normalised : JsonObject) :
    (configField rule kind config normalised).toOption =
      if rule.key ∈ configKeys kind then
        (rule.value config).map fun value => normalised ++ [(rule.key, value)]
      else some normalised := by
  rw [configField, ConfigRule.value]
  by_cases asked : rule.key ∈ configKeys kind
  · rw [if_pos asked, if_pos asked]
    cases config.lookup rule.key with
    | none => rfl
    | some value =>
        by_cases valid : rule.accepts value = true
        · simp [valid, Except.toOption]
        · simp [valid, Except.toOption]
  · rw [if_neg asked, if_neg asked]
    rfl

theorem toOption_bind {Error Value Result : Type} (first : Except Error Value)
    (rest : Value → Except Error Result) :
    (first >>= rest).toOption = first.toOption.bind fun value => (rest value).toOption := by
  cases first <;> rfl

theorem validateScanConfig_toOption :
    (validateScanConfig (some kind) (.obj config)).toOption =
      if ∀ field ∈ config, field.1 ∈ configKeys kind then
        collect kind (hostDiscoveryRule.value config) (checksRule.value config)
          (pathsRule.value config)
      else none := by
  rw [validateScanConfig]
  by_cases allowed : ∀ field ∈ config, field.1 ∈ configKeys kind
  · have none_found : ((config.map Prod.fst).insertionSort (· ≤ ·)).find?
        (fun key => decide (key ∉ configKeys kind)) = none := by
      rw [List.find?_eq_none]
      intro key member
      rw [List.mem_insertionSort, List.mem_map] at member
      obtain ⟨field, member, rfl⟩ := member
      simpa using allowed field member
    rw [none_found, if_pos allowed]
    simp only [toOption_bind, configField_toOption]
    cases kind with
    | discovery =>
        cases hostDiscoveryRule.value config <;> rfl
    | vulnerability =>
        cases checksRule.value config <;> rfl
    | web =>
        cases pathsRule.value config <;> rfl
    | full =>
        cases hostDiscoveryRule.value config <;> cases checksRule.value config <;>
          cases pathsRule.value config <;> rfl
  · obtain ⟨field, member, foreign⟩ : ∃ field ∈ config, field.1 ∉ configKeys kind := by
      simpa using allowed
    rw [if_neg allowed]
    split
    next => rfl
    next none_found =>
      rw [List.find?_eq_none] at none_found
      have listed : field.1 ∈ (config.map Prod.fst).insertionSort (· ≤ ·) :=
        (List.mem_insertionSort _).mpr (List.mem_map_of_mem member)
      exact absurd (by simpa using foreign) (none_found _ listed)

/-- What `create_scan` makes of a config that the schema has read. -/
theorem modelDump_validated :
    ((modelDump (configModel kind) config).bind fun dumped =>
        (validateScanConfig (some kind) (.obj dumped)).toOption) =
      if ∀ field ∈ config, field.1 ∈ configKeys kind then
        collect kind (hostDiscoveryRule.dumped hostDiscoveryField config)
          (checksRule.dumped checksField config) (pathsRule.dumped pathsField config)
      else none := by
  have keys : (configModel kind).map ConfigField.key = configKeys kind := by
    cases kind <;> rfl
  rw [modelDump, keys]
  by_cases allowed : ∀ field ∈ config, field.1 ∈ configKeys kind
  · have allowed' : (config.all fun field => decide (field.1 ∈ configKeys kind)) = true := by
      simpa using allowed
    rw [if_pos allowed', if_pos allowed]
    simp only [validateScanConfig_toOption]
    cases kind with
    | discovery =>
        simp only [configModel, List.mapM_cons, List.mapM_nil, ConfigRule.dumped]
        cases (config.lookup hostDiscoveryField.key).bind hostDiscoveryField.parse with
        | none => rfl
        | some host =>
            simp [ConfigRule.value, configKeys, collect, hostDiscoveryField, hostDiscoveryRule]
    | vulnerability =>
        simp only [configModel, List.mapM_cons, List.mapM_nil, ConfigRule.dumped]
        cases (config.lookup checksField.key).bind checksField.parse with
        | none => rfl
        | some checks => simp [ConfigRule.value, configKeys, collect, checksField, checksRule]
    | web =>
        simp only [configModel, List.mapM_cons, List.mapM_nil, ConfigRule.dumped]
        cases (config.lookup pathsField.key).bind pathsField.parse with
        | none => rfl
        | some paths => simp [ConfigRule.value, configKeys, collect, pathsField, pathsRule]
    | full =>
        simp only [configModel, List.mapM_cons, List.mapM_nil, ConfigRule.dumped]
        cases (config.lookup hostDiscoveryField.key).bind hostDiscoveryField.parse with
        | none => rfl
        | some host =>
            cases (config.lookup checksField.key).bind checksField.parse with
            | none => simp [collect]
            | some checks =>
                cases (config.lookup pathsField.key).bind pathsField.parse with
                | none => simp [collect]
                | some paths =>
                    simp [ConfigRule.value, configKeys, collect, hostDiscoveryField,
                      hostDiscoveryRule, checksField, checksRule, pathsField, pathsRule,
                      List.lookup_cons]
  · have foreign : ¬ (config.all fun field => decide (field.1 ∈ configKeys kind)) = true := by
      simpa using allowed
    rw [if_neg foreign, if_neg allowed]
    rfl

theorem Json.textList_some {constrain : String → String} {value read : Json} :
    value.textList constrain = some read ↔ ∃ texts : List String, texts ≠ [] ∧
      value = .arr (texts.map .str) ∧ read = .arr (texts.map (.str ∘ constrain)) := by
  have mapped (items : List Json) (texts : List String) :
      items.mapM Json.text? = some texts ↔ items = texts.map .str := by
    induction items generalizing texts with
    | nil => cases texts <;> simp
    | cons item rest ih =>
        rw [List.mapM_cons]
        cases texts with
        | nil => cases item.text? <;> cases rest.mapM Json.text? <;> simp
        | cons text texts =>
            have later := ih texts
            cases item with
            | str value =>
                cases read : rest.mapM Json.text? with
                | none => simp_all [Json.text?]
                | some others => simp_all [Json.text?]
            | _ => simp [Json.text?]
  cases value with
  | arr items =>
      rw [Json.textList, Option.bind_eq_some_iff]
      constructor
      · rintro ⟨texts, found, given⟩
        rw [mapped] at found
        split at given
        next => cases given
        next nonempty =>
          cases given
          exact ⟨texts, nonempty, by rw [found], rfl⟩
      · rintro ⟨texts, nonempty, same, rfl⟩
        rw [Json.arr.injEq] at same
        exact ⟨texts, (mapped _ _).mpr same, if_neg nonempty⟩
  | _ => simp [Json.textList]

theorem Json.isListOf_map (accepts : String → Bool) (texts : List String) :
    (Json.arr (texts.map .str)).isListOf accepts = (!texts.isEmpty && texts.all accepts) := by
  simp [Json.isListOf, Function.comp_def]

theorem Json.hasOuterSpace_map (texts : List String) :
    (Json.arr (texts.map .str)).hasOuterSpace =
      texts.any fun text => stripWhitespace text != text := by
  simp [Json.hasOuterSpace, Json.text?, Function.comp_def]

theorem pathsRule_dumped : pathsRule.dumped pathsField config = pathsRule.value config := by
  rw [ConfigRule.dumped, ConfigRule.value]
  change ((config.lookup "paths").bind _).filter _ = (config.lookup "paths").filter _
  cases config.lookup "paths" with
  | none => rfl
  | some value =>
      rw [Option.bind_some]
      cases read : pathsField.parse value with
      | some parsed =>
          obtain ⟨texts, -, rfl, rfl⟩ := Json.textList_some.mp read
          rfl
      | none =>
          have refused : pathsRule.accepts value = false := by
            by_contra accepted
            rw [Bool.not_eq_false] at accepted
            obtain ⟨texts, nonempty, rfl, -⟩ := Json.isListOf_texts accepted
            have parsed : pathsField.parse (.arr (texts.map .str)) = _ :=
              Json.textList_some.mpr ⟨texts, nonempty, rfl, rfl⟩
            rw [parsed] at read
            cases read
          rw [Option.filter_none, Option.filter_some, refused]
          rfl

/-- A flag that is no boolean is refused as it is, and may be accepted once coerced. -/
theorem hostDiscoveryRule_dumped :
    (hostDiscoveryRule.dumped hostDiscoveryField config = hostDiscoveryRule.value config ↔
      (config.lookup "host_discovery").any (fun value => !value.isBool && value.laxBool.isSome) =
        false) ∧
    ((config.lookup "host_discovery").any (fun value => !value.isBool && value.laxBool.isSome) =
      true → (hostDiscoveryRule.dumped hostDiscoveryField config).isSome = true ∧
        hostDiscoveryRule.value config = none) := by
  rw [ConfigRule.dumped, ConfigRule.value]
  change (((config.lookup "host_discovery").bind _).filter _ =
    (config.lookup "host_discovery").filter _ ↔ _) ∧ (_ → (Option.filter _
      ((config.lookup "host_discovery").bind _)).isSome = true ∧
        (config.lookup "host_discovery").filter _ = none)
  cases config.lookup "host_discovery" with
  | none => simp
  | some value =>
      rw [Option.bind_some]
      by_cases boolean : value.isBool = true
      · cases value with
        | bool value => simp [hostDiscoveryField, hostDiscoveryRule, Json.laxBool, Json.isBool]
        | _ => cases boolean
      · rw [Bool.not_eq_true] at boolean
        simp only [hostDiscoveryField, hostDiscoveryRule, Option.filter_some, Option.any_some,
          boolean, Bool.not_false, Bool.true_and]
        cases value.laxBool <;> simp [Json.isBool]

theorem checksRule_accepts (texts : List String) :
    checksRule.accepts (.arr (texts.map .str)) = (!texts.isEmpty && texts.all (· != "")) :=
  Json.isListOf_map _ texts

theorem strip_fixed {texts : List String} :
    texts.map stripWhitespace = texts ↔
      (texts.any fun text => stripWhitespace text != text) = false := by
  nth_rewrite 2 [← List.map_id texts]
  rw [List.map_inj_left]
  simp

theorem strip_nonempty {texts : List String}
    (given : (texts.all fun text => stripWhitespace text != "") = true) :
    (texts.all fun text => text != "") = true := by
  rw [List.all_eq_true] at given ⊢
  intro text member
  have kept := given text member
  rw [bne_iff_ne] at kept ⊢
  rintro rfl
  exact kept (by decide)

/-- Checks are accepted as others where one of them has outer whitespace, and refused where only
whitespace is left of one. -/
theorem checksRule_dumped :
    (checksRule.dumped checksField config = checksRule.value config ↔
      (config.lookup "checks").any (fun value => checksRule.accepts value && value.hasOuterSpace) =
        false) ∧
    ((checksRule.dumped checksField config).isSome = true ↔
      (config.lookup "checks").any (Json.isListOf fun text => stripWhitespace text != "") = true) ∧
    ((config.lookup "checks").any (fun value => checksRule.accepts value && value.hasOuterSpace) =
      true → (checksRule.value config).isSome = true) := by
  rw [ConfigRule.dumped, ConfigRule.value]
  change (((config.lookup "checks").bind _).filter _ = (config.lookup "checks").filter _ ↔ _) ∧
    ((Option.filter _ ((config.lookup "checks").bind _)).isSome = true ↔ _) ∧
      (_ → ((config.lookup "checks").filter _).isSome = true)
  cases config.lookup "checks" with
  | none => simp
  | some value =>
      rw [Option.bind_some, Option.any_some, Option.any_some, Option.filter_some]
      cases read : checksField.parse value with
      | none =>
          have refused (accepts : String → Bool) : value.isListOf accepts = false := by
            by_contra accepted
            rw [Bool.not_eq_false] at accepted
            obtain ⟨texts, nonempty, rfl, -⟩ := Json.isListOf_texts accepted
            have parsed : checksField.parse (.arr (texts.map .str)) = _ :=
              Json.textList_some.mpr ⟨texts, nonempty, rfl, rfl⟩
            rw [parsed] at read
            cases read
          have refused' : checksRule.accepts value = false := refused _
          simp [refused', refused]
      | some parsed =>
          obtain ⟨texts, nonempty, rfl, rfl⟩ := Json.textList_some.mp read
          have present : texts.isEmpty = false := by simpa using nonempty
          rw [← List.map_map, Option.filter_some, checksRule_accepts, checksRule_accepts,
            Json.isListOf_map, Json.hasOuterSpace_map]
          simp only [List.isEmpty_map, present, Bool.not_false, Bool.true_and, List.all_map,
            Function.comp_def]
          refine ⟨?_, by simp, ?_⟩
          · by_cases bare : (texts.all fun text => text != "") = true
            · rw [if_pos bare, bare, Bool.true_and]
              constructor
              · intro same
                split at same
                next =>
                  have texts_same := Json.arr.inj (Option.some.inj same)
                  have injective : Function.Injective Json.str := fun _ _ => Json.str.inj
                  exact strip_fixed.mp (List.map_injective_iff.mpr injective texts_same)
                next => cases same
              · intro fixed
                have same := strip_fixed.mpr fixed
                have kept : (texts.all fun text => stripWhitespace text != "") = true := by
                  rw [← same, List.all_map] at bare
                  exact bare
                rw [if_pos kept, same]
            · have lost : ¬ (texts.all fun text => stripWhitespace text != "") = true := by
                intro kept
                exact bare (strip_nonempty kept)
              rw [if_neg bare, if_neg lost]
              simp [bare]
          · intro both
            rw [Bool.and_eq_true] at both
            rw [if_pos both.1]
            rfl

/-! What of a config is storable. -/

theorem storable_texts (texts : List String) :
    (Json.arr (texts.map .str)).storable = texts.all String.storable := by
  unfold Json.storable
  induction texts with
  | nil => rfl
  | cons text rest ih =>
      rw [List.map_cons, List.all_cons, ← ih]
      rfl

/-- No white space is a NUL. -/
theorem strip_storable (text : String) : (stripWhitespace text).storable = text.storable := by
  unfold String.storable stripWhitespace
  rw [String.toList_ofList, Bool.eq_iff_iff, List.all_eq_true, List.all_eq_true]
  constructor
  · intro stripped char member
    by_cases blank : isWhiteSpace char = true
    · apply bne_iff_ne.mpr
      intro nul
      rw [isWhiteSpace, nul] at blank
      revert blank
      decide
    · exact stripped char (List.mem_trim member (Bool.eq_false_iff.mpr blank))
  · intro whole char member
    exact whole char (List.trim_within.subset member)

theorem hostDiscoveryRule_storable {value : Json}
    (given : value ∈ hostDiscoveryRule.dumped hostDiscoveryField config ∨
      value ∈ hostDiscoveryRule.value config) : value.storable = true := by
  have accepted : value.isBool = true := by
    rcases given with given | given
    · exact (Option.filter_eq_some_iff.mp given).2
    · exact (Option.filter_eq_some_iff.mp given).2
  cases value with
  | bool flag => rfl
  | _ => cases accepted

theorem checksRule_storable {value : Json}
    (given : value ∈ checksRule.dumped checksField config ∨ value ∈ checksRule.value config) :
    (config.lookup "checks").any Json.storable = value.storable := by
  rcases given with given | given
  · obtain ⟨parsed, _⟩ := Option.filter_eq_some_iff.mp given
    obtain ⟨own, found, read⟩ := Option.bind_eq_some_iff.mp parsed
    have found : config.lookup "checks" = some own := found
    obtain ⟨texts, _, listed, stripped⟩ := Json.textList_some.mp read
    rw [found, Option.any_some, listed, stripped, ← List.map_map, storable_texts, storable_texts,
      List.all_map]
    apply congrArg texts.all
    funext text
    exact (strip_storable text).symm
  · have found : config.lookup "checks" = some value := (Option.filter_eq_some_iff.mp given).1
    rw [found, Option.any_some]

theorem pathsRule_storable {value : Json} (given : value ∈ pathsRule.value config) :
    (config.lookup "paths").any Json.storable = value.storable := by
  have found : config.lookup "paths" = some value := (Option.filter_eq_some_iff.mp given).1
  rw [found, Option.any_some]

/-- What is collected is storable where the texts of the config are. -/
theorem collect_storable {host checks paths : Option Json}
    (flag : ∀ value ∈ host, value.storable = true)
    (same : ∀ value ∈ checks, (config.lookup "checks").any Json.storable = value.storable)
    (same' : ∀ value ∈ paths, (config.lookup "paths").any Json.storable = value.storable)
    (collected : collect kind host checks paths = some created) :
    Json.storableFields created = true ↔
      Asked kind config "checks" Json.storable ∧ Asked kind config "paths" Json.storable := by
  unfold Asked
  cases kind with
  | discovery =>
      obtain ⟨value, given, rfl⟩ := Option.map_eq_some_iff.mp collected
      have stored := flag value given
      simp [configKeys, Json.storableFields, stored, String.storable, Char.storable]
  | vulnerability =>
      obtain ⟨value, given, rfl⟩ := Option.map_eq_some_iff.mp collected
      have stored := same value given
      simp [configKeys, Json.storableFields, stored, String.storable, Char.storable]
  | web =>
      obtain ⟨value, given, rfl⟩ := Option.map_eq_some_iff.mp collected
      have stored := same' value given
      simp [configKeys, Json.storableFields, stored, String.storable, Char.storable]
  | full =>
      obtain ⟨first, given, collected⟩ := Option.bind_eq_some_iff.mp collected
      obtain ⟨second, given', collected⟩ := Option.bind_eq_some_iff.mp collected
      obtain ⟨third, given'', rfl⟩ := Option.map_eq_some_iff.mp collected
      have stored := flag first given
      have stored' := same second given'
      have stored'' := same' third given''
      simp [configKeys, Json.storableFields, stored, stored', stored'', String.storable,
        Char.storable]

theorem storableFields_iff : Json.storableFields fields = true ↔
    ∀ field ∈ fields, field.1.storable = true ∧ field.2.storable = true := by
  induction fields with
  | nil => simp [Json.storableFields]
  | cons field rest ih =>
      obtain ⟨key, value⟩ := field
      rw [Json.storableFields, Bool.and_eq_true, Bool.and_eq_true, ih, List.forall_mem_cons,
        and_assoc]

theorem pyEqFields_lookup (equal : Json.pyEqFields fields stored = true) :
    ∀ field ∈ fields, ∃ value, stored.lookup field.1 = some value ∧ field.2.pyEq value = true := by
  induction fields with
  | nil => exact fun _ none => absurd none List.not_mem_nil
  | cons field rest ih =>
      obtain ⟨key, value⟩ := field
      rw [Json.pyEqFields, Bool.and_eq_true] at equal
      rw [List.forall_mem_cons]
      refine ⟨?_, ih equal.2⟩
      cases found : stored.lookup key with
      | none =>
          rw [found] at equal
          cases equal.1
      | some other =>
          rw [found] at equal
          exact ⟨other, rfl, equal.1⟩

/-- A flag or a list of texts equals only what is as storable. -/
theorem accepted_storable {accepts : String → Bool} {value other : Json}
    (accepted : value.isBool = true ∨ value.isListOf accepts = true)
    (equal : value.pyEq other = true) : other.storable = value.storable := by
  rcases accepted with flag | listed
  · cases value with
    | bool flag =>
        cases other with
        | str text => simp [Json.pyEq, Json.number?] at equal
        | arr items => simp [Json.pyEq, Json.number?] at equal
        | obj fields => simp [Json.pyEq, Json.number?] at equal
        | _ => rfl
    | _ => cases flag
  · obtain ⟨texts, _, rfl, _⟩ := Json.isListOf_texts listed
    cases other with
    | arr items =>
        rw [Json.pyEq, pyEqItems_texts] at equal
        rw [equal]
    | _ => cases equal

theorem Canonical.accepted (canonical : Canonical kind created) :
    ∀ field ∈ created, field.2.isBool = true ∨ ∃ accepts, field.2.isListOf accepts = true := by
  cases canonical with
  | discovery host =>
      rw [List.forall_mem_singleton]
      exact .inl host
  | vulnerability checks =>
      rw [List.forall_mem_singleton]
      exact .inr ⟨_, checks⟩
  | web paths =>
      rw [List.forall_mem_singleton]
      exact .inr ⟨_, paths⟩
  | full host checks paths =>
      rw [List.forall_mem_cons, List.forall_mem_cons, List.forall_mem_singleton]
      exact ⟨.inl host, .inr ⟨_, checks⟩, .inr ⟨_, paths⟩⟩

/-- A canonical config equals only what is as storable. -/
theorem Canonical.storableFields_eq (canonical : Canonical kind created)
    (equal : Json.pyEq (.obj created) (.obj stored) = true) :
    Json.storableFields stored = Json.storableFields created := by
  have distinct : (created.map Prod.fst).Nodup := canonical.keys ▸ configKeys_nodup kind
  have keys := pyEq_keys distinct equal
  rw [Json.pyEq, Bool.and_eq_true] at equal
  have values := pyEqFields_lookup equal.2
  have alike {field : String × Json} (member : field ∈ created) {value : Json}
      (found : stored.lookup field.1 = some value) : value.storable = field.2.storable := by
    obtain ⟨other, found', same⟩ := values field member
    cases found'.symm.trans found
    rcases canonical.accepted field member with flag | ⟨accepts, listed⟩
    · have flag : field.2.isBool = true ∨ field.2.isListOf (fun _ => true) = true := .inl flag
      exact accepted_storable flag same
    · exact accepted_storable (.inr listed) same
  rw [Bool.eq_iff_iff, storableFields_iff, storableFields_iff]
  constructor
  · intro each field member
    obtain ⟨value, found, _⟩ := values field member
    obtain ⟨front, back, shape, _⟩ := List.lookup_eq_some_iff.mp found
    have held := each (field.1, value) (by rw [shape]; simp)
    exact ⟨held.1, alike member found ▸ held.2⟩
  · intro each field member
    obtain ⟨key, value⟩ := field
    have named : key ∈ created.map Prod.fst := keys.mem_iff.mpr (List.mem_map_of_mem member)
    obtain ⟨own, there, rfl⟩ := List.mem_map.mp named
    have held := each own there
    have found := lookup_of_mem (keys.nodup_iff.mp distinct) member
    exact ⟨held.1, (alike there found).trans held.2⟩

/-- The two readings of a config collect the same values. -/
theorem collect_same_iff :
    collect kind (hostDiscoveryRule.dumped hostDiscoveryField config)
        (checksRule.dumped checksField config) (pathsRule.dumped pathsField config) =
      collect kind (hostDiscoveryRule.value config) (checksRule.value config)
        (pathsRule.value config) ↔ ¬ (Asked kind config "paths" pathsRule.accepts ∧
      ((Asked kind config "host_discovery" Json.isBool ∧ "checks" ∈ configKeys kind ∧
        Asked kind config "checks" fun value => checksRule.accepts value && value.hasOuterSpace) ∨
      ("host_discovery" ∈ configKeys kind ∧
        (Asked kind config "host_discovery" fun value => !value.isBool && value.laxBool.isSome) ∧
        Asked kind config "checks" (Json.isListOf fun text => stripWhitespace text != "")))) := by
  obtain ⟨hostSame, hostCoerced⟩ := @hostDiscoveryRule_dumped config
  obtain ⟨checksSame, checksKept, checksGiven⟩ := @checksRule_dumped config
  have hostGiven : (hostDiscoveryRule.value config).isSome =
      (config.lookup "host_discovery").any Json.isBool := Option.isSome_filter
  have pathsGiven : (pathsRule.value config).isSome =
      (config.lookup "paths").any pathsRule.accepts := Option.isSome_filter
  rw [pathsRule_dumped]
  simp only [Asked]
  rw [← hostGiven, ← pathsGiven, ← checksKept]
  rw [← Bool.not_eq_true] at hostSame checksSame
  generalize (config.lookup "host_discovery").any (fun value => !value.isBool &&
    value.laxBool.isSome) = coerced at *
  generalize (config.lookup "checks").any (fun value => checksRule.accepts value &&
    value.hasOuterSpace) = stripped at *
  generalize hostDiscoveryRule.dumped hostDiscoveryField config = host at *
  generalize hostDiscoveryRule.value config = host' at *
  generalize checksRule.dumped checksField config = checks at *
  generalize checksRule.value config = checks' at *
  generalize pathsRule.value config = paths at *
  clear hostGiven pathsGiven checksKept
  cases kind with
  | discovery =>
      simp only [collect, configKeys]
      cases host <;> cases host' <;> simp_all
  | vulnerability =>
      simp only [collect, configKeys]
      cases checks <;> cases checks' <;> simp_all
  | web => simp [collect, configKeys]
  | full =>
      simp only [collect, configKeys]
      cases paths with
      | none => cases host <;> cases host' <;> cases checks <;> cases checks' <;> simp_all
      | some paths =>
          cases host <;> cases host' <;> cases checks <;> cases checks' <;> simp_all

variable {repr : String → String} {tenantId : TenantId} {assetId : AssetId} {name : String}
  {newId scanId : ScanId} {visible : Option TenantId} {scan : Scan}
  {session session' : Session ScanId Scan}

theorem createdConfig_eq (free : openNameTaken session.working newId tenantId assetId name = false) :
    createdConfig repr kind config tenantId assetId name newId session =
      ((modelDump (configModel kind) config).bind fun dumped =>
        (validateScanConfig (some kind) (.obj dumped)).toOption).filter Json.storableFields := by
  rw [createdConfig]
  cases modelDump (configModel kind) config with
  | none => rfl
  | some dumped =>
      rw [Option.bind_some, Option.bind_some, createScan]
      cases validateScanConfig (some kind) (.obj dumped) with
      | error message => rfl
      | ok normalised =>
          simp only [free, Bool.false_eq_true, ↓reduceIte]
          change Option.filter _ (((Table.insert _ newId _).find newId).bind _) = _
          rw [Table.find_insert, if_pos rfl]
          rfl

/-- A `PATCH` keeps the stored config where it equals the one that the validator returns. -/
theorem updatedConfig_eq (found : getScan scanId visible session.working = some scan)
    (free : scan.status = .pending →
      openNameTaken session.working scanId scan.tenantId scan.assetId scan.name = false) :
    updatedConfig kind config scanId visible session =
      ((validateScanConfig (some kind) (.obj config)).toOption.filter Json.storableFields).bind
        fun normalised => if Json.pyEq (.obj normalised) (configJson scan.config) then scan.config
          else some normalised := by
  have candidate : (ScanUpdate.candidate ⟨none, some (some kind), some (some config)⟩ scan) =
      ⟨some scan.name, some kind, some config⟩ := rfl
  have asked : configJson (some config) = .obj config := rfl
  rw [updatedConfig, updateScan, found]
  simp only [candidate, asked]
  cases result : validateScanConfig (some kind) (.obj config) with
  | error message => rfl
  | ok normalised =>
      have open_name : ¬ (scan.status = .pending ∧
          openNameTaken session.working scanId scan.tenantId scan.assetId scan.name = true) := by
        rintro ⟨pending, taken⟩
        rw [free pending] at taken
        cases taken
      simp only
      rw [if_neg open_name]
      have row : session.working.find scanId = some scan := (Option.filter_eq_some_iff.mp found).1
      change Option.filter _ (((session.working.update _).find scanId).bind Scan.config) = _
      rw [Table.find_update, row]
      simp only [ScanChange.onKeys, beq_self_eq_true, ↓reduceIte, Option.map_some]
      change Option.filter _ (Option.or (if Json.pyEq (.obj normalised) (configJson scan.config)
        then none else some normalised) scan.config) = _
      simp only [Except.toOption]
      by_cases equal : Json.pyEq (.obj normalised) (configJson scan.config) = true
      · rw [if_pos equal, Option.none_or]
        cases config : scan.config with
        | none =>
            rw [config] at equal
            cases equal
        | some kept =>
            rw [config] at equal
            have canonical := validateScanConfig_canonical result
            rw [Option.filter_some, Option.filter_some, canonical.storableFields_eq equal]
            split
            next => exact (if_pos equal).symm
            next => rfl
      · rw [if_neg equal, Option.some_or, Option.filter_some]
        split
        next => exact (if_neg equal).symm
        next => rfl

theorem toOption_canonical {normalised : JsonObject}
    (accepted : (validateScanConfig (some kind) (.obj config)).toOption = some normalised) :
    Canonical kind normalised := by
  cases result : validateScanConfig (some kind) (.obj config) with
  | error message =>
      rw [result] at accepted
      cases accepted
  | ok other =>
      rw [result] at accepted
      cases accepted
      exact validateScanConfig_canonical result

/-- Keeping an equal stored config makes no difference. -/
theorem sameConfig_iff {posted patched : Option JsonObject} (kept : Option JsonObject)
    (first : ∀ normalised ∈ posted, Canonical kind normalised)
    (second : ∀ normalised ∈ patched, Canonical kind normalised) :
    SameConfig posted (patched.bind fun normalised =>
      if Json.pyEq (.obj normalised) (configJson kept) then kept else some normalised) ↔
      posted = patched := by
  have stored (normalised : JsonObject) : ∃ result,
      (if Json.pyEq (.obj normalised) (configJson kept) then kept else some normalised) =
        some result ∧ (Canonical kind normalised →
          Json.pyEq (.obj normalised) (.obj result) = true) := by
    split
    next equal =>
      cases kept with
      | none => cases equal
      | some fields => exact ⟨fields, rfl, fun _ => equal⟩
    next => exact ⟨normalised, rfl, Canonical.pyEq⟩
  cases posted with
  | none =>
      cases patched with
      | none => simp [SameConfig]
      | some updated =>
          obtain ⟨result, written, -⟩ := stored updated
          simp [written, SameConfig]
  | some created =>
      cases patched with
      | none => simp [SameConfig]
      | some updated =>
          obtain ⟨result, written, equal⟩ := stored updated
          have equal := equal (second updated rfl)
          rw [Option.bind_some, written, Option.some.injEq]
          change Json.pyEq (.obj created) (.obj result) = true ↔ _
          constructor
          · intro equal'
            exact (first created rfl).inj (second updated rfl) equal' equal
          · rintro rfl
            exact equal

theorem filter_storable {found : Option JsonObject} {held : Prop}
    (each : ∀ config, found = some config → (Json.storableFields config = true ↔ held)) :
    (held → found.filter Json.storableFields = found) ∧
      (¬ held → found.filter Json.storableFields = none) := by
  cases found with
  | none => exact ⟨fun _ => rfl, fun _ => rfl⟩
  | some config =>
      have same := each config rfl
      rw [Option.filter_some]
      exact ⟨fun stored => if_pos (same.mpr stored), fun lost => if_neg (mt same.mp lost)⟩

/-- The two readings of a config store the same values. -/
theorem collect_stored_iff (allowed : ∀ field ∈ config, field.1 ∈ configKeys kind) :
    (collect kind (hostDiscoveryRule.dumped hostDiscoveryField config)
        (checksRule.dumped checksField config)
        (pathsRule.dumped pathsField config)).filter Json.storableFields =
      (collect kind (hostDiscoveryRule.value config) (checksRule.value config)
        (pathsRule.value config)).filter Json.storableFields ↔ ¬ Rewritten kind config := by
  have flag : ∀ value ∈ hostDiscoveryRule.dumped hostDiscoveryField config,
      value.storable = true :=
    fun _ given => hostDiscoveryRule_storable (Or.inl given)
  have flag' : ∀ value ∈ hostDiscoveryRule.value config, value.storable = true :=
    fun _ given => hostDiscoveryRule_storable (Or.inr given)
  have same : ∀ value ∈ checksRule.dumped checksField config,
      (config.lookup "checks").any Json.storable = value.storable :=
    fun _ given => checksRule_storable (Or.inl given)
  have same' : ∀ value ∈ checksRule.value config,
      (config.lookup "checks").any Json.storable = value.storable :=
    fun _ given => checksRule_storable (Or.inr given)
  have paths : ∀ value ∈ pathsRule.value config,
      (config.lookup "paths").any Json.storable = value.storable :=
    fun _ given => pathsRule_storable given
  have paths' : ∀ value ∈ pathsRule.dumped pathsField config,
      (config.lookup "paths").any Json.storable = value.storable := by
    rw [pathsRule_dumped]
    exact paths
  have posted := filter_storable fun created
      (given : collect kind (hostDiscoveryRule.dumped hostDiscoveryField config)
        (checksRule.dumped checksField config) (pathsRule.dumped pathsField config) =
          some created) =>
    collect_storable flag same paths' given
  have patched := filter_storable fun updated
      (given : collect kind (hostDiscoveryRule.value config) (checksRule.value config)
        (pathsRule.value config) = some updated) =>
    collect_storable flag' same' paths given
  by_cases stored : Asked kind config "checks" Json.storable ∧
      Asked kind config "paths" Json.storable
  · rw [posted.1 stored, patched.1 stored, collect_same_iff]
    apply not_congr
    constructor
    · intro differs
      exact ⟨allowed, differs.1, stored, differs.2⟩
    · intro rewritten
      exact ⟨rewritten.paths, rewritten.rewrites⟩
  · rw [posted.2 stored, patched.2 stored]
    exact iff_of_true rfl fun rewritten => stored rewritten.storable

/-- `POST` and `PATCH` agree on a config unless the create schema rewrites it. -/
theorem config_agrees_iff (repr : String → String) (kind : ScanType) (config : JsonObject)
    (free : openNameTaken session.working newId tenantId assetId name = false)
    (found : getScan scanId visible session'.working = some scan)
    (free' : scan.status = .pending →
      openNameTaken session'.working scanId scan.tenantId scan.assetId scan.name = false) :
    SameConfig (createdConfig repr kind config tenantId assetId name newId session)
        (updatedConfig kind config scanId visible session') ↔ ¬ Rewritten kind config := by
  rw [createdConfig_eq free, updatedConfig_eq found free', sameConfig_iff scan.config,
    modelDump_validated, validateScanConfig_toOption]
  · by_cases allowed : ∀ field ∈ config, field.1 ∈ configKeys kind
    · rw [if_pos allowed, if_pos allowed, collect_stored_iff allowed]
    · rw [if_neg allowed, if_neg allowed]
      have never : ¬ Rewritten kind config := fun rewritten => allowed rewritten.keys
      simp [never]
  · intro normalised stored
    obtain ⟨accepted, _⟩ := Option.filter_eq_some_iff.mp stored
    obtain ⟨dumped, _, accepted⟩ := Option.bind_eq_some_iff.mp accepted
    exact toOption_canonical accepted
  · intro normalised stored
    exact toOption_canonical (Option.filter_eq_some_iff.mp stored).1

/-- A pending discovery scan. -/
def nightly : Table ScanId Scan :=
  Table.empty.insert 7 (ScanCreate.row ⟨10, "nightly", .discovery, []⟩ 1
    [("host_discovery", .bool true)])

theorem config_agrees_nightly :
    SameConfig (createdConfig id .discovery [("host_discovery", .bool false)] 1 10 "hourly" 8
        (.start nightly))
      (updatedConfig .discovery [("host_discovery", .bool false)] 7 (some 1) (.start nightly)) := by
  refine (config_agrees_iff id .discovery [("host_discovery", .bool false)] ?_ rfl ?_).mpr ?_
  · decide
  · intro _
    decide
  · intro rewritten
    rcases rewritten.rewrites with ⟨_, checks, _⟩ | ⟨_, host, _⟩
    · revert checks
      decide
    · cases host (by decide)

/-- The number 1 is `true` in a `POST` and refused in a `PATCH`. -/
theorem numeric_flag_disagrees :
    ¬ SameConfig (createdConfig id .discovery [("host_discovery", .int 1)] 1 10 "hourly" 8
        (.start nightly))
      (updatedConfig .discovery [("host_discovery", .int 1)] 7 (some 1) (.start nightly)) := by
  exact id

end

end Scans
