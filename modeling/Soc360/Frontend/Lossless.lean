import Soc360.Frontend.Forms

set_option autoImplicit false

namespace Frontend

namespace Forms

open JavaScript (numberText trim)
open Reports (Report ReportUpdate)
open Scans (Json JsonObject Scan ScanId ScanType ScanUpdate TenantId Timestamp)
open Vulnerabilities (Vulnerability VulnerabilityUpdate)

/-! The numbers that a form keeps. -/

/-- The form gives a score back, and the service makes the same tenths of it. -/
def scoreKept (tenths : Nat) : Bool :=
  parseCvssScore (numberText (scoreOf tenths)) == some (some (scoreOf tenths)) &&
    !(scoreOf tenths < 0 || 10 < scoreOf tenths) &&
    Vulnerabilities.quantize (Doubles.decimal (scoreOf tenths)) == tenths

/-- Every score from 0.0 to 10.0. -/
theorem scores_kept : (List.range 101).all scoreKept = true := by
  have parts : List.range 101 = [0, 20, 40, 60, 80].flatMap (List.range' · 20) ++ [100] := by
    decide
  -- each part is evaluated on its own
  have first : (List.range' 0 20).all scoreKept = true := by decide +kernel
  have second : (List.range' 20 20).all scoreKept = true := by decide +kernel
  have third : (List.range' 40 20).all scoreKept = true := by decide +kernel
  have fourth : (List.range' 60 20).all scoreKept = true := by decide +kernel
  have fifth : (List.range' 80 20).all scoreKept = true := by decide +kernel
  have last : [100].all scoreKept = true := by decide +kernel
  rw [parts, List.all_append, last, List.all_flatMap]
  simp only [List.all_cons, List.all_nil, first, second, third, fourth, fifth, Bool.and_self]

/-! Texts that a form keeps. -/

/-- Texts that come back from a field that joins them with commas. -/
structure Listable (texts : List String) : Prop where
  distinct : texts.Nodup
  whole : ∀ text ∈ texts, text ≠ "" ∧ ',' ∉ text.toList ∧ trim text = text

theorem ofList_injective : Function.Injective String.ofList := by
  intro first second same
  rw [← String.toList_ofList (l := first), same, String.toList_ofList]

theorem splitList_eq (value : String) :
    splitList value = (value.toList.pieces ',' JavaScript.isSpace).eraseDups.map String.ofList := by
  have kept : (fun text => text != "") ∘ String.ofList =
      fun piece : List Char => decide (piece ≠ []) := by
    funext piece
    have empty : String.ofList piece = "" ↔ piece = [] := ofList_injective.eq_iff (b := [])
    by_cases nothing : piece = []
    · simp [nothing]
    · simp [nothing, empty]
  have trimmed (pieces : List (List Char)) :
      (pieces.map fun item => trim (String.ofList item)) =
        (pieces.map (List.trim JavaScript.isSpace)).map String.ofList := by
    rw [List.map_map]
    apply List.map_congr_left
    intro piece _
    simp [trim]
  rw [splitList, ← List.eraseDups_map ofList_injective, List.pieces, trimmed, List.filter_map, kept]

theorem whole_iff {text : String} :
    text.toList.Whole ',' JavaScript.isSpace ↔ text ≠ "" ∧ ',' ∉ text.toList ∧ trim text = text := by
  constructor
  · intro whole
    refine ⟨?_, whole.apart, ?_⟩
    · rintro rfl
      exact whole.nonempty rfl
    · rw [trim, whole.trimmed, String.ofList_toList]
  · rintro ⟨nonempty, apart, trimmed⟩
    refine ⟨?_, apart, ?_⟩
    · intro empty
      exact nonempty (String.toList_eq_nil_iff.mp empty)
    · have chars := congrArg String.toList trimmed
      rwa [trim, String.toList_ofList] at chars

theorem splitList_join_iff {texts : List String} :
    splitList (", ".intercalate texts) = texts ↔ Listable texts := by
  have back : (texts.map String.toList).map String.ofList = texts := by simp
  have chars : splitList (", ".intercalate texts) =
      (((texts.map String.toList).flatMap (List.pieces ',' JavaScript.isSpace)).eraseDups).map
        String.ofList := by
    rw [splitList_eq, String.toList_intercalate]
    change ((([',', ' '].intercalate _).pieces ',' JavaScript.isSpace).eraseDups).map _ = _
    rw [List.pieces_intercalate (by decide) (by decide)]
  calc splitList (", ".intercalate texts) = texts
      ↔ (((texts.map String.toList).flatMap (List.pieces ',' JavaScript.isSpace)).eraseDups).map
          String.ofList = (texts.map String.toList).map String.ofList := by rw [chars, back]
    _ ↔ (texts.map String.toList).Nodup ∧
          ∀ items ∈ texts.map String.toList, items.Whole ',' JavaScript.isSpace := by
        rw [(List.map_injective_iff.mpr ofList_injective).eq_iff, List.eraseDups_pieces_iff]
    _ ↔ Listable texts := by
        have injective : Function.Injective String.toList := fun _ _ => String.toList_injective
        rw [List.nodup_map_iff injective, List.forall_mem_map]
        constructor
        · intro both
          exact ⟨both.1, fun text member => whole_iff.mp (both.2 text member)⟩
        · intro listable
          exact ⟨listable.distinct, fun text member => whole_iff.mpr (listable.whole text member)⟩

/-- The texts of a list under a key of the config. -/
def textsOf (scan : Scan) (key : String) : List String :=
  match (scan.config.getD []).lookup key with
  | some (.arr items) => items.filterMap Json.text?
  | _ => []

/-- A name that its two trims leave alone. -/
def Fixed (name : String) : Prop := trim name = name ∧ Scans.stripWhitespace name = name

/-- The service refuses what the form sends for a scan. -/
inductive ScanRefused (table : Table ScanId Scan) (scanId : ScanId) (scan : Scan) : Prop
  | name (blank : Scans.stripWhitespace (trim scan.name) = "")
  | paths {path piece : String} (asked : needsPaths scan.scanType = true)
      (member : path ∈ textsOf scan "paths") (cut : piece ∈ splitList path)
      (relative : piece.toList.head? ≠ some '/')
  | duplicate (pending : scan.status = .pending)
      (taken : Scans.openNameTaken table scanId scan.tenantId scan.assetId
        (Scans.stripWhitespace (trim scan.name)) = true)

/-- The form gives a scan back as it is. -/
structure ScanKept (scan : Scan) : Prop where
  name : Fixed scan.name
  config : ∃ config, scan.config = some config ∧ Scans.Canonical scan.scanType config
  checks (asked : needsChecks scan.scanType = true) : Listable (textsOf scan "checks")
  paths (asked : needsPaths scan.scanType = true) : Listable (textsOf scan "paths")

/-- A text that comes back from `textOrNull`. -/
def TextKept : Option String → Prop
  | none => True
  | some text => text ≠ "" ∧ trim text = text

theorem textOrNull_iff {text : Option String} :
    textOrNull (text.getD "") = text ↔ TextKept text := by
  cases text with
  | none => simp [textOrNull, trim, List.trim, TextKept]
  | some text =>
    rw [textOrNull, Option.getD_some, TextKept]
    by_cases nothing : trim text = ""
    · rw [if_pos nothing, nothing]
      simp
    · rw [if_neg nothing, Option.some_inj]
      constructor
      · intro same
        exact ⟨same ▸ nothing, same⟩
      · intro kept
        exact kept.2

theorem strip_eq_self {outer : Char → Bool} {text : String} :
    String.ofList (text.toList.trim outer) = text ↔ text.toList.trim outer = text.toList := by
  constructor
  · intro same
    have chars := congrArg String.toList same
    rwa [String.toList_ofList] at chars
  · intro same
    rw [same, String.ofList_toList]

theorem fixed_iff {name : String} : Scans.stripWhitespace (trim name) = name ↔ Fixed name := by
  have both : Scans.stripWhitespace (trim name) =
      String.ofList ((name.toList.trim JavaScript.isSpace).trim Scans.isWhiteSpace) := by
    rw [Scans.stripWhitespace, trim, String.toList_ofList]
    rfl
  rw [both, Fixed, trim, strip_eq_self]
  change _ ↔ _ ∧ String.ofList (name.toList.trim Scans.isWhiteSpace) = name
  rw [strip_eq_self, ← List.trim_twice]
  constructor
  · intro same
    have chars := congrArg String.toList same
    rwa [String.toList_ofList] at chars
  · intro same
    rw [same, String.ofList_toList]

theorem Errors.append_eq_nil {first second : Errors} :
    first ++ second = [] ↔ first = [] ∧ second = [] := List.append_eq_nil_iff

theorem Errors.when_eq_nil {condition : Bool} {field message : String} :
    Errors.when condition field message = [] ↔ condition = false := by
  cases condition <;> simp [Errors.when]

theorem nameErrors_eq_nil {field name missing tooLong : String} :
    nameErrors field name missing tooLong = [] ↔
      trim name ≠ "" ∧ JavaScript.length (trim name) ≤ 255 := by
  rw [nameErrors]
  by_cases nothing : trim name = ""
  · simp [nothing]
  · simp [nothing, Errors.when_eq_nil]

theorem length_le (text : String) : text.length ≤ JavaScript.length text := by
  rw [JavaScript.length, ← String.length_toList]
  induction text.toList with
  | nil => rfl
  | cons char rest ih =>
    rw [List.length_cons, List.map_cons, List.sum_cons]
    split <;> omega

/-- The schema refuses a name that passes the form only where nothing is left of it. -/
theorem strippedName_trim {name : String} (short : JavaScript.length (trim name) ≤ 255) :
    strippedName (trim name) =
      if Scans.stripWhitespace (trim name) = "" then none
      else some (Scans.stripWhitespace (trim name)) := by
  have fits : (Scans.stripWhitespace (trim name)).length ≤ 255 := by
    have shorter : (Scans.stripWhitespace (trim name)).length ≤ (trim name).length := by
      rw [← String.length_toList, ← String.length_toList, Scans.stripWhitespace,
        String.toList_ofList]
      exact List.length_trim_le
    have units := length_le (trim name)
    omega
  have blank : decide ((Scans.stripWhitespace (trim name)).length < 1) =
      decide (Scans.stripWhitespace (trim name) = "") := by
    rw [decide_eq_decide, Nat.lt_one_iff, String.length_eq_zero_iff]
  have long : decide (255 < (Scans.stripWhitespace (trim name)).length) = false := by
    simpa using fits
  rw [strippedName, blank, long, Bool.or_false]
  simp only [decide_eq_true_eq]

/-! Scans. -/

section

variable {scan : Scan} {kind : ScanType} {config : JsonObject} {texts : List String}

theorem elementTexts_texts : elementTexts (texts.map .str) = texts := by
  induction texts with
  | nil => rfl
  | cons text rest ih => rw [List.map_cons, elementTexts, ih, elementText]

theorem intercalate_ne (nonempty : texts ≠ []) (solid : ∀ text ∈ texts, text ≠ "") :
    ", ".intercalate texts ≠ "" := by
  cases texts with
  | nil => exact absurd rfl nonempty
  | cons text rest =>
    intro empty
    have chars := congrArg String.toList empty
    rw [String.toList_intercalate] at chars
    have first : text.toList ≠ [] := by
      intro nothing
      exact solid text List.mem_cons_self (String.toList_eq_nil_iff.mp nothing)
    cases rest with
    | nil => simp [first] at chars
    | cons second rest => simp [List.intercalate_cons_cons] at chars

/-- The field of a list that the service accepts. -/
theorem list_field (fallback : String) {accepts : String → Bool} {value : Json}
    (accepted : value.isListOf accepts = true) (solid : ∀ text, accepts text = true → text ≠ "") :
    ∃ texts, value = textArray texts ∧
      orDefault (joinList (some value)) fallback = ", ".intercalate texts ∧
      (splitList (orDefault (joinList (some value)) fallback) = texts ↔ Listable texts) := by
  obtain ⟨texts, nonempty, rfl, each⟩ := Json.isListOf_texts accepted
  have joined : joinList (some (.arr (texts.map .str))) = ", ".intercalate texts := by
    rw [joinList, elementTexts_texts]
  have shown : ", ".intercalate texts ≠ "" :=
    intercalate_ne nonempty fun text member => solid text (each text member)
  have field : orDefault (joinList (some (.arr (texts.map .str)))) fallback =
      ", ".intercalate texts := by rw [joined, orDefault, if_neg shown]
  exact ⟨texts, rfl, field, by rw [field, splitList_join_iff]⟩

theorem configFor_keys (state : ScanFormState) :
    (configFor state).map Prod.fst = Scans.configKeys state.type := by
  rw [configFor]
  cases state.type <;> rfl

theorem textsOf_texts {key : String}
    (found : (scan.config.getD []).lookup key = some (textArray texts)) :
    textsOf scan key = texts := by
  rw [textsOf, found]
  simp only [textArray, List.filterMap_map]
  exact List.filterMap_some

theorem check_solid (text : String) (accepted : (text != "") = true) : text ≠ "" := by
  simpa using accepted

theorem path_solid (text : String) (accepted : (text.toList.head? == some '/') = true) :
    text ≠ "" := by
  rintro rfl
  cases accepted

theorem textArray_inj {others : List String} : textArray texts = textArray others ↔ texts = others := by
  have injective : Function.Injective Json.str := fun _ _ => Json.str.inj
  rw [textArray, textArray, Json.arr.injEq, (List.map_injective_iff.mpr injective).eq_iff]

/-- The config that the form sends is the stored one where the lists come back. -/
theorem configFor_iff (stored : scan.config = some config)
    (canonical : Scans.Canonical kind config) :
    configFor (formFromScan scan) = config ↔ kind = scan.scanType ∧
      (needsChecks scan.scanType = true → Listable (textsOf scan "checks")) ∧
      (needsPaths scan.scanType = true → Listable (textsOf scan "paths")) := by
  by_cases same : kind = scan.scanType
  · have type : (formFromScan scan).type = kind := same.symm
    rw [configFor, type, ← same]
    cases canonical with
    | @discovery host hostAccepted =>
      have flag : host = .bool (formFromScan scan).hostDiscovery := by
        rw [formFromScan, stored]
        cases host with
        | bool value => rfl
        | null | int _ | float _ | str _ | arr _ | obj _ => cases hostAccepted
      have sent : [("host_discovery", Json.bool (formFromScan scan).hostDiscovery)] =
          [("host_discovery", host)] := by rw [← flag]
      exact iff_of_true sent ⟨rfl, nofun, nofun⟩
    | vulnerability checksAccepted =>
      obtain ⟨texts, rfl, -, back⟩ := list_field defaultChecks checksAccepted check_solid
      have held : textsOf scan "checks" = texts := textsOf_texts (by rw [stored]; rfl)
      have field : (formFromScan scan).checks =
          orDefault (joinList (some (textArray texts))) defaultChecks := by
        rw [formFromScan, stored]
        rfl
      rw [← field] at back
      rw [held]
      change [("checks", textArray (splitList _))] = [("checks", textArray texts)] ↔ _
      rw [List.singleton_inj, Prod.mk.injEq, textArray_inj, back]
      exact ⟨fun both => ⟨rfl, fun _ => both.2, nofun⟩, fun all => ⟨rfl, all.2.1 rfl⟩⟩
    | web pathsAccepted =>
      obtain ⟨texts, rfl, -, back⟩ := list_field defaultPaths pathsAccepted path_solid
      have held : textsOf scan "paths" = texts := textsOf_texts (by rw [stored]; rfl)
      have field : (formFromScan scan).paths =
          orDefault (joinList (some (textArray texts))) defaultPaths := by
        rw [formFromScan, stored]
        rfl
      rw [← field] at back
      rw [held]
      change [("paths", textArray (splitList _))] = [("paths", textArray texts)] ↔ _
      rw [List.singleton_inj, Prod.mk.injEq, textArray_inj, back]
      exact ⟨fun both => ⟨rfl, nofun, fun _ => both.2⟩, fun all => ⟨rfl, all.2.2 rfl⟩⟩
    | @full host _ _ hostAccepted checksAccepted pathsAccepted =>
      obtain ⟨texts, rfl, -, back⟩ := list_field defaultChecks checksAccepted check_solid
      obtain ⟨others, rfl, -, back'⟩ := list_field defaultPaths pathsAccepted path_solid
      have held : textsOf scan "checks" = texts := textsOf_texts (by rw [stored]; rfl)
      have held' : textsOf scan "paths" = others := textsOf_texts (by rw [stored]; rfl)
      have flag : host = .bool (formFromScan scan).hostDiscovery := by
        rw [formFromScan, stored]
        cases host with
        | bool value => rfl
        | null | int _ | float _ | str _ | arr _ | obj _ => cases hostAccepted
      have field : (formFromScan scan).checks =
          orDefault (joinList (some (textArray texts))) defaultChecks := by
        rw [formFromScan, stored]
        rfl
      have field' : (formFromScan scan).paths =
          orDefault (joinList (some (textArray others))) defaultPaths := by
        rw [formFromScan, stored]
        rfl
      rw [← field] at back
      rw [← field'] at back'
      rw [held, held', flag]
      change [("host_discovery", Json.bool _), ("checks", textArray (splitList _)),
        ("paths", textArray (splitList _))] =
          [("host_discovery", Json.bool _), ("checks", textArray texts),
            ("paths", textArray others)] ↔ _
      simp only [List.cons.injEq, Prod.mk.injEq, textArray_inj, back, back', true_and, and_true]
      exact ⟨fun both => ⟨fun _ => both.1, fun _ => both.2⟩, fun all => ⟨all.1 rfl, all.2 rfl⟩⟩
  · constructor
    · intro equal
      have keys := configFor_keys (formFromScan scan)
      rw [equal, canonical.keys] at keys
      exact absurd (Scans.configKeys_inj (keys ▸ List.Perm.refl _)) same
    · intro both
      exact absurd both.1 same

theorem mem_splitList {value piece : String} :
    piece ∈ splitList value ↔ piece.toList ∈ value.toList.pieces ',' JavaScript.isSpace := by
  rw [splitList_eq, List.mem_map]
  constructor
  · rintro ⟨chars, member, rfl⟩
    rwa [List.mem_eraseDups, ← String.toList_ofList (l := chars)] at member
  · intro member
    exact ⟨piece.toList, List.mem_eraseDups.mpr member, String.ofList_toList⟩

theorem mem_splitList_join {piece : String} :
    piece ∈ splitList (", ".intercalate texts) ↔ ∃ text ∈ texts, piece ∈ splitList text := by
  rw [mem_splitList, String.toList_intercalate]
  change _ ∈ ([',', ' '].intercalate _).pieces ',' JavaScript.isSpace ↔ _
  rw [List.pieces_intercalate (by decide) (by decide), List.mem_flatMap]
  simp only [List.mem_map, exists_exists_and_eq_and, mem_splitList]

/-- A config that the API returns was written by the service. -/
def Returned (scan : Scan) : Prop :=
  ∀ config, scan.config = some config → ∃ kind, Scans.Canonical kind config

/-- The pieces of the paths that the form sends: those of the stored ones. -/
theorem relative_paths (returned : Returned scan) {piece : String}
    (relative : piece.toList.head? ≠ some '/') :
    piece ∈ splitList (formFromScan scan).paths ↔
      ∃ path ∈ textsOf scan "paths", piece ∈ splitList path := by
  have root (absent : (scan.config.getD []).lookup "paths" = none) :
      piece ∈ splitList (formFromScan scan).paths ↔
        ∃ path ∈ textsOf scan "paths", piece ∈ splitList path := by
    have shown : (formFromScan scan).paths = "/" := by
      rw [formFromScan, absent]
      rfl
    have none_held : textsOf scan "paths" = [] := by rw [textsOf, absent]
    rw [shown, none_held]
    refine iff_of_false ?_ (by simp)
    intro member
    have only : splitList "/" = ["/"] := by decide +kernel
    rw [only, List.mem_singleton] at member
    subst member
    exact relative rfl
  have listed {paths : Json} (accepted : Scans.pathsRule.accepts paths = true)
      (found : (scan.config.getD []).lookup "paths" = some paths) :
      piece ∈ splitList (formFromScan scan).paths ↔
        ∃ path ∈ textsOf scan "paths", piece ∈ splitList path := by
    obtain ⟨texts, rfl, field, -⟩ := list_field defaultPaths accepted path_solid
    have shown : (formFromScan scan).paths = ", ".intercalate texts := by
      rw [← field, formFromScan, found]
    rw [shown, textsOf_texts found, mem_splitList_join]
  cases stored : scan.config with
  | none => exact root (by rw [stored]; rfl)
  | some config =>
    obtain ⟨kind, canonical⟩ := returned config stored
    cases canonical with
    | discovery _ => exact root (by rw [stored]; rfl)
    | vulnerability _ => exact root (by rw [stored]; rfl)
    | web accepted => exact listed accepted (by rw [stored]; rfl)
    | full _ _ accepted => exact listed accepted (by rw [stored]; rfl)

theorem textArray_accepted {accepts : String → Bool} :
    (textArray texts).isListOf accepts = true ↔
      texts ≠ [] ∧ ∀ text ∈ texts, accepts text = true := by
  rw [textArray, Json.isListOf, Bool.and_eq_true, List.all_map, List.all_eq_true]
  simp

section

variable {state : ScanFormState}

theorem configFor_canonical (checks : needsChecks state.type = true → splitList state.checks ≠ [])
    (paths : needsPaths state.type = true → splitList state.paths ≠ [])
    (rooted : needsPaths state.type = true →
      ∀ path ∈ splitList state.paths, path.toList.head? = some '/') :
    Scans.Canonical state.type (configFor state) := by
  have solid : ∀ text ∈ splitList state.checks, (text != "") = true := by
    intro text member
    rw [bne_iff_ne]
    exact (whole_iff.mp (List.mem_pieces (mem_splitList.mp member))).1
  have checked (asked : needsChecks state.type = true) :
      Scans.checksRule.accepts (textArray (splitList state.checks)) = true :=
    textArray_accepted.mpr ⟨checks asked, solid⟩
  have served (asked : needsPaths state.type = true) :
      Scans.pathsRule.accepts (textArray (splitList state.paths)) = true :=
    textArray_accepted.mpr ⟨paths asked, fun path member => by
      rw [rooted asked path member]
      rfl⟩
  rw [configFor]
  generalize state.type = type at checked served
  cases type with
  | discovery => exact .discovery rfl
  | vulnerability => exact .vulnerability (checked rfl)
  | web => exact .web (served rfl)
  | full => exact .full rfl (checked rfl) (served rfl)

/-- The service accepts the config of a form that passes its check where the paths are rooted, and
takes it as it is. -/
theorem configFor_accepted {normalised : JsonObject}
    (checks : needsChecks state.type = true → splitList state.checks ≠ [])
    (paths : needsPaths state.type = true → splitList state.paths ≠ []) :
    Scans.validateScanConfig (some state.type) (.obj (configFor state)) = .ok normalised ↔
      normalised = configFor state ∧ (needsPaths state.type = true →
        ∀ path ∈ splitList state.paths, path.toList.head? = some '/') := by
  constructor
  · intro accepted
    have rooted : needsPaths state.type = true →
        ∀ path ∈ splitList state.paths, path.toList.head? = some '/' := by
      intro asked
      have fields := accepted
      rw [Scans.validateScanConfig_fields (configFor_keys state)] at fields
      obtain ⟨first, -, fields⟩ := Except.bind_eq_ok.mp fields
      obtain ⟨second, -, field⟩ := Except.bind_eq_ok.mp fields
      have key : Scans.pathsRule.key ∈ Scans.configKeys state.type := by
        revert asked
        cases state.type <;> decide
      obtain ⟨value, found, valid, -⟩ := Scans.configField_asked Scans.pathsRule key field
      have sent : (configFor state).lookup Scans.pathsRule.key =
          some (textArray (splitList state.paths)) := by
        rw [configFor, asked]
        generalize state.type = type at asked
        cases type with
        | discovery | vulnerability => cases asked
        | web | full =>
          simp [needsHostDiscovery, needsChecks, Scans.pathsRule, List.lookup_cons]
      rw [sent, Option.some_inj] at found
      subst found
      intro path member
      exact beq_iff_eq.mp ((textArray_accepted.mp valid).2 path member)
    have taken := (configFor_canonical checks paths rooted).validate
    rw [accepted] at taken
    exact ⟨Except.ok.inj taken, rooted⟩
  · rintro ⟨rfl, rooted⟩
    exact (configFor_canonical checks paths rooted).validate

end

/-- What the `PATCH` of a scan makes of its row. -/
theorem patchScan_find {table : Table ScanId Scan} {scanId : ScanId} {tenantId : Option TenantId}
    {input : ScanUpdateInput} {name : String} {normalised : JsonObject}
    (found : Scans.getScan scanId tenantId table = some scan)
    (named : strippedName input.name = some name)
    (accepted : Scans.validateScanConfig (some input.type) (.obj input.config) = .ok normalised)
    (free : ¬ (scan.status = .pending ∧
      Scans.openNameTaken table scanId scan.tenantId scan.assetId name = true)) :
    (patchScan scanId tenantId input table).find scanId = some { scan with
      name := name
      scanType := input.type
      config := Option.or (if Json.pyEq (.obj normalised) (Scans.configJson scan.config) then none
        else some normalised) scan.config } := by
  have visible : Scans.getScan scanId tenantId (Session.start table).working = some scan := found
  have row : (Session.start table).working.find scanId = some scan :=
    (Option.filter_eq_some_iff.mp found).1
  have admitted : ¬ (scan.status = .pending ∧ Scans.openNameTaken (Session.start table).working
      scanId scan.tenantId scan.assetId name = true) := free
  rw [patchScan, named]
  simp only [Scans.updateScan, visible, ScanUpdate.candidate, Option.getD_some, Scans.configJson,
    accepted]
  rw [if_neg admitted]
  change ((Session.start table).working.update _).find scanId = _
  rw [Table.find_update, row]
  simp only [Scans.ScanChange.onKeys, beq_self_eq_true, ↓reduceIte, Option.map_some,
    Option.some_inj]
  have acted (columns : Scans.ScanEdit) : RowAction.act (Scans.ScanChange.edit columns) scan =
      some ((Scans.ScanChange.edit columns).values scan) := Scans.act_some.mpr ⟨rfl, rfl⟩
  rw [acted, Option.getD_some]
  simp only [Scans.ScanChange.values, Scans.Candidate.edit, Scans.edited_column]
  rfl

theorem patchScan_refused {table : Table ScanId Scan} {scanId : ScanId}
    {tenantId : Option TenantId} {input : ScanUpdateInput}
    (found : Scans.getScan scanId tenantId table = some scan)
    (refused : ∀ name, strippedName input.name = some name →
      (∀ normalised, Scans.validateScanConfig (some input.type) (.obj input.config) ≠
        .ok normalised) ∨
      scan.status = .pending ∧
        Scans.openNameTaken table scanId scan.tenantId scan.assetId name = true) :
    (patchScan scanId tenantId input table).find scanId = some scan := by
  have visible : Scans.getScan scanId tenantId (Session.start table).working = some scan := found
  have row : table.find scanId = some scan := (Option.filter_eq_some_iff.mp found).1
  rw [patchScan]
  cases named : strippedName input.name with
  | none => exact row
  | some name =>
    simp only [Scans.updateScan, visible, ScanUpdate.candidate, Option.getD_some,
      Scans.configJson]
    cases accepted : Scans.validateScanConfig (some input.type) (.obj input.config) with
    | error message => exact row
    | ok normalised =>
      rcases refused name named with rejected | taken
      · exact absurd accepted (rejected normalised)
      · have held : scan.status = .pending ∧ Scans.openNameTaken (Session.start table).working
            scanId scan.tenantId scan.assetId name = true := taken
        simp only
        rw [if_pos held]
        exact row

/-- A stored config is left alone where the one sent equals it. -/
theorem config_kept {sent : JsonObject} (stored : scan.config = some config)
    (canonical : Scans.Canonical kind config) (sentCanonical : Scans.Canonical scan.scanType sent) :
    Option.or (if Json.pyEq (.obj sent) (Scans.configJson scan.config) then none else some sent)
      scan.config = scan.config ↔ sent = config := by
  have json : Scans.configJson scan.config = .obj config := by rw [stored]; rfl
  rw [json, stored]
  constructor
  · intro same
    split at same
    next equal =>
      have keys := Scans.pyEq_keys (sentCanonical.keys ▸ Scans.configKeys_nodup _) equal
      rw [sentCanonical.keys, canonical.keys] at keys
      have type := Scans.configKeys_inj keys
      subst type
      exact sentCanonical.inj canonical equal canonical.pyEq
    next => exact Option.some.inj same
  · rintro rfl
    rw [if_pos canonical.pyEq]
    rfl

/-- The form of a scan gives it back, or the service refuses what it sends. -/
theorem scan_form_lossless_iff {table : Table ScanId Scan} {scanId : ScanId}
    {tenantId : Option TenantId} (found : Scans.getScan scanId tenantId table = some scan)
    (returned : Returned scan) (valid : validateScanForm (formFromScan scan) = []) :
    (patchScan scanId tenantId (toScanUpdateInput (formFromScan scan)) table).find scanId =
        some scan ↔
      ScanRefused table scanId scan ∨ ScanKept scan := by
  rw [validateScanForm, Errors.append_eq_nil, Errors.append_eq_nil, Errors.append_eq_nil,
    nameErrors_eq_nil, Errors.when_eq_nil, Errors.when_eq_nil, Errors.when_eq_nil] at valid
  obtain ⟨⟨⟨⟨-, short⟩, -⟩, checks⟩, paths⟩ := valid
  have checks : needsChecks scan.scanType = true → splitList (formFromScan scan).checks ≠ [] := by
    intro asked
    simpa [formFromScan, asked] using checks
  have paths : needsPaths scan.scanType = true → splitList (formFromScan scan).paths ≠ [] := by
    intro asked
    simpa [formFromScan, asked] using paths
  have named : strippedName (trim scan.name) =
      if Scans.stripWhitespace (trim scan.name) = "" then none
      else some (Scans.stripWhitespace (trim scan.name)) := strippedName_trim short
  by_cases blank : Scans.stripWhitespace (trim scan.name) = ""
  · refine iff_of_true (patchScan_refused found ?_) (.inl (.name blank))
    intro name other
    rw [if_pos blank] at named
    cases named.symm.trans other
  rw [if_neg blank] at named
  by_cases rooted : needsPaths scan.scanType = true →
      ∀ path ∈ splitList (formFromScan scan).paths, path.toList.head? = some '/'
  · by_cases taken : scan.status = .pending ∧ Scans.openNameTaken table scanId scan.tenantId
        scan.assetId (Scans.stripWhitespace (trim scan.name)) = true
    · refine iff_of_true (patchScan_refused found ?_) (.inl (.duplicate taken.1 taken.2))
      intro name other
      have same := Option.some.inj (named.symm.trans other)
      subst same
      exact .inr taken
    · have accepted : Scans.validateScanConfig (some (formFromScan scan).type)
          (.obj (configFor (formFromScan scan))) = .ok (configFor (formFromScan scan)) :=
        (configFor_accepted checks paths).mpr ⟨rfl, rooted⟩
      have sent := Scans.validateScanConfig_canonical accepted
      have admitted : ¬ ScanRefused table scanId scan := by
        rintro (gone | ⟨asked, member, cut, relative⟩ | ⟨pending, open_name⟩)
        · exact blank gone
        · have piece := (relative_paths returned relative).mpr ⟨_, member, cut⟩
          exact relative (rooted asked _ piece)
        · exact taken ⟨pending, open_name⟩
      have written := @patchScan_find scan table scanId tenantId
        (toScanUpdateInput (formFromScan scan)) _ _ found named accepted taken
      rw [or_iff_right admitted, written, Option.some_inj]
      constructor
      · intro same
        have name := congrArg Scan.name same
        have config := congrArg Scan.config same
        simp only at name config
        cases stored : scan.config with
        | none =>
          rw [stored] at config
          cases config
        | some fields =>
          obtain ⟨kind, canonical⟩ := returned fields stored
          have equal := (config_kept stored canonical sent).mp config
          obtain ⟨type, checks, paths⟩ := (configFor_iff stored canonical).mp equal
          exact ⟨fixed_iff.mp name, ⟨fields, stored, type ▸ canonical⟩, checks, paths⟩
      · intro kept
        obtain ⟨fields, stored, canonical⟩ := kept.config
        have equal := (configFor_iff stored canonical).mpr ⟨rfl, kept.checks, kept.paths⟩
        have config := (config_kept stored canonical sent).mpr equal
        have name := fixed_iff.mpr kept.name
        rw [name, config]
        rfl
  · refine iff_of_true (patchScan_refused found ?_) (.inl ?_)
    · intro name _
      refine .inl fun normalised accepted => ?_
      exact rooted ((configFor_accepted checks paths).mp accepted).2
    · push Not at rooted
      obtain ⟨asked, piece, cut, relative⟩ := rooted
      obtain ⟨path, member, within⟩ := (relative_paths returned relative).mp cut
      exact .paths asked member within relative

end

/-! Vulnerabilities. -/

/-- The scores that the schemas and the scanner admit. -/
def Scored (row : Vulnerability) : Prop :=
  ∀ tenths, row.cvssScore = some tenths → 0 ≤ tenths ∧ tenths ≤ 100

section

variable {row : Vulnerability} {now clock : Timestamp}

/-- The score that the form sends: the one it was built from. -/
theorem score_sent (scored : Scored row) :
    (toVulnerabilityUpdateInput (formFromVulnerability row)).cvssScore =
        row.cvssScore.map scoreOf ∧
      (∀ score ∈ row.cvssScore.map scoreOf, (score < 0 || 10 < score) = false) ∧
      (row.cvssScore.map scoreOf).map (Vulnerabilities.quantize ∘ Doubles.decimal) =
        row.cvssScore := by
  cases stored : row.cvssScore with
  | none =>
    refine ⟨?_, by simp, rfl⟩
    have blank : parseCvssScore "" = some none := by simp [parseCvssScore, trim, List.trim]
    simp [toVulnerabilityUpdateInput, formFromVulnerability, stored, blank]
  | some tenths =>
    obtain ⟨low, high⟩ := scored tenths stored
    have nat : ((tenths.toNat : Nat) : Int) = tenths := Int.toNat_of_nonneg low
    have member : tenths.toNat ∈ List.range 101 := by
      rw [List.mem_range]
      omega
    have kept := List.all_eq_true.mp scores_kept _ member
    rw [scoreKept, nat, Bool.and_eq_true, Bool.and_eq_true, Bool.not_eq_true', beq_iff_eq,
      beq_iff_eq] at kept
    obtain ⟨⟨parsed, within⟩, quantized⟩ := kept
    refine ⟨?_, ?_, ?_⟩
    · simp [toVulnerabilityUpdateInput, formFromVulnerability, stored, parsed]
    · intro score given
      cases given
      exact within
    · simpa using quantized

/-- A `PATCH` of the description and the score that quantizes to the stored one. -/
theorem edit_description {description : Option String} {score : Option ℚ}
    (quantized : score.map Vulnerabilities.quantize = row.cvssScore) :
    ((⟨none, some description, some score, none⟩ : VulnerabilityUpdate).edit now row clock).1 =
      if description = row.description then row
      else { row with description := description, updatedAt := clock } := by
  by_cases same : description = row.description
  · simp [VulnerabilityUpdate.edit, VulnerabilityUpdate.assignStatus,
      VulnerabilityUpdate.assignDescription, VulnerabilityUpdate.assignCvssScore,
      VulnerabilityUpdate.assignMetadata, same, quantized]
  · simp [VulnerabilityUpdate.edit, VulnerabilityUpdate.assignStatus,
      VulnerabilityUpdate.assignDescription, VulnerabilityUpdate.assignCvssScore,
      VulnerabilityUpdate.assignMetadata, same, quantized]

/-- The form of a vulnerability gives it back where its description is trimmed and not empty. -/
theorem vulnerability_form_lossless_iff (scored : Scored row) :
    patchVulnerability now clock (toVulnerabilityUpdateInput (formFromVulnerability row)) row =
      row ↔ TextKept row.description := by
  obtain ⟨sent, within, quantized⟩ := score_sent scored
  have description : (toVulnerabilityUpdateInput (formFromVulnerability row)).description =
      textOrNull (row.description.getD "") := by
    rw [toVulnerabilityUpdateInput, formFromVulnerability]
  have admitted : (row.cvssScore.map scoreOf).any (fun score => score < 0 || 10 < score) =
      false := by
    cases stored : row.cvssScore with
    | none => rfl
    | some tenths =>
      rw [stored, Option.map_some] at within
      rw [Option.map_some, Option.any_some]
      exact within (scoreOf tenths) (Option.mem_some_self _)
  have back : ((row.cvssScore.map scoreOf).map Doubles.decimal).map Vulnerabilities.quantize =
      row.cvssScore := by rw [Option.map_map, quantized]
  rw [patchVulnerability, sent, description, admitted, if_neg Bool.false_ne_true,
    edit_description back, ← textOrNull_iff]
  generalize textOrNull (row.description.getD "") = kept
  by_cases same : kept = row.description
  · rw [if_pos same]
    exact iff_of_true rfl same
  · rw [if_neg same]
    refine iff_of_false ?_ same
    intro equal
    exact same (congrArg Vulnerability.description equal)

/-- `Decimal(str(score))` from 0 to 10 comes to 0 to 100 tenths. -/
theorem quantize_range {score : ℚ} (low : 0 ≤ score) (high : score ≤ 10) :
    0 ≤ Vulnerabilities.quantize score ∧ Vulnerabilities.quantize score ≤ 100 := by
  constructor
  · exact Int.floor_nonneg.mpr (by linarith)
  · have below : Vulnerabilities.quantize score < 101 := Int.floor_lt.mpr (by push_cast; linarith)
    omega

/-- An update whose score the schema admits keeps the scores of its row. -/
theorem Scored.edit {data : VulnerabilityUpdate} (scored : Scored row)
    (admitted : ∀ score, data.cvssScore = some (some score) → 0 ≤ score ∧ score ≤ 10) :
    Scored (data.edit now row clock).1 := by
  have status (before : Vulnerability) :
      (data.assignStatus now before).1.cvssScore = before.cvssScore := by
    unfold VulnerabilityUpdate.assignStatus
    split
    next => rfl
    next => split <;> rfl
  have description (before : Vulnerability) :
      (data.assignDescription before).1.cvssScore = before.cvssScore := by
    unfold VulnerabilityUpdate.assignDescription
    split
    next => rfl
    next => split <;> rfl
  have metadata (before : Vulnerability) :
      (data.assignMetadata before).1.cvssScore = before.cvssScore := by
    unfold VulnerabilityUpdate.assignMetadata
    split
    next => rfl
    next => split <;> rfl
  have written : (data.edit now row clock).1.cvssScore = (data.assignMetadata (data.assignCvssScore
      (data.assignDescription (data.assignStatus now row).1).1).1).1.cvssScore := by
    simp only [VulnerabilityUpdate.edit]
    split <;> rfl
  rw [metadata] at written
  intro tenths stored
  rw [written, VulnerabilityUpdate.assignCvssScore] at stored
  cases given : data.cvssScore with
  | none =>
    rw [given] at stored
    simp only [description, status] at stored
    exact scored tenths stored
  | some score =>
    rw [given] at stored
    simp only at stored
    split at stored
    next => exact scored tenths (by rwa [description, status] at stored)
    next =>
      obtain ⟨value, rfl, rfl⟩ := Option.map_eq_some_iff.mp stored
      obtain ⟨low, high⟩ := admitted value given
      exact quantize_range low high

end

/-! Reports. -/

section

variable {row : Report} {clock : Timestamp}

/-- A `PATCH` of the name, the status that is stored and the summary. -/
theorem edit_report {name : String} {summary : Option String} :
    ((⟨some name, some row.status, some summary, none, none⟩ : ReportUpdate).edit row clock).1 =
      if name = row.name ∧ summary = row.summary then row
      else { row with name := name, summary := summary, updatedAt := clock } := by
  by_cases same : name = row.name
  · by_cases same' : summary = row.summary
    · simp [ReportUpdate.edit, ReportUpdate.assignFields, Reports.assign, same, same']
    · simp [ReportUpdate.edit, ReportUpdate.assignFields, Reports.assign, same, same']
  · by_cases same' : summary = row.summary
    · simp [ReportUpdate.edit, ReportUpdate.assignFields, Reports.assign, same, same']
    · simp [ReportUpdate.edit, ReportUpdate.assignFields, Reports.assign, same, same']

/-- The form of a report gives it back, or the schema refuses its name. -/
theorem report_form_lossless_iff (valid : validateReportForm (formFromReport row) = []) :
    patchReport clock (toReportUpdateInput (formFromReport row)) row = row ↔
      Scans.stripWhitespace (trim row.name) = "" ∨ Fixed row.name ∧ TextKept row.summary := by
  rw [validateReportForm, Errors.append_eq_nil, nameErrors_eq_nil] at valid
  have named : strippedName (trim row.name) =
      if Scans.stripWhitespace (trim row.name) = "" then none
      else some (Scans.stripWhitespace (trim row.name)) := strippedName_trim valid.1.2
  have input : toReportUpdateInput (formFromReport row) =
      ⟨trim row.name, row.status, textOrNull (row.summary.getD "")⟩ := rfl
  rw [patchReport, input]
  simp only [named]
  by_cases blank : Scans.stripWhitespace (trim row.name) = ""
  · rw [if_pos blank]
    exact iff_of_true rfl (.inl blank)
  · rw [if_neg blank, or_iff_right blank, ← fixed_iff, ← textOrNull_iff]
    simp only [edit_report]
    by_cases same : Scans.stripWhitespace (trim row.name) = row.name ∧
        textOrNull (row.summary.getD "") = row.summary
    · rw [if_pos same]
      exact iff_of_true rfl same
    · rw [if_neg same]
      refine iff_of_false ?_ same
      intro equal
      have name := congrArg Report.name equal
      have summary := congrArg Report.summary equal
      simp only at name summary
      exact same ⟨name, summary⟩

end

/-- Every stored scan is one that `Returned` admits, however its requests overlap. -/
theorem stored_returned
    {world : ReadCommitted.World ScanId Scan Scans.ScanEdit Scans.UpdateCall}
    (reached : Scans.requests.machine.Reachable world) :
    ∀ scanId scan, world.committed.find scanId = some scan → Returned scan := by
  have fitting : Scans.requests.machine.ReachableBy
      (ReadCommitted.Fitting fun _ _ _ => True) world := by
    apply reached.mono
    intro state label _
    cases label with
    | flush task =>
      rw [ReadCommitted.Fitting]
      split <;> simp
    | _ => trivial
  apply ReadCommitted.stored_valid Returned _ _ fitting
  · intro call _ rows created entry member
    change call.rows = some rows at created
    rw [Scans.CreateCall.rows] at created
    split at created
    next => cases created
    next normalised accepted =>
      split at created
      next =>
        cases created
        rw [List.mem_singleton] at member
        subst member
        intro config stored
        cases stored
        exact ⟨_, Scans.validateScanConfig_canonical accepted⟩
      next => cases created
  · intro call before columns current _ returned given _
    obtain ⟨kind, normalised, -, canonical, rfl⟩ := Scans.UpdateCall.columns_some given
    intro config stored
    change Option.or (if _ then none else some normalised) current.config = some config at stored
    split at stored
    next => exact returned config stored
    next =>
      cases stored
      exact ⟨kind, canonical⟩

/-- The edit forms give back what they were built from, or the server refuses what they send. -/
theorem edit_forms_lossless_iff {clock : Timestamp} :
    (∀ {table : Table ScanId Scan} {scanId : ScanId} {tenantId : Option TenantId} {scan : Scan},
      Scans.getScan scanId tenantId table = some scan → Returned scan →
      validateScanForm (formFromScan scan) = [] →
      ((patchScan scanId tenantId (toScanUpdateInput (formFromScan scan)) table).find scanId =
          some scan ↔ ScanRefused table scanId scan ∨ ScanKept scan)) ∧
    (∀ {row : Vulnerability} {now : Timestamp}, Scored row →
      validateVulnerabilityForm (formFromVulnerability row) = [] →
      (patchVulnerability now clock (toVulnerabilityUpdateInput (formFromVulnerability row)) row =
        row ↔ TextKept row.description)) ∧
    ∀ {row : Report}, validateReportForm (formFromReport row) = [] →
      (patchReport clock (toReportUpdateInput (formFromReport row)) row = row ↔
        Scans.stripWhitespace (trim row.name) = "" ∨ Fixed row.name ∧ TextKept row.summary) := by
  refine ⟨?_, ?_, ?_⟩
  · intro table scanId tenantId scan found returned valid
    exact scan_form_lossless_iff found returned valid
  · intro row now scored _
    exact @vulnerability_form_lossless_iff row now clock scored
  · intro row valid
    exact @report_form_lossless_iff row clock valid

def webScan (paths : List String) : Scan where
  tenantId := 1
  assetId := 10
  name := "weekly"
  scanType := .web
  status := .completed
  config := some [("paths", textArray paths)]
  dispatchedAt := none
  startedAt := none
  completedAt := none
  failureReason := none
  rawOutput := none

theorem webScan_returned {paths : List String}
    (accepted : Scans.pathsRule.accepts (textArray paths) = true) : Returned (webScan paths) := by
  intro config stored
  cases stored
  exact ⟨.web, .web accepted⟩

/-- A scan of two paths comes back. -/
theorem edit_forms_lossless_web :
    (patchScan 7 (some 1) (toScanUpdateInput (formFromScan (webScan ["/", "/login"])))
      (Table.empty.insert 7 (webScan ["/", "/login"]))).find 7 = some (webScan ["/", "/login"]) := by
  refine ((@edit_forms_lossless_iff 0).1 rfl (webScan_returned rfl) (by decide +kernel)).mpr (.inr ?_)
  refine ⟨⟨by decide +kernel, by decide +kernel⟩, ⟨_, rfl, .web rfl⟩, nofun, fun _ => ?_⟩
  exact ⟨by decide +kernel, by decide +kernel⟩

/-- A path with a comma comes back as two. -/
theorem comma_splits_path :
    Returned (webScan ["/a,/b"]) ∧ validateScanForm (formFromScan (webScan ["/a,/b"])) = [] ∧
      splitList (formFromScan (webScan ["/a,/b"])).paths = ["/a", "/b"] ∧
      (patchScan 7 (some 1) (toScanUpdateInput (formFromScan (webScan ["/a,/b"])))
        (Table.empty.insert 7 (webScan ["/a,/b"]))).find 7 ≠ some (webScan ["/a,/b"]) := by
  have returned : Returned (webScan ["/a,/b"]) := webScan_returned rfl
  have valid : validateScanForm (formFromScan (webScan ["/a,/b"])) = [] := by decide +kernel
  refine ⟨returned, valid, by decide +kernel, ?_⟩
  intro same
  rcases (scan_form_lossless_iff rfl returned valid).mp same with refused | kept
  · cases refused with
    | name blank => exact absurd blank (by decide +kernel)
    | @paths path piece _ member cut relative =>
      have rooted : ∀ path ∈ textsOf (webScan ["/a,/b"]) "paths", ∀ piece ∈ splitList path,
          piece.toList.head? = some '/' := by decide +kernel
      exact relative (rooted path member piece cut)
    | duplicate pending _ => cases pending
  · have whole := (kept.paths rfl).whole "/a,/b" (by decide +kernel)
    exact whole.2.1 (by decide +kernel)

end Forms

end Frontend
