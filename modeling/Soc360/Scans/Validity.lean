import Soc360.Scans.Service
import Soc360.Store.ReadCommitted

set_option autoImplicit false

namespace Scans

open ReadCommitted (Fitting Service)

/-- `_validate_scan_config(scan_type, config) == config`. -/
def Scan.configValid (scan : Scan) : Bool :=
  match validateScanConfig (some scan.scanType) (configJson scan.config) with
  | .ok normalised => Json.pyEq (.obj normalised) (configJson scan.config)
  | .error _ => false

/-- A call of `create_scan`: `scanId` is the new `uuid4`, `assetExists` what the foreign key
finds. -/
structure CreateCall where
  scanId : ScanId
  tenantId : TenantId
  assetExists : Bool
  data : ScanCreate

def CreateCall.rows (call : CreateCall) : Option (List (ScanId × Scan)) :=
  match validateScanConfig (some call.data.type) (.obj call.data.config) with
  | .error _ => none
  | .ok normalised =>
      if call.assetExists then some [(call.scanId, call.data.row call.tenantId normalised)] else none

/-- A call of `update_scan` on the row of its scan. -/
structure UpdateCall where
  tenantId : Option TenantId
  data : ScanUpdate

/-- The columns of the UPDATE. A null name fails in the flush. -/
def UpdateCall.columns (call : UpdateCall) (scan : Scan) : Option ScanEdit :=
  if call.tenantId.all (scan.tenantId == ·) then
    let candidate := call.data.candidate scan
    match validateScanConfig candidate.type (configJson candidate.config), candidate.name with
    | .ok normalised, some _ => some (candidate.edit normalised scan)
    | _, _ => none
  else none

/-- `create_scan` and `update_scan`. -/
def requests : Service ScanId Scan ScanEdit CreateCall UpdateCall where
  create call _ := call.rows
  edit := UpdateCall.columns
  write columns := (ScanChange.edit columns).values
  admits table scanId scan :=
    !(scan.status == .pending && openNameTaken table scanId scan.tenantId scan.assetId scan.name)

/-- An UPDATE that writes the config alone finds the type that its transaction read. -/
def ScanEdit.Fits (before : Scan) (columns : ScanEdit) (current : Scan) : Prop :=
  columns.config.isSome = true → columns.scanType = none → current.scanType = before.scanType

instance (before : Scan) (columns : ScanEdit) (current : Scan) :
    Decidable (columns.Fits before current) :=
  inferInstanceAs (Decidable (_ → _ → _))

section

variable {kind other : ScanType} {config : Json} {fields others normalised : JsonObject}

theorem Json.isBool_pyEq {value : Json} (accepted : value.isBool = true) :
    value.pyEq value = true := by
  cases value with
  | bool value => simp [Json.pyEq, Json.number?]
  | null => cases accepted
  | int value => cases accepted
  | float value => cases accepted
  | str value => cases accepted
  | arr items => cases accepted
  | obj fields => cases accepted

theorem Json.isListOf_pyEq {accepts : String → Bool} {value : Json}
    (accepted : value.isListOf accepts = true) : value.pyEq value = true := by
  cases value with
  | arr items =>
      have strings := ((Bool.and_eq_true _ _).mp accepted).2
      rw [Json.pyEq]
      clear accepted
      induction items with
      | nil => rfl
      | cons item rest ih =>
          rw [List.all_cons, Bool.and_eq_true] at strings
          rw [Json.pyEqItems, ih strings.2, Bool.and_true]
          cases item with
          | str text => simp [Json.pyEq]
          | null => cases strings.1
          | bool value => cases strings.1
          | int value => cases strings.1
          | float value => cases strings.1
          | arr items => cases strings.1
          | obj fields => cases strings.1
  | null => cases accepted
  | bool value => cases accepted
  | int value => cases accepted
  | float value => cases accepted
  | str value => cases accepted
  | obj fields => cases accepted

/-- What the validator returns for each type. -/
inductive Canonical : ScanType → JsonObject → Prop
  | discovery {host : Json} (hostAccepted : hostDiscoveryRule.accepts host = true) :
      Canonical .discovery [("host_discovery", host)]
  | vulnerability {checks : Json} (checksAccepted : checksRule.accepts checks = true) :
      Canonical .vulnerability [("checks", checks)]
  | web {paths : Json} (pathsAccepted : pathsRule.accepts paths = true) :
      Canonical .web [("paths", paths)]
  | full {host checks paths : Json} (hostAccepted : hostDiscoveryRule.accepts host = true)
      (checksAccepted : checksRule.accepts checks = true)
      (pathsAccepted : pathsRule.accepts paths = true) :
      Canonical .full [("host_discovery", host), ("checks", checks), ("paths", paths)]

theorem configField_asked (rule : ConfigRule) (asked : rule.key ∈ configKeys kind)
    (accepted : configField rule kind fields normalised = .ok others) :
    ∃ value, fields.lookup rule.key = some value ∧ rule.accepts value = true ∧
      others = normalised ++ [(rule.key, value)] := by
  rcases configField_ok accepted with ⟨absent, _⟩ | ⟨value, _, found, valid, written⟩
  · exact absurd asked absent
  · exact ⟨value, found, valid, written⟩

theorem configField_unasked (rule : ConfigRule) (unasked : rule.key ∉ configKeys kind)
    (accepted : configField rule kind fields normalised = .ok others) : others = normalised := by
  rcases configField_ok accepted with ⟨_, same⟩ | ⟨_, asked, _⟩
  · exact same
  · exact absurd asked unasked

theorem validateScanConfig_canonical
    (accepted : validateScanConfig (some kind) config = .ok normalised) :
    Canonical kind normalised := by
  cases config with
  | obj fields =>
      simp only [validateScanConfig] at accepted
      split at accepted
      next => cases accepted
      next =>
        obtain ⟨first, host, accepted⟩ := Except.bind_eq_ok.mp accepted
        obtain ⟨second, checks, paths⟩ := Except.bind_eq_ok.mp accepted
        cases kind with
        | discovery =>
            obtain ⟨value, _, valid, rfl⟩ := configField_asked hostDiscoveryRule (by decide) host
            cases configField_unasked checksRule (by decide) checks
            cases configField_unasked pathsRule (by decide) paths
            exact .discovery valid
        | vulnerability =>
            cases configField_unasked hostDiscoveryRule (by decide) host
            obtain ⟨value, _, valid, rfl⟩ := configField_asked checksRule (by decide) checks
            cases configField_unasked pathsRule (by decide) paths
            exact .vulnerability valid
        | web =>
            cases configField_unasked hostDiscoveryRule (by decide) host
            cases configField_unasked checksRule (by decide) checks
            obtain ⟨value, _, valid, rfl⟩ := configField_asked pathsRule (by decide) paths
            exact .web valid
        | full =>
            obtain ⟨value, _, valid, rfl⟩ := configField_asked hostDiscoveryRule (by decide) host
            obtain ⟨value', _, valid', rfl⟩ := configField_asked checksRule (by decide) checks
            obtain ⟨value'', _, valid'', rfl⟩ := configField_asked pathsRule (by decide) paths
            exact .full valid valid' valid''
  | null => cases accepted
  | bool value => cases accepted
  | int value => cases accepted
  | float value => cases accepted
  | str value => cases accepted
  | arr items => cases accepted

theorem configField_given (rule : ConfigRule) {value : Json}
    (asked : rule.key ∈ configKeys kind) (found : fields.lookup rule.key = some value)
    (valid : rule.accepts value = true) :
    configField rule kind fields normalised = .ok (normalised ++ [(rule.key, value)]) := by
  rw [configField, if_pos asked, found]
  simp only [valid, ↓reduceIte]

theorem configField_skipped (rule : ConfigRule) (unasked : rule.key ∉ configKeys kind) :
    configField rule kind fields normalised = .ok normalised := by
  rw [configField, if_neg unasked]

/-- Keys in the public order are allowed. -/
theorem validateScanConfig_fields (keys : fields.map Prod.fst = configKeys kind) :
    validateScanConfig (some kind) (.obj fields) = (do
      let normalised ← configField hostDiscoveryRule kind fields []
      let normalised ← configField checksRule kind fields normalised
      configField pathsRule kind fields normalised) := by
  have allowed : ((fields.map Prod.fst).insertionSort (· ≤ ·)).find?
      (fun key => decide (key ∉ configKeys kind)) = none := by
    rw [List.find?_eq_none]
    intro key member
    rw [List.mem_insertionSort, keys] at member
    simp [member]
  rw [validateScanConfig]
  simp only [allowed]

theorem Canonical.keys (canonical : Canonical kind normalised) :
    normalised.map Prod.fst = configKeys kind := by
  cases canonical <;> rfl

/-- The validator accepts what it returns, and returns it. -/
theorem Canonical.validate (canonical : Canonical kind normalised) :
    validateScanConfig (some kind) (.obj normalised) = .ok normalised := by
  rw [validateScanConfig_fields canonical.keys]
  cases canonical with
  | discovery host =>
      rw [Except.bind_of_ok (configField_given hostDiscoveryRule (by decide) rfl host),
        Except.bind_of_ok (configField_skipped checksRule (by decide))]
      exact configField_skipped pathsRule (by decide)
  | vulnerability checks =>
      rw [Except.bind_of_ok (configField_skipped hostDiscoveryRule (by decide)),
        Except.bind_of_ok (configField_given checksRule (by decide) rfl checks)]
      exact configField_skipped pathsRule (by decide)
  | web paths =>
      rw [Except.bind_of_ok (configField_skipped hostDiscoveryRule (by decide)),
        Except.bind_of_ok (configField_skipped checksRule (by decide))]
      exact configField_given pathsRule (by decide) rfl paths
  | full host checks paths =>
      rw [Except.bind_of_ok (configField_given hostDiscoveryRule (by decide) rfl host),
        Except.bind_of_ok (configField_given checksRule (by decide) rfl checks)]
      exact configField_given pathsRule (by decide) rfl paths

theorem Canonical.pyEq (canonical : Canonical kind normalised) :
    Json.pyEq (.obj normalised) (.obj normalised) = true := by
  cases canonical with
  | discovery host => simp [Json.pyEq, Json.pyEqFields, Json.isBool_pyEq host]
  | vulnerability checks => simp [Json.pyEq, Json.pyEqFields, Json.isListOf_pyEq checks]
  | web paths => simp [Json.pyEq, Json.pyEqFields, Json.isListOf_pyEq paths]
  | full host checks paths =>
      simp [Json.pyEq, Json.pyEqFields, List.lookup_cons, Json.isBool_pyEq host,
        Json.isListOf_pyEq checks, Json.isListOf_pyEq paths]

theorem pyEqFields_keys (equal : Json.pyEqFields fields others = true) :
    fields.map Prod.fst ⊆ others.map Prod.fst := by
  induction fields with
  | nil => exact List.nil_subset _
  | cons field rest ih =>
      obtain ⟨key, value⟩ := field
      rw [Json.pyEqFields, Bool.and_eq_true] at equal
      have present : key ∈ others.map Prod.fst := by
        cases found : others.lookup key with
        | none =>
            rw [found] at equal
            cases equal.1
        | some value' =>
            obtain ⟨before, after, shape, _⟩ := List.lookup_eq_some_iff.mp found
            simp [shape]
      exact List.cons_subset.mpr ⟨present, ih equal.2⟩

/-- Equal objects have the same keys. -/
theorem pyEq_keys (distinct : (fields.map Prod.fst).Nodup)
    (equal : Json.pyEq (.obj fields) (.obj others) = true) :
    (fields.map Prod.fst).Perm (others.map Prod.fst) := by
  rw [Json.pyEq, Bool.and_eq_true, beq_iff_eq] at equal
  have inside := distinct.subperm (pyEqFields_keys equal.2)
  apply inside.perm_of_length_le
  simp only [List.length_map]
  omega

theorem configKeys_nodup (kind : ScanType) : (configKeys kind).Nodup := by
  cases kind <;> decide

theorem configKeys_inj (same : (configKeys kind).Perm (configKeys other)) : kind = other := by
  revert same
  cases kind <;> cases other <;> decide

end

section

variable {scan before current : Scan} {call : UpdateCall} {columns : ScanEdit}
  {kind : ScanType} {normalised : JsonObject}

theorem configValid_iff : scan.configValid = true ↔
    ∃ normalised, validateScanConfig (some scan.scanType) (configJson scan.config) =
      .ok normalised ∧ Json.pyEq (.obj normalised) (configJson scan.config) = true := by
  rw [Scan.configValid]
  cases validateScanConfig (some scan.scanType) (configJson scan.config) with
  | error message => simp
  | ok normalised => simp

theorem Canonical.configValid (canonical : Canonical kind normalised)
    (type : scan.scanType = kind) (config : scan.config = some normalised) :
    scan.configValid = true := by
  refine configValid_iff.mpr ⟨normalised, ?_, ?_⟩
  · rw [type, config]
    exact canonical.validate
  · rw [config]
    exact canonical.pyEq

/-- A stored config names the type that it is valid for. -/
theorem configValid_type (valid : scan.configValid = true) (canonical : Canonical kind normalised)
    (equal : Json.pyEq (.obj normalised) (configJson scan.config) = true) :
    kind = scan.scanType := by
  obtain ⟨stored, accepted, equal'⟩ := configValid_iff.mp valid
  have canonical' := validateScanConfig_canonical accepted
  cases config : scan.config with
  | none =>
      rw [config] at equal
      cases equal
  | some fields =>
      rw [config] at equal equal'
      have keys := pyEq_keys (canonical.keys ▸ configKeys_nodup kind) equal
      have keys' := pyEq_keys (canonical'.keys ▸ configKeys_nodup _) equal'
      rw [canonical.keys] at keys
      rw [canonical'.keys] at keys'
      exact configKeys_inj (keys.trans keys'.symm)

theorem CreateCall.rows_valid {call : CreateCall} {rows : List (ScanId × Scan)}
    (created : call.rows = some rows) : ∀ entry ∈ rows, entry.2.configValid = true := by
  unfold CreateCall.rows at created
  split at created
  next => cases created
  next normalised accepted =>
    split at created
    next =>
      cases created
      intro entry member
      rw [List.mem_singleton.mp member]
      exact (validateScanConfig_canonical accepted).configValid rfl rfl
    next => cases created

theorem UpdateCall.columns_some (given : call.columns before = some columns) :
    ∃ kind normalised, (call.data.candidate before).type = some kind ∧
      Canonical kind normalised ∧ columns = (call.data.candidate before).edit normalised before := by
  unfold UpdateCall.columns at given
  split at given
  next =>
    simp only at given
    split at given
    next normalised _ accepted _ =>
      cases given
      obtain ⟨kind, type, _⟩ := validateScanConfig_keys accepted
      rw [type] at accepted
      exact ⟨kind, normalised, type, validateScanConfig_canonical accepted, rfl⟩
    next => cases given
  next => cases given

/-- An UPDATE leaves a valid config, unless it writes one for a type that the scan has lost. -/
theorem write_configValid (read : before.configValid = true) (stored : current.configValid = true)
    (given : call.columns before = some columns) :
    ((ScanChange.edit columns).values current).configValid = true ↔
      columns.Fits before current := by
  obtain ⟨kind, normalised, type, canonical, rfl⟩ := UpdateCall.columns_some given
  by_cases kept : Json.pyEq (.obj normalised) (configJson before.config) = true
  · -- a config that stays is that of a type that stays
    have same := configValid_type read canonical kept
    have type' : ((call.data.candidate before).edit normalised before).scanType = none := by
      rw [Candidate.edit, type, same]
      exact if_pos rfl
    have config' : ((call.data.candidate before).edit normalised before).config = none :=
      if_pos kept
    constructor
    · intro _ written
      rw [config'] at written
      cases written
    · intro _
      simp only [Scan.configValid, ScanChange.values, type', config', Option.getD_none,
        Option.none_or]
      exact stored
  · have written : ((call.data.candidate before).edit normalised before).config =
        some normalised := if_neg kept
    have config' : ((ScanChange.edit ((call.data.candidate before).edit normalised before)).values
        current).config = some normalised := by
      simp only [ScanChange.values, written, Option.some_or]
    have valid_iff : ((ScanChange.edit ((call.data.candidate before).edit normalised
        before)).values current).configValid = true ↔
          ((ScanChange.edit ((call.data.candidate before).edit normalised before)).values
            current).scanType = kind := by
      constructor
      · intro valid
        apply Eq.symm
        apply configValid_type valid canonical
        rw [config']
        exact canonical.pyEq
      · intro type'
        exact canonical.configValid type' config'
    rw [valid_iff]
    by_cases same : kind = before.scanType
    · have unwritten : ((call.data.candidate before).edit normalised before).scanType = none := by
        rw [Candidate.edit, type, same]
        exact if_pos rfl
      simp [ScanEdit.Fits, ScanChange.values, written, unwritten, same]
    · have moved : ((call.data.candidate before).edit normalised before).scanType = some kind := by
        rw [Candidate.edit, type]
        exact if_neg fun equal => same (Option.some.inj equal)
      simp [ScanEdit.Fits, ScanChange.values, moved]

/-- Stored scans have a valid configuration, in every run in which an UPDATE of the config alone
finds the type that its transaction read. -/
theorem stored_configs_valid {world : ReadCommitted.World ScanId Scan ScanEdit UpdateCall}
    (reached : requests.machine.ReachableBy (Fitting fun before columns current =>
      columns.Fits before current) world) :
    ∀ scanId scan, world.committed.find scanId = some scan → scan.configValid = true := by
  apply ReadCommitted.stored_valid (fun scan => scan.configValid = true) _ _ reached
  · intro call _ rows created
    exact CreateCall.rows_valid created
  · intro call before columns current read stored given fits
    exact (write_configValid read stored given).mpr fits

def weekly : CreateCall :=
  ⟨7, 1, true, ⟨10, "weekly", .discovery, [("host_discovery", .bool true)]⟩⟩

/-- One request turns the scan into a web scan, another switches host discovery off. -/
def toWeb : UpdateCall :=
  ⟨some 1, ⟨none, some (some .web), some (some [("paths", .arr [.str "/"])])⟩⟩

def quiet : UpdateCall := ⟨some 1, ⟨none, none, some (some [("host_discovery", .bool false)])⟩⟩

/-- Both read the scan before either writes it. -/
def overlapping : List (ReadCommitted.Label ScanId CreateCall UpdateCall) :=
  [.create 0 weekly, .flush 0, .commit 0, .read 1 7 toWeb, .read 2 7 quiet, .validate 1,
    .validate 2, .flush 1, .commit 1, .flush 2, .commit 2]

theorem overlapping_config_invalid :
    ∃ world scan, requests.machine.Reachable world ∧ world.committed.find 7 = some scan ∧
      scan.configValid = false := by
  have run : ∃ world scan, requests.machine.exec .empty overlapping = some world ∧
      world.committed.find 7 = some scan ∧ scan.configValid = false :=
    ⟨_, _, rfl, rfl, rfl⟩
  obtain ⟨world, scan, run, found, invalid⟩ := run
  exact ⟨world, scan, Machine.Reachable.exec (.start rfl) run, found, invalid⟩

/-- The other order is harmless. -/
theorem stored_configs_valid_reversed :
    ∃ world scan, requests.machine.exec .empty
        [.create 0 weekly, .flush 0, .commit 0, .read 1 7 toWeb, .read 2 7 quiet, .validate 1,
          .validate 2, .flush 2, .commit 2, .flush 1, .commit 1] = some world ∧
      world.committed.find 7 = some scan ∧ scan.scanType = .web ∧
      ∀ scanId scan, world.committed.find scanId = some scan → scan.configValid = true := by
  have run : ∃ world scan, requests.machine.exec .empty
      [.create 0 weekly, .flush 0, .commit 0, .read 1 7 toWeb, .read 2 7 quiet, .validate 1,
        .validate 2, .flush 2, .commit 2, .flush 1, .commit 1] = some world ∧
      world.committed.find 7 = some scan ∧ scan.scanType = .web := ⟨_, _, rfl, rfl, rfl⟩
  obtain ⟨world, scan, run, found, type⟩ := run
  have fitting : requests.machine.Allows (Fitting fun before columns current =>
      ScanEdit.Fits before columns current) .empty
      [.create 0 weekly, .flush 0, .commit 0, .read 1 7 toWeb, .read 2 7 quiet, .validate 1,
        .validate 2, .flush 2, .commit 2, .flush 1, .commit 1] := by
    decide +kernel
  exact ⟨world, scan, run, found, type,
    stored_configs_valid (Machine.ReachableBy.exec (.start rfl) fitting run)⟩

end

end Scans
