import Soc360.Payloads.Tenants
import Soc360.Payloads.Users

set_option autoImplicit false

/-! Which bodies that a schema accepts end in an error that no handler knows. -/

namespace Payloads

open Assets (Asset AssetType AssetUpdate ServiceError validateAssetValue valueTaken)
open Reports (ReportUpdate)
open Scans (AssetId Json Scan ScanId ScanUpdate configJson validateScanConfig)
open Vulnerabilities (VulnerabilityUpdate)

/-! Scans. -/

/-- Where a PATCH of a scan does not crash: its type and its config are refused, or its name is not
null, its config is JSON and its texts are free of NUL. -/
def ScanSound (scan : Scan) (data : ScanUpdate LoadedObject) : Prop :=
  match jsonScan? data with
  | none => acceptsGiven data scan = false
  | some data => ∀ normalised, validateScanConfig (data.candidate scan).type
      (configJson (data.candidate scan).config) = .ok normalised →
    data.name ≠ some none ∧ data.name.join.any (!·.storable) = false ∧
      (data.config.isSome = true → (Json.obj normalised).storable = true)

section

variable {state : State} {scanId : ScanId} {tenantId : Option TenantId} {scan : Scan}
  {data : ScanUpdate}

/-- The service on its own: a null name reaches the flush with every config that is valid. -/
theorem scan_handled_iff (found : Scans.getScan scanId tenantId state.scans = some scan) :
    (Scans.updateScan scanId tenantId data (Session.start state.scans)).1.RaisesOnly
        (fun error => (ofScans error).Handled) ↔
      ∀ normalised, validateScanConfig (data.candidate scan).type
        (configJson (data.candidate scan).config) = .ok normalised → data.name ≠ some none := by
  have start : Scans.getScan scanId tenantId (Session.start state.scans).working = some scan :=
    found
  simp only [Scans.updateScan, start]
  cases validated : validateScanConfig (data.candidate scan).type
      (configJson (data.candidate scan).config) with
  | error message =>
      refine iff_of_true (Except.raisesOnly_error.mpr ⟨by decide, by decide⟩) ?_
      rintro normalised ⟨⟩
  | ok normalised =>
      have only : (∀ normalised' : Scans.JsonObject,
          (Except.ok normalised : Except Scans.ScanConfigError Scans.JsonObject) =
            .ok normalised' → data.name ≠ some none) ↔ data.name ≠ some none := by
        constructor
        · exact fun each => each normalised rfl
        · exact fun named _ _ => named
      rw [only]
      cases named : (data.candidate scan).name with
      | none =>
          refine iff_of_false (fun safe => Except.raisesOnly_error.mp safe) ?_
          rw [not_not]
          exact (Option.getD_eq_iff.mp named).resolve_right (by simp)
      | some name =>
          refine iff_of_true ?_ ?_
          · simp only
            split
            next => exact Except.raisesOnly_error.mpr ⟨by decide, by decide⟩
            next => exact Except.raisesOnly_ok
          · intro null
            rw [Scans.ScanUpdate.candidate, null] at named
            cases named

theorem writesNul_iff : writesNul data scan = false ↔
    ∀ normalised, validateScanConfig (data.candidate scan).type
      (configJson (data.candidate scan).config) = .ok normalised →
      data.name.join.any (!·.storable) = false ∧
        (data.config.isSome = true → (Json.obj normalised).storable = true) := by
  rw [writesNul]
  cases validateScanConfig (data.candidate scan).type
      (configJson (data.candidate scan).config) with
  | error message => simp
  | ok normalised => simp

/-- A PATCH of a scan that its schema accepts. -/
theorem updateScan_raisesOnly_iff {body data : ScanUpdate LoadedObject}
    (valid : validateScan body = .ok data)
    (found : Scans.getScan scanId tenantId state.scans = some scan) :
    (updateScan state scanId tenantId body).RaisesOnly Failure.Handled ↔
      ScanSound scan data := by
  unfold updateScan ScanSound
  rw [valid, Except.ok_bind, found]
  dsimp only
  cases jsonScan? data with
  | none =>
      dsimp only
      cases acceptsGiven data scan with
      | true => exact iff_of_false (fun safe => Except.raisesOnly_error.mp safe) Bool.noConfusion
      | false => exact iff_of_true (Except.raisesOnly_error.mpr ⟨by decide, by decide⟩) rfl
  | some data =>
      dsimp only
      rw [Except.raisesOnly_refuse_bind id, Except.raisesOnly_mapError, scan_handled_iff found,
        writesNul_iff, ← forall_and]
      refine forall_congr' fun normalised => ?_
      rw [← imp_and]
      tauto

end

/-! Assets. -/

/-- Where a PATCH of an asset does not crash: a null value meets a type whose validator refuses
it, and what the validator makes of the value fits its column. -/
def AssetSound (texts : Assets.Texts) (asset : Asset) (data : AssetUpdate) : Prop :=
  ¬ (data.value = some none ∧
      data.newType asset ∈ [some .hostname, some .domain, some .cloudResource]) ∧
    ∀ value canonical, data.newValue texts asset = .ok value →
      validateAssetValue texts (data.newType asset) (some value) = .ok canonical →
      canonical.length ≤ 255 ∧ (data.value.isSome = true → canonical.storable = true)

section

variable {texts : Assets.Texts} {type : Option AssetType} {value : Option String}
  {asset : Asset} {data : AssetUpdate}

theorem validateText_internal {message : String} {normalise : String → String}
    {accepts : String → Bool} :
    Assets.validateText message normalise accepts value = .error .internal ↔ value = none := by
  cases value with
  | none => simp [Assets.validateText]
  | some text =>
      rw [Assets.validateText]
      split
      next => simp
      next => simp

theorem validateParsed_internal {message : String} {parse : String → Option String} :
    Assets.validateParsed message parse value ≠ .error .internal := by
  rw [Assets.validateParsed]
  split
  next => simp
  next => simp

/-- Three of the validators call a method of the value. -/
theorem validateAssetValue_internal :
    validateAssetValue texts type value = .error .internal ↔
      value = none ∧ type ∈ [some AssetType.hostname, some .domain, some .cloudResource] := by
  cases type with
  | none => simp [validateAssetValue]
  | some type =>
      cases type with
      | hostname => simp [validateAssetValue, validateText_internal]
      | domain => simp [validateAssetValue, validateText_internal]
      | cloudResource => simp [validateAssetValue, validateText_internal]
      | ip => simp [validateAssetValue, validateParsed_internal]
      | subnet => simp [validateAssetValue, validateParsed_internal]
      | webApp => simp [validateAssetValue, validateParsed_internal]

theorem ofAssets_handled {error : ServiceError} :
    (ofAssets error).Handled ↔ error ≠ .internal := by
  cases error with
  | invalidValue message => simp [ofAssets, Failure.Handled]
  | duplicate message => simp [ofAssets, Failure.Handled]
  | internal => simp [ofAssets, Failure.Handled]

theorem newValue_internal :
    data.newValue texts asset = .error .internal ↔
      data.value = some none ∧
        data.newType asset ∈ [some AssetType.hostname, some .domain, some .cloudResource] := by
  rw [AssetUpdate.newValue]
  cases data.value with
  | none => simp
  | some given => simp [validateAssetValue_internal]

/-- What the update writes is what the validator makes of the value. -/
theorem edit_eq_ok (clock : Scans.Timestamp) {canonical : String} :
    (∃ row changed, data.edit texts clock asset = .ok (row, changed) ∧ row.value = canonical) ↔
      ∃ value, data.newValue texts asset = .ok value ∧
        validateAssetValue texts (data.newType asset) (some value) = .ok canonical := by
  simp only [AssetUpdate.edit, Except.bind_eq_ok]
  constructor
  · rintro ⟨row, changed, ⟨value, given, canonical', valid, edited⟩, rfl⟩
    refine ⟨value, given, ?_⟩
    cases type : data.newType asset with
    | none =>
        rw [type] at edited
        cases edited
    | some newType =>
        simp only [type] at edited valid
        split at edited
        next unchanged =>
          cases edited
          rw [valid, unchanged.2]
        next =>
          cases edited
          exact valid
  · rintro ⟨value, given, valid⟩
    cases type : data.newType asset with
    | none =>
        rw [type] at valid
        cases valid
    | some newType =>
        rw [type] at valid
        by_cases unchanged : newType = asset.assetType ∧ canonical = asset.value
        · exact ⟨asset, _, ⟨value, given, canonical, valid, if_pos unchanged⟩, unchanged.2.symm⟩
        · exact ⟨_, _, ⟨value, given, canonical, valid, if_neg unchanged⟩, rfl⟩

theorem edit_internal (clock : Scans.Timestamp) :
    data.edit texts clock asset = .error .internal ↔
      data.value = some none ∧
        data.newType asset ∈ [some AssetType.hostname, some .domain, some .cloudResource] := by
  rw [← @newValue_internal texts asset data, AssetUpdate.edit, Except.bind_eq_error]
  refine or_iff_left ?_
  rintro ⟨value, -, raised⟩
  rcases Except.bind_eq_error.mp raised with raised | ⟨canonical, -, raised⟩
  · cases (validateAssetValue_internal.mp raised).1
  · cases type : data.newType asset with
    | none =>
        rw [type] at raised
        cases raised
    | some newType =>
        simp only [type] at raised
        split at raised
        next => cases raised
        next => cases raised

end

section

variable {library : Library} {state : State} {assetId : AssetId} {tenantId : Option TenantId}
  {asset : Asset} {data : AssetUpdate}

theorem valueTaken_storable {row : Asset} (taken : valueTaken state.assets assetId row = true) :
    row.value.storable = true := by
  obtain ⟨id, -, matched⟩ := List.any_eq_true.mp taken
  obtain ⟨other, live, same⟩ := Slot.satisfies_iff.mp matched
  simp only [Bool.and_eq_true, beq_iff_eq] at same
  have stored := (state.assetStored (Slot.row?_eq_some.mpr live)).2
  rw [same.2.2] at stored
  exact stored

theorem overlong_asset {row : Asset} (stored : asset.value.length ≤ 255) :
    (row != asset && decide (255 < row.value.length)) = false ↔ row.value.length ≤ 255 := by
  by_cases same : row = asset
  · rw [same]
    simpa using stored
  · simp [same]

/-- A PATCH of an asset that its schema accepts. -/
theorem updateAsset_raisesOnly_iff {body : AssetUpdate} (valid : validateAsset body = .ok data)
    (found : Assets.getAsset assetId tenantId state.assets = some asset) :
    (updateAsset library state assetId tenantId body).RaisesOnly Failure.Handled ↔
      AssetSound library.assets asset data := by
  have stored : asset.value.length ≤ 255 := 
    (state.assetStored (Option.filter_eq_some_iff.mp found).1).1
  simp only [updateAsset, valid, Except.ok_bind, Assets.updateAsset, found]
  rw [AssetSound, ← edit_internal state.now]
  cases edited : data.edit library.assets state.now asset with
  | error error =>
      rw [Except.error_bind, Except.mapError, Except.error_bind, Except.raisesOnly_error,
        ofAssets_handled]
      have nothing : ∀ value canonical, data.newValue library.assets asset = .ok value →
          validateAssetValue library.assets (data.newType asset) (some value) ≠ .ok canonical := by
        intro value canonical given passed
        obtain ⟨row, changed, written, -⟩ := (edit_eq_ok state.now).mpr
          ⟨value, given, passed⟩
        cases edited.symm.trans written
      constructor
      · intro known
        refine ⟨fun same => known (Except.error.inj same), ?_⟩
        intro value canonical given passed
        exact absurd passed (nothing value canonical given)
      · rintro ⟨known, -⟩ rfl
        exact known rfl
  | ok result =>
      obtain ⟨row, changed⟩ := result
      obtain ⟨value, given, passed⟩ := (edit_eq_ok state.now).mp
        ⟨row, changed, edited, rfl⟩
      have only : (∀ value' canonical, data.newValue library.assets asset = .ok value' →
          validateAssetValue library.assets (data.newType asset) (some value') = .ok canonical →
            canonical.length ≤ 255 ∧ (data.value.isSome = true → canonical.storable = true)) ↔
          row.value.length ≤ 255 ∧ (data.value.isSome = true → row.value.storable = true) := by
        constructor
        · exact fun each => each value row.value given passed
        · intro fits value' canonical given' passed'
          cases given.symm.trans given'
          cases passed.symm.trans passed'
          exact fits
      simp only [Except.ok_bind, only, reduceCtorEq, not_false_eq_true, true_and]
      cases long : row != asset && decide (255 < row.value.length) with
      | true =>
          refine iff_of_false (fun safe => Except.raisesOnly_error.mp safe) ?_
          rintro ⟨short, -⟩
          rw [(overlong_asset stored).mpr short] at long
          cases long
      | false =>
          have short := (overlong_asset stored).mp long
          cases taken : row != asset && valueTaken state.assets assetId row with
          | true =>
              have storable := valueTaken_storable (Bool.and_eq_true _ _ ▸ taken).2
              exact iff_of_true (Except.raisesOnly_error.mpr ⟨by decide, by decide⟩)
                ⟨short, fun _ => storable⟩
          | false =>
              change (Except.refuse (data.value.isSome && !row.value.storable) Failure.crashed >>=
                fun _ => (return some row : Reply (Option Asset))).RaisesOnly _ ↔ _
              rw [Except.raisesOnly_refuse_bind id]
              have done : (return some row : Reply (Option Asset)).RaisesOnly Failure.Handled :=
                Except.raisesOnly_ok
              simp only [done, short, and_true, true_and, Bool.and_eq_false_imp,
                Bool.not_eq_false']

end

/-! Vulnerabilities and reports, no null of which reaches a column that is not null. -/

/-- The metadata of a PATCH of a vulnerability is JSON, and its texts are free of NUL. -/
def VulnerabilitySound (data : VulnerabilityUpdate LoadedObject) : Prop :=
  data.description.join.any (!·.storable) = false ∧
    storableField data.vulnerabilityMetadata = true

/-- The metadata of a PATCH of a report is JSON, its texts are free of NUL, and the driver encodes
its time. -/
def ReportSound (library : Library) (data : ReportUpdate LoadedObject) : Prop :=
  data.name.any (!·.storable) = false ∧ data.summary.join.any (!·.storable) = false ∧
    storableField data.reportMetadata = true ∧
    data.generatedAt.join.any (!library.timestamptz ·) = false

section

variable {library : Library} {state : State} {tenantId : Option TenantId}

theorem updateVulnerability_raisesOnly_iff {vulnerabilityId : Vulnerabilities.VulnerabilityId}
    {row : Vulnerabilities.Vulnerability} {body : VulnerabilityBody LoadedObject}
    {data : VulnerabilityUpdate LoadedObject} (valid : body.validate = .ok data)
    (found : Vulnerabilities.getVulnerability vulnerabilityId tenantId state.vulnerabilities =
      some row) :
    (updateVulnerability state vulnerabilityId tenantId body).RaisesOnly Failure.Handled ↔
      VulnerabilitySound data := by
  unfold updateVulnerability VulnerabilitySound jsonVulnerability? storableField
  rw [valid, Except.ok_bind, found]
  dsimp only
  cases jsonField? data.vulnerabilityMetadata with
  | none =>
      refine iff_of_false (fun safe => Except.raisesOnly_error.mp safe) ?_
      exact fun sound => Bool.noConfusion sound.2
  | some metadata =>
      dsimp only [Option.map_some]
      rw [Except.raisesOnly_refuse_bind id, Except.raisesOnly_refuse_bind id, Bool.not_eq_false',
        Option.any_some]
      have done (row : Vulnerabilities.Vulnerability) : (return some row :
          Reply (Option Vulnerabilities.Vulnerability)).RaisesOnly Failure.Handled :=
        Except.raisesOnly_ok
      simp only [done, and_true]

theorem updateReport_raisesOnly_iff {reportId : Reports.ReportId} {row : Reports.Report}
    {body : ReportBody LoadedObject} {data : ReportUpdate LoadedObject}
    (valid : body.validate = .ok data)
    (found : Reports.getReport reportId tenantId state.reports = some row) :
    (updateReport library state reportId tenantId body).RaisesOnly Failure.Handled ↔
      ReportSound library data := by
  unfold updateReport ReportSound jsonReport? storableField
  rw [valid, Except.ok_bind, found]
  dsimp only
  cases jsonField? data.reportMetadata with
  | none =>
      refine iff_of_false (fun safe => Except.raisesOnly_error.mp safe) ?_
      exact fun sound => Bool.noConfusion sound.2.2.1
  | some metadata =>
      dsimp only [Option.map_some]
      rw [Except.raisesOnly_refuse_bind id, Except.raisesOnly_refuse_bind id,
        Except.raisesOnly_refuse_bind id, Except.raisesOnly_refuse_bind id, Bool.not_eq_false',
        Option.any_some]
      have done (row : Reports.Report) :
          (return some row : Reply (Option Reports.Report)).RaisesOnly Failure.Handled :=
        Except.raisesOnly_ok
      simp only [done, and_true]

end

/-! The seven routes. -/

namespace Request

variable (library : Library) (state : State) (request : Request)

/-- The request succeeds, finds no row, or ends in an error of the client. -/
def NeverCrashes : Prop :=
  ∀ failure, request.failure? library state = some failure → failure.Handled

/-- What an accepted body and the row that it meets have to be for that. -/
def Sound : Request → Prop
  | updateUser context currentUser userId body => ∀ data target,
      body.validate library.users = .ok data →
      (state.users.find userId).filter context.sees = some target →
      UserSound library state context currentUser userId target data
  | updateTenant tenantId body => ∀ data tenant, validateTenant library body = .ok data →
      state.tenants.find tenantId = some tenant → TenantSound library tenant data
  | createTenant body => NewTenantSound library state body
  | updateScan scanId tenantId body => ∀ data scan, validateScan body = .ok data →
      Scans.getScan scanId tenantId state.scans = some scan → ScanSound scan data
  | updateAsset assetId tenantId body => ∀ data asset, validateAsset body = .ok data →
      Assets.getAsset assetId tenantId state.assets = some asset →
      AssetSound library.assets asset data
  | updateVulnerability vulnerabilityId tenantId body => ∀ data row, body.validate = .ok data →
      Vulnerabilities.getVulnerability vulnerabilityId tenantId state.vulnerabilities = some row →
      VulnerabilitySound data
  | updateReport reportId tenantId body => ∀ data row, body.validate = .ok data →
      Reports.getReport reportId tenantId state.reports = some row → ReportSound library data

end Request

section

variable {library : Library} {state : State}

theorem raised_iff {Row : Type} {reply : Reply (Option Row)} :
    (∀ failure, Request.failure?.raised? reply = some failure → failure.Handled) ↔
      reply.RaisesOnly Failure.Handled := by
  cases reply with
  | error failure => simp [Request.failure?.raised?, Except.RaisesOnly]
  | ok value => simp [Request.failure?.raised?, Except.RaisesOnly]

/-- A body that its schema refuses, and one whose row is missing, end well. -/
theorem bind_accepted_iff {Data Row Stored : Type} {valid : Reply Data}
    {rest : Data → Reply (Option Row)} (found : Option Stored) (sound : Data → Stored → Prop)
    (safe : valid.RaisesOnly Failure.Handled)
    (missing : found = none → ∀ data, (rest data).RaisesOnly Failure.Handled)
    (accepted : ∀ data row, valid = .ok data → found = some row →
      ((valid >>= rest).RaisesOnly Failure.Handled ↔ sound data row)) :
    (valid >>= rest).RaisesOnly Failure.Handled ↔
      ∀ data row, valid = .ok data → found = some row → sound data row := by
  constructor
  · intro handled data row given stored
    exact (accepted data row given stored).mp handled
  · intro each
    cases given : valid with
    | error failure =>
        rw [given] at safe
        rw [Except.error_bind, Except.raisesOnly_error]
        exact Except.raisesOnly_error.mp safe
    | ok data =>
        cases stored : found with
        | none => exact missing stored data
        | some row =>
            rw [← given]
            exact (accepted data row given stored).mpr (each data row given stored)

theorem unprocessable_handled : unprocessable.Handled := ⟨by decide, by decide⟩

theorem checked_bind {Value : Type} {condition : Bool} {rest : Unit → Reply Value}
    (safe : (rest ()).RaisesOnly Failure.Handled) :
    (Except.refuse condition unprocessable >>= rest).RaisesOnly Failure.Handled := by
  refine Except.raisesOnly_bind.mpr ⟨?_, fun _ _ => safe⟩
  exact Except.raisesOnly_refuse.mpr fun _ => unprocessable_handled

theorem onValue_safe {field : Option (Option String)} :
    (onValue constrained field).RaisesOnly Failure.Handled := by
  rcases field with _ | _ | text
  · exact Except.raisesOnly_ok
  · exact Except.raisesOnly_ok
  · rw [onValue, constrained]
    split
    next => exact Except.raisesOnly_ok
    next => exact Except.raisesOnly_error.mpr unprocessable_handled

theorem validateUser_safe {body : Users.UserUpdate} :
    ((body.validate library.users).mapError ofHttp).RaisesOnly Failure.Handled := by
  have client (message : String) : (ofHttp (Users.unprocessable message)).Handled :=
    ofHttp_handled (by decide) (by decide)
  rw [Except.raisesOnly_mapError]
  refine Except.raisesOnly_bind.mpr ⟨?_, fun email _ => ?_⟩
  · rw [Users.UserUpdate.validateEmail.eq_def]
    split
    next =>
      split
      next => exact Except.raisesOnly_error.mpr (client _)
      next =>
        split
        next => exact Except.raisesOnly_error.mpr (client _)
        next => exact Except.raisesOnly_ok
    next => exact Except.raisesOnly_ok
  · simp only [Except.raisesOnly_bind, Except.raisesOnly_refuse]
    exact ⟨fun _ => client _, fun _ _ => ⟨fun _ => client _, fun _ _ => ⟨fun _ => client _,
      fun _ _ => Except.raisesOnly_ok⟩⟩⟩

theorem validateTenant_safe {body : Tenants.TenantUpdate} :
    (validateTenant library body).RaisesOnly Failure.Handled := by
  refine checked_bind ?_
  cases body.name with
  | unset => exact Except.raisesOnly_ok
  | null => exact Except.raisesOnly_ok
  | value name =>
      cases stripped : stripName library name with
      | none =>
          simp only [stripped]
          exact Except.raisesOnly_error.mpr unprocessable_handled
      | some name =>
          simp only [stripped]
          exact Except.raisesOnly_ok

theorem validateAsset_safe {body : AssetUpdate} :
    (validateAsset body).RaisesOnly Failure.Handled :=
  Except.raisesOnly_bind.mpr ⟨onValue_safe, fun _ _ => Except.raisesOnly_ok⟩

theorem validateScan_safe {body : ScanUpdate LoadedObject} :
    (validateScan body).RaisesOnly Failure.Handled :=
  Except.raisesOnly_bind.mpr ⟨onValue_safe, fun _ _ => Except.raisesOnly_ok⟩

theorem validateVulnerability_safe {body : VulnerabilityBody LoadedObject} :
    body.validate.RaisesOnly Failure.Handled :=
  checked_bind (checked_bind Except.raisesOnly_ok)

theorem validateReport_safe {body : ReportBody LoadedObject} :
    body.validate.RaisesOnly Failure.Handled :=
  Except.raisesOnly_bind.mpr
    ⟨onValue_safe, fun _ _ => checked_bind (checked_bind Except.raisesOnly_ok)⟩

theorem updateUser_sound_iff {context : Users.Emails.Context} {currentUser : Users.User}
    {userId : Users.UserId} {body : Users.UserUpdate} :
    (updateUser library state context currentUser userId body).RaisesOnly Failure.Handled ↔
      (Request.updateUser context currentUser userId body).Sound library state := by
  refine (bind_accepted_iff ((state.users.find userId).filter context.sees)
    (fun data target => UserSound library state context currentUser userId target data)
    validateUser_safe ?_ ?_).trans ?_
  · intro missing data
    rw [missing]
    exact Except.raisesOnly_ok
  · intro data target valid found
    exact updateUser_raisesOnly_iff (Except.mapError_eq_ok.mp valid) found
  · simp only [Except.mapError_eq_ok, Request.Sound]

end

/-- Functions that leave their texts alone. -/
def plainLibrary : Library where
  users := Users.Emails.plainTexts
  dbLower := id
  tenants := ⟨id, id, fun _ => "", fun _ _ => ("", "")⟩
  assets := ⟨some, some, fun url => some ("https", url), fun _ _ => true, id, id, id⟩
  nfkd := id
  timestamptz := fun _ => true
  lawful := Users.Emails.plain_lawful
  shorter := fun _ => le_refl _

/-- The users of two tenants. -/
def usersOnly : State where
  users := Users.Emails.twoTenants
  tenants := Table.empty
  slugs := []
  assets := Table.empty
  scans := Table.empty
  vulnerabilities := Table.empty
  reports := Table.empty
  now := 0
  userStored := Users.Emails.twoTenants_consistent.stored
  userUnique := Users.Emails.twoTenants_consistent.unique
  slugStored := nofun
  assetStored := nofun

/-- `{"full_name": null}`. -/
def unnamed : Request :=
  .updateUser (.tenant 1) Users.Emails.acmeAdmin 2 ⟨.unset, .null, .unset, .unset⟩

end Payloads
