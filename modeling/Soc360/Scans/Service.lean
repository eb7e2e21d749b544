import Soc360.Scans.State

set_option autoImplicit false

namespace Scans

/-- The domain errors of the scan service. `integrity` is a constraint violation the
service does not translate. -/
inductive ServiceError where
  | config (message : ScanConfigError)
  | duplicate (message : String)
  | assetNotFound
  | notCancellable
  | notDispatchable
  | quotaExceeded
  | integrity
  deriving DecidableEq

def ServiceError.message : ServiceError → String
  | config message => message
  | duplicate message => message
  | assetNotFound => "scan asset not found"
  | notCancellable => "scan is not cancellable"
  | notDispatchable => "scan is not dispatchable"
  | quotaExceeded => "daily scan quota exceeded"
  | integrity => ""

/-- `ScanCreateRequest`, its config as `model_dump` returns it. -/
structure ScanCreate where
  assetId : AssetId
  name : String
  type : ScanType
  config : JsonObject

/-- `ScanUpdate.model_dump(exclude_unset=True)`: a field is absent, null or a value. A `dict` of a
body need not be JSON. -/
structure ScanUpdate (Object : Type := JsonObject) where
  name : Option (Option String)
  type : Option (Option ScanType)
  config : Option (Option Object)

/-- The `config` column as a JSON value. -/
def configJson : Option JsonObject → Json
  | some fields => .obj fields
  | none => .null

/-- `uq_scans_tenant_asset_name_pending` over the rows other than `scanId`. -/
def openNameTaken (table : Table ScanId Scan) (scanId : ScanId) (tenantId : TenantId)
    (assetId : AssetId) (name : String) : Bool :=
  table.keys.any fun key => key != scanId && (table.slot key).satisfies fun scan =>
    scan.status == .pending && scan.tenantId == tenantId && scan.assetId == assetId &&
      scan.name == name

/-- `get_scan`. `tenantId` is absent on the superadmin path. -/
def getScan (scanId : ScanId) (tenantId : Option TenantId) (table : Table ScanId Scan) :
    Option Scan :=
  (table.find scanId).filter fun scan => tenantId.all (scan.tenantId == ·)

/-- The row `create_scan` adds: always `pending`, with no operational timestamps. -/
def ScanCreate.row (data : ScanCreate) (tenantId : TenantId) (config : JsonObject) : Scan where
  tenantId := tenantId
  assetId := data.assetId
  name := data.name
  scanType := data.type
  status := .pending
  config := some config
  dispatchedAt := none
  startedAt := none
  completedAt := none
  failureReason := none
  rawOutput := none

/-- `create_scan`. `scanId` is the new `uuid4`, `assetExists` what the foreign key finds. -/
def createScan (repr : String → String) (data : ScanCreate) (tenantId : TenantId)
    (assetExists : Bool) (scanId : ScanId) (session : Session ScanId Scan) :
    Except ServiceError ScanId × Session ScanId Scan :=
  match validateScanConfig (some data.type) (.obj data.config) with
  | .error message => (.error (.config message), session)
  | .ok normalised =>
      if openNameTaken session.working scanId tenantId data.assetId data.name then
        (.error (.duplicate ("a pending scan named " ++ repr data.name ++
          " already exists for this asset")), session.rollback)
      else if assetExists then
        (.ok scanId, ({ session with
          working := session.working.insert scanId (data.row tenantId normalised) } :
            Session ScanId Scan).commit)
      else (.error .assetNotFound, session.rollback)

/-- The values a `PATCH` asks for, the stored ones where a field is absent. -/
structure Candidate where
  name : Option String
  type : Option ScanType
  config : Option JsonObject

def ScanUpdate.candidate (data : ScanUpdate) (scan : Scan) : Candidate where
  name := data.name.getD (some scan.name)
  type := data.type.getD (some scan.scanType)
  config := data.config.getD scan.config

/-- Phase 2 of `update_scan`: only the attributes whose value differs are assigned. -/
def Candidate.edit (candidate : Candidate) (normalised : JsonObject) (scan : Scan) :
    ScanEdit where
  name := if candidate.name = some scan.name then none else candidate.name
  scanType := if candidate.type = some scan.scanType then none else candidate.type
  config :=
    if Json.pyEq (.obj normalised) (configJson scan.config) then none else some normalised

/-- A column is left with what was given for it, assigned or not. -/
theorem edited_column {Value : Type} [DecidableEq Value] (given stored : Value) :
    (if some given = some stored then none else some given).getD stored = given := by
  split
  next same => exact (Option.some.inj same).symm
  next => rfl

/-- `changed_fields`, in the fixed order. -/
def ScanEdit.changedFields (columns : ScanEdit) : List String :=
  (if columns.name.isSome then ["name"] else []) ++
    (if columns.scanType.isSome then ["type"] else []) ++
      if columns.config.isSome then ["config"] else []

/-- `update_scan`, with the fields it reports as changed. -/
def updateScan (scanId : ScanId) (tenantId : Option TenantId) (data : ScanUpdate)
    (session : Session ScanId Scan) :
    Except ServiceError (Option (List String)) × Session ScanId Scan :=
  match getScan scanId tenantId session.working with
  | none => (.ok none, session)
  | some scan =>
      let candidate := data.candidate scan
      match validateScanConfig candidate.type (configJson candidate.config) with
      | .error message => (.error (.config message), session)
      | .ok normalised =>
          let columns := candidate.edit normalised scan
          match candidate.name with
          -- The flush writes a null into a NOT NULL column.
          | none => (.error .integrity, session.rollback)
          | some name =>
              if scan.status = .pending ∧
                  openNameTaken session.working scanId scan.tenantId scan.assetId name then
                (.error (.duplicate ("update would produce a second pending scan with the " ++
                  "same name for this asset")), session.rollback)
              else
                (.ok (some columns.changedFields),
                  (session.update ((ScanChange.edit columns).onKeys (· == scanId))).commit)

def dayMicroseconds : Nat := microseconds 86400

/-- `date_trunc('day', now() AT TIME ZONE 'UTC') AT TIME ZONE 'UTC'`. -/
def dayStart (now : Timestamp) : Timestamp := now / dayMicroseconds * dayMicroseconds

/-- The rows `dispatch_scan` counts against the daily quota. -/
def Scan.counted (tenantId : TenantId) (since : Timestamp) (scan : Scan) : Bool :=
  scan.tenantId == tenantId && scan.dispatchedAt.any (since ≤ ·) &&
    !((scan.status == .failed || scan.status == .cancelled) && scan.startedAt.isNone)

/-- `dispatch_scan`. `limit` is `scans_per_day` of the scan's tenant. -/
def dispatchScan (scanId : ScanId) (tenantId : Option TenantId) (limit : Int) (now : Timestamp)
    (session : Session ScanId Scan) : Except ServiceError (Option Scan) × Session ScanId Scan :=
  match getScan scanId tenantId session.working with
  | none => (.ok none, session)
  | some scan =>
      let change := (ScanChange.dispatch now).onKeys (· == scanId)
      if session.working.rowcount change = 0 then (.error .notDispatchable, session.rollback)
      else
        let updated := session.update change
        let count := updated.working.count (Scan.counted scan.tenantId (dayStart now))
        if limit < count then (.error .quotaExceeded, updated.rollback)
        else (.ok (updated.working.find scanId), updated.commit)

/-- `service.cancel_scan`. -/
def cancelScan (repr : String → String) (scanId : ScanId) (tenantId : Option TenantId)
    (now : Timestamp) (session : Session ScanId Scan) :
    Except ServiceError (Option Scan) × Session ScanId Scan :=
  match getScan scanId tenantId session.working with
  | none => (.ok none, session)
  | some _ =>
      match transitionScan repr now session scanId "cancelled" none none false with
      | (.ok true, updated) => (.ok (updated.working.find scanId), updated.commit)
      | (_, updated) => (.error .notCancellable, updated.rollback)

/-- `delete_scan`. -/
def deleteScan (scanId : ScanId) (tenantId : Option TenantId) (session : Session ScanId Scan) :
    Bool × Session ScanId Scan :=
  match getScan scanId tenantId session.working with
  | none => (false, session)
  | some _ =>
      (true, ({ session with working := session.working.delete scanId } :
        Session ScanId Scan).commit)

end Scans
