import Soc360.Store.UnitOfWork
import Soc360.Tenancy.Database
import Soc360.Vulnerabilities.Closing

set_option autoImplicit false

namespace Assets

def AssetType.value : AssetType → String
  | hostname => "hostname"
  | domain => "domain"
  | ip => "ip"
  | webApp => "web_app"
  | subnet => "subnet"
  | cloudResource => "cloud_resource"

/-- `AssetCreateRequest`. -/
structure AssetCreate where
  type : AssetType
  value : String

end Assets

namespace Reports

open Scans (AssetId JsonObject TenantId Timestamp)

structure ReportCreate where
  assetId : AssetId
  name : String
  reportType : ReportType
  summary : Option String
  reportMetadata : Option JsonObject

/-- The row that `create_report` adds. -/
def ReportCreate.row (data : ReportCreate) (tenantId : TenantId) (clock : Timestamp) :
    Report where
  tenantId := tenantId
  assetId := data.assetId
  name := data.name
  reportType := data.reportType
  status := .pending
  summary := data.summary
  reportMetadata := data.reportMetadata
  generatedAt := none
  createdAt := clock
  updatedAt := clock

end Reports

namespace Vulnerabilities

open Scans (JsonObject ScanId TenantId Timestamp)

/-- The body of `create_vulnerability`. -/
structure VulnerabilityPayload where
  scanId : ScanId
  title : String
  description : Option String
  severity : VulnerabilitySeverity
  cveId : Option String
  cvssScore : Option ℚ
  vulnerabilityMetadata : Option JsonObject

def VulnerabilityPayload.create (data : VulnerabilityPayload) (vulnerabilityId : VulnerabilityId)
    (tenantId : TenantId) (scanExists : Bool) (clock : Timestamp) : VulnerabilityCreate where
  vulnerabilityId := vulnerabilityId
  tenantId := tenantId
  scanId := data.scanId
  scanExists := scanExists
  title := data.title
  description := data.description
  severity := data.severity
  cveId := data.cveId
  cvssScore := data.cvssScore
  vulnerabilityMetadata := data.vulnerabilityMetadata
  clock := clock

/-- `closing`: the UPDATE stamps `closed_at` with the clock of the database. -/
def VulnerabilityUpdate.closing (data : VulnerabilityUpdate) (row : Vulnerability) : Bool :=
  data.status.any fun status => status != row.status && status != .opened && row.status == .opened

end Vulnerabilities

namespace Tenancy.Database

open Assets (Asset)
open Reports (Report ReportId)
open Scans (AssetId Scan ScanEdit ScanId TenantId Timestamp)
open Vulnerabilities (Vulnerability VulnerabilityId)

variable (database : Database)

/-! An INSERT under a key in use violates the primary key. -/

def insertAsset (assetId : AssetId) (row : Asset) : Option Database :=
  if unused : assetId ∉ database.assets.keys then
    some { database with
      assets := database.assets.insert assetId row
      listedAssets := database.listedAssets.insert unused }
  else none

def insertScan (scanId : ScanId) (row : Scan) (clock : Timestamp) : Option Database :=
  if unused : scanId ∉ database.scans.keys then
    some { database with
      scans := database.scans.insert scanId row
      scanStamps := Function.update database.scanStamps scanId ⟨clock, clock⟩
      listedScans := database.listedScans.insert unused }
  else none

def insertVulnerability (vulnerabilityId : VulnerabilityId) (row : Vulnerability) :
    Option Database :=
  if unused : vulnerabilityId ∉ database.vulnerabilities.keys then
    some { database with
      vulnerabilities := database.vulnerabilities.insert vulnerabilityId row
      listedVulnerabilities := database.listedVulnerabilities.insert unused }
  else none

def insertReport (reportId : ReportId) (row : Report) : Option Database :=
  if unused : reportId ∉ database.reports.keys then
    some { database with
      reports := database.reports.insert reportId row
      listedReports := database.listedReports.insert unused }
  else none

/-- `fk_scans_asset_tenant` and `fk_reports_asset_tenant`. -/
def hasAsset (assetId : AssetId) (tenantId : TenantId) : Bool :=
  (database.assets.find assetId).any (·.tenantId == tenantId)

/-- `fk_vulnerabilities_scan_tenant`. -/
def hasScan (scanId : ScanId) (tenantId : TenantId) : Bool :=
  (database.scans.find scanId).any (·.tenantId == tenantId)

/-- The UPDATE of the columns that `update_scan` has assigned, which there is none of where it
has assigned nothing. -/
def editScan (scanId : ScanId) (columns : ScanEdit) (clock : Timestamp) : Database :=
  let edited : Database := { database with
    scans := database.scans.update ((Scans.ScanChange.edit columns).onKeys (· == scanId))
    listedScans := database.listedScans.update _ }
  if columns.changedFields = [] then edited else edited.stampScan scanId clock

end Tenancy.Database

namespace Publishing

open Assets (Asset AssetCreate AssetType AssetUpdate)
open Reports (Report ReportCreate ReportId ReportStatus ReportType ReportUpdate)
open Scans (AssetId JsonObject Scan ScanCreate ScanEdit ScanId ScanStatus ScanType ScanUpdate
  TenantId Timestamp)
open Tenancy (Answer Database Texts)
open UnitOfWork (Act Desk Plan Weather Work)
open Vulnerabilities (Vulnerability VulnerabilityId VulnerabilityPayload VulnerabilitySeverity
  VulnerabilityStatus VulnerabilityUpdate)

/-- The events of the domain streams, without the fields that are drawn anew for each. -/
inductive DomainEvent where
  | assetCreated (tenantId : TenantId) (assetId : AssetId) (type : AssetType) (value : String)
      (createdAt : Timestamp)
  | scanCreated (tenantId : TenantId) (scanId : ScanId) (assetId : AssetId) (name : String)
      (type : ScanType) (status : ScanStatus) (config : Option JsonObject) (createdAt : Timestamp)
  | vulnerabilityCreated (tenantId : TenantId) (vulnerabilityId : VulnerabilityId)
      (scanId : ScanId) (title : String) (severity : VulnerabilitySeverity)
      (status : VulnerabilityStatus) (cveId : Option String) (cvssScore : Option ℚ)
      (createdAt : Timestamp)
  | reportCreated (tenantId : TenantId) (reportId : ReportId) (assetId : AssetId) (name : String)
      (reportType : ReportType) (status : ReportStatus) (createdAt : Timestamp)
  | later (event : Tenancy.Event)

/-- What a call raises: the domain errors of the services, an `IntegrityError` or `DataError` that
its service does not translate, a failing statement, or the error of `publish`. -/
inductive Raised where
  | asset (error : Assets.ServiceError)
  | scan (error : Scans.ServiceError)
  | vulnerabilityScanNotFound
  | reportAssetNotFound
  | refused
  | broken
  | redis

abbrev Service : Type := Work Database DomainEvent Raised Answer

/-- The clocks of the database and of the server during a call, and what becomes of its
statements. -/
structure Moment where
  now : Timestamp
  clock : Timestamp
  weather : Weather
  deriving DecidableEq, Repr

section

variable (texts : Texts) (moment : Moment)

def flush (write : Database → Except Raised Database) : Work Database DomainEvent Raised Unit :=
  .flush moment.weather.flush .broken write

/-- The refresh of `closed_at`, where the call has stamped it. -/
def refresh (closing : Bool) : Work Database DomainEvent Raised Unit :=
  if closing then .refresh moment.weather.refresh .broken else pure ()

def commit : Work Database DomainEvent Raised Unit := .commit moment.weather.commit .broken

def publish (event : DomainEvent) : Work Database DomainEvent Raised Unit :=
  .publish moment.weather.publish .redis event

def accept : Option Database → Except Raised Database
  | none => .error .refused
  | some database => .ok database

/-! The statements of the flushes, under the constraints of their tables. -/

def insertAsset (data : AssetCreate) (assetId : AssetId) (row : Asset) (database : Database) :
    Except Raised Database := do
  Except.refuse (decide (255 < row.value.length)) .refused
  Except.refuse (Assets.valueTaken database.assets assetId row)
    (.asset (.duplicate ("asset with type=" ++ texts.repr data.type.value ++ ", value=" ++
      texts.repr row.value ++ " already exists for this tenant")))
  accept (database.insertAsset assetId row)

def writeAsset (assetId : AssetId) (before row : Asset) (database : Database) :
    Except Raised Database := do
  Except.refuse (row != before && decide (255 < row.value.length)) .refused
  Except.refuse (row != before && Assets.valueTaken database.assets assetId row)
    (.asset (.duplicate "update would produce a duplicate (tenant_id, type, value)"))
  return database.putAsset assetId row

def insertScan (scanId : ScanId) (row : Scan) (database : Database) : Except Raised Database := do
  Except.refuse (Scans.openNameTaken database.scans scanId row.tenantId row.assetId row.name)
    (.scan (.duplicate ("a pending scan named " ++ texts.repr row.name ++
      " already exists for this asset")))
  Except.refuse (!database.hasAsset row.assetId row.tenantId) (.scan .assetNotFound)
  accept (database.insertScan scanId row moment.clock)

/-- A null name violates its NOT NULL column. -/
def writeScan (scanId : ScanId) (before : Scan) (name : Option String) (columns : ScanEdit)
    (database : Database) : Except Raised Database :=
  match name with
  | none => .error .refused
  | some name => do
      Except.refuse (before.status == .pending &&
          Scans.openNameTaken database.scans scanId before.tenantId before.assetId name)
        (.scan (.duplicate ("update would produce a second pending scan with the same " ++
          "name for this asset")))
      return database.editScan scanId columns moment.clock

def insertVulnerability (vulnerabilityId : VulnerabilityId) (row : Vulnerability)
    (database : Database) : Except Raised Database := do
  Except.refuse (!database.hasScan row.scanId row.tenantId) .vulnerabilityScanNotFound
  accept (database.insertVulnerability vulnerabilityId row)

def insertReport (reportId : ReportId) (row : Report) (database : Database) :
    Except Raised Database := do
  Except.refuse (!database.hasAsset row.assetId row.tenantId) .reportAssetNotFound
  accept (database.insertReport reportId row)

/-- `create_asset`. `assetId` is the new `uuid4`. -/
def createAsset (data : AssetCreate) (tenantId : TenantId) (assetId : AssetId) : Service := do
  let canonical ← Work.lift ((Assets.validateAssetValue texts.toTexts (some data.type)
    (some data.value)).mapError .asset)
  let asset : Asset := ⟨tenantId, canonical, data.type, moment.clock, moment.clock⟩
  flush moment (insertAsset texts data assetId asset)
  commit moment
  publish moment (.assetCreated tenantId assetId data.type canonical asset.createdAt)
  return .asset (some asset)

/-- `update_asset`, which publishes even where nothing has changed. -/
def updateAsset (assetId : AssetId) (tenantId : Option TenantId) (data : AssetUpdate) :
    Service := do
  let database ← Work.read
  match Assets.getAsset assetId tenantId database.assets with
  | none => return .asset none
  | some asset =>
      let (row, changedFields) ← Work.lift ((data.edit texts.toTexts moment.clock asset).mapError
        .asset)
      flush moment (writeAsset assetId asset row)
      commit moment
      publish moment (.later (.assetUpdated row.tenantId assetId changedFields))
      return .asset (some row)

/-- `delete_asset`. -/
def deleteAsset (assetId : AssetId) (tenantId : Option TenantId) : Service := do
  let database ← Work.read
  match Assets.getAsset assetId tenantId database.assets with
  | none => return .deleted false
  | some asset =>
      Work.stage fun database => database.deleteAssets fun id _ => id == assetId
      commit moment
      publish moment (.later (.assetDeleted asset.tenantId assetId))
      return .deleted true

/-- `create_scan`. `scanId` is the new `uuid4`. -/
def createScan (data : ScanCreate) (tenantId : TenantId) (scanId : ScanId) : Service := do
  let normalised ← Work.lift ((Scans.validateScanConfig (some data.type) (.obj data.config)).mapError
    fun message => .scan (.config message))
  let scan := data.row tenantId normalised
  flush moment (insertScan texts moment scanId scan)
  commit moment
  publish moment (.scanCreated tenantId scanId scan.assetId scan.name data.type scan.status
    scan.config moment.clock)
  return .scan (some (scan, ⟨moment.clock, moment.clock⟩))

/-- `update_scan`. -/
def updateScan (scanId : ScanId) (tenantId : Option TenantId) (data : ScanUpdate) : Service := do
  let database ← Work.read
  match Scans.getScan scanId tenantId database.scans with
  | none => return .scan none
  | some scan =>
      let candidate := data.candidate scan
      let normalised ← Work.lift ((Scans.validateScanConfig candidate.type
        (Scans.configJson candidate.config)).mapError fun message => .scan (.config message))
      let columns := candidate.edit normalised scan
      flush moment (writeScan moment scanId scan candidate.name columns)
      let after ← Work.read
      commit moment
      if columns.changedFields = [] then return .scan (after.scanRow scanId)
      else do
        publish moment (.later (.scanUpdated scan.tenantId scanId columns.changedFields))
        return .scan (after.scanRow scanId)

/-- `delete_scan`. -/
def deleteScan (scanId : ScanId) (tenantId : Option TenantId) : Service := do
  let database ← Work.read
  match Scans.getScan scanId tenantId database.scans with
  | none => return .deleted false
  | some scan =>
      Work.stage fun database => database.deleteScans fun id _ => id == scanId
      commit moment
      publish moment (.later (.scanDeleted scan.tenantId scanId))
      return .deleted true

/-- `create_vulnerability`. `vulnerabilityId` is the new `uuid4`. -/
def createVulnerability (data : VulnerabilityPayload) (tenantId : TenantId)
    (vulnerabilityId : VulnerabilityId) : Service := do
  let database ← Work.read
  let vulnerability := (data.create vulnerabilityId tenantId
    (database.hasScan data.scanId tenantId) moment.clock).row
  flush moment (insertVulnerability vulnerabilityId vulnerability)
  commit moment
  publish moment (.vulnerabilityCreated tenantId vulnerabilityId vulnerability.scanId
    vulnerability.title vulnerability.severity vulnerability.status vulnerability.cveId
    data.cvssScore vulnerability.createdAt)
  return .vulnerability (some vulnerability)

/-- `update_vulnerability`. -/
def updateVulnerability (vulnerabilityId : VulnerabilityId) (tenantId : Option TenantId)
    (data : VulnerabilityUpdate) : Service := do
  let database ← Work.read
  match Vulnerabilities.getVulnerability vulnerabilityId tenantId database.vulnerabilities with
  | none => return .vulnerability none
  | some vulnerability =>
      let (row, changedFields) := data.edit moment.now vulnerability moment.clock
      flush moment fun database => .ok (database.putVulnerability vulnerabilityId row)
      refresh moment (data.closing vulnerability)
      commit moment
      if changedFields = [] then return .vulnerability (some row)
      else do
        publish moment (.later (.vulnerabilityUpdated row.tenantId vulnerabilityId changedFields))
        return .vulnerability (some row)

/-- `delete_vulnerability`. -/
def deleteVulnerability (vulnerabilityId : VulnerabilityId) (tenantId : Option TenantId) :
    Service := do
  let database ← Work.read
  match Vulnerabilities.getVulnerability vulnerabilityId tenantId database.vulnerabilities with
  | none => return .deleted false
  | some vulnerability =>
      Work.stage fun database => database.deleteVulnerabilities fun id _ => id == vulnerabilityId
      commit moment
      publish moment (.later (.vulnerabilityDeleted vulnerability.tenantId vulnerabilityId))
      return .deleted true

/-- `create_report`. `reportId` is the new `uuid4`. -/
def createReport (data : ReportCreate) (tenantId : TenantId) (reportId : ReportId) : Service := do
  let report := data.row tenantId moment.clock
  flush moment (insertReport reportId report)
  commit moment
  publish moment (.reportCreated tenantId reportId report.assetId report.name report.reportType
    report.status report.createdAt)
  return .report (some report)

/-- `update_report`. -/
def updateReport (reportId : ReportId) (tenantId : Option TenantId) (data : ReportUpdate) :
    Service := do
  let database ← Work.read
  match Reports.getReport reportId tenantId database.reports with
  | none => return .report none
  | some report =>
      let (row, changedFields) := data.edit report moment.clock
      flush moment fun database => .ok (database.putReport reportId row)
      commit moment
      if changedFields = [] then return .report (some row)
      else do
        publish moment (.later (.reportUpdated row.tenantId reportId changedFields))
        return .report (some row)

/-- `delete_report`. -/
def deleteReport (reportId : ReportId) (tenantId : Option TenantId) : Service := do
  let database ← Work.read
  match Reports.getReport reportId tenantId database.reports with
  | none => return .deleted false
  | some report =>
      Work.stage fun database => database.deleteReports fun id _ => id == reportId
      commit moment
      publish moment (.later (.reportDeleted report.tenantId reportId))
      return .deleted true

end

inductive Operation where
  | createAsset (data : AssetCreate) (tenantId : TenantId) (assetId : AssetId)
  | updateAsset (assetId : AssetId) (tenantId : Option TenantId) (data : AssetUpdate)
  | deleteAsset (assetId : AssetId) (tenantId : Option TenantId)
  | createScan (data : ScanCreate) (tenantId : TenantId) (scanId : ScanId)
  | updateScan (scanId : ScanId) (tenantId : Option TenantId) (data : ScanUpdate)
  | deleteScan (scanId : ScanId) (tenantId : Option TenantId)
  | createVulnerability (data : VulnerabilityPayload) (tenantId : TenantId)
      (vulnerabilityId : VulnerabilityId)
  | updateVulnerability (vulnerabilityId : VulnerabilityId) (tenantId : Option TenantId)
      (data : VulnerabilityUpdate)
  | deleteVulnerability (vulnerabilityId : VulnerabilityId) (tenantId : Option TenantId)
  | createReport (data : ReportCreate) (tenantId : TenantId) (reportId : ReportId)
  | updateReport (reportId : ReportId) (tenantId : Option TenantId) (data : ReportUpdate)
  | deleteReport (reportId : ReportId) (tenantId : Option TenantId)

section

variable (texts : Texts) (moment : Moment)

def Operation.run : Operation → Service
  | createAsset data tenantId assetId => Publishing.createAsset texts moment data tenantId assetId
  | updateAsset assetId tenantId data => Publishing.updateAsset texts moment assetId tenantId data
  | deleteAsset assetId tenantId => Publishing.deleteAsset moment assetId tenantId
  | createScan data tenantId scanId => Publishing.createScan texts moment data tenantId scanId
  | updateScan scanId tenantId data => Publishing.updateScan moment scanId tenantId data
  | deleteScan scanId tenantId => Publishing.deleteScan moment scanId tenantId
  | createVulnerability data tenantId vulnerabilityId =>
      Publishing.createVulnerability moment data tenantId vulnerabilityId
  | updateVulnerability vulnerabilityId tenantId data =>
      Publishing.updateVulnerability moment vulnerabilityId tenantId data
  | deleteVulnerability vulnerabilityId tenantId =>
      Publishing.deleteVulnerability moment vulnerabilityId tenantId
  | createReport data tenantId reportId => Publishing.createReport moment data tenantId reportId
  | updateReport reportId tenantId data => Publishing.updateReport moment reportId tenantId data
  | deleteReport reportId tenantId => Publishing.deleteReport moment reportId tenantId

end

end Publishing
