import Soc360.Assets.Service
import Soc360.Enrichment.Queries
import Soc360.Reports.Service
import Soc360.Scans.Lifecycle
import Soc360.Store.Confined
import Soc360.Store.Fault

set_option autoImplicit false

namespace Tenancy

open Assets (Asset AssetTable AssetUpdate)
open Enrichment (EnrichmentId EnrichmentTable VulnerabilityEnrichment)
open Reports (Report ReportId ReportStatus ReportTable ReportType ReportUpdate)
open Scans (AssetId Scan ScanId ScanUpdate TenantId Timestamp)
open Vulnerabilities (Vulnerability VulnerabilityId VulnerabilityTable VulnerabilityUpdate)

/-- `created_at` and `updated_at` of a scan. -/
structure Stamps where
  createdAt : Timestamp
  updatedAt : Timestamp
  deriving DecidableEq, Repr

/-- The tables of the services. -/
structure Database where
  tenants : TenantId → Option Enrichment.Tenant
  assets : AssetTable
  scans : Table ScanId Scan
  scanStamps : ScanId → Stamps
  vulnerabilities : VulnerabilityTable
  reports : ReportTable
  enrichments : EnrichmentTable
  listedAssets : assets.Listed
  listedScans : scans.Listed
  listedVulnerabilities : vulnerabilities.Listed
  listedReports : reports.Listed
  listedEnrichments : enrichments.Listed

theorem outcome_listed {table : Table ScanId Scan} {session : Session ScanId Scan}
    (outcome : Scans.Outcome (.start table) session) (listed : table.Listed) :
    session.committed.Listed := by
  rcases outcome with rfl | ⟨after, written, rfl | rfl⟩
  · exact listed
  · exact listed
  · exact written.listed listed

namespace Database

variable (database : Database)

def putAsset (assetId : AssetId) (row : Asset) : Database :=
  { database with
    assets := database.assets.put assetId row
    listedAssets := database.listedAssets.update _ }

def putVulnerability (vulnerabilityId : VulnerabilityId) (row : Vulnerability) : Database :=
  { database with
    vulnerabilities := database.vulnerabilities.put vulnerabilityId row
    listedVulnerabilities := database.listedVulnerabilities.update _ }

def putReport (reportId : ReportId) (row : Report) : Database :=
  { database with
    reports := database.reports.put reportId row
    listedReports := database.listedReports.update _ }

/-- What a call of the scan service has committed. -/
def withScans (session : Session ScanId Scan)
    (outcome : Scans.Outcome (.start database.scans) session) : Database :=
  { database with
    scans := session.committed
    listedScans := outcome_listed outcome database.listedScans }

/-- The `onupdate` of an UPDATE. -/
def stampScan (scanId : ScanId) (clock : Timestamp) : Database :=
  { database with
    scanStamps := Function.update database.scanStamps scanId
      ⟨(database.scanStamps scanId).createdAt, clock⟩ }

def scanRow (scanId : ScanId) : Option (Scan × Stamps) :=
  (database.scans.find scanId).map fun scan => (scan, database.scanStamps scanId)

/-- `ON DELETE CASCADE` of `fk_vulnerability_enrichments_vulnerability_tenant`. -/
def orphanedEnrichment (gone : VulnerabilityId → Vulnerability → Bool)
    (row : VulnerabilityEnrichment) : Bool :=
  (database.vulnerabilities.find row.vulnerabilityId).any fun parent =>
    gone row.vulnerabilityId parent && parent.tenantId == row.tenantId

/-- `ON DELETE CASCADE` of `fk_vulnerabilities_scan_tenant`. -/
def orphanedVulnerability (gone : ScanId → Scan → Bool) (row : Vulnerability) : Bool :=
  (database.scans.find row.scanId).any fun parent =>
    gone row.scanId parent && parent.tenantId == row.tenantId

/-- `ON DELETE CASCADE` of `fk_scans_asset_tenant` and `fk_reports_asset_tenant`. -/
def orphanedOfAsset (gone : AssetId → Asset → Bool) (assetId : AssetId) (tenantId : TenantId) :
    Bool :=
  (database.assets.find assetId).any fun parent =>
    gone assetId parent && parent.tenantId == tenantId

def deleteVulnerabilities (gone : VulnerabilityId → Vulnerability → Bool) : Database :=
  { database with
    vulnerabilities := database.vulnerabilities.deleteWhere gone
    enrichments := database.enrichments.deleteWhere fun _ row =>
      database.orphanedEnrichment gone row
    listedVulnerabilities := database.listedVulnerabilities.deleteWhere
    listedEnrichments := database.listedEnrichments.deleteWhere }

def deleteScans (gone : ScanId → Scan → Bool) : Database :=
  { database.deleteVulnerabilities fun _ row => database.orphanedVulnerability gone row with
    scans := database.scans.deleteWhere gone
    listedScans := database.listedScans.deleteWhere }

def deleteReports (gone : ReportId → Report → Bool) : Database :=
  { database with
    reports := database.reports.deleteWhere gone
    listedReports := database.listedReports.deleteWhere }

def deleteAssets (gone : AssetId → Asset → Bool) : Database :=
  { (database.deleteScans fun _ row =>
        database.orphanedOfAsset gone row.assetId row.tenantId).deleteReports fun _ row =>
      database.orphanedOfAsset gone row.assetId row.tenantId with
    assets := database.assets.deleteWhere gone
    listedAssets := database.listedAssets.deleteWhere }

end Database

/-- The events of the streams, without the fields that are drawn anew for each. -/
inductive Event where
  | assetUpdated (tenantId : TenantId) (assetId : AssetId) (changedFields : List String)
  | assetDeleted (tenantId : TenantId) (assetId : AssetId)
  | scanUpdated (tenantId : TenantId) (scanId : ScanId) (changedFields : List String)
  | scanDeleted (tenantId : TenantId) (scanId : ScanId)
  | vulnerabilityUpdated (tenantId : TenantId) (vulnerabilityId : VulnerabilityId)
      (changedFields : List String)
  | vulnerabilityDeleted (tenantId : TenantId) (vulnerabilityId : VulnerabilityId)
  | reportUpdated (tenantId : TenantId) (reportId : ReportId) (changedFields : List String)
  | reportDeleted (tenantId : TenantId) (reportId : ReportId)
  deriving DecidableEq, Repr

inductive Answer where
  | asset (row : Option Asset)
  | assets (items : List (AssetId × Asset)) (total : Nat)
  | scan (row : Option (Scan × Stamps))
  | scans (items : List (ScanId × Scan × Stamps)) (total : Nat)
  | vulnerability (row : Option Vulnerability)
  | vulnerabilities (items : List (VulnerabilityId × Vulnerability)) (total : Nat)
  | report (row : Option Report)
  | reports (items : List (ReportId × Report)) (total : Nat)
  | deleted (found : Bool)
  | level (level : String)
  | enrichments (rows : List (String × EnrichmentId × VulnerabilityEnrichment))

/-- `asset` and `scan` are the domain errors of their services, `noResult` is that of
`scalar_one` and `redis` that of `publish`. -/
inductive Raised where
  | asset (error : Assets.ServiceError)
  | scan (error : Scans.ServiceError)
  | noResult
  | redis

abbrev Reply := Except Raised Answer

/-- The calls that only read. -/
inductive Query where
  | getAsset (assetId : AssetId)
  | listAssets (limit offset : Nat)
  | getScan (scanId : ScanId)
  | listScans (limit offset : Nat) (assetId : Option AssetId)
  | getVulnerability (vulnerabilityId : VulnerabilityId)
  | listVulnerabilities (limit offset : Nat) (scanId : Option ScanId)
  | getReport (reportId : ReportId)
  | listReports (limit offset : Nat) (assetId : Option AssetId) (reportType : Option ReportType)
      (status : Option ReportStatus)
  | visibleVulnerability (vulnerabilityId : VulnerabilityId)
  | visibleScan (scanId : ScanId)
  | tenantLevel
  | enrichmentRows (vulnerabilityId : VulnerabilityId) (functions : List String)
  | scanPending (scanId : ScanId) (functions : List String)

inductive Command where
  | updateAsset (assetId : AssetId) (data : AssetUpdate)
  | deleteAsset (assetId : AssetId)
  | updateScan (scanId : ScanId) (data : ScanUpdate)
  | deleteScan (scanId : ScanId)
  | cancelScan (scanId : ScanId)
  | dispatchScan (scanId : ScanId)
  | updateVulnerability (vulnerabilityId : VulnerabilityId) (data : VulnerabilityUpdate)
  | deleteVulnerability (vulnerabilityId : VulnerabilityId)
  | updateReport (reportId : ReportId) (data : ReportUpdate)
  | deleteReport (reportId : ReportId)

/-- The calls of the services and of the enrichment queries that take a `tenant_id`. -/
inductive Request where
  | query (asked : Query)
  | command (given : Command)

/-- The clocks of the database and of the server during a call, and what becomes of the command
that publishes its event. -/
structure Moment where
  now : Timestamp
  clock : Timestamp
  publish : Fate
  deriving DecidableEq, Repr

structure Texts extends Assets.Texts where
  repr : String → String

/-- What a call returns or raises, and what it publishes. -/
abbrev Output := Reply × List Event

def answer (given : Answer) (database : Database) : Output × Database :=
  ((.ok given, []), database)

def raise (error : Raised) (database : Database) : Output × Database :=
  ((.error error, []), database)

/-- The commit is made, then the event is published. -/
def publish (fate : Fate) (event : Event) (given : Answer) (database : Database) :
    Output × Database :=
  ((fate.branch (.ok given) (.error .redis), fate.settle (· ++ [event]) []), database)

/-- `list_scans`. -/
def listScans (tenantId : Option TenantId) (limit offset : Nat) (assetId : Option AssetId)
    (database : Database) : List (ScanId × Scan × Stamps) × Nat :=
  let (items, total) := database.scans.listing Scan.tenantId tenantId
    (fun row => assetId.all (row.assetId == ·)) (fun id _ => (database.scanStamps id).createdAt)
    limit offset
  (items.map fun item => (item.1, item.2, database.scanStamps item.1), total)

section

variable (texts : Texts) (tenantId : Option TenantId) (moment : Moment) (database : Database)

namespace Query

/-- The row of a scan with its stamps. -/
def stamped (row : Option Scan) (scanId : ScanId) : Option (Scan × Stamps) :=
  row.map fun scan => (scan, database.scanStamps scanId)

/-- `tenant_level`. -/
def levelReply : Reply :=
  match tenantId.bind (Enrichment.tenantLevel database.tenants) with
  | some level => .ok (.level level)
  | none => .error .noResult

/-- `visible_vulnerability` and `enrichment_rows`. -/
def enrichmentAnswer (vulnerabilityId : VulnerabilityId) (functions : List String) : Answer :=
  match Enrichment.visibleVulnerability vulnerabilityId tenantId database.vulnerabilities with
  | none => .vulnerability none
  | some row =>
      .enrichments (Enrichment.enrichmentRows vulnerabilityId row functions database.enrichments)

/-- `visible_scan` and `scan_pending`. -/
def pendingAnswer (scanId : ScanId) (functions : List String) : Answer :=
  match Enrichment.visibleScan scanId tenantId database.scans with
  | none => .scan none
  | some scan =>
      let (items, total) := Enrichment.scanPending scanId scan functions database.vulnerabilities
        database.enrichments
      .vulnerabilities items total

def reply : Query → Reply
  | getAsset assetId => .ok (.asset (Assets.getAsset assetId tenantId database.assets))
  | listAssets limit offset =>
      let (items, total) := Assets.listAssets tenantId limit offset database.assets
      .ok (.assets items total)
  | getScan scanId =>
      .ok (.scan (stamped database (Scans.getScan scanId tenantId database.scans) scanId))
  | listScans limit offset assetId =>
      let (items, total) := Tenancy.listScans tenantId limit offset assetId database
      .ok (.scans items total)
  | getVulnerability vulnerabilityId =>
      .ok (.vulnerability (Vulnerabilities.getVulnerability vulnerabilityId tenantId
        database.vulnerabilities))
  | listVulnerabilities limit offset scanId =>
      let (items, total) := Vulnerabilities.listVulnerabilities tenantId limit offset scanId
        database.vulnerabilities
      .ok (.vulnerabilities items total)
  | getReport reportId => .ok (.report (Reports.getReport reportId tenantId database.reports))
  | listReports limit offset assetId reportType status =>
      let (items, total) := Reports.listReports tenantId limit offset assetId reportType status
        database.reports
      .ok (.reports items total)
  | visibleVulnerability vulnerabilityId =>
      .ok (.vulnerability (Enrichment.visibleVulnerability vulnerabilityId tenantId
        database.vulnerabilities))
  | visibleScan scanId =>
      .ok (.scan (stamped database (Enrichment.visibleScan scanId tenantId database.scans)
        scanId))
  | tenantLevel => levelReply tenantId database
  | enrichmentRows vulnerabilityId functions =>
      .ok (enrichmentAnswer tenantId database vulnerabilityId functions)
  | scanPending scanId functions => .ok (pendingAnswer tenantId database scanId functions)

end Query

namespace Command

/-- `update_asset`, which publishes even where nothing has changed. -/
def updateAssetCall (assetId : AssetId) (data : AssetUpdate) : Output × Database :=
  match Assets.updateAsset texts.toTexts moment.clock assetId tenantId data database.assets with
  | .error error => raise (.asset error) database
  | .ok none => answer (.asset none) database
  | .ok (some (row, changed)) =>
      publish moment.publish (.assetUpdated row.tenantId assetId changed) (.asset (some row))
        (database.putAsset assetId row)

/-- `delete_asset`. -/
def deleteAssetCall (assetId : AssetId) : Output × Database :=
  match Assets.getAsset assetId tenantId database.assets with
  | none => answer (.deleted false) database
  | some row =>
      publish moment.publish (.assetDeleted row.tenantId assetId) (.deleted true)
        (database.deleteAssets fun id _ => id == assetId)

/-- `update_scan`. -/
def updateScanCall (scanId : ScanId) (data : ScanUpdate) : Output × Database :=
  match Scans.getScan scanId tenantId database.scans with
  | none => answer (.scan none) database
  | some scan =>
      let after := database.withScans _
        (Scans.updateScan_outcome scanId tenantId data (.start database.scans))
      match (Scans.updateScan scanId tenantId data (.start database.scans)).1 with
      | .error error => raise (.scan error) after
      | .ok none => answer (.scan none) after
      | .ok (some []) => answer (.scan (after.scanRow scanId)) after
      | .ok (some changed) =>
          let stamped := after.stampScan scanId moment.clock
          publish moment.publish (.scanUpdated scan.tenantId scanId changed)
            (.scan (stamped.scanRow scanId)) stamped

/-- `delete_scan`. -/
def deleteScanCall (scanId : ScanId) : Output × Database :=
  match Scans.getScan scanId tenantId database.scans with
  | none => answer (.deleted false) database
  | some scan =>
      let cascaded := database.deleteVulnerabilities fun _ row =>
        database.orphanedVulnerability (fun id _ => id == scanId) row
      publish moment.publish (.scanDeleted scan.tenantId scanId) (.deleted true)
        (cascaded.withScans _ (Scans.deleteScan_outcome scanId tenantId (.start cascaded.scans)))

/-- The end of `cancel_scan` and `dispatch_scan`, with what they committed. -/
def scanReply (scanId : ScanId) (after : Database) :
    Except Scans.ServiceError (Option Scan) → Output × Database
  | .error error => raise (.scan error) after
  | .ok none => answer (.scan none) after
  | .ok (some _) =>
      let stamped := after.stampScan scanId moment.clock
      answer (.scan (stamped.scanRow scanId)) stamped

/-- `cancel_scan`. -/
def cancelScanCall (scanId : ScanId) : Output × Database :=
  match Scans.getScan scanId tenantId database.scans with
  | none => answer (.scan none) database
  | some _ =>
      let outcome := Scans.cancelScan_outcome texts.repr scanId tenantId moment.clock
        (.start database.scans)
      scanReply moment scanId (database.withScans _ outcome)
        (Scans.cancelScan texts.repr scanId tenantId moment.clock (.start database.scans)).1

/-- `dispatch_scan`. -/
def dispatchScanCall (scanId : ScanId) : Output × Database :=
  match Scans.getScan scanId tenantId database.scans with
  | none => answer (.scan none) database
  | some scan =>
      match database.tenants scan.tenantId with
      | none => raise .noResult database
      | some tenant =>
          let outcome := Scans.dispatchScan_outcome scanId tenantId tenant.scansPerDay moment.now
            (.start database.scans)
          scanReply moment scanId (database.withScans _ outcome)
            (Scans.dispatchScan scanId tenantId tenant.scansPerDay moment.now
              (.start database.scans)).1

/-- `update_vulnerability`. -/
def updateVulnerabilityCall (vulnerabilityId : VulnerabilityId) (data : VulnerabilityUpdate) :
    Output × Database :=
  match Vulnerabilities.updateVulnerability moment.now moment.clock vulnerabilityId tenantId data
      database.vulnerabilities with
  | none => answer (.vulnerability none) database
  | some (row, []) =>
      answer (.vulnerability (some row)) (database.putVulnerability vulnerabilityId row)
  | some (row, changed) =>
      publish moment.publish (.vulnerabilityUpdated row.tenantId vulnerabilityId changed)
        (.vulnerability (some row)) (database.putVulnerability vulnerabilityId row)

/-- `delete_vulnerability`. -/
def deleteVulnerabilityCall (vulnerabilityId : VulnerabilityId) : Output × Database :=
  match Vulnerabilities.getVulnerability vulnerabilityId tenantId database.vulnerabilities with
  | none => answer (.deleted false) database
  | some row =>
      publish moment.publish (.vulnerabilityDeleted row.tenantId vulnerabilityId) (.deleted true)
        (database.deleteVulnerabilities fun id _ => id == vulnerabilityId)

/-- `update_report`. -/
def updateReportCall (reportId : ReportId) (data : ReportUpdate) : Output × Database :=
  match Reports.updateReport moment.clock reportId tenantId data database.reports with
  | none => answer (.report none) database
  | some (row, []) => answer (.report (some row)) (database.putReport reportId row)
  | some (row, changed) =>
      publish moment.publish (.reportUpdated row.tenantId reportId changed) (.report (some row))
        (database.putReport reportId row)

/-- `delete_report`. -/
def deleteReportCall (reportId : ReportId) : Output × Database :=
  match Reports.getReport reportId tenantId database.reports with
  | none => answer (.deleted false) database
  | some row =>
      publish moment.publish (.reportDeleted row.tenantId reportId) (.deleted true)
        (database.deleteReports fun id _ => id == reportId)

def run : Command → Output × Database
  | .updateAsset assetId data => updateAssetCall texts tenantId moment database assetId data
  | .deleteAsset assetId => deleteAssetCall tenantId moment database assetId
  | .updateScan scanId data => updateScanCall tenantId moment database scanId data
  | .deleteScan scanId => deleteScanCall tenantId moment database scanId
  | .cancelScan scanId => cancelScanCall texts tenantId moment database scanId
  | .dispatchScan scanId => dispatchScanCall tenantId moment database scanId
  | .updateVulnerability vulnerabilityId data =>
      updateVulnerabilityCall tenantId moment database vulnerabilityId data
  | .deleteVulnerability vulnerabilityId =>
      deleteVulnerabilityCall tenantId moment database vulnerabilityId
  | .updateReport reportId data => updateReportCall tenantId moment database reportId data
  | .deleteReport reportId => deleteReportCall tenantId moment database reportId

end Command

/-- One call, for the tenant of its `tenant_id`. -/
def Request.respond : Request → Output × Database
  | query asked => ((asked.reply tenantId database, []), database)
  | command given => given.run texts tenantId moment database

end

/-- Calls one after the other, each at its own moment. -/
def run (texts : Texts) (tenantId : Option TenantId) (calls : List (Moment × Request)) :
    Database → List Output × Database :=
  runAll (fun call database => call.2.respond texts tenantId call.1 database) calls

end Tenancy
