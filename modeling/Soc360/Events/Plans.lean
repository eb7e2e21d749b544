import Soc360.Events.Publishing

set_option autoImplicit false

namespace Publishing

open Assets (Asset AssetCreate AssetType AssetUpdate)
open Reports (Report ReportCreate ReportId ReportUpdate)
open Scans (AssetId Scan ScanCreate ScanId ScanUpdate TenantId Timestamp)
open Tenancy (Answer Database Texts)
open UnitOfWork (Act Desk Plan Weather Work appended)
open Vulnerabilities (Vulnerability VulnerabilityId VulnerabilityPayload VulnerabilityUpdate)

abbrev CallPlan : Type := Plan Database DomainEvent Raised Answer

/-- The event of an update of a scan, a vulnerability or a report. -/
def unlessUnchanged (changedFields : List String) (event : DomainEvent) : Option DomainEvent :=
  if changedFields = [] then none else some event

section

variable (texts : Texts) (moment : Moment) (database : Database)

def deletion {Row : Type} (found : Option Row) (rows : Database) (event : Row → DomainEvent) :
    CallPlan :=
  match found with
  | none => .stop (.ok (.deleted false))
  | some row => .transact false false rows (some (event row)) (.deleted true)

/-- The transaction and the event of a call. -/
def Operation.plan : Operation → CallPlan
  | createAsset data tenantId assetId =>
      match Assets.validateAssetValue texts.toTexts (some data.type) (some data.value) with
      | .error error => .stop (.error (.asset error))
      | .ok canonical =>
          let asset : Asset := ⟨tenantId, canonical, data.type, moment.clock, moment.clock⟩
          .ofWrite false (some (.assetCreated tenantId assetId data.type canonical moment.clock))
            (fun _ => .asset (some asset)) (insertAsset texts data assetId asset database)
  | updateAsset assetId tenantId data =>
      match Assets.getAsset assetId tenantId database.assets with
      | none => .stop (.ok (.asset none))
      | some asset =>
          match data.edit texts.toTexts moment.clock asset with
          | .error error => .stop (.error (.asset error))
          | .ok (row, changedFields) =>
              .ofWrite false (some (.later (.assetUpdated row.tenantId assetId changedFields)))
                (fun _ => .asset (some row)) (writeAsset assetId asset row database)
  | deleteAsset assetId tenantId =>
      deletion (Assets.getAsset assetId tenantId database.assets)
        (database.deleteAssets fun id _ => id == assetId)
        fun asset => .later (.assetDeleted asset.tenantId assetId)
  | createScan data tenantId scanId =>
      match Scans.validateScanConfig (some data.type) (.obj data.config) with
      | .error message => .stop (.error (.scan (.config message)))
      | .ok normalised =>
          let scan := data.row tenantId normalised
          .ofWrite false (some (.scanCreated tenantId scanId scan.assetId scan.name data.type
              scan.status scan.config moment.clock))
            (fun _ => .scan (some (scan, ⟨moment.clock, moment.clock⟩)))
            (insertScan texts moment scanId scan database)
  | updateScan scanId tenantId data =>
      match Scans.getScan scanId tenantId database.scans with
      | none => .stop (.ok (.scan none))
      | some scan =>
          let candidate := data.candidate scan
          match Scans.validateScanConfig candidate.type (Scans.configJson candidate.config) with
          | .error message => .stop (.error (.scan (.config message)))
          | .ok normalised =>
              let columns := candidate.edit normalised scan
              .ofWrite false (unlessUnchanged columns.changedFields
                  (.later (.scanUpdated scan.tenantId scanId columns.changedFields)))
                (fun after => .scan (after.scanRow scanId))
                (writeScan moment scanId scan candidate.name columns database)
  | deleteScan scanId tenantId =>
      deletion (Scans.getScan scanId tenantId database.scans)
        (database.deleteScans fun id _ => id == scanId)
        fun scan => .later (.scanDeleted scan.tenantId scanId)
  | createVulnerability data tenantId vulnerabilityId =>
      let row := (data.create vulnerabilityId tenantId (database.hasScan data.scanId tenantId)
        moment.clock).row
      .ofWrite false (some (.vulnerabilityCreated tenantId vulnerabilityId row.scanId row.title
          row.severity row.status row.cveId data.cvssScore row.createdAt))
        (fun _ => .vulnerability (some row)) (insertVulnerability vulnerabilityId row database)
  | updateVulnerability vulnerabilityId tenantId data =>
      match Vulnerabilities.getVulnerability vulnerabilityId tenantId database.vulnerabilities with
      | none => .stop (.ok (.vulnerability none))
      | some vulnerability =>
          let (row, changedFields) := data.edit moment.now vulnerability moment.clock
          .ofWrite (data.closing vulnerability) (unlessUnchanged changedFields
              (.later (.vulnerabilityUpdated row.tenantId vulnerabilityId changedFields)))
            (fun _ => .vulnerability (some row)) (.ok (database.putVulnerability vulnerabilityId row))
  | deleteVulnerability vulnerabilityId tenantId =>
      deletion (Vulnerabilities.getVulnerability vulnerabilityId tenantId database.vulnerabilities)
        (database.deleteVulnerabilities fun id _ => id == vulnerabilityId)
        fun row => .later (.vulnerabilityDeleted row.tenantId vulnerabilityId)
  | createReport data tenantId reportId =>
      let report := data.row tenantId moment.clock
      .ofWrite false (some (.reportCreated tenantId reportId report.assetId report.name
          report.reportType report.status report.createdAt))
        (fun _ => .report (some report)) (insertReport reportId report database)
  | updateReport reportId tenantId data =>
      match Reports.getReport reportId tenantId database.reports with
      | none => .stop (.ok (.report none))
      | some report =>
          let (row, changedFields) := data.edit report moment.clock
          .ofWrite false (unlessUnchanged changedFields
              (.later (.reportUpdated row.tenantId reportId changedFields)))
            (fun _ => .report (some row)) (.ok (database.putReport reportId row))
  | deleteReport reportId tenantId =>
      deletion (Reports.getReport reportId tenantId database.reports)
        (database.deleteReports fun id _ => id == reportId)
        fun row => .later (.reportDeleted row.tenantId reportId)

end

section

variable {texts : Texts} {moment : Moment} {database : Database}

theorem announce_eq {changedFields : List String} {event : DomainEvent} {answer : Answer} :
    (if changedFields = [] then return answer
      else do
        publish moment event
        return answer : Service) =
      (do
        Plan.announce moment.weather .redis (unlessUnchanged changedFields event)
        return answer) := by
  by_cases same : changedFields = []
  · rw [if_pos same, unlessUnchanged, if_pos same]
    rfl
  · rw [if_neg same, unlessUnchanged, if_neg same]
    rfl

theorem createAsset_eq (data : AssetCreate) (tenantId : TenantId) (assetId : AssetId) :
    createAsset texts moment data tenantId assetId (.start database) =
      ((Operation.createAsset data tenantId assetId).plan texts moment database).execute
        moment.weather .broken .redis (.start database) := by
  unfold Operation.plan
  dsimp only
  rw [createAsset]
  cases Assets.validateAssetValue texts.toTexts (some data.type) (some data.value) with
  | error error => rfl
  | ok canonical =>
      exact Plan.execute_ofWrite_always (insertAsset texts data assetId _) _ _

theorem updateAsset_eq (assetId : AssetId) (tenantId : Option TenantId) (data : AssetUpdate) :
    updateAsset texts moment assetId tenantId data (.start database) =
      ((Operation.updateAsset assetId tenantId data).plan texts moment database).execute
        moment.weather .broken .redis (.start database) := by
  unfold Operation.plan
  dsimp only
  rw [updateAsset, Work.bind_read, Desk.start]
  cases Assets.getAsset assetId tenantId database.assets with
  | none => rfl
  | some asset =>
      simp only
      cases data.edit texts.toTexts moment.clock asset with
      | error error => rfl
      | ok edited =>
          exact Plan.execute_ofWrite_always (writeAsset assetId asset edited.1) _ _

theorem deleteAsset_eq (assetId : AssetId) (tenantId : Option TenantId) :
    deleteAsset moment assetId tenantId (.start database) =
      ((Operation.deleteAsset assetId tenantId).plan texts moment database).execute moment.weather
        .broken .redis (.start database) := by
  unfold Operation.plan
  dsimp only
  rw [deleteAsset, Work.bind_read, Desk.start]
  cases Assets.getAsset assetId tenantId database.assets with
  | none => rfl
  | some row => rfl

theorem createScan_eq (data : ScanCreate) (tenantId : TenantId) (scanId : ScanId) :
    createScan texts moment data tenantId scanId (.start database) =
      ((Operation.createScan data tenantId scanId).plan texts moment database).execute
        moment.weather .broken .redis (.start database) := by
  unfold Operation.plan
  dsimp only
  rw [createScan]
  cases Scans.validateScanConfig (some data.type) (.obj data.config) with
  | error message => rfl
  | ok normalised =>
      exact Plan.execute_ofWrite_always (insertScan texts moment scanId _) _ _

theorem updateScan_eq (scanId : ScanId) (tenantId : Option TenantId) (data : ScanUpdate) :
    updateScan moment scanId tenantId data (.start database) =
      ((Operation.updateScan scanId tenantId data).plan texts moment database).execute
        moment.weather .broken .redis (.start database) := by
  unfold Operation.plan
  dsimp only
  rw [updateScan, Work.bind_read, Desk.start]
  cases Scans.getScan scanId tenantId database.scans with
  | none => rfl
  | some scan =>
      simp only
      cases Scans.validateScanConfig (data.candidate scan).type
        (Scans.configJson (data.candidate scan).config) with
      | error message => rfl
      | ok normalised =>
          simp only [announce_eq]
          exact Plan.execute_ofWrite false _ (writeScan moment scanId scan _ _) _

theorem deleteScan_eq (scanId : ScanId) (tenantId : Option TenantId) :
    deleteScan moment scanId tenantId (.start database) =
      ((Operation.deleteScan scanId tenantId).plan texts moment database).execute moment.weather
        .broken .redis (.start database) := by
  unfold Operation.plan
  dsimp only
  rw [deleteScan, Work.bind_read, Desk.start]
  cases Scans.getScan scanId tenantId database.scans with
  | none => rfl
  | some row => rfl

theorem createVulnerability_eq (data : VulnerabilityPayload) (tenantId : TenantId)
    (vulnerabilityId : VulnerabilityId) :
    createVulnerability moment data tenantId vulnerabilityId (.start database) =
      ((Operation.createVulnerability data tenantId vulnerabilityId).plan texts moment database).execute
        moment.weather .broken .redis (.start database) := by
  unfold Operation.plan
  dsimp only
  rw [createVulnerability, Work.bind_read]
  exact Plan.execute_ofWrite_always (insertVulnerability vulnerabilityId _) _ _

theorem updateVulnerability_eq (vulnerabilityId : VulnerabilityId) (tenantId : Option TenantId)
    (data : VulnerabilityUpdate) :
    updateVulnerability moment vulnerabilityId tenantId data (.start database) =
      ((Operation.updateVulnerability vulnerabilityId tenantId data).plan texts moment database).execute
        moment.weather .broken .redis (.start database) := by
  unfold Operation.plan
  dsimp only
  rw [updateVulnerability, Work.bind_read, Desk.start]
  cases Vulnerabilities.getVulnerability vulnerabilityId tenantId database.vulnerabilities with
  | none => rfl
  | some vulnerability =>
      simp only [announce_eq]
      exact Plan.execute_ofWrite (data.closing vulnerability) _
        (fun database : Database => .ok (database.putVulnerability vulnerabilityId
          (data.edit moment.now vulnerability moment.clock).1))
        fun _ => Answer.vulnerability (some (data.edit moment.now vulnerability moment.clock).1)

theorem deleteVulnerability_eq (vulnerabilityId : VulnerabilityId) (tenantId : Option TenantId) :
    deleteVulnerability moment vulnerabilityId tenantId (.start database) =
      ((Operation.deleteVulnerability vulnerabilityId tenantId).plan texts moment database).execute
        moment.weather .broken .redis (.start database) := by
  unfold Operation.plan
  dsimp only
  rw [deleteVulnerability, Work.bind_read, Desk.start]
  cases Vulnerabilities.getVulnerability vulnerabilityId tenantId database.vulnerabilities with
  | none => rfl
  | some row => rfl

theorem createReport_eq (data : ReportCreate) (tenantId : TenantId) (reportId : ReportId) :
    createReport moment data tenantId reportId (.start database) =
      ((Operation.createReport data tenantId reportId).plan texts moment database).execute
        moment.weather .broken .redis (.start database) := by
  unfold Operation.plan
  dsimp only
  rw [createReport]
  exact Plan.execute_ofWrite_always (insertReport reportId _) _ _

theorem updateReport_eq (reportId : ReportId) (tenantId : Option TenantId) (data : ReportUpdate) :
    updateReport moment reportId tenantId data (.start database) =
      ((Operation.updateReport reportId tenantId data).plan texts moment database).execute
        moment.weather .broken .redis (.start database) := by
  unfold Operation.plan
  dsimp only
  rw [updateReport, Work.bind_read, Desk.start]
  cases Reports.getReport reportId tenantId database.reports with
  | none => rfl
  | some report =>
      simp only [announce_eq]
      exact Plan.execute_ofWrite false _
        (fun database : Database => .ok (database.putReport reportId
          (data.edit report moment.clock).1))
        fun _ => Answer.report (some (data.edit report moment.clock).1)

theorem deleteReport_eq (reportId : ReportId) (tenantId : Option TenantId) :
    deleteReport moment reportId tenantId (.start database) =
      ((Operation.deleteReport reportId tenantId).plan texts moment database).execute moment.weather
        .broken .redis (.start database) := by
  unfold Operation.plan
  dsimp only
  rw [deleteReport, Work.bind_read, Desk.start]
  cases Reports.getReport reportId tenantId database.reports with
  | none => rfl
  | some row => rfl

/-- The services carry out their plans. -/
theorem Operation.run_eq (operation : Operation) :
    operation.run texts moment (.start database) =
      (operation.plan texts moment database).execute moment.weather .broken .redis
        (.start database) := by
  cases operation with
  | createAsset data tenantId assetId => exact createAsset_eq data tenantId assetId
  | updateAsset assetId tenantId data => exact updateAsset_eq assetId tenantId data
  | deleteAsset assetId tenantId => exact deleteAsset_eq assetId tenantId
  | createScan data tenantId scanId => exact createScan_eq data tenantId scanId
  | updateScan scanId tenantId data => exact updateScan_eq scanId tenantId data
  | deleteScan scanId tenantId => exact deleteScan_eq scanId tenantId
  | createVulnerability data tenantId vulnerabilityId =>
      exact createVulnerability_eq data tenantId vulnerabilityId
  | updateVulnerability vulnerabilityId tenantId data =>
      exact updateVulnerability_eq vulnerabilityId tenantId data
  | deleteVulnerability vulnerabilityId tenantId =>
      exact deleteVulnerability_eq vulnerabilityId tenantId
  | createReport data tenantId reportId => exact createReport_eq data tenantId reportId
  | updateReport reportId tenantId data => exact updateReport_eq reportId tenantId data
  | deleteReport reportId tenantId => exact deleteReport_eq reportId tenantId

end

end Publishing
