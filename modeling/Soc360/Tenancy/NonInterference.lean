import Soc360.Scans.Isolation
import Soc360.Tenancy.Database

set_option autoImplicit false

namespace Tenancy

open Assets (Asset)
open Enrichment (VulnerabilityEnrichment)
open Reports (Report ReportId)
open Scans (AssetId Scan ScanId TenantId Timestamp)
open Vulnerabilities (Vulnerability VulnerabilityId)

/-- Two databases with the same rows of one tenant. -/
structure Agrees (tenantId : TenantId) (first second : Database) : Prop where
  tenant : first.tenants tenantId = second.tenants tenantId
  assets : Table.Agree Asset.tenantId tenantId first.assets second.assets
  scans : Scans.AgreeScans tenantId first.scans second.scans
  stamps : ∀ id scan, first.scans.find id = some scan → scan.tenantId = tenantId →
    first.scanStamps id = second.scanStamps id
  vulnerabilities : Table.Agree Vulnerability.tenantId tenantId first.vulnerabilities
    second.vulnerabilities
  reports : Table.Agree Report.tenantId tenantId first.reports second.reports
  enrichments : Table.Agree VulnerabilityEnrichment.tenantId tenantId first.enrichments
    second.enrichments

section

variable {tenantId other : TenantId} {first second third database : Database}
  {assetId : AssetId} {scanId : ScanId} {vulnerabilityId : VulnerabilityId} {reportId : ReportId}

theorem Agrees.refl (tenantId : TenantId) (database : Database) :
    Agrees tenantId database database :=
  ⟨rfl, .refl, .refl, fun _ _ _ _ => rfl, .refl, .refl, .refl⟩

theorem Agrees.trans (before : Agrees tenantId first second)
    (after : Agrees tenantId second third) : Agrees tenantId first third := by
  refine ⟨before.tenant.trans after.tenant, before.assets.trans after.assets,
    before.scans.trans after.scans, ?_, before.vulnerabilities.trans after.vulnerabilities,
    before.reports.trans after.reports, before.enrichments.trans after.enrichments⟩
  intro id scan found own
  exact (before.stamps id scan found own).trans
    (after.stamps id scan (before.scans.find found own) own)

theorem Agrees.putAsset (agrees : Agrees tenantId first second) {before row : Asset}
    (found : first.assets.find assetId = some before) (own : before.tenantId = tenantId)
    (own' : row.tenantId = tenantId) :
    Agrees tenantId (first.putAsset assetId row) (second.putAsset assetId row) :=
  { agrees with assets := agrees.assets.put found own own' }

theorem Agrees.of_putAsset {before row : Asset}
    (found : database.assets.find assetId = some before) (own : before.tenantId = tenantId)
    (own' : row.tenantId = tenantId) (differ : other ≠ tenantId) :
    Agrees other database (database.putAsset assetId row) :=
  { Agrees.refl other database with
    assets := .of_put found (own'.trans own.symm) (own ▸ differ.symm) }

theorem Agrees.putVulnerability (agrees : Agrees tenantId first second)
    {before row : Vulnerability}
    (found : first.vulnerabilities.find vulnerabilityId = some before)
    (own : before.tenantId = tenantId) (own' : row.tenantId = tenantId) :
    Agrees tenantId (first.putVulnerability vulnerabilityId row)
      (second.putVulnerability vulnerabilityId row) :=
  { agrees with vulnerabilities := agrees.vulnerabilities.put found own own' }

theorem Agrees.of_putVulnerability {before row : Vulnerability}
    (found : database.vulnerabilities.find vulnerabilityId = some before)
    (own : before.tenantId = tenantId) (own' : row.tenantId = tenantId)
    (differ : other ≠ tenantId) :
    Agrees other database (database.putVulnerability vulnerabilityId row) :=
  { Agrees.refl other database with
    vulnerabilities := .of_put found (own'.trans own.symm) (own ▸ differ.symm) }

theorem Agrees.putReport (agrees : Agrees tenantId first second) {before row : Report}
    (found : first.reports.find reportId = some before) (own : before.tenantId = tenantId)
    (own' : row.tenantId = tenantId) :
    Agrees tenantId (first.putReport reportId row) (second.putReport reportId row) :=
  { agrees with reports := agrees.reports.put found own own' }

theorem Agrees.of_putReport {before row : Report}
    (found : database.reports.find reportId = some before) (own : before.tenantId = tenantId)
    (own' : row.tenantId = tenantId) (differ : other ≠ tenantId) :
    Agrees other database (database.putReport reportId row) :=
  { Agrees.refl other database with
    reports := .of_put found (own'.trans own.symm) (own ▸ differ.symm) }

/-- A cascade hits the same rows of the tenant in both databases. -/
theorem orphaned_agree {Key Row : Type} {owner : Row → TenantId} {parents parents' : Table Key Row}
    (agree : Table.Agree owner tenantId parents parents') {gone gone' : Key → Row → Bool}
    (same : ∀ key row, parents.find key = some row → owner row = tenantId →
      gone key row = gone' key row) (key : Key) :
    ((parents.find key).any fun row => gone key row && owner row == tenantId) =
      (parents'.find key).any fun row => gone' key row && owner row == tenantId :=
  agree.lookup key fun row found own => same key row found own

/-- A cascade from rows of one tenant spares the rows of the others. -/
theorem orphaned_frame {Key Row : Type} {owner : Row → TenantId} {parents : Table Key Row}
    {gone : Key → Row → Bool}
    (spares : ∀ key row, parents.find key = some row → owner row = other → gone key row = false)
    (key : Key) :
    ((parents.find key).any fun row => gone key row && owner row == other) = false := by
  refine Bool.eq_false_iff.mpr ?_
  intro hit
  obtain ⟨row, found, matched⟩ := (Option.any_eq_true _ _).mp hit
  obtain ⟨deleted, its⟩ := (Bool.and_eq_true _ _).mp matched
  rw [spares key row found (eq_of_beq its)] at deleted
  cases deleted

theorem Agrees.deleteVulnerabilities (agrees : Agrees tenantId first second)
    {gone gone' : VulnerabilityId → Vulnerability → Bool}
    (same : ∀ key row, first.vulnerabilities.find key = some row → row.tenantId = tenantId →
      gone key row = gone' key row) :
    Agrees tenantId (first.deleteVulnerabilities gone) (second.deleteVulnerabilities gone') := by
  refine { agrees with
    vulnerabilities := agrees.vulnerabilities.deleteWhere same
    enrichments := agrees.enrichments.deleteWhere ?_ }
  intro key row _ own
  rw [Database.orphanedEnrichment, Database.orphanedEnrichment, own]
  exact orphaned_agree agrees.vulnerabilities same row.vulnerabilityId

theorem Agrees.of_deleteVulnerabilities {gone : VulnerabilityId → Vulnerability → Bool}
    (spares : ∀ key row, database.vulnerabilities.find key = some row → row.tenantId = other →
      gone key row = false) : Agrees other database (database.deleteVulnerabilities gone) := by
  refine { Agrees.refl other database with
    vulnerabilities := .of_deleteWhere spares
    enrichments := .of_deleteWhere ?_ }
  intro key row _ own
  rw [Database.orphanedEnrichment, own]
  exact orphaned_frame spares row.vulnerabilityId

theorem Agrees.orphanedVulnerability (agrees : Agrees tenantId first second)
    {gone gone' : ScanId → Scan → Bool}
    (same : ∀ key row, first.scans.find key = some row → row.tenantId = tenantId →
      gone key row = gone' key row) (row : Vulnerability) (own : row.tenantId = tenantId) :
    first.orphanedVulnerability gone row = second.orphanedVulnerability gone' row := by
  rw [Database.orphanedVulnerability, Database.orphanedVulnerability, own]
  exact orphaned_agree agrees.scans same row.scanId

theorem orphanedVulnerability_frame {gone : ScanId → Scan → Bool}
    (spares : ∀ key row, database.scans.find key = some row → row.tenantId = other →
      gone key row = false) (row : Vulnerability) (its : row.tenantId = other) :
    database.orphanedVulnerability gone row = false := by
  rw [Database.orphanedVulnerability, its]
  exact orphaned_frame spares row.scanId

theorem Agrees.deleteScans (agrees : Agrees tenantId first second)
    {gone gone' : ScanId → Scan → Bool}
    (same : ∀ key row, first.scans.find key = some row → row.tenantId = tenantId →
      gone key row = gone' key row) :
    Agrees tenantId (first.deleteScans gone) (second.deleteScans gone') := by
  have cascaded := agrees.deleteVulnerabilities
    fun _ row _ own => agrees.orphanedVulnerability same row own
  refine { cascaded with scans := agrees.scans.deleteWhere same, stamps := ?_ }
  intro id scan found own
  change (first.scans.deleteWhere gone).find id = some scan at found
  rw [Table.find_deleteWhere, Option.filter_eq_some_iff] at found
  exact agrees.stamps id scan found.1 own

theorem Agrees.of_deleteScans {gone : ScanId → Scan → Bool}
    (spares : ∀ key row, database.scans.find key = some row → row.tenantId = other →
      gone key row = false) : Agrees other database (database.deleteScans gone) := by
  have cascaded : Agrees other database (database.deleteVulnerabilities fun _ row =>
      database.orphanedVulnerability gone row) :=
    .of_deleteVulnerabilities fun _ row _ its => orphanedVulnerability_frame spares row its
  exact { cascaded with scans := .of_deleteWhere spares }

theorem Agrees.deleteReports (agrees : Agrees tenantId first second)
    {gone gone' : ReportId → Report → Bool}
    (same : ∀ key row, first.reports.find key = some row → row.tenantId = tenantId →
      gone key row = gone' key row) :
    Agrees tenantId (first.deleteReports gone) (second.deleteReports gone') :=
  { agrees with reports := agrees.reports.deleteWhere same }

theorem Agrees.of_deleteReports {gone : ReportId → Report → Bool}
    (spares : ∀ key row, database.reports.find key = some row → row.tenantId = other →
      gone key row = false) : Agrees other database (database.deleteReports gone) :=
  { Agrees.refl other database with reports := .of_deleteWhere spares }

theorem Agrees.deleteAssets (agrees : Agrees tenantId first second)
    {gone gone' : AssetId → Asset → Bool}
    (same : ∀ key row, first.assets.find key = some row → row.tenantId = tenantId →
      gone key row = gone' key row) :
    Agrees tenantId (first.deleteAssets gone) (second.deleteAssets gone') := by
  have orphaned : ∀ (assetId : AssetId) (owner : TenantId), owner = tenantId →
      first.orphanedOfAsset gone assetId owner = second.orphanedOfAsset gone' assetId owner := by
    intro assetId owner own
    rw [Database.orphanedOfAsset, Database.orphanedOfAsset, own]
    exact orphaned_agree agrees.assets same assetId
  have scans := agrees.deleteScans fun _ row _ own => orphaned row.assetId row.tenantId own
  have reports := scans.deleteReports fun _ row _ own => orphaned row.assetId row.tenantId own
  exact { reports with assets := agrees.assets.deleteWhere same }

theorem Agrees.of_deleteAssets {gone : AssetId → Asset → Bool}
    (spares : ∀ key row, database.assets.find key = some row → row.tenantId = other →
      gone key row = false) : Agrees other database (database.deleteAssets gone) := by
  have orphaned : ∀ (assetId : AssetId) (owner : TenantId), owner = other →
      database.orphanedOfAsset gone assetId owner = false := by
    intro assetId owner its
    rw [Database.orphanedOfAsset, its]
    exact orphaned_frame spares assetId
  have scans : Agrees other database (database.deleteScans fun _ row =>
      database.orphanedOfAsset gone row.assetId row.tenantId) :=
    .of_deleteScans fun _ row _ its => orphaned row.assetId row.tenantId its
  have reports := scans.trans
    (.of_deleteReports fun _ row _ its => orphaned row.assetId row.tenantId its)
  exact { reports with assets := .of_deleteWhere spares }

/-- The DELETE of one row spares the rows of the other tenants. -/
theorem deleted_spares {Row : Type} {owner : Row → TenantId} {table : Table Nat Row} {id : Nat}
    {found : Row} (stored : table.find id = some found) (own : owner found = tenantId)
    (differ : other ≠ tenantId) (key : Nat) (row : Row) (there : table.find key = some row)
    (its : owner row = other) : (key == id) = false := by
  refine beq_eq_false_iff_ne.mpr ?_
  rintro rfl
  rw [stored] at there
  cases there
  exact differ (its.symm.trans own)

theorem Agrees.stamped (agrees : Agrees tenantId first second) (scanId : ScanId) :
    Query.stamped first (first.scans.visible Scan.tenantId (some tenantId) scanId) scanId =
      Query.stamped second (second.scans.visible Scan.tenantId (some tenantId) scanId) scanId := by
  rw [← agrees.scans.visible scanId]
  cases found : first.scans.visible Scan.tenantId (some tenantId) scanId with
  | none => rfl
  | some scan =>
      obtain ⟨stored, own⟩ := Table.visible_some.mp found
      simp only [Query.stamped, Option.map_some, agrees.stamps scanId scan stored own]

theorem Agrees.listScans (agrees : Agrees tenantId first second) (limit offset : Nat)
    (assetId : Option AssetId) :
    listScans (some tenantId) limit offset assetId first =
      listScans (some tenantId) limit offset assetId second := by
  have times : ∀ id scan, first.scans.find id = some scan → scan.tenantId = tenantId →
      (first.scanStamps id).createdAt = (second.scanStamps id).createdAt := by
    intro id scan found own
    rw [agrees.stamps id scan found own]
  rw [Tenancy.listScans, Tenancy.listScans, ← agrees.scans.listing first.listedScans
    second.listedScans (fun row => assetId.all (row.assetId == ·)) limit offset times]
  refine Prod.ext (List.map_congr_left ?_) rfl
  rintro ⟨id, scan⟩ member
  obtain ⟨found, own⟩ := Table.mem_listing first.listedScans member
  rw [agrees.stamps id scan found own]

theorem Agrees.enrichmentAnswer (agrees : Agrees tenantId first second)
    (functions : List String) :
    Query.enrichmentAnswer (some tenantId) first vulnerabilityId functions =
      Query.enrichmentAnswer (some tenantId) second vulnerabilityId functions := by
  unfold Query.enrichmentAnswer Enrichment.visibleVulnerability
  rw [agrees.vulnerabilities.visible vulnerabilityId]
  cases found : second.vulnerabilities.visible Vulnerability.tenantId (some tenantId)
      vulnerabilityId with
  | none => rfl
  | some row =>
      have own := (Table.visible_some.mp found).2
      simp only
      rw [Enrichment.enrichmentRows_agree agrees.enrichments first.listedEnrichments
        second.listedEnrichments own]

theorem Agrees.pendingAnswer (agrees : Agrees tenantId first second) (functions : List String) :
    Query.pendingAnswer (some tenantId) first scanId functions =
      Query.pendingAnswer (some tenantId) second scanId functions := by
  unfold Query.pendingAnswer Enrichment.visibleScan
  rw [agrees.scans.visible scanId]
  cases found : second.scans.visible Scan.tenantId (some tenantId) scanId with
  | none => rfl
  | some scan =>
      have own := (Table.visible_some.mp found).2
      simp only
      rw [Enrichment.scanPending_agree agrees.vulnerabilities agrees.enrichments
        ⟨first.listedVulnerabilities, first.listedEnrichments⟩
        ⟨second.listedVulnerabilities, second.listedEnrichments⟩ own]

/-- Every query carries the predicate. -/
theorem Query.reply_agree (agrees : Agrees tenantId first second) (query : Query) :
    query.reply (some tenantId) first = query.reply (some tenantId) second := by
  cases query with
  | getAsset assetId =>
      simp only [Query.reply, Assets.getAsset]
      rw [agrees.assets.visible assetId]
  | listAssets limit offset =>
      simp only [Query.reply, Assets.listAssets]
      rw [agrees.assets.listing first.listedAssets second.listedAssets _ limit offset
        fun _ _ _ _ => rfl]
  | getScan scanId =>
      exact congrArg (fun row => Except.ok (Answer.scan row)) (agrees.stamped scanId)
  | listScans limit offset assetId =>
      simp only [Query.reply]
      rw [agrees.listScans limit offset assetId]
  | getVulnerability vulnerabilityId =>
      simp only [Query.reply, Vulnerabilities.getVulnerability]
      rw [agrees.vulnerabilities.visible vulnerabilityId]
  | listVulnerabilities limit offset scanId =>
      simp only [Query.reply, Vulnerabilities.listVulnerabilities]
      rw [agrees.vulnerabilities.listing first.listedVulnerabilities
        second.listedVulnerabilities _ limit offset fun _ _ _ _ => rfl]
  | getReport reportId =>
      simp only [Query.reply, Reports.getReport]
      rw [agrees.reports.visible reportId]
  | listReports limit offset assetId reportType status =>
      simp only [Query.reply, Reports.listReports]
      rw [agrees.reports.listing first.listedReports second.listedReports _ limit offset
        fun _ _ _ _ => rfl]
  | visibleVulnerability vulnerabilityId =>
      simp only [Query.reply, Enrichment.visibleVulnerability]
      rw [agrees.vulnerabilities.visible vulnerabilityId]
  | visibleScan scanId =>
      exact congrArg (fun row => Except.ok (Answer.scan row)) (agrees.stamped scanId)
  | tenantLevel =>
      simp only [Query.reply, Query.levelReply, Option.bind_some, Enrichment.tenantLevel,
        agrees.tenant]
  | enrichmentRows vulnerabilityId functions =>
      simp only [Query.reply]
      rw [agrees.enrichmentAnswer functions]
  | scanPending scanId functions =>
      simp only [Query.reply]
      rw [agrees.pendingAnswer functions]

section

variable {session session' : Session ScanId Scan} {scan : Scan} {clock : Timestamp}

theorem Agrees.withScans (agrees : Agrees tenantId first second)
    (outcome : Scans.Outcome (.start first.scans) session)
    (outcome' : Scans.Outcome (.start second.scans) session')
    (scans : Scans.AgreeScans tenantId session.committed session'.committed)
    (spares : Scans.Spares tenantId first.scans session.committed) :
    Agrees tenantId (first.withScans session outcome) (second.withScans session' outcome') := by
  refine { agrees with scans := scans, stamps := ?_ }
  intro id scan found own
  obtain ⟨before, stored, same⟩ := spares.rows id scan found
  exact agrees.stamps id before stored (same.trans own)

theorem Agrees.of_withScans (outcome : Scans.Outcome (.start first.scans) session)
    (spares : Scans.Spares tenantId first.scans session.committed) (differ : other ≠ tenantId) :
    Agrees other first (first.withScans session outcome) :=
  { Agrees.refl other first with scans := spares.frame other differ }

theorem Agrees.stampScan (agrees : Agrees tenantId first second) (scanId : ScanId)
    (clock : Timestamp) :
    Agrees tenantId (first.stampScan scanId clock) (second.stampScan scanId clock) := by
  refine { agrees with stamps := ?_ }
  intro id scan found own
  have before := agrees.stamps id scan found own
  change Function.update first.scanStamps scanId _ id = Function.update second.scanStamps scanId _ id
  by_cases same : id = scanId
  · subst same
    rw [Function.update_self, Function.update_self, before]
  · rw [Function.update_of_ne same, Function.update_of_ne same]
    exact before

theorem Agrees.of_stampScan
    (others : ∀ scan, database.scans.find scanId = some scan → scan.tenantId ≠ other) :
    Agrees other database (database.stampScan scanId clock) := by
  refine { Agrees.refl other database with stamps := ?_ }
  intro id scan found its
  change database.scanStamps id = Function.update database.scanStamps scanId _ id
  rw [Function.update_of_ne]
  rintro rfl
  exact others scan found its

theorem Agrees.scanRow (agrees : Agrees tenantId first second)
    (own : ∀ scan, first.scans.find scanId = some scan → scan.tenantId = tenantId)
    (own' : ∀ scan, second.scans.find scanId = some scan → scan.tenantId = tenantId) :
    first.scanRow scanId = second.scanRow scanId := by
  rw [Database.scanRow, Database.scanRow]
  cases found : first.scans.find scanId with
  | none =>
      cases found' : second.scans.find scanId with
      | none => rfl
      | some scan =>
          have stored := agrees.scans.symm.find found' (own' scan found')
          rw [found] at stored
          cases stored
  | some scan =>
      have mine := own scan found
      rw [agrees.scans.find found mine, Option.map_some, Option.map_some,
        agrees.stamps scanId scan found mine]

/-- The scan that a call has found is still one of the tenant. -/
theorem spared_own (found : first.scans.find scanId = some scan) (own : scan.tenantId = tenantId)
    (spares : Scans.Spares tenantId first.scans session.committed) (after : Scan)
    (stored : session.committed.find scanId = some after) : after.tenantId = tenantId := by
  obtain ⟨before, there, same⟩ := spares.rows scanId after stored
  rw [found] at there
  cases there
  exact same.symm.trans own

/-- Two calls on a scan of the tenant that wrote alike leave the same row, also with the
`onupdate`. -/
theorem Agrees.scanRows (agrees : Agrees tenantId first second)
    (found : first.scans.find scanId = some scan) (own : scan.tenantId = tenantId)
    (outcome : Scans.Outcome (.start first.scans) session)
    (outcome' : Scans.Outcome (.start second.scans) session')
    (scans : Scans.AgreeScans tenantId session.committed session'.committed)
    (spares : Scans.Spares tenantId first.scans session.committed)
    (spares' : Scans.Spares tenantId second.scans session'.committed) (clock : Timestamp) :
    (first.withScans session outcome).scanRow scanId =
        (second.withScans session' outcome').scanRow scanId ∧
      ((first.withScans session outcome).stampScan scanId clock).scanRow scanId =
        ((second.withScans session' outcome').stampScan scanId clock).scanRow scanId := by
  have written := agrees.withScans outcome outcome' scans spares
  have own_now := spared_own found own spares
  have own_now' := spared_own (agrees.scans.find found own) own spares'
  exact ⟨written.scanRow own_now own_now',
    (written.stampScan scanId clock).scanRow own_now own_now'⟩

theorem Agrees.of_stampedScan (found : first.scans.find scanId = some scan)
    (own : scan.tenantId = tenantId) (outcome : Scans.Outcome (.start first.scans) session)
    (spares : Scans.Spares tenantId first.scans session.committed) (differ : other ≠ tenantId) :
    Agrees other first ((first.withScans session outcome).stampScan scanId clock) := by
  refine (Agrees.of_withScans outcome spares differ).trans (.of_stampScan ?_)
  intro after stored its
  exact differ (its.symm.trans (spared_own found own spares after stored))

end

section

variable {texts : Texts} {moment : Moment}

/-- The calls that end in `scanReply`. -/
theorem scanReply_agree (agrees : Agrees tenantId first second) {scan : Scan}
    (found : first.scans.find scanId = some scan) (own : scan.tenantId = tenantId)
    {call : Table ScanId Scan → Except Scans.ServiceError (Option Scan) × Session ScanId Scan}
    (outcome : ∀ table, Scans.Outcome (.start table) (call table).2)
    (agree : (call first.scans).1 = (call second.scans).1 ∧
      Scans.AgreeScans tenantId (call first.scans).2.committed (call second.scans).2.committed)
    (spares : ∀ table, Scans.Spares tenantId table (call table).2.committed) :
    (Command.scanReply moment scanId (first.withScans _ (outcome first.scans))
          (call first.scans).1).1 =
        (Command.scanReply moment scanId (second.withScans _ (outcome second.scans))
          (call second.scans).1).1 ∧
      Agrees tenantId (Command.scanReply moment scanId
          (first.withScans _ (outcome first.scans)) (call first.scans).1).2
        (Command.scanReply moment scanId (second.withScans _ (outcome second.scans))
          (call second.scans).1).2 := by
  have written := agrees.withScans (outcome first.scans) (outcome second.scans) agree.2
    (spares first.scans)
  have rows := agrees.scanRows found own (outcome first.scans) (outcome second.scans) agree.2
    (spares first.scans) (spares second.scans) moment.clock
  rw [← agree.1]
  cases (call first.scans).1 with
  | error error => exact ⟨rfl, written⟩
  | ok row =>
      cases row with
      | none => exact ⟨rfl, written⟩
      | some row =>
          refine ⟨?_, written.stampScan scanId moment.clock⟩
          simp only [Command.scanReply, answer, rows.2]

theorem scanReply_frame {scan : Scan} (found : database.scans.find scanId = some scan)
    (own : scan.tenantId = tenantId) (differ : other ≠ tenantId)
    {call : Except Scans.ServiceError (Option Scan) × Session ScanId Scan}
    (outcome : Scans.Outcome (.start database.scans) call.2)
    (spares : Scans.Spares tenantId database.scans call.2.committed) :
    Agrees other database
      (Command.scanReply moment scanId (database.withScans _ outcome) call.1).2 := by
  cases call.1 with
  | error error => exact .of_withScans outcome spares differ
  | ok row =>
      cases row with
      | none => exact .of_withScans outcome spares differ
      | some row => exact .of_stampedScan found own outcome spares differ

theorem updateAsset_confined (assetId : AssetId) (data : Assets.AssetUpdate) :
    Confined Agrees tenantId fun database =>
      Command.updateAssetCall texts (some tenantId) moment database assetId data := by
  refine ⟨?_, ?_⟩
  · intro first second agrees
    simp only [Command.updateAssetCall]
    rw [← Assets.updateAsset_agree agrees.assets first.listedAssets second.listedAssets]
    split
    next => exact ⟨rfl, agrees⟩
    next => exact ⟨rfl, agrees⟩
    next row changed updated =>
      obtain ⟨before, found, own, own'⟩ := Assets.updateAsset_own updated
      exact ⟨rfl, agrees.putAsset found own own'⟩
  · intro other database differ
    simp only [Command.updateAssetCall]
    split
    next => exact .refl other database
    next => exact .refl other database
    next row changed updated =>
      obtain ⟨before, found, own, own'⟩ := Assets.updateAsset_own updated
      exact .of_putAsset found own own' differ

theorem deleteAsset_confined (assetId : AssetId) :
    Confined Agrees tenantId fun database =>
      Command.deleteAssetCall (some tenantId) moment database assetId := by
  refine ⟨?_, ?_⟩
  · intro first second agrees
    simp only [Command.deleteAssetCall, Assets.getAsset]
    rw [← agrees.assets.visible assetId]
    split
    next => exact ⟨rfl, agrees⟩
    next => exact ⟨rfl, agrees.deleteAssets fun _ _ _ _ => rfl⟩
  · intro other database differ
    simp only [Command.deleteAssetCall, Assets.getAsset]
    split
    next => exact .refl other database
    next row found =>
      obtain ⟨stored, own⟩ := Table.visible_some.mp found
      exact .of_deleteAssets (deleted_spares stored own differ)

theorem updateScan_confined (scanId : ScanId) (data : Scans.ScanUpdate) :
    Confined Agrees tenantId fun database =>
      Command.updateScanCall (some tenantId) moment database scanId data := by
  have outcome := fun database : Database =>
    Scans.updateScan_outcome scanId (some tenantId) data (.start database.scans)
  refine ⟨?_, ?_⟩
  · intro first second agrees
    have agree : (Scans.updateScan scanId (some tenantId) data (.start first.scans)).1 = _ ∧ _ :=
      Scans.updateScan_agree agrees.scans first.listedScans second.listedScans
    have written := agrees.withScans (outcome first) (outcome second) agree.2
      Scans.updateScan_spares
    simp only [Command.updateScanCall]
    rw [← Scans.getScan_agree agrees.scans, ← agree.1]
    split
    next => exact ⟨rfl, agrees⟩
    next scan found =>
      obtain ⟨stored, own⟩ := Scans.getScan_own found
      have rows := agrees.scanRows stored own (outcome first) (outcome second) agree.2
        Scans.updateScan_spares Scans.updateScan_spares moment.clock
      split
      next => exact ⟨rfl, written⟩
      next => exact ⟨rfl, written⟩
      next =>
        refine ⟨?_, written⟩
        simp only [answer, rows.1]
      next =>
        refine ⟨?_, written.stampScan scanId moment.clock⟩
        simp only [publish, rows.2]
  · intro other database differ
    simp only [Command.updateScanCall]
    split
    next => exact .refl other database
    next scan found =>
      obtain ⟨stored, own⟩ := Scans.getScan_own found
      have written : Agrees other database (database.withScans _ (outcome database)) :=
        .of_withScans _ Scans.updateScan_spares differ
      split
      next => exact written
      next => exact written
      next => exact written
      next => exact .of_stampedScan stored own (outcome database) Scans.updateScan_spares differ

theorem deleteScan_confined (scanId : ScanId) :
    Confined Agrees tenantId fun database =>
      Command.deleteScanCall (some tenantId) moment database scanId := by
  have outcome := fun table : Table ScanId Scan =>
    Scans.deleteScan_outcome scanId (some tenantId) (.start table)
  refine ⟨?_, ?_⟩
  · intro first second agrees
    have same : ∀ key row, first.scans.find key = some row → row.tenantId = tenantId →
        (key == scanId) = (key == scanId) := fun _ _ _ _ => rfl
    have cascaded := agrees.deleteVulnerabilities
      fun _ row _ own => agrees.orphanedVulnerability same row own
    simp only [Command.deleteScanCall]
    rw [← Scans.getScan_agree agrees.scans]
    split
    next => exact ⟨rfl, agrees⟩
    next => exact ⟨rfl, cascaded.withScans (outcome _) (outcome _)
        (Scans.deleteScan_agree agrees.scans) Scans.deleteScan_spares⟩
  · intro other database differ
    simp only [Command.deleteScanCall]
    split
    next => exact .refl other database
    next scan found =>
      obtain ⟨stored, own⟩ := Scans.getScan_own found
      have cascaded : Agrees other database (database.deleteVulnerabilities fun _ row =>
          database.orphanedVulnerability (fun id _ => id == scanId) row) :=
        .of_deleteVulnerabilities fun _ row _ its =>
          orphanedVulnerability_frame (deleted_spares stored own differ) row its
      exact cascaded.trans (.of_withScans (outcome _) Scans.deleteScan_spares differ)

theorem cancelScan_confined (scanId : ScanId) :
    Confined Agrees tenantId fun database =>
      Command.cancelScanCall texts (some tenantId) moment database scanId := by
  have outcome := fun table : Table ScanId Scan =>
    Scans.cancelScan_outcome texts.repr scanId (some tenantId) moment.clock (.start table)
  refine ⟨?_, ?_⟩
  · intro first second agrees
    simp only [Command.cancelScanCall]
    rw [← Scans.getScan_agree agrees.scans]
    split
    next => exact ⟨rfl, agrees⟩
    next scan found =>
      obtain ⟨stored, own⟩ := Scans.getScan_own found
      exact scanReply_agree agrees stored own outcome
        (Scans.cancelScan_agree agrees.scans first.listedScans second.listedScans)
        fun _ => Scans.cancelScan_spares
  · intro other database differ
    simp only [Command.cancelScanCall]
    split
    next => exact .refl other database
    next scan found =>
      obtain ⟨stored, own⟩ := Scans.getScan_own found
      exact scanReply_frame stored own differ (outcome _) Scans.cancelScan_spares

theorem dispatchScan_confined (scanId : ScanId) :
    Confined Agrees tenantId fun database =>
      Command.dispatchScanCall (some tenantId) moment database scanId := by
  have outcome := fun (limit : Int) (table : Table ScanId Scan) =>
    Scans.dispatchScan_outcome scanId (some tenantId) limit moment.now (.start table)
  refine ⟨?_, ?_⟩
  · intro first second agrees
    simp only [Command.dispatchScanCall]
    rw [← Scans.getScan_agree agrees.scans]
    cases found : Scans.getScan scanId (some tenantId) first.scans with
    | none => exact ⟨rfl, agrees⟩
    | some scan =>
        obtain ⟨stored, own⟩ := Scans.getScan_own found
        simp only [own]
        rw [← agrees.tenant]
        split
        next => exact ⟨rfl, agrees⟩
        next tenant _ =>
          exact scanReply_agree agrees stored own (outcome tenant.scansPerDay)
            (Scans.dispatchScan_agree agrees.scans first.listedScans second.listedScans)
            fun _ => Scans.dispatchScan_spares
  · intro other database differ
    simp only [Command.dispatchScanCall]
    split
    next => exact .refl other database
    next scan found =>
      obtain ⟨stored, own⟩ := Scans.getScan_own found
      split
      next => exact .refl other database
      next tenant _ =>
        exact scanReply_frame stored own differ (outcome tenant.scansPerDay _)
          Scans.dispatchScan_spares

theorem updateVulnerability_confined (vulnerabilityId : VulnerabilityId)
    (data : Vulnerabilities.VulnerabilityUpdate) :
    Confined Agrees tenantId fun database =>
      Command.updateVulnerabilityCall (some tenantId) moment database vulnerabilityId data := by
  refine ⟨?_, ?_⟩
  · intro first second agrees
    have same : Vulnerabilities.updateVulnerability moment.now moment.clock vulnerabilityId
        (some tenantId) data first.vulnerabilities = Vulnerabilities.updateVulnerability
          moment.now moment.clock vulnerabilityId (some tenantId) data second.vulnerabilities :=
      congrArg (Option.map _) (agrees.vulnerabilities.visible vulnerabilityId)
    simp only [Command.updateVulnerabilityCall]
    rw [← same]
    split
    next => exact ⟨rfl, agrees⟩
    next row updated =>
      obtain ⟨before, found, own, own'⟩ := Vulnerabilities.updateVulnerability_own updated
      exact ⟨rfl, agrees.putVulnerability found own own'⟩
    next row changed _ updated =>
      obtain ⟨before, found, own, own'⟩ := Vulnerabilities.updateVulnerability_own updated
      exact ⟨rfl, agrees.putVulnerability found own own'⟩
  · intro other database differ
    simp only [Command.updateVulnerabilityCall]
    split
    next => exact .refl other database
    next row updated =>
      obtain ⟨before, found, own, own'⟩ := Vulnerabilities.updateVulnerability_own updated
      exact .of_putVulnerability found own own' differ
    next row changed _ updated =>
      obtain ⟨before, found, own, own'⟩ := Vulnerabilities.updateVulnerability_own updated
      exact .of_putVulnerability found own own' differ

theorem deleteVulnerability_confined (vulnerabilityId : VulnerabilityId) :
    Confined Agrees tenantId fun database =>
      Command.deleteVulnerabilityCall (some tenantId) moment database vulnerabilityId := by
  refine ⟨?_, ?_⟩
  · intro first second agrees
    simp only [Command.deleteVulnerabilityCall, Vulnerabilities.getVulnerability]
    rw [← agrees.vulnerabilities.visible vulnerabilityId]
    split
    next => exact ⟨rfl, agrees⟩
    next => exact ⟨rfl, agrees.deleteVulnerabilities fun _ _ _ _ => rfl⟩
  · intro other database differ
    simp only [Command.deleteVulnerabilityCall, Vulnerabilities.getVulnerability]
    split
    next => exact .refl other database
    next row found =>
      obtain ⟨stored, own⟩ := Table.visible_some.mp found
      exact .of_deleteVulnerabilities (deleted_spares stored own differ)

theorem updateReport_confined (reportId : ReportId) (data : Reports.ReportUpdate) :
    Confined Agrees tenantId fun database =>
      Command.updateReportCall (some tenantId) moment database reportId data := by
  refine ⟨?_, ?_⟩
  · intro first second agrees
    have same : Reports.updateReport moment.clock reportId (some tenantId) data first.reports =
        Reports.updateReport moment.clock reportId (some tenantId) data second.reports :=
      congrArg (Option.map _) (agrees.reports.visible reportId)
    simp only [Command.updateReportCall]
    rw [← same]
    split
    next => exact ⟨rfl, agrees⟩
    next row updated =>
      obtain ⟨before, found, own, own'⟩ := Reports.updateReport_own updated
      exact ⟨rfl, agrees.putReport found own own'⟩
    next row changed _ updated =>
      obtain ⟨before, found, own, own'⟩ := Reports.updateReport_own updated
      exact ⟨rfl, agrees.putReport found own own'⟩
  · intro other database differ
    simp only [Command.updateReportCall]
    split
    next => exact .refl other database
    next row updated =>
      obtain ⟨before, found, own, own'⟩ := Reports.updateReport_own updated
      exact .of_putReport found own own' differ
    next row changed _ updated =>
      obtain ⟨before, found, own, own'⟩ := Reports.updateReport_own updated
      exact .of_putReport found own own' differ

theorem deleteReport_confined (reportId : ReportId) :
    Confined Agrees tenantId fun database =>
      Command.deleteReportCall (some tenantId) moment database reportId := by
  refine ⟨?_, ?_⟩
  · intro first second agrees
    simp only [Command.deleteReportCall, Reports.getReport]
    rw [← agrees.reports.visible reportId]
    split
    next => exact ⟨rfl, agrees⟩
    next => exact ⟨rfl, agrees.deleteReports fun _ _ _ _ => rfl⟩
  · intro other database differ
    simp only [Command.deleteReportCall, Reports.getReport]
    split
    next => exact .refl other database
    next row found =>
      obtain ⟨stored, own⟩ := Table.visible_some.mp found
      exact .of_deleteReports (deleted_spares stored own differ)

/-- Every call is confined to its tenant. -/
theorem respond_confined (tenantId : TenantId) (call : Moment × Request) :
    Confined Agrees tenantId fun database =>
      call.2.respond texts (some tenantId) call.1 database := by
  obtain ⟨moment, request⟩ := call
  cases request with
  | query asked =>
      have same : ∀ {first second : Database}, Agrees tenantId first second →
          ((asked.reply (some tenantId) first, []) : Output) =
            (asked.reply (some tenantId) second, []) :=
        fun agrees => congrArg (·, []) (Query.reply_agree agrees asked)
      exact .read Agrees.refl same
  | command given =>
      cases given with
      | updateAsset assetId data => exact updateAsset_confined assetId data
      | deleteAsset assetId => exact deleteAsset_confined assetId
      | updateScan scanId data => exact updateScan_confined scanId data
      | deleteScan scanId => exact deleteScan_confined scanId
      | cancelScan scanId => exact cancelScan_confined scanId
      | dispatchScan scanId => exact dispatchScan_confined scanId
      | updateVulnerability vulnerabilityId data =>
          exact updateVulnerability_confined vulnerabilityId data
      | deleteVulnerability vulnerabilityId => exact deleteVulnerability_confined vulnerabilityId
      | updateReport reportId data => exact updateReport_confined reportId data
      | deleteReport reportId => exact deleteReport_confined reportId

end

end

/-- Tenant non-interference: two databases with the same rows of a tenant answer every sequence
of the tenant's calls alike, publish the same events, and keep the same rows of the tenant; and
no row of another tenant changes. -/
theorem tenant_noninterference (texts : Texts) (tenantId : TenantId)
    (calls : List (Moment × Request)) {first second : Database}
    (agrees : Agrees tenantId first second) :
    (run texts (some tenantId) calls first).1 = (run texts (some tenantId) calls second).1 ∧
      Agrees tenantId (run texts (some tenantId) calls first).2
        (run texts (some tenantId) calls second).2 ∧
      ∀ other, other ≠ tenantId →
        Agrees other first (run texts (some tenantId) calls first).2 ∧
          Agrees other second (run texts (some tenantId) calls second).2 := by
  have confined : Confined Agrees tenantId (run texts (some tenantId) calls) :=
    Confined.runAll Agrees.refl (fun before after => before.trans after)
      (respond_confined tenantId) calls
  refine ⟨(confined.same agrees).1, (confined.same agrees).2, ?_⟩
  intro other differ
  exact ⟨confined.frame first differ, confined.frame second differ⟩

def plainTexts : Texts where
  ipAddress := some
  ipNetwork := some
  httpUrl := fun url => some ("https", url)
  reMatch := fun _ _ => true
  strip := id
  rstripDots := id
  lower := id
  repr := id

def address (tenantId : TenantId) (value : String) : Asset := ⟨tenantId, value, .ip, 100, 100⟩

def discovery (tenantId : TenantId) (assetId : AssetId) : Scan :=
  ⟨tenantId, assetId, "weekly", .discovery, .pending, none, none, none, none, none, none⟩

def finding (tenantId : TenantId) (scanId : ScanId) : Vulnerability :=
  ⟨tenantId, scanId, "open port", none, .low, .opened, none, none, none, none, 100, 100⟩

/-- Tenant 1 alone, with a pending scan of its asset and a finding. -/
def alone : Database where
  tenants := fun _ => some ⟨1, "basic"⟩
  assets := Table.empty.insert 10 (address 1 "10.0.0.1")
  scans := Table.empty.insert 20 (discovery 1 10)
  scanStamps := fun _ => ⟨100, 100⟩
  vulnerabilities := Table.empty.insert 30 (finding 1 20)
  reports := Table.empty
  enrichments := Table.empty
  listedAssets := .insert .empty List.not_mem_nil
  listedScans := .insert .empty List.not_mem_nil
  listedVulnerabilities := .insert .empty List.not_mem_nil
  listedReports := .empty
  listedEnrichments := .empty

/-- The same with rows of tenant 2. -/
def crowded : Database :=
  { alone with
    assets := alone.assets.insert 11 (address 2 "10.0.0.2")
    scans := alone.scans.insert 21 (discovery 2 11)
    vulnerabilities := alone.vulnerabilities.insert 31 (finding 2 21)
    listedAssets := alone.listedAssets.insert (by decide)
    listedScans := alone.listedScans.insert (by decide)
    listedVulnerabilities := alone.listedVulnerabilities.insert (by decide) }

/-- Tenant 1 gives its asset the address of tenant 2's, asks for all scans, dispatches its own
scan and that of tenant 2, and deletes its asset. -/
def visit : List (Moment × Request) :=
  [(⟨200, 200, .ok⟩, .command (.updateAsset 10 ⟨none, some (some "10.0.0.2")⟩)),
    (⟨210, 210, .ok⟩, .query (.listScans 50 0 none)),
    (⟨220, 220, .ok⟩, .command (.dispatchScan 20)),
    (⟨230, 230, .ok⟩, .command (.dispatchScan 21)),
    (⟨240, 240, .lost⟩, .command (.deleteAsset 10))]

theorem tenant_noninterference_visit :
    (run plainTexts (some 1) visit alone).1 = (run plainTexts (some 1) visit crowded).1 ∧
      Agrees 2 crowded (run plainTexts (some 1) visit crowded).2 := by
  have agrees : Agrees 1 alone crowded :=
    { Agrees.refl 1 alone with
      assets := .of_insert rfl (by decide)
      scans := .of_insert rfl (by decide)
      vulnerabilities := .of_insert rfl (by decide) }
  obtain ⟨same, _, others⟩ := tenant_noninterference plainTexts 1 visit agrees
  exact ⟨same, (others 2 (by decide)).2⟩

end Tenancy
