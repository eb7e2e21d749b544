import Soc360.Events.Plans
import Soc360.Scans.Validity

set_option autoImplicit false

namespace Scans

/-- The PATCH changes no public field: each has the value that is stored, the config as it is
normalised. -/
def ScanUpdate.Keeps (data : ScanUpdate) (scan : Scan) : Prop :=
  (data.candidate scan).name = some scan.name ∧ (data.candidate scan).type = some scan.scanType ∧
    ∀ normalised, validateScanConfig (data.candidate scan).type
      (configJson (data.candidate scan).config) = .ok normalised →
        Json.pyEq (.obj normalised) (configJson scan.config) = true

theorem changedFields_nil {candidate : Candidate} {normalised : JsonObject} {scan : Scan}
    (named : candidate.name.isSome = true) (typed : candidate.type.isSome = true) :
    (candidate.edit normalised scan).changedFields = [] ↔
      candidate.name = some scan.name ∧ candidate.type = some scan.scanType ∧
        Json.pyEq (.obj normalised) (configJson scan.config) = true := by
  obtain ⟨name, given⟩ := Option.isSome_iff_exists.mp named
  obtain ⟨type, given'⟩ := Option.isSome_iff_exists.mp typed
  simp [ScanEdit.changedFields, Candidate.edit, given, given']

end Scans

namespace Vulnerabilities

open Scans (Timestamp)

/-- The PATCH changes no public field. -/
structure VulnerabilityUpdate.Keeps (data : VulnerabilityUpdate) (row : Vulnerability) : Prop where
  status : ∀ status, data.status = some status → status = row.status
  description : ∀ description, data.description = some description →
    description = row.description
  cvssScore : ∀ score, data.cvssScore = some score → score.map quantize = row.cvssScore
  vulnerabilityMetadata : ∀ metadata, data.vulnerabilityMetadata = some metadata →
    (Scans.configJson metadata).pyEq (Scans.configJson row.vulnerabilityMetadata) = true

section

variable {data : VulnerabilityUpdate} {now clock : Timestamp} {row : Vulnerability}

theorem VulnerabilityUpdate.assignStatus_row : ∃ status closedAt,
    (data.assignStatus now row).1 = { row with status := status, closedAt := closedAt } := by
  unfold VulnerabilityUpdate.assignStatus
  split
  next => exact ⟨row.status, row.closedAt, rfl⟩
  next status _ =>
    split
    next => exact ⟨row.status, row.closedAt, rfl⟩
    next => exact ⟨status, _, rfl⟩

theorem VulnerabilityUpdate.assignDescription_row : ∃ description,
    (data.assignDescription row).1 = { row with description := description } := by
  unfold VulnerabilityUpdate.assignDescription
  split
  next => exact ⟨row.description, rfl⟩
  next description _ =>
    split
    next => exact ⟨row.description, rfl⟩
    next => exact ⟨description, rfl⟩

theorem VulnerabilityUpdate.assignCvssScore_row : ∃ score,
    (data.assignCvssScore row).1 = { row with cvssScore := score } := by
  unfold VulnerabilityUpdate.assignCvssScore
  split
  next => exact ⟨row.cvssScore, rfl⟩
  next score _ =>
    simp only
    split
    next => exact ⟨row.cvssScore, rfl⟩
    next => exact ⟨score.map quantize, rfl⟩

theorem VulnerabilityUpdate.assignStatus_nil : (data.assignStatus now row).2 = [] ↔
    ∀ status, data.status = some status → status = row.status := by
  unfold VulnerabilityUpdate.assignStatus
  cases data.status with
  | none => simp
  | some status => by_cases same : status = row.status <;> simp [same]

theorem VulnerabilityUpdate.assignDescription_nil : (data.assignDescription row).2 = [] ↔
    ∀ description, data.description = some description → description = row.description := by
  unfold VulnerabilityUpdate.assignDescription
  cases data.description with
  | none => simp
  | some description => by_cases same : description = row.description <;> simp [same]

theorem VulnerabilityUpdate.assignCvssScore_nil : (data.assignCvssScore row).2 = [] ↔
    ∀ score, data.cvssScore = some score → score.map quantize = row.cvssScore := by
  unfold VulnerabilityUpdate.assignCvssScore
  cases data.cvssScore with
  | none => simp
  | some score => by_cases same : score.map quantize = row.cvssScore <;> simp [same]

theorem VulnerabilityUpdate.assignMetadata_nil : (data.assignMetadata row).2 = [] ↔
    ∀ metadata, data.vulnerabilityMetadata = some metadata →
      (Scans.configJson metadata).pyEq (Scans.configJson row.vulnerabilityMetadata) = true := by
  unfold VulnerabilityUpdate.assignMetadata
  cases data.vulnerabilityMetadata with
  | none => simp
  | some metadata =>
      cases same : (Scans.configJson metadata).pyEq (Scans.configJson row.vulnerabilityMetadata)
      · simp [same]
      · simp [same]

/-- `changed_fields` is empty where the PATCH changes no public field, and only there. -/
theorem VulnerabilityUpdate.edit_nil : (data.edit now row clock).2 = [] ↔ data.Keeps row := by
  obtain ⟨status, closedAt, first⟩ := @assignStatus_row data now row
  obtain ⟨description, second⟩ := @assignDescription_row data (data.assignStatus now row).1
  obtain ⟨score, third⟩ := @assignCvssScore_row data
    (data.assignDescription (data.assignStatus now row).1).1
  simp only [VulnerabilityUpdate.edit, List.append_eq_nil_iff, assignStatus_nil,
    assignDescription_nil, assignCvssScore_nil, assignMetadata_nil]
  rw [third, second, first]
  constructor
  · rintro ⟨⟨⟨status, description⟩, score⟩, metadata⟩
    exact ⟨status, description, score, metadata⟩
  · rintro ⟨status, description, score, metadata⟩
    exact ⟨⟨⟨status, description⟩, score⟩, metadata⟩

end

end Vulnerabilities

namespace Reports

open Scans (Timestamp)

/-- The PATCH changes no public field. -/
structure ReportUpdate.Keeps (data : ReportUpdate) (row : Report) : Prop where
  name : ∀ name, data.name = some name → name = row.name
  status : ∀ status, data.status = some status → status = row.status
  summary : ∀ summary, data.summary = some summary → summary = row.summary
  reportMetadata : ∀ metadata, data.reportMetadata = some metadata →
    (Scans.configJson metadata).pyEq (Scans.configJson row.reportMetadata) = true
  generatedAt : ∀ given, data.generatedAt = some given → given.map (·.at_) = row.generatedAt

/-- The PATCH sends a `generated_at` that has no zone. -/
def ReportUpdate.Zoneless (data : ReportUpdate) : Prop :=
  ∃ given, data.generatedAt = some (some given) ∧ given.aware = false

section

variable {data : ReportUpdate} {clock : Timestamp} {row : Report} {Value : Type}

theorem assign_keeps {Field : Type} (field : Report → Field) {name : String}
    {given : Option Value} {differs : Value → Bool} {set : Value → Report → Report}
    {changed : List String} (keeps : ∀ value row, field (set value row) = field row) :
    field (assign name given differs set row changed).1 = field row := by
  unfold assign
  split
  next => rfl
  next value =>
    split
    next => exact keeps value row
    next => rfl

theorem assign_nil {name : String} {given : Option Value} {differs : Value → Bool}
    {set : Value → Report → Report} {changed : List String} :
    (assign name given differs set row changed).2 = [] ↔
      changed = [] ∧ ∀ value, given = some value → differs value = false := by
  unfold assign
  cases given with
  | none => simp
  | some value => cases same : differs value <;> simp [same]

/-- `changed_fields` is empty where the PATCH changes no public field and sends no time without
a zone. -/
theorem ReportUpdate.edit_nil :
    (data.edit row clock).2 = [] ↔ data.Keeps row ∧ ¬ data.Zoneless := by
  simp only [ReportUpdate.edit, ReportUpdate.assignFields, assign_nil, true_and,
    assign_keeps Report.status, assign_keeps Report.summary, assign_keeps Report.reportMetadata,
    assign_keeps Report.generatedAt, implies_true]
  constructor
  · rintro ⟨⟨⟨⟨name, status⟩, summary⟩, metadata⟩, generated⟩
    refine ⟨⟨?_, ?_, ?_, ?_, ?_⟩, ?_⟩
    · intro given sent
      simpa using name given sent
    · intro given sent
      simpa using status given sent
    · intro given sent
      simpa using summary given sent
    · intro given sent
      simpa using metadata given sent
    · intro given sent
      have same := generated given sent
      simp only [Bool.or_eq_false_iff, bne_eq_false_iff_eq] at same
      exact same.2
    · rintro ⟨given, sent, zoneless⟩
      have same := generated _ sent
      simp [zoneless] at same
  · rintro ⟨keeps, zoned⟩
    refine ⟨⟨⟨⟨?_, ?_⟩, ?_⟩, ?_⟩, ?_⟩
    · intro given sent
      simpa using keeps.name given sent
    · intro given sent
      simpa using keeps.status given sent
    · intro given sent
      simpa using keeps.summary given sent
    · intro given sent
      simpa using keeps.reportMetadata given sent
    · intro given sent
      simp only [Bool.or_eq_false_iff, bne_eq_false_iff_eq]
      refine ⟨?_, keeps.generatedAt given sent⟩
      cases given with
      | none => rfl
      | some given =>
          cases aware : given.aware with
          | false => exact absurd ⟨given, sent, aware⟩ zoned
          | true => simp [aware]

end

end Reports

namespace Publishing

open Assets (Asset)
open Reports (Report ReportId)
open Scans (AssetId Scan ScanId TenantId)
open Tenancy (Database Texts)
open UnitOfWork (Act Desk Plan appended)
open Vulnerabilities (Vulnerability)

section

variable {Row : Type} (owner : Row → TenantId) (before after : Table Nat Row) (id : Nat)
  (tenantId : TenantId)

def Found : Prop := ∃ row, before.find id = some row ∧ owner row = tenantId

def Inserted : Prop := before.find id = none ∧ Found owner after id tenantId

def Removed : Prop := Found owner before id tenantId ∧ after.find id = none

end

namespace Operation

section

variable (before after : Database)

/-- An update or a deletion finds a visible row. -/
def Finds : Operation → Prop
  | updateAsset assetId tenantId _ => (Assets.getAsset assetId tenantId before.assets).isSome
  | deleteAsset assetId tenantId => (Assets.getAsset assetId tenantId before.assets).isSome
  | updateScan scanId tenantId _ => (Scans.getScan scanId tenantId before.scans).isSome
  | deleteScan scanId tenantId => (Scans.getScan scanId tenantId before.scans).isSome
  | updateVulnerability vulnerabilityId tenantId _ =>
      (Vulnerabilities.getVulnerability vulnerabilityId tenantId before.vulnerabilities).isSome
  | deleteVulnerability vulnerabilityId tenantId =>
      (Vulnerabilities.getVulnerability vulnerabilityId tenantId before.vulnerabilities).isSome
  | updateReport reportId tenantId _ => (Reports.getReport reportId tenantId before.reports).isSome
  | deleteReport reportId tenantId => (Reports.getReport reportId tenantId before.reports).isSome
  | _ => True

/-- A PATCH of a scan, a vulnerability or a report that changes no public field of its row. -/
def Keeps : Operation → Prop
  | updateScan scanId tenantId data =>
      ∃ row, Scans.getScan scanId tenantId before.scans = some row ∧ data.Keeps row
  | updateVulnerability vulnerabilityId tenantId data =>
      ∃ row, Vulnerabilities.getVulnerability vulnerabilityId tenantId before.vulnerabilities =
        some row ∧ data.Keeps row
  | updateReport reportId tenantId data =>
      ∃ row, Reports.getReport reportId tenantId before.reports = some row ∧ data.Keeps row
  | _ => False

/-- A PATCH of a report with a `generated_at` that has no zone. -/
def Zoneless : Operation → Prop
  | updateReport _ _ data => data.Zoneless
  | _ => False

/-- The event is of the kind of the call, and names the row that the call has inserted, found or
removed. -/
def Announces : Operation → DomainEvent → Prop
  | createAsset _ _ _, .assetCreated tenantId assetId _ _ _ =>
      Inserted Asset.tenantId before.assets after.assets assetId tenantId
  | updateAsset _ _ _, .later (.assetUpdated tenantId assetId _) =>
      Found Asset.tenantId before.assets assetId tenantId
  | deleteAsset _ _, .later (.assetDeleted tenantId assetId) =>
      Removed Asset.tenantId before.assets after.assets assetId tenantId
  | createScan _ _ _, .scanCreated tenantId scanId _ _ _ _ _ _ =>
      Inserted Scan.tenantId before.scans after.scans scanId tenantId
  | updateScan _ _ _, .later (.scanUpdated tenantId scanId _) =>
      Found Scan.tenantId before.scans scanId tenantId
  | deleteScan _ _, .later (.scanDeleted tenantId scanId) =>
      Removed Scan.tenantId before.scans after.scans scanId tenantId
  | createVulnerability _ _ _, .vulnerabilityCreated tenantId vulnerabilityId _ _ _ _ _ _ _ =>
      Inserted Vulnerability.tenantId before.vulnerabilities after.vulnerabilities vulnerabilityId
        tenantId
  | updateVulnerability _ _ _, .later (.vulnerabilityUpdated tenantId vulnerabilityId _) =>
      Found Vulnerability.tenantId before.vulnerabilities vulnerabilityId tenantId
  | deleteVulnerability _ _, .later (.vulnerabilityDeleted tenantId vulnerabilityId) =>
      Removed Vulnerability.tenantId before.vulnerabilities after.vulnerabilities vulnerabilityId
        tenantId
  | createReport _ _ _, .reportCreated tenantId reportId _ _ _ _ _ =>
      Inserted Report.tenantId before.reports after.reports reportId tenantId
  | updateReport _ _ _, .later (.reportUpdated tenantId reportId _) =>
      Found Report.tenantId before.reports reportId tenantId
  | deleteReport _ _, .later (.reportDeleted tenantId reportId) =>
      Removed Report.tenantId before.reports after.reports reportId tenantId
  | _, _ => False

/-- What a call commits, with its event. -/
structure Settles (operation : Operation) (event : Option DomainEvent) : Prop where
  finds : operation.Finds before
  silent : event = none ↔ operation.Keeps before ∧ ¬ operation.Zoneless
  announces : ∀ sent, event = some sent → operation.Announces before after sent

end

end Operation

section

variable {texts : Texts} {moment : Moment} {database after : Database}

theorem accept_ok {inserted : Option Database} :
    accept inserted = .ok after ↔ inserted = some after := by
  cases inserted with
  | none => simp [accept]
  | some rows => simp [accept]

theorem inserted_of {Row : Type} {owner : Row → TenantId} {before : Table Nat Row} {id : Nat}
    {row : Row} {tenantId : TenantId} (listed : before.Listed) (unused : id ∉ before.keys)
    (owned : owner row = tenantId) :
    Inserted owner before (before.insert id row) id tenantId := by
  refine ⟨?_, row, ?_, owned⟩
  · by_contra stored
    refine unused (listed.known id ?_)
    intro untouched
    rw [Table.find, untouched] at stored
    exact stored rfl
  · rw [Table.find_insert, if_pos rfl]

theorem removed_of {Row : Type} {owner : Row → TenantId} {before : Table Nat Row} {id : Nat}
    {row : Row} (stored : before.find id = some row) :
    Removed owner before (before.deleteWhere fun key _ => key == id) id (owner row) := by
  refine ⟨⟨row, stored, rfl⟩, ?_⟩
  rw [Table.find_deleteWhere, stored]
  simp [Option.filter]

theorem insertAsset_inserted {data : Assets.AssetCreate} {assetId : AssetId} {row : Asset}
    (written : insertAsset texts data assetId row database = .ok after) :
    Inserted Asset.tenantId database.assets after.assets assetId row.tenantId := by
  obtain ⟨_, _, written⟩ := Except.bind_eq_ok.mp written
  obtain ⟨_, _, written⟩ := Except.bind_eq_ok.mp written
  have inserted := accept_ok.mp written
  unfold Database.insertAsset at inserted
  split at inserted
  next unused =>
    cases inserted
    exact inserted_of database.listedAssets unused rfl
  next => cases inserted

theorem insertScan_inserted {scanId : ScanId} {row : Scan}
    (written : insertScan texts moment scanId row database = .ok after) :
    Inserted Scan.tenantId database.scans after.scans scanId row.tenantId := by
  obtain ⟨_, _, written⟩ := Except.bind_eq_ok.mp written
  obtain ⟨_, _, written⟩ := Except.bind_eq_ok.mp written
  have inserted := accept_ok.mp written
  unfold Database.insertScan at inserted
  split at inserted
  next unused =>
    cases inserted
    exact inserted_of database.listedScans unused rfl
  next => cases inserted

theorem insertVulnerability_inserted {vulnerabilityId : Vulnerabilities.VulnerabilityId}
    {row : Vulnerability}
    (written : insertVulnerability vulnerabilityId row database = .ok after) :
    Inserted Vulnerability.tenantId database.vulnerabilities after.vulnerabilities vulnerabilityId
      row.tenantId := by
  obtain ⟨_, _, written⟩ := Except.bind_eq_ok.mp written
  have inserted := accept_ok.mp written
  unfold Database.insertVulnerability at inserted
  split at inserted
  next unused =>
    cases inserted
    exact inserted_of database.listedVulnerabilities unused rfl
  next => cases inserted

theorem insertReport_inserted {reportId : ReportId} {row : Report}
    (written : insertReport reportId row database = .ok after) :
    Inserted Report.tenantId database.reports after.reports reportId row.tenantId := by
  obtain ⟨_, _, written⟩ := Except.bind_eq_ok.mp written
  have inserted := accept_ok.mp written
  unfold Database.insertReport at inserted
  split at inserted
  next unused =>
    cases inserted
    exact inserted_of database.listedReports unused rfl
  next => cases inserted

theorem visible_found {Row : Type} {owner : Row → TenantId} {table : Table Nat Row} {id : Nat}
    {tenantId : Option TenantId} {row : Row}
    (visible : table.visible owner tenantId id = some row) : table.find id = some row :=
  (Option.filter_eq_some_iff.mp visible).1

theorem unlessUnchanged_eq_none {changedFields : List String} {event : DomainEvent} :
    unlessUnchanged changedFields event = none ↔ changedFields = [] := by
  by_cases same : changedFields = []
  · simp [unlessUnchanged, same]
  · simp [unlessUnchanged, same]

theorem unlessUnchanged_eq_some {changedFields : List String} {event sent : DomainEvent}
    (given : unlessUnchanged changedFields event = some sent) : event = sent := by
  unfold unlessUnchanged at given
  split at given
  next => cases given
  next => exact Option.some.inj given

/-- The calls that always publish keep no row as it is. -/
theorem settles_always {operation : Operation} {sent : DomainEvent}
    (finds : operation.Finds database) (changes : ¬ operation.Keeps database)
    (announces : operation.Announces database after sent) :
    operation.Settles database after (some sent) := by
  refine ⟨finds, ?_, ?_⟩
  · constructor
    · intro silent
      cases silent
    · rintro ⟨keeps, -⟩
      exact absurd keeps changes
  · rintro _ ⟨⟩
    exact announces

/-- The calls that publish what they have changed. -/
theorem settles_patch {operation : Operation} {changedFields : List String} {event : DomainEvent}
    (finds : operation.Finds database)
    (silent : changedFields = [] ↔ operation.Keeps database ∧ ¬ operation.Zoneless)
    (announces : operation.Announces database after event) :
    operation.Settles database after (unlessUnchanged changedFields event) := by
  refine ⟨finds, unlessUnchanged_eq_none.trans silent, ?_⟩
  intro sent given
  rw [← unlessUnchanged_eq_some given]
  exact announces

theorem updateScan_settles {scanId : ScanId} {tenantId : Option TenantId} {data : Scans.ScanUpdate}
    {scan : Scan} {normalised : Scans.JsonObject}
    (found : Scans.getScan scanId tenantId database.scans = some scan)
    (accepted : Scans.validateScanConfig (data.candidate scan).type
      (Scans.configJson (data.candidate scan).config) = .ok normalised)
    (written : writeScan moment scanId scan (data.candidate scan).name
      ((data.candidate scan).edit normalised scan) database = .ok after) :
    ((data.candidate scan).edit normalised scan).changedFields = [] ↔
      (Operation.updateScan scanId tenantId data).Keeps database ∧
        ¬ (Operation.updateScan scanId tenantId data).Zoneless := by
  have named : (data.candidate scan).name.isSome = true := by
    cases name : (data.candidate scan).name with
    | none =>
        rw [name] at written
        cases written
    | some name => rfl
  have typed : (data.candidate scan).type.isSome = true := by
    obtain ⟨kind, type, _⟩ := Scans.validateScanConfig_keys accepted
    rw [type]
    rfl
  rw [Scans.changedFields_nil named typed]
  constructor
  · rintro ⟨name, type, config⟩
    refine ⟨⟨scan, found, name, type, ?_⟩, id⟩
    intro other accepted'
    rw [accepted] at accepted'
    cases accepted'
    exact config
  · rintro ⟨⟨other, found', name, type, config⟩, -⟩
    rw [found] at found'
    cases found'
    exact ⟨name, type, config normalised accepted⟩

theorem updateVulnerability_settles {vulnerabilityId : Vulnerabilities.VulnerabilityId}
    {tenantId : Option TenantId} {data : Vulnerabilities.VulnerabilityUpdate} {row : Vulnerability}
    (now clock : Scans.Timestamp)
    (found : Vulnerabilities.getVulnerability vulnerabilityId tenantId database.vulnerabilities =
      some row) :
    (data.edit now row clock).2 = [] ↔
      (Operation.updateVulnerability vulnerabilityId tenantId data).Keeps database ∧
        ¬ (Operation.updateVulnerability vulnerabilityId tenantId data).Zoneless := by
  rw [Vulnerabilities.VulnerabilityUpdate.edit_nil]
  constructor
  · intro keeps
    exact ⟨⟨row, found, keeps⟩, id⟩
  · rintro ⟨⟨other, found', keeps⟩, -⟩
    rw [found] at found'
    cases found'
    exact keeps

theorem updateReport_settles {reportId : ReportId} {tenantId : Option TenantId}
    {data : Reports.ReportUpdate} {row : Report} (clock : Scans.Timestamp)
    (found : Reports.getReport reportId tenantId database.reports = some row) :
    (data.edit row clock).2 = [] ↔
      (Operation.updateReport reportId tenantId data).Keeps database ∧
        ¬ (Operation.updateReport reportId tenantId data).Zoneless := by
  rw [Reports.ReportUpdate.edit_nil]
  constructor
  · rintro ⟨keeps, zoned⟩
    exact ⟨⟨row, found, keeps⟩, zoned⟩
  · rintro ⟨⟨other, found', keeps⟩, zoned⟩
    rw [found] at found'
    cases found'
    exact ⟨keeps, zoned⟩

theorem deletion_settles {Row : Type} {operation : Operation} {found : Option Row}
    {event : Row → DomainEvent}
    (settles : ∀ row, found = some row → operation.Settles database after (some (event row))) :
    (deletion found after event).Delivers (operation.Settles database) := by
  cases found with
  | none => trivial
  | some row => exact settles row rfl

/-- Where a plan has a transaction, its event fits the call and the rows that it commits. -/
theorem plan_settles (operation : Operation) :
    (operation.plan texts moment database).Delivers (operation.Settles database) := by
  cases operation with
  | createAsset data tenantId assetId =>
      rw [Operation.plan]
      split
      next => trivial
      next canonical _ =>
        refine Plan.Delivers.ofWrite ?_
        intro after written
        exact settles_always trivial id (insertAsset_inserted written)
  | updateAsset assetId tenantId data =>
      rw [Operation.plan]
      split
      next => trivial
      next asset found =>
        split
        next => trivial
        next row changedFields edited =>
          refine Plan.Delivers.ofWrite ?_
          intro after _
          refine settles_always ?_ id ⟨asset, visible_found found, ?_⟩
          · rw [Operation.Finds, found]
            rfl
          · exact (Assets.AssetUpdate.edit_tenantId edited).symm
  | deleteAsset assetId tenantId =>
      refine deletion_settles ?_
      intro asset found
      refine settles_always ?_ id (removed_of (visible_found found))
      rw [Operation.Finds, found]
      rfl
  | createScan data tenantId scanId =>
      rw [Operation.plan]
      split
      next => trivial
      next normalised _ =>
        refine Plan.Delivers.ofWrite ?_
        intro after written
        exact settles_always trivial id (insertScan_inserted written)
  | updateScan scanId tenantId data =>
      rw [Operation.plan]
      split
      next => trivial
      next scan found =>
        simp only
        split
        next => trivial
        next normalised accepted =>
          refine Plan.Delivers.ofWrite ?_
          intro after written
          refine settles_patch ?_ (updateScan_settles found accepted written)
            ⟨scan, visible_found found, rfl⟩
          rw [Operation.Finds, found]
          rfl
  | deleteScan scanId tenantId =>
      refine deletion_settles ?_
      intro scan found
      refine settles_always ?_ id (removed_of (visible_found found))
      rw [Operation.Finds, found]
      rfl
  | createVulnerability data tenantId vulnerabilityId =>
      refine Plan.Delivers.ofWrite ?_
      intro after written
      exact settles_always trivial id (insertVulnerability_inserted written)
  | updateVulnerability vulnerabilityId tenantId data =>
      rw [Operation.plan]
      split
      next => trivial
      next row found =>
        refine Plan.Delivers.ofWrite ?_
        intro after _
        refine settles_patch ?_ (updateVulnerability_settles moment.now moment.clock found)
          ⟨row, visible_found found, ?_⟩
        · rw [Operation.Finds, found]
          rfl
        · exact Vulnerabilities.VulnerabilityUpdate.edit_tenantId.symm
  | deleteVulnerability vulnerabilityId tenantId =>
      refine deletion_settles ?_
      intro row found
      refine settles_always ?_ id (removed_of (visible_found found))
      rw [Operation.Finds, found]
      rfl
  | createReport data tenantId reportId =>
      refine Plan.Delivers.ofWrite ?_
      intro after written
      exact settles_always trivial id (insertReport_inserted written)
  | updateReport reportId tenantId data =>
      rw [Operation.plan]
      split
      next => trivial
      next row found =>
        refine Plan.Delivers.ofWrite ?_
        intro after _
        refine settles_patch ?_ (updateReport_settles moment.clock found) ⟨row, visible_found found, ?_⟩
        · rw [Operation.Finds, found]
          rfl
        · exact Reports.ReportUpdate.edit_tenantId.symm
  | deleteReport reportId tenantId =>
      refine deletion_settles ?_
      intro row found
      refine settles_always ?_ id (removed_of (visible_found found))
      rw [Operation.Finds, found]
      rfl

end

end Publishing

namespace Publishing

open Scans (TenantId Timestamp)
open Tenancy (Answer Database Texts)
open UnitOfWork (Act Desk Plan appended)

/-- One call of a sequence with what it has done. -/
structure Record where
  operation : Operation
  moment : Moment
  before : Database
  reply : Except Raised Answer
  acts : List (Act Database DomainEvent)
  after : Database

def Record.of (texts : Texts) (moment : Moment) (operation : Operation) (database : Database) :
    Record :=
  let (reply, desk) := operation.run texts moment (.start database)
  ⟨operation, moment, database, reply, desk.acts, desk.committed⟩

/-- The calls one after the other, each in a transaction of its own. -/
def history (texts : Texts) : List (Moment × Operation) → Database → List Record
  | [], _ => []
  | (moment, operation) :: rest, database =>
      let record := Record.of texts moment operation database
      record :: history texts rest record.after

namespace Record

variable (record : Record)

/-- The commit of the call has returned. -/
def Commits : Prop := ∃ rows, .commit .ok rows ∈ record.acts

/-- The events of a call follow its commit. -/
structure Lawful : Prop where
  ordered : ∀ first event fate rest, record.acts = first ++ .publish event fate :: rest →
    ∃ rows, .commit .ok rows ∈ first
  failed : (∃ act ∈ record.acts, act.fails) → appended record.acts = []
  unseen : ¬ record.operation.Finds record.before → appended record.acts = []
  unchanged : record.operation.Keeps record.before → appended record.acts = []
  once : record.Commits → ¬ record.operation.Keeps record.before →
    (∃ event, appended record.acts = [event]) ∨
      ∃ event fate, .publish event fate ∈ record.acts ∧ fate ≠ .ok
  atMost : (appended record.acts).length ≤ 1
  kept : ∀ rows, .commit .ok rows ∈ record.acts → record.after = rows
  announces : ∀ event ∈ appended record.acts,
    record.operation.Announces record.before record.after event

/-- A PATCH of a report that changes no public field and sends a `generated_at` without a zone,
whose transaction goes well and whose publish takes effect. -/
def Restates : Prop :=
  record.operation.Keeps record.before ∧ record.operation.Zoneless ∧
    record.moment.weather.flush = .ok ∧ record.moment.weather.commit = .ok ∧
    record.moment.weather.publish ≠ .failed

end Record

section

variable {texts : Texts} {moment : Moment} {operation : Operation} {database : Database}

theorem Record.of_eq : Record.of texts moment operation database =
    let outcome := (operation.plan texts moment database).execute moment.weather .broken .redis
      (.start database)
    ⟨operation, moment, database, outcome.1, outcome.2.acts, outcome.2.committed⟩ := by
  rw [Record.of, Operation.run_eq]

theorem Record.lawful_of_fruitless {record : Record}
    (fruitless : ∀ act ∈ record.acts, act.Fruitless) : record.Lawful := by
  have nothing := UnitOfWork.appended_fruitless fruitless
  have uncommitted (rows : Database) : .commit .ok rows ∉ record.acts :=
    fun member => fruitless _ member rfl
  refine ⟨?_, fun _ => nothing, fun _ => nothing, fun _ => nothing, ?_, ?_, ?_, ?_⟩
  · intro first event fate rest acts
    have member : .publish event fate ∈ record.acts := by
      rw [acts]
      exact List.mem_append_right _ List.mem_cons_self
    exact (fruitless _ member).elim
  · rintro ⟨rows, commits⟩
    exact absurd commits (uncommitted rows)
  · rw [nothing]
    exact Nat.zero_le 1
  · intro rows commits
    exact absurd commits (uncommitted rows)
  · rw [nothing]
    intro event member
    cases member

theorem Record.lawful_of_delivered {record : Record} (event : Option DomainEvent)
    (settles : record.operation.Settles record.before record.after event)
    (delivered : UnitOfWork.Delivered record.moment.weather record.after event
      ⟨record.after, record.after, record.acts⟩)
    (calm : record.operation.Keeps record.before → record.operation.Zoneless →
      record.moment.weather.publish = .failed) : record.Lawful := by
  refine ⟨?_, ?_, ?_, ?_, ?_, ?_, ?_, ?_⟩
  · intro first sent fate rest acts
    exact ⟨record.after, delivered.ordered acts⟩
  · rintro ⟨act, member, fails⟩
    exact absurd fails (delivered.not_fails act member)
  · intro unseen
    exact absurd settles.finds unseen
  · intro keeps
    have put := delivered.appended_eq
    simp only at put
    rw [put]
    by_cases zoneless : record.operation.Zoneless
    · rw [calm keeps zoneless]
      cases event <;> rfl
    · rw [settles.silent.mpr ⟨keeps, zoneless⟩]
      rfl
  · intro _ changes
    cases event with
    | none => exact absurd (settles.silent.mp rfl).1 changes
    | some sent =>
        rcases delivered.appended_or_failed with put | failed
        · exact .inl ⟨sent, put⟩
        · exact .inr ⟨sent, _, delivered.published, failed⟩
  · rcases delivered.appended_cases with put | ⟨sent, _, put⟩
    · simp only at put
      rw [put]
      exact Nat.zero_le 1
    · simp only at put
      rw [put]
      exact Nat.le_refl 1
  · intro rows commits
    exact (delivered.commits_iff.mp commits).symm
  · intro sent member
    rcases delivered.appended_cases with put | ⟨sent', given, put⟩
    · simp only at put
      rw [put] at member
      cases member
    · simp only at put
      rw [put] at member
      rw [List.mem_singleton.mp member]
      exact settles.announces sent' given

/-- A PATCH of a report that sends a time without a zone is published, whatever it changes. -/
theorem zoneless_plan (zoneless : operation.Zoneless) (keeps : operation.Keeps database) :
    ∃ rows event value, operation.plan texts moment database =
      .transact true false rows (some event) value := by
  cases operation with
  | updateReport reportId tenantId data =>
      obtain ⟨row, found, _⟩ := keeps
      have changes : (data.edit row moment.clock).2 ≠ [] := by
        intro same
        exact (Reports.ReportUpdate.edit_nil.mp same).2 zoneless
      refine ⟨database.putReport reportId (data.edit row moment.clock).1,
        .later (.reportUpdated (data.edit row moment.clock).1.tenantId reportId
          (data.edit row moment.clock).2), .report (some (data.edit row moment.clock).1), ?_⟩
      rw [Operation.plan, found]
      simp only [unlessUnchanged, if_neg changes]
      rfl
  | _ => cases zoneless

theorem Record.lawful_iff : (Record.of texts moment operation database).Lawful ↔
    ¬ (Record.of texts moment operation database).Restates := by
  rw [Record.of_eq]
  constructor
  · rintro lawful ⟨keeps, zoneless, flushed, committed, sent⟩
    obtain ⟨rows, event, value, plan⟩ := zoneless_plan zoneless keeps
    have nothing : appended ((operation.plan texts moment database).execute moment.weather .broken
        .redis (.start database)).2.acts = [] := lawful.unchanged keeps
    have reaches : Plan.Reaches moment.weather true false := ⟨fun _ => flushed, nofun, committed⟩
    rw [plan, (Plan.execute_delivered reaches).appended_eq] at nothing
    simp only [Option.toList_some, List.flatMap_singleton] at nothing
    cases fate : moment.weather.publish with
    | ok =>
        rw [fate] at nothing
        cases nothing
    | failed => exact sent fate
    | lost =>
        rw [fate] at nothing
        cases nothing
  · intro calm
    rcases Plan.execute_cases (operation.plan texts moment database) with fruitless | delivers
    · exact Record.lawful_of_fruitless fruitless
    · obtain ⟨flushes, refreshes, after, event, value, plan, reaches, delivered⟩ := delivers
      have settles : operation.Settles database after event := by
        have held := @plan_settles texts moment database operation
        rw [plan] at held
        exact held
      refine Record.lawful_of_delivered event ?_ ?_ ?_
      · simp only [delivered.committed]
        exact settles
      · simp only [delivered.committed]
        exact ⟨rfl, delivered.acts⟩
      · intro keeps zoneless
        obtain ⟨rows, event, value, plan'⟩ := zoneless_plan zoneless keeps
        rw [plan] at plan'
        cases plan'
        by_contra sent
        exact calm ⟨keeps, zoneless, reaches.1 rfl, reaches.2.2, sent⟩

end

def plainTexts : Texts where
  ipAddress := some
  ipNetwork := some
  httpUrl := fun url => some ("https", url)
  reMatch := fun _ _ => true
  strip := id
  rstripDots := id
  lower := id
  repr := id

def monthly : Reports.Report :=
  ⟨1, 10, "monthly", .executive, .completed, none, none, some 5000, 100, 100⟩

/-- One report of tenant 1. -/
def reported : Database where
  tenants := fun _ => none
  assets := Table.empty
  scans := Table.empty
  scanStamps := fun _ => ⟨100, 100⟩
  vulnerabilities := Table.empty
  reports := Table.empty.insert 40 monthly
  enrichments := Table.empty
  listedAssets := .empty
  listedScans := .empty
  listedVulnerabilities := .empty
  listedReports := .insert .empty List.not_mem_nil
  listedEnrichments := .empty

/-- A PATCH that sends the `generated_at` of the report, without its zone. -/
def restating : Moment × Operation :=
  (⟨200, 200, ⟨.ok, .ok, .ok, .ok⟩⟩,
    .updateReport 40 (some 1) ⟨none, none, none, none, some (some ⟨5000, false⟩)⟩)

end Publishing
