import Soc360.Scans.Service
import Soc360.Store.Scoped

set_option autoImplicit false

namespace Reports

open Scans (AssetId JsonObject TenantId Timestamp configJson)

abbrev ReportId := Nat

inductive ReportType where
  | vulnerability
  | executive
  | technical
  | compliance
  deriving DecidableEq, Repr

inductive ReportStatus where
  | pending
  | generating
  | completed
  | failed
  deriving DecidableEq, Repr

/-- A row of `reports`. -/
structure Report where
  tenantId : TenantId
  assetId : AssetId
  name : String
  reportType : ReportType
  status : ReportStatus
  summary : Option String
  reportMetadata : Option JsonObject
  generatedAt : Option Timestamp
  createdAt : Timestamp
  updatedAt : Timestamp

/-- A `datetime` of a body. Python finds one without a zone different from every stored one, and
the driver reads it in the zone of the server, as `at_` does. -/
structure GivenTime where
  at_ : Timestamp
  aware : Bool
  deriving DecidableEq, Repr

/-- `ReportUpdate.model_dump(exclude_unset=True)`. The schema refuses a null `name` or
`status`. -/
structure ReportUpdate (Object : Type := JsonObject) where
  name : Option String
  status : Option ReportStatus
  summary : Option (Option String)
  reportMetadata : Option (Option Object)
  generatedAt : Option (Option GivenTime)

abbrev ReportTable := Table ReportId Report

/-- `get_report`. `tenantId` is absent on the superadmin path. -/
def getReport (reportId : ReportId) (tenantId : Option TenantId) (table : ReportTable) :
    Option Report :=
  table.visible Report.tenantId tenantId reportId

/-- `list_reports`. -/
def listReports (tenantId : Option TenantId) (limit offset : Nat) (assetId : Option AssetId)
    (reportType : Option ReportType) (status : Option ReportStatus) (table : ReportTable) :
    List (ReportId × Report) × Nat :=
  table.listing Report.tenantId tenantId
    (fun row => assetId.all (row.assetId == ·) && reportType.all (row.reportType == ·) &&
      status.all (row.status == ·))
    (fun _ row => row.createdAt) limit offset

/-- One field of the loop over `_UPDATABLE_FIELDS`: an absent field, or one whose value does not
differ, changes nothing. -/
def assign {Value : Type} (name : String) (given : Option Value) (differs : Value → Bool)
    (set : Value → Report → Report) (row : Report) (changed : List String) :
    Report × List String :=
  match given with
  | none => (row, changed)
  | some value => if differs value then (set value row, changed ++ [name]) else (row, changed)

namespace ReportUpdate

variable (data : ReportUpdate) (row : Report)

def assignFields : Report × List String :=
  let (row, changed) := assign "name" data.name (· != row.name)
    (fun name row => { row with name := name }) row []
  let (row, changed) := assign "status" data.status (· != row.status)
    (fun status row => { row with status := status }) row changed
  let (row, changed) := assign "summary" data.summary (· != row.summary)
    (fun summary row => { row with summary := summary }) row changed
  let (row, changed) := assign "report_metadata" data.reportMetadata
    (fun metadata => !(configJson metadata).pyEq (configJson row.reportMetadata))
    (fun metadata row => { row with reportMetadata := metadata }) row changed
  assign "generated_at" data.generatedAt
    (fun given => given.any (!·.aware) || given.map (·.at_) != row.generatedAt)
    (fun given row => { row with generatedAt := given.map (·.at_) }) row changed

/-- The row after the flush and `changed_fields`. -/
def edit (clock : Timestamp) : Report × List String :=
  let (row, changed) := data.assignFields row
  (if changed = [] then row else { row with updatedAt := clock }, changed)

end ReportUpdate

/-- `update_report`. -/
def updateReport (clock : Timestamp) (reportId : ReportId) (tenantId : Option TenantId)
    (data : ReportUpdate) (table : ReportTable) : Option (Report × List String) :=
  (getReport reportId tenantId table).map fun row => data.edit row clock

section

variable {clock : Timestamp} {reportId : ReportId} {tenantId : TenantId} {data : ReportUpdate}
  {row : Report} {changed : List String} {table : ReportTable}

theorem assign_tenantId {Value : Type} {name : String} {given : Option Value}
    {differs : Value → Bool} {set : Value → Report → Report}
    (keeps : ∀ value row, (set value row).tenantId = row.tenantId) :
    (assign name given differs set row changed).1.tenantId = row.tenantId := by
  unfold assign
  split
  next => rfl
  next value =>
    split
    next => exact keeps value row
    next => rfl

theorem ReportUpdate.edit_tenantId : (data.edit row clock).1.tenantId = row.tenantId := by
  have written : (data.edit row clock).1.tenantId = (data.assignFields row).1.tenantId := by
    simp only [ReportUpdate.edit]
    split <;> rfl
  rw [written, ReportUpdate.assignFields]
  simp only
  rw [assign_tenantId, assign_tenantId, assign_tenantId, assign_tenantId, assign_tenantId]
  all_goals exact fun _ _ => rfl

/-- What an update writes stays with the tenant of the row that it found. -/
theorem updateReport_own
    (updated : updateReport clock reportId (some tenantId) data table = some (row, changed)) :
    ∃ before, table.find reportId = some before ∧ before.tenantId = tenantId ∧
      row.tenantId = tenantId := by
  obtain ⟨before, found, edited⟩ := Option.map_eq_some_iff.mp updated
  obtain ⟨stored, own⟩ := Table.visible_some.mp found
  refine ⟨before, stored, own, ?_⟩
  have kept : (data.edit before clock).1.tenantId = before.tenantId := ReportUpdate.edit_tenantId
  rw [edited] at kept
  exact kept.trans own

end

end Reports
