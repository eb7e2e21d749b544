import Soc360.Scans.Service
import Soc360.Store.Scoped
import Mathlib.Data.Rat.Floor

set_option autoImplicit false

namespace Vulnerabilities

open Scans (JsonObject ScanId TenantId Timestamp configJson)

abbrev VulnerabilityId := Nat

inductive VulnerabilitySeverity where
  | critical
  | high
  | medium
  | low
  | info
  deriving DecidableEq, Repr

/-- `opened` is the value `open`. -/
inductive VulnerabilityStatus where
  | opened
  | fixed
  | acceptedRisk
  | falsePositive
  deriving DecidableEq, Repr

/-- A row of `vulnerabilities`. `cvssScore` is the `Numeric(4, 1)` in tenths. -/
structure Vulnerability where
  tenantId : TenantId
  scanId : ScanId
  title : String
  description : Option String
  severity : VulnerabilitySeverity
  status : VulnerabilityStatus
  closedAt : Option Timestamp
  cveId : Option String
  cvssScore : Option Int
  vulnerabilityMetadata : Option JsonObject
  createdAt : Timestamp
  updatedAt : Timestamp

/-- `VulnerabilityUpdate.model_dump(exclude_unset=True)`. The schema refuses a null `status` and
admits scores from 0 to 10. -/
structure VulnerabilityUpdate (Object : Type := JsonObject) where
  status : Option VulnerabilityStatus
  description : Option (Option String)
  cvssScore : Option (Option ℚ)
  vulnerabilityMetadata : Option (Option Object)

abbrev VulnerabilityTable := Table VulnerabilityId Vulnerability

/-- `get_vulnerability`. `tenantId` is absent on the superadmin path. -/
def getVulnerability (vulnerabilityId : VulnerabilityId) (tenantId : Option TenantId)
    (table : VulnerabilityTable) : Option Vulnerability :=
  table.visible Vulnerability.tenantId tenantId vulnerabilityId

/-- `list_vulnerabilities`. -/
def listVulnerabilities (tenantId : Option TenantId) (limit offset : Nat)
    (scanId : Option ScanId) (table : VulnerabilityTable) :
    List (VulnerabilityId × Vulnerability) × Nat :=
  table.listing Vulnerability.tenantId tenantId (fun row => scanId.all (row.scanId == ·))
    (fun _ row => row.createdAt) limit offset

/-- `Decimal(str(score)).quantize(Decimal("0.1"), rounding=ROUND_HALF_UP)`, in tenths. -/
def quantize (score : ℚ) : Int := ⌊score * 10 + 1 / 2⌋

namespace VulnerabilityUpdate

variable (data : VulnerabilityUpdate) (now : Timestamp) (row : Vulnerability)

/-- `now` is the clock of the database. -/
def assignStatus : Vulnerability × List String :=
  match data.status with
  | none => (row, [])
  | some status =>
      if status = row.status then (row, [])
      else
        let closedAt :=
          if status = .opened then none
          else if row.status = .opened then some now
          else row.closedAt
        ({ row with status := status, closedAt := closedAt }, ["status"])

def assignDescription : Vulnerability × List String :=
  match data.description with
  | none => (row, [])
  | some description =>
      if description = row.description then (row, [])
      else ({ row with description := description }, ["description"])

def assignCvssScore : Vulnerability × List String :=
  match data.cvssScore with
  | none => (row, [])
  | some score =>
      let normalized := score.map quantize
      if normalized = row.cvssScore then (row, [])
      else ({ row with cvssScore := normalized }, ["cvss_score"])

def assignMetadata : Vulnerability × List String :=
  match data.vulnerabilityMetadata with
  | none => (row, [])
  | some metadata =>
      if (configJson metadata).pyEq (configJson row.vulnerabilityMetadata) then (row, [])
      else ({ row with vulnerabilityMetadata := metadata }, ["vulnerability_metadata"])

/-- The row after the flush and `changed_fields`. `clock` is that of the server. -/
def edit (clock : Timestamp) : Vulnerability × List String :=
  let (row, status) := data.assignStatus now row
  let (row, description) := data.assignDescription row
  let (row, score) := data.assignCvssScore row
  let (row, metadata) := data.assignMetadata row
  let changed := status ++ description ++ score ++ metadata
  (if changed = [] then row else { row with updatedAt := clock }, changed)

end VulnerabilityUpdate

/-- `update_vulnerability`. -/
def updateVulnerability (now clock : Timestamp) (vulnerabilityId : VulnerabilityId)
    (tenantId : Option TenantId) (data : VulnerabilityUpdate) (table : VulnerabilityTable) :
    Option (Vulnerability × List String) :=
  (getVulnerability vulnerabilityId tenantId table).map fun row => data.edit now row clock

section

variable {now clock : Timestamp} {vulnerabilityId : VulnerabilityId} {tenantId : TenantId}
  {data : VulnerabilityUpdate} {row : Vulnerability} {changed : List String}
  {table : VulnerabilityTable}

theorem VulnerabilityUpdate.assignStatus_tenantId :
    (data.assignStatus now row).1.tenantId = row.tenantId := by
  unfold VulnerabilityUpdate.assignStatus
  split
  next => rfl
  next => split <;> rfl

theorem VulnerabilityUpdate.assignDescription_tenantId :
    (data.assignDescription row).1.tenantId = row.tenantId := by
  unfold VulnerabilityUpdate.assignDescription
  split
  next => rfl
  next => split <;> rfl

theorem VulnerabilityUpdate.assignCvssScore_tenantId :
    (data.assignCvssScore row).1.tenantId = row.tenantId := by
  unfold VulnerabilityUpdate.assignCvssScore
  split
  next => rfl
  next => simp only; split <;> rfl

theorem VulnerabilityUpdate.assignMetadata_tenantId :
    (data.assignMetadata row).1.tenantId = row.tenantId := by
  unfold VulnerabilityUpdate.assignMetadata
  split
  next => rfl
  next => split <;> rfl

theorem VulnerabilityUpdate.edit_tenantId :
    (data.edit now row clock).1.tenantId = row.tenantId := by
  have written : (data.edit now row clock).1.tenantId = (data.assignMetadata
      (data.assignCvssScore (data.assignDescription (data.assignStatus now row).1).1).1).1.tenantId
      := by
    simp only [VulnerabilityUpdate.edit]
    split <;> rfl
  rw [written, assignMetadata_tenantId, assignCvssScore_tenantId, assignDescription_tenantId,
    assignStatus_tenantId]

/-- What an update writes stays with the tenant of the row that it found. -/
theorem updateVulnerability_own
    (updated : updateVulnerability now clock vulnerabilityId (some tenantId) data table =
      some (row, changed)) :
    ∃ before, table.find vulnerabilityId = some before ∧ before.tenantId = tenantId ∧
      row.tenantId = tenantId := by
  obtain ⟨before, found, edited⟩ := Option.map_eq_some_iff.mp updated
  obtain ⟨stored, own⟩ := Table.visible_some.mp found
  refine ⟨before, stored, own, ?_⟩
  have kept : (data.edit now before clock).1.tenantId = before.tenantId :=
    VulnerabilityUpdate.edit_tenantId
  rw [edited] at kept
  exact kept.trans own

end

end Vulnerabilities
