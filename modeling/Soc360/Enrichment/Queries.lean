import Soc360.Vulnerabilities.Service

set_option autoImplicit false

namespace Enrichment

open Scans (Scan ScanId TenantId Timestamp)
open Vulnerabilities (Vulnerability VulnerabilityId VulnerabilityTable)

abbrev EnrichmentId := Nat

inductive EnrichmentStatus where
  | pending
  | ok
  | failed
  deriving DecidableEq, Repr

/-- A row of `vulnerability_enrichments`. -/
structure VulnerabilityEnrichment where
  vulnerabilityId : VulnerabilityId
  tenantId : TenantId
  function : String
  content : Option String
  status : EnrichmentStatus
  model : Option String
  promptVersion : Option String
  attempts : Nat
  error : Option String
  updatedAt : Timestamp
  deriving DecidableEq, Repr

abbrev EnrichmentTable := Table EnrichmentId VulnerabilityEnrichment

/-- The columns of a `tenants` row that the services read. -/
structure Tenant where
  scansPerDay : Int
  aiEnrichmentLevel : String
  deriving DecidableEq, Repr

/-- `visible_vulnerability`. -/
def visibleVulnerability (vulnerabilityId : VulnerabilityId) (tenantId : Option TenantId)
    (table : VulnerabilityTable) : Option Vulnerability :=
  table.visible Vulnerability.tenantId tenantId vulnerabilityId

/-- `visible_scan`. -/
def visibleScan (scanId : ScanId) (tenantId : Option TenantId) (table : Table ScanId Scan) :
    Option Scan :=
  table.visible Scan.tenantId tenantId scanId

/-- `tenant_level`. `scalar_one` raises where there is no such tenant. -/
def tenantLevel (tenants : TenantId → Option Tenant) (tenantId : TenantId) : Option String :=
  (tenants tenantId).map Tenant.aiEnrichmentLevel

/-- `enrichment_rows`: the items of the dictionary. The unique key on `vulnerability_id` and
`function` keeps its keys distinct, so their order carries no meaning. -/
def enrichmentRows (vulnerabilityId : VulnerabilityId) (vulnerability : Vulnerability)
    (functions : List String) (table : EnrichmentTable) :
    List (String × EnrichmentId × VulnerabilityEnrichment) :=
  (table.rowsByKey fun _ row =>
      row.vulnerabilityId == vulnerabilityId && row.tenantId == vulnerability.tenantId &&
        functions.contains row.function).map
    fun entry => (entry.2.function, entry)

/-- `scope`. -/
def inScan (scanId : ScanId) (scan : Scan) (row : Vulnerability) : Bool :=
  row.scanId == scanId && row.tenantId == scan.tenantId

/-- The correlated `ok_count`. -/
def okCount (functions : List String) (enrichments : EnrichmentTable)
    (vulnerabilityId : VulnerabilityId) (vulnerability : Vulnerability) : Nat :=
  enrichments.count fun row =>
    row.vulnerabilityId == vulnerabilityId && row.tenantId == vulnerability.tenantId &&
      functions.contains row.function && row.status == .ok

/-- `scan_pending`. -/
def scanPending (scanId : ScanId) (scan : Scan) (functions : List String)
    (table : VulnerabilityTable) (enrichments : EnrichmentTable) :
    List (VulnerabilityId × Vulnerability) × Nat :=
  (table.rowsByKey fun id row => inScan scanId scan row &&
      decide (okCount functions enrichments id row < functions.length),
    table.count (inScan scanId scan))

section

variable {tenantId : TenantId} {vulnerabilityId : VulnerabilityId} {vulnerability : Vulnerability}
  {functions : List String} {scanId : ScanId} {scan : Scan} {table other : VulnerabilityTable}
  {enrichments enrichments' : EnrichmentTable}

theorem enrichmentRows_agree
    (agree : Table.Agree VulnerabilityEnrichment.tenantId tenantId enrichments enrichments')
    (listed : enrichments.Listed) (listed' : enrichments'.Listed)
    (own : vulnerability.tenantId = tenantId) :
    enrichmentRows vulnerabilityId vulnerability functions enrichments =
      enrichmentRows vulnerabilityId vulnerability functions enrichments' := by
  have names : ∀ (key : EnrichmentId) (row : VulnerabilityEnrichment),
      (row.vulnerabilityId == vulnerabilityId && row.tenantId == vulnerability.tenantId &&
        functions.contains row.function) = true → row.tenantId = tenantId := by
    intro key row matched
    simp only [Bool.and_eq_true, beq_iff_eq] at matched
    exact matched.1.2.trans own
  rw [enrichmentRows, enrichmentRows,
    agree.rowsByKey listed listed' (fun _ _ _ => rfl) names names]

theorem okCount_agree
    (agree : Table.Agree VulnerabilityEnrichment.tenantId tenantId enrichments enrichments')
    (listed : enrichments.Listed) (listed' : enrichments'.Listed)
    (own : vulnerability.tenantId = tenantId) :
    okCount functions enrichments vulnerabilityId vulnerability =
      okCount functions enrichments' vulnerabilityId vulnerability := by
  refine agree.count listed listed' ?_
  intro row matched
  simp only [Bool.and_eq_true, beq_iff_eq] at matched
  exact matched.1.1.2.trans own

theorem scanPending_agree
    (agree : Table.Agree Vulnerability.tenantId tenantId table other)
    (agree' : Table.Agree VulnerabilityEnrichment.tenantId tenantId enrichments enrichments')
    (listed : table.Listed ∧ enrichments.Listed) (listed' : other.Listed ∧ enrichments'.Listed)
    (own : scan.tenantId = tenantId) :
    scanPending scanId scan functions table enrichments =
      scanPending scanId scan functions other enrichments' := by
  have names : ∀ row, inScan scanId scan row = true → row.tenantId = tenantId := by
    intro row matched
    simp only [inScan, Bool.and_eq_true, beq_iff_eq] at matched
    exact matched.2.trans own
  have pending : ∀ (counted : EnrichmentTable) (id : VulnerabilityId) (row : Vulnerability),
      (inScan scanId scan row && decide (okCount functions counted id row < functions.length)) =
        true → row.tenantId = tenantId := by
    intro counted id row matched
    exact names row ((Bool.and_eq_true _ _).mp matched).1
  rw [scanPending, scanPending, agree.count listed.1 listed'.1 names]
  rw [agree.rowsByKey listed.1 listed'.1 ?_ (pending enrichments) (pending enrichments')]
  intro id row mine
  rw [okCount_agree agree' listed.2 listed'.2 mine]

end

end Enrichment
