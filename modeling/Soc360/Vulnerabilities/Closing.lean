import Soc360.Store.ReadCommitted
import Soc360.Vulnerabilities.Service

set_option autoImplicit false

namespace Vulnerabilities

open ReadCommitted (Fitting Label Service World)
open Scans (Json JsonObject ScanId TenantId Timestamp)

/-- Functions of Python: `str` of a decoded value, and methods of `str`. -/
structure Texts where
  str : Json → String
  strip : String → String
  lower : String → String
  upper : String → String

/-- `VulnerabilityCreate`, for the tenant of the call and with the new `uuid4`. `scanExists` is
what the foreign key finds. -/
structure VulnerabilityCreate where
  vulnerabilityId : VulnerabilityId
  tenantId : TenantId
  scanId : ScanId
  scanExists : Bool
  title : String
  description : Option String
  severity : VulnerabilitySeverity
  cveId : Option String
  cvssScore : Option ℚ
  vulnerabilityMetadata : Option JsonObject
  clock : Timestamp

/-- The row that `create_vulnerability` adds. -/
def VulnerabilityCreate.row (data : VulnerabilityCreate) : Vulnerability where
  tenantId := data.tenantId
  scanId := data.scanId
  title := data.title
  description := data.description
  severity := data.severity
  status := .opened
  closedAt := none
  cveId := data.cveId
  cvssScore := data.cvssScore.map quantize
  vulnerabilityMetadata := data.vulnerabilityMetadata
  createdAt := data.clock
  updatedAt := data.clock

structure FindingDraft where
  title : String
  description : String
  severity : String
  cveId : Option String
  cvssScore : Option ℚ
  metadata : JsonObject

/-- `VALID_SEVERITIES`. -/
def VulnerabilitySeverity.ofString? : String → Option VulnerabilitySeverity
  | "critical" => some .critical
  | "high" => some .high
  | "medium" => some .medium
  | "low" => some .low
  | "info" => some .info
  | _ => none

section

variable (texts : Texts)

/-- `finding_identity`. -/
def findingIdentity (metadata : Option JsonObject) (cveId : Option String) (title : String) :
    String :=
  let field (name : String) : String :=
    match (metadata.getD []).lookup name with
    | none => ""
    | some .null => ""
    | some value => texts.strip (texts.str value)
  let parts := [texts.lower (field "script_id"), texts.lower (field "host"), field "port",
    texts.lower (field "protocol"), texts.upper (texts.strip (cveId.getD ""))]
  if parts.all (· == "") then texts.lower (texts.strip title) else "|".intercalate parts

def FindingDraft.identity (draft : FindingDraft) : String :=
  findingIdentity texts (some draft.metadata) draft.cveId draft.title

def Vulnerability.identity (row : Vulnerability) : String :=
  findingIdentity texts row.vulnerabilityMetadata row.cveId row.title

/-- The variables of the loop of `upsert_findings`, with the rows added to the session. -/
structure Upserting where
  seen : List String
  rows : List (VulnerabilityId × Vulnerability)
  created : Nat
  skipped : Nat

/-- A call of `upsert_findings`. Each draft comes with the `uuid4` that it gets if it is added. -/
structure UpsertFindings where
  scanId : ScanId
  tenantId : TenantId
  drafts : List (VulnerabilityId × FindingDraft)
  clock : Timestamp

namespace UpsertFindings

variable (call : UpsertFindings)

/-- The row that is added for a draft, with the default of its status. -/
def row (draft : FindingDraft) (severity : VulnerabilitySeverity) : Vulnerability where
  tenantId := call.tenantId
  scanId := call.scanId
  title := draft.title
  description := some draft.description
  severity := severity
  status := .opened
  closedAt := none
  cveId := draft.cveId
  cvssScore := draft.cvssScore.map quantize
  vulnerabilityMetadata := some draft.metadata
  createdAt := call.clock
  updatedAt := call.clock

/-- What `upsert_findings` selects first. -/
def existing (table : VulnerabilityTable) : List (VulnerabilityId × Vulnerability) :=
  table.rows fun _ row => row.scanId == call.scanId && row.tenantId == call.tenantId

/-- One turn of the loop. -/
def turn (state : Upserting) (entry : VulnerabilityId × FindingDraft) : Upserting :=
  match VulnerabilitySeverity.ofString? entry.2.severity with
  | none => { state with skipped := state.skipped + 1 }
  | some severity =>
      let key := entry.2.identity texts
      if key ∈ state.seen then { state with skipped := state.skipped + 1 }
      else
        { seen := key :: state.seen
          rows := state.rows ++ [(entry.1, call.row entry.2 severity)]
          created := state.created + 1
          skipped := state.skipped }

def loop (table : VulnerabilityTable) : Upserting :=
  let seen := (call.existing table).map fun entry => entry.2.identity texts
  call.drafts.foldl (call.turn texts) ⟨seen, [], 0, 0⟩

end UpsertFindings

/-- The calls that add vulnerabilities. -/
inductive Insertion where
  | createVulnerability (data : VulnerabilityCreate)
  | upsertFindings (call : UpsertFindings)

def Insertion.rows (table : VulnerabilityTable) :
    Insertion → Option (List (VulnerabilityId × Vulnerability))
  | createVulnerability data =>
      if data.scanExists then some [(data.vulnerabilityId, data.row)] else none
  | upsertFindings call => some (call.loop texts table).rows

/-- A call of `update_vulnerability` on the row of its vulnerability. -/
structure UpdateCall where
  tenantId : Option TenantId
  data : VulnerabilityUpdate
  now : Timestamp
  clock : Timestamp

structure VulnerabilityColumns where
  status : Option VulnerabilityStatus
  closedAt : Option (Option Timestamp)
  description : Option (Option String)
  cvssScore : Option (Option Int)
  vulnerabilityMetadata : Option (Option JsonObject)
  updatedAt : Option Timestamp

/-- The columns of the UPDATE. -/
def UpdateCall.columns (call : UpdateCall) (row : Vulnerability) : Option VulnerabilityColumns :=
  if call.tenantId.all (row.tenantId == ·) then
    let (after, fields) := call.data.edit call.now row call.clock
    some {
      status := ReadCommitted.changed row.status after.status
      closedAt := ReadCommitted.changed row.closedAt after.closedAt
      description := ReadCommitted.changed row.description after.description
      cvssScore := ReadCommitted.changed row.cvssScore after.cvssScore
      vulnerabilityMetadata :=
        if "vulnerability_metadata" ∈ fields then some after.vulnerabilityMetadata else none
      updatedAt := ReadCommitted.changed row.updatedAt after.updatedAt }
  else none

def VulnerabilityColumns.write (columns : VulnerabilityColumns) (row : Vulnerability) :
    Vulnerability :=
  { row with
    status := columns.status.getD row.status
    closedAt := columns.closedAt.getD row.closedAt
    description := columns.description.getD row.description
    cvssScore := columns.cvssScore.getD row.cvssScore
    vulnerabilityMetadata := columns.vulnerabilityMetadata.getD row.vulnerabilityMetadata
    updatedAt := columns.updatedAt.getD row.updatedAt }

/-- `create_vulnerability`, `upsert_findings` and `update_vulnerability`. -/
def requests :
    Service VulnerabilityId Vulnerability VulnerabilityColumns Insertion UpdateCall where
  create call table := call.rows texts table
  edit := UpdateCall.columns
  write := VulnerabilityColumns.write
  admits _ _ _ := true

end

/-- The status is `open` if and only if `closed_at` is null. -/
def Vulnerability.ClosedIsStamped (row : Vulnerability) : Prop :=
  row.status = .opened ↔ row.closedAt = none

instance (row : Vulnerability) : Decidable row.ClosedIsStamped :=
  inferInstanceAs (Decidable (_ ↔ _))

/-- An UPDATE that writes a status and no `closed_at` finds a row that is closed. -/
def VulnerabilityColumns.Fits (columns : VulnerabilityColumns) (current : Vulnerability) : Prop :=
  columns.status.isSome = true → columns.closedAt = none → current.status ≠ .opened

instance (columns : VulnerabilityColumns) (current : Vulnerability) :
    Decidable (columns.Fits current) :=
  inferInstanceAs (Decidable (_ → _ → _))

section

variable {texts : Texts} {data : VulnerabilityUpdate} {now clock : Timestamp}
  {row before current : Vulnerability} {call : UpdateCall} {columns : VulnerabilityColumns}

theorem UpsertFindings.turn_opened {call : UpsertFindings} {state : Upserting}
    (opened : ∀ entry ∈ state.rows, entry.2.ClosedIsStamped)
    (draft : VulnerabilityId × FindingDraft) :
    ∀ entry ∈ (call.turn texts state draft).rows, entry.2.ClosedIsStamped := by
  rw [UpsertFindings.turn]
  split
  next => exact opened
  next severity _ =>
    simp only
    split
    next => exact opened
    next =>
      intro entry member
      rcases List.mem_append.mp member with earlier | new
      · exact opened entry earlier
      · rw [List.mem_singleton.mp new]
        exact ⟨fun _ => rfl, fun _ => rfl⟩

theorem UpsertFindings.loop_opened {call : UpsertFindings} {table : VulnerabilityTable} :
    ∀ entry ∈ (call.loop texts table).rows, entry.2.ClosedIsStamped := by
  have folded (drafts : List (VulnerabilityId × FindingDraft)) : ∀ state : Upserting,
      (∀ entry ∈ state.rows, entry.2.ClosedIsStamped) →
        ∀ entry ∈ (drafts.foldl (call.turn texts) state).rows, entry.2.ClosedIsStamped := by
    induction drafts with
    | nil => exact fun _ opened => opened
    | cons draft drafts ih =>
        intro state opened
        exact ih _ (turn_opened opened draft)
  exact folded call.drafts _ (by simp)

theorem Insertion.rows_valid {table : VulnerabilityTable} {call : Insertion}
    {rows : List (VulnerabilityId × Vulnerability)} (given : call.rows texts table = some rows) :
    ∀ entry ∈ rows, entry.2.ClosedIsStamped := by
  cases call with
  | createVulnerability data =>
      rw [Insertion.rows] at given
      split at given
      next =>
        cases given
        intro entry member
        rw [List.mem_singleton.mp member]
        exact ⟨fun _ => rfl, fun _ => rfl⟩
      next => cases given
  | upsertFindings call =>
      cases given
      exact UpsertFindings.loop_opened

theorem VulnerabilityUpdate.assignDescription_closing :
    (data.assignDescription row).1.status = row.status ∧
      (data.assignDescription row).1.closedAt = row.closedAt := by
  unfold VulnerabilityUpdate.assignDescription
  split
  next => exact ⟨rfl, rfl⟩
  next => split <;> exact ⟨rfl, rfl⟩

theorem VulnerabilityUpdate.assignCvssScore_closing :
    (data.assignCvssScore row).1.status = row.status ∧
      (data.assignCvssScore row).1.closedAt = row.closedAt := by
  unfold VulnerabilityUpdate.assignCvssScore
  split
  next => exact ⟨rfl, rfl⟩
  next => simp only; split <;> exact ⟨rfl, rfl⟩

theorem VulnerabilityUpdate.assignMetadata_closing :
    (data.assignMetadata row).1.status = row.status ∧
      (data.assignMetadata row).1.closedAt = row.closedAt := by
  unfold VulnerabilityUpdate.assignMetadata
  split
  next => exact ⟨rfl, rfl⟩
  next => split <;> exact ⟨rfl, rfl⟩

/-- Only the assignment of the status closes or reopens. -/
theorem VulnerabilityUpdate.edit_closing :
    (data.edit now row clock).1.status = (data.assignStatus now row).1.status ∧
      (data.edit now row clock).1.closedAt = (data.assignStatus now row).1.closedAt := by
  have written : ∀ {Value : Type} (column : Vulnerability → Value),
      (∀ after stamp, column { after with updatedAt := stamp } = column after) →
      column (data.edit now row clock).1 = column (data.assignMetadata
        (data.assignCvssScore (data.assignDescription
          (data.assignStatus now row).1).1).1).1 := by
    intro Value column kept
    simp only [VulnerabilityUpdate.edit]
    split
    next => rfl
    next => exact kept _ _
  constructor
  · rw [written Vulnerability.status fun _ _ => rfl, assignMetadata_closing.1,
      assignCvssScore_closing.1, assignDescription_closing.1]
  · rw [written Vulnerability.closedAt fun _ _ => rfl, assignMetadata_closing.2,
      assignCvssScore_closing.2, assignDescription_closing.2]

/-- What the assignment of the status writes, on a row that was read as it should be. -/
theorem VulnerabilityUpdate.assignStatus_columns (read : row.ClosedIsStamped) :
    let after := (data.assignStatus now row).1
    (after.status = row.status ∧ after.closedAt = row.closedAt) ∨
      (after.status ≠ row.status ∧ after.closedAt ≠ row.closedAt ∧ after.ClosedIsStamped) ∨
      (after.status ≠ row.status ∧ after.closedAt = row.closedAt ∧ after.status ≠ .opened) := by
  unfold VulnerabilityUpdate.assignStatus
  split
  next => exact .inl ⟨rfl, rfl⟩
  next status _ =>
    split
    next => exact .inl ⟨rfl, rfl⟩
    next other =>
      by_cases reopens : status = .opened
      · subst reopens
        have closed : row.closedAt ≠ none := fun none => other (read.mpr none).symm
        refine .inr (.inl ⟨other, ?_, ?_⟩)
        · simpa using closed.symm
        · simp [Vulnerability.ClosedIsStamped]
      · by_cases closes : row.status = .opened
        · refine .inr (.inl ⟨other, ?_, ?_⟩)
          · simp [reopens, closes, read.mp closes]
          · simp [Vulnerability.ClosedIsStamped, reopens, closes]
        · exact .inr (.inr ⟨other, by simp [reopens, closes], reopens⟩)

/-- The two columns of an UPDATE are what the assignment of the status changes. -/
theorem columns_assign (given : call.columns before = some columns) :
    columns.status = ReadCommitted.changed before.status
        (call.data.assignStatus call.now before).1.status ∧
      columns.closedAt = ReadCommitted.changed before.closedAt
        (call.data.assignStatus call.now before).1.closedAt := by
  have closing := @VulnerabilityUpdate.edit_closing call.data call.now call.clock before
  unfold UpdateCall.columns at given
  generalize call.data.edit call.now before call.clock = edited at given closing
  obtain ⟨after, fields⟩ := edited
  split at given
  next =>
    cases given
    exact ⟨congrArg (ReadCommitted.changed before.status) closing.1,
      congrArg (ReadCommitted.changed before.closedAt) closing.2⟩
  next => cases given

/-- The three ways in which an UPDATE writes the two columns. -/
theorem columns_closing (read : before.ClosedIsStamped)
    (given : call.columns before = some columns) :
    (columns.status = none ∧ columns.closedAt = none) ∨
      (∃ status closedAt, columns.status = some status ∧ columns.closedAt = some closedAt ∧
        (status = .opened ↔ closedAt = none)) ∨
      (∃ status, columns.status = some status ∧ columns.closedAt = none ∧ status ≠ .opened) := by
  obtain ⟨status, closedAt⟩ := columns_assign given
  rw [status, closedAt]
  rcases @VulnerabilityUpdate.assignStatus_columns call.data call.now before read with
    ⟨sameStatus, sameClosed⟩ | ⟨moved, restamped, stamped⟩ | ⟨moved, sameClosed, closed⟩
  · exact .inl ⟨ReadCommitted.changed_none.mpr sameStatus, ReadCommitted.changed_none.mpr sameClosed⟩
  · exact .inr (.inl ⟨_, _, if_neg moved, if_neg restamped, stamped⟩)
  · exact .inr (.inr ⟨_, if_neg moved, ReadCommitted.changed_none.mpr sameClosed, closed⟩)

/-- An UPDATE keeps the two columns together, unless it moves a row that has been reopened from
one closed status to another. -/
theorem write_closedIsStamped (read : before.ClosedIsStamped) (stored : current.ClosedIsStamped)
    (given : call.columns before = some columns) :
    (columns.write current).ClosedIsStamped ↔ columns.Fits current := by
  rw [Vulnerability.ClosedIsStamped] at stored
  simp only [Vulnerability.ClosedIsStamped, VulnerabilityColumns.write, VulnerabilityColumns.Fits]
  rcases columns_closing read given with
    ⟨status, closedAt⟩ | ⟨after, stamp, status, closedAt, stamped⟩ | ⟨after, status, closedAt, closed⟩
  · simp [status, closedAt, stored]
  · simp [status, closedAt, stamped]
  · simp [status, closedAt, closed, stored]

/-- Open means not closed, in every run in which an UPDATE from one closed status to another finds
a row that is closed. -/
theorem stored_closed_stamped {world : World VulnerabilityId Vulnerability VulnerabilityColumns
      UpdateCall}
    (reached : (requests texts).machine.ReachableBy (Fitting fun _ columns current =>
      columns.Fits current) world) :
    ∀ vulnerabilityId row, world.committed.find vulnerabilityId = some row →
      (row.status = .opened ↔ row.closedAt = none) := by
  apply ReadCommitted.stored_valid Vulnerability.ClosedIsStamped _ _ reached
  · intro call table rows created
    exact Insertion.rows_valid created
  · intro call before columns current read stored given fits
    exact (write_closedIsStamped read stored given).mpr fits

end

/-! A closed vulnerability: one request accepts its risk, another reopens it. -/

def plainTexts : Texts := ⟨fun _ => "", id, id, id⟩

def found : Insertion :=
  .createVulnerability ⟨7, 1, 3, true, "open port", none, .low, none, none, none, 100⟩

def setStatus (status : VulnerabilityStatus) (now : Timestamp) : UpdateCall :=
  ⟨some 1, ⟨some status, none, none, none⟩, now, now⟩

/-- Both read the vulnerability, fixed by then, before either writes it. -/
def overlapping : List (Label VulnerabilityId Insertion UpdateCall) :=
  [.create 0 found, .flush 0, .commit 0, .read 0 7 (setStatus .fixed 200), .validate 0, .flush 0,
    .commit 0, .read 1 7 (setStatus .opened 300), .read 2 7 (setStatus .acceptedRisk 400),
    .validate 1, .validate 2, .flush 1, .commit 1, .flush 2, .commit 2]

theorem overlapping_closed_unstamped :
    ∃ world row, (requests plainTexts).machine.Reachable world ∧
      world.committed.find 7 = some row ∧ ¬(row.status = .opened ↔ row.closedAt = none) := by
  have run : ∃ world row, (requests plainTexts).machine.exec .empty overlapping = some world ∧
      world.committed.find 7 = some row ∧ row.status = .acceptedRisk ∧ row.closedAt = none :=
    ⟨_, _, rfl, rfl, rfl, rfl⟩
  obtain ⟨world, row, run, found, status, closedAt⟩ := run
  refine ⟨world, row, Machine.Reachable.exec (.start rfl) run, found, ?_⟩
  rw [status, closedAt]
  decide

/-- The same two requests in the other order. -/
def overlapping' : List (Label VulnerabilityId Insertion UpdateCall) :=
  [.create 0 found, .flush 0, .commit 0, .read 0 7 (setStatus .fixed 200), .validate 0, .flush 0,
    .commit 0, .read 1 7 (setStatus .opened 300), .read 2 7 (setStatus .acceptedRisk 400),
    .validate 1, .validate 2, .flush 2, .commit 2, .flush 1, .commit 1]

theorem stored_closed_stamped_reopened :
    ∃ world row, (requests plainTexts).machine.exec .empty overlapping' = some world ∧
      world.committed.find 7 = some row ∧ row.status = .opened ∧
      ∀ vulnerabilityId row, world.committed.find vulnerabilityId = some row →
        (row.status = .opened ↔ row.closedAt = none) := by
  have run : ∃ world row, (requests plainTexts).machine.exec .empty overlapping' = some world ∧
      world.committed.find 7 = some row ∧ row.status = .opened := ⟨_, _, rfl, rfl, rfl⟩
  obtain ⟨world, row, run, found, status⟩ := run
  have fitting : (requests plainTexts).machine.Allows (Fitting fun _ columns current =>
      VulnerabilityColumns.Fits columns current) .empty overlapping' := by
    decide +kernel
  exact ⟨world, row, run, found, status,
    stored_closed_stamped (Machine.ReachableBy.exec (.start rfl) fitting run)⟩

end Vulnerabilities
