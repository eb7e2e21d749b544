import Soc360.Events.Publishing
import Soc360.Frontend.Lossless
import Soc360.Payloads.Requests

set_option autoImplicit false

/-! What the creation of a vulnerability reports, and what it stores. -/

namespace Vulnerabilities

open Frontend.Forms (scoreOf)
open Scans (JsonObject ScanId TenantId Timestamp configJson stripWhitespace)

/-- A body of `VulnerabilityCreate`, without its `tenant_id`. A score is a finite float. -/
structure VulnerabilityCreateBody where
  scanId : ScanId
  title : String
  description : Option String
  severity : VulnerabilitySeverity
  cveId : Option String
  cvssScore : Option ℚ
  vulnerabilityMetadata : Option JsonObject

/-- `VulnerabilityCreate`. -/
def VulnerabilityCreateBody.validate (body : VulnerabilityCreateBody) :
    Option VulnerabilityPayload :=
  let title := stripWhitespace body.title
  let cveId := body.cveId.map stripWhitespace
  if 1 ≤ title.length ∧ title.length ≤ 255 ∧ cveId.all (fun text => decide (text.length ≤ 50)) ∧
      body.cvssScore.all fun score => decide (0 ≤ score ∧ score ≤ 10) then
    some ⟨body.scanId, title, body.description, body.severity, cveId, body.cvssScore,
      body.vulnerabilityMetadata⟩
  else none

/-- What the driver refuses to store. -/
def VulnerabilityPayload.storable (data : VulnerabilityPayload) : Bool :=
  data.title.storable && data.description.all String.storable && data.cveId.all String.storable &&
    (configJson data.vulnerabilityMetadata).storable

/-- `cvss_score` of an instance: the float it was made with, or the `Decimal` it was loaded with, in
tenths. -/
inductive Score where
  | float (value : ℚ)
  | decimal (tenths : Int)

/-- `float(cvss_score)`. -/
def Score.toFloat : Score → ℚ
  | float value => value
  | decimal tenths => scoreOf tenths

/-- An instance of the ORM's `Vulnerability`. -/
structure VulnerabilityInstance where
  id : VulnerabilityId
  tenantId : TenantId
  scanId : ScanId
  title : String
  description : Option String
  severity : VulnerabilitySeverity
  status : VulnerabilityStatus
  cveId : Option String
  cvssScore : Option Score
  vulnerabilityMetadata : Option JsonObject
  createdAt : Timestamp
  updatedAt : Timestamp
  closedAt : Option Timestamp

/-- The instance of `create_vulnerability` after the flush. -/
def VulnerabilityPayload.instance (data : VulnerabilityPayload) (id : VulnerabilityId)
    (tenantId : TenantId) (clock : Timestamp) : VulnerabilityInstance where
  id := id
  tenantId := tenantId
  scanId := data.scanId
  title := data.title
  description := data.description
  severity := data.severity
  status := .opened
  cveId := data.cveId
  cvssScore := data.cvssScore.map .float
  vulnerabilityMetadata := data.vulnerabilityMetadata
  createdAt := clock
  updatedAt := clock
  closedAt := none

/-- The instance that a query loads. -/
def Vulnerability.loaded (row : Vulnerability) (id : VulnerabilityId) : VulnerabilityInstance where
  id := id
  tenantId := row.tenantId
  scanId := row.scanId
  title := row.title
  description := row.description
  severity := row.severity
  status := row.status
  cveId := row.cveId
  cvssScore := row.cvssScore.map .decimal
  vulnerabilityMetadata := row.vulnerabilityMetadata
  createdAt := row.createdAt
  updatedAt := row.updatedAt
  closedAt := row.closedAt

structure VulnerabilityResponse where
  id : VulnerabilityId
  tenantId : TenantId
  scanId : ScanId
  title : String
  description : Option String
  severity : VulnerabilitySeverity
  status : VulnerabilityStatus
  cveId : Option String
  cvssScore : Option ℚ
  vulnerabilityMetadata : Option JsonObject
  createdAt : Timestamp
  updatedAt : Timestamp
  closedAt : Option Timestamp

/-- `VulnerabilityResponse.from_orm_instance`. -/
def VulnerabilityResponse.fromOrmInstance (vulnerability : VulnerabilityInstance) :
    VulnerabilityResponse where
  id := vulnerability.id
  tenantId := vulnerability.tenantId
  scanId := vulnerability.scanId
  title := vulnerability.title
  description := vulnerability.description
  severity := vulnerability.severity
  status := vulnerability.status
  cveId := vulnerability.cveId
  cvssScore := vulnerability.cvssScore.map Score.toFloat
  vulnerabilityMetadata := vulnerability.vulnerabilityMetadata
  createdAt := vulnerability.createdAt
  updatedAt := vulnerability.updatedAt
  closedAt := vulnerability.closedAt

structure VulnerabilityCreatedEvent where
  tenantId : TenantId
  vulnerabilityId : VulnerabilityId
  scanId : ScanId
  title : String
  severity : VulnerabilitySeverity
  status : VulnerabilityStatus
  cveId : Option String
  cvssScore : Option ℚ
  createdAt : Timestamp

/-- The event of `create_vulnerability`, whose model strips its texts. -/
def VulnerabilityInstance.createdEvent (vulnerability : VulnerabilityInstance)
    (tenantId : TenantId) : VulnerabilityCreatedEvent where
  tenantId := tenantId
  vulnerabilityId := vulnerability.id
  scanId := vulnerability.scanId
  title := stripWhitespace vulnerability.title
  severity := vulnerability.severity
  status := vulnerability.status
  cveId := vulnerability.cveId.map stripWhitespace
  cvssScore := vulnerability.cvssScore.map Score.toFloat
  createdAt := vulnerability.createdAt

structure Created where
  vulnerability : VulnerabilityInstance
  event : VulnerabilityCreatedEvent
  table : VulnerabilityTable

/-- `create_vulnerability`, or nothing where the schema, the driver or the foreign key of the scan
refuses. -/
def createVulnerability (body : VulnerabilityCreateBody) (tenantId : TenantId)
    (id : VulnerabilityId) (scanExists : Bool) (clock : Timestamp) (table : VulnerabilityTable) :
    Option Created := do
  let data ← body.validate
  if data.storable && scanExists then
    let vulnerability := data.instance id tenantId clock
    some ⟨vulnerability, vulnerability.createdEvent tenantId,
      table.insert id (data.create id tenantId scanExists clock).row⟩
  else none

/-- The fields of the event are those of the row. -/
structure VulnerabilityCreatedEvent.Agrees (event : VulnerabilityCreatedEvent)
    (id : VulnerabilityId) (row : Vulnerability) : Prop where
  vulnerabilityId : event.vulnerabilityId = id
  tenantId : event.tenantId = row.tenantId
  scanId : event.scanId = row.scanId
  title : event.title = row.title
  severity : event.severity = row.severity
  status : event.status = row.status
  cveId : event.cveId = row.cveId
  cvssScore : event.cvssScore = row.cvssScore.map scoreOf
  createdAt : event.createdAt = row.createdAt

/-- A `PATCH` of the score alone. -/
def VulnerabilityUpdate.ofScore (score : ℚ) : VulnerabilityUpdate :=
  ⟨none, none, some (some (Doubles.decimal score)), none⟩

/-- The creation reports what it stores, and a `PATCH` with the same score stores the same. -/
structure Created.Truthful (created : Created) (id : VulnerabilityId) (row : Vulnerability)
    (body : VulnerabilityCreateBody) : Prop where
  response : VulnerabilityResponse.fromOrmInstance created.vulnerability =
    .fromOrmInstance (row.loaded id)
  event : created.event.Agrees id row
  patch : ∀ score, body.cvssScore = some score → ∀ now clock,
    ((VulnerabilityUpdate.ofScore score).edit now row clock).1.cvssScore = row.cvssScore

section

variable {body : VulnerabilityCreateBody} {data : VulnerabilityPayload} {created : Created}
  {tenantId : TenantId} {id : VulnerabilityId} {scanExists : Bool} {clock : Timestamp}
  {table : VulnerabilityTable} {row : Vulnerability}

theorem stripWhitespace_stripped (text : String) :
    stripWhitespace (stripWhitespace text) = stripWhitespace text := by
  have trimmed := @List.trim_trim _ Scans.isWhiteSpace text.toList
  rw [stripWhitespace, stripWhitespace, String.toList_ofList]
  exact congrArg String.ofList trimmed

/-- A validated body. -/
theorem validate_some (valid : body.validate = some data) :
    data = ⟨body.scanId, stripWhitespace body.title, body.description, body.severity,
        body.cveId.map stripWhitespace, body.cvssScore, body.vulnerabilityMetadata⟩ ∧
      ∀ score, body.cvssScore = some score → 0 ≤ score ∧ score ≤ 10 := by
  rw [VulnerabilityCreateBody.validate] at valid
  split at valid
  next accepted =>
    obtain ⟨_, _, _, within⟩ := accepted
    refine ⟨(Option.some.inj valid).symm, ?_⟩
    intro score given
    rw [given, Option.all_some, decide_eq_true_eq] at within
    exact within
  next => cases valid

theorem createVulnerability_some
    (made : createVulnerability body tenantId id scanExists clock table = some created) :
    ∃ data, body.validate = some data ∧ created = ⟨data.instance id tenantId clock,
      (data.instance id tenantId clock).createdEvent tenantId,
      table.insert id (data.create id tenantId scanExists clock).row⟩ := by
  rw [createVulnerability] at made
  cases valid : body.validate with
  | none =>
      rw [valid] at made
      cases made
  | some data =>
      rw [valid] at made
      refine ⟨data, rfl, ?_⟩
      by_cases stored : (data.storable && scanExists) = true
      · simp only [Option.bind_eq_bind, Option.bind_some, stored, if_true] at made
        exact (Option.some.inj made).symm
      · simp only [Option.bind_eq_bind, Option.bind_some, stored] at made
        cases made

/-- The scores with one decimal are stored as they are. -/
theorem tenths_stored : (List.range 101).all (fun tenths => quantize (scoreOf tenths) == tenths) =
    true := by decide +kernel

theorem tenths_kept {tenths : Nat} (small : tenths ≤ 100) :
    quantize (scoreOf tenths) = tenths ∧
      quantize (Doubles.decimal (scoreOf tenths)) = tenths := by
  have member : tenths ∈ List.range 101 := List.mem_range.mpr (Nat.lt_succ_of_le small)
  have stored := List.all_eq_true.mp tenths_stored _ member
  have kept := List.all_eq_true.mp Frontend.Forms.scores_kept _ member
  rw [Frontend.Forms.scoreKept, Bool.and_eq_true, beq_iff_eq] at kept
  exact ⟨beq_iff_eq.mp stored, kept.2⟩

theorem VulnerabilityUpdate.edit_ofScore (score : ℚ) (now clock : Timestamp) :
    ((VulnerabilityUpdate.ofScore score).edit now row clock).1.cvssScore =
      some (quantize (Doubles.decimal score)) := by
  by_cases same : some (quantize (Doubles.decimal score)) = row.cvssScore
  · simp [VulnerabilityUpdate.edit, VulnerabilityUpdate.ofScore,
      VulnerabilityUpdate.assignStatus, VulnerabilityUpdate.assignDescription,
      VulnerabilityUpdate.assignCvssScore, VulnerabilityUpdate.assignMetadata, same]
  · simp [VulnerabilityUpdate.edit, VulnerabilityUpdate.ofScore,
      VulnerabilityUpdate.assignStatus, VulnerabilityUpdate.assignDescription,
      VulnerabilityUpdate.assignCvssScore, VulnerabilityUpdate.assignMetadata, same]

/-- What is reported of a creation is what is stored, if and only if the score is the float of a
number with at most one decimal. -/
theorem created_truthful_iff {reader : Option TenantId}
    (made : createVulnerability body tenantId id scanExists clock table = some created)
    (later : getVulnerability id reader created.table = some row) :
    created.Truthful id row body ↔
      body.cvssScore = none ∨
        ∃ tenths : Nat, tenths ≤ 100 ∧ body.cvssScore = some (scoreOf tenths) := by
  obtain ⟨data, valid, rfl⟩ := createVulnerability_some made
  obtain ⟨rfl, within⟩ := validate_some valid
  have found := (Option.filter_eq_some_iff.mp later).1
  rw [Table.find_insert, if_pos rfl] at found
  obtain rfl := Option.some.inj found
  constructor
  · intro truthful
    have reported := congrArg VulnerabilityResponse.cvssScore truthful.response
    cases given : body.cvssScore with
    | none => exact .inl rfl
    | some score =>
        right
        obtain ⟨low, high⟩ := within score given
        obtain ⟨least, most⟩ := Frontend.Forms.quantize_range low high
        have nat : (((quantize score).toNat : Nat) : Int) = quantize score :=
          Int.toNat_of_nonneg least
        have same : score = scoreOf (quantize score) := by
          change (body.cvssScore.map Score.float).map Score.toFloat =
            ((body.cvssScore.map quantize).map Score.decimal).map Score.toFloat at reported
          rw [given] at reported
          exact Option.some.inj reported
        refine ⟨(quantize score).toNat, by omega, ?_⟩
        rw [nat, ← same]
  · intro tenths'
    have reported : (body.cvssScore.map Score.float).map Score.toFloat =
        (body.cvssScore.map quantize).map scoreOf := by
      rcases tenths' with nothing | ⟨tenths, small, given⟩
      · rw [nothing]
        rfl
      · rw [given, Option.map_some, Option.map_some, Option.map_some, Option.map_some,
          (tenths_kept small).1]
        rfl
    have loaded : ((body.cvssScore.map quantize).map Score.decimal).map Score.toFloat =
        (body.cvssScore.map quantize).map scoreOf := by
      rw [Option.map_map]
      rfl
    refine ⟨?_, ⟨rfl, rfl, rfl, stripWhitespace_stripped _, rfl, rfl, ?_, reported, rfl⟩, ?_⟩
    · simp only [VulnerabilityResponse.fromOrmInstance, VulnerabilityPayload.instance,
        Vulnerability.loaded, VulnerabilityPayload.create, VulnerabilityCreate.row, reported, loaded]
    · change (body.cveId.map stripWhitespace).map stripWhitespace = body.cveId.map stripWhitespace
      have once : stripWhitespace ∘ stripWhitespace = stripWhitespace :=
        funext stripWhitespace_stripped
      rw [Option.map_map, once]
    · intro score given now clock'
      rw [VulnerabilityUpdate.edit_ofScore]
      change some _ = body.cvssScore.map quantize
      rcases tenths' with nothing | ⟨tenths, small, given'⟩
      · rw [nothing] at given
        cases given
      · rw [given'] at given
        obtain rfl := Option.some.inj given
        rw [given', Option.map_some, (tenths_kept small).1, (tenths_kept small).2]

end

/-- A body with a score and metadata. -/
def serverBody (score : Option ℚ) (metadata : Option JsonObject) : VulnerabilityCreateBody :=
  ⟨3, "Outdated server", none, .high, none, score, metadata⟩

theorem create_serverBody {score : Option ℚ} {metadata : Option JsonObject}
    (within : score.all (fun score => decide (0 ≤ score ∧ score ≤ 10)) = true)
    (kept : (configJson metadata).storable = true) :
    ∃ created row, createVulnerability (serverBody score metadata) 1 7 true 100 .empty =
        some created ∧ getVulnerability 7 (some 1) created.table = some row ∧
      row.cvssScore = score.map quantize ∧ row.vulnerabilityMetadata = metadata := by
  let data : VulnerabilityPayload := ⟨3, "Outdated server", none, .high, none, score, metadata⟩
  have stripped : stripWhitespace "Outdated server" = "Outdated server" := by decide +kernel
  have long : 1 ≤ "Outdated server".length ∧ "Outdated server".length ≤ 255 := by decide +kernel
  have storable : data.storable = true := by
    have title : "Outdated server".storable = true := by decide +kernel
    simp only [VulnerabilityPayload.storable, data, title, Option.all_none, Bool.true_and]
    exact kept
  have valid : (serverBody score metadata).validate = some data := by
    have accepted : 1 ≤ "Outdated server".length ∧ "Outdated server".length ≤ 255 ∧
        (none : Option String).all (fun text => decide (text.length ≤ 50)) = true ∧
        score.all (fun score => decide (0 ≤ score ∧ score ≤ 10)) = true :=
      ⟨long.1, long.2, rfl, within⟩
    simp only [VulnerabilityCreateBody.validate, serverBody, stripped, Option.map_none]
    rw [if_pos accepted]
  have made : createVulnerability (serverBody score metadata) 1 7 true 100 .empty =
      some ⟨data.instance 7 1 100, (data.instance 7 1 100).createdEvent 1,
        Table.empty.insert 7 (data.create 7 1 true 100).row⟩ := by
    simp only [createVulnerability, valid, Option.bind_eq_bind, Option.bind_some, storable,
      Bool.and_self, if_true]
  refine ⟨_, (data.create 7 1 true 100).row, made, ?_, rfl, rfl⟩
  rw [getVulnerability, Table.visible_some, Table.find_insert, if_pos rfl]
  exact ⟨rfl, rfl⟩

theorem created_truthful_iff_tenths :
    ∃ created row, createVulnerability (serverBody (some (scoreOf 73)) none) 1 7 true 100 .empty =
        some created ∧ getVulnerability 7 (some 1) created.table = some row ∧
      row.cvssScore = some 73 ∧
      created.Truthful 7 row (serverBody (some (scoreOf 73)) none) := by
  obtain ⟨created, row, made, later, stored, _⟩ :=
    @create_serverBody (some (scoreOf 73)) none (by decide +kernel) rfl
  have kept : quantize (scoreOf 73) = 73 := (@tenths_kept 73 (by decide)).1
  rw [Option.map_some, kept] at stored
  refine ⟨created, row, made, later, stored, ?_⟩
  exact (created_truthful_iff made later).mpr (.inr ⟨73, by decide, rfl⟩)

/-- Three numbers for one score: 0.15 is reported, 0.1 is stored, and a `PATCH` stores 0.2. -/
theorem created_score_differs :
    ∃ score created row, Doubles.nearest (15 / 100) = some score ∧
      createVulnerability (serverBody (some score) none) 1 7 true 100 .empty = some created ∧
      getVulnerability 7 (some 1) created.table = some row ∧
      ¬created.Truthful 7 row (serverBody (some score) none) := by
  obtain ⟨score, exact', within, tenths⟩ : ∃ score, Doubles.nearest (15 / 100) = some score ∧
      decide (0 ≤ score ∧ score ≤ 10) = true ∧ quantize score = 1 ∧
      quantize (Doubles.decimal score) = 2 :=
    ⟨5404319552844595 / 36028797018963968, by decide +kernel⟩
  obtain ⟨created, row, made, later, stored, _⟩ := @create_serverBody (some score) none within rfl
  refine ⟨score, created, row, exact', made, later, ?_⟩
  intro truthful
  have patched := truthful.patch score rfl 0 0
  rw [VulnerabilityUpdate.edit_ofScore, stored, Option.map_some, tenths.1, tenths.2] at patched
  exact absurd patched (by decide)

end Vulnerabilities
