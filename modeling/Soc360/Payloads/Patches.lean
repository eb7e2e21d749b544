import Soc360.Payloads.Requests
import Soc360.Scans.JsonValues

set_option autoImplicit false

/-! What a `PATCH` of a scan, a vulnerability or a report writes. -/

namespace Payloads

open Reports (GivenTime Report ReportId ReportTable ReportUpdate)
open Scans (Canonical Json JsonObject Scan ScanId ScanType ScanUpdate Timestamp configJson
  stripWhitespace validateScanConfig)
open Vulnerabilities (Vulnerability VulnerabilityId VulnerabilityTable VulnerabilityUpdate quantize)

/-- A field that a body names holds what was sent, and another keeps its value. -/
def Holds {Sent Value : Type} (sent : Option Sent) (holds : Sent → Prop) (before after : Value) :
    Prop :=
  match sent with
  | none => after = before
  | some sent => holds sent

/-- The names of the fields that differ, in their order. -/
def listed (fields : List (String × Bool)) : List String := (fields.filter Prod.snd).map Prod.fst

/-- The same JSON value in a column. -/
def sameJson (first second : Option JsonObject) : Bool := (configJson first).same (configJson second)

/-- Python's `==` on the values of a column. -/
def equalJson (first second : Option JsonObject) : Bool :=
  (configJson first).pyEq (configJson second)

/-- The keys of the objects in a column are distinct. -/
def DistinctKeys (column : Option JsonObject) : Prop := (configJson column).Distinct

/-- A scan before and after a `PATCH`. -/
structure ScanWritten (body : ScanUpdate) (before after : Scan) (changed : List String) :
    Prop where
  name : Holds body.name (fun sent => sent.map stripWhitespace = some after.name)
    before.name after.name
  type : Holds body.type (fun sent => sent = some after.scanType) before.scanType after.scanType
  config : Holds body.config (fun sent => ∃ normalised,
      validateScanConfig (some after.scanType) (configJson sent) = .ok normalised ∧
        sameJson (some normalised) after.config = true) before.config after.config
  others : after =
    { before with name := after.name, scanType := after.scanType, config := after.config }
  changed : changed = listed [("name", after.name != before.name),
    ("type", after.scanType != before.scanType), ("config", !sameJson after.config before.config)]

/-- A vulnerability before and after a `PATCH`, which may also set `closed_at`. -/
structure VulnerabilityWritten (body : VulnerabilityBody) (before after : Vulnerability)
    (changed : List String) : Prop where
  status : Holds body.status (fun sent => sent = some after.status) before.status after.status
  description : Holds body.description (fun sent => after.description = sent)
    before.description after.description
  cvssScore : Holds body.cvssScore (fun sent => after.cvssScore = sent.map quantize)
    before.cvssScore after.cvssScore
  metadata : Holds body.vulnerabilityMetadata
    (fun sent => sameJson sent after.vulnerabilityMetadata = true)
    before.vulnerabilityMetadata after.vulnerabilityMetadata
  others : after = { before with
    status := after.status
    description := after.description
    cvssScore := after.cvssScore
    vulnerabilityMetadata := after.vulnerabilityMetadata
    closedAt := after.closedAt
    updatedAt := after.updatedAt }
  changed : changed = listed [("status", after.status != before.status),
    ("description", after.description != before.description),
    ("cvss_score", after.cvssScore != before.cvssScore),
    ("vulnerability_metadata",
      !sameJson after.vulnerabilityMetadata before.vulnerabilityMetadata)]

/-- A report before and after a `PATCH`. -/
structure ReportWritten (body : ReportBody) (before after : Report) (changed : List String) :
    Prop where
  name : Holds body.name (fun sent => sent.map stripWhitespace = some after.name)
    before.name after.name
  status : Holds body.status (fun sent => sent = some after.status) before.status after.status
  summary : Holds body.summary (fun sent => after.summary = sent) before.summary after.summary
  metadata : Holds body.reportMetadata (fun sent => sameJson sent after.reportMetadata = true)
    before.reportMetadata after.reportMetadata
  generatedAt : Holds body.generatedAt
    (fun sent => after.generatedAt = sent.map GivenTime.at_) before.generatedAt after.generatedAt
  others : after = { before with
    name := after.name
    status := after.status
    summary := after.summary
    reportMetadata := after.reportMetadata
    generatedAt := after.generatedAt
    updatedAt := after.updatedAt }
  changed : changed = listed [("name", after.name != before.name),
    ("status", after.status != before.status), ("summary", after.summary != before.summary),
    ("report_metadata", !sameJson after.reportMetadata before.reportMetadata),
    ("generated_at", after.generatedAt != before.generatedAt)]

section

variable {sent : Option (Option JsonObject)} {stored : Option JsonObject}

/-- A JSON column is assigned where Python finds the sent value different. -/
def assignJson (sent : Option (Option JsonObject)) (stored : Option JsonObject) :
    Option JsonObject :=
  match sent with
  | none => stored
  | some given => if equalJson given stored then stored else given

/-- The column holds the sent value if Python's `==` tells it from the stored one, or it is the same
value. -/
theorem assignJson_holds_iff (distinct : ∀ given, sent = some given → DistinctKeys given) :
    Holds sent (fun given => sameJson given (assignJson sent stored) = true) stored
        (assignJson sent stored) ↔
      ∀ given, sent = some given → equalJson given stored = true →
        sameJson given stored = true := by
  cases sent with
  | none => exact iff_of_true rfl fun _ none' => by cases none'
  | some given =>
      rw [Holds, assignJson]
      by_cases equal : equalJson given stored = true
      · rw [if_pos equal]
        constructor
        · intro same other here _
          cases here
          exact same
        · intro same
          exact same given rfl equal
      · rw [if_neg equal]
        refine iff_of_true (Json.same_refl _ (distinct given rfl)) ?_
        intro other here equal'
        cases here
        exact absurd equal' equal

/-- The assigned columns are those that hold another value afterwards. -/
theorem assignJson_differs (distinct : DistinctKeys stored) :
    (!sameJson (assignJson sent stored) stored) =
      sent.any fun given => !equalJson given stored := by
  have same : sameJson stored stored = true := Json.same_refl _ distinct
  cases sent with
  | none =>
      rw [assignJson, same]
      rfl
  | some given =>
      rw [assignJson, Option.any_some]
      by_cases equal : equalJson given stored = true
      · rw [if_pos equal, same, equal]
      · rw [if_neg equal, Bool.not_eq_true _ |>.mp equal]
        exact congrArg not (Json.not_same_of_not_pyEq equal)

end

/-- The condition on a JSON column: Python's `==` does not take another value for the stored one. -/
def Told (sent : Option (Option JsonObject)) (stored : Option JsonObject) : Prop :=
  ∀ given, sent = some given → equalJson given stored = true → sameJson given stored = true

section

variable {now clock : Timestamp}

theorem listed_cons (name : String) (differs : Bool) (fields : List (String × Bool)) :
    listed ((name, differs) :: fields) = (if differs then [name] else []) ++ listed fields := by
  cases differs <;> rfl

/-- The last field is listed in both or in neither. -/
theorem listed_last {name : String} {front : List (String × Bool)} {differs differs' : Bool}
    (same : listed (front ++ [(name, differs)]) = listed (front ++ [(name, differs')])) :
    differs = differs' := by
  simp only [listed, List.filter_append, List.map_append, List.append_cancel_left_eq] at same
  cases differs <;> cases differs' <;> first | rfl | cases same

variable {data : VulnerabilityUpdate} {row : Vulnerability}

theorem assignStatus_eq : ∃ closedAt, data.assignStatus now row =
    ({ row with status := data.status.getD row.status, closedAt := closedAt },
      if data.status.getD row.status != row.status then ["status"] else []) := by
  rw [VulnerabilityUpdate.assignStatus]
  cases data.status with
  | none => exact ⟨row.closedAt, by simp⟩
  | some status =>
      by_cases same : status = row.status
      · exact ⟨row.closedAt, by simp [same]⟩
      · exact ⟨_, by simp [same]; rfl⟩

theorem assignDescription_eq : data.assignDescription row =
    ({ row with description := data.description.getD row.description },
      if data.description.getD row.description != row.description then ["description"]
      else []) := by
  rw [VulnerabilityUpdate.assignDescription]
  cases data.description with
  | none => simp
  | some description =>
      by_cases same : description = row.description
      · simp [same]
      · simp [same]

theorem assignCvssScore_eq : data.assignCvssScore row =
    ({ row with cvssScore :=
        (data.cvssScore.map fun score => score.map quantize).getD row.cvssScore },
      if (data.cvssScore.map fun score => score.map quantize).getD row.cvssScore != row.cvssScore
      then ["cvss_score"] else []) := by
  rw [VulnerabilityUpdate.assignCvssScore]
  cases data.cvssScore with
  | none => simp
  | some score =>
      by_cases same : score.map quantize = row.cvssScore
      · simp [same]
      · simp [same]

theorem assignMetadata_eq : data.assignMetadata row =
    ({ row with vulnerabilityMetadata :=
        assignJson data.vulnerabilityMetadata row.vulnerabilityMetadata },
      if data.vulnerabilityMetadata.any fun given => !equalJson given row.vulnerabilityMetadata
      then ["vulnerability_metadata"] else []) := by
  rw [VulnerabilityUpdate.assignMetadata]
  cases data.vulnerabilityMetadata with
  | none => simp [assignJson]
  | some metadata =>
      by_cases same : (configJson metadata).pyEq (configJson row.vulnerabilityMetadata) = true
      · simp [assignJson, equalJson, same]
      · simp [assignJson, equalJson, same]

theorem edit_assigned : ∃ updatedAt, data.edit now row clock =
    ({ (data.assignMetadata (data.assignCvssScore (data.assignDescription
        (data.assignStatus now row).1).1).1).1 with updatedAt := updatedAt },
      (data.assignStatus now row).2 ++ (data.assignDescription (data.assignStatus now row).1).2 ++
        (data.assignCvssScore (data.assignDescription (data.assignStatus now row).1).1).2 ++
        (data.assignMetadata (data.assignCvssScore (data.assignDescription
          (data.assignStatus now row).1).1).1).2) := by
  simp only [VulnerabilityUpdate.edit]
  split
  next => exact ⟨_, rfl⟩
  next => exact ⟨clock, rfl⟩

/-- The columns after an update of a vulnerability, and `changed_fields`. -/
theorem vulnerability_edit (data : VulnerabilityUpdate) (row : Vulnerability) :
    ∃ closedAt updatedAt, data.edit now row clock = ({ row with
        status := data.status.getD row.status
        description := data.description.getD row.description
        cvssScore := (data.cvssScore.map fun score => score.map quantize).getD row.cvssScore
        vulnerabilityMetadata := assignJson data.vulnerabilityMetadata row.vulnerabilityMetadata
        closedAt := closedAt
        updatedAt := updatedAt },
      listed [("status", data.status.getD row.status != row.status),
        ("description", data.description.getD row.description != row.description),
        ("cvss_score", (data.cvssScore.map fun score => score.map quantize).getD row.cvssScore !=
          row.cvssScore),
        ("vulnerability_metadata", data.vulnerabilityMetadata.any fun given =>
          !equalJson given row.vulnerabilityMetadata)]) := by
  obtain ⟨closedAt, status⟩ := @assignStatus_eq now data row
  obtain ⟨updatedAt, edited⟩ := @edit_assigned now clock data row
  refine ⟨closedAt, updatedAt, ?_⟩
  simp only [edited, status, assignDescription_eq, assignCvssScore_eq, assignMetadata_eq,
    listed_cons, List.append_assoc]
  rw [show listed [] = [] from rfl, List.append_nil]

theorem VulnerabilityBody.validate_ok {body : VulnerabilityBody} (valid : body.validate = .ok data) :
    body.status ≠ some none ∧
      data = ⟨body.status.join, body.description, body.cvssScore, body.vulnerabilityMetadata⟩ := by
  rw [VulnerabilityBody.validate] at valid
  obtain ⟨_, status, valid⟩ := Except.bind_eq_ok.mp valid
  obtain ⟨_, _, valid⟩ := Except.bind_eq_ok.mp valid
  have named := Except.refuse_ok.mp status
  rw [beq_eq_false_iff_ne] at named
  exact ⟨named, (Except.ok.inj valid).symm⟩

theorem holds_join {Value : Type} {sent : Option (Option Value)} (before : Value)
    (named : sent ≠ some none) :
    Holds sent (fun given => given = some (sent.join.getD before)) before (sent.join.getD before) := by
  cases sent with
  | none => rfl
  | some given =>
      cases given with
      | none => exact absurd rfl named
      | some value => rfl

/-- A `PATCH` of a vulnerability writes what it was sent, if and only if Python's `==` tells the
metadata from the stored one, or they are the same. -/
theorem vulnerabilityWritten_iff {body : VulnerabilityBody} {before after : Vulnerability}
    {changed : List String} (valid : body.validate = .ok data)
    (edited : data.edit now before clock = (after, changed))
    (sent : ∀ given, body.vulnerabilityMetadata = some given → DistinctKeys given)
    (stored : DistinctKeys before.vulnerabilityMetadata) :
    VulnerabilityWritten body before after changed ↔
      Told body.vulnerabilityMetadata before.vulnerabilityMetadata := by
  obtain ⟨named, rfl⟩ := VulnerabilityBody.validate_ok valid
  obtain ⟨closedAt, updatedAt, columns⟩ := @vulnerability_edit now clock
    ⟨body.status.join, body.description, body.cvssScore, body.vulnerabilityMetadata⟩ before
  rw [columns] at edited
  obtain ⟨rfl, rfl⟩ := Prod.mk.inj edited
  have metadata := @assignJson_holds_iff _ before.vulnerabilityMetadata sent
  constructor
  · intro written
    exact metadata.mp written.metadata
  · intro told
    refine ⟨holds_join _ named, ?_, ?_, metadata.mpr told, rfl, ?_⟩
    · cases body.description <;> rfl
    · cases body.cvssScore <;> rfl
    · rw [assignJson_differs stored]

/-! Reports. -/

section

variable {Value : Type} {name : String} {row : Report} {changed : List String}

/-- A column that is assigned where the value differs. -/
theorem assign_column [BEq Value] [LawfulBEq Value] {given : Option Value} {get : Report → Value}
    {set : Value → Report → Report} (stays : set (get row) row = row) :
    Reports.assign name given (· != get row) set row changed =
      (set (given.getD (get row)) row,
        changed ++ if given.getD (get row) != get row then [name] else []) := by
  cases given with
  | none => simp [Reports.assign, stays]
  | some value =>
      by_cases same : value = get row
      · simp [Reports.assign, same, stays]
      · simp [Reports.assign, same]

theorem assign_reportMetadata {given : Option (Option JsonObject)} :
    Reports.assign "report_metadata" given
        (fun metadata => !(configJson metadata).pyEq (configJson row.reportMetadata))
        (fun metadata row => { row with reportMetadata := metadata }) row changed =
      ({ row with reportMetadata := assignJson given row.reportMetadata },
        changed ++ if given.any fun sent => !equalJson sent row.reportMetadata
          then ["report_metadata"] else []) := by
  cases given with
  | none => simp [Reports.assign, assignJson]
  | some metadata =>
      by_cases same : (configJson metadata).pyEq (configJson row.reportMetadata) = true
      · simp [Reports.assign, assignJson, equalJson, same]
      · simp [Reports.assign, assignJson, equalJson, same]

/-- Where the given time is the stored one, assigning it changes nothing. -/
theorem assign_generatedAt {given : Option (Option GivenTime)} :
    Reports.assign "generated_at" given
        (fun given => given.any (!·.aware) || given.map (·.at_) != row.generatedAt)
        (fun given row => { row with generatedAt := given.map (·.at_) }) row changed =
      ({ row with generatedAt :=
          (given.map fun sent => sent.map GivenTime.at_).getD row.generatedAt },
        changed ++ if given.any fun sent =>
            sent.any (!·.aware) || sent.map GivenTime.at_ != row.generatedAt
          then ["generated_at"] else []) := by
  cases given with
  | none => simp [Reports.assign]
  | some time =>
      rw [Reports.assign, Option.any_some, Option.map_some, Option.getD_some]
      cases differs : time.any (!·.aware) || time.map (·.at_) != row.generatedAt with
      | true => simp
      | false =>
          rw [Bool.or_eq_false_iff, bne_eq_false_iff_eq] at differs
          rw [differs.2]
          simp

end

/-- The columns that an update of a report assigns, and `changed_fields`. -/
theorem report_assigned (data : ReportUpdate) (row : Report) :
    data.assignFields row = ({ row with
        name := data.name.getD row.name
        status := data.status.getD row.status
        summary := data.summary.getD row.summary
        reportMetadata := assignJson data.reportMetadata row.reportMetadata
        generatedAt := (data.generatedAt.map fun given => given.map GivenTime.at_).getD
          row.generatedAt },
      listed [("name", data.name.getD row.name != row.name),
        ("status", data.status.getD row.status != row.status),
        ("summary", data.summary.getD row.summary != row.summary),
        ("report_metadata", data.reportMetadata.any fun given =>
          !equalJson given row.reportMetadata),
        ("generated_at", data.generatedAt.any fun given =>
          given.any (!·.aware) || given.map GivenTime.at_ != row.generatedAt)]) := by
  obtain ⟨first, first'⟩ : ∃ first, first = { row with name := data.name.getD row.name } := ⟨_, rfl⟩
  obtain ⟨second, second'⟩ : ∃ second,
      second = { first with status := data.status.getD first.status } := ⟨_, rfl⟩
  obtain ⟨third, third'⟩ : ∃ third,
      third = { second with summary := data.summary.getD second.summary } := ⟨_, rfl⟩
  obtain ⟨fourth, fourth'⟩ : ∃ fourth, fourth = { third with
      reportMetadata := assignJson data.reportMetadata third.reportMetadata } := ⟨_, rfl⟩
  have name := @assign_column _ "name" row [] _ _ data.name Report.name
    (fun name row => { row with name := name }) rfl
  have status (changed : List String) := @assign_column _ "status" first changed _ _ data.status
    Report.status (fun status row => { row with status := status }) rfl
  have summary (changed : List String) := @assign_column _ "summary" second changed _ _
    data.summary Report.summary (fun summary row => { row with summary := summary }) rfl
  have metadata (changed : List String) := @assign_reportMetadata third changed data.reportMetadata
  simp only [← first', ← second', ← third', ← fourth'] at name status summary metadata
  simp only [ReportUpdate.assignFields, name, status, summary, metadata, assign_generatedAt]
  subst fourth' third' second' first'
  simp only [listed_cons, List.append_assoc, List.nil_append]
  rw [show listed [] = [] from rfl, List.append_nil]

theorem onValue_ok {field result : Option (Option String)}
    (valid : onValue constrained field = .ok result) :
    result = field.map fun value => value.map stripWhitespace := by
  cases field with
  | none => exact (Except.ok.inj valid).symm
  | some value =>
      cases value with
      | none => exact (Except.ok.inj valid).symm
      | some text =>
          rw [onValue, constrained] at valid
          split at valid
          next => exact (Except.ok.inj valid).symm
          next => cases valid

/-- The names of a body after the schema. -/
def trimmed (name : Option (Option String)) : Option (Option String) :=
  name.map fun value => value.map stripWhitespace

theorem ReportBody.validate_ok {body : ReportBody} {data : ReportUpdate}
    (valid : body.validate = .ok data) :
    trimmed body.name ≠ some none ∧ body.status ≠ some none ∧
      data = ⟨(trimmed body.name).join, body.status.join, body.summary, body.reportMetadata,
        body.generatedAt⟩ := by
  rw [ReportBody.validate] at valid
  obtain ⟨name, stripped, valid⟩ := Except.bind_eq_ok.mp valid
  obtain ⟨_, named, valid⟩ := Except.bind_eq_ok.mp valid
  obtain ⟨_, status, valid⟩ := Except.bind_eq_ok.mp valid
  have named := Except.refuse_ok.mp named
  have status := Except.refuse_ok.mp status
  rw [beq_eq_false_iff_ne] at named status
  have name' : name = trimmed body.name := onValue_ok stripped
  rw [name'] at named valid
  exact ⟨named, status, (Except.ok.inj valid).symm⟩

theorem holds_trimmed {name : Option (Option String)} (before : String)
    (named : trimmed name ≠ some none) :
    Holds name (fun sent => sent.map stripWhitespace = some ((trimmed name).join.getD before)) before
      ((trimmed name).join.getD before) := by
  match name with
  | none => rfl
  | some none => exact absurd rfl named
  | some (some text) => rfl

/-- A `PATCH` of a report writes what it was sent, if and only if Python's `==` tells the metadata
from the stored one or they are the same, and no time without a zone repeats the stored one. -/
theorem reportWritten_iff {body : ReportBody} {data : ReportUpdate} {before after : Report}
    {changed : List String} (valid : body.validate = .ok data)
    (edited : data.edit before clock = (after, changed))
    (sent : ∀ given, body.reportMetadata = some given → DistinctKeys given)
    (stored : DistinctKeys before.reportMetadata) :
    ReportWritten body before after changed ↔
      Told body.reportMetadata before.reportMetadata ∧
        ∀ given, body.generatedAt = some (some given) → given.aware = false →
          before.generatedAt ≠ some given.at_ := by
  obtain ⟨named, status, rfl⟩ := ReportBody.validate_ok valid
  have metadata := @assignJson_holds_iff _ before.reportMetadata sent
  obtain ⟨updatedAt, columns⟩ : ∃ updatedAt, (after, changed) = ({ before with
        name := (trimmed body.name).join.getD before.name
        status := body.status.join.getD before.status
        summary := body.summary.getD before.summary
        reportMetadata := assignJson body.reportMetadata before.reportMetadata
        generatedAt := (body.generatedAt.map fun given => given.map GivenTime.at_).getD
          before.generatedAt
        updatedAt := updatedAt }, _) := by
    rw [← edited, ReportUpdate.edit, report_assigned]
    simp only
    split
    next => exact ⟨before.updatedAt, rfl⟩
    next => exact ⟨clock, rfl⟩
  obtain ⟨rfl, rfl⟩ := Prod.mk.inj columns
  have told : (∀ given, body.generatedAt = some (some given) → given.aware = false →
      before.generatedAt ≠ some given.at_) ↔
      (body.generatedAt.any fun given =>
          given.any (!·.aware) || given.map GivenTime.at_ != before.generatedAt) =
        ((body.generatedAt.map fun given => given.map GivenTime.at_).getD before.generatedAt !=
          before.generatedAt) := by
    rcases body.generatedAt with _ | _ | given
    · simp
    · simp
    · cases aware : given.aware with
      | true => simp [aware]
      | false =>
          simp only [Option.any_some, aware, Bool.not_false, Bool.true_or, Option.map_some,
            Option.getD_some]
          constructor
          · intro fresh
            exact (bne_iff_ne.mpr (fresh given rfl aware).symm).symm
          · intro differs other same _
            cases same
            exact (bne_iff_ne.mp differs.symm).symm
  constructor
  · intro written
    refine ⟨metadata.mp written.metadata, told.mpr ?_⟩
    have fields := written.changed
    rw [assignJson_differs stored] at fields
    exact @listed_last _ [_, _, _, _] _ _ fields
  · rintro ⟨same, fresh⟩
    refine ⟨holds_trimmed _ named, holds_join _ status, ?_, metadata.mpr same, ?_, rfl, ?_⟩
    · cases body.summary <;> rfl
    · cases body.generatedAt <;> rfl
    · rw [assignJson_differs stored, ← told.mp fresh]

end

/-! Scans. -/

section

variable {kind : ScanType} {config normalised : JsonObject}

/-- The validator returns the fields of the config. -/
theorem normalised_lookup (accepted : validateScanConfig (some kind) (.obj config) = .ok normalised) :
    (∀ field ∈ config, field.1 ∈ Scans.configKeys kind) ∧
      ∀ field ∈ normalised, config.lookup field.1 = some field.2 := by
  have collected := @Scans.validateScanConfig_toOption kind config
  rw [accepted] at collected
  by_cases allowed : ∀ field ∈ config, field.1 ∈ Scans.configKeys kind
  · rw [if_pos allowed] at collected
    refine ⟨allowed, ?_⟩
    have read {rule : Scans.ConfigRule} {value : Json} (found : rule.value config = some value) :
        config.lookup rule.key = some value := (Option.filter_eq_some_iff.mp found).1
    intro field member
    cases kind with
    | discovery =>
        obtain ⟨host, found, rfl⟩ := Option.map_eq_some_iff.mp collected.symm
        rw [List.mem_singleton.mp member]
        exact read found
    | vulnerability =>
        obtain ⟨checks, found, rfl⟩ := Option.map_eq_some_iff.mp collected.symm
        rw [List.mem_singleton.mp member]
        exact read found
    | web =>
        obtain ⟨paths, found, rfl⟩ := Option.map_eq_some_iff.mp collected.symm
        rw [List.mem_singleton.mp member]
        exact read found
    | full =>
        obtain ⟨host, found, collected⟩ := Option.bind_eq_some_iff.mp collected.symm
        obtain ⟨checks, found', collected⟩ := Option.bind_eq_some_iff.mp collected
        obtain ⟨paths, found'', rfl⟩ := Option.map_eq_some_iff.mp collected
        simp only [List.mem_cons, List.not_mem_nil, or_false] at member
        rcases member with rfl | rfl | rfl
        · exact read found
        · exact read found'
        · exact read found''
  · rw [if_neg allowed] at collected
    cases collected

theorem distinct_of_mem {fields : JsonObject} (distinct : Json.DistinctFields fields) :
    ∀ field ∈ fields, field.2.Distinct := by
  induction fields with
  | nil => intro field member; cases member
  | cons first rest ih =>
      intro field member
      rcases List.mem_cons.mp member with rfl | member
      · exact distinct.1
      · exact ih distinct.2 field member

theorem distinctFields {fields : JsonObject} (distinct : ∀ field ∈ fields, field.2.Distinct) :
    Json.DistinctFields fields := by
  induction fields with
  | nil => trivial
  | cons first rest ih =>
      exact ⟨distinct first List.mem_cons_self,
        ih fun field member => distinct field (List.mem_cons_of_mem _ member)⟩

theorem normalised_distinct
    (accepted : validateScanConfig (some kind) (.obj config) = .ok normalised)
    (distinct : DistinctKeys (some config)) : DistinctKeys (some normalised) := by
  obtain ⟨other, same, keys⟩ := Scans.validateScanConfig_keys accepted
  cases same
  constructor
  · rw [keys]
    exact Scans.configKeys_nodup kind
  · apply distinctFields
    intro field member
    have found := (normalised_lookup accepted).2 field member
    obtain ⟨front, back, shape, _⟩ := List.lookup_eq_some_iff.mp found
    exact distinct_of_mem distinct.2 _ (by rw [shape]; simp)

/-- The validator changes no value. -/
theorem normalised_same
    (accepted : validateScanConfig (some kind) (.obj config) = .ok normalised)
    (distinct : DistinctKeys (some config)) : sameJson (some normalised) (some config) = true := by
  obtain ⟨allowed, found⟩ := normalised_lookup accepted
  obtain ⟨other, same, keys⟩ := Scans.validateScanConfig_keys accepted
  cases same
  have distinct' := normalised_distinct accepted distinct
  have inside : config.map Prod.fst ⊆ normalised.map Prod.fst := by
    intro key named
    obtain ⟨field, member, rfl⟩ := List.mem_map.mp named
    rw [keys]
    exact allowed field member
  have outside : normalised.map Prod.fst ⊆ config.map Prod.fst := by
    intro key named
    obtain ⟨field, member, rfl⟩ := List.mem_map.mp named
    obtain ⟨front, back, shape, _⟩ := List.lookup_eq_some_iff.mp (found field member)
    exact List.mem_map_of_mem (by rw [shape]; simp)
  have length : normalised.length = config.length := by
    have fewer := (distinct.1.subperm inside).length_le
    have more := (distinct'.1.subperm outside).length_le
    simp only [List.length_map] at fewer more
    omega
  have values := Json.sameFields_refl normalised config found distinct'.2
  change Json.same (.obj normalised) (.obj config) = true
  rw [Json.same, length, values, beq_self_eq_true, Bool.and_self]

theorem edited_isSome {Value : Type} [DecidableEq Value] [BEq Value] [LawfulBEq Value]
    (given stored : Value) :
    (if some given = some stored then none else some given).isSome = (given != stored) := by
  by_cases same : given = stored
  · simp [same]
  · simp [same]

/-- The columns after an update of a scan, and `changed_fields`. -/
theorem scan_edit {data : ScanUpdate} {before after : Scan} {scanId : ScanId}
    {tenantId : Option TenantId} {table : Table ScanId Scan} {session : Session ScanId Scan}
    {changed : List String} (found : Scans.getScan scanId tenantId table = some before)
    (updated : Scans.updateScan scanId tenantId data (.start table) =
      (.ok (some changed), session))
    (stored : session.committed.find scanId = some after) :
    ∃ name kind normalised, data.name.getD (some before.name) = some name ∧
      data.type.getD (some before.scanType) = some kind ∧
      validateScanConfig (some kind) (configJson (data.config.getD before.config)) =
        .ok normalised ∧
      after = { before with
        name := name
        scanType := kind
        config := assignJson (some (some normalised)) before.config } ∧
      changed = listed [("name", name != before.name), ("type", kind != before.scanType),
        ("config", !equalJson (some normalised) before.config)] := by
  have row : (Session.start table).working.find scanId = some before :=
    (Option.filter_eq_some_iff.mp found).1
  have visible : Scans.getScan scanId tenantId (Session.start table).working = some before := found
  simp only [Scans.updateScan, visible, ScanUpdate.candidate] at updated
  cases accepted : validateScanConfig (data.type.getD (some before.scanType))
      (configJson (data.config.getD before.config)) with
  | error message =>
      rw [accepted] at updated
      cases updated
  | ok normalised =>
      obtain ⟨kind, type, _⟩ := Scans.validateScanConfig_keys accepted
      rw [accepted] at updated
      cases named : data.name.getD (some before.name) with
      | none =>
          rw [named] at updated
          cases updated
      | some name =>
          rw [type] at accepted updated
          rw [named] at updated
          simp only at updated
          split at updated
          next => cases updated
          next =>
            obtain ⟨fields, rfl⟩ := Prod.mk.inj updated
            refine ⟨name, kind, normalised, rfl, type, accepted, ?_, ?_⟩
            · change ((Session.start table).working.update _).find scanId = some after at stored
              rw [Table.find_update, row] at stored
              simp only [Scans.ScanChange.onKeys, beq_self_eq_true, ↓reduceIte, Option.map_some,
                Option.some_inj] at stored
              rw [Scans.act_some.mpr ⟨rfl, rfl⟩, Option.getD_some] at stored
              rw [← stored]
              simp only [Scans.ScanChange.values, Scans.Candidate.edit, Scans.edited_column]
              rw [assignJson]
              cases equal : equalJson (some normalised) before.config with
              | true => rw [equalJson, configJson] at equal; rw [equal]; rfl
              | false => rw [equalJson, configJson] at equal; rw [equal]; rfl
            · rw [← Option.some.inj (Except.ok.inj fields)]
              simp only [Scans.ScanEdit.changedFields, Scans.Candidate.edit, edited_isSome,
                listed_cons]
              rw [show listed [] = [] from rfl, List.append_nil, List.append_assoc, equalJson,
                configJson]
              cases Json.pyEq (.obj normalised) (configJson before.config) <;> rfl

theorem validateScan_ok {body data : ScanUpdate} (valid : validateScan body = .ok data) :
    data = { body with name := trimmed body.name } := by
  rw [validateScan] at valid
  obtain ⟨name, stripped, valid⟩ := Except.bind_eq_ok.mp valid
  rw [← Except.ok.inj valid, onValue_ok stripped]
  rfl

/-- The condition on the config of a scan: Python's `==` does not take the stored one for what the
validator returns, unless they are the same. -/
def ConfigTold (body : ScanUpdate) (before : Scan) : Prop :=
  ∀ sent normalised, body.config = some sent →
    validateScanConfig (body.type.getD (some before.scanType)) (configJson sent) = .ok normalised →
    equalJson (some normalised) before.config = true → sameJson (some normalised) before.config = true

theorem accepted_object {type : Option ScanType} {column : Option JsonObject}
    (accepted : validateScanConfig type (configJson column) = .ok normalised) :
    ∃ config, column = some config := by
  cases column with
  | none =>
      cases type with
      | none => cases accepted
      | some kind => cases accepted
  | some config => exact ⟨config, rfl⟩

/-- A `PATCH` of a scan writes what it was sent, if and only if Python's `==` tells the config
from the stored one, or they are the same. -/
theorem scanWritten_iff {body data : ScanUpdate} {before after : Scan} {scanId : ScanId}
    {tenantId : Option TenantId} {table : Table ScanId Scan} {session : Session ScanId Scan}
    {changed : List String} (valid : validateScan body = .ok data)
    (found : Scans.getScan scanId tenantId table = some before)
    (updated : Scans.updateScan scanId tenantId data (.start table) =
      (.ok (some changed), session))
    (written : session.committed.find scanId = some after)
    (sent : ∀ given, body.config = some given → DistinctKeys given)
    (stored : DistinctKeys before.config) :
    ScanWritten body before after changed ↔ ConfigTold body before := by
  obtain ⟨name, kind, normalised, named, type, accepted, rfl, rfl⟩ :=
    scan_edit found updated written
  rw [validateScan_ok valid] at named type accepted
  simp only at named type accepted
  have distinct : DistinctKeys (body.config.getD before.config) := by
    cases given : body.config with
    | none => exact stored
    | some given' => exact sent given' given
  obtain ⟨config, column⟩ := accepted_object accepted
  rw [column] at distinct
  have accepted' : validateScanConfig (some kind) (.obj config) = .ok normalised := by
    rw [column] at accepted
    exact accepted
  have distinct' : ∀ given, some (some normalised) = some given → DistinctKeys given := by
    intro given here
    cases here
    exact normalised_distinct accepted' distinct
  have told := @assignJson_holds_iff _ before.config distinct'
  have differs := @assignJson_differs (some (some normalised)) before.config stored
  rw [Option.any_some] at differs
  have names : Holds body.name (fun sent => sent.map stripWhitespace = some name) before.name
      name := by
    cases given : body.name with
    | none =>
        rw [given] at named
        exact (Option.some.inj named).symm
    | some given' =>
        rw [given] at named
        exact named
  have types : Holds body.type (fun sent => sent = some kind) before.scanType kind := by
    cases given : body.type with
    | none =>
        rw [given] at type
        exact (Option.some.inj type).symm
    | some given' =>
        rw [given] at type
        exact type
  cases given : body.config with
  | none =>
      rw [given] at column
      have same : sameJson (some normalised) before.config = true := by
        rw [show before.config = some config from column]
        exact normalised_same accepted' distinct
      have equal : equalJson (some normalised) before.config = true := Json.pyEq_of_same _ _ same
      refine iff_of_true ⟨names, types, ?_, rfl, ?_⟩ ?_
      · rw [given]
        exact if_pos equal
      · rw [← differs]
      · intro given' other named'
        rw [given] at named'
        cases named'
  | some given' =>
      rw [given, Option.getD_some] at accepted
      have told : sameJson (some normalised) (assignJson (some (some normalised)) before.config) =
          true ↔ (equalJson (some normalised) before.config = true →
            sameJson (some normalised) before.config = true) :=
        told.trans ⟨fun each => each _ rfl, fun each given here => by cases here; exact each⟩
      constructor
      · intro written sent other named' accepted' equal
        rw [given] at named'
        cases named'
        rw [type, accepted] at accepted'
        cases accepted'
        have holds := written.config
        rw [given] at holds
        obtain ⟨again, accepted', same⟩ := holds
        rw [accepted] at accepted'
        cases accepted'
        exact told.mp same equal
      · intro config_told
        refine ⟨names, types, ?_, rfl, ?_⟩
        · rw [given]
          refine ⟨normalised, accepted, told.mpr ?_⟩
          exact config_told given' normalised given (by rw [type]; exact accepted)
        · rw [← differs]

end

/-- A `PATCH` of a stored row that the service answers with the row and `changed_fields`. -/
inductive Patch where
  | scan (table : Table ScanId Scan) (scanId : ScanId) (body : ScanUpdate) (before after : Scan)
      (changed : List String)
  | vulnerability (table : VulnerabilityTable) (vulnerabilityId : VulnerabilityId)
      (now clock : Timestamp) (body : VulnerabilityBody) (before after : Vulnerability)
      (changed : List String)
  | report (table : ReportTable) (reportId : ReportId) (clock : Timestamp) (body : ReportBody)
      (before after : Report) (changed : List String)

namespace Patch

/-- The schema and the service accept the body. -/
def Accepted (tenantId : Option TenantId) : Patch → Prop
  | scan table scanId body before after changed => ∃ data session,
      validateScan body = .ok data ∧ Scans.getScan scanId tenantId table = some before ∧
        Scans.updateScan scanId tenantId data (.start table) = (.ok (some changed), session) ∧
        session.committed.find scanId = some after
  | vulnerability table vulnerabilityId now clock body before after changed => ∃ data,
      body.validate = .ok data ∧
        Vulnerabilities.getVulnerability vulnerabilityId tenantId table = some before ∧
        Vulnerabilities.updateVulnerability now clock vulnerabilityId tenantId data table =
          some (after, changed)
  | report table reportId clock body before after changed => ∃ data,
      body.validate = .ok data ∧ Reports.getReport reportId tenantId table = some before ∧
        Reports.updateReport clock reportId tenantId data table = some (after, changed)

/-- The JSON sent and the JSON stored are documents: each object has one value for a key. -/
def Documents : Patch → Prop
  | scan _ _ body before _ _ =>
      (∀ given, body.config = some given → DistinctKeys given) ∧ DistinctKeys before.config
  | vulnerability _ _ _ _ body before _ _ =>
      (∀ given, body.vulnerabilityMetadata = some given → DistinctKeys given) ∧
        DistinctKeys before.vulnerabilityMetadata
  | report _ _ _ body before _ _ =>
      (∀ given, body.reportMetadata = some given → DistinctKeys given) ∧
        DistinctKeys before.reportMetadata

/-- The row holds what was sent and nothing else, and `changed_fields` says what differs. -/
def Written : Patch → Prop
  | scan _ _ body before after changed => ScanWritten body before after changed
  | vulnerability _ _ _ _ body before after changed =>
      VulnerabilityWritten body before after changed
  | report _ _ _ body before after changed => ReportWritten body before after changed

/-- Python's `==` tells what is sent from what is stored, and no time without a zone repeats the
stored one. -/
def Differing : Patch → Prop
  | scan _ _ body before _ _ => ConfigTold body before
  | vulnerability _ _ _ _ body before _ _ =>
      Told body.vulnerabilityMetadata before.vulnerabilityMetadata
  | report _ _ _ body before _ _ => Told body.reportMetadata before.reportMetadata ∧
      ∀ given, body.generatedAt = some (some given) → given.aware = false →
        before.generatedAt ≠ some given.at_

/-- A `PATCH` of the metadata of a vulnerability alone. -/
def metadata (before after : Vulnerability) (sent : JsonObject) (changed : List String) : Patch :=
  vulnerability (Table.empty.insert 3 before) 3 0 50 ⟨none, none, none, some (some sent)⟩ before
    after changed

def flagged (flag : Json) (updatedAt : Timestamp) : Vulnerability :=
  ⟨1, 7, "Outdated server", none, .high, .opened, none, none, none, some [("flag", flag)], 10,
    updatedAt⟩

theorem metadata_accepted {before after : Vulnerability} {sent : JsonObject}
    {changed : List String} (own : before.tenantId = 1)
    (edited : VulnerabilityUpdate.edit ⟨none, none, none, some (some sent)⟩ 0 before 50 =
      (after, changed)) : (metadata before after sent changed).Accepted (some 1) := by
  have found : Vulnerabilities.getVulnerability 3 (some 1) (Table.empty.insert 3 before) =
      some before := by
    rw [Vulnerabilities.getVulnerability, Table.visible_some, Table.find_insert, if_pos rfl]
    exact ⟨rfl, own⟩
  refine ⟨⟨none, none, none, some (some sent)⟩, rfl, found, ?_⟩
  rw [Vulnerabilities.updateVulnerability, found, Option.map_some, edited]

end Patch

end Payloads
