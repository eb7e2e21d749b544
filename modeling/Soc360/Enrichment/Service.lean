import Soc360.Enrichment.Prompts
import Soc360.Text.Documents

set_option autoImplicit false

namespace Enrichment

open Scans (TenantId Timestamp)
open Vulnerabilities (Vulnerability VulnerabilityId)

/-- A row with the column that the API does not read. -/
structure CachedEnrichment extends VulnerabilityEnrichment where
  inputHash : Option String
  deriving DecidableEq, Repr

/-- The columns that tell whether a row is that of the current data. -/
structure Identity where
  inputHash : String
  promptVersion : String
  model : String
  deriving DecidableEq, Repr

namespace CachedEnrichment

/-- The row is `ok` and has the identity. -/
def IsOkFor (row : CachedEnrichment) (identity : Identity) : Prop :=
  row.status = .ok ∧ row.inputHash = some identity.inputHash ∧
    row.promptVersion = some identity.promptVersion ∧ row.model = some identity.model

instance (row : CachedEnrichment) (identity : Identity) : Decidable (row.IsOkFor identity) :=
  inferInstanceAs (Decidable (_ ∧ _))

end CachedEnrichment

/-- What the settings give to every run. -/
structure Settings where
  model : String
  language : String
  maxConcurrency : Int
  budgetSeconds : ℚ
  maxTokens : Nat
  temperature : ℚ

/-- The arguments of a run. -/
structure EnrichCall where
  vulnerabilityId : VulnerabilityId
  tenantId : TenantId
  onlyFunctions : Option (List String)
  settings : Settings

/-- The first two checks of `enrich_vulnerability`. -/
def EnrichCall.checked (call : EnrichCall) : Except String Unit := do
  Except.refuse (call.settings.maxConcurrency < 1) "max_concurrency must be positive"
  Except.refuse (call.settings.budgetSeconds ≤ 0) "budget_seconds must be positive"

/-- The functions of a level, or those of them that the call names. -/
def targets (functions : List String) (onlyFunctions : Option (List String)) : List String :=
  functions.filter fun function => onlyFunctions.all fun only => only.contains function

/-- The loop of `due_functions`, over the functions of the level. `existing` is the row of a
function, if any. -/
def dueFunctions (functions : List String) (existing : String → Option CachedEnrichment)
    (inputHash model : String) (onlyFunctions : Option (List String)) : List String :=
  (targets functions onlyFunctions).filter fun function =>
    match existing function, promptVersions function with
    | some row, some version => !decide (row.IsOkFor ⟨inputHash, version, model⟩)
    | _, _ => true

/-- What `provider.complete` is called with. -/
structure ProviderCall where
  model : String
  prompt : String
  maxTokens : Nat
  temperature : ℚ
  systemPrompt : String
  deriving DecidableEq, Repr

/-- The errors of `complete`: those of `LLMError`, and any other. -/
inductive CompleteError where
  | timeout
  | transport
  | contentFilter
  | rateLimit
  | response
  | unexpected
  | other
  deriving DecidableEq, Repr

/-- How `provider.complete` ends: with what it takes for the text, which the document of the
response need not make a string, or with an exception. -/
abbrev Completion := Except CompleteError Loaded

/-- `llm_safe_complete`. -/
def llmSafeComplete : Completion → Loaded × Bool
  | .ok text => (text, false)
  | .error _ => (.str [], true)

/-- The `isspace` of a code point. -/
def isSpaceAt (code : CodePoint) : Bool := code.char?.any Python.isSpace

/-- What a run has for a function: the content, or the error. -/
inductive Outcome where
  | succeeded (content : String)
  | failed (error : String)
  deriving DecidableEq, Repr

namespace Outcome

def status : Outcome → EnrichmentStatus
  | succeeded _ => .ok
  | failed _ => .failed

def content : Outcome → Option String
  | succeeded content => some content
  | failed _ => none

def error : Outcome → Option String
  | succeeded _ => none
  | failed error => some error

end Outcome

section

variable (texts : Texts)

/-- What becomes of the output of a function, or nothing where the run raises: only a `str` has a
`strip`, and the INSERT takes a text that can be encoded and stored. -/
def settle (finding : EnrichmentInput) : Option (Loaded × Bool) → Option Outcome
  | none => some (.failed "budget_exceeded")
  | some (_, true) => some (.failed "provider_error")
  | some (.str text, false) =>
      if (text.dropWhile isSpaceAt).rdropWhile isSpaceAt = [] then some (.failed "empty_output")
      else
        (LoadedText.encoded text).bind fun text =>
          let content := (checkCitations texts text finding).text
          if content.storable then some (.succeeded content) else none
  | some (_, false) => none

end

/-- What a run has read. -/
structure Snapshot where
  call : EnrichCall
  vulnerability : Vulnerability
  functions : List String
  existing : String → Option CachedEnrichment

namespace Snapshot

variable (texts : Texts) (snapshot : Snapshot)

def finding : EnrichmentInput := .fromVulnerability snapshot.vulnerability

def digest : String := inputHash texts snapshot.finding snapshot.call.settings.language

def targets : List String := Enrichment.targets snapshot.functions snapshot.call.onlyFunctions

def due : List String :=
  dueFunctions snapshot.functions snapshot.existing (snapshot.digest texts)
    snapshot.call.settings.model snapshot.call.onlyFunctions

/-- `specs[function]`. -/
def spec (function : String) : Except String PromptSpec :=
  buildPrompt texts function snapshot.finding snapshot.call.settings.language

/-- All of `specs` can be built. -/
def buildable : Bool :=
  (snapshot.due texts).all fun function =>
    match snapshot.spec texts function with
    | .ok _ => true
    | .error _ => false

def providerCall (spec : PromptSpec) : ProviderCall where
  model := snapshot.call.settings.model
  prompt := spec.user
  maxTokens := snapshot.call.settings.maxTokens
  temperature := snapshot.call.settings.temperature
  systemPrompt := spec.system

def identity (spec : PromptSpec) : Identity :=
  ⟨snapshot.digest texts, spec.version, snapshot.call.settings.model⟩

end Snapshot

/-! The upsert -/

/-- The columns of the INSERT. -/
def values (vulnerabilityId : VulnerabilityId) (tenantId : TenantId) (function : String)
    (identity : Identity) (outcome : Outcome) (clock : Timestamp) : CachedEnrichment where
  vulnerabilityId := vulnerabilityId
  tenantId := tenantId
  function := function
  content := outcome.content
  status := outcome.status
  model := some identity.model
  promptVersion := some identity.promptVersion
  attempts := 1
  error := outcome.error
  updatedAt := clock
  inputHash := some identity.inputHash

namespace CachedEnrichment

/-- The conflicting row stops a failure where `guard` is not true: the row is `ok` and each of its
three columns is that of the failure, or null. -/
def stops (row excluded : CachedEnrichment) : Bool :=
  let same (column other : Option String) : Bool := column.isNone || column == other
  row.status == .ok && same row.inputHash excluded.inputHash &&
    same row.promptVersion excluded.promptVersion && same row.model excluded.model

/-- `updates`. -/
def update (row excluded : CachedEnrichment) (succeeds : Bool) (now : Timestamp) :
    CachedEnrichment :=
  { row with
    status := excluded.status
    error := excluded.error
    model := excluded.model
    promptVersion := excluded.promptVersion
    inputHash := excluded.inputHash
    attempts := row.attempts + 1
    updatedAt := now
    content := if succeeds then excluded.content else row.content }

/-- `INSERT ... ON CONFLICT DO UPDATE`: the row that the statement inserts or updates, if any. -/
def upsert (excluded : CachedEnrichment) (outcome : Outcome) (now : Timestamp) :
    Option CachedEnrichment → Option CachedEnrichment
  | none => some excluded
  | some row =>
      match outcome with
      | .succeeded _ => some (row.update excluded true now)
      | .failed _ => if row.stops excluded then none else some (row.update excluded false now)

end CachedEnrichment

section

variable {texts : Texts} {functions : List String} {existing : String → Option CachedEnrichment}
  {inputHash model function version : String} {onlyFunctions : Option (List String)}
  {row excluded written : CachedEnrichment} {outcome : Outcome} {now clock : Timestamp}
  {identity : Identity} {vulnerabilityId : VulnerabilityId} {tenantId : TenantId}

/-- A function is due if and only if it is a target without an `ok` row of the current data. -/
theorem mem_dueFunctions (listed : promptVersions function = some version) :
    function ∈ dueFunctions functions existing inputHash model onlyFunctions ↔
      function ∈ targets functions onlyFunctions ∧
        ∀ row, existing function = some row → ¬row.IsOkFor ⟨inputHash, version, model⟩ := by
  rw [dueFunctions, List.mem_filter, listed]
  apply and_congr_right
  intro _
  cases existing function with
  | none => simp
  | some row => simp

theorem stops_iff (conflicting : row.inputHash.isSome ∧ row.promptVersion.isSome ∧
      row.model.isSome) :
    row.stops (values vulnerabilityId tenantId function identity outcome clock) = true ↔
      row.IsOkFor identity := by
  obtain ⟨hash, promptVersion, model⟩ := conflicting
  obtain ⟨hash, hash'⟩ := Option.isSome_iff_exists.mp hash
  obtain ⟨promptVersion, promptVersion'⟩ := Option.isSome_iff_exists.mp promptVersion
  obtain ⟨model, model'⟩ := Option.isSome_iff_exists.mp model
  simp [CachedEnrichment.stops, CachedEnrichment.IsOkFor, values, hash', promptVersion', model',
    and_assoc]

end

end Enrichment
