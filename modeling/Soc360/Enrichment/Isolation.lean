import Mathlib.Algebra.Order.Field.Rat
import Mathlib.Data.NNRat.Defs
import Mathlib.Tactic.NormNum
import Soc360.Enrichment.Providers
import Soc360.Enrichment.Runs
import Soc360.Store.Slots

set_option autoImplicit false

/-! One run of `enrich_vulnerability`, over any of the HTTP providers. -/

namespace Enrichment

open Scans (Timestamp)
open Vulnerabilities (Vulnerability)

/-- What the provider does at each attempt of the call of a function. -/
abbrev Behaviour := String → Nat → Attempt

/-- How long the call of a function takes. -/
def HttpProvider.duration (provider : HttpProvider) (behaviour : Behaviour) (function : String) :
    Duration :=
  (provider.complete (behaviour function)).1

structure EnrichmentRunResult where
  succeeded : List String
  failed : List String
  skipped : List String

/-- How a run raises. -/
inductive RunError where
  | valueError (message : String)
  | notFound
  | unexpected

namespace Snapshot

variable (texts : Texts) (snapshot : Snapshot) (provider : HttpProvider) (behaviour : Behaviour)

/-- When the call of each due function ends: the semaphore lets them in as they are listed. -/
def ends : List (String × Duration) :=
  (snapshot.due texts).zip (Slots.schedule snapshot.call.settings.maxConcurrency.toNat
    ((snapshot.due texts).map (provider.duration behaviour)))

/-- `outputs.get(function)`: what came back before the budget ran out. -/
def output (function : String) : Option (Loaded × Bool) :=
  ((snapshot.ends texts provider behaviour).lookup function).bind fun ended =>
    if ended < (snapshot.call.settings.budgetSeconds.toNNRat : Duration) then
      some (llmSafeComplete (provider.complete (behaviour function)).2)
    else none

/-- What a statement writes, if anything. `clock` is that of the worker when it makes the statement
and `now` that of the database. -/
def row (clock : String → Timestamp) (now : Timestamp) (function : String) (spec : PromptSpec)
    (outcome : Outcome) : Option CachedEnrichment :=
  (values snapshot.call.vulnerabilityId snapshot.vulnerability.tenantId function
    (snapshot.identity texts spec) outcome (clock function)).upsert outcome now
      (snapshot.existing function)

/-- An item of `specs`. -/
def specItem (function : String) : Except RunError (String × PromptSpec) := do
  let spec ← (snapshot.spec texts function).mapError .valueError
  return (function, spec)

/-- What the loop makes of the output of a function, before its statement. -/
def settled (item : String × PromptSpec) : Except RunError (String × PromptSpec × Outcome) :=
  match settle texts snapshot.finding (snapshot.output texts provider behaviour item.1) with
  | some outcome => .ok (item.1, item.2, outcome)
  | none => .error .unexpected

/-- The run from what it has read, with the rows that it writes. -/
def run (clock : String → Timestamp) (now : Timestamp) :
    Except RunError (EnrichmentRunResult × List (String × CachedEnrichment)) := do
  let due := snapshot.due texts
  let skipped := snapshot.targets.filter (· ∉ due)
  let specs ← due.mapM (snapshot.specItem texts)
  let settled ← specs.mapM (snapshot.settled texts provider behaviour)
  let succeeded := settled.filter fun (_, _, outcome) => outcome.status == .ok
  let failed := settled.filter fun (_, _, outcome) => outcome.status != .ok
  let written := settled.filterMap fun (function, spec, outcome) =>
    (snapshot.row texts clock now function spec outcome).map (function, ·)
  return (⟨succeeded.map Prod.fst, failed.map Prod.fst, skipped⟩, written)

/-- The call of a function waits for its slot as long under both: there is one for each due
function, or the calls listed before it take as long. -/
def WaitsAlike (behaviour' : Behaviour) (function : String) : Prop :=
  (snapshot.due texts).length ≤ snapshot.call.settings.maxConcurrency ∨
    ∀ earlier ∈ (snapshot.due texts).take ((snapshot.due texts).idxOf function),
      provider.duration behaviour' earlier = provider.duration behaviour earlier

end Snapshot

/-- `loaded` is the vulnerability with the level of its tenant, and `existing` has the rows of the
vulnerability. -/
def enrichVulnerability (texts : Texts) (provider : HttpProvider) (behaviour : Behaviour)
    (clock : String → Timestamp) (now : Timestamp) (call : EnrichCall)
    (loaded : Option (Vulnerability × String)) (existing : String → Option CachedEnrichment) :
    Except RunError (EnrichmentRunResult × List (String × CachedEnrichment)) := do
  call.checked.mapError .valueError
  match loaded with
  | none => .error .notFound
  | some (vulnerability, level) =>
      let functions ← (functionsForLevel texts level).mapError .valueError
      Snapshot.run texts ⟨call, vulnerability, functions, existing⟩ provider behaviour clock now

/-! The calls. -/

/-- Each text that the provider gives is one that a row can hold. -/
def Plain (provider : HttpProvider) (attempts : Nat → Attempt) : Prop :=
  ∀ body, (provider.complete attempts).2 = .ok body →
    ∃ text, body = .str (codePoints text) ∧ text.storable = true

section

variable {texts : Texts} {snapshot : Snapshot} {provider : HttpProvider}
  {behaviour behaviour' : Behaviour} {function : String} {finding : EnrichmentInput}

theorem strip_codePoints (text : String) :
    ((codePoints text).dropWhile isSpaceAt).rdropWhile isSpaceAt =
      (Python.strip text.toList).map CodePoint.ofChar := by
  have points : isSpaceAt ∘ CodePoint.ofChar = Python.isSpace := by
    funext char
    rw [Function.comp_apply, isSpaceAt, CodePoint.char?_ofChar, Option.any_some]
  rw [codePoints, Python.strip, List.dropWhile_map, points, List.rdropWhile, ← List.map_reverse,
    List.dropWhile_map, points, ← List.map_reverse, List.rdropWhile]

/-- What becomes of a text that a row can hold. -/
theorem settle_codePoints {text : String} (stored : text.storable = true) :
    settle texts finding (some (.str (codePoints text), false)) =
      if Python.strip text.toList = [] then some (.failed "empty_output")
      else some (.succeeded (checkCitations texts text finding).text) := by
  simp only [settle, strip_codePoints, List.map_eq_nil_iff, LoadedText.encoded_codePoints,
    Option.bind_some, storable_checkCitations stored, if_true]

/-- An output of plain texts settles. -/
theorem Plain.settles (plain : Plain provider (behaviour function)) :
    ∃ outcome, settle texts finding (snapshot.output texts provider behaviour function) =
      some outcome := by
  cases came : snapshot.output texts provider behaviour function with
  | none => exact ⟨_, rfl⟩
  | some output =>
      obtain ⟨ended, _, within⟩ := Option.bind_eq_some_iff.mp came
      split at within
      next =>
        cases completed : (provider.complete (behaviour function)).2 with
        | error raised =>
            rw [completed] at within
            cases within
            exact ⟨_, rfl⟩
        | ok body =>
            rw [completed] at within
            cases within
            obtain ⟨text, rfl, stored⟩ := plain body completed
            rw [llmSafeComplete, settle_codePoints stored]
            split
            next => exact ⟨_, rfl⟩
            next => exact ⟨_, rfl⟩
      next => cases within

theorem lookup_zip {α β : Type} [BEq α] [LawfulBEq α] {keys : List α} {others : List β} {key : α}
    (member : key ∈ keys) : (keys.zip others).lookup key = others[keys.idxOf key]? := by
  induction keys generalizing others with
  | nil => cases member
  | cons first rest ih =>
      cases others with
      | nil => rfl
      | cons other others =>
          rw [List.zip_cons_cons]
          by_cases same : key = first
          · subst same
            rw [List.lookup_cons_self, List.idxOf_cons_self, List.getElem?_cons_zero]
          · rw [List.lookup_cons, beq_false_of_ne same, List.idxOf_cons_ne _ (Ne.symm same),
              List.getElem?_cons_succ]
            exact ih ((List.mem_cons.mp member).resolve_left same)

/-- A call has what it waits for from the calls before it only, and from none of them where there
is a slot for each. -/
theorem output_same (due : function ∈ snapshot.due texts)
    (own : behaviour' function = behaviour function)
    (alike : snapshot.WaitsAlike texts provider behaviour behaviour' function) :
    snapshot.output texts provider behaviour' function =
      snapshot.output texts provider behaviour function := by
  have ends : (snapshot.ends texts provider behaviour').lookup function =
      (snapshot.ends texts provider behaviour).lookup function := by
    rw [Snapshot.ends, Snapshot.ends, lookup_zip due, lookup_zip due]
    have index := List.idxOf_lt_length_of_mem due
    have found : (snapshot.due texts)[(snapshot.due texts).idxOf function]? = some function := by
      rw [List.getElem?_eq_getElem index, List.getElem_idxOf]
    rcases alike with room | earlier
    · have slots : (snapshot.due texts).length ≤ snapshot.call.settings.maxConcurrency.toNat := by
        omega
      rw [Slots.schedule_roomy (fun _ _ => bot_le) (by rwa [List.length_map]),
        Slots.schedule_roomy (fun _ _ => bot_le) (by rwa [List.length_map]), List.getElem?_map,
        List.getElem?_map, found, Option.map_some, Option.map_some, HttpProvider.duration,
        HttpProvider.duration, own]
    · apply Slots.finishes_before
      rw [← List.map_take, ← List.map_take, List.map_inj_left]
      intro other member
      rw [List.take_add_one, found] at member
      rcases List.mem_append.mp member with before | same
      · exact earlier other before
      · rw [List.mem_singleton.mp same, HttpProvider.duration, HttpProvider.duration, own]
  rw [Snapshot.output, Snapshot.output, ends, own]

end

/-! The functions of a level. -/

section

variable {texts : Texts} {snapshot : Snapshot} {provider : HttpProvider} {behaviour : Behaviour}
  {function language level : String} {functions : List String} {finding : EnrichmentInput}
  {spec : PromptSpec} {outcome : Outcome} {clock clock' : String → Timestamp}
  {now now' : Timestamp} {written written' : CachedEnrichment}

theorem levelFunctions_listed (listed : levelFunctions level = some functions) :
    functions.Nodup ∧ functions ⊆ enrichmentFunctions := by
  unfold levelFunctions at listed
  split at listed
  next => cases listed; decide
  next => cases listed; decide
  next => cases listed; decide
  next => cases listed

/-- Every function has its prompt in a supported language. -/
theorem buildPrompt_listed (supported : (languageInstructions language).isSome)
    (listed : function ∈ enrichmentFunctions) :
    ∃ spec, buildPrompt texts function finding language = .ok spec ∧
      promptVersions function = some spec.version := by
  have instructed : ∀ function ∈ enrichmentFunctions, (functionInstructions function).isSome := by
    decide
  obtain ⟨languageInstruction, spoken⟩ := Option.isSome_iff_exists.mp supported
  obtain ⟨instruction, given⟩ := Option.isSome_iff_exists.mp (instructed function listed)
  have version : promptVersions function = some "1" := if_pos listed
  rw [buildPrompt, version, given, spoken]
  exact ⟨_, rfl, rfl⟩

/-- The rows that are `ok` tell of which data they are. -/
def Identified (existing : String → Option CachedEnrichment) : Prop :=
  ∀ function row, existing function = some row → row.status = .ok →
    row.inputHash.isSome ∧ row.promptVersion.isSome ∧ row.model.isSome

/-- A failure of a due function does not stop at the row that it finds. -/
theorem row_due (due : function ∈ snapshot.due texts)
    (version : promptVersions function = some spec.version)
    (identified : Identified snapshot.existing) :
    ∃ written, snapshot.row texts clock now function spec outcome = some written ∧
      written.status = outcome.status := by
  have stale := ((mem_dueFunctions version).mp due).2
  rw [Snapshot.row]
  cases found : snapshot.existing function with
  | none => exact ⟨_, rfl, rfl⟩
  | some row =>
      cases outcome with
      | succeeded content => exact ⟨_, rfl, rfl⟩
      | failed error =>
          simp only [CachedEnrichment.upsert]
          split
          next stopped =>
            have ok : row.status = .ok := by
              simp only [CachedEnrichment.stops, Bool.and_eq_true, beq_iff_eq] at stopped
              exact stopped.1.1.1
            have known := identified function row found ok
            exact absurd ((stops_iff known).mp stopped) (stale row found)
          next => exact ⟨_, rfl, rfl⟩

/-- What is written for an outcome is the same at any time, the time apart. -/
theorem row_timeless (before : snapshot.row texts clock now function spec outcome = some written)
    (after : snapshot.row texts clock' now' function spec outcome = some written') :
    written' = { written with updatedAt := written'.updatedAt } := by
  rw [Snapshot.row] at before after
  cases found : snapshot.existing function with
  | none =>
      rw [found] at before after
      cases before
      cases after
      rfl
  | some row =>
      rw [found] at before after
      cases outcome with
      | succeeded content =>
          cases before
          cases after
          rfl
      | failed error =>
          simp only [CachedEnrichment.upsert] at before after
          split at before
          next => cases before
          next =>
            split at after
            next => cases after
            next =>
              cases before
              cases after
              rfl

theorem mapM_map {α β ε : Type} {f : α → Except ε β} {g : α → β} {given : List α}
    (each : ∀ item ∈ given, f item = .ok (g item)) : given.mapM f = .ok (given.map g) := by
  induction given with
  | nil => rfl
  | cons item rest ih =>
      rw [List.mapM_cons, each item List.mem_cons_self,
        ih fun other member => each other (List.mem_cons_of_mem _ member)]
      rfl

theorem mapM_ok_mem {α β ε : Type} {f : α → Except ε β} {given : List α} {found : List β}
    (all : given.mapM f = .ok found) : ∀ item ∈ given, ∃ other, f item = .ok other := by
  induction given generalizing found with
  | nil =>
      intro item member
      cases member
  | cons first rest ih =>
      rw [List.mapM_cons] at all
      cases one : f first with
      | error raised =>
          rw [one] at all
          cases all
      | ok other =>
          rw [one] at all
          cases more : rest.mapM f with
          | error raised =>
              rw [more] at all
              cases all
          | ok others =>
              intro item member
              rcases List.mem_cons.mp member with rfl | member
              · exact ⟨other, one⟩
              · exact ih more item member

end

/-! The run. -/

section

variable {texts : Texts} {provider : HttpProvider} {behaviour : Behaviour} {snapshot : Snapshot}
  {clock : String → Timestamp} {now : Timestamp} {level : String} {specs : String → PromptSpec}

theorem enrichVulnerability_run (checked : snapshot.call.checked = .ok ())
    (listed : levelFunctions level = some snapshot.functions) :
    enrichVulnerability texts provider behaviour clock now snapshot.call
        (some (snapshot.vulnerability, level)) snapshot.existing =
      snapshot.run texts provider behaviour clock now := by
  simp only [enrichVulnerability, checked, functionsForLevel, listed]
  rfl

/-- The prompts of the due functions. -/
theorem prompts_built (supported : (languageInstructions snapshot.call.settings.language).isSome)
    (listed : snapshot.functions ⊆ enrichmentFunctions) :
    ∃ specs : String → PromptSpec, ∀ function ∈ snapshot.due texts,
      snapshot.spec texts function = .ok (specs function) ∧
        promptVersions function = some (specs function).version := by
  have some' : Nonempty PromptSpec := ⟨⟨"", "", "", ""⟩⟩
  have each : ∀ function, function ∈ snapshot.due texts → ∃ spec,
      snapshot.spec texts function = .ok spec ∧ promptVersions function = some spec.version := by
    intro function due
    have targeted := (List.mem_filter.mp due).1
    exact buildPrompt_listed supported (listed (List.mem_filter.mp targeted).1)
  choose! specs built using each
  exact ⟨specs, built⟩

/-- The outcomes of the due functions. -/
theorem outputs_settled
    (plain : ∀ function ∈ snapshot.due texts, Plain provider (behaviour function)) :
    ∃ outcomes : String → Outcome, ∀ function ∈ snapshot.due texts,
      settle texts snapshot.finding (snapshot.output texts provider behaviour function) =
        some (outcomes function) := by
  have some' : Nonempty Outcome := ⟨.failed ""⟩
  have each : ∀ function, function ∈ snapshot.due texts → ∃ outcome,
      settle texts snapshot.finding (snapshot.output texts provider behaviour function) =
        some outcome := fun function due => (plain function due).settles
  choose! outcomes settled using each
  exact ⟨outcomes, settled⟩

/-- The rows of the due functions. -/
theorem rows_written (outcomes : String → Outcome) (identified : Identified snapshot.existing)
    (built : ∀ function ∈ snapshot.due texts,
      promptVersions function = some (specs function).version) :
    ∃ rows : String → CachedEnrichment, ∀ function ∈ snapshot.due texts,
      snapshot.row texts clock now function (specs function) (outcomes function) =
          some (rows function) ∧
        (rows function).status = (outcomes function).status := by
  have some' : Nonempty CachedEnrichment := ⟨values 0 0 "" ⟨"", "", ""⟩ (.failed "") 0⟩
  have each : ∀ function, function ∈ snapshot.due texts → ∃ row,
      snapshot.row texts clock now function (specs function) (outcomes function) = some row ∧
        row.status = (outcomes function).status :=
    fun function due => row_due due (built function due) identified
  choose! rows made using each
  exact ⟨rows, made⟩

/-- The result where the outcomes and the rows are those given. -/
def Snapshot.result (snapshot : Snapshot) (texts : Texts) (outcomes : String → Outcome)
    (rows : String → CachedEnrichment) :
    EnrichmentRunResult × List (String × CachedEnrichment) :=
  (⟨(snapshot.due texts).filter fun function => (outcomes function).status == .ok,
    (snapshot.due texts).filter fun function => (outcomes function).status != .ok,
    snapshot.targets.filter (· ∉ snapshot.due texts)⟩,
    (snapshot.due texts).map fun function => (function, rows function))

theorem specs_built
    (built : ∀ function ∈ snapshot.due texts, snapshot.spec texts function = .ok (specs function)) :
    (snapshot.due texts).mapM (snapshot.specItem texts) =
      .ok ((snapshot.due texts).map fun function => (function, specs function)) := by
  apply mapM_map
  intro function due
  rw [Snapshot.specItem, built function due]
  rfl

theorem outputs_built (specs : String → PromptSpec) {outcomes : String → Outcome}
    (settled : ∀ function ∈ snapshot.due texts, settle texts snapshot.finding
      (snapshot.output texts provider behaviour function) = some (outcomes function)) :
    ((snapshot.due texts).map fun function => (function, specs function)).mapM
        (snapshot.settled texts provider behaviour) =
      .ok ((snapshot.due texts).map fun function =>
        (function, specs function, outcomes function)) := by
  rw [List.mapM_map]
  apply mapM_map
  intro function due
  rw [Function.comp_apply, Snapshot.settled, settled function due]

/-- The run, where each prompt can be built, each output settles and each row is written. -/
theorem run_result {outcomes : String → Outcome} {rows : String → CachedEnrichment}
    (built : ∀ function ∈ snapshot.due texts, snapshot.spec texts function = .ok (specs function))
    (settled : ∀ function ∈ snapshot.due texts, settle texts snapshot.finding
      (snapshot.output texts provider behaviour function) = some (outcomes function))
    (written : ∀ function ∈ snapshot.due texts,
      snapshot.row texts clock now function (specs function) (outcomes function) =
        some (rows function)) :
    snapshot.run texts provider behaviour clock now =
      .ok (snapshot.result texts outcomes rows) := by
  have prompts := specs_built built
  have outputs := outputs_built specs settled
  have statements : ((snapshot.due texts).filterMap fun function =>
        (snapshot.row texts clock now function (specs function) (outcomes function)).map
          (function, ·)) =
      (snapshot.due texts).map fun function => (function, rows function) := by
    rw [← List.filterMap_eq_map]
    apply List.filterMap_congr
    intro function due
    rw [written function due]
    rfl
  simp only [Snapshot.run, Snapshot.result, prompts, outputs, bind, Except.bind, pure, Except.pure,
    List.map_map, List.filter_map, List.filterMap_map, Function.comp_def, List.map_id', statements]

/-- The run returns if and only if each output settles: a text that is no string, for one,
raises. -/
theorem run_returns_iff
    (built : ∀ function ∈ snapshot.due texts, snapshot.spec texts function = .ok (specs function)) :
    (∃ result, snapshot.run texts provider behaviour clock now = .ok result) ↔
      ∀ function ∈ snapshot.due texts, ∃ outcome, settle texts snapshot.finding
        (snapshot.output texts provider behaviour function) = some outcome := by
  have prompts := specs_built built
  constructor
  · rintro ⟨result, returned⟩ function due
    simp only [Snapshot.run, prompts, bind, Except.bind] at returned
    split at returned
    next => cases returned
    next settled all =>
      obtain ⟨_, each⟩ := mapM_ok_mem all (function, specs function)
        (List.mem_map.mpr ⟨function, due, rfl⟩)
      rw [Snapshot.settled] at each
      split at each
      next outcome settles => exact ⟨outcome, settles⟩
      next => cases each
  · intro each
    have some' : Nonempty Outcome := ⟨.failed ""⟩
    choose! outcomes settled using each
    have outputs := outputs_built specs settled
    simp only [Snapshot.run, prompts, outputs, bind, Except.bind, pure, Except.pure]
    exact ⟨_, rfl⟩

section

variable {outcomes outcomes' : String → Outcome} {rows rows' : String → CachedEnrichment}
  {function : String}

/-- The targets are those due and those skipped. -/
theorem mem_result :
    function ∈ (snapshot.result texts outcomes rows).1.succeeded ++
        (snapshot.result texts outcomes rows).1.failed ++
        (snapshot.result texts outcomes rows).1.skipped ↔ function ∈ snapshot.targets := by
  have targeted : function ∈ snapshot.due texts → function ∈ snapshot.targets :=
    fun due => (List.mem_filter.mp due).1
  simp only [Snapshot.result, List.mem_append, List.mem_filter, decide_eq_true_eq, beq_iff_eq,
    bne_iff_ne]
  tauto

theorem nodup_result (distinct : snapshot.targets.Nodup) :
    ((snapshot.result texts outcomes rows).1.succeeded ++
        (snapshot.result texts outcomes rows).1.failed ++
        (snapshot.result texts outcomes rows).1.skipped).Nodup := by
  have due : (snapshot.due texts).Nodup := distinct.filter _
  refine List.Nodup.append (List.Nodup.append (due.filter _) (due.filter _) ?_)
    (distinct.filter _) ?_
  · intro function succeeded failed
    have ok := (List.mem_filter.mp succeeded).2
    have other := (List.mem_filter.mp failed).2
    rw [beq_iff_eq] at ok
    rw [bne_iff_ne] at other
    exact other ok
  · intro function settled skipped
    have missing := (List.mem_filter.mp skipped).2
    rw [decide_eq_true_eq] at missing
    rcases List.mem_append.mp settled with member | member
    · exact missing (List.mem_filter.mp member).1
    · exact missing (List.mem_filter.mp member).1

/-- The row of a function has the status of its list. -/
theorem status_result {row : CachedEnrichment}
    (status : ∀ function ∈ snapshot.due texts,
      (rows function).status = (outcomes function).status)
    (member : (function, row) ∈ (snapshot.result texts outcomes rows).2) :
    (row.status = .ok ↔ function ∈ (snapshot.result texts outcomes rows).1.succeeded) ∧
      (row.status = .failed ↔ function ∈ (snapshot.result texts outcomes rows).1.failed) := by
  obtain ⟨other, due, same⟩ := List.mem_map.mp member
  cases same
  simp only [Snapshot.result, List.mem_filter, due, true_and, status _ due, beq_iff_eq, bne_iff_ne]
  cases outcomes function <;> simp [Outcome.status]

end

end

section

variable {texts : Texts} {provider : HttpProvider} {behaviour : Behaviour} {snapshot : Snapshot}
  {clock : String → Timestamp} {now : Timestamp} {level : String}

/-- The run where the provider gives plain texts. -/
theorem enrichVulnerability_result {specs : String → PromptSpec}
    (checked : snapshot.call.checked = .ok ())
    (listed : levelFunctions level = some snapshot.functions)
    (identified : Identified snapshot.existing)
    (prompts : ∀ function ∈ snapshot.due texts,
      snapshot.spec texts function = .ok (specs function) ∧
        promptVersions function = some (specs function).version)
    (plain : ∀ function ∈ snapshot.due texts, Plain provider (behaviour function)) :
    ∃ outcomes rows,
      (∀ function ∈ snapshot.due texts, settle texts snapshot.finding
        (snapshot.output texts provider behaviour function) = some (outcomes function)) ∧
      (∀ function ∈ snapshot.due texts,
        snapshot.row texts clock now function (specs function) (outcomes function) =
            some (rows function) ∧
          (rows function).status = (outcomes function).status) ∧
      enrichVulnerability texts provider behaviour clock now snapshot.call
        (some (snapshot.vulnerability, level)) snapshot.existing =
          .ok (snapshot.result texts outcomes rows) := by
  obtain ⟨outcomes, settled⟩ := outputs_settled plain
  obtain ⟨rows, written⟩ := @rows_written texts snapshot clock now specs outcomes identified
    fun function due => (prompts function due).2
  refine ⟨outcomes, rows, settled, written, ?_⟩
  rw [enrichVulnerability_run checked listed]
  exact run_result (fun function due => (prompts function due).1) settled
    fun function due => (written function due).1

/-- Whatever the provider does, the targets are those that succeeded, failed and were skipped, and
each due function has its row. What the provider does at the call of a function comes to the row of
another only through the time that it takes, and only where the other has to wait for it. -/
theorem enrichment_isolated (checked : snapshot.call.checked = .ok ())
    (listed : levelFunctions level = some snapshot.functions)
    (supported : (languageInstructions snapshot.call.settings.language).isSome)
    (identified : Identified snapshot.existing)
    (plain : ∀ function ∈ snapshot.due texts, Plain provider (behaviour function)) :
    ∃ result written,
      enrichVulnerability texts provider behaviour clock now snapshot.call
        (some (snapshot.vulnerability, level)) snapshot.existing = .ok (result, written) ∧
      (result.succeeded ++ result.failed ++ result.skipped).Nodup ∧
      (∀ function, function ∈ result.succeeded ++ result.failed ++ result.skipped ↔
        function ∈ snapshot.functions ∧
          ∀ only, snapshot.call.onlyFunctions = some only → function ∈ only) ∧
      written.map Prod.fst = snapshot.due texts ∧
      (∀ function row, (function, row) ∈ written →
        (row.status = .ok ↔ function ∈ result.succeeded) ∧
        (row.status = .failed ↔ function ∈ result.failed)) ∧
      ∀ behaviour' clock' now',
        (∀ function ∈ snapshot.due texts, Plain provider (behaviour' function)) →
        ∃ result' written',
          enrichVulnerability texts provider behaviour' clock' now' snapshot.call
            (some (snapshot.vulnerability, level)) snapshot.existing = .ok (result', written') ∧
          ∀ function ∈ snapshot.due texts, behaviour' function = behaviour function →
            snapshot.WaitsAlike texts provider behaviour behaviour' function →
            (function ∈ result'.succeeded ↔ function ∈ result.succeeded) ∧
            (function ∈ result'.failed ↔ function ∈ result.failed) ∧
            ∀ row row', (function, row) ∈ written → (function, row') ∈ written' →
              row' = { row with updatedAt := row'.updatedAt } := by
  obtain ⟨distinct, known⟩ := levelFunctions_listed listed
  have once : snapshot.targets.Nodup := distinct.filter _
  obtain ⟨specs, prompts⟩ := @prompts_built texts snapshot supported known
  obtain ⟨outcomes, rows, settled, written, run⟩ :=
    @enrichVulnerability_result texts provider behaviour snapshot clock now level specs checked
      listed identified prompts plain
  refine ⟨(snapshot.result texts outcomes rows).1, (snapshot.result texts outcomes rows).2, run,
    nodup_result once, ?_, ?_, ?_, ?_⟩
  · intro function
    rw [mem_result, Snapshot.targets, Enrichment.targets, List.mem_filter]
    apply and_congr_right
    intro _
    cases snapshot.call.onlyFunctions with
    | none => simp
    | some only => simp
  · rw [Snapshot.result, List.map_map]
    exact List.map_id _
  · intro function row member
    exact status_result (fun function due => (written function due).2) member
  · intro behaviour' clock' now' plain'
    obtain ⟨outcomes', rows', settled', written', run'⟩ :=
      @enrichVulnerability_result texts provider behaviour' snapshot clock' now' level specs checked
        listed identified prompts plain'
    refine ⟨(snapshot.result texts outcomes' rows').1, (snapshot.result texts outcomes' rows').2,
      run', ?_⟩
    · intro function due own alike
      have same : outcomes' function = outcomes function := by
        have output := settled' function due
        rw [output_same due own alike, settled function due] at output
        exact (Option.some.inj output).symm
      refine ⟨?_, ?_, ?_⟩
      · simp only [Snapshot.result, List.mem_filter, same]
      · simp only [Snapshot.result, List.mem_filter, same]
      · intro row row' member member'
        obtain ⟨other, _, shape⟩ := List.mem_map.mp member
        cases shape
        obtain ⟨other', _, shape'⟩ := List.mem_map.mp member'
        cases shape'
        apply row_timeless (written _ due).1
        rw [← same]
        exact (written' _ due).1

end

/-! A tenant with the basic functions and one slot. -/

/-- A response of the API of OpenAI. -/
def chatResponse (content : Loaded) : Loaded :=
  .obj [(codePoints "choices", .arr [.obj [(codePoints "message", .obj [(codePoints "content", content)])]])]

/-- A provider that takes its time. -/
def answers (seconds : String → ℚ≥0) : Behaviour := fun function _ =>
  ⟨seconds function, .response 200 (some (chatResponse (.str (codePoints "Fix it."))))⟩

def promptly : Behaviour := answers fun _ => (2 : ℕ)

/-- One of its functions takes longer than the budget. -/
def slowly : Behaviour := answers fun function =>
  if function = "executive_summary" then 130 else (2 : ℕ)

def oneSlot : Snapshot where
  call := ⟨7, 1, none, ⟨"gpt-4o", "en", 1, 120, 2048, 1 / 10⟩⟩
  vulnerability := oldServer
  functions := basicFunctions
  existing _ := none

theorem answers_complete (seconds : String → ℚ≥0) (function : String) :
    HttpProvider.openAICompat.complete (answers seconds function) =
      (↑(seconds function), .ok (.str (codePoints "Fix it."))) := rfl

theorem answers_plain (seconds : String → ℚ≥0) (function : String) :
    Plain .openAICompat (answers seconds function) := by
  intro body completed
  rw [answers_complete] at completed
  cases completed
  exact ⟨"Fix it.", rfl, by decide⟩

theorem oneSlot_due : oneSlot.due plainTexts = basicFunctions := by decide

theorem enrichment_isolated_oneSlot :
    ∃ result written,
      enrichVulnerability plainTexts .openAICompat promptly (fun _ => 300) 300 oneSlot.call
        (some (oneSlot.vulnerability, "basic")) oneSlot.existing = .ok (result, written) ∧
      written.map Prod.fst = basicFunctions := by
  obtain ⟨result, written, run, _, _, rows, _⟩ :=
    @enrichment_isolated plainTexts .openAICompat promptly oneSlot (fun _ => 300) 300 "basic" rfl
      rfl rfl (fun _ _ found => by cases found) fun function _ => answers_plain _ function
  exact ⟨result, written, run, rows.trans oneSlot_due⟩

/-- The calls come one after the other. -/
theorem schedule_one (first second third : ℚ≥0) :
    Slots.schedule 1 [(first : Duration), ↑second, ↑third] =
      [↑first, ↑(first + second), ↑(first + second + third)] := by
  simp only [Slots.schedule, List.replicate_one, Slots.finishes, List.orderedInsert, zero_add,
    WithTop.coe_add]

theorem oneSlot_remediation (seconds : String → ℚ≥0) :
    oneSlot.output plainTexts .openAICompat (answers seconds) "remediation" =
      if seconds "executive_summary" + seconds "contextual_severity" + seconds "remediation" < 120
        then some (.str (codePoints "Fix it."), false)
        else none := by
  have ends : oneSlot.ends plainTexts .openAICompat (answers seconds) =
      [("executive_summary", ↑(seconds "executive_summary")),
        ("contextual_severity",
          ↑(seconds "executive_summary" + seconds "contextual_severity")),
        ("remediation", ↑(seconds "executive_summary" + seconds "contextual_severity" +
          seconds "remediation"))] := by
    have slots : oneSlot.call.settings.maxConcurrency.toNat = 1 := rfl
    rw [Snapshot.ends, oneSlot_due, slots]
    simp only [basicFunctions, List.map_cons, List.map_nil, HttpProvider.duration, answers_complete,
      schedule_one]
    rfl
  have budget : oneSlot.call.settings.budgetSeconds.toNNRat = 120 := by
    apply NNRat.coe_injective
    rw [Rat.coe_toNNRat _ (by simp [oneSlot])]
    rfl
  have last (first second third : Duration) :
      [("executive_summary", first), ("contextual_severity", second),
        ("remediation", third)].lookup "remediation" = some third := rfl
  rw [Snapshot.output, ends, budget, last, Option.bind_some, answers_complete]
  simp only [WithTop.coe_lt_coe]
  rfl

theorem remediation_promptly :
    oneSlot.output plainTexts .openAICompat promptly "remediation" =
      some (.str (codePoints "Fix it."), false) := by
  rw [promptly, oneSlot_remediation, if_pos]
  rw [← NNRat.coe_lt_coe]
  norm_num

theorem remediation_slowly :
    oneSlot.output plainTexts .openAICompat slowly "remediation" = none := by
  rw [slowly, oneSlot_remediation, if_neg]
  rw [← NNRat.coe_lt_coe]
  simp only [if_true, show ("contextual_severity" : String) ≠ "executive_summary" by decide,
    show ("remediation" : String) ≠ "executive_summary" by decide, if_false]
  norm_num

/-- A call that takes its time costs another function its slot within the budget. -/
theorem slow_call_fails_another :
    (∀ function ≠ "executive_summary", slowly function = promptly function) ∧
      ∃ result written result' written',
        enrichVulnerability plainTexts .openAICompat promptly (fun _ => 300) 300 oneSlot.call
          (some (oneSlot.vulnerability, "basic")) oneSlot.existing = .ok (result, written) ∧
        enrichVulnerability plainTexts .openAICompat slowly (fun _ => 300) 300 oneSlot.call
          (some (oneSlot.vulnerability, "basic")) oneSlot.existing = .ok (result', written') ∧
        "remediation" ∈ result.succeeded ∧ "remediation" ∈ result'.failed := by
  constructor
  · intro function other
    funext attempt
    simp only [slowly, promptly, answers, if_neg other]
  · have due : "remediation" ∈ oneSlot.due plainTexts := by
      rw [oneSlot_due]
      decide
    obtain ⟨specs, prompts⟩ := @prompts_built plainTexts oneSlot rfl (by decide)
    have run (seconds : String → ℚ≥0) := @enrichVulnerability_result plainTexts .openAICompat
      (answers seconds) oneSlot (fun _ => 300) 300 "basic" specs rfl rfl
      (fun _ _ found => by cases found) prompts fun function _ => answers_plain seconds function
    obtain ⟨outcomes, rows, settled, _, ran⟩ := run fun _ => (2 : ℕ)
    obtain ⟨outcomes', rows', settled', _, ran'⟩ :=
      run fun function => if function = "executive_summary" then 130 else (2 : ℕ)
    refine ⟨_, _, _, _, ran, ran', ?_, ?_⟩
    · have outcome := settled "remediation" due
      rw [← promptly, remediation_promptly, settle_codePoints (by decide),
        if_neg (by decide)] at outcome
      refine List.mem_filter.mpr ⟨due, ?_⟩
      simp only [← Option.some.inj outcome]
      rfl
    · have outcome := settled' "remediation" due
      rw [← slowly, remediation_slowly] at outcome
      refine List.mem_filter.mpr ⟨due, ?_⟩
      simp only [← Option.some.inj outcome]
      rfl

end Enrichment
