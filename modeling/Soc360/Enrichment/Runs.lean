import Soc360.Enrichment.Service
import Soc360.Vulnerabilities.Closing

set_option autoImplicit false

/-! Overlapping runs of `enrich_vulnerability` in the worker, each in a transaction of its own at
READ COMMITTED, and updates of the vulnerabilities between their steps. -/

namespace Enrichment

open Scans (TenantId Timestamp)
open Vulnerabilities (Vulnerability VulnerabilityColumns VulnerabilityId)

/-- The unique key of a row: vulnerability and function. -/
abbrev Key := VulnerabilityId × String

/-- How far a run is. `called` and `outputs` are the functions sent to the provider and what came
back, `todo` is what is left of the loop over the due functions, and `written` holds the versions
that wait for the commit. -/
inductive Stage where
  | idle
  | checked (call : EnrichCall)
  | loaded (call : EnrichCall) (vulnerability : Vulnerability) (level : String)
  | calling (snapshot : Snapshot) (called : List String) (outputs : List (String × Loaded × Bool))
  | writing (snapshot : Snapshot) (outputs : List (String × Loaded × Bool)) (todo : List String)
      (written : List (String × CachedEnrichment))
  | ended

/-- What a run does in the world: a call of the provider, what the provider returns, and a
statement that writes. -/
inductive Event where
  | called (snapshot : Snapshot) (function : String)
  | answered (call : ProviderCall) (text : Loaded)
  | upserted (snapshot : Snapshot) (function : String)

/-- `rows` and `vulnerabilities` are committed. `stored` lists the upserts that inserted or updated
a row, by key. -/
structure World where
  vulnerabilities : VulnerabilityId → Option Vulnerability
  levels : TenantId → Option String
  rows : Key → Option CachedEnrichment
  locks : Key → Option Nat
  stage : Nat → Stage
  history : List Event
  stored : List Key

/-- `clock` is that of the worker and `now` that of the database. An `edit` is the UPDATE of some
`update_vulnerability`, with whatever columns it worked out. -/
inductive Label where
  | start (task : Nat) (call : EnrichCall)
  | load (task : Nat)
  | read (task : Nat)
  | call (task : Nat) (function : String)
  | answer (task : Nat) (function : String) (completion : Completion)
  | gather (task : Nat)
  | timeout (task : Nat)
  | upsert (task : Nat) (clock now : Timestamp)
  | commit (task : Nat)
  | rollback (task : Nat)
  | edit (vulnerabilityId : VulnerabilityId) (columns : VulnerabilityColumns)

namespace World

/-- No row was written yet and no run began. -/
def initial (vulnerabilities : VulnerabilityId → Option Vulnerability)
    (levels : TenantId → Option String) : World :=
  ⟨vulnerabilities, levels, fun _ => none, fun _ => none, fun _ => .idle, [], []⟩

variable (world : World) (task : Nat)

def goto (stage : Stage) : World :=
  { world with stage := Function.update world.stage task stage }

def log (event : Event) : World := { world with history := event :: world.history }

def lock (key : Key) : World :=
  { world with locks := Function.update world.locks key (some task) }

/-- The end of the transaction. -/
def release : World :=
  { world with
    locks := fun key => if world.locks key = some task then none else world.locks key
    stage := Function.update world.stage task .ended }

/-- The versions of a commit, and the keys that it writes. -/
def publish (vulnerabilityId : VulnerabilityId) (written : List (String × CachedEnrichment)) :
    World :=
  { world with
    rows := fun key =>
      if key.1 = vulnerabilityId then (written.lookup key.2).or (world.rows key)
      else world.rows key
    stored := written.map (fun entry => (vulnerabilityId, entry.1)) ++ world.stored }

end World

section

variable (texts : Texts)

def step (world : World) : Label → Option World
  | .start task call =>
      match world.stage task with
      | .idle =>
          match call.checked with
          | .error _ => some (world.release task)
          | .ok _ => some (world.goto task (.checked call))
      | _ => none
  | .load task =>
      match world.stage task with
      | .checked call =>
          -- the policy of the table shows the rows of the tenant
          match (world.vulnerabilities call.vulnerabilityId).filter (·.tenantId == call.tenantId) with
          | none => some (world.release task)
          | some vulnerability =>
              match world.levels vulnerability.tenantId with
              | none => some (world.release task)
              | some level => some (world.goto task (.loaded call vulnerability level))
      | _ => none
  | .read task =>
      match world.stage task with
      | .loaded call vulnerability level =>
          match functionsForLevel texts level with
          | .error _ => some (world.release task)
          | .ok functions =>
              let snapshot : Snapshot := ⟨call, vulnerability, functions, fun function =>
                world.rows (call.vulnerabilityId, function)⟩
              if snapshot.buildable texts then some (world.goto task (.calling snapshot [] []))
              else some (world.release task)
      | _ => none
  | .call task function =>
      match world.stage task with
      | .calling snapshot called outputs =>
          if function ∈ snapshot.due texts ∧ function ∉ called ∧
              (called.length : Int) < outputs.length + snapshot.call.settings.maxConcurrency then
            some ((world.log (.called snapshot function)).goto task
              (.calling snapshot (function :: called) outputs))
          else none
      | _ => none
  | .answer task function completion =>
      match world.stage task with
      | .calling snapshot called outputs =>
          match snapshot.spec texts function with
          | .error _ => none
          | .ok spec =>
              if function ∈ called ∧ outputs.lookup function = none then
                let next := world.goto task (.calling snapshot called
                  ((function, llmSafeComplete completion) :: outputs))
                match completion with
                | .ok text => some (next.log (.answered (snapshot.providerCall spec) text))
                | .error _ => some next
              else none
      | _ => none
  | .gather task =>
      match world.stage task with
      | .calling snapshot _ outputs =>
          if (snapshot.due texts).all fun function => (outputs.lookup function).isSome then
            some (world.goto task (.writing snapshot outputs (snapshot.due texts) []))
          else none
      | _ => none
  | .timeout task =>
      match world.stage task with
      | .calling snapshot _ outputs =>
          if snapshot.due texts = [] then none
          else some (world.goto task (.writing snapshot outputs (snapshot.due texts) []))
      | _ => none
  | .upsert task clock now =>
      match world.stage task with
      | .writing snapshot outputs (function :: todo) written =>
          match settle texts snapshot.finding (outputs.lookup function),
            snapshot.spec texts function with
          | some outcome, .ok spec =>
              let key := (snapshot.call.vulnerabilityId, function)
              match world.locks key with
              -- waits for the end of the transaction that holds the row
              | some _ => none
              | none =>
                  let excluded := values key.1 snapshot.vulnerability.tenantId function
                    (snapshot.identity texts spec) outcome clock
                  let row := excluded.upsert outcome now (world.rows key)
                  some (((world.log (.upserted snapshot function)).lock task key).goto task
                    (.writing snapshot outputs todo
                      (row.toList.map (fun row => (function, row)) ++ written)))
          | _, _ => some (world.release task)
      | _ => none
  | .commit task =>
      match world.stage task with
      | .writing snapshot _ [] written =>
          some ((world.publish snapshot.call.vulnerabilityId written).release task)
      | _ => none
  | .rollback task => some (world.release task)
  | .edit vulnerabilityId columns =>
      (world.vulnerabilities vulnerabilityId).map fun row =>
        { world with
          vulnerabilities :=
            Function.update world.vulnerabilities vulnerabilityId (some (columns.write row)) }

def machine : Machine World Label where
  start := fun world => ∃ vulnerabilities levels, world = .initial vulnerabilities levels
  step := step texts

end

section

variable {texts : Texts} {world next : World} {label : Label}

/-- Everything a step can be. -/
inductive Moved (texts : Texts) (world : World) : Label → World → Prop where
  | refused (task : Nat) (call : EnrichCall) (new : world.stage task = .idle) :
      Moved texts world (.start task call) (world.release task)
  | start (task : Nat) (call : EnrichCall) (new : world.stage task = .idle) :
      Moved texts world (.start task call) (world.goto task (.checked call))
  | unfound (task : Nat) (call : EnrichCall) (stage : world.stage task = .checked call) :
      Moved texts world (.load task) (world.release task)
  | load (task : Nat) (call : EnrichCall) (vulnerability : Vulnerability) (level : String)
      (stage : world.stage task = .checked call)
      (found : (world.vulnerabilities call.vulnerabilityId).filter (·.tenantId == call.tenantId) =
        some vulnerability)
      (tenant : world.levels vulnerability.tenantId = some level) :
      Moved texts world (.load task) (world.goto task (.loaded call vulnerability level))
  | unbuilt (task : Nat) (call : EnrichCall) (vulnerability : Vulnerability) (level : String)
      (stage : world.stage task = .loaded call vulnerability level) :
      Moved texts world (.read task) (world.release task)
  | read (task : Nat) (call : EnrichCall) (vulnerability : Vulnerability) (level : String)
      (functions : List String) (stage : world.stage task = .loaded call vulnerability level)
      (listed : functionsForLevel texts level = .ok functions)
      (buildable : Snapshot.buildable texts ⟨call, vulnerability, functions, fun function =>
        world.rows (call.vulnerabilityId, function)⟩ = true) :
      Moved texts world (.read task) (world.goto task (.calling ⟨call, vulnerability, functions,
        fun function => world.rows (call.vulnerabilityId, function)⟩ [] []))
  | call (task : Nat) (function : String) (snapshot : Snapshot) (called : List String)
      (outputs : List (String × Loaded × Bool))
      (stage : world.stage task = .calling snapshot called outputs)
      (due : function ∈ snapshot.due texts) (new : function ∉ called)
      (room : (called.length : Int) < outputs.length + snapshot.call.settings.maxConcurrency) :
      Moved texts world (.call task function)
        ((world.log (.called snapshot function)).goto task
          (.calling snapshot (function :: called) outputs))
  | answer (task : Nat) (function : String) (text : Loaded) (snapshot : Snapshot)
      (called : List String) (outputs : List (String × Loaded × Bool)) (spec : PromptSpec)
      (stage : world.stage task = .calling snapshot called outputs)
      (built : snapshot.spec texts function = .ok spec) (asked : function ∈ called)
      (new : outputs.lookup function = none) :
      Moved texts world (.answer task function (.ok text))
        ((world.goto task (.calling snapshot called
          ((function, llmSafeComplete (.ok text)) :: outputs))).log
            (.answered (snapshot.providerCall spec) text))
  | fail (task : Nat) (function : String) (error : CompleteError) (snapshot : Snapshot)
      (called : List String)
      (outputs : List (String × Loaded × Bool)) (spec : PromptSpec)
      (stage : world.stage task = .calling snapshot called outputs)
      (built : snapshot.spec texts function = .ok spec) (asked : function ∈ called)
      (new : outputs.lookup function = none) :
      Moved texts world (.answer task function (.error error))
        (world.goto task (.calling snapshot called
          ((function, llmSafeComplete (.error error)) :: outputs)))
  | gather (task : Nat) (snapshot : Snapshot) (called : List String)
      (outputs : List (String × Loaded × Bool))
      (stage : world.stage task = .calling snapshot called outputs)
      (complete : (snapshot.due texts).all fun function => (outputs.lookup function).isSome) :
      Moved texts world (.gather task)
        (world.goto task (.writing snapshot outputs (snapshot.due texts) []))
  | timeout (task : Nat) (snapshot : Snapshot) (called : List String)
      (outputs : List (String × Loaded × Bool))
      (stage : world.stage task = .calling snapshot called outputs)
      (due : snapshot.due texts ≠ []) :
      Moved texts world (.timeout task)
        (world.goto task (.writing snapshot outputs (snapshot.due texts) []))
  | upsert (task : Nat) (clock now : Timestamp) (snapshot : Snapshot)
      (outputs : List (String × Loaded × Bool)) (function : String) (todo : List String)
      (written : List (String × CachedEnrichment)) (outcome : Outcome) (spec : PromptSpec)
      (stage : world.stage task = .writing snapshot outputs (function :: todo) written)
      (settled : settle texts snapshot.finding (outputs.lookup function) = some outcome)
      (built : snapshot.spec texts function = .ok spec)
      (free : world.locks (snapshot.call.vulnerabilityId, function) = none) :
      Moved texts world (.upsert task clock now)
        (((world.log (.upserted snapshot function)).lock task
          (snapshot.call.vulnerabilityId, function)).goto task (.writing snapshot outputs todo
            (((values snapshot.call.vulnerabilityId snapshot.vulnerability.tenantId function
              (snapshot.identity texts spec) outcome clock).upsert outcome now
                (world.rows (snapshot.call.vulnerabilityId, function))).toList.map
                  (fun row => (function, row)) ++ written)))
  | unsettled (task : Nat) (clock now : Timestamp) (snapshot : Snapshot)
      (outputs : List (String × Loaded × Bool)) (function : String) (todo : List String)
      (written : List (String × CachedEnrichment))
      (stage : world.stage task = .writing snapshot outputs (function :: todo) written) :
      Moved texts world (.upsert task clock now) (world.release task)
  | commit (task : Nat) (snapshot : Snapshot) (outputs : List (String × Loaded × Bool))
      (written : List (String × CachedEnrichment))
      (stage : world.stage task = .writing snapshot outputs [] written) :
      Moved texts world (.commit task)
        ((world.publish snapshot.call.vulnerabilityId written).release task)
  | rollback (task : Nat) : Moved texts world (.rollback task) (world.release task)
  | edit (vulnerabilityId : VulnerabilityId) (columns : VulnerabilityColumns)
      (row : Vulnerability) (found : world.vulnerabilities vulnerabilityId = some row) :
      Moved texts world (.edit vulnerabilityId columns)
        { world with
          vulnerabilities :=
            Function.update world.vulnerabilities vulnerabilityId (some (columns.write row)) }

theorem step_moved (taken : step texts world label = some next) :
    Moved texts world label next := by
  cases label with
  | start task call =>
      simp only [step] at taken
      split at taken
      next new =>
        split at taken
        next => cases taken; exact .refused task call new
        next => cases taken; exact .start task call new
      next => cases taken
  | load task =>
      simp only [step] at taken
      split at taken
      next call stage =>
        split at taken
        next => cases taken; exact .unfound task call stage
        next vulnerability found =>
          split at taken
          next => cases taken; exact .unfound task call stage
          next level tenant =>
            cases taken
            exact .load task call vulnerability level stage found tenant
      next => cases taken
  | read task =>
      simp only [step] at taken
      split at taken
      next call vulnerability level stage =>
        split at taken
        next => cases taken; exact .unbuilt task call vulnerability level stage
        next functions listed =>
          split at taken
          next buildable =>
            cases taken
            exact .read task call vulnerability level functions stage listed buildable
          next => cases taken; exact .unbuilt task call vulnerability level stage
      next => cases taken
  | call task function =>
      simp only [step] at taken
      split at taken
      next snapshot called outputs stage =>
        split at taken
        next sent =>
          cases taken
          exact .call task function snapshot called outputs stage sent.1 sent.2.1 sent.2.2
        next => cases taken
      next => cases taken
  | answer task function completion =>
      simp only [step] at taken
      split at taken
      next snapshot called outputs stage =>
        split at taken
        next => cases taken
        next spec built =>
          split at taken
          next asked =>
            cases completion with
            | ok text =>
                cases taken
                exact .answer task function text snapshot called outputs spec stage built asked.1
                  asked.2
            | error error =>
                cases taken
                exact .fail task function error snapshot called outputs spec stage built asked.1
                  asked.2
          next => cases taken
      next => cases taken
  | gather task =>
      simp only [step] at taken
      split at taken
      next snapshot called outputs stage =>
        split at taken
        next complete =>
          cases taken
          exact .gather task snapshot called outputs stage complete
        next => cases taken
      next => cases taken
  | timeout task =>
      simp only [step] at taken
      split at taken
      next snapshot called outputs stage =>
        split at taken
        next => cases taken
        next due =>
          cases taken
          exact .timeout task snapshot called outputs stage due
      next => cases taken
  | upsert task clock now =>
      simp only [step] at taken
      split at taken
      next snapshot outputs function todo written stage =>
        split at taken
        next outcome spec settled built =>
          split at taken
          next => cases taken
          next free =>
            cases taken
            exact .upsert task clock now snapshot outputs function todo written outcome spec stage
              settled built free
        next =>
          cases taken
          exact .unsettled task clock now snapshot outputs function todo written stage
      next => cases taken
  | commit task =>
      simp only [step] at taken
      split at taken
      next snapshot outputs written stage =>
        cases taken
        exact .commit task snapshot outputs written stage
      next => cases taken
  | rollback task =>
      cases taken
      exact .rollback task
  | edit vulnerabilityId columns =>
      obtain ⟨row, found, rfl⟩ := Option.map_eq_some_iff.mp taken
      exact .edit vulnerabilityId columns row found

end

/-! What a row says of the run that wrote it. -/

section

variable (texts : Texts)

/-- The content is what the citation check leaves of an output, which the provider returned for the
prompt of the function on a finding with the hash, version and model of the row. -/
def Provenance (history : List Event) (function : String) (row : CachedEnrichment) : Prop :=
  ∃ finding language spec call text,
    buildPrompt texts function finding language = .ok spec ∧
    Event.answered call (.str (codePoints text)) ∈ history ∧
    call.prompt = spec.user ∧ call.systemPrompt = spec.system ∧
    row.inputHash = some (inputHash texts finding language) ∧
    row.promptVersion = some spec.version ∧ row.model = some call.model ∧
    row.content = some (checkCitations texts text finding).text

structure Consistent (history : List Event) (function : String) (row : CachedEnrichment) :
    Prop where
  identified : row.inputHash.isSome ∧ row.promptVersion.isSome ∧ row.model.isSome
  ok : row.status = .ok → row.error = none ∧ Provenance texts history function row
  failed : row.status = .failed → row.error ≠ none

/-- What a run has from the provider. -/
def Outputs (history : List Event) (snapshot : Snapshot) (outputs : List (String × Loaded × Bool)) :
    Prop :=
  ∀ function text, outputs.lookup function = some (text, false) →
    ∃ spec, snapshot.spec texts function = .ok spec ∧
      Event.answered (snapshot.providerCall spec) text ∈ history

/-- A version that waits for its commit was made from the committed row, under the lock. -/
def Pending (world : World) (task : Nat) (snapshot : Snapshot)
    (outputs : List (String × Loaded × Bool)) (function : String) (row : CachedEnrichment) : Prop :=
  let key := (snapshot.call.vulnerabilityId, function)
  world.locks key = some task ∧ ∃ outcome spec clock now,
    settle texts snapshot.finding (outputs.lookup function) = some outcome ∧
    snapshot.spec texts function = .ok spec ∧
    (values key.1 snapshot.vulnerability.tenantId function (snapshot.identity texts spec) outcome
      clock).upsert outcome now (world.rows key) = some row

def Stage.Sound (world : World) (task : Nat) : Stage → Prop
  | calling snapshot _ outputs => Outputs texts world.history snapshot outputs
  | writing snapshot outputs todo written =>
      Outputs texts world.history snapshot outputs ∧ todo ⊆ snapshot.due texts ∧
        (written.map Prod.fst).Nodup ∧
        ∀ entry ∈ written, Pending texts world task snapshot outputs entry.1 entry.2
  | _ => True

/-- A call of the provider or an upsert is for a function that is due. -/
def Event.Due : Event → Prop
  | called snapshot function => function ∈ snapshot.due texts
  | answered _ _ => True
  | upserted snapshot function => function ∈ snapshot.due texts

structure Sound (world : World) : Prop where
  rows : ∀ key row, world.rows key = some row → Consistent texts world.history key.2 row
  attempts : ∀ key, world.stored.count key = ((world.rows key).map (·.attempts)).getD 0
  staged : ∀ task, (world.stage task).Sound texts world task
  due : ∀ event ∈ world.history, event.Due texts

end

section

variable {texts : Texts} {world next : World} {task : Nat} {history more : List Event}
  {function : String} {row written : CachedEnrichment} {snapshot : Snapshot}
  {outputs : List (String × Loaded × Bool)} {outcome : Outcome} {spec : PromptSpec}

theorem Provenance.mono (holds : Provenance texts history function row) (grown : history ⊆ more) :
    Provenance texts more function row := by
  obtain ⟨finding, language, spec, call, text, built, answered, rest⟩ := holds
  exact ⟨finding, language, spec, call, text, built, grown answered, rest⟩

theorem Consistent.mono (holds : Consistent texts history function row) (grown : history ⊆ more) :
    Consistent texts more function row :=
  ⟨holds.identified, fun ok => ⟨(holds.ok ok).1, (holds.ok ok).2.mono grown⟩, holds.failed⟩

theorem Outputs.mono (holds : Outputs texts history snapshot outputs) (grown : history ⊆ more) :
    Outputs texts more snapshot outputs := by
  intro function text given
  obtain ⟨spec, built, answered⟩ := holds function text given
  exact ⟨spec, built, grown answered⟩

/-- An output that is not a failure is one that the provider returned. -/
theorem Outputs.answer (holds : Outputs texts history snapshot outputs)
    (built : snapshot.spec texts function = .ok spec) {completion : Completion}
    (answered : ∀ text, completion = .ok text →
      Event.answered (snapshot.providerCall spec) text ∈ history) :
    Outputs texts history snapshot ((function, llmSafeComplete completion) :: outputs) := by
  intro other text given
  by_cases same : other = function
  · subst same
    rw [List.lookup_cons_self] at given
    cases completion with
    | ok returned =>
        cases given
        exact ⟨spec, built, answered _ rfl⟩
    | error error => cases given
  · rw [List.lookup_cons, beq_false_of_ne same] at given
    exact holds other text given

/-- A success has its content from an output. -/
theorem settle_succeeded {finding : EnrichmentInput} {output : Option (Loaded × Bool)}
    {content : String} (given : settle texts finding output = some (.succeeded content)) :
    ∃ text, output = some (.str (codePoints text), false) ∧
      content = (checkCitations texts text finding).text := by
  unfold settle at given
  split at given
  next => cases given
  next => cases given
  next codes =>
    split at given
    next => cases given
    next =>
      obtain ⟨text, read, given⟩ := Option.bind_eq_some_iff.mp given
      simp only at given
      split at given
      next =>
        cases given
        exact ⟨text, by rw [LoadedText.encoded_some read], rfl⟩
      next => cases given
  next => cases given

/-- Whatever row it finds, an upsert leaves a consistent one, with one more attempt. -/
theorem upsert_consistent {vulnerabilityId : VulnerabilityId} {tenantId : TenantId}
    {clock now : Timestamp} {found : Option CachedEnrichment}
    (outputsHold : Outputs texts history snapshot outputs)
    (settled : settle texts snapshot.finding (outputs.lookup function) = some outcome)
    (built : snapshot.spec texts function = .ok spec)
    (upserted : (values vulnerabilityId tenantId function (snapshot.identity texts spec) outcome
      clock).upsert outcome now found = some written) :
    Consistent texts history function written ∧
      written.attempts = (found.map (·.attempts)).getD 0 + 1 := by
  cases outcome with
  | succeeded content =>
      have columns : written.status = .ok ∧ written.error = none ∧
          written.content = some content ∧
          written.inputHash = some (snapshot.digest texts) ∧
          written.promptVersion = some spec.version ∧
          written.model = some snapshot.call.settings.model ∧
          written.attempts = (found.map (·.attempts)).getD 0 + 1 := by
        cases found with
        | none =>
            cases upserted
            exact ⟨rfl, rfl, rfl, rfl, rfl, rfl, rfl⟩
        | some row =>
            cases upserted
            exact ⟨rfl, rfl, rfl, rfl, rfl, rfl, rfl⟩
      obtain ⟨status, error, stored, hash, version, model, attempts⟩ := columns
      refine ⟨⟨?_, ?_, ?_⟩, attempts⟩
      · simp [hash, version, model]
      · intro _
        obtain ⟨text, output, rfl⟩ := settle_succeeded settled
        obtain ⟨spec', built', answered⟩ := outputsHold function _ output
        cases built.symm.trans built'
        exact ⟨error, snapshot.finding, _, spec, _, text, built, answered, rfl, rfl, hash, version,
          model, stored⟩
      · intro failed
        rw [status] at failed
        cases failed
  | failed reason =>
      have columns : written.status = .failed ∧ written.error = some reason ∧
          written.inputHash = some (snapshot.digest texts) ∧
          written.promptVersion = some spec.version ∧
          written.model = some snapshot.call.settings.model ∧
          written.attempts = (found.map (·.attempts)).getD 0 + 1 := by
        cases found with
        | none =>
            cases upserted
            exact ⟨rfl, rfl, rfl, rfl, rfl, rfl⟩
        | some row =>
            simp only [CachedEnrichment.upsert] at upserted
            split at upserted
            next => cases upserted
            next =>
              cases upserted
              exact ⟨rfl, rfl, rfl, rfl, rfl, rfl⟩
      obtain ⟨status, error, hash, version, model, attempts⟩ := columns
      refine ⟨⟨?_, ?_, ?_⟩, attempts⟩
      · simp [hash, version, model]
      · intro ok
        rw [status] at ok
        cases ok
      · intro _
        simp [error]

/-- What a run has in hand is not touched by steps that leave its locks and their rows alone. -/
theorem Stage.Sound.mono {stage : Stage} (sound : stage.Sound texts world task)
    (grown : world.history ⊆ next.history)
    (kept : ∀ key, world.locks key = some task →
      next.locks key = some task ∧ next.rows key = world.rows key) :
    stage.Sound texts next task := by
  cases stage with
  | calling snapshot called outputs => exact Outputs.mono sound grown
  | writing snapshot outputs todo written =>
      obtain ⟨outputsHold, left, distinct, pending⟩ := sound
      refine ⟨outputsHold.mono grown, left, distinct, ?_⟩
      intro entry member
      obtain ⟨held, outcome, spec, clock, now, settled, built, upserted⟩ := pending entry member
      obtain ⟨held', row⟩ := kept _ held
      exact ⟨held', outcome, spec, clock, now, settled, built, row ▸ upserted⟩
  | idle => trivial
  | checked call => trivial
  | loaded call vulnerability level => trivial
  | ended => trivial

theorem Sound.goto (sound : Sound texts world) {stage : Stage}
    (staged : stage.Sound texts world task) : Sound texts (world.goto task stage) := by
  refine ⟨sound.rows, sound.attempts, ?_, sound.due⟩
  intro other
  by_cases same : other = task
  · subst same
    simp only [World.goto, Function.update_self]
    exact staged.mono (fun _ member => member) fun _ held => ⟨held, rfl⟩
  · simp only [World.goto, Function.update_of_ne same]
    exact (sound.staged other).mono (fun _ member => member) fun _ held => ⟨held, rfl⟩

theorem Sound.log (sound : Sound texts world) {event : Event} (due : event.Due texts) :
    Sound texts (world.log event) := by
  have grown : world.history ⊆ event :: world.history := List.subset_cons_self _ _
  refine ⟨?_, sound.attempts, ?_, ?_⟩
  · intro key row found
    exact (sound.rows key row found).mono grown
  · intro other
    exact (sound.staged other).mono grown fun _ held => ⟨held, rfl⟩
  · intro other member
    rcases List.mem_cons.mp member with rfl | member
    · exact due
    · exact sound.due other member

/-- A free row can be locked. -/
theorem Sound.lock (sound : Sound texts world) {key : Key} (free : world.locks key = none) :
    Sound texts (world.lock task key) := by
  refine ⟨sound.rows, sound.attempts, ?_, sound.due⟩
  intro other
  refine (sound.staged other).mono (fun _ member => member) ?_
  intro held locked
  refine ⟨?_, rfl⟩
  have differ : held ≠ key := by
    intro same
    rw [same, free] at locked
    cases locked
  simpa only [World.lock, Function.update_of_ne differ] using locked

theorem Sound.release (sound : Sound texts world) : Sound texts (world.release task) := by
  refine ⟨sound.rows, sound.attempts, ?_, sound.due⟩
  intro other
  by_cases same : other = task
  · subst same
    simp only [World.release, Function.update_self]
    trivial
  · simp only [World.release, Function.update_of_ne same]
    refine (sound.staged other).mono (fun _ member => member) ?_
    intro key held
    refine ⟨?_, rfl⟩
    have kept : world.locks key ≠ some task := by
      intro mine
      exact same (Option.some.inj (held.symm.trans mine))
    simpa only [World.release, if_neg kept] using held

/-- The row of a key after a commit is the version of the run, if it has one, or the row before. -/
theorem publish_rows {vulnerabilityId : VulnerabilityId}
    {versions : List (String × CachedEnrichment)} {key : Key}
    (found : (world.publish vulnerabilityId versions).rows key = some row) :
    (key.1 = vulnerabilityId ∧ (key.2, row) ∈ versions) ∨ world.rows key = some row := by
  simp only [World.publish] at found
  split at found
  next same =>
    cases version : versions.lookup key.2 with
    | none =>
        rw [version] at found
        exact .inr found
    | some version' =>
        rw [version] at found
        cases found
        obtain ⟨before, after, rfl, _⟩ := List.lookup_eq_some_iff.mp version
        exact .inl ⟨same, by simp⟩
  next => exact .inr found

/-- A commit counts once for each of its versions. -/
theorem count_published {vulnerabilityId : VulnerabilityId}
    {versions : List (String × CachedEnrichment)} (distinct : (versions.map Prod.fst).Nodup)
    (key : Key) :
    (versions.map fun entry => (vulnerabilityId, entry.1)).count key =
      if key.1 = vulnerabilityId ∧ key.2 ∈ versions.map Prod.fst then 1 else 0 := by
  obtain ⟨id, function⟩ := key
  have shape : (versions.map fun entry => (vulnerabilityId, entry.1)) =
      (versions.map Prod.fst).map (Prod.mk vulnerabilityId) := by
    simp
  rw [shape]
  by_cases own : id = vulnerabilityId
  · subst own
    rw [List.count_map_of_injective _ _ (Prod.mk_right_injective id), distinct.count]
    simp only [true_and]
  · rw [if_neg fun both => own both.1]
    apply List.count_eq_zero_of_not_mem
    simp [Ne.symm own]

theorem Sound.commit (sound : Sound texts world) {versions : List (String × CachedEnrichment)}
    (stage : world.stage task = .writing snapshot outputs [] versions) :
    Sound texts ((world.publish snapshot.call.vulnerabilityId versions).release task) := by
  have staged := sound.staged task
  rw [stage] at staged
  obtain ⟨outputsHold, _, distinct, pending⟩ := staged
  have written : ∀ entry ∈ versions, Consistent texts world.history entry.1 entry.2 ∧
      entry.2.attempts =
        world.stored.count (snapshot.call.vulnerabilityId, entry.1) + 1 := by
    intro entry member
    obtain ⟨_, outcome, spec, clock, now, settled, built, upserted⟩ := pending entry member
    rw [sound.attempts]
    exact upsert_consistent outputsHold settled built upserted
  refine ⟨?_, ?_, ?_, sound.due⟩
  · intro key row found
    rcases publish_rows found with ⟨_, member⟩ | before
    · exact (written _ member).1
    · exact sound.rows key row before
  · intro key
    simp only [World.release, World.publish, List.count_append, count_published distinct]
    by_cases own : key.1 = snapshot.call.vulnerabilityId
    · rw [if_pos own]
      cases version : versions.lookup key.2 with
      | none =>
          have absent : key.2 ∉ versions.map Prod.fst := by
            intro member
            obtain ⟨entry, member, same⟩ := List.mem_map.mp member
            exact bne_iff_ne.mp (List.lookup_eq_none_iff.mp version entry member) same.symm
          simp [own, absent, sound.attempts key]
      | some version' =>
          obtain ⟨before, after, shape, _⟩ := List.lookup_eq_some_iff.mp version
          have member : (key.2, version') ∈ versions := by
            rw [shape]
            simp
          have there : key.2 ∈ versions.map Prod.fst := List.mem_map_of_mem member
          have attempts := (written _ member).2
          rw [← own] at attempts
          simp only [own, there, and_self, if_true, Option.some_or, Option.map_some,
            Option.getD_some]
          rw [attempts, Nat.add_comm]
    · rw [if_neg own, if_neg fun both => own both.1, Nat.zero_add]
      exact sound.attempts key
  · intro other
    by_cases same : other = task
    · subst same
      simp only [World.release, Function.update_self]
      trivial
    · simp only [World.release, Function.update_of_ne same]
      refine (sound.staged other).mono (fun _ member => member) ?_
      intro key held
      have kept : world.locks key ≠ some task := by
        intro mine
        exact same (Option.some.inj (held.symm.trans mine))
      refine ⟨?_, ?_⟩
      · change (if world.locks key = some task then none else world.locks key) = some other
        rw [if_neg kept]
        exact held
      · simp only [World.publish]
        split
        next own =>
          cases version : versions.lookup key.2 with
          | none => rfl
          | some version' =>
              obtain ⟨before, after, shape, _⟩ := List.lookup_eq_some_iff.mp version
              have member : (key.2, version') ∈ versions := by
                rw [shape]
                simp
              have mine := (pending _ member).1
              rw [← own] at mine
              exact absurd mine kept
        next => rfl

/-- An upsert adds to the versions of its run the one that it makes of the row as it is, if any. -/
theorem Sound.upsert (sound : Sound texts world) {todo : List String}
    {versions : List (String × CachedEnrichment)} {clock now : Timestamp}
    (stage : world.stage task = .writing snapshot outputs (function :: todo) versions)
    (settled : settle texts snapshot.finding (outputs.lookup function) = some outcome)
    (built : snapshot.spec texts function = .ok spec)
    (free : world.locks (snapshot.call.vulnerabilityId, function) = none) :
    let key := (snapshot.call.vulnerabilityId, function)
    let row := (values key.1 snapshot.vulnerability.tenantId function (snapshot.identity texts spec)
      outcome clock).upsert outcome now (world.rows key)
    Sound texts (((world.log (.upserted snapshot function)).lock task key).goto task
      (.writing snapshot outputs todo (row.toList.map (fun row => (function, row)) ++ versions))) := by
  intro key row
  have staged := sound.staged task
  rw [stage] at staged
  obtain ⟨outputsHold, left, distinct, pending⟩ := staged
  have due : (Event.upserted snapshot function).Due texts := left List.mem_cons_self
  have locked : Sound texts ((world.log (.upserted snapshot function)).lock task key) :=
    (sound.log due).lock free
  have held : ((world.log (.upserted snapshot function)).lock task key).locks key = some task := by
    simp [World.lock]
  have before : ∀ entry ∈ versions, entry.1 ≠ function ∧ Pending texts
      ((world.log (.upserted snapshot function)).lock task key) task snapshot outputs
      entry.1 entry.2 := by
    intro entry member
    obtain ⟨mine, made⟩ := pending entry member
    have differ : entry.1 ≠ function := by
      intro same
      rw [same, free] at mine
      cases mine
    have keys : (snapshot.call.vulnerabilityId, entry.1) ≠ key := by
      simp [key, differ]
    refine ⟨differ, ?_, made⟩
    simpa only [World.lock, World.log, Function.update_of_ne keys] using mine
  apply locked.goto
  refine ⟨outputsHold.mono (List.subset_cons_self _ _),
    List.Subset.trans (List.subset_cons_self _ _) left, ?_, ?_⟩
  · cases row with
    | none => exact distinct
    | some version =>
        simp only [Option.toList_some, List.map_cons, List.map_nil, List.singleton_append,
          List.nodup_cons]
        refine ⟨?_, distinct⟩
        intro member
        obtain ⟨entry, member, same⟩ := List.mem_map.mp member
        exact (before entry member).1 same
  · intro entry member
    rcases List.mem_append.mp member with member | member
    · obtain ⟨version, made, rfl⟩ := List.mem_map.mp member
      exact ⟨held, outcome, spec, clock, now, settled, built, Option.mem_toList.mp made⟩
    · exact (before entry member).2

theorem Sound.step (sound : Sound texts world) {label : Label}
    (taken : step texts world label = some next) : Sound texts next := by
  have calling {task : Nat} {snapshot : Snapshot} {called : List String}
      {outputs : List (String × Loaded × Bool)}
      (stage : world.stage task = .calling snapshot called outputs) :
      Outputs texts world.history snapshot outputs := by
    have staged := sound.staged task
    rw [stage] at staged
    exact staged
  cases step_moved taken with
  | refused task call => exact sound.release
  | start task call => exact sound.goto trivial
  | unfound task call => exact sound.release
  | load task call vulnerability level => exact sound.goto trivial
  | unbuilt task call vulnerability level => exact sound.release
  | read task call vulnerability level functions =>
      apply sound.goto
      intro function text given
      cases given
  | call task function snapshot called outputs stage due =>
      have due : (Event.called snapshot function).Due texts := due
      apply (sound.log due).goto
      exact Outputs.mono (calling stage) (List.subset_cons_self _ _)
  | answer task function text snapshot called outputs spec stage built =>
      have due : (Event.answered (snapshot.providerCall spec) text).Due texts := trivial
      have answered : Outputs texts (world.log
          (.answered (snapshot.providerCall spec) text)).history snapshot
          ((function, llmSafeComplete (.ok text)) :: outputs) := by
        apply Outputs.answer ((calling stage).mono (List.subset_cons_self _ _)) built
        intro other same
        cases same
        exact List.mem_cons_self
      exact (sound.log due).goto answered
  | fail task function error snapshot called outputs spec stage built =>
      apply sound.goto
      apply Outputs.answer (calling stage) built
      intro other same
      cases same
  | gather task snapshot called outputs stage =>
      exact sound.goto ⟨calling stage, List.Subset.refl _, List.nodup_nil, by simp⟩
  | timeout task snapshot called outputs stage =>
      exact sound.goto ⟨calling stage, List.Subset.refl _, List.nodup_nil, by simp⟩
  | upsert task clock now snapshot outputs function todo written outcome spec stage settled built
      free =>
      exact sound.upsert stage settled built free
  | unsettled task clock now snapshot outputs function todo written => exact sound.release
  | commit task snapshot outputs written stage => exact sound.commit stage
  | rollback task => exact sound.release
  | edit vulnerabilityId columns row =>
      refine ⟨sound.rows, sound.attempts, ?_, sound.due⟩
      intro other
      exact (sound.staged other).mono (fun _ member => member) fun _ held => ⟨held, rfl⟩

theorem Sound.reachable (reached : (machine texts).Reachable world) : Sound texts world := by
  apply reached.invariant
  · rintro state ⟨vulnerabilities, levels, rfl⟩
    refine ⟨?_, fun _ => rfl, fun _ => trivial, ?_⟩
    · intro key row found
      cases found
    · intro event member
      cases member
  · intro state next label _ before _ taken
    exact before.step taken

/-- Every row tells where it comes from and how often it was written, and a run with nothing to do
does nothing. -/
theorem enrichment_provenance (reached : (machine texts).Reachable world) :
    (∀ vulnerabilityId function row, world.rows (vulnerabilityId, function) = some row →
      (row.status = .ok → row.error = none ∧
        ∃ finding language spec call text,
          buildPrompt texts function finding language = .ok spec ∧
          Event.answered call (.str (codePoints text)) ∈ world.history ∧
          call.prompt = spec.user ∧ call.systemPrompt = spec.system ∧
          row.inputHash = some (inputHash texts finding language) ∧
          row.promptVersion = some spec.version ∧ row.model = some call.model ∧
          row.content = some (checkCitations texts text finding).text) ∧
      (row.status = .failed → row.error ≠ none) ∧
      row.attempts = world.stored.count (vulnerabilityId, function)) ∧
    ∀ snapshot : Snapshot,
      (∀ function ∈ snapshot.targets, ∃ row version, snapshot.existing function = some row ∧
        promptVersions function = some version ∧
        row.IsOkFor ⟨snapshot.digest texts, version, snapshot.call.settings.model⟩) →
      ∀ function, Event.called snapshot function ∉ world.history ∧
        Event.upserted snapshot function ∉ world.history := by
  have sound := Sound.reachable reached
  constructor
  · intro vulnerabilityId function row found
    have consistent := sound.rows _ _ found
    refine ⟨consistent.ok, consistent.failed, ?_⟩
    rw [sound.attempts, found]
    rfl
  · intro snapshot allOk
    have nothing : ∀ function, function ∉ snapshot.due texts := by
      intro function due
      have targeted : function ∈ snapshot.targets := (List.mem_filter.mp due).1
      obtain ⟨row, version, found, listed, ok⟩ := allOk function targeted
      exact ((mem_dueFunctions listed).mp due).2 row found ok
    intro function
    constructor
    · intro member
      exact nothing function (sound.due _ member)
    · intro member
      exact nothing function (sound.due _ member)

end

/-! A finding, before and after a change of its description. -/

def oldPayload : String :=
  "\x7b\"cve_id\":null,\"cvss_score\":null,\"cwe_ids\":[],\"description\":\"Old banner\"," ++
    "\"host\":null,\"language\":\"en\",\"port\":null,\"protocol\":null,\"script_id\":null," ++
    "\"severity\":\"high\",\"title\":\"Outdated server\"\x7d"

def newPayload : String :=
  "\x7b\"cve_id\":null,\"cvss_score\":null,\"cwe_ids\":[],\"description\":\"New banner\"," ++
    "\"host\":null,\"language\":\"en\",\"port\":null,\"protocol\":null,\"script_id\":null," ++
    "\"severity\":\"high\",\"title\":\"Outdated server\"\x7d"

/-- Python's functions, as far as the finding and the outputs below need them. -/
def plainTexts : Texts where
  str _ := "None"
  repr text := "'" ++ text ++ "'"
  upper := String.toUpper
  isDigit := Char.isDigit
  isWord char := char.isAlphanum || char == '_'
  dumps value :=
    match value with
    | .obj (_ :: (_, .str "Old banner") :: _) => oldPayload
    | _ => newPayload
  sha256 text :=
    if text = oldPayload then "354b1a76758c10216ad71f3d876c0f073a9033fc9eacb15139351b8d6447d2a7"
    else "344cff0626482a895cd67633b28b5f5fa51048a6ce18b805fdffcf956b8eff2e"

def oldServer : Vulnerability :=
  ⟨1, 3, "Outdated server", some "Old banner", .high, .opened, none, none, none, none, 100, 100⟩

def newBanner : VulnerabilityColumns :=
  ⟨none, none, some (some "New banner"), none, none, some 200⟩

def remediate : EnrichCall :=
  ⟨7, 1, some ["remediation"], ⟨"gpt-4o", "en", 3, 120, 2048, 1 / 10⟩⟩

def servers : World :=
  .initial (fun id => if id = 7 then some oldServer else none) fun _ => some "basic"

/-- The run of a task up to its commit. -/
def snapshotOf (task : Nat) : List Label :=
  [.start task remediate, .load task, .read task]

def generate (task : Nat) (text : String) : List Label :=
  [.call task "remediation", .answer task "remediation" (.ok (.str (codePoints text))), .gather task,
    .upsert task 300 300]

theorem enrichment_provenance_remediation :
    ∃ world row, (machine plainTexts).exec servers
        (snapshotOf 1 ++ generate 1 "Fix CWE-79." ++ [.commit 1]) = some world ∧
      world.rows (7, "remediation") = some row ∧ row.status = .ok ∧
      row.content = some "Fix [unverified reference removed]." ∧ row.error = none ∧
      row.attempts = world.stored.count (7, "remediation") := by
  have run : ∃ world row, (machine plainTexts).exec servers
        (snapshotOf 1 ++ generate 1 "Fix CWE-79." ++ [.commit 1]) = some world ∧
      world.rows (7, "remediation") = some row ∧ row.status = .ok ∧
      row.content = some "Fix [unverified reference removed]." :=
    ⟨_, _, rfl, rfl, rfl, rfl⟩
  obtain ⟨world, row, run, found, ok, content⟩ := run
  have reached : (machine plainTexts).Reachable world :=
    Machine.Reachable.exec (.start ⟨_, _, rfl⟩) run
  obtain ⟨success, _, attempts⟩ := (enrichment_provenance reached).1 7 "remediation" row found
  exact ⟨world, row, run, found, ok, content, (success ok).1, attempts⟩

end Enrichment
