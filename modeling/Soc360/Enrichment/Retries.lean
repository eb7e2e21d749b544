import Soc360.Enrichment.Isolation

set_option autoImplicit false

/-! The deliveries of one message of `enrichment.vulnerability`: the run of each, its retries, and
what others write between them. -/

namespace Enrichment.Retries

open Scans (Timestamp)
open Vulnerabilities (Vulnerability)

/-- `max_retries`. -/
def maxRetries : Nat := 3

def retryCountdown (retries : Nat) : Nat := 30 * 2 ^ retries

/-- What every delivery of the message has to go by. -/
structure Message where
  texts : Texts
  provider : HttpProvider
  call : EnrichCall
  enabled : Bool

/-- What becomes of the transaction of a run: its commit is answered, the answer does not come, or
the worker is lost after it, before it acknowledges the message, or killed at the time limit. -/
inductive Fate where
  | committed
  | unanswered
  | lost
  | killed

inductive Ending where
  | disabled
  | ignored
  | complete
  | exhausted
  | raised
  | rejected
  | timedOut
  deriving DecidableEq

inductive Stage where
  | queued
  | ended (ending : Ending)
  deriving DecidableEq

/-- `loaded` and `rows` are committed. `settled` is the result of the last run, as long as nobody
else has written since; `deliveries` and `losses` count the runs and the workers lost. -/
structure World where
  loaded : Option (Vulnerability × String)
  rows : String → Option CachedEnrichment
  retries : Nat
  stage : Stage
  countdowns : List Nat
  deliveries : Nat
  losses : Nat
  settled : Option EnrichmentRunResult

/-- `published` tells whether the broker takes the retry. A run that is killed at `time_limit` is
acknowledged. -/
inductive Label where
  | deliver (behaviour : Behaviour) (clock : String → Timestamp) (now : Timestamp) (fate : Fate)
      (published : Bool)
  | crash (published : Bool)
  | timeLimit
  | lose
  | others (loaded : Option (Vulnerability × String)) (rows : String → Option CachedEnrichment)

def initial (loaded : Option (Vulnerability × String)) (rows : String → Option CachedEnrichment) :
    World :=
  ⟨loaded, rows, 0, .queued, [], 0, 0, none⟩

/-- The rows once those of a run are committed. -/
def publish (rows : String → Option CachedEnrichment) (written : List (String × CachedEnrichment))
    (function : String) : Option CachedEnrichment :=
  (written.lookup function).or (rows function)

namespace World

variable (world : World)

def finish (ending : Ending) : World := { world with stage := .ended ending }

/-- `self.retry(countdown=retry_countdown(self.request.retries))`. -/
def retry (published : Bool) : World :=
  if published then
    { world with
      retries := world.retries + 1,
      countdowns := world.countdowns ++ [retryCountdown world.retries] }
  else world.finish .rejected

/-- The `except` of `enrich`. -/
def failed (published : Bool) : World :=
  if world.retries < maxRetries then world.retry published else world.finish .raised

/-- The end of `enrich`, with a result. -/
def returned (result : EnrichmentRunResult) (published : Bool) : World :=
  if result.failed = [] then world.finish .complete
  else if world.retries < maxRetries then world.retry published
  else world.finish .exhausted

def commit (result : EnrichmentRunResult) (written : List (String × CachedEnrichment)) : World :=
  { world with rows := publish world.rows written, settled := some result }

def settle (result : EnrichmentRunResult) (published : Bool) : Fate → World
  | .committed => world.returned result published
  | .unanswered => world.failed published
  | .lost => { world with losses := world.losses + 1 }
  | .killed => world.finish .timedOut

def step (message : Message) : Label → Option World
  | .deliver behaviour clock now fate published =>
      match world.stage with
      | .ended _ => none
      | .queued =>
          let delivered := { world with deliveries := world.deliveries + 1 }
          if message.enabled then
            match enrichVulnerability message.texts message.provider behaviour clock now
                message.call world.loaded world.rows with
            | .ok (result, written) =>
                some ((delivered.commit result written).settle result published fate)
            | .error .notFound => some (delivered.finish .ignored)
            | .error _ => some (delivered.failed published)
          else some (delivered.finish .disabled)
  | .crash published =>
      match world.stage with
      | .ended _ => none
      | .queued => some ({ world with deliveries := world.deliveries + 1 }.failed published)
  | .timeLimit =>
      match world.stage with
      | .ended _ => none
      | .queued => some ({ world with deliveries := world.deliveries + 1 }.finish .timedOut)
  | .lose =>
      match world.stage with
      | .ended _ => none
      | .queued =>
          some { world with deliveries := world.deliveries + 1, losses := world.losses + 1 }
  | .others loaded rows => some { world with loaded, rows, settled := none }

/-- What a delivery would find by now. -/
def snapshot (call : EnrichCall) : Option Snapshot :=
  world.loaded.bind fun (vulnerability, level) =>
    (levelFunctions level).map fun functions => ⟨call, vulnerability, functions, world.rows⟩

end World

def machine (message : Message) : Machine World Label where
  start world := ∃ loaded rows, world = initial loaded rows
  step world label := world.step message label

section

variable {texts : Texts} {provider : HttpProvider} {behaviour : Behaviour} {snapshot : Snapshot}
  {clock : String → Timestamp} {now : Timestamp} {result : EnrichmentRunResult}
  {written : List (String × CachedEnrichment)} {function language : String}
  {finding : EnrichmentInput} {spec : PromptSpec}

theorem buildPrompt_version (built : buildPrompt texts function finding language = .ok spec) :
    promptVersions function = some spec.version := by
  unfold buildPrompt at built
  split at built
  next version _ listed _ =>
    split at built
    next => cases built
    next =>
      cases built
      exact listed
  next => cases built

theorem lookup_filterMap {β : Type} (listed : List String) (row : String → Option β)
    (key : String) :
    (listed.filterMap fun item => (row item).map (item, ·)).lookup key =
      if key ∈ listed then row key else none := by
  induction listed with
  | nil => rfl
  | cons item rest ih =>
    by_cases same : key = item
    · subst same
      rw [if_pos List.mem_cons_self]
      cases found : row key with
      | none =>
        rw [List.filterMap_cons_none (by rw [found, Option.map_none]), ih, found, ite_self]
      | some value =>
        rw [List.filterMap_cons_some (by rw [found, Option.map_some]), List.lookup_cons_self]
    · have listed : (key ∈ item :: rest) = (key ∈ rest) := by
        rw [List.mem_cons, eq_false same, false_or]
      simp only [listed]
      rw [← ih]
      cases found : row item with
      | none => rw [List.filterMap_cons_none (by rw [found, Option.map_none])]
      | some value =>
        rw [List.filterMap_cons_some (by rw [found, Option.map_some]), List.lookup_cons,
          beq_eq_false_iff_ne.mpr same]

/-- What a run that returned had for each due function, and what it wrote. -/
structure Ran (texts : Texts) (snapshot : Snapshot) (result : EnrichmentRunResult)
    (rows : String → Option CachedEnrichment) (specs : String → PromptSpec)
    (outcomes : String → Outcome) (clock : String → Timestamp) (now : Timestamp) : Prop where
  built : ∀ function ∈ snapshot.due texts, snapshot.spec texts function = .ok (specs function)
  failed : result.failed =
    (snapshot.due texts).filter fun function => (outcomes function).status != .ok
  rows : ∀ function, rows function = if function ∈ snapshot.due texts then
    (snapshot.row texts clock now function (specs function) (outcomes function)).or
      (snapshot.existing function) else snapshot.existing function

theorem run_ran
    (returned : snapshot.run texts provider behaviour clock now = .ok (result, written)) :
    ∃ specs outcomes, Ran texts snapshot result (publish snapshot.existing written) specs outcomes
      clock now := by
  have spec : Nonempty PromptSpec := ⟨⟨"", "", "", ""⟩⟩
  have outcome : Nonempty Outcome := ⟨.failed ""⟩
  have each : ∀ function ∈ snapshot.due texts, ∃ spec,
      snapshot.spec texts function = .ok spec := by
    intro function due
    unfold Snapshot.run at returned
    cases all : (snapshot.due texts).mapM (snapshot.specItem texts) with
    | error error =>
      simp only [all, bind, Except.bind] at returned
      cases returned
    | ok specs =>
      obtain ⟨item, found⟩ := mapM_ok_mem all function due
      unfold Snapshot.specItem at found
      cases built : snapshot.spec texts function with
      | error error =>
        rw [built] at found
        cases found
      | ok spec => exact ⟨spec, rfl⟩
  choose! specs built using each
  have settles := (run_returns_iff built).mp ⟨_, returned⟩
  choose! outcomes settled using settles
  have prompts := specs_built built
  have outputs := outputs_built specs settled
  simp only [Snapshot.run, prompts, outputs, bind, Except.bind, pure, Except.pure,
    Except.ok.injEq, Prod.mk.injEq] at returned
  obtain ⟨rfl, rfl⟩ := returned
  refine ⟨specs, outcomes, built, ?_, ?_⟩
  · simp only [List.filter_map, List.map_map, Function.comp_def, List.map_id']
  · intro function
    simp only [publish, List.filterMap_map, Function.comp_def]
    rw [lookup_filterMap]
    split
    next => rfl
    next => rfl

theorem upsert_ok {excluded row : CachedEnrichment} {outcome : Outcome}
    {before : Option CachedEnrichment} {identity : Identity} (current : excluded.IsOkFor identity)
    (succeeds : outcome.status = .ok) (stored : excluded.upsert outcome now before = some row) :
    row.IsOkFor identity := by
  cases before with
  | none =>
    cases stored
    exact current
  | some found =>
    cases outcome with
    | succeeded content =>
      cases stored
      exact current
    | failed error => cases succeeds

theorem upsert_failed {excluded row : CachedEnrichment} {outcome : Outcome}
    {before : Option CachedEnrichment} (fails : excluded.status = .failed)
    (stored : excluded.upsert outcome now before = some row) : row.status = .failed := by
  cases before with
  | none =>
    cases stored
    exact fails
  | some found =>
    cases outcome with
    | succeeded content =>
      cases stored
      exact fails
    | failed error =>
      simp only [CachedEnrichment.upsert] at stored
      split at stored
      next => cases stored
      next =>
        cases stored
        exact fails

/-- The row of a due function, once the run is committed: it is current if and only if the outcome
is a success. -/
theorem Ran.row_due {rows : String → Option CachedEnrichment} {specs : String → PromptSpec}
    {outcomes : String → Outcome} (ran : Ran texts snapshot result rows specs outcomes clock now)
    (due : function ∈ snapshot.due texts) :
    (∀ row, rows function = some row →
      ¬row.IsOkFor (snapshot.identity texts (specs function))) ↔
      (outcomes function).status ≠ .ok := by
  have version : promptVersions function = some (specs function).version :=
    buildPrompt_version (ran.built function due)
  have stale := ((mem_dueFunctions version).mp due).2
  rw [ran.rows function, if_pos due]
  constructor
  · intro none ok
    cases stored : snapshot.row texts clock now function (specs function) (outcomes function) with
    | none =>
      -- A success is always stored.
      unfold Snapshot.row at stored
      cases outcome : outcomes function with
      | succeeded content =>
        rw [outcome] at stored
        cases found : snapshot.existing function with
        | none =>
          rw [found] at stored
          cases stored
        | some row =>
          rw [found] at stored
          cases stored
      | failed error =>
        rw [outcome] at ok
        cases ok
    | some row =>
      refine none row (by rw [stored]; rfl) (upsert_ok ?_ ok stored)
      exact ⟨ok, rfl, rfl, rfl⟩
  · intro fails row found current
    have failed : (outcomes function).status = .failed := by
      cases outcome : outcomes function with
      | succeeded content =>
        rw [outcome] at fails
        exact absurd rfl fails
      | failed error => rfl
    cases stored : snapshot.row texts clock now function (specs function) (outcomes function) with
    | none =>
      rw [stored] at found
      exact stale row found current
    | some written =>
      rw [stored] at found
      cases found
      have status := upsert_failed failed stored
      rw [current.1] at status
      cases status

/-- After a run, what is due is what it has failed at. -/
theorem due_iff_failed
    (returned : snapshot.run texts provider behaviour clock now = .ok (result, written)) :
    function ∈ { snapshot with existing := publish snapshot.existing written }.due texts ↔
      function ∈ result.failed := by
  obtain ⟨specs, outcomes, ran⟩ := run_ran returned
  rw [ran.failed, List.mem_filter, bne_iff_ne]
  by_cases due : function ∈ snapshot.due texts
  · have version : promptVersions function = some (specs function).version :=
      buildPrompt_version (ran.built function due)
    have targeted := ((mem_dueFunctions version).mp due).1
    rw [Snapshot.due, mem_dueFunctions version]
    constructor
    · intro still
      exact ⟨due, (ran.row_due due).mp still.2⟩
    · intro fails
      exact ⟨targeted, (ran.row_due due).mpr fails.2⟩
  · have kept : publish snapshot.existing written function = snapshot.existing function := by
      rw [ran.rows function, if_neg due]
    constructor
    · intro still
      refine absurd ?_ due
      unfold Snapshot.due dueFunctions at still ⊢
      obtain ⟨targeted, stale⟩ := List.mem_filter.mp still
      refine List.mem_filter.mpr ⟨targeted, ?_⟩
      simp only [kept] at stale
      exact stale
    · intro fails
      exact absurd fails.1 due

theorem enrichVulnerability_ok {call : EnrichCall} {loaded : Option (Vulnerability × String)}
    {existing : String → Option CachedEnrichment}
    (returned : enrichVulnerability texts provider behaviour clock now call loaded existing =
      .ok (result, written)) :
    ∃ vulnerability level functions, loaded = some (vulnerability, level) ∧
      levelFunctions level = some functions ∧
      Snapshot.run texts ⟨call, vulnerability, functions, existing⟩ provider behaviour clock now =
        .ok (result, written) := by
  unfold enrichVulnerability at returned
  cases checked : call.checked with
  | error message =>
    rw [checked] at returned
    cases returned
  | ok accepted =>
    rw [checked] at returned
    cases loaded with
    | none => cases returned
    | some found =>
      obtain ⟨vulnerability, level⟩ := found
      unfold functionsForLevel at returned
      cases listed : levelFunctions level with
      | none =>
        simp only [listed] at returned
        cases returned
      | some functions =>
        simp only [listed] at returned
        exact ⟨vulnerability, level, functions, rfl, listed, returned⟩

end

/-- The last result, as long as nobody else has written, tells what the next delivery would send to
the provider. -/
def World.Follows (message : Message) (world : World) (result : EnrichmentRunResult) : Prop :=
  ∃ snapshot, world.snapshot message.call = some snapshot ∧
    (∀ function, function ∈ snapshot.due message.texts ↔ function ∈ result.failed) ∧
    (world.stage = .ended .complete → result.failed = []) ∧
    (world.stage = .ended .exhausted → result.failed ≠ [])

structure World.Sound (message : Message) (world : World) : Prop where
  countdowns : world.countdowns = (List.range world.retries).map retryCountdown
  bounded : world.retries ≤ maxRetries
  exhausted : world.stage = .ended .exhausted → world.retries = maxRetries
  counted : world.deliveries = world.retries + world.losses +
    if world.stage = .queued then 0 else 1
  settled : ∀ result, world.settled = some result → world.Follows message result

section

variable {message : Message} {world next : World} {result : EnrichmentRunResult}
  {ending : Ending} {published : Bool}

/-- A delivery that has begun, before it is known how it ends. -/
structure World.Delivered (message : Message) (world : World) : Prop where
  queued : world.stage = .queued
  countdowns : world.countdowns = (List.range world.retries).map retryCountdown
  bounded : world.retries ≤ maxRetries
  counted : world.deliveries = world.retries + world.losses + 1
  settled : ∀ result, world.settled = some result → world.Follows message result

theorem World.Follows.goto {stage : Stage} (follows : world.Follows message result)
    (complete : stage = .ended .complete → result.failed = [])
    (exhausted : stage = .ended .exhausted → result.failed ≠ []) :
    { world with stage := stage }.Follows message result := by
  obtain ⟨snapshot, found, due, _⟩ := follows
  exact ⟨snapshot, found, due, complete, exhausted⟩

theorem World.Delivered.finish (delivered : world.Delivered message)
    (complete : ending = .complete → ∀ result, world.settled = some result → result.failed = [])
    (exhausted : ending = .exhausted → world.retries = maxRetries ∧
      ∀ result, world.settled = some result → result.failed ≠ []) :
    (world.finish ending).Sound message where
  countdowns := delivered.countdowns
  bounded := delivered.bounded
  exhausted is := (exhausted (Stage.ended.inj is)).1
  counted := delivered.counted
  settled result settled := (delivered.settled result settled).goto
    (fun is => complete (Stage.ended.inj is) result settled)
    (fun is => (exhausted (Stage.ended.inj is)).2 result settled)

theorem World.Delivered.retry (delivered : world.Delivered message)
    (left : world.retries < maxRetries) : (world.retry published).Sound message := by
  unfold World.retry
  split
  next =>
    refine ⟨?_, left, ?_, ?_, ?_⟩
    · show world.countdowns ++ _ = _
      rw [delivered.countdowns, List.range_succ, List.map_append, List.map_singleton]
    · intro ended
      change world.stage = _ at ended
      rw [delivered.queued] at ended
      cases ended
    · show world.deliveries = world.retries + 1 + world.losses +
        if world.stage = .queued then 0 else 1
      rw [delivered.counted, if_pos delivered.queued]
      omega
    · intro result settled
      exact delivered.settled result settled
  next => exact delivered.finish nofun nofun

theorem World.Delivered.failed (delivered : world.Delivered message) :
    (world.failed published).Sound message := by
  unfold World.failed
  split
  next left => exact delivered.retry left
  next => exact delivered.finish nofun nofun

theorem World.Delivered.lose (delivered : world.Delivered message) :
    { world with losses := world.losses + 1 }.Sound message where
  countdowns := delivered.countdowns
  bounded := delivered.bounded
  exhausted ended := by
    change world.stage = _ at ended
    rw [delivered.queued] at ended
    cases ended
  counted := by
    show world.deliveries = world.retries + (world.losses + 1) +
      if world.stage = .queued then 0 else 1
    rw [delivered.counted, if_pos delivered.queued]
    omega
  settled := delivered.settled

theorem World.Sound.delivered (sound : world.Sound message) (queued : world.stage = .queued) :
    { world with deliveries := world.deliveries + 1 }.Delivered message where
  queued := queued
  countdowns := sound.countdowns
  bounded := sound.bounded
  counted := by
    show world.deliveries + 1 = _
    rw [sound.counted, if_pos queued]
  settled := sound.settled

theorem World.Delivered.commit {behaviour : Behaviour} {clock : String → Timestamp}
    {now : Timestamp} {written : List (String × CachedEnrichment)}
    (delivered : world.Delivered message)
    (returned : enrichVulnerability message.texts message.provider behaviour clock now message.call
      world.loaded world.rows = .ok (result, written)) :
    (world.commit result written).Delivered message where
  queued := delivered.queued
  countdowns := delivered.countdowns
  bounded := delivered.bounded
  counted := delivered.counted
  settled other is := by
    cases is
    obtain ⟨vulnerability, level, functions, loaded, listed, ran⟩ :=
      enrichVulnerability_ok returned
    refine ⟨⟨message.call, vulnerability, functions, publish world.rows written⟩, ?_, ?_, ?_, ?_⟩
    · simp only [World.snapshot, World.commit, loaded, Option.bind_some, listed, Option.map_some]
    · intro function
      exact due_iff_failed ran
    · intro ended
      change world.stage = _ at ended
      rw [delivered.queued] at ended
      cases ended
    · intro ended
      change world.stage = _ at ended
      rw [delivered.queued] at ended
      cases ended

theorem World.Delivered.settle {fate : Fate} (delivered : world.Delivered message)
    (is : world.settled = some result) : (world.settle result published fate).Sound message := by
  cases fate with
  | committed =>
    change (world.returned result published).Sound message
    unfold World.returned
    split
    next nothing =>
      refine delivered.finish ?_ nofun
      intro _ other settled
      rw [is] at settled
      cases settled
      exact nothing
    next some =>
      split
      next left => exact delivered.retry left
      next spent =>
        refine delivered.finish nofun ?_
        intro _
        refine ⟨le_antisymm delivered.bounded (Nat.not_lt.mp spent), ?_⟩
        intro other settled
        rw [is] at settled
        cases settled
        exact some
  | unanswered => exact delivered.failed
  | lost => exact delivered.lose
  | killed => exact delivered.finish nofun nofun

theorem World.Sound.step {label : Label} (sound : world.Sound message)
    (taken : world.step message label = some next) : next.Sound message := by
  cases label with
  | deliver behaviour clock now fate published =>
    unfold World.step at taken
    dsimp only at taken
    split at taken
    next => cases taken
    next queued =>
      have delivered := sound.delivered queued
      split at taken
      next =>
        split at taken
        next result written returned =>
          cases taken
          exact (delivered.commit returned).settle rfl
        next =>
          cases taken
          exact delivered.finish nofun nofun
        next =>
          cases taken
          exact delivered.failed
      next =>
        cases taken
        exact delivered.finish nofun nofun
  | crash published =>
    unfold World.step at taken
    dsimp only at taken
    split at taken
    next => cases taken
    next queued =>
      cases taken
      exact (sound.delivered queued).failed
  | timeLimit =>
    unfold World.step at taken
    dsimp only at taken
    split at taken
    next => cases taken
    next queued =>
      cases taken
      exact (sound.delivered queued).finish nofun nofun
  | lose =>
    unfold World.step at taken
    dsimp only at taken
    split at taken
    next => cases taken
    next queued =>
      cases taken
      exact (sound.delivered queued).lose
  | others loaded rows =>
    cases taken
    exact ⟨sound.countdowns, sound.bounded, sound.exhausted, sound.counted,
      fun result settled => nomatch settled⟩

theorem sound_reachable (reached : (machine message).Reachable world) : world.Sound message := by
  apply reached.invariant
  · rintro world ⟨loaded, rows, rfl⟩
    exact ⟨rfl, Nat.zero_le _, nofun, rfl, fun result settled => nomatch settled⟩
  · intro world next label _ sound _ taken
    exact sound.step taken

theorem sum_countdowns (retries : Nat) :
    ((List.range retries).map retryCountdown).sum + 30 = 30 * 2 ^ retries := by
  induction retries with
  | zero => rfl
  | succ retries ih =>
    rw [List.range_succ, List.map_append, List.sum_append, List.map_singleton, List.sum_singleton,
      retryCountdown, pow_succ]
    omega

/-- However the deliveries of a message go, its retries come to an end, and none of them asks the
provider again for what the last run has stored. -/
theorem retries_only_failures (reached : (machine message).Reachable world) :
    world.retries ≤ 3 ∧ world.deliveries ≤ 4 + world.losses ∧
    world.countdowns = (List.range world.retries).map retryCountdown ∧
    world.countdowns.sum ≤ 210 ∧
    ∀ result, world.settled = some result →
      ∃ snapshot, world.snapshot message.call = some snapshot ∧
        (∀ function, function ∈ snapshot.due message.texts ↔ function ∈ result.failed) ∧
        (world.stage = .ended .complete → snapshot.due message.texts = []) ∧
        (world.stage = .ended .exhausted →
          world.retries = 3 ∧ snapshot.due message.texts ≠ []) := by
  have sound := sound_reachable reached
  have bounded : world.retries ≤ 3 := sound.bounded
  refine ⟨bounded, ?_, sound.countdowns, ?_, ?_⟩
  · have counted := sound.counted
    split at counted
    next => omega
    next => omega
  · have total := sum_countdowns world.retries
    rw [← sound.countdowns] at total
    have within : 2 ^ world.retries ≤ 2 ^ 3 := Nat.pow_le_pow_right (by omega) bounded
    omega
  · intro result settled
    obtain ⟨snapshot, found, due, complete, exhausted⟩ := sound.settled result settled
    refine ⟨snapshot, found, due, ?_, ?_⟩
    · intro ended
      rw [List.eq_nil_iff_forall_not_mem]
      intro function member
      have failed := (due function).mp member
      rw [complete ended] at failed
      cases failed
    · intro ended
      refine ⟨sound.exhausted ended, ?_⟩
      intro nothing
      obtain ⟨function, member⟩ := List.exists_mem_of_ne_nil _ (exhausted ended)
      have still := (due function).mpr member
      rw [nothing] at still
      cases still

end

/-- The answer to the commit of the first run does not come. -/
theorem retries_only_failures_unanswered : ∃ (world : World) (result : EnrichmentRunResult),
    world.settled = some result ∧ world.countdowns = [30] ∧
      ∃ snapshot, world.snapshot oneSlot.call = some snapshot ∧
        ∀ function, function ∈ snapshot.due plainTexts ↔ function ∈ result.failed := by
  obtain ⟨specs, prompts⟩ := @prompts_built plainTexts oneSlot rfl (by decide)
  obtain ⟨outcomes, rows, _, _, ran⟩ := @enrichVulnerability_result plainTexts .openAICompat slowly
    oneSlot (fun _ => 300) 300 "basic" specs rfl rfl (fun _ _ found => by cases found) prompts
    fun function _ => answers_plain _ function
  have start : (machine ⟨plainTexts, .openAICompat, oneSlot.call, true⟩).Reachable
      (initial (some (oneSlot.vulnerability, "basic")) oneSlot.existing) := .start ⟨_, _, rfl⟩
  have taken : (machine ⟨plainTexts, .openAICompat, oneSlot.call, true⟩).step
      (initial (some (oneSlot.vulnerability, "basic")) oneSlot.existing)
      (.deliver slowly (fun _ => 300) 300 .unanswered true) = some
      (((World.mk (some (oneSlot.vulnerability, "basic")) oneSlot.existing 0 .queued [] 1 0
        none).commit (oneSlot.result plainTexts outcomes rows).1
          (oneSlot.result plainTexts outcomes rows).2).failed true) := by
    simp only [machine, World.step, initial, if_true, ran]
    rfl
  obtain ⟨_, _, countdowns, _, facts⟩ := retries_only_failures (.step start trivial taken)
  obtain ⟨snapshot, found, due, _⟩ := facts _ rfl
  exact ⟨_, _, rfl, countdowns, snapshot, found, due⟩

end Enrichment.Retries
