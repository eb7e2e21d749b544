import Soc360.Access.Guards
import Soc360.Dashboard.Summary
import Soc360.Store.Expiring
import Soc360.Store.Fault
import Soc360.Store.Machine

set_option autoImplicit false

namespace Dashboard

open Scans (TenantId Timestamp)
open Users (HttpError Reply User internalError requireAnyRole)

/-- `SUMMARY_CACHE_TTL_SECONDS`. -/
def summaryCacheTtl : Timestamp := 60 * 1000000

/-- A `GET` of `/dashboard/summary`. -/
structure Call where
  currentUser : User
  tenantId : Option TenantId
  deriving DecidableEq, Repr

/-- The guard of `get_summary`, and its `effective_tenant_id`. `known` tells the tenants there are. -/
def effectiveTenant (known : TenantId → Bool) (call : Call) : Reply TenantId := do
  requireAnyRole [.admin, .analyst, .viewer, .superadmin] call.currentUser
  if call.currentUser.isSuperadmin then
    match call.tenantId with
    | none => .error ⟨422, "tenant_id is required for superadmin"⟩
    | some tenantId =>
        if known tenantId then .ok tenantId else .error ⟨404, "Tenant not found"⟩
  else
    Except.refuse (call.tenantId.isSome && call.tenantId != call.currentUser.tenantId)
      ⟨403, "You can only view your own tenant's dashboard"⟩
    match call.currentUser.tenantId with
    | none => .error ⟨403, "A tenant is required to view the dashboard"⟩
    | some tenantId => .ok tenantId

/-- The five statements of an aggregation, in their order. -/
def Reads.ofList : List Snapshot → Option Reads
  | [coverage, severities, opened, closed, scans] =>
      some ⟨coverage, severities, opened, closed, scans⟩
  | _ => none

/-- Where `_cached_summary` is. `begun` is the time of the transaction, and `seen` what each
statement saw and when. -/
inductive Stage where
  | idle
  | reading (call : Call) (tenantId : TenantId) (begun : Timestamp)
  | aggregating (call : Call) (tenantId : TenantId) (begun : Timestamp)
      (seen : List (Timestamp × Snapshot))
  | writing (call : Call) (tenantId : TenantId) (summary : DashboardSummary)
  | answered
  | refused (call : Call) (error : HttpError)

structure Answer where
  call : Call
  tenantId : TenantId
  summary : DashboardSummary
  moment : Timestamp
  deriving DecidableEq, Repr

/-- The requests of the dashboard, the cache and the database. An entry of the cache that does not
validate has no summary. `history` keeps what was committed and since when. -/
structure World where
  clock : Timestamp
  committed : Snapshot
  history : List (Timestamp × Snapshot)
  cache : Expiring TenantId (Option DashboardSummary)
  tasks : Nat → Stage
  answers : List Answer

inductive Label where
  /-- Other requests commit. -/
  | commit (next : Snapshot)
  | tick (later : Timestamp)
  | request (task : Nat) (call : Call)
  | read (task : Nat) (fate : Fate)
  | query (task : Nat)
  | write (task : Nat) (fate : Fate)

namespace World

variable (world : World)

def goto (task : Nat) (stage : Stage) : World :=
  { world with tasks := Function.update world.tasks task stage }

def answer (task : Nat) (call : Call) (tenantId : TenantId) (summary : DashboardSummary) : World :=
  { world.goto task .answered with
    answers := ⟨call, tenantId, summary, world.clock⟩ :: world.answers }

/-- `redis.set(key, …, ex=SUMMARY_CACHE_TTL_SECONDS)`. -/
def store (tenantId : TenantId) (summary : DashboardSummary) : World :=
  { world with
    cache := world.cache.put tenantId (some summary) ((world.clock + summaryCacheTtl : Nat) : Time) }

def step : Label → Option World
  | .commit next =>
      some { world with committed := next, history := (world.clock, next) :: world.history }
  | .tick later =>
      if world.clock ≤ later then
        some { world with clock := later, cache := world.cache.sweep (later : Time) }
      else none
  | .request task call =>
      match world.tasks task with
      | .idle =>
          match effectiveTenant (fun tenantId => (world.committed.tenants tenantId).isSome) call with
          | .ok tenantId => some (world.goto task (.reading call tenantId world.clock))
          | .error error => some (world.goto task (.refused call error))
      | _ => none
  | .read task fate =>
      match world.tasks task with
      | .reading call tenantId begun =>
          match fate.branch (world.cache.get tenantId).join none with
          | some summary => some (world.answer task call tenantId summary)
          | none => some (world.goto task (.aggregating call tenantId begun []))
      | _ => none
  | .query task =>
      match world.tasks task with
      | .aggregating call tenantId begun seen =>
          let seen := seen ++ [(world.clock, world.committed)]
          match Reads.ofList (seen.map Prod.snd) with
          | none => some (world.goto task (.aggregating call tenantId begun seen))
          | some reads =>
              match getDashboardSummary tenantId begun reads with
              | .ok summary => some (world.goto task (.writing call tenantId summary))
              | .error _ => some (world.goto task (.refused call internalError))
      | _ => none
  | .write task fate =>
      match world.tasks task with
      | .writing call tenantId summary =>
          some ((fate.settle (·.store tenantId summary) world).answer task call tenantId summary)
      | _ => none

end World

def machine : Machine World Label where
  start world :=
    world.history = [(world.clock, world.committed)] ∧ world.tasks = (fun _ => .idle) ∧
      world.answers = [] ∧ ∀ tenantId entry, world.cache tenantId = some entry → entry.value = none
  step := World.step

/-- What was committed at a moment: it was there since no later, and what came next came no
earlier. -/
def Current (history : List (Timestamp × Snapshot)) (moment : Timestamp) (snapshot : Snapshot) :
    Prop :=
  ∃ newer since older, history = newer ++ (since, snapshot) :: older ∧ since ≤ moment ∧
    ∀ next ∈ newer.getLast?, moment ≤ next.1

/-- A summary of what was committed between two moments. -/
def Computed (history : List (Timestamp × Snapshot)) (tenantId : TenantId)
    (summary : DashboardSummary) (finished : Timestamp) : Prop :=
  ∃ (begun : Timestamp) (seen : List (Timestamp × Snapshot)) (reads : Reads),
    Reads.ofList (seen.map Prod.snd) = some reads ∧
    getDashboardSummary tenantId begun reads = .ok summary ∧
    ∀ entry ∈ seen, begun ≤ entry.1 ∧ entry.1 ≤ finished ∧ Current history entry.1 entry.2

/-- Who may see the summary of a tenant. -/
def Call.Entitled (call : Call) (tenantId : TenantId) : Prop :=
  call.currentUser.role ≠ .ingestor ∧
    (call.currentUser.isSuperadmin = true ∧ call.tenantId = some tenantId ∨
      call.currentUser.isSuperadmin = false ∧ call.currentUser.tenantId = some tenantId)

/-- The checks of `get_summary` refuse the call, with the tenants of some moment. -/
def Refused (history : List (Timestamp × Snapshot)) (call : Call) (error : HttpError)
    (clock : Timestamp) : Prop :=
  ∃ moment snapshot, moment ≤ clock ∧ Current history moment snapshot ∧
    effectiveTenant (fun tenantId => (snapshot.tenants tenantId).isSome) call = .error error

/-- An answer tells what was committed less than the time to live, and its own aggregation,
before. -/
structure Answer.Recent (history : List (Timestamp × Snapshot)) (answer : Answer) : Prop where
  entitled : answer.call.Entitled answer.tenantId
  computed : ∃ finished, finished ≤ answer.moment ∧ answer.moment < finished + summaryCacheTtl ∧
    Computed history answer.tenantId answer.summary finished

def Stage.Sound (world : World) : Stage → Prop
  | .reading call tenantId begun => call.Entitled tenantId ∧ begun ≤ world.clock
  | .aggregating call tenantId begun seen => call.Entitled tenantId ∧ begun ≤ world.clock ∧
      ∀ entry ∈ seen, begun ≤ entry.1 ∧ entry.1 ≤ world.clock ∧
        Current world.history entry.1 entry.2
  | .writing call tenantId summary => call.Entitled tenantId ∧
      Computed world.history tenantId summary world.clock
  | .refused call error => Refused world.history call error world.clock
  | _ => True

structure World.Sound (world : World) : Prop where
  current : ∃ since older, world.history = (since, world.committed) :: older ∧ since ≤ world.clock
  stages : ∀ task, (world.tasks task).Sound world
  entries : ∀ tenantId entry summary, world.cache tenantId = some entry →
    entry.value = some summary → ∃ finished : Timestamp, finished ≤ world.clock ∧
      entry.expiresAt = some ((finished + summaryCacheTtl : Nat) : Time) ∧
      (world.clock : Time) < ((finished + summaryCacheTtl : Nat) : Time) ∧
      Computed world.history tenantId summary finished
  answers : ∀ answer ∈ world.answers, answer.moment ≤ world.clock ∧ answer.Recent world.history

section

variable {world next : World} {history : List (Timestamp × Snapshot)} {tenantId : TenantId}
  {summary : DashboardSummary} {moment finished after : Timestamp} {snapshot : Snapshot}
  {call : Call} {task : Nat}

/-- What the next world still knows of the past. -/
structure World.Grown (world next : World) : Prop where
  clock : world.clock ≤ next.clock
  past : ∀ moment snapshot, moment ≤ world.clock → Current world.history moment snapshot →
    Current next.history moment snapshot

theorem Current.commit (current : Current history moment snapshot) {clock : Timestamp}
    (past : moment ≤ clock) (committed : Snapshot) :
    Current ((clock, committed) :: history) moment snapshot := by
  obtain ⟨newer, since, older, rfl, begun, ended⟩ := current
  refine ⟨(clock, committed) :: newer, since, older, rfl, begun, ?_⟩
  intro after last
  cases newer with
  | nil =>
    cases last
    exact past
  | cons first rest =>
    rw [List.getLast?_cons_cons] at last
    exact ended after last

theorem World.Grown.refl (clock : world.clock = next.clock) (history : world.history = next.history) :
    world.Grown next :=
  ⟨clock.le, fun _ _ _ current => history ▸ current⟩

theorem Computed.later (computed : Computed history tenantId summary finished)
    (passed : finished ≤ after) : Computed history tenantId summary after := by
  obtain ⟨begun, seen, reads, given, answered, each⟩ := computed
  refine ⟨begun, seen, reads, given, answered, fun entry member => ?_⟩
  obtain ⟨first, last, current⟩ := each entry member
  exact ⟨first, last.trans passed, current⟩

theorem Computed.grown (computed : Computed world.history tenantId summary finished)
    (past : finished ≤ world.clock) (grown : world.Grown next) :
    Computed next.history tenantId summary finished := by
  obtain ⟨begun, seen, reads, given, answered, each⟩ := computed
  refine ⟨begun, seen, reads, given, answered, fun entry member => ?_⟩
  obtain ⟨first, last, current⟩ := each entry member
  exact ⟨first, last, grown.past _ _ (last.trans past) current⟩

theorem Answer.Recent.grown {answer : Answer} (recent : answer.Recent world.history)
    (past : answer.moment ≤ world.clock) (grown : world.Grown next) :
    answer.Recent next.history := by
  obtain ⟨entitled, finished, before, fresh, computed⟩ := recent
  exact ⟨entitled, finished, before, fresh, computed.grown (before.trans past) grown⟩

theorem Stage.Sound.grown {stage : Stage} (sound : stage.Sound world) (grown : world.Grown next) :
    stage.Sound next := by
  cases stage with
  | idle => trivial
  | reading call tenantId begun => exact ⟨sound.1, sound.2.trans grown.clock⟩
  | aggregating call tenantId begun seen =>
    obtain ⟨entitled, before, each⟩ := sound
    refine ⟨entitled, before.trans grown.clock, fun entry member => ?_⟩
    obtain ⟨first, last, current⟩ := each entry member
    exact ⟨first, last.trans grown.clock, grown.past _ _ last current⟩
  | writing call tenantId summary =>
    exact ⟨sound.1, (sound.2.grown le_rfl grown).later grown.clock⟩
  | answered => trivial
  | refused call error =>
    obtain ⟨moment, snapshot, before, current, refused⟩ := sound
    exact ⟨moment, snapshot, before.trans grown.clock, grown.past _ _ before current, refused⟩

/-- A request that goes on keeps what the rest relies on. -/
theorem World.Sound.goto (sound : world.Sound) {stage : Stage} (now : stage.Sound world) :
    (world.goto task stage).Sound := by
  have grown : world.Grown (world.goto task stage) := .refl rfl rfl
  refine ⟨sound.current, fun other => ?_, sound.entries, sound.answers⟩
  by_cases same : other = task
  · have here : (world.goto task stage).tasks other = stage := by
      rw [same]
      exact Function.update_self ..
    rw [here]
    exact now.grown grown
  · have kept : (world.goto task stage).tasks other = world.tasks other :=
      Function.update_of_ne same ..
    rw [kept]
    exact (sound.stages other).grown grown

theorem World.Sound.answer (sound : world.Sound)
    (recent : Answer.Recent world.history ⟨call, tenantId, summary, world.clock⟩) :
    (world.answer task call tenantId summary).Sound := by
  have moved := @World.Sound.goto world task sound .answered trivial
  refine ⟨moved.current, fun other => (moved.stages other).grown (.refl rfl rfl), moved.entries,
    fun answer member => ?_⟩
  rcases List.mem_cons.mp member with rfl | member
  · exact ⟨le_rfl, recent⟩
  · exact sound.answers answer member

theorem ttl_ahead (clock : Timestamp) :
    (clock : Time) < ((clock + summaryCacheTtl : Nat) : Time) := by
  have ahead : clock < clock + summaryCacheTtl := Nat.lt_add_of_pos_right (by decide)
  exact_mod_cast ahead

theorem World.Sound.store (sound : world.Sound)
    (computed : Computed world.history tenantId summary world.clock) :
    (world.store tenantId summary).Sound := by
  refine ⟨sound.current, fun task => (sound.stages task).grown (.refl rfl rfl), ?_, sound.answers⟩
  intro other entry given found value
  by_cases same : other = tenantId
  · subst same
    have written : (world.store other summary).cache other =
        some ⟨some summary, some ((world.clock + summaryCacheTtl : Nat) : Time)⟩ :=
      Function.update_self ..
    rw [written] at found
    cases found
    cases value
    exact ⟨world.clock, le_rfl, rfl, ttl_ahead world.clock, computed⟩
  · have kept : (world.store tenantId summary).cache other = world.cache other :=
      Function.update_of_ne same ..
    rw [kept] at found
    exact sound.entries other entry given found value

theorem effectiveTenant_entitled {known : TenantId → Bool}
    (allowed : effectiveTenant known call = .ok tenantId) : call.Entitled tenantId := by
  obtain ⟨_, guarded, chosen⟩ := Except.bind_eq_ok.mp allowed
  have role : call.currentUser.role ≠ .ingestor := by
    intro ingestor
    rw [requireAnyRole, Except.refuse_ok, ingestor] at guarded
    exact absurd guarded (by decide)
  refine ⟨role, ?_⟩
  by_cases superadmin : call.currentUser.isSuperadmin = true
  · rw [if_pos superadmin] at chosen
    cases given : call.tenantId with
    | none =>
      rw [given] at chosen
      cases chosen
    | some other =>
      rw [given] at chosen
      dsimp only at chosen
      split at chosen
      · cases chosen
        exact .inl ⟨superadmin, rfl⟩
      · cases chosen
  · rw [if_neg superadmin] at chosen
    obtain ⟨_, _, chosen⟩ := Except.bind_eq_ok.mp chosen
    cases own : call.currentUser.tenantId with
    | none =>
      rw [own] at chosen
      cases chosen
    | some other =>
      rw [own] at chosen
      cases chosen
      exact .inr ⟨Bool.eq_false_of_not_eq_true superadmin, rfl⟩

/-- What is committed now is current now. -/
theorem World.Sound.committed (sound : world.Sound) :
    Current world.history world.clock world.committed := by
  obtain ⟨since, older, known, before⟩ := sound.current
  exact ⟨[], since, older, known, before, nofun⟩

theorem World.Sound.commit (sound : world.Sound) (given : world.step (.commit snapshot) = some next) :
    next.Sound := by
  cases given
  have grown : world.Grown { world with
      committed := snapshot, history := (world.clock, snapshot) :: world.history } :=
    ⟨le_rfl, fun _ _ past current => current.commit past snapshot⟩
  refine ⟨⟨world.clock, world.history, rfl, le_rfl⟩, fun task => (sound.stages task).grown grown,
    fun tenantId entry summary found value => ?_, fun answer member => ?_⟩
  · obtain ⟨finished, past, expires, ahead, computed⟩ :=
      sound.entries tenantId entry summary found value
    exact ⟨finished, past, expires, ahead, computed.grown past grown⟩
  · obtain ⟨past, recent⟩ := sound.answers answer member
    exact ⟨past, recent.grown past grown⟩

theorem World.Sound.tick (sound : world.Sound) (given : world.step (.tick moment) = some next) :
    next.Sound := by
  unfold World.step at given
  dsimp only at given
  split at given
  case isFalse => cases given
  case isTrue forward =>
    cases given
    have grown : world.Grown { world with
        clock := moment, cache := world.cache.sweep (moment : Time) } :=
      ⟨forward, fun _ _ _ current => current⟩
    obtain ⟨since, older, known, before⟩ := sound.current
    refine ⟨⟨since, older, known, before.trans forward⟩,
      fun task => (sound.stages task).grown grown, fun tenantId entry summary found value => ?_,
      fun answer member => ?_⟩
    · obtain ⟨there, unexpired⟩ := Expiring.sweep_some.mp found
      obtain ⟨finished, past, expires, _, computed⟩ :=
        sound.entries tenantId entry summary there value
      exact ⟨finished, past.trans forward, expires, unexpired _ expires, computed⟩
    · obtain ⟨past, recent⟩ := sound.answers answer member
      exact ⟨past.trans forward, recent⟩

theorem World.Sound.request (sound : world.Sound)
    (given : world.step (.request task call) = some next) : next.Sound := by
  unfold World.step at given
  dsimp only at given
  split at given
  case h_2 => cases given
  case h_1 =>
    split at given
    case h_1 tenantId allowed =>
      cases given
      exact sound.goto ⟨effectiveTenant_entitled allowed, le_rfl⟩
    case h_2 error refused =>
      cases given
      exact sound.goto ⟨world.clock, world.committed, le_rfl, sound.committed, refused⟩

theorem World.Sound.read {fate : Fate} (sound : world.Sound)
    (given : world.step (.read task fate) = some next) : next.Sound := by
  unfold World.step at given
  dsimp only at given
  split at given
  case h_2 => cases given
  case h_1 call tenantId begun reading =>
    have stage := sound.stages task
    rw [reading] at stage
    obtain ⟨entitled, before⟩ := stage
    split at given
    case h_1 summary cached =>
      cases given
      rcases fate.branch_cases (world.cache.get tenantId).join none with ⟨_, same⟩ | ⟨_, same⟩
      · rw [same, Expiring.get, Option.join_eq_some_iff, Option.map_eq_some_iff] at cached
        obtain ⟨entry, found, value⟩ := cached
        obtain ⟨finished, past, expires, ahead, computed⟩ :=
          sound.entries tenantId entry summary found value
        exact sound.answer ⟨entitled, finished, past, by exact_mod_cast ahead, computed⟩
      · rw [same] at cached
        cases cached
    case h_2 =>
      cases given
      exact sound.goto ⟨entitled, before, nofun⟩

theorem World.Sound.query (sound : world.Sound) (given : world.step (.query task) = some next) :
    next.Sound := by
  unfold World.step at given
  dsimp only at given
  split at given
  case h_2 => cases given
  case h_1 call tenantId begun seen aggregating =>
    have stage := sound.stages task
    rw [aggregating] at stage
    obtain ⟨entitled, before, each⟩ := stage
    have each : ∀ entry ∈ seen ++ [(world.clock, world.committed)], begun ≤ entry.1 ∧
        entry.1 ≤ world.clock ∧ Current world.history entry.1 entry.2 := by
      intro entry member
      rcases List.mem_append.mp member with member | member
      · exact each entry member
      · rw [List.mem_singleton.mp member]
        exact ⟨before, le_rfl, sound.committed⟩
    split at given
    case h_1 =>
      cases given
      exact sound.goto ⟨entitled, before, each⟩
    case h_2 reads complete =>
      obtain ⟨summary, answered, _⟩ := aggregation_answers tenantId begun reads
      rw [answered] at given
      cases given
      exact sound.goto ⟨entitled, begun, _, reads, complete, answered, each⟩

theorem World.Sound.write {fate : Fate} (sound : world.Sound)
    (given : world.step (.write task fate) = some next) : next.Sound := by
  unfold World.step at given
  dsimp only at given
  split at given
  case h_2 => cases given
  case h_1 call tenantId summary writing =>
    cases given
    have stage := sound.stages task
    rw [writing] at stage
    obtain ⟨entitled, computed⟩ := stage
    have recent : Answer.Recent world.history ⟨call, tenantId, summary, world.clock⟩ :=
      ⟨entitled, world.clock, le_rfl, Nat.lt_add_of_pos_right (by decide), computed⟩
    rcases fate.settle_cases (·.store tenantId summary) world with same | same
    · rw [same]
      exact sound.answer recent
    · rw [same]
      exact (sound.store computed).answer recent

theorem World.Sound.step {label : Label} (sound : world.Sound)
    (given : world.step label = some next) : next.Sound := by
  cases label with
  | commit snapshot => exact sound.commit given
  | tick moment => exact sound.tick given
  | request task call => exact sound.request given
  | read task fate => exact sound.read given
  | query task => exact sound.query given
  | write task fate => exact sound.write given

theorem World.Sound.start (begins : machine.start world) : world.Sound := by
  obtain ⟨history, tasks, answers, cache⟩ := begins
  refine ⟨⟨world.clock, [], history, le_rfl⟩, fun task => ?_,
    fun tenantId entry summary found value => ?_, fun answer member => ?_⟩
  · rw [tasks]
    trivial
  · rw [cache tenantId entry found] at value
    cases value
  · rw [answers] at member
    cases member

end

def monitoring (tenantId : Option TenantId) (role : Users.RoleEnum) : User :=
  ⟨tenantId, "a@acme.example", "", "Ana", role, true, tenantId.isNone⟩

def quiet : World where
  clock := 1000
  committed := { Tenancy.crowded with assetStatus := fun _ => .inactive }
  history := [(1000, { Tenancy.crowded with assetStatus := fun _ => .inactive })]
  cache := fun _ => none
  tasks := fun _ => .idle
  answers := []

/-- A viewer asks while Redis does not answer, and the reply to the write is lost. Some of the rows
are deleted meanwhile. A superadmin asks 59 seconds later. -/
def viewed : List Label :=
  [.request 0 ⟨monitoring (some 1) .viewer, none⟩, .read 0 .failed, .query 0, .query 0,
    .commit { Tenancy.alone with assetStatus := fun _ => .inactive }, .query 0, .query 0, .query 0,
    .write 0 .lost, .tick 59001000, .request 1 ⟨monitoring none .superadmin, some 1⟩, .read 1 .ok]

end Dashboard
