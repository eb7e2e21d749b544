import Soc360.Locks.Ownership
import Soc360.Users.Policy

set_option autoImplicit false

namespace Users.Deactivation

/-- A request carries the token of its lease as its name. -/
abbrev RequestId := Locks.Token

/-- What a request answers. `lockError` is raised by `acquire_dist_lock`. -/
inductive Outcome where
  | deactivated
  | raised (error : HttpError)
  | lockError (reason : Locks.CallEnd)
  deriving DecidableEq

/-- Where a request stands: before its dependencies, after `get_user_for_admin_delete`, in
`acquire_dist_lock`, after `deactivate_user` with its flush, on the way out of the lease, and
at its end. `target` is the row as the session of the request has loaded it. -/
inductive Stage where
  | begun
  | loaded (target : User)
  | locking (target : User)
  | flushed (target : User)
  | leaving (outcome : Outcome)
  | ended (outcome : Outcome)
  deriving DecidableEq

/-- The transaction of the request is over. -/
def Stage.past : Stage → Bool
  | .leaving _ => true
  | .ended _ => true
  | _ => false

/-- `row` is the committed row of the user. `committed` records the requests that committed. -/
structure World where
  row : User
  locks : Locks.World
  stages : RequestId → Stage
  committed : List RequestId

def World.initial (row : User) : World := ⟨row, .initial, fun _ => .begun, []⟩

/-- `DELETE /users/{user_id}` with its callers and `LOCK_DEFAULT_TTL_SECONDS`. -/
structure Endpoint where
  userId : UserId
  actors : RequestId → UserId × User
  ttlSeconds : Nat

namespace Endpoint

variable (endpoint : Endpoint) (request : RequestId)

/-- The dependencies before the lease. -/
def load (row : User) : Reply User := do
  requireRole .admin (endpoint.actors request).2
  getUserForAdmin (endpoint.actors request).2 (some row)

/-- The body of the endpoint, with a Redis that serves the revocation. -/
def deactivateUser (target : User) : Reply User := do
  checkDeactivate (endpoint.actors request).2 target
    (endpoint.userId == (endpoint.actors request).1)
  Service.deactivateUser (endpoint.actors request).2 target true

/-- The policies let the caller deactivate the user. -/
def Authorised (row : User) : Prop :=
  endpoint.load request row = .ok row ∧
    checkDeactivate (endpoint.actors request).2 row
      (endpoint.userId == (endpoint.actors request).1) = .ok ()

instance (row : User) : Decidable (endpoint.Authorised request row) :=
  inferInstanceAs (Decidable (_ ∧ _))

end Endpoint

/-- The steps inside the calls of `acquire_dist_lock` and the clock. A Redis that is there
executes every release. -/
def isInner : Locks.Label → Bool
  | .tick _ => true
  | .serveSet _ => true
  | .refuseSet _ => true
  | .loseSet _ => true
  | .readSet _ => true
  | .wake _ => true
  | .readRetry _ => true
  | .resume _ => true
  | .timeout _ => true
  | .serveOp _ => true
  | .readOp _ => true
  | _ => false

inductive Label where
  | load (request : RequestId)
  | acquire (request : RequestId) (process : Locks.Process)
  | lock (label : Locks.Label)
  | lockFailed (request : RequestId)
  | deactivate (request : RequestId)
  | commit (request : RequestId)
  | exit (request : RequestId) (op : Locks.OpId)
  | finish (request : RequestId)
  deriving DecidableEq

namespace World

variable (world : World)

def put (request : RequestId) (stage : Stage) : World :=
  { world with stages := Function.update world.stages request stage }

/-- The UPDATE of the flush becomes visible. -/
def write (request : RequestId) (user : User) : World :=
  { world.put request (.leaving .deactivated) with
    row := { world.row with isActive := user.isActive }
    committed := world.committed ++ [request] }

def step (endpoint : Endpoint) : Label → Option World
  | .load request =>
      match world.stages request with
      | .begun =>
          match endpoint.load request world.row with
          | .ok target => some (world.put request (.loaded target))
          | .error error => some (world.put request (.ended (.raised error)))
      | _ => none
  | .acquire request process =>
      match world.stages request with
      | .loaded target =>
          (world.locks.step (.acquire request process endpoint.ttlSeconds)).map fun locks =>
            { world.put request (.locking target) with locks := locks }
      | _ => none
  | .lock label =>
      if isInner label then
        (world.locks.step label).map fun locks => { world with locks := locks }
      else none
  | .lockFailed request =>
      match world.stages request, (world.locks.calls request).stage with
      | .locking _, .ended reason => some (world.put request (.ended (.lockError reason)))
      | _, _ => none
  | .deactivate request =>
      match world.stages request, (world.locks.calls request).stage with
      | .locking target, .body =>
          match endpoint.deactivateUser request target with
          | .ok user => some (world.put request (.flushed user))
          -- `rollback`
          | .error error => some (world.put request (.leaving (.raised error)))
      | _, _ => none
  | .commit request =>
      match world.stages request with
      | .flushed user => some (world.write request user)
      | _ => none
  | .exit request op =>
      match world.stages request with
      | .leaving _ =>
          (world.locks.step (.exit op request)).map fun locks => { world with locks := locks }
      | _ => none
  | .finish request =>
      match world.stages request, (world.locks.calls request).stage with
      | .leaving outcome, .ended _ => some (world.put request (.ended outcome))
      | _, _ => none

end World

/-- Any number of requests of authorised callers for one active user. -/
def deletions (endpoint : Endpoint) (row : User) : Machine World Label where
  start world := world = .initial row ∧ row.isActive = true ∧ row.storable = true ∧
    ∀ request, endpoint.Authorised request row
  step world := world.step endpoint

/-- Everything a step can be. -/
inductive Moved (endpoint : Endpoint) (world : World) : Label → World → Prop
  | loaded (request : RequestId) (target : User) (stage : world.stages request = .begun)
      (passed : endpoint.load request world.row = .ok target) :
      Moved endpoint world (.load request) (world.put request (.loaded target))
  | turnedAway (request : RequestId) (error : HttpError) (stage : world.stages request = .begun)
      (refused : endpoint.load request world.row = .error error) :
      Moved endpoint world (.load request) (world.put request (.ended (.raised error)))
  | acquire (request : RequestId) (process : Locks.Process) (target : User) (locks : Locks.World)
      (stage : world.stages request = .loaded target)
      (moved : Locks.Moved world.locks (.acquire request process endpoint.ttlSeconds) locks) :
      Moved endpoint world (.acquire request process)
        { world.put request (.locking target) with locks := locks }
  | lock (label : Locks.Label) (locks : Locks.World) (inner : isInner label = true)
      (moved : Locks.Moved world.locks label locks) :
      Moved endpoint world (.lock label) { world with locks := locks }
  | lockFailed (request : RequestId) (target : User) (reason : Locks.CallEnd)
      (stage : world.stages request = .locking target) :
      Moved endpoint world (.lockFailed request)
        (world.put request (.ended (.lockError reason)))
  | flushed (request : RequestId) (target user : User)
      (stage : world.stages request = .locking target)
      (body : (world.locks.calls request).stage = .body)
      (passed : endpoint.deactivateUser request target = .ok user) :
      Moved endpoint world (.deactivate request) (world.put request (.flushed user))
  | refused (request : RequestId) (target : User) (error : HttpError)
      (stage : world.stages request = .locking target)
      (refused : endpoint.deactivateUser request target = .error error) :
      Moved endpoint world (.deactivate request)
        (world.put request (.leaving (.raised error)))
  | commit (request : RequestId) (user : User) (stage : world.stages request = .flushed user) :
      Moved endpoint world (.commit request) (world.write request user)
  | exit (request : RequestId) (op : Locks.OpId) (outcome : Outcome) (locks : Locks.World)
      (stage : world.stages request = .leaving outcome)
      (moved : Locks.Moved world.locks (.exit op request) locks) :
      Moved endpoint world (.exit request op) { world with locks := locks }
  | finish (request : RequestId) (outcome : Outcome)
      (stage : world.stages request = .leaving outcome) :
      Moved endpoint world (.finish request) (world.put request (.ended outcome))

theorem step_moved {endpoint : Endpoint} {world next : World} {label : Label}
    (taken : world.step endpoint label = some next) : Moved endpoint world label next := by
  cases label with
  | load request =>
      simp only [World.step] at taken
      split at taken
      next stage =>
        split at taken
        next target passed => cases taken; exact .loaded request target stage passed
        next error refused => cases taken; exact .turnedAway request error stage refused
      next => cases taken
  | acquire request process =>
      simp only [World.step] at taken
      split at taken
      next target stage =>
        obtain ⟨locks, moved, rfl⟩ := Option.map_eq_some_iff.mp taken
        exact .acquire request process target locks stage (Locks.step_moved moved)
      next => cases taken
  | lock label =>
      simp only [World.step] at taken
      split at taken
      next inner =>
        obtain ⟨locks, moved, rfl⟩ := Option.map_eq_some_iff.mp taken
        exact .lock label locks inner (Locks.step_moved moved)
      next => cases taken
  | lockFailed request =>
      simp only [World.step] at taken
      split at taken
      next target reason stage _ => cases taken; exact .lockFailed request target reason stage
      next => cases taken
  | deactivate request =>
      simp only [World.step] at taken
      split at taken
      next target stage body =>
        split at taken
        next user passed => cases taken; exact .flushed request target user stage body passed
        next error refused => cases taken; exact .refused request target error stage refused
      next => cases taken
  | commit request =>
      simp only [World.step] at taken
      split at taken
      next user stage => cases taken; exact .commit request user stage
      next => cases taken
  | exit request op =>
      simp only [World.step] at taken
      split at taken
      next outcome stage =>
        obtain ⟨locks, moved, rfl⟩ := Option.map_eq_some_iff.mp taken
        exact .exit request op outcome locks stage (Locks.step_moved moved)
      next => cases taken
  | finish request =>
      simp only [World.step] at taken
      split at taken
      next outcome reason stage _ => cases taken; exact .finish request outcome stage
      next => cases taken

/-- The call is over. -/
def isOver : Locks.Stage → Bool
  | .ended _ => true
  | _ => false

def tick? : Locks.Label → Option Nat
  | .tick later => some later
  | _ => none

/-- No lease expires before the end of the call that took it. -/
def World.LeaseLasts (world : World) : Label → Prop
  | .lock label => ∀ later ∈ tick? label, ∀ lease ∈ world.locks.lease,
      lease.deadline ≤ later → isOver (world.locks.calls lease.token).stage = true
  | _ => True

/-- A request that enters `deactivate_user` still has the committed `is_active` in its session:
nobody committed a deactivation since it loaded the user. -/
def World.UpToDate (world : World) : Label → Prop
  | .deactivate request => ∀ target, world.stages request = .locking target →
      target.isActive = world.row.isActive
  | _ => True

/-- The call has the lease, though it may not know it yet. -/
def Won (call : Locks.Call) : Prop :=
  call.stage = .body ∨ call.stage = .retried true ∨
    call.stage.sets = true ∧ call.wire = .answered true

/-- What the steps of a world may do to the leases. -/
def World.Permits (world : World) : Locks.Label → Prop
  | .tick later => world.LeaseLasts (.lock (.tick later))
  | .exit _ request => (world.stages request).past = true
  | .acquire _ _ _ => True
  | label => isInner label = true

/-- The requests before their commit or rollback hold what they have won, and only the others
release. -/
structure World.Guarded (world : World) : Prop where
  ops : ∀ id op, world.locks.ops id = some op → (world.stages op.token).past = true
  held : ∀ request, (world.stages request).past = false →
    Won (world.locks.calls request) → world.locks.Holds request
  inside : ∀ request user, world.stages request = .flushed user →
    (world.locks.calls request).stage = .body

section

variable {endpoint : Endpoint} {world next : World} {request other : RequestId}
  {locks : Locks.World} {label : Locks.Label} {call : Locks.Call} {stage : Stage}

/-- Two requests that hold the lease are one. -/
theorem holds_unique (mine : world.locks.Holds request) (yours : world.locks.Holds other) :
    request = other := by
  obtain ⟨lease, stored, own⟩ := mine
  obtain ⟨same, found, theirs⟩ := yours
  rw [stored] at found
  cases found
  rw [← own, ← theirs]

namespace World.Guarded

/-- A step of one call that neither takes nor gives up the lease. -/
theorem turned (guarded : world.Guarded) (same : world.locks.SameRedis locks)
    (calls : locks.calls = Function.update world.locks.calls request call)
    (ops : locks.ops = world.locks.ops)
    (won : Won call → Won (world.locks.calls request))
    (body : (world.locks.calls request).stage = .body → call.stage = .body) :
    { world with locks := locks }.Guarded := by
  refine ⟨?_, ?_, ?_⟩
  · intro id op known
    exact guarded.ops id op (ops ▸ known)
  · intro other before wins
    apply same.holds.mpr
    apply guarded.held other before
    change Won (locks.calls other) at wins
    rw [calls] at wins
    by_cases own : other = request
    · subst own
      rw [Function.update_self] at wins
      exact won wins
    · rwa [Function.update_of_ne own] at wins
  · intro other user flushed
    have before := guarded.inside other user flushed
    show (locks.calls other).stage = .body
    rw [calls]
    by_cases own : other = request
    · subst own
      rw [Function.update_self]
      exact body before
    · rwa [Function.update_of_ne own]

/-- A step of one call that leaves it without the lease. -/
theorem loses (guarded : world.Guarded) (lost : ¬ Won call)
    (outside : (world.locks.calls request).stage ≠ .body) :
    { world with locks := world.locks.put request call }.Guarded :=
  guarded.turned Locks.put_redis rfl rfl (fun won => absurd won lost)
    fun body => absurd body outside

/-- A step of one release, of a request that is past its commit or rollback. -/
theorem releases {id : Locks.OpId} {op : Locks.Op} (guarded : world.Guarded)
    (past : (world.stages request).past = true)
    (ops : locks.ops = Function.update world.locks.ops id (some op)) (own : op.token = request)
    (others : ∀ other, other ≠ request → locks.calls other = world.locks.calls other)
    (holds : ∀ other, other ≠ request → world.locks.Holds other → locks.Holds other) :
    { world with locks := locks }.Guarded := by
  have differ {other : RequestId} (before : (world.stages other).past = false) :
      other ≠ request := by
    intro same
    rw [same, past] at before
    cases before
  refine ⟨?_, ?_, ?_⟩
  · intro other found known
    change locks.ops other = some found at known
    rw [ops] at known
    by_cases same : other = id
    · rw [same, Function.update_self] at known
      cases known
      rw [own]
      exact past
    · rw [Function.update_of_ne same] at known
      exact guarded.ops other found known
  · intro other before wins
    change Won (locks.calls other) at wins
    rw [others other (differ before)] at wins
    exact holds other (differ before) (guarded.held other before wins)
  · intro other user flushed
    have before : (world.stages other).past = false := by rw [flushed]; rfl
    show (locks.calls other).stage = .body
    rw [others other (differ before)]
    exact guarded.inside other user flushed

theorem not_body {stage : Locks.Stage} (outside : stage.entered = false) : stage ≠ .body := by
  rintro rfl
  cases outside

/-- Time does not end a lease that a request relies on. -/
theorem tick {later : Nat} (guarded : world.Guarded) (permits : world.Permits (.tick later))
    (forward : world.locks.clock ≤ later) :
    { world with locks := { world.locks with
      clock := later, lease := world.locks.lease.filter (later < ·.deadline) } }.Guarded := by
  refine ⟨guarded.ops, ?_, guarded.inside⟩
  intro request before wins
  have holds := guarded.held request before wins
  refine ((Locks.Moved.tick later forward).holds holds ?_).1
  rintro ⟨lease, stored, late⟩
  obtain ⟨held, found, own⟩ := holds
  rw [stored] at found
  cases found
  have settled := permits later rfl lease stored late
  rw [own] at settled
  rcases wins with body | retried | ⟨sets, _⟩
  · rw [body] at settled
    cases settled
  · rw [retried] at settled
    cases settled
  · change (world.locks.calls request).stage.sets = true at sets
    generalize (world.locks.calls request).stage = stage at settled sets
    cases stage <;> first | cases settled; done | cases sets

/-- A SET gives the lease to its request only where no other one relies on it. -/
theorem serveSet (guarded : world.Guarded) :
    { world with locks :=
      world.locks.setLock request (world.locks.calls request) }.Guarded := by
  cases stored : world.locks.lease with
  | some lease =>
      rw [Locks.setLock_contended stored]
      refine guarded.turned Locks.put_redis rfl rfl ?_ fun body => body
      rintro (body | retried | ⟨_, answered⟩)
      · exact .inl body
      · exact .inr (.inl retried)
      · cases answered
  | none =>
      refine ⟨?_, ?_, ?_⟩
      · intro id op known
        exact guarded.ops id op (Locks.setLock_ops.1 ▸ known)
      · intro other before wins
        by_cases own : other = request
        · rw [own]
          exact ⟨_, Locks.setLock_free stored, rfl⟩
        · change Won ((world.locks.setLock request _).calls other) at wins
          rw [Locks.setLock_calls, Function.update_of_ne own] at wins
          obtain ⟨lease, found, _⟩ := guarded.held other before wins
          rw [stored] at found
          cases found
      · intro other user flushed
        have body := guarded.inside other user flushed
        show ((world.locks.setLock request _).calls other).stage = .body
        rw [Locks.setLock_calls]
        by_cases own : other = request
        · subst own
          rwa [Function.update_self]
        · rwa [Function.update_of_ne own]

theorem moved (guarded : world.Guarded) (permits : world.Permits label)
    (moved : Locks.Moved world.locks label locks) : { world with locks := locks }.Guarded := by
  cases moved with
  | tick later forward => exact guarded.tick permits forward
  | acquire token process ttlSeconds new valid =>
      exact guarded.loses (by simp [Won]) (by simp [new])
  | serveSet token sent => exact guarded.serveSet
  | refuseSet token sets sent =>
      exact guarded.loses (by simp [Won, Locks.Call.ending, Locks.Stage.sets])
        (not_body (Locks.sets_outside sets))
  | loseSet token sets =>
      exact guarded.loses (by simp [Won, Locks.Call.ending, Locks.Stage.sets])
        (not_body (Locks.sets_outside sets))
  | entered token stage won =>
      refine guarded.turned Locks.enter_redis rfl rfl ?_ fun _ => rfl
      intro _
      exact .inr (.inr ⟨by rw [stage]; rfl, won⟩)
  | reentry token stage missed registered =>
      exact guarded.loses (by simp [Won, Locks.Call.ending, Locks.Stage.sets]) (by simp [stage])
  | contended token stage missed =>
      exact guarded.loses (by simp [Won, Locks.Stage.sets]) (by simp [stage])
  | wake token stage =>
      exact guarded.loses (by simp [Won]) (by simp [stage])
  | readRetry token acquired stage reply =>
      refine guarded.turned Locks.put_redis rfl rfl ?_ ?_
      · rintro (body | retried | ⟨sets, _⟩)
        · cases body
        · cases retried
          exact .inr (.inr ⟨by rw [stage]; rfl, reply⟩)
        · cases sets
      · intro body
        rw [stage] at body
        cases body
  | resumed token stage =>
      refine guarded.turned Locks.enter_redis rfl rfl ?_ fun _ => rfl
      intro _
      exact .inr (.inl stage)
  | missed token stage =>
      exact guarded.loses (by simp [Won, Locks.Call.ending, Locks.Stage.sets]) (by simp [stage])
  | timeout token waits =>
      exact guarded.loses (by simp [Won, Locks.Call.ending, Locks.Stage.sets])
        (not_body (Locks.waits_outside waits))
  | exit id token new stage =>
      have exited : ∃ began, (world.locks.exit id token).ops =
          Function.update world.locks.ops id (some began) ∧ began.Began token .release :=
        Locks.exit_ops
      obtain ⟨began, ops, begins⟩ := exited
      refine guarded.releases permits ops begins.token
        (fun other differ => Locks.exit_calls_other differ) ?_
      intro other _ holds
      exact Locks.exit_redis.holds.mpr holds
  | serveOp id op known sent =>
      have ops : (world.locks.serveScript id op).ops = Function.update world.locks.ops id
          (some { op with
            wire := .answered (world.locks.script op.token op.script world.locks.lease).2 }) := rfl
      refine guarded.releases (guarded.ops id op known) ops rfl (fun _ _ => rfl) ?_
      intro other differ holds
      refine ((Locks.Moved.serveOp id op known sent).holds holds ?_).1
      rintro ⟨found, served, own, _⟩
      rw [known] at served
      cases served
      exact differ own.symm
  | readOp id op reply known awaiting answered =>
      have ops : ((world.locks.finish id op reply).leave id op.token).ops = Function.update
          world.locks.ops id (some { op with wire := .idle, state := .returned reply }) := by
        rw [Locks.leave_ops, Locks.finish_ops]
      refine guarded.releases (guarded.ops id op known) ops rfl ?_ ?_
      · intro other differ
        rw [Locks.leave_calls_other differ, Locks.finish_calls_other differ]
      · intro other _ holds
        exact Locks.read_redis.holds.mpr holds
  | redisFailure => cases permits
  | cancel token inside => cases permits
  | invoke id token script new inside => cases permits
  | raiseOp id op known awaiting => cases permits

/-- A request goes on. -/
theorem put (guarded : world.Guarded)
    (onward : stage.past = false → (world.stages request).past = false)
    (body : ∀ user, stage = .flushed user → (world.locks.calls request).stage = .body) :
    (world.put request stage).Guarded := by
  have past (other : RequestId) (before : (world.stages other).past = true) :
      ((world.put request stage).stages other).past = true := by
    show (Function.update world.stages request stage other).past = true
    by_cases own : other = request
    · subst own
      rw [Function.update_self]
      cases after : stage.past with
      | true => rfl
      | false =>
          rw [onward after] at before
          cases before
    · rwa [Function.update_of_ne own]
  refine ⟨?_, ?_, ?_⟩
  · intro id op known
    exact past op.token (guarded.ops id op known)
  · intro other after wins
    refine guarded.held other ?_ wins
    cases before : (world.stages other).past with
    | false => rfl
    | true =>
        rw [past other before] at after
        cases after
  · intro other user flushed
    change Function.update world.stages request stage other = .flushed user at flushed
    by_cases own : other = request
    · subst own
      rw [Function.update_self] at flushed
      exact body user flushed
    · rw [Function.update_of_ne own] at flushed
      exact guarded.inside other user flushed

end World.Guarded

end

/-- The answer of `deactivate_user` for a user whose row is not active. -/
def alreadyDeactivated : HttpError := ⟨409, "El usuario ya está desactivado"⟩

/-- What an outcome says of the deactivations that are committed. -/
def Outcome.Honest (request : RequestId) (committed : List RequestId) : Outcome → Prop
  | .deactivated => committed = [request]
  | .raised error => request ∉ committed ∧ error = alreadyDeactivated ∧ committed ≠ []
  | .lockError _ => request ∉ committed

/-- A request with the row it has loaded, where `row` is the row before any deactivation. -/
def Stage.Honest (row : User) (request : RequestId) (committed : List RequestId) : Stage → Prop
  | .begun => request ∉ committed
  | .loaded target => request ∉ committed ∧ target = { row with isActive := target.isActive }
  | .locking target => request ∉ committed ∧ target = { row with isActive := target.isActive }
  | .flushed user => user = { row with isActive := false } ∧ committed = []
  | .leaving outcome => outcome.Honest request committed
  | .ended outcome => outcome.Honest request committed

structure World.Serial (row : User) (world : World) : Prop where
  once : world.committed.length ≤ 1
  current : world.row = { row with isActive := world.committed.isEmpty }
  stages : ∀ request, (world.stages request).Honest row request world.committed

section

variable {endpoint : Endpoint} {row target user : User} {world next : World} {label : Label}
  {request : RequestId} {stage : Stage}

theorem authorised_active (authorised : endpoint.Authorised request row)
    (active : target = { row with isActive := target.isActive }) :
    endpoint.Authorised request target := by
  rw [active]
  obtain ⟨passed, policy⟩ := authorised
  refine ⟨?_, policy⟩
  obtain ⟨_, role, passed⟩ := Except.bind_eq_ok.mp passed
  obtain ⟨_, tenant, _⟩ := Except.bind_eq_ok.mp passed
  exact Except.bind_eq_ok.mpr ⟨_, role, Except.bind_eq_ok.mpr ⟨_, tenant, rfl⟩⟩

/-- The endpoint for an authorised caller: it looks at the row that the session has loaded. -/
theorem deactivateUser_authorised (authorised : endpoint.Authorised request target)
    (storable : target.storable = true) :
    endpoint.deactivateUser request target =
      if target.isActive then .ok { target with isActive := false }
      else .error alreadyDeactivated := by
  obtain ⟨passed, policy⟩ := authorised
  obtain ⟨_, _, passed⟩ := Except.bind_eq_ok.mp passed
  obtain ⟨_, tenant, _⟩ := Except.bind_eq_ok.mp passed
  have stored : ({ target with isActive := false } : User).storable = true := storable
  unfold Endpoint.deactivateUser Service.deactivateUser
  rw [Except.bind_of_ok policy, Except.bind_of_ok tenant]
  cases active : target.isActive with
  | true =>
      simp only [stored]
      rfl
  | false => rfl

namespace World.Serial

theorem put (serial : world.Serial row) (honest : stage.Honest row request world.committed) :
    (world.put request stage).Serial row := by
  refine ⟨serial.once, serial.current, ?_⟩
  intro other
  show (Function.update world.stages request stage other).Honest row other world.committed
  by_cases own : other = request
  · subst own
    rw [Function.update_self]
    exact honest
  · rw [Function.update_of_ne own]
    exact serial.stages other

/-- The commit of a request finds no other commit and no other request that could commit. -/
theorem write (serial : world.Serial row) (guarded : world.Guarded)
    (flushed : world.stages request = .flushed user) : (world.write request user).Serial row := by
  have mine := serial.stages request
  rw [flushed] at mine
  obtain ⟨updated, none_yet⟩ := mine
  have first : (world.write request user).committed = [request] := by
    show world.committed ++ [request] = [request]
    rw [none_yet]
    rfl
  refine ⟨?_, ?_, ?_⟩
  · rw [first]
    exact Nat.le_refl 1
  · rw [first]
    show { world.row with isActive := user.isActive } = _
    rw [serial.current, updated]
    rfl
  · intro other
    rw [first]
    show (Function.update world.stages request _ other).Honest row other [request]
    by_cases own : other = request
    · subst own
      rw [Function.update_self]
      exact rfl
    · rw [Function.update_of_ne own]
      have theirs := serial.stages other
      rw [none_yet] at theirs
      have outside : other ∉ [request] := by simpa using own
      have honest (outcome : Outcome) (before : outcome.Honest other []) :
          outcome.Honest other [request] := by
        cases outcome with
        | deactivated => cases before
        | raised error => exact absurd rfl before.2.2
        | lockError reason => exact outside
      cases stage : world.stages other with
      | begun => exact outside
      | loaded target =>
          rw [stage] at theirs
          exact ⟨outside, theirs.2⟩
      | locking target =>
          rw [stage] at theirs
          exact ⟨outside, theirs.2⟩
      | flushed target =>
          have holds : world.locks.Holds other :=
            guarded.held other (by rw [stage]; rfl) (.inl (guarded.inside other target stage))
          have held : world.locks.Holds request :=
            guarded.held request (by rw [flushed]; rfl) (.inl (guarded.inside request user flushed))
          exact absurd (holds_unique holds held) own
      | leaving outcome =>
          rw [stage] at theirs
          exact honest outcome theirs
      | ended outcome =>
          rw [stage] at theirs
          exact honest outcome theirs

theorem moved (serial : world.Serial row) (guarded : world.Guarded)
    (storable : row.storable = true) (authorised : ∀ request, endpoint.Authorised request row)
    (met : world.UpToDate label) (moved : Moved endpoint world label next) : next.Serial row := by
  cases moved with
  | loaded request target stage passed =>
      have before := serial.stages request
      rw [stage] at before
      have same : endpoint.Authorised request world.row :=
        authorised_active (authorised request) (by rw [serial.current])
      rw [same.1] at passed
      cases passed
      exact serial.put ⟨before, by rw [serial.current]⟩
  | turnedAway request error stage refused =>
      have same : endpoint.Authorised request world.row :=
        authorised_active (authorised request) (by rw [serial.current])
      rw [same.1] at refused
      cases refused
  | acquire request process target locks stage moved =>
      have before := serial.stages request
      rw [stage] at before
      have after : (world.put request (.locking target)).Serial row := serial.put before
      exact ⟨after.once, after.current, after.stages⟩
  | lock label locks inner moved => exact ⟨serial.once, serial.current, serial.stages⟩
  | lockFailed request target reason stage =>
      have before := serial.stages request
      rw [stage] at before
      exact serial.put before.1
  | flushed request target user stage body passed =>
      have before := serial.stages request
      rw [stage] at before
      obtain ⟨_, loaded⟩ := before
      have current : target.isActive = world.row.isActive := met target stage
      have kept : target.storable = true := by rw [loaded]; exact storable
      rw [deactivateUser_authorised (authorised_active (authorised request) loaded) kept] at passed
      split at passed
      next active =>
        cases passed
        refine serial.put ⟨by rw [loaded], ?_⟩
        rw [current, serial.current] at active
        exact List.isEmpty_iff.mp active
      next => cases passed
  | refused request target error stage refused =>
      have before := serial.stages request
      rw [stage] at before
      obtain ⟨outside, loaded⟩ := before
      have current : target.isActive = world.row.isActive := met target stage
      have kept : target.storable = true := by rw [loaded]; exact storable
      rw [deactivateUser_authorised (authorised_active (authorised request) loaded) kept] at refused
      split at refused
      next => cases refused
      next inactive =>
        cases refused
        refine serial.put ⟨outside, rfl, ?_⟩
        intro none_yet
        apply inactive
        rw [current, serial.current, none_yet]
        rfl
  | commit request user stage => exact serial.write guarded stage
  | exit request op outcome locks stage moved => exact ⟨serial.once, serial.current, serial.stages⟩
  | finish request outcome stage =>
      have before := serial.stages request
      rw [stage] at before
      exact serial.put before

end World.Serial

theorem World.Guarded.step (guarded : world.Guarded) (lasts : world.LeaseLasts label)
    (moved : Moved endpoint world label next) : next.Guarded := by
  cases moved with
  | loaded request target stage passed =>
      refine guarded.put ?_ nofun
      intro _
      rw [stage]
      rfl
  | turnedAway request error stage refused => exact guarded.put nofun nofun
  | acquire request process target locks stage moved =>
      have permits : world.Permits (.acquire request process endpoint.ttlSeconds) := trivial
      have acquired : World.Guarded { world with locks := locks } := guarded.moved permits moved
      refine acquired.put ?_ nofun
      intro _
      show (world.stages request).past = false
      rw [stage]
      rfl
  | lock label locks inner moved =>
      refine guarded.moved ?_ moved
      cases label <;> first | exact inner | exact lasts | cases inner
  | lockFailed request target reason stage => exact guarded.put nofun nofun
  | flushed request target user stage body passed =>
      refine guarded.put ?_ fun _ _ => body
      intro _
      rw [stage]
      rfl
  | refused request target error stage refused => exact guarded.put nofun nofun
  | commit request user stage =>
      have left : (world.put request (.leaving .deactivated)).Guarded := guarded.put nofun nofun
      exact ⟨left.ops, left.held, left.inside⟩
  | exit request op outcome locks stage moved =>
      refine guarded.moved ?_ moved
      show (world.stages request).past = true
      rw [stage]
      rfl
  | finish request outcome stage => exact guarded.put nofun nofun

theorem reachable_authorised {allowed : World → Label → Prop}
    (reached : (deletions endpoint row).ReachableBy allowed world) :
    row.storable = true ∧ ∀ request, endpoint.Authorised request row := by
  induction reached with
  | start begins => exact begins.2.2
  | step _ _ _ ih => exact ih

theorem reachable_guarded
    (reached : (deletions endpoint row).ReachableBy World.LeaseLasts world) : world.Guarded := by
  refine reached.invariant ?_ ?_
  · rintro _ ⟨rfl, _⟩
    refine ⟨nofun, ?_, nofun⟩
    rintro request _ (body | retried | ⟨sets, _⟩)
    · cases body
    · cases retried
    · cases sets
  · intro before after label _ guarded lasts taken
    exact guarded.step lasts (step_moved taken)

/-- At most one request deactivates the user and writes. Each other one ends with the 409 of a
user that is already deactivated, after that commit, or with an error of the lease. -/
structure World.Serialised (row : User) (world : World) : Prop where
  once : world.committed.length ≤ 1
  current : world.row = { row with isActive := world.committed.isEmpty }
  success : ∀ request, world.stages request = .ended .deactivated → world.committed = [request]
  others : ∀ request outcome, world.stages request = .ended outcome → outcome ≠ .deactivated →
    request ∉ world.committed ∧
      (outcome = .raised alreadyDeactivated ∧ world.committed ≠ [] ∨
        ∃ reason, outcome = .lockError reason)

/-- A run in which no lease expires while it is held and every request enters
`deactivate_user` with an up to date row. -/
def World.Fresh (world : World) (label : Label) : Prop :=
  world.LeaseLasts label ∧ world.UpToDate label

/-- The lease serialises the requests as long as none of them looks at an old row. -/
theorem deactivation_serialised
    (reached : (deletions endpoint row).ReachableBy World.Fresh world) :
    world.Serialised row := by
  obtain ⟨storable, authorised⟩ := reachable_authorised reached
  have serial : world.Serial row := by
    refine reached.invariant ?_ ?_
    · rintro _ ⟨rfl, active, _⟩
      refine ⟨Nat.zero_le 1, ?_, fun _ => List.not_mem_nil⟩
      show row = { row with isActive := true }
      rw [← active]
    · intro before after label passed serial met taken
      have guarded := reachable_guarded (passed.mono fun _ _ met => met.1)
      exact serial.moved guarded storable authorised met.2 (step_moved taken)
  refine ⟨serial.once, serial.current, ?_, ?_⟩
  · intro request ended
    have honest := serial.stages request
    rw [ended] at honest
    exact honest
  · intro request outcome ended other
    have honest := serial.stages request
    rw [ended] at honest
    cases outcome with
    | deactivated => exact absurd rfl other
    | raised error =>
        obtain ⟨outside, answer, some_commit⟩ := honest
        exact ⟨outside, .inl ⟨by rw [answer], some_commit⟩⟩
    | lockError reason => exact ⟨honest, .inr ⟨reason, rfl⟩⟩

end

instance (world : World) : ∀ label : Label, Decidable (world.LeaseLasts label)
  | .lock label => inferInstanceAs (Decidable (∀ later ∈ tick? label, ∀ lease ∈ world.locks.lease,
      lease.deadline ≤ later → isOver (world.locks.calls lease.token).stage = true))
  | .load _ => .isTrue trivial
  | .acquire _ _ => .isTrue trivial
  | .lockFailed _ => .isTrue trivial
  | .deactivate _ => .isTrue trivial
  | .commit _ => .isTrue trivial
  | .exit _ _ => .isTrue trivial
  | .finish _ => .isTrue trivial

instance (world : World) : ∀ label : Label, Decidable (world.UpToDate label)
  | .deactivate request =>
      match stage : world.stages request with
      | .locking target => decidable_of_iff (target.isActive = world.row.isActive)
          (by simp [World.UpToDate, stage])
      | .begun => .isTrue (by simp [World.UpToDate, stage])
      | .loaded _ => .isTrue (by simp [World.UpToDate, stage])
      | .flushed _ => .isTrue (by simp [World.UpToDate, stage])
      | .leaving _ => .isTrue (by simp [World.UpToDate, stage])
      | .ended _ => .isTrue (by simp [World.UpToDate, stage])
  | .load _ => .isTrue trivial
  | .acquire _ _ => .isTrue trivial
  | .lock _ => .isTrue trivial
  | .lockFailed _ => .isTrue trivial
  | .commit _ => .isTrue trivial
  | .exit _ _ => .isTrue trivial
  | .finish _ => .isTrue trivial

instance (world : World) (label : Label) : Decidable (world.Fresh label) :=
  inferInstanceAs (Decidable (_ ∧ _))

/-- Admins and an analyst of their tenant. -/
def admins : Endpoint := ⟨0, fun request => (request + 1, member .admin "a@x.es"), 30⟩

/-- The first admin, from the lease to the response. -/
def firstDeletion : List Label :=
  [.deactivate 0, .commit 0, .exit 0 0, .lock (.serveOp 0), .lock (.readOp 0), .finish 0]

/-- The second admin loads the user once the first one is done. -/
def oneAfterTheOther : List Label :=
  [.load 0, .acquire 0 0, .lock (.serveSet 0), .lock (.readSet 0)] ++ firstDeletion ++
  [.load 1, .acquire 1 1, .lock (.serveSet 1), .lock (.readSet 1), .deactivate 1, .exit 1 1,
    .lock (.serveOp 1), .lock (.readOp 1), .finish 1]

/-- The second admin loads the user first and then waits for the lease. -/
def loadedBeforeWaiting : List Label :=
  [.load 0, .load 1, .acquire 0 0, .lock (.serveSet 0), .lock (.readSet 0), .acquire 1 1,
    .lock (.serveSet 1), .lock (.readSet 1)] ++ firstDeletion ++
  [.lock (.wake 1), .lock (.serveSet 1), .lock (.readRetry 1), .lock (.resume 1), .deactivate 1,
    .commit 1, .exit 1 1, .lock (.serveOp 1), .lock (.readOp 1), .finish 1]

theorem admins_start : (deletions admins (member .analyst "c@x.es")).start
    (.initial (member .analyst "c@x.es")) :=
  ⟨rfl, rfl, by decide +kernel, fun _ => ⟨rfl, rfl⟩⟩

theorem deactivation_serialised_conflict :
    ∃ world, (deletions admins (member .analyst "c@x.es")).exec
        (.initial (member .analyst "c@x.es")) oneAfterTheOther = some world ∧
      world.stages 0 = .ended .deactivated ∧
      world.stages 1 = .ended (.raised alreadyDeactivated) ∧
      world.Serialised (member .analyst "c@x.es") := by
  have run : ∃ world, (deletions admins (member .analyst "c@x.es")).exec
        (.initial (member .analyst "c@x.es")) oneAfterTheOther = some world ∧
      (world.stages 0 = .ended .deactivated ∧
        world.stages 1 = .ended (.raised alreadyDeactivated)) ∧
      (deletions admins (member .analyst "c@x.es")).Allows World.Fresh
        (.initial (member .analyst "c@x.es")) oneAfterTheOther :=
    ⟨_, rfl, by decide +kernel, by decide +kernel⟩
  obtain ⟨world, run, ⟨first, second⟩, allows⟩ := run
  exact ⟨world, run, first, second,
    deactivation_serialised (Machine.ReachableBy.exec (.start admins_start) allows run)⟩

/-- The second request finds the user active in its session and deactivates it again. -/
theorem deactivated_twice :
    ∃ world, (deletions admins (member .analyst "c@x.es")).ReachableBy World.LeaseLasts world ∧
      world.stages 0 = .ended .deactivated ∧ world.stages 1 = .ended .deactivated ∧
      world.committed = [0, 1] ∧ ¬ world.Serialised (member .analyst "c@x.es") := by
  have run : ∃ world, (deletions admins (member .analyst "c@x.es")).exec
        (.initial (member .analyst "c@x.es")) loadedBeforeWaiting = some world ∧
      (world.stages 0 = .ended .deactivated ∧ world.stages 1 = .ended .deactivated ∧
        world.committed = [0, 1]) ∧
      (deletions admins (member .analyst "c@x.es")).Allows World.LeaseLasts
        (.initial (member .analyst "c@x.es")) loadedBeforeWaiting :=
    ⟨_, rfl, by decide +kernel, by decide +kernel⟩
  obtain ⟨world, run, ⟨first, second, both⟩, allows⟩ := run
  refine ⟨world, Machine.ReachableBy.exec (.start admins_start) allows run, first, second, both, ?_⟩
  intro serialised
  have once := serialised.once
  rw [both] at once
  exact absurd once (by decide)

end Users.Deactivation
