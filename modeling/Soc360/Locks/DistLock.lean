import Soc360.Store.Machine
import Mathlib.Logic.Function.Basic
import Mathlib.Tactic.Common

set_option autoImplicit false

namespace Locks

/-- The token of one call of `acquire_dist_lock`, which also names the call: `token_hex`
gives each call its own. -/
abbrev Token := Nat
abbrev Process := Nat
abbrev OpId := Nat

/-- The key in Redis: its value and the millisecond at which it expires. -/
structure Lease where
  token : Token
  deadline : Nat
  deriving DecidableEq

/-- A command of a client: none, one on its way, or one that Redis executed with a reply
that nobody has read yet. -/
inductive Wire where
  | idle
  | sent
  | answered (reply : Bool)
  deriving DecidableEq

/-- How a call of `acquire_dist_lock` ends. Redis answers with an error, or not at all
(`outage`). `exited` is the end of the context. -/
inductive CallEnd where
  | lockTimeout
  | lockReentry
  | cancelled
  | redisError
  | outage
  | exited
  deriving DecidableEq

/-- Where a call stands: in its first SET, in `retry` before, in or after the second SET,
in the body of the context, or in the release on its way out. -/
inductive Stage where
  | unborn
  | setting
  | sleeping
  | retrying
  | retried (acquired : Bool)
  | body
  | exiting (op : OpId)
  | ended (reason : CallEnd)
  deriving DecidableEq

/-- A call with the fields of its `LockHandle` and its SET. -/
structure Call where
  process : Process
  ttlSeconds : Nat
  stage : Stage
  wire : Wire
  lost : Bool
  released : Bool
  deriving DecidableEq

/-- `RENEW_LUA` and `RELEASE_LUA`. -/
inductive Script where
  | renew (ttlSeconds : Nat)
  | release
  deriving DecidableEq

inductive OpState where
  | awaiting
  | returned (value : Bool)
  | raised
  deriving DecidableEq

/-- A call of `renew` or `release` on a handle. -/
structure Op where
  token : Token
  script : Script
  wire : Wire
  state : OpState
  deriving DecidableEq

/-- One execution of a script, with the key before and after it. -/
structure LuaStep where
  op : OpId
  token : Token
  before : Option Lease
  after : Option Lease
  deriving DecidableEq

/-- Any processes over one key. `acquired` and `scripts` record the SETs that took the key
and the scripts that Redis executed. -/
structure World where
  clock : Nat
  lease : Option Lease
  calls : Token → Call
  ops : OpId → Option Op
  activeTokens : Process → Option Token
  acquired : List Token
  scripts : List LuaStep

def World.initial : World :=
  ⟨0, none, fun _ => ⟨0, 0, .unborn, .idle, false, false⟩, fun _ => none, fun _ => none, [], []⟩

/-- The key stores the token. -/
def World.Holds (world : World) (token : Token) : Prop :=
  ∃ lease, world.lease = some lease ∧ lease.token = token

instance (world : World) (token : Token) : Decidable (world.Holds token) :=
  match found : world.lease with
  | none => .isFalse (by simp [World.Holds, found])
  | some lease => decidable_of_iff (lease.token = token) (by simp [World.Holds, found])

/-- The context was entered: there is a handle. -/
def Stage.entered : Stage → Bool
  | .body => true
  | .exiting _ => true
  | .ended .exited => true
  | _ => false

def Call.ending (call : Call) (reason : CallEnd) : Call := { call with stage := .ended reason }

namespace World

variable (world : World)

def put (token : Token) (call : Call) : World :=
  { world with calls := Function.update world.calls token call }

def putOp (id : OpId) (op : Op) : World :=
  { world with ops := Function.update world.ops id (some op) }

/-- `SET key token NX PX …` as Redis executes it. -/
def setLock (token : Token) (call : Call) : World :=
  match world.lease with
  | none =>
      { world.put token { call with wire := .answered true } with
        lease := some ⟨token, world.clock + call.ttlSeconds * 1000⟩
        acquired := world.acquired ++ [token] }
  | some _ => world.put token { call with wire := .answered false }

/-- The handle is made and registered. -/
def enter (token : Token) (call : Call) : World :=
  { world.put token { call with stage := .body, wire := .idle } with
    activeTokens := Function.update world.activeTokens call.process (some token) }

/-- The key after a script of the owner. -/
def script (token : Token) : Script → Option Lease → Option Lease × Bool
  | .renew ttlSeconds, some lease =>
      if lease.token = token then
        (some { lease with deadline := world.clock + ttlSeconds * 1000 }, true)
      else (some lease, false)
  | .release, some lease => if lease.token = token then (none, true) else (some lease, false)
  | _, none => (none, false)

/-- `_mark_lost`. -/
def markLost (token : Token) : World :=
  let call := world.calls token
  { world.put token { call with lost := true } with
    activeTokens :=
      if world.activeTokens call.process = some token then
        Function.update world.activeTokens call.process none
      else world.activeTokens }

/-- What `renew` and `release` do before they send their script; `none` is to be sent. -/
def precheck (token : Token) : Script → World × Option OpState
  | .renew ttlSeconds =>
      let call := world.calls token
      if call.lost || call.released then (world, some (.returned false))
      else if 1 ≤ ttlSeconds then (world, none)
      -- `_validate_ttl`
      else (world, some .raised)
  | .release =>
      let call := world.calls token
      if call.released then (world, some (.returned false))
      else if call.lost then
        (world.put token { call with released := true }, some (.returned false))
      else (world, none)

/-- A call of `renew` or `release`. -/
def invoke (id : OpId) (token : Token) (script : Script) : World :=
  match world.precheck token script with
  | (after, some state) => after.putOp id ⟨token, script, .idle, state⟩
  | (after, none) => after.putOp id ⟨token, script, .sent, .awaiting⟩

/-- The end of `renew` and of `release` once the reply is there. -/
def finish (id : OpId) (op : Op) (reply : Bool) : World :=
  let call := world.calls op.token
  let after := match op.script, reply with
    | .renew ttlSeconds, true => world.put op.token { call with ttlSeconds := ttlSeconds }
    | .renew _, false => world.markLost op.token
    | .release, true =>
        { world.put op.token { call with released := true } with
          activeTokens := Function.update world.activeTokens call.process none }
    | .release, false => (world.put op.token { call with released := true }).markLost op.token
  after.putOp id { op with wire := .idle, state := .returned reply }

/-- The context ends with the release it awaits. -/
def leave (id : OpId) (token : Token) : World :=
  let call := world.calls token
  if call.stage = .exiting id then world.put token (call.ending .exited) else world

/-- `__aexit__` releases; a release that sends nothing ends the context at once. -/
def exit (id : OpId) (token : Token) : World :=
  let call := world.calls token
  let exiting := (world.put token { call with stage := .exiting id }).invoke id token .release
  if (exiting.ops id).any (·.state = .awaiting) then exiting else exiting.leave id token

/-- Redis executes a script. -/
def serveScript (id : OpId) (op : Op) : World :=
  let (lease, reply) := world.script op.token op.script world.lease
  { world.putOp id { op with wire := .answered reply } with
    lease := lease
    scripts := world.scripts ++ [⟨id, op.token, world.lease, lease⟩] }

end World

/-- `serveSet` and `serveOp` are Redis executing a command, `refuseSet` its error reply and
`loseSet` a broken connection. `raiseOp` is an outage or a cancellation at the script. -/
inductive Label where
  | tick (later : Nat)
  | redisFailure
  | acquire (token : Token) (process : Process) (ttlSeconds : Nat)
  | serveSet (token : Token)
  | refuseSet (token : Token)
  | loseSet (token : Token)
  | readSet (token : Token)
  | wake (token : Token)
  | readRetry (token : Token)
  | resume (token : Token)
  | timeout (token : Token)
  | cancel (token : Token)
  | invoke (op : OpId) (token : Token) (script : Script)
  | exit (op : OpId) (token : Token)
  | serveOp (op : OpId)
  | readOp (op : OpId)
  | raiseOp (op : OpId)
  deriving DecidableEq

/-- A SET of the call is awaited. -/
def Stage.sets : Stage → Bool
  | .setting => true
  | .retrying => true
  | _ => false

/-- The call awaits its retry task. -/
def Stage.waits : Stage → Bool
  | .sleeping => true
  | .retrying => true
  | .retried _ => true
  | _ => false

def World.step (world : World) : Label → Option World
  | .tick later =>
      if world.clock ≤ later then
        some { world with clock := later, lease := world.lease.filter (later < ·.deadline) }
      else none
  | .redisFailure => some { world with lease := none }
  | .acquire token process ttlSeconds =>
      if (world.calls token).stage = .unborn ∧ 1 ≤ ttlSeconds then
        some (world.put token ⟨process, ttlSeconds, .setting, .sent, false, false⟩)
      else none
  | .serveSet token =>
      let call := world.calls token
      if call.wire = .sent then some (world.setLock token call) else none
  | .refuseSet token =>
      let call := world.calls token
      if call.stage.sets ∧ call.wire = .sent then
        some (world.put token { call.ending .redisError with wire := .idle })
      else none
  | .loseSet token =>
      let call := world.calls token
      if call.stage.sets then some (world.put token (call.ending .outage)) else none
  | .readSet token =>
      let call := world.calls token
      match call.stage, call.wire with
      | .setting, .answered true => some (world.enter token call)
      | .setting, .answered false =>
          if (world.activeTokens call.process).isSome then
            some (world.put token { call.ending .lockReentry with wire := .idle })
          else some (world.put token { call with stage := .sleeping, wire := .idle })
      | _, _ => none
  | .wake token =>
      let call := world.calls token
      if call.stage = .sleeping then
        some (world.put token { call with stage := .retrying, wire := .sent })
      else none
  | .readRetry token =>
      let call := world.calls token
      match call.stage, call.wire with
      | .retrying, .answered acquired =>
          some (world.put token { call with stage := .retried acquired, wire := .idle })
      | _, _ => none
  | .resume token =>
      let call := world.calls token
      match call.stage with
      | .retried true => some (world.enter token call)
      | .retried false => some (world.put token (call.ending .lockTimeout))
      | _ => none
  | .timeout token =>
      -- Whatever the cancelled retry task has won is thrown away with it.
      let call := world.calls token
      if call.stage.waits then some (world.put token (call.ending .lockTimeout)) else none
  | .cancel token =>
      let call := world.calls token
      if call.stage = .setting ∨ call.stage.waits then
        some (world.put token (call.ending .cancelled))
      else none
  | .invoke id token script =>
      if (world.ops id).isNone ∧ (world.calls token).stage.entered then
        some (world.invoke id token script)
      else none
  | .exit id token =>
      if (world.ops id).isNone ∧ (world.calls token).stage = .body then
        some (world.exit id token)
      else none
  | .serveOp id =>
      (world.ops id).bind fun op =>
        if op.wire = .sent then some (world.serveScript id op) else none
  | .readOp id =>
      (world.ops id).bind fun op =>
        match op.state, op.wire with
        | .awaiting, .answered reply => some ((world.finish id op reply).leave id op.token)
        | _, _ => none
  | .raiseOp id =>
      (world.ops id).bind fun op =>
        if op.state = .awaiting then
          some ((world.putOp id { op with state := .raised }).leave id op.token)
        else none

/-- Any number of calls of `acquire_dist_lock` by any number of processes on one key. -/
def leases : Machine World Label where
  start world := world = .initial
  step := World.step

/-- Everything a step can be. -/
inductive Moved (world : World) : Label → World → Prop
  | tick (later : Nat) (forward : world.clock ≤ later) :
      Moved world (.tick later)
        { world with clock := later, lease := world.lease.filter (later < ·.deadline) }
  | redisFailure : Moved world .redisFailure { world with lease := none }
  | acquire (token : Token) (process : Process) (ttlSeconds : Nat)
      (new : (world.calls token).stage = .unborn) (valid : 1 ≤ ttlSeconds) :
      Moved world (.acquire token process ttlSeconds)
        (world.put token ⟨process, ttlSeconds, .setting, .sent, false, false⟩)
  | serveSet (token : Token) (sent : (world.calls token).wire = .sent) :
      Moved world (.serveSet token) (world.setLock token (world.calls token))
  | refuseSet (token : Token) (sets : (world.calls token).stage.sets = true)
      (sent : (world.calls token).wire = .sent) :
      Moved world (.refuseSet token)
        (world.put token { (world.calls token).ending .redisError with wire := .idle })
  | loseSet (token : Token) (sets : (world.calls token).stage.sets = true) :
      Moved world (.loseSet token) (world.put token ((world.calls token).ending .outage))
  | entered (token : Token) (stage : (world.calls token).stage = .setting)
      (won : (world.calls token).wire = .answered true) :
      Moved world (.readSet token) (world.enter token (world.calls token))
  | reentry (token : Token) (stage : (world.calls token).stage = .setting)
      (missed : (world.calls token).wire = .answered false)
      (registered : (world.activeTokens (world.calls token).process).isSome = true) :
      Moved world (.readSet token)
        (world.put token { (world.calls token).ending .lockReentry with wire := .idle })
  | contended (token : Token) (stage : (world.calls token).stage = .setting)
      (missed : (world.calls token).wire = .answered false) :
      Moved world (.readSet token)
        (world.put token { world.calls token with stage := .sleeping, wire := .idle })
  | wake (token : Token) (stage : (world.calls token).stage = .sleeping) :
      Moved world (.wake token)
        (world.put token { world.calls token with stage := .retrying, wire := .sent })
  | readRetry (token : Token) (acquired : Bool) (stage : (world.calls token).stage = .retrying)
      (reply : (world.calls token).wire = .answered acquired) :
      Moved world (.readRetry token)
        (world.put token { world.calls token with stage := .retried acquired, wire := .idle })
  | resumed (token : Token) (stage : (world.calls token).stage = .retried true) :
      Moved world (.resume token) (world.enter token (world.calls token))
  | missed (token : Token) (stage : (world.calls token).stage = .retried false) :
      Moved world (.resume token) (world.put token ((world.calls token).ending .lockTimeout))
  | timeout (token : Token) (waits : (world.calls token).stage.waits = true) :
      Moved world (.timeout token) (world.put token ((world.calls token).ending .lockTimeout))
  | cancel (token : Token)
      (inside : (world.calls token).stage = .setting ∨ (world.calls token).stage.waits = true) :
      Moved world (.cancel token) (world.put token ((world.calls token).ending .cancelled))
  | invoke (id : OpId) (token : Token) (script : Script) (new : world.ops id = none)
      (inside : (world.calls token).stage.entered = true) :
      Moved world (.invoke id token script) (world.invoke id token script)
  | exit (id : OpId) (token : Token) (new : world.ops id = none)
      (stage : (world.calls token).stage = .body) :
      Moved world (.exit id token) (world.exit id token)
  | serveOp (id : OpId) (op : Op) (known : world.ops id = some op) (sent : op.wire = .sent) :
      Moved world (.serveOp id) (world.serveScript id op)
  | readOp (id : OpId) (op : Op) (reply : Bool) (known : world.ops id = some op)
      (awaiting : op.state = .awaiting) (answered : op.wire = .answered reply) :
      Moved world (.readOp id) ((world.finish id op reply).leave id op.token)
  | raiseOp (id : OpId) (op : Op) (known : world.ops id = some op)
      (awaiting : op.state = .awaiting) :
      Moved world (.raiseOp id)
        ((world.putOp id { op with state := .raised }).leave id op.token)

theorem step_moved {world next : World} {label : Label}
    (taken : world.step label = some next) : Moved world label next := by
  cases label with
  | tick later =>
      simp only [World.step] at taken
      split at taken
      next forward => cases taken; exact .tick later forward
      next => cases taken
  | redisFailure => cases taken; exact .redisFailure
  | acquire token process ttlSeconds =>
      simp only [World.step] at taken
      split at taken
      next ready => cases taken; exact .acquire token process ttlSeconds ready.1 ready.2
      next => cases taken
  | serveSet token =>
      simp only [World.step] at taken
      split at taken
      next sent => cases taken; exact .serveSet token sent
      next => cases taken
  | refuseSet token =>
      simp only [World.step] at taken
      split at taken
      next ready => cases taken; exact .refuseSet token ready.1 ready.2
      next => cases taken
  | loseSet token =>
      simp only [World.step] at taken
      split at taken
      next sets => cases taken; exact .loseSet token sets
      next => cases taken
  | readSet token =>
      simp only [World.step] at taken
      split at taken
      next stage won => cases taken; exact .entered token stage won
      next stage missed =>
        split at taken
        next registered => cases taken; exact .reentry token stage missed registered
        next => cases taken; exact .contended token stage missed
      next => cases taken
  | wake token =>
      simp only [World.step] at taken
      split at taken
      next stage => cases taken; exact .wake token stage
      next => cases taken
  | readRetry token =>
      simp only [World.step] at taken
      split at taken
      next acquired stage reply => cases taken; exact .readRetry token acquired stage reply
      next => cases taken
  | resume token =>
      simp only [World.step] at taken
      split at taken
      next stage => cases taken; exact .resumed token stage
      next stage => cases taken; exact .missed token stage
      next => cases taken
  | timeout token =>
      simp only [World.step] at taken
      split at taken
      next waits => cases taken; exact .timeout token waits
      next => cases taken
  | cancel token =>
      simp only [World.step] at taken
      split at taken
      next inside => cases taken; exact .cancel token inside
      next => cases taken
  | invoke id token script =>
      simp only [World.step] at taken
      split at taken
      next ready =>
        cases taken
        exact .invoke id token script (Option.isNone_iff_eq_none.mp ready.1) ready.2
      next => cases taken
  | exit id token =>
      simp only [World.step] at taken
      split at taken
      next ready =>
        cases taken
        exact .exit id token (Option.isNone_iff_eq_none.mp ready.1) ready.2
      next => cases taken
  | serveOp id =>
      obtain ⟨op, known, taken⟩ := Option.bind_eq_some_iff.mp taken
      split at taken
      next sent => cases taken; exact .serveOp id op known sent
      next => cases taken
  | readOp id =>
      obtain ⟨op, known, taken⟩ := Option.bind_eq_some_iff.mp taken
      split at taken
      next reply awaiting answered =>
        cases taken
        exact .readOp id op reply known awaiting answered
      next => cases taken
  | raiseOp id =>
      obtain ⟨op, known, taken⟩ := Option.bind_eq_some_iff.mp taken
      split at taken
      next awaiting => cases taken; exact .raiseOp id op known awaiting
      next => cases taken

/-- What a step of a client leaves as it is in Redis. -/
structure World.SameRedis (world next : World) : Prop where
  clock : next.clock = world.clock
  lease : next.lease = world.lease
  acquired : next.acquired = world.acquired
  scripts : next.scripts = world.scripts

/-- What the operations of a handle leave of its call. -/
structure Call.Onward (before after : Call) : Prop where
  process : after.process = before.process
  wire : after.wire = before.wire
  entered : before.stage.entered = true → after.stage.entered = true
  outside : before.stage.entered = false → after = before
  lost : before.lost = true → after.lost = true
  released : before.released = true → after.released = true

section

variable {world next : World} {token other : Token} {id : OpId} {op : Op} {call : Call}

theorem World.SameRedis.refl (world : World) : world.SameRedis world := ⟨rfl, rfl, rfl, rfl⟩

theorem World.SameRedis.trans {last : World} (first : world.SameRedis next)
    (second : next.SameRedis last) : world.SameRedis last :=
  ⟨second.clock.trans first.clock, second.lease.trans first.lease,
    second.acquired.trans first.acquired, second.scripts.trans first.scripts⟩

theorem World.SameRedis.holds (same : world.SameRedis next) :
    next.Holds token ↔ world.Holds token := by
  rw [World.Holds, World.Holds, same.lease]

theorem put_redis : world.SameRedis (world.put token call) :=
  ⟨rfl, rfl, rfl, rfl⟩

theorem enter_redis : world.SameRedis (world.enter token call) :=
  ⟨rfl, rfl, rfl, rfl⟩

theorem precheck_redis {script : Script} :
    world.SameRedis (world.precheck token script).1 := by
  cases script with
  | renew ttlSeconds =>
      simp only [World.precheck]
      split
      · exact .refl world
      · split <;> exact .refl world
  | release =>
      simp only [World.precheck]
      split
      · exact .refl world
      · split
        · exact put_redis
        · exact .refl world

theorem invoke_redis {script : Script} :
    world.SameRedis (world.invoke id token script) := by
  have checked : world.SameRedis (world.precheck token script).1 := precheck_redis
  unfold World.invoke
  split
  next after state found =>
    rw [found] at checked
    exact ⟨checked.clock, checked.lease, checked.acquired, checked.scripts⟩
  next after found =>
    rw [found] at checked
    exact ⟨checked.clock, checked.lease, checked.acquired, checked.scripts⟩

theorem leave_redis : world.SameRedis (world.leave id token) := by
  simp only [World.leave]
  split
  · exact put_redis
  · exact .refl world

theorem finish_redis {reply : Bool} : world.SameRedis (world.finish id op reply) := by
  unfold World.finish
  cases op.script <;> cases reply <;> exact ⟨rfl, rfl, rfl, rfl⟩

theorem read_redis {reply : Bool} :
    world.SameRedis ((world.finish id op reply).leave id token) :=
  finish_redis.trans leave_redis

theorem raise_redis : world.SameRedis ((world.putOp id op).leave id token) := by
  have left : (world.putOp id op).SameRedis ((world.putOp id op).leave id token) := leave_redis
  exact ⟨left.clock, left.lease, left.acquired, left.scripts⟩

theorem setLock_contended {lease : Lease} (stored : world.lease = some lease) :
    world.setLock token call = world.put token { call with wire := .answered false } := by
  simp only [World.setLock, stored]

theorem setLock_free (free : world.lease = none) : (world.setLock token call).lease =
    some ⟨token, world.clock + call.ttlSeconds * 1000⟩ := by
  simp only [World.setLock, free]

theorem Call.Onward.refl (call : Call) : call.Onward call :=
  ⟨rfl, rfl, fun inside => inside, fun _ => rfl, fun lost => lost, fun released => released⟩

theorem Call.Onward.trans {first second third : Call} (left : first.Onward second)
    (right : second.Onward third) : first.Onward third := by
  refine ⟨right.process.trans left.process, right.wire.trans left.wire, ?_, ?_, ?_, ?_⟩
  · intro inside
    exact right.entered (left.entered inside)
  · intro outside
    have same := left.outside outside
    rw [← same] at outside
    rw [right.outside outside, same]
  · intro lost
    exact right.lost (left.lost lost)
  · intro released
    exact right.released (left.released released)

theorem put_calls_self : (world.put token call).calls token = call := Function.update_self ..

theorem put_calls_other (differ : other ≠ token) :
    (world.put token call).calls other = world.calls other :=
  Function.update_of_ne differ ..

/-- A call that is put on keeps the other calls, and its own goes on. -/
theorem put_onward (onward : (world.calls token).Onward call) (other : Token) :
    (world.calls other).Onward ((world.put token call).calls other) := by
  by_cases same : other = token
  · rw [same, put_calls_self]
    exact onward
  · rw [put_calls_other same]
    exact .refl _

theorem markLost_onward (entered : (world.calls token).stage.entered = true) (other : Token) :
    (world.calls other).Onward ((world.markLost token).calls other) := by
  apply put_onward
  refine ⟨rfl, rfl, fun inside => inside, ?_, fun _ => rfl, fun released => released⟩
  intro outside
  rw [entered] at outside
  cases outside

theorem released_onward (entered : (world.calls token).stage.entered = true) (other : Token) :
    (world.calls other).Onward
      ((world.put token { world.calls token with released := true }).calls other) := by
  apply put_onward
  refine ⟨rfl, rfl, fun inside => inside, ?_, fun lost => lost, fun _ => rfl⟩
  intro outside
  rw [entered] at outside
  cases outside

theorem invoke_onward {script : Script} (entered : (world.calls token).stage.entered = true)
    (other : Token) :
    (world.calls other).Onward ((world.invoke id token script).calls other) := by
  have checked : (world.calls other).Onward ((world.precheck token script).1.calls other) := by
    cases script with
    | renew ttlSeconds =>
        simp only [World.precheck]
        split
        · exact .refl _
        · split <;> exact .refl _
    | release =>
        simp only [World.precheck]
        split
        · exact .refl _
        · split
          · exact released_onward entered other
          · exact .refl _
  unfold World.invoke
  split
  next after state found =>
    rw [found] at checked
    exact checked
  next after found =>
    rw [found] at checked
    exact checked

theorem finish_onward {reply : Bool} (entered : (world.calls op.token).stage.entered = true)
    (other : Token) :
    (world.calls other).Onward ((world.finish id op reply).calls other) := by
  unfold World.finish
  cases op.script with
  | renew ttlSeconds =>
      cases reply with
      | true =>
          apply put_onward
          refine ⟨rfl, rfl, fun inside => inside, ?_, fun lost => lost, fun released => released⟩
          intro outside
          rw [entered] at outside
          cases outside
      | false => exact markLost_onward entered other
  | release =>
      cases reply with
      | true => exact released_onward entered other
      | false =>
          have released := released_onward entered other
          apply released.trans
          apply markLost_onward
          rw [put_calls_self]
          exact entered

theorem leave_onward (other : Token) :
    (world.calls other).Onward ((world.leave id token).calls other) := by
  simp only [World.leave]
  split
  next exiting =>
    apply put_onward
    refine ⟨rfl, rfl, fun _ => rfl, ?_, fun lost => lost, fun released => released⟩
    intro outside
    rw [exiting] at outside
    cases outside
  next => exact .refl _

theorem raise_onward (other : Token) :
    (world.calls other).Onward (((world.putOp id op).leave id token).calls other) := by
  have left : ((world.putOp id op).calls other).Onward
      (((world.putOp id op).leave id token).calls other) := leave_onward other
  exact left

theorem leave_calls_other (differ : other ≠ token) :
    (world.leave id token).calls other = world.calls other := by
  simp only [World.leave]
  split
  · exact put_calls_other differ
  · rfl

theorem exit_calls_other (differ : other ≠ token) :
    (world.exit id token).calls other = world.calls other := by
  have checked : ((world.put token { world.calls token with stage := .exiting id }).invoke id token
      .release).calls other = world.calls other := by
    have put (call : Call) : (world.put token call).calls other = world.calls other :=
      put_calls_other differ
    simp only [World.invoke, World.precheck]
    split
    next state found =>
      split at found
      · cases found
        exact put _
      · split at found
        · cases found
          rw [← put { world.calls token with stage := .exiting id }]
          exact put_calls_other differ
        · cases found
    next found =>
      split at found
      · cases found
      · split at found
        · cases found
        · cases found
          exact put _
  simp only [World.exit]
  split
  · exact checked
  · rw [leave_calls_other differ]
    exact checked

theorem finish_calls_other {reply : Bool} (differ : other ≠ op.token) :
    (world.finish id op reply).calls other = world.calls other := by
  have put (call : Call) : (world.put op.token call).calls other = world.calls other :=
    put_calls_other differ
  unfold World.finish
  cases op.script with
  | renew ttlSeconds =>
      cases reply with
      | true => exact put _
      | false => exact put _
  | release =>
      cases reply with
      | true => exact put _
      | false =>
          rw [← put { world.calls op.token with released := true }]
          exact put_calls_other differ

theorem exit_redis : world.SameRedis (world.exit id token) := by
  have released : world.SameRedis ((world.put token
      { world.calls token with stage := .exiting id }).invoke id token .release) :=
    put_redis.trans invoke_redis
  simp only [World.exit]
  split
  · exact released
  · exact released.trans leave_redis

theorem exit_onward (stage : (world.calls token).stage = .body) (other : Token) :
    (world.calls other).Onward ((world.exit id token).calls other) := by
  have put : (world.calls other).Onward ((world.put token
      { world.calls token with stage := .exiting id }).calls other) := by
    apply put_onward
    refine ⟨rfl, rfl, fun _ => rfl, ?_, fun lost => lost, fun released => released⟩
    intro outside
    rw [stage] at outside
    cases outside
  have released : (world.calls other).Onward (((world.put token
      { world.calls token with stage := .exiting id }).invoke id token .release).calls other) := by
    apply put.trans
    apply invoke_onward
    rw [put_calls_self]
    rfl
  simp only [World.exit]
  split
  · exact released
  · exact released.trans (leave_onward other)

end

end Locks
