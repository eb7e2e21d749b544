import Soc360.Locks.DistLock

set_option autoImplicit false

namespace Locks

/-- An operation that has just been called: it is sent, or it is over with nothing done. -/
structure Op.Began (op : Op) (token : Token) (script : Script) : Prop where
  token : op.token = token
  script : op.script = script
  idle : op.state ≠ .awaiting → op.wire = .idle
  sent : op.state = .awaiting → op.wire = .sent
  nothing : op.state ≠ .returned true

/-- The script ran for its owner. -/
def World.Ran (world : World) (id : OpId) (token : Token) : Prop :=
  ∃ entry ∈ world.scripts, entry.op = id ∧ entry.token = token ∧
    ∃ lease, entry.before = some lease ∧ lease.token = token

/-- What every world keeps about the handles and their scripts. -/
structure World.Sound (world : World) : Prop where
  fresh : ∀ token, (world.calls token).stage.entered = false →
    (world.calls token).lost = false ∧ (world.calls token).released = false
  idle : ∀ token, (world.calls token).stage.entered = true → (world.calls token).wire ≠ .sent
  owned : ∀ id op, world.ops id = some op → (world.calls op.token).stage.entered = true
  logged : ∀ entry ∈ world.scripts, entry.after ≠ entry.before →
    ∃ lease, entry.before = some lease ∧ lease.token = entry.token
  replied : ∀ id op, world.ops id = some op →
    op.wire = .answered true ∨ op.state = .returned true → world.Ran id op.token

section

variable {world next : World} {token other : Token} {id : OpId} {op : Op} {call : Call}
  {label : Label}

theorem precheck_ops {script : Script} : (world.precheck token script).1.ops = world.ops := by
  cases script with
  | renew ttlSeconds =>
      simp only [World.precheck]
      split
      · rfl
      · split <;> rfl
  | release =>
      simp only [World.precheck]
      split
      · rfl
      · split <;> rfl

theorem precheck_state {script : Script} {state : OpState}
    (checked : (world.precheck token script).2 = some state) :
    state ≠ .awaiting ∧ state ≠ .returned true := by
  cases script with
  | renew ttlSeconds =>
      simp only [World.precheck] at checked
      split at checked
      next => cases checked; exact ⟨by decide, by decide⟩
      next =>
        split at checked
        next => cases checked
        next => cases checked; exact ⟨by decide, by decide⟩
  | release =>
      simp only [World.precheck] at checked
      split at checked
      next => cases checked; exact ⟨by decide, by decide⟩
      next =>
        split at checked
        next => cases checked; exact ⟨by decide, by decide⟩
        next => cases checked

theorem invoke_ops {script : Script} :
    ∃ began, (world.invoke id token script).ops = Function.update world.ops id (some began) ∧
      began.Began token script := by
  have kept : (world.precheck token script).1.ops = world.ops := precheck_ops
  unfold World.invoke
  split
  next after state found =>
    rw [found] at kept
    have answer : (world.precheck token script).2 = some state := by rw [found]
    have settled := precheck_state answer
    refine ⟨⟨token, script, .idle, state⟩, ?_, rfl, rfl, fun _ => rfl, ?_, settled.2⟩
    · exact congrArg (Function.update · id _) kept
    · intro awaiting
      exact absurd awaiting settled.1
  next after found =>
    rw [found] at kept
    refine ⟨⟨token, script, .sent, .awaiting⟩, ?_, rfl, rfl, ?_, fun _ => rfl, nofun⟩
    · exact congrArg (Function.update · id _) kept
    · intro differ
      exact absurd rfl differ

theorem leave_ops : (world.leave id token).ops = world.ops := by
  simp only [World.leave]
  split <;> rfl

theorem exit_ops :
    ∃ began, (world.exit id token).ops = Function.update world.ops id (some began) ∧
      began.Began token .release := by
  have invoked : ∃ began, ((world.put token { world.calls token with
      stage := .exiting id }).invoke id token .release).ops =
        Function.update world.ops id (some began) ∧ began.Began token .release := invoke_ops
  obtain ⟨began, ops, began_as⟩ := invoked
  refine ⟨began, ?_, began_as⟩
  simp only [World.exit]
  split
  · exact ops
  · rw [leave_ops]
    exact ops

theorem finish_ops {reply : Bool} : (world.finish id op reply).ops =
    Function.update world.ops id (some { op with wire := .idle, state := .returned reply }) := by
  unfold World.finish
  cases op.script <;> cases reply <;> rfl

theorem World.Sound.initial : World.initial.Sound where
  fresh := fun _ _ => ⟨rfl, rfl⟩
  idle := nofun
  owned := nofun
  logged := fun _ member => absurd member List.not_mem_nil
  replied := nofun

/-- A step of one call keeps the operations and their scripts. -/
theorem World.Sound.turned (sound : world.Sound)
    (calls : next.calls = Function.update world.calls token call)
    (ops : next.ops = world.ops) (scripts : next.scripts = world.scripts)
    (entered : (world.calls token).stage.entered = true → call.stage.entered = true)
    (flags : call.stage.entered = false → call.lost = false ∧ call.released = false)
    (idle : call.stage.entered = true → call.wire ≠ .sent) : next.Sound := by
  refine ⟨?_, ?_, ?_, ?_, ?_⟩
  · intro other outside
    rw [calls] at outside ⊢
    by_cases same : other = token
    · rw [same, Function.update_self] at outside ⊢
      exact flags outside
    · rw [Function.update_of_ne same] at outside ⊢
      exact sound.fresh other outside
  · intro other inside
    rw [calls] at inside ⊢
    by_cases same : other = token
    · rw [same, Function.update_self] at inside ⊢
      exact idle inside
    · rw [Function.update_of_ne same] at inside ⊢
      exact sound.idle other inside
  · intro id op known
    rw [ops] at known
    have inside := sound.owned id op known
    rw [calls]
    by_cases same : op.token = token
    · rw [same] at inside ⊢
      rw [Function.update_self]
      exact entered inside
    · rw [Function.update_of_ne same]
      exact inside
  · rw [scripts]
    exact sound.logged
  · rw [ops]
    intro id op known replied
    rw [World.Ran, scripts]
    exact sound.replied id op known replied

/-- A step of one operation goes on with the calls. -/
theorem World.Sound.operates (sound : world.Sound)
    (onward : ∀ other, (world.calls other).Onward (next.calls other))
    (ops : next.ops = Function.update world.ops id (some op))
    (inside : (world.calls op.token).stage.entered = true)
    (logged : ∀ entry ∈ next.scripts, entry ∈ world.scripts ∨ (entry.after ≠ entry.before →
      ∃ lease, entry.before = some lease ∧ lease.token = entry.token))
    (kept : ∀ entry ∈ world.scripts, entry ∈ next.scripts)
    (replied : op.wire = .answered true ∨ op.state = .returned true → next.Ran id op.token) :
    next.Sound := by
  refine ⟨?_, ?_, ?_, ?_, ?_⟩
  · intro other outside
    have before : (world.calls other).stage.entered = false := by
      cases entered : (world.calls other).stage.entered with
      | false => rfl
      | true =>
          rw [(onward other).entered entered] at outside
          cases outside
    rw [(onward other).outside before]
    exact sound.fresh other before
  · intro other inside
    rw [(onward other).wire]
    cases entered : (world.calls other).stage.entered with
    | true => exact sound.idle other entered
    | false =>
        rw [(onward other).outside entered, entered] at inside
        cases inside
  · intro other known found
    rw [ops] at found
    by_cases same : other = id
    · rw [same, Function.update_self] at found
      cases found
      exact (onward _).entered inside
    · rw [Function.update_of_ne same] at found
      exact (onward _).entered (sound.owned other known found)
  · intro entry member differ
    rcases logged entry member with old | new
    · exact sound.logged entry old differ
    · exact new differ
  · intro other known found answered
    rw [ops] at found
    by_cases same : other = id
    · rw [same, Function.update_self] at found
      cases found
      rw [same]
      exact replied answered
    · rw [Function.update_of_ne same] at found
      obtain ⟨entry, member, ran⟩ := sound.replied other known found answered
      exact ⟨entry, kept entry member, ran⟩

/-- A script only touches a key that stores the token of its handle. -/
theorem script_owned {script : Script} {lease : Option Lease} :
    (world.script token script lease).1 ≠ lease ∨
        (world.script token script lease).2 = true →
      ∃ held, lease = some held ∧ held.token = token := by
  intro touched
  cases lease with
  | none =>
      rcases touched with touched | touched
      · cases script <;> exact absurd rfl touched
      · cases script <;> cases touched
  | some held =>
      by_cases own : held.token = token
      · exact ⟨held, rfl, own⟩
      · cases script with
        | renew ttlSeconds => simp [World.script, own] at touched
        | release => simp [World.script, own] at touched

theorem setLock_calls : (world.setLock token call).calls = Function.update world.calls token
    { call with wire := .answered world.lease.isNone } := by
  unfold World.setLock
  split
  next free => rw [free]; rfl
  next taken => rw [taken]; rfl

theorem setLock_ops : (world.setLock token call).ops = world.ops ∧
    (world.setLock token call).scripts = world.scripts := by
  unfold World.setLock
  split <;> exact ⟨rfl, rfl⟩

theorem sets_outside {stage : Stage} (sets : stage.sets = true) : stage.entered = false := by
  cases stage <;> first | rfl | cases sets

theorem waits_outside {stage : Stage} (waits : stage.waits = true) : stage.entered = false := by
  cases stage <;> first | rfl | cases waits

theorem World.Sound.begins {began : Op} {script : Script} (sound : world.Sound)
    (ops : next.ops = Function.update world.ops id (some began)) (begins : began.Began token script)
    (inside : (world.calls token).stage.entered = true)
    (onward : ∀ other, (world.calls other).Onward (next.calls other))
    (scripts : next.scripts = world.scripts) : next.Sound := by
  have same : began.token = token := begins.token
  rw [← same] at inside
  apply sound.operates onward ops inside
  · rw [scripts]
    exact fun entry member => .inl member
  · rw [scripts]
    exact fun entry member => member
  · intro replied
    rcases replied with reply | returned
    · by_cases awaiting : began.state = .awaiting
      · rw [begins.sent awaiting] at reply
        cases reply
      · rw [begins.idle awaiting] at reply
        cases reply
    · exact absurd returned begins.nothing

theorem World.Sound.moved (sound : world.Sound) (moved : Moved world label next) :
    next.Sound := by
  -- A call outside its context has lost and released nothing.
  have flags {token : Token} (outside : (world.calls token).stage.entered = false) :=
    sound.fresh token outside
  have never {token : Token} {holds : Prop} (outside : (world.calls token).stage.entered = false)
      (inside : (world.calls token).stage.entered = true) : holds := by
    rw [outside] at inside
    cases inside
  have waiting {token : Token} {call : Call}
      (outside : (world.calls token).stage.entered = false) (still : call.stage.entered = false)
      (kept : call.lost = (world.calls token).lost ∧ call.released = (world.calls token).released) :
      (world.put token call).Sound := by
    refine sound.turned rfl rfl rfl (never outside) ?_ ?_
    · intro _
      rw [kept.1, kept.2]
      exact flags outside
    · intro inside
      rw [still] at inside
      cases inside
  cases moved with
  | tick later forward => exact ⟨sound.fresh, sound.idle, sound.owned, sound.logged, sound.replied⟩
  | redisFailure => exact ⟨sound.fresh, sound.idle, sound.owned, sound.logged, sound.replied⟩
  | acquire token process ttlSeconds new valid =>
      have outside : (world.calls token).stage.entered = false := by rw [new]; rfl
      exact sound.turned rfl rfl rfl (never outside) (fun _ => ⟨rfl, rfl⟩) nofun
  | serveSet token sent =>
      exact sound.turned setLock_calls setLock_ops.1 setLock_ops.2 (fun inside => inside) flags
        nofun
  | refuseSet token sets sent =>
      have outside := sets_outside sets
      exact waiting outside rfl ⟨rfl, rfl⟩
  | loseSet token sets =>
      have outside := sets_outside sets
      exact waiting outside rfl ⟨rfl, rfl⟩
  | entered token stage won =>
      refine sound.turned rfl rfl rfl (fun _ => rfl) ?_ nofun
      intro outside
      cases outside
  | reentry token stage missed registered =>
      have outside : (world.calls token).stage.entered = false := by rw [stage]; rfl
      exact waiting outside rfl ⟨rfl, rfl⟩
  | contended token stage missed =>
      have outside : (world.calls token).stage.entered = false := by rw [stage]; rfl
      exact waiting outside rfl ⟨rfl, rfl⟩
  | wake token stage =>
      have outside : (world.calls token).stage.entered = false := by rw [stage]; rfl
      exact waiting outside rfl ⟨rfl, rfl⟩
  | readRetry token acquired stage reply =>
      have outside : (world.calls token).stage.entered = false := by rw [stage]; rfl
      exact waiting outside rfl ⟨rfl, rfl⟩
  | resumed token stage =>
      refine sound.turned rfl rfl rfl (fun _ => rfl) ?_ nofun
      intro outside
      cases outside
  | missed token stage =>
      have outside : (world.calls token).stage.entered = false := by rw [stage]; rfl
      exact waiting outside rfl ⟨rfl, rfl⟩
  | timeout token waits =>
      have outside := waits_outside waits
      exact waiting outside rfl ⟨rfl, rfl⟩
  | cancel token inside =>
      have outside : (world.calls token).stage.entered = false := by
        rcases inside with stage | waits
        · rw [stage]
          rfl
        · exact waits_outside waits
      exact waiting outside rfl ⟨rfl, rfl⟩
  | invoke id token script new inside =>
      have invoked : ∃ began, (world.invoke id token script).ops =
          Function.update world.ops id (some began) ∧ began.Began token script := invoke_ops
      obtain ⟨began, ops, begins⟩ := invoked
      exact sound.begins ops begins inside (invoke_onward inside) invoke_redis.scripts
  | exit id token new stage =>
      have exited : ∃ began, (world.exit id token).ops =
          Function.update world.ops id (some began) ∧ began.Began token .release := exit_ops
      obtain ⟨began, ops, begins⟩ := exited
      have inside : (world.calls token).stage.entered = true := by rw [stage]; rfl
      exact sound.begins ops begins inside (exit_onward stage) exit_redis.scripts
  | serveOp id op known sent =>
      have inside := sound.owned id op known
      have onward (other : Token) : (world.calls other).Onward
          ((world.serveScript id op).calls other) := .refl _
      have appended : (world.serveScript id op).scripts = world.scripts ++
          [⟨id, op.token, world.lease, (world.script op.token op.script world.lease).1⟩] := rfl
      apply sound.operates onward rfl inside
      · rw [appended]
        intro entry member
        rcases List.mem_append.mp member with old | new
        · exact .inl old
        · right
          rw [List.mem_singleton.mp new]
          intro differ
          exact script_owned (.inl differ)
      · rw [appended]
        intro entry member
        exact List.mem_append_left _ member
      · intro replied
        rcases replied with reply | returned
        · have owned : ∃ held, world.lease = some held ∧ held.token = op.token :=
            script_owned (.inr (Wire.answered.inj reply))
          refine ⟨⟨id, op.token, world.lease, (world.script op.token op.script world.lease).1⟩,
            ?_, rfl, rfl, owned⟩
          rw [appended]
          exact List.mem_append_right _ (List.mem_singleton_self _)
        · have earlier := sound.replied id op known (.inr returned)
          obtain ⟨entry, member, ran⟩ := earlier
          refine ⟨entry, ?_, ran⟩
          rw [appended]
          exact List.mem_append_left _ member
  | readOp id op reply known awaiting answered =>
      have inside := sound.owned id op known
      have onward (other : Token) : (world.calls other).Onward
          (((world.finish id op reply).leave id op.token).calls other) :=
        (finish_onward inside other).trans (leave_onward other)
      have ops : ((world.finish id op reply).leave id op.token).ops = Function.update world.ops id
          (some { op with wire := .idle, state := .returned reply }) := by
        rw [leave_ops, finish_ops]
      have same : world.SameRedis ((world.finish id op reply).leave id op.token) := read_redis
      apply sound.operates onward ops inside
      · rw [same.scripts]
        exact fun entry member => .inl member
      · rw [same.scripts]
        exact fun entry member => member
      · intro replied
        have positive : reply = true := by
          rcases replied with idle | returned
          · cases idle
          · exact OpState.returned.inj returned
        rw [positive] at answered
        rw [World.Ran, same.scripts]
        exact sound.replied id op known (.inl answered)
  | raiseOp id op known awaiting =>
      have inside := sound.owned id op known
      have ops : ((world.putOp id { op with state := .raised }).leave id op.token).ops =
          Function.update world.ops id (some { op with state := .raised }) := leave_ops
      have scripts : ((world.putOp id { op with state := .raised }).leave id op.token).scripts =
          world.scripts := raise_redis.scripts
      apply sound.operates raise_onward ops inside
      · rw [scripts]
        exact fun entry member => .inl member
      · rw [scripts]
        exact fun entry member => member
      · intro replied
        rw [World.Ran, scripts]
        rcases replied with reply | raised
        · exact sound.replied id op known (.inl reply)
        · cases raised

theorem reachable_sound (reached : leases.Reachable world) : world.Sound := by
  refine reached.invariant ?_ ?_
  · rintro _ rfl
    exact .initial
  · intro before after label _ sound _ taken
    exact sound.moved (step_moved taken)

/-- What ends the hold of a token on the key: expiry, the release of its handle, or a
failure of Redis that loses the key. -/
def World.Ends (token : Token) (world : World) : Label → Prop
  | .tick later => ∃ lease, world.lease = some lease ∧ lease.deadline ≤ later
  | .redisFailure => True
  | .serveOp id => ∃ op, world.ops id = some op ∧ op.token = token ∧ op.script = .release
  | _ => False

/-- The scripts of other handles leave the key alone, the own ones renew or release it. -/
theorem script_holds {script : Script} {lease : Lease} (holds : lease.token = token)
    (kept : ¬ (other = token ∧ script = .release)) :
    ∃ after, (world.script other script (some lease)).1 = some after ∧ after.token = token := by
  by_cases own : lease.token = other
  · have mine : other = token := own.symm.trans holds
    cases script with
    | renew ttlSeconds =>
        exact ⟨⟨lease.token, world.clock + ttlSeconds * 1000⟩, by simp [World.script, own], holds⟩
    | release => exact absurd ⟨mine, rfl⟩ kept
  · cases script with
    | renew ttlSeconds => exact ⟨lease, by simp [World.script, own], holds⟩
    | release => exact ⟨lease, by simp [World.script, own], holds⟩

/-- No script brings a token into the key. -/
theorem script_before {script : Script} {lease : Lease}
    (scripted : (world.script other script world.lease).1 = some lease)
    (own : lease.token = token) : world.Holds token := by
  cases stored : world.lease with
  | none =>
      rw [stored] at scripted
      cases script <;> cases scripted
  | some held =>
      refine ⟨held, stored, ?_⟩
      rw [stored] at scripted
      cases script with
      | renew ttlSeconds =>
          simp only [World.script] at scripted
          split at scripted
          · cases scripted
            exact own
          · cases scripted
            exact own
      | release =>
          simp only [World.script] at scripted
          split at scripted
          · cases scripted
          · cases scripted
            exact own

/-- While a token holds the key, nobody takes it. -/
theorem Moved.holds (moved : Moved world label next) (holds : world.Holds token)
    (lasts : ¬ world.Ends token label) :
    next.Holds token ∧ next.acquired = world.acquired := by
  obtain ⟨lease, stored, own⟩ := holds
  have still (same : world.SameRedis next) :
      next.Holds token ∧ next.acquired = world.acquired :=
    ⟨⟨lease, same.lease.trans stored, own⟩, same.acquired⟩
  cases moved with
  | tick later forward =>
      have alive : later < lease.deadline := by
        by_contra late
        exact lasts ⟨lease, stored, Nat.not_lt.mp late⟩
      refine ⟨⟨lease, ?_, own⟩, rfl⟩
      simp [stored, alive]
  | redisFailure => exact absurd trivial lasts
  | serveSet setter sent =>
      rw [setLock_contended stored]
      exact ⟨⟨lease, stored, own⟩, rfl⟩
  | serveOp id op known sent =>
      have kept : ¬ (op.token = token ∧ op.script = .release) := by
        rintro ⟨mine, release⟩
        exact lasts ⟨op, known, mine, release⟩
      have scripted : ∃ after, (world.script op.token op.script (some lease)).1 = some after ∧
          after.token = token := script_holds own kept
      obtain ⟨after, scripted, holds⟩ := scripted
      refine ⟨⟨after, ?_, holds⟩, rfl⟩
      rw [← scripted, ← stored]
      rfl
  | invoke id token script new inside => exact still invoke_redis
  | exit id token new stage => exact still exit_redis
  | readOp id op reply known awaiting answered => exact still read_redis
  | raiseOp id op known awaiting => exact still raise_redis
  | _ => exact ⟨⟨lease, stored, own⟩, rfl⟩

/-- The key changes hands only through a SET that found it free. -/
theorem Moved.acquires (moved : Moved world label next) :
    next.acquired = world.acquired ∨
      ∃ token, world.lease = none ∧ next.acquired = world.acquired ++ [token] ∧
        next.Holds token := by
  cases moved with
  | serveSet token sent =>
      cases stored : world.lease with
      | none =>
          right
          refine ⟨token, rfl, ?_, ⟨_, setLock_free stored, rfl⟩⟩
          simp only [World.setLock, stored]
      | some lease =>
          left
          rw [setLock_contended stored]
          rfl
  | invoke id token script new inside => exact .inl invoke_redis.acquired
  | exit id token new stage => exact .inl exit_redis.acquired
  | readOp id op reply known awaiting answered => exact .inl read_redis.acquired
  | raiseOp id op known awaiting => exact .inl raise_redis.acquired
  | _ => exact .inl rfl

theorem holds_exec {labels : List Label} (holds : world.Holds token)
    (lasts : leases.Allows (fun world label => ¬ world.Ends token label) world labels)
    (run : leases.exec world labels = some next) :
    next.Holds token ∧ next.acquired = world.acquired := by
  induction labels generalizing world with
  | nil =>
      cases run
      exact ⟨holds, rfl⟩
  | cons label rest ih =>
      obtain ⟨after, taken, run⟩ := Machine.exec_cons_some.mp run
      obtain ⟨held, acquired⟩ := (step_moved taken).holds holds lasts.1
      obtain ⟨last, same⟩ := ih held (lasts.2 after taken) run
      exact ⟨last, same.trans acquired⟩

/-- No SET of the call is on its way, and none has taken the key without the call having
read of it. -/
def Call.Settled (call : Call) : Prop :=
  call.wire ≠ .sent ∧ call.wire ≠ .answered true ∧ call.stage ≠ .retried true

instance (call : Call) : Decidable call.Settled := inferInstanceAs (Decidable (_ ∧ _ ∧ _))

/-- A timeout or a cancellation does not strike a call with a SET it has not read. -/
def World.Unabandoned (world : World) : Label → Prop
  | .timeout token => (world.calls token).Settled
  | .cancel token => (world.calls token).Settled
  | _ => True

instance (world : World) : ∀ label : Label, Decidable (world.Unabandoned label)
  | .timeout token => inferInstanceAs (Decidable (world.calls token).Settled)
  | .cancel token => inferInstanceAs (Decidable (world.calls token).Settled)
  | .tick _ => .isTrue trivial
  | .redisFailure => .isTrue trivial
  | .acquire _ _ _ => .isTrue trivial
  | .serveSet _ => .isTrue trivial
  | .refuseSet _ => .isTrue trivial
  | .loseSet _ => .isTrue trivial
  | .readSet _ => .isTrue trivial
  | .wake _ => .isTrue trivial
  | .readRetry _ => .isTrue trivial
  | .resume _ => .isTrue trivial
  | .invoke _ _ _ => .isTrue trivial
  | .exit _ _ => .isTrue trivial
  | .serveOp _ => .isTrue trivial
  | .readOp _ => .isTrue trivial
  | .raiseOp _ => .isTrue trivial

/-- A call whose token the key may store. -/
def Call.MayHold (call : Call) : Prop :=
  call.stage.entered = true ∨ call.stage = .ended .outage ∨ call.stage = .retried true ∨
    call.stage.sets = true ∧ call.wire = .answered true

/-- What a call keeps with a key that stores its token (`holds`). -/
structure Call.Clean (call : Call) (holds : Prop) : Prop where
  sent : call.wire = .sent → call.stage.sets = true ∨ call.stage = .ended .outage
  holds : holds → call.MayHold

theorem Call.Clean.idle {holds : Prop} (clean : call.Clean holds)
    (inside : call.stage.entered = true) : call.wire ≠ .sent := by
  intro sent
  rcases clean.sent sent with sets | outage
  · rw [sets_outside sets] at inside
    cases inside
  · rw [outage] at inside
    cases inside

theorem Call.Clean.onward {before after : Call} {held holds : Prop} (clean : before.Clean held)
    (onward : before.Onward after) (kept : holds → held) : after.Clean holds := by
  cases inside : before.stage.entered with
  | true =>
      refine ⟨?_, fun _ => .inl (onward.entered inside)⟩
      intro sent
      rw [onward.wire] at sent
      exact absurd sent (clean.idle inside)
  | false =>
      rw [onward.outside inside]
      exact ⟨clean.sent, fun held => clean.holds (kept held)⟩

/-- A call that waits for nothing it may have won does not hold the key. -/
theorem Call.Clean.not_holds {holds : Prop} (clean : call.Clean holds)
    (outside : call.stage.entered = false) (answered : call.stage ≠ .ended .outage)
    (retried : call.stage ≠ .retried true)
    (unread : call.stage.sets = true → call.wire ≠ .answered true) : ¬ holds := by
  intro held
  rcases clean.holds held with inside | outage | won | ⟨sets, reply⟩
  · rw [outside] at inside
    cases inside
  · exact answered outage
  · exact retried won
  · exact unread sets reply

/-- Every call is clean. -/
def World.Clean (world : World) : Prop :=
  ∀ token, (world.calls token).Clean (world.Holds token)

/-- A step of one call, with the key as it was. -/
theorem World.Clean.turned (clean : world.Clean)
    (calls : next.calls = Function.update world.calls token call)
    (lease : next.lease = world.lease)
    (turned : (world.calls token).Clean (world.Holds token) →
      call.Clean (world.Holds token)) : next.Clean := by
  intro other
  have same : next.Holds other ↔ world.Holds other := by
    rw [World.Holds, World.Holds, lease]
  rw [calls]
  by_cases own : other = token
  · subst own
    rw [Function.update_self]
    have after := turned (clean other)
    exact ⟨after.sent, fun holds => after.holds (same.mp holds)⟩
  · rw [Function.update_of_ne own]
    exact ⟨(clean other).sent, fun holds => (clean other).holds (same.mp holds)⟩

theorem World.Clean.put (clean : world.Clean)
    (turned : (world.calls token).Clean (world.Holds token) →
      call.Clean (world.Holds token)) : (world.put token call).Clean :=
  clean.turned rfl rfl turned

theorem World.Clean.enter (clean : world.Clean) :
    (world.enter token (world.calls token)).Clean :=
  clean.turned rfl rfl fun _ => ⟨nofun, fun _ => .inl rfl⟩

theorem World.Clean.operates (clean : world.Clean)
    (onward : ∀ other, (world.calls other).Onward (next.calls other))
    (kept : ∀ other, next.Holds other → world.Holds other) : next.Clean :=
  fun other => (clean other).onward (onward other) (kept other)

/-- A call that neither sends nor holds. -/
theorem Call.Clean.free {holds : Prop} (silent : call.wire ≠ .sent) (free : ¬ holds) :
    call.Clean holds :=
  ⟨fun sent => absurd sent silent, fun held => absurd held free⟩

/-- A SET that finds the key free is answered to a call that has not read it yet. -/
theorem World.Clean.serveSet (clean : world.Clean) (sent : (world.calls token).wire = .sent) :
    (world.setLock token (world.calls token)).Clean := by
  cases stored : world.lease with
  | some lease =>
      rw [setLock_contended stored]
      apply clean.put
      intro before
      refine ⟨nofun, ?_⟩
      intro holds
      rcases before.holds holds with inside | outage | won | ⟨sets, reply⟩
      · exact .inl inside
      · exact .inr (.inl outage)
      · exact .inr (.inr (.inl won))
      · rw [sent] at reply
        cases reply
  | none =>
      intro other
      rw [setLock_calls]
      by_cases own : other = token
      · rw [own, Function.update_self, stored]
        refine ⟨nofun, ?_⟩
        intro _
        rcases (clean token).sent sent with sets | outage
        · exact .inr (.inr (.inr ⟨sets, rfl⟩))
        · exact .inr (.inl outage)
      · rw [Function.update_of_ne own]
        refine ⟨(clean other).sent, ?_⟩
        rintro ⟨lease, found, mine⟩
        rw [setLock_free stored] at found
        cases found
        exact absurd mine.symm own

theorem World.Clean.moved (sound : world.Sound) (clean : world.Clean)
    (met : world.Unabandoned label) (moved : Moved world label next) : next.Clean := by
  cases moved with
  | tick later forward =>
      refine clean.operates (fun _ => .refl _) ?_
      rintro other ⟨lease, stored, own⟩
      exact ⟨lease, (Option.filter_eq_some_iff.mp stored).1, own⟩
  | redisFailure =>
      refine clean.operates (fun _ => .refl _) ?_
      rintro other ⟨lease, stored, own⟩
      cases stored
  | acquire token process ttlSeconds new valid =>
      apply clean.put
      intro before
      refine ⟨fun _ => .inl rfl, ?_⟩
      have free : ¬ world.Holds token := by
        apply before.not_holds <;> rw [new] <;> simp [Stage.entered, Stage.sets]
      exact fun holds => absurd holds free
  | serveSet token sent => exact clean.serveSet sent
  | refuseSet token sets sent =>
      apply clean.put
      intro before
      apply Call.Clean.free (by simp)
      apply before.not_holds (sets_outside sets)
      · intro outage
        rw [outage] at sets
        cases sets
      · intro won
        rw [won] at sets
        cases sets
      · intro _
        rw [sent]
        simp
  | loseSet token sets =>
      apply clean.put
      intro before
      exact ⟨fun _ => .inr rfl, fun _ => .inr (.inl rfl)⟩
  | entered token stage won =>
      exact clean.enter
  | reentry token stage missed registered =>
      apply clean.put
      intro before
      apply Call.Clean.free (by simp)
      apply before.not_holds <;> rw [stage] <;> simp [Stage.entered, Stage.sets, missed]
  | contended token stage missed =>
      apply clean.put
      intro before
      apply Call.Clean.free (by simp)
      apply before.not_holds <;> rw [stage] <;> simp [Stage.entered, Stage.sets, missed]
  | wake token stage =>
      apply clean.put
      intro before
      refine ⟨fun _ => .inl rfl, ?_⟩
      have free : ¬ world.Holds token := by
        apply before.not_holds <;> rw [stage] <;> simp [Stage.entered, Stage.sets]
      exact fun holds => absurd holds free
  | readRetry token acquired stage reply =>
      apply clean.put
      intro before
      cases acquired with
      | true => exact ⟨nofun, fun _ => .inr (.inr (.inl rfl))⟩
      | false =>
          apply Call.Clean.free (by simp)
          apply before.not_holds <;> rw [stage] <;> simp [Stage.entered, Stage.sets, reply]
  | resumed token stage =>
      exact clean.enter
  | missed token stage =>
      apply clean.put
      intro before
      apply Call.Clean.free
      · intro sent
        rcases before.sent sent with sets | outage
        · rw [stage] at sets
          cases sets
        · rw [stage] at outage
          cases outage
      · apply before.not_holds <;> rw [stage] <;> simp [Stage.entered, Stage.sets]
  | timeout token waits =>
      apply clean.put
      intro before
      have silent : ((world.calls token).ending .lockTimeout).wire ≠ .sent := met.1
      apply Call.Clean.free silent
      apply before.not_holds (waits_outside waits) _ met.2.2 fun _ => met.2.1
      intro outage
      rw [outage] at waits
      cases waits
  | cancel token inside =>
      apply clean.put
      intro before
      have silent : ((world.calls token).ending .cancelled).wire ≠ .sent := met.1
      apply Call.Clean.free silent
      rcases inside with stage | waits
      · apply before.not_holds _ _ met.2.2 fun _ => met.2.1
        · rw [stage]
          rfl
        · rw [stage]
          simp
      · apply before.not_holds (waits_outside waits) _ met.2.2 fun _ => met.2.1
        intro outage
        rw [outage] at waits
        cases waits
  | invoke id token script new inside =>
      exact clean.operates (invoke_onward inside) fun _ => invoke_redis.holds.mp
  | exit id token new stage =>
      exact clean.operates (exit_onward stage) fun _ => exit_redis.holds.mp
  | serveOp id op known sent =>
      refine clean.operates (fun _ => .refl _) ?_
      rintro other ⟨lease, scripted, own⟩
      exact script_before scripted own
  | readOp id op reply known awaiting answered =>
      have inside := sound.owned id op known
      refine clean.operates ?_ fun _ => read_redis.holds.mp
      intro other
      exact (finish_onward inside other).trans (leave_onward other)
  | raiseOp id op known awaiting => exact clean.operates raise_onward fun _ => raise_redis.holds.mp

theorem reachable_clean (reached : leases.ReachableBy World.Unabandoned world) :
    world.Clean := by
  refine reached.invariant ?_ ?_
  · rintro _ rfl token
    exact ⟨nofun, fun holds => by obtain ⟨lease, stored, _⟩ := holds; cases stored⟩
  · intro before after label reached clean met taken
    exact clean.moved (reachable_sound reached.reachable) met (step_moved taken)

theorem lost_put (kept : (world.calls token).lost = true → call.lost = true)
    (lost : (world.calls other).lost = true) :
    ((world.put token call).calls other).lost = true := by
  by_cases same : other = token
  · rw [same, put_calls_self]
    rw [same] at lost
    exact kept lost
  · rw [put_calls_other same]
    exact lost

/-- A handle that is lost stays lost. -/
theorem Moved.lost (sound : world.Sound) (moved : Moved world label next)
    (lost : (world.calls other).lost = true) : (next.calls other).lost = true := by
  cases moved with
  | tick later forward => exact lost
  | redisFailure => exact lost
  | acquire token process ttlSeconds new valid =>
      apply lost_put _ lost
      intro was_lost
      have flags := sound.fresh token (by rw [new]; rfl)
      rw [flags.1] at was_lost
      cases was_lost
  | serveSet token sent =>
      rw [setLock_calls]
      by_cases same : other = token
      · rw [same, Function.update_self]
        rw [same] at lost
        exact lost
      · rw [Function.update_of_ne same]
        exact lost
  | invoke id token script new inside => exact (invoke_onward inside other).lost lost
  | exit id token new stage => exact (exit_onward stage other).lost lost
  | serveOp id op known sent => exact lost
  | readOp id op reply known awaiting answered =>
      have inside := sound.owned id op known
      exact ((finish_onward inside other).trans (leave_onward other)).lost lost
  | raiseOp id op known awaiting =>
      have left : ((world.putOp id { op with state := .raised }).calls other).Onward
          (((world.putOp id { op with state := .raised }).leave id op.token).calls other) :=
        leave_onward other
      exact left.lost lost
  | _ => exact lost_put (fun lost => lost) lost

/-- The lease of the key: scripts touch it for its owner only, a lost handle stays lost, a
positive answer of `renew` or `release` means the token was there, an acquisition excludes
all others until it expires, is released or lost by Redis, and a call that ended without a
handle and abandoned no SET has left no lease. -/
theorem lease_ownership {world : World} (reached : leases.Reachable world) :
    (∀ entry ∈ world.scripts, entry.after ≠ entry.before →
      ∃ lease, entry.before = some lease ∧ lease.token = entry.token) ∧
    (∀ label next, leases.step world label = some next → ∀ token,
      (world.calls token).lost = true → (next.calls token).lost = true) ∧
    (∀ id op, world.ops id = some op → op.state = .returned true →
      ∃ entry ∈ world.scripts, entry.op = id ∧ entry.token = op.token ∧
        ∃ lease, entry.before = some lease ∧ lease.token = op.token) ∧
    (∀ label next, leases.step world label = some next → next.acquired ≠ world.acquired →
      ∃ token, next.acquired = world.acquired ++ [token] ∧ next.Holds token) ∧
    (∀ token, world.Holds token → ∀ labels last,
      leases.Allows (fun world label => ¬ world.Ends token label) world labels →
      leases.exec world labels = some last →
      last.Holds token ∧ last.acquired = world.acquired) ∧
    (leases.ReachableBy World.Unabandoned world → ∀ token reason,
      (world.calls token).stage = .ended reason → reason ≠ .exited → reason ≠ .outage →
      ¬ world.Holds token) := by
  have sound := reachable_sound reached
  refine ⟨sound.logged, ?_, ?_, ?_, ?_, ?_⟩
  · intro label next taken token lost
    exact (step_moved taken).lost sound lost
  · intro id op known returned
    exact sound.replied id op known (.inr returned)
  · intro label next taken changed
    rcases (step_moved taken).acquires with same | ⟨token, _, acquired, holds⟩
    · exact absurd same changed
    · exact ⟨token, acquired, holds⟩
  · intro token holds labels last lasts run
    exact holds_exec holds lasts run
  · intro met token reason stage entered answered
    have clean := reachable_clean met token
    apply clean.not_holds <;> rw [stage]
    · cases reason with
      | exited => exact absurd rfl entered
      | _ => rfl
    · intro same
      cases same
      exact answered rfl
    · simp
    · simp [Stage.sets]

end

/-- A second process waits for the key of the first one, which leaves; its second SET takes
the key and the timeout strikes before the reply is read. -/
def abandonedSet : List Label :=
  [.acquire 0 0 30, .serveSet 0, .readSet 0, .acquire 1 1 30, .serveSet 1, .readSet 1,
    .exit 0 0, .serveOp 0, .readOp 0, .wake 1, .serveSet 1, .timeout 1]

/-- The same with the timeout before the second SET is sent. -/
def contendedSet : List Label :=
  [.acquire 0 0 30, .serveSet 0, .readSet 0, .acquire 1 1 30, .serveSet 1, .readSet 1,
    .exit 0 0, .serveOp 0, .readOp 0, .timeout 1]

theorem lease_ownership_contended :
    ∃ world, leases.exec .initial contendedSet = some world ∧
      (world.calls 1).stage = .ended .lockTimeout ∧ ¬ world.Holds 1 := by
  have run : ∃ world, leases.exec .initial contendedSet = some world ∧
      (world.calls 1).stage = .ended .lockTimeout ∧
      leases.Allows World.Unabandoned .initial contendedSet :=
    ⟨_, rfl, by decide +kernel, by decide +kernel⟩
  obtain ⟨world, run, stage, met⟩ := run
  refine ⟨world, run, stage, ?_⟩
  have allowed : leases.ReachableBy World.Unabandoned world :=
    Machine.ReachableBy.exec (.start rfl) met run
  exact (lease_ownership allowed.reachable).2.2.2.2.2 allowed 1 .lockTimeout stage
    (by decide) (by decide)

/-- A call that timed out leaves a lease with its own token behind, and so does one that is
cancelled in its first SET. -/
theorem timeout_leaves_lease :
    (∃ world, leases.exec .initial abandonedSet = some world ∧
      (world.calls 1).stage = .ended .lockTimeout ∧ world.Holds 1) ∧
    ∃ world, leases.exec .initial [.acquire 0 0 30, .serveSet 0, .cancel 0] = some world ∧
      (world.calls 0).stage = .ended .cancelled ∧ world.Holds 0 :=
  ⟨⟨_, rfl, by decide +kernel, by decide +kernel⟩, _, rfl, by decide +kernel, by decide +kernel⟩

end Locks
