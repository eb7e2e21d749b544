import Soc360.Locks.Ownership

set_option autoImplicit false

namespace Locks

/-- The call is in the body of its context, or in the release on its way out. -/
def Stage.inside : Stage → Bool
  | .body => true
  | .exiting _ => true
  | _ => false

/-- A release with a positive answer that nobody has read yet. -/
def Op.Unread (op : Op) : Prop :=
  op.script = .release ∧ op.wire = .answered true ∧ op.state = .awaiting

instance (op : Op) : Decidable op.Unread := inferInstanceAs (Decidable (_ ∧ _ ∧ _))

/-- A handle is registered while no other handle of its process holds the key, and no
release of its process waits to be read. -/
def World.Registers (world : World) (token : Token) : Prop :=
  (∀ lease ∈ world.lease, lease.token ≠ token →
    (world.calls lease.token).process = (world.calls token).process →
    (world.calls lease.token).stage.entered = false) ∧
  ∀ entry ∈ world.scripts, ∀ op ∈ world.ops entry.op, op.Unread →
    (world.calls op.token).process ≠ (world.calls token).process

/-- The release that ends a context is answered, or its entry is not in the registry. -/
def World.Answered (world : World) (id : OpId) : Prop :=
  ∀ op ∈ world.ops id, (world.calls op.token).stage = .exiting id →
    world.activeTokens (world.calls op.token).process ≠ some op.token

def World.Truthful (world : World) : Label → Prop
  | .readSet token => (world.calls token).wire = .answered true → world.Registers token
  | .resume token => (world.calls token).stage = .retried true → world.Registers token
  | .raiseOp id => world.Answered id
  | _ => True

/-- What every world keeps about the registry of the processes. -/
structure World.Registered (world : World) : Prop where
  inside : ∀ process token, world.activeTokens process = some token →
    (world.calls token).process = process ∧ (world.calls token).stage.inside = true ∧
      (world.calls token).lost = false ∧ (world.calls token).released = false
  holder : ∀ token, world.Holds token → (world.calls token).stage.entered = true →
    ∀ other, world.activeTokens (world.calls token).process = some other → other = token
  unread : ∀ id op, world.ops id = some op → op.Unread →
    ∀ other, world.activeTokens (world.calls op.token).process = some other → other = op.token
  exits : ∀ token id, (world.calls token).stage = .exiting id →
    ∃ op, world.ops id = some op ∧ op.token = token ∧ op.script = .release

section

variable {world next : World} {token other : Token} {id : OpId} {op : Op} {call : Call}
  {label : Label}

theorem inside_entered {stage : Stage} (inside : stage.inside = true) :
    stage.entered = true := by
  cases stage with
  | body => rfl
  | exiting id => rfl
  | _ => cases inside

theorem World.Registered.initial : World.initial.Registered where
  inside := nofun
  holder := by
    rintro token ⟨lease, stored, _⟩
    cases stored
  unread := nofun
  exits := nofun

/-- A step of one call outside its context leaves the registry as it is. -/
theorem World.Registered.outside (registered : world.Registered)
    (before : (world.calls token).stage.entered = false)
    (after : call.stage.entered = false)
    (calls : next.calls = Function.update world.calls token call)
    (ops : next.ops = world.ops) (tokens : next.activeTokens = world.activeTokens)
    (owned : ∀ id op, world.ops id = some op → (world.calls op.token).stage.entered = true)
    (holds : ∀ other, other ≠ token → next.Holds other → world.Holds other) :
    next.Registered := by
  have kept (other : Token) (inside : (world.calls other).stage.entered = true) :
      next.calls other = world.calls other := by
    have differ : other ≠ token := by
      rintro rfl
      rw [before] at inside
      cases inside
    rw [calls, Function.update_of_ne differ]
  refine ⟨?_, ?_, ?_, ?_⟩
  · intro process other entry
    rw [tokens] at entry
    have was := registered.inside process other entry
    rw [kept other (inside_entered was.2.1)]
    exact was
  · intro other held inside
    by_cases own : other = token
    · rw [own, calls, Function.update_self, after] at inside
      cases inside
    · rw [calls, Function.update_of_ne own] at inside ⊢
      rw [tokens]
      exact registered.holder other (holds other own held) inside
  · intro id op known unread
    rw [ops] at known
    rw [kept op.token (owned id op known), tokens]
    exact registered.unread id op known unread
  · intro other id stage
    have differ : other ≠ token := by
      rintro rfl
      rw [calls, Function.update_self] at stage
      rw [stage] at after
      cases after
    rw [calls, Function.update_of_ne differ] at stage
    rw [ops]
    exact registered.exits other id stage

/-- The stage of a call before and after a step of the operation `id`. -/
inductive Steps (world next : World) (id : OpId) (op : Op) (other : Token) : Prop
  | same (stage : (next.calls other).stage = (world.calls other).stage)
  | left (before : (world.calls other).stage.entered = true)
      (after : (next.calls other).stage = .ended .exited)
      (unregistered : next.activeTokens (world.calls other).process ≠ some other)
  | leaving (before : (world.calls other).stage = .body)
      (after : (next.calls other).stage = .exiting id) (own : op.token = other)
      (release : op.script = .release)

/-- A step of one operation. -/
theorem World.Registered.operates (registered : world.Registered)
    (process : ∀ other, (next.calls other).process = (world.calls other).process)
    (steps : ∀ other, Steps world next id op other)
    (flags : ∀ process other, next.activeTokens process = some other →
      (next.calls other).lost = (world.calls other).lost ∧
        (next.calls other).released = (world.calls other).released)
    (tokens : ∀ process other, next.activeTokens process = some other →
      world.activeTokens process = some other)
    (holds : ∀ other, next.Holds other → world.Holds other)
    (ops : next.ops = Function.update world.ops id (some op))
    (keeps : ∀ before, world.ops id = some before →
      op.token = before.token ∧ op.script = before.script)
    (unread : op.Unread → ∀ other,
      next.activeTokens (world.calls op.token).process = some other → other = op.token) :
    next.Registered := by
  refine ⟨?_, ?_, ?_, ?_⟩
  · intro owner other entry
    obtain ⟨lost, released⟩ := flags owner other entry
    have was := registered.inside owner other (tokens owner other entry)
    refine ⟨(process other).trans was.1, ?_, lost.trans was.2.2.1, released.trans was.2.2.2⟩
    cases steps other with
    | same stage =>
        rw [stage]
        exact was.2.1
    | left before after unregistered =>
        rw [was.1] at unregistered
        exact absurd entry unregistered
    | leaving before after own release =>
        rw [after]
        rfl
  · intro other held inside another entry
    have before : (world.calls other).stage.entered = true := by
      cases steps other with
      | same stage =>
          rw [stage] at inside
          exact inside
      | left before after unregistered => exact before
      | leaving before after own release =>
          rw [before]
          rfl
    rw [process other] at entry
    exact registered.holder other (holds other held) before another (tokens _ _ entry)
  · intro other known found unread_known another entry
    rw [process known.token] at entry
    rw [ops] at found
    by_cases same : other = id
    · rw [same, Function.update_self] at found
      cases found
      exact unread unread_known another entry
    · rw [Function.update_of_ne same] at found
      exact registered.unread other known found unread_known another (tokens _ _ entry)
  · intro other exiting stage
    rw [ops]
    cases steps other with
    | same still =>
        rw [still] at stage
        obtain ⟨known, found, own, release⟩ := registered.exits other exiting stage
        by_cases same : exiting = id
        · rw [same] at found
          obtain ⟨token, script⟩ := keeps known found
          rw [same, Function.update_self]
          exact ⟨op, rfl, token.trans own, script.trans release⟩
        · rw [Function.update_of_ne same]
          exact ⟨known, found, own, release⟩
    | left before after unregistered =>
        rw [after] at stage
        cases stage
    | leaving before after own release =>
        rw [after] at stage
        cases stage
        rw [Function.update_self]
        exact ⟨op, rfl, own, release⟩

/-- The handle of a call is made and registered. -/
theorem World.Registered.enter (registered : world.Registered) (sound : world.Sound)
    (before : (world.calls token).stage.entered = false) (met : world.Registers token) :
    (world.enter token (world.calls token)).Registered := by
  have calls (other : Token) (differ : other ≠ token) :
      (world.enter token (world.calls token)).calls other = world.calls other :=
    Function.update_of_ne differ ..
  have mine : (world.enter token (world.calls token)).calls token =
      { world.calls token with stage := .body, wire := .idle } := Function.update_self ..
  have differs (other : Token) (inside : (world.calls other).stage.entered = true) :
      other ≠ token := by
    rintro rfl
    rw [before] at inside
    cases inside
  have own_entry : (world.enter token (world.calls token)).activeTokens
      (world.calls token).process = some token := Function.update_self ..
  have other_entry (process : Process) (differ : process ≠ (world.calls token).process) :
      (world.enter token (world.calls token)).activeTokens process =
        world.activeTokens process := Function.update_of_ne differ ..
  have fresh := sound.fresh token before
  refine ⟨?_, ?_, ?_, ?_⟩
  · intro process other entry
    by_cases same : process = (world.calls token).process
    · rw [same, own_entry] at entry
      cases entry
      rw [mine]
      exact ⟨same.symm, rfl, fresh.1, fresh.2⟩
    · rw [other_entry process same] at entry
      have was := registered.inside process other entry
      rw [calls other (differs other (inside_entered was.2.1))]
      exact was
  · intro other held inside another entry
    by_cases own : other = token
    · rw [own, mine, own_entry] at entry
      cases entry
      exact own.symm
    · rw [calls other own] at inside entry
      obtain ⟨lease, stored, holder⟩ := held
      by_cases same : (world.calls other).process = (world.calls token).process
      · have alone := met.1 lease stored
        rw [holder] at alone
        rw [alone own same] at inside
        cases inside
      · rw [other_entry _ same] at entry
        exact registered.holder other ⟨lease, stored, holder⟩ inside another entry
  · intro id op known unread another entry
    have inside := sound.owned id op known
    rw [calls op.token (differs op.token inside)] at entry
    by_cases same : (world.calls op.token).process = (world.calls token).process
    · obtain ⟨logged, member, of_id, _⟩ := sound.replied id op known (.inl unread.2.1)
      have pending : op ∈ world.ops logged.op := by
        rw [of_id]
        exact known
      exact absurd same (met.2 logged member op pending unread)
    · rw [other_entry _ same] at entry
      exact registered.unread id op known unread another entry
  · intro other id stage
    by_cases own : other = token
    · rw [own, mine] at stage
      cases stage
    · rw [calls other own] at stage
      exact registered.exits other id stage

/-- What calling an operation does to the calls. -/
structure Calling (world next : World) : Prop where
  stage : ∀ other, (next.calls other).stage = (world.calls other).stage
  process : ∀ other, (next.calls other).process = (world.calls other).process
  lost : ∀ other, (next.calls other).lost = (world.calls other).lost
  released : ∀ other, (world.calls other).lost = false →
    (next.calls other).released = (world.calls other).released
  tokens : next.activeTokens = world.activeTokens

theorem Calling.refl (world : World) : Calling world world :=
  ⟨fun _ => rfl, fun _ => rfl, fun _ => rfl, fun _ _ => rfl, rfl⟩

theorem precheck_calling {script : Script} :
    Calling world (world.precheck token script).1 := by
  cases script with
  | renew ttlSeconds =>
      simp only [World.precheck]
      split
      · exact .refl world
      · split <;> exact .refl world
  | release =>
      simp only [World.precheck]
      split
      · exact .refl world
      · split
        next was_lost =>
          have only (other : Token) : (world.put token { world.calls token with
                released := true }).calls other = world.calls other ∨ other = token ∧
              (world.put token { world.calls token with released := true }).calls other =
                { world.calls token with released := true } := by
            by_cases own : other = token
            · right
              rw [own]
              exact ⟨rfl, put_calls_self⟩
            · exact .inl (put_calls_other own)
          refine ⟨?_, ?_, ?_, ?_, rfl⟩
          · intro other
            rcases only other with same | ⟨rfl, same⟩ <;> rw [same]
          · intro other
            rcases only other with same | ⟨rfl, same⟩ <;> rw [same]
          · intro other
            rcases only other with same | ⟨rfl, same⟩ <;> rw [same]
          · intro other kept
            rcases only other with same | ⟨rfl, same⟩
            · rw [same]
            · rw [was_lost] at kept
              cases kept
        next => exact .refl world

theorem invoke_calling {script : Script} : Calling world (world.invoke id token script) := by
  have checked : Calling world (world.precheck token script).1 := precheck_calling
  unfold World.invoke
  split
  next after state found =>
    rw [found] at checked
    exact ⟨checked.stage, checked.process, checked.lost, checked.released, checked.tokens⟩
  next after found =>
    rw [found] at checked
    exact ⟨checked.stage, checked.process, checked.lost, checked.released, checked.tokens⟩

theorem Op.Began.not_unread {script : Script} (began : op.Began token script) :
    ¬ op.Unread := by
  rintro ⟨_, answered, awaiting⟩
  rw [began.sent awaiting] at answered
  cases answered

theorem World.Registered.invoke {script : Script} (registered : world.Registered)
    (new : world.ops id = none) : (world.invoke id token script).Registered := by
  have calling : Calling world (world.invoke id token script) := invoke_calling
  have invoked : ∃ began, (world.invoke id token script).ops =
      Function.update world.ops id (some began) ∧ began.Began token script := invoke_ops
  obtain ⟨began, ops, begins⟩ := invoked
  apply registered.operates calling.process (fun other => .same (calling.stage other)) _ _
    (fun _ => invoke_redis.holds.mp) ops
  · rw [new]
    nofun
  · intro unread
    exact absurd unread begins.not_unread
  · intro process other entry
    rw [calling.tokens] at entry
    have was := registered.inside process other entry
    exact ⟨calling.lost other, calling.released other was.2.2.1⟩
  · intro process other entry
    rw [calling.tokens] at entry
    exact entry

theorem leave_calls (exiting : (world.calls token).stage = .exiting id) :
    (world.leave id token).calls token = (world.calls token).ending .exited := by
  simp only [World.leave, if_pos exiting]
  exact put_calls_self

theorem leave_tokens : (world.leave id token).activeTokens = world.activeTokens := by
  simp only [World.leave]
  split <;> rfl

/-- A release that is over at once belongs to a handle that is released or lost. -/
theorem invoke_over (settled : ¬ ((world.invoke id token .release).ops id).any
    (·.state = .awaiting) = true) :
    (world.calls token).released = true ∨ (world.calls token).lost = true := by
  cases released : (world.calls token).released with
  | true => exact .inl rfl
  | false =>
      cases lost : (world.calls token).lost with
      | true => exact .inr rfl
      | false =>
          exfalso
          apply settled
          simp [World.invoke, World.precheck, released, lost, World.putOp]

/-- The handle of a call is the same in two worlds. -/
structure SameHandle (world next : World) (other : Token) : Prop where
  process : (next.calls other).process = (world.calls other).process
  lost : (next.calls other).lost = (world.calls other).lost
  released : (world.calls other).lost = false →
    (next.calls other).released = (world.calls other).released

theorem put_handle (process : call.process = (world.calls token).process)
    (lost : call.lost = (world.calls token).lost)
    (released : call.released = (world.calls token).released) :
    SameHandle world (world.put token call) other := by
  by_cases own : other = token
  · rw [own]
    refine ⟨?_, ?_, ?_⟩
    · rw [put_calls_self, process]
    · rw [put_calls_self, lost]
    · intro _
      rw [put_calls_self, released]
  · refine ⟨?_, ?_, ?_⟩
    · rw [put_calls_other own]
    · rw [put_calls_other own]
    · intro _
      rw [put_calls_other own]

theorem leave_handle : SameHandle world (world.leave id token) other := by
  simp only [World.leave]
  split
  next => exact put_handle rfl rfl rfl
  next => exact ⟨rfl, rfl, fun _ => rfl⟩

theorem SameHandle.trans {last : World} (first : SameHandle world next other)
    (second : SameHandle next last other) : SameHandle world last other := by
  refine ⟨second.process.trans first.process, second.lost.trans first.lost, ?_⟩
  intro kept
  exact (second.released (first.lost.trans kept)).trans (first.released kept)

/-- What a context does on its way out. -/
structure Exiting (world next : World) (id : OpId) (token : Token) : Prop where
  handle : ∀ other, SameHandle world next other
  tokens : next.activeTokens = world.activeTokens
  others : ∀ other, other ≠ token → (next.calls other).stage = (world.calls other).stage
  own : (next.calls token).stage = .exiting id ∨ (next.calls token).stage = .ended .exited ∧
    ((world.calls token).released = true ∨ (world.calls token).lost = true)

theorem exit_exiting : Exiting world (world.exit id token) id token := by
  have put (other : Token) : SameHandle world
      (world.put token { world.calls token with stage := .exiting id }) other :=
    put_handle rfl rfl rfl
  have calling : Calling (world.put token { world.calls token with stage := .exiting id })
      ((world.put token { world.calls token with stage := .exiting id }).invoke id token
        .release) := invoke_calling
  have called (other : Token) : SameHandle world ((world.put token { world.calls token with
      stage := .exiting id }).invoke id token .release) other :=
    (put other).trans ⟨calling.process other, calling.lost other, calling.released other⟩
  have exiting : (((world.put token { world.calls token with
      stage := .exiting id }).invoke id token .release).calls token).stage = .exiting id := by
    rw [calling.stage, put_calls_self]
  have still (other : Token) (differ : other ≠ token) :
      (((world.put token { world.calls token with stage := .exiting id }).invoke id token
        .release).calls other).stage = (world.calls other).stage := by
    rw [calling.stage, put_calls_other differ]
  simp only [World.exit]
  split
  next => exact ⟨called, calling.tokens, still, .inl exiting⟩
  next settled =>
    refine ⟨fun other => (called other).trans leave_handle, ?_, ?_, ?_⟩
    · rw [leave_tokens]
      exact calling.tokens
    · intro other differ
      rw [leave_calls_other differ]
      exact still other differ
    · right
      rw [leave_calls exiting]
      refine ⟨rfl, ?_⟩
      have ended := invoke_over settled
      rw [put_calls_self] at ended
      exact ended

theorem World.Registered.exit (registered : world.Registered)
    (new : world.ops id = none) (stage : (world.calls token).stage = .body) :
    (world.exit id token).Registered := by
  have exiting : Exiting world (world.exit id token) id token := exit_exiting
  have exited : ∃ began, (world.exit id token).ops =
      Function.update world.ops id (some began) ∧ began.Began token .release := exit_ops
  obtain ⟨began, ops, begins⟩ := exited
  apply registered.operates (fun other => (exiting.handle other).process) _ _ _
    (fun _ => exit_redis.holds.mp) ops
  · rw [new]
    nofun
  · intro unread
    exact absurd unread begins.not_unread
  · intro other
    by_cases own : other = token
    · rw [own]
      rcases exiting.own with leaving | ⟨left, settled⟩
      · exact .leaving stage leaving begins.token begins.script
      · refine .left (by rw [stage]; rfl) left ?_
        rw [exiting.tokens]
        intro entry
        have was := (registered.inside _ token entry).2.2
        rcases settled with released | lost
        · rw [was.2] at released
          cases released
        · rw [was.1] at lost
          cases lost
    · exact .same (exiting.others other own)
  · intro process other entry
    rw [exiting.tokens] at entry
    have was := registered.inside process other entry
    have handle := exiting.handle other
    exact ⟨handle.lost, handle.released was.2.2.1⟩
  · intro process other entry
    rw [exiting.tokens] at entry
    exact entry

/-- What the end of an operation does to the registry and to its handle. -/
structure Finishing (world next : World) (op : Op) (reply : Bool) : Prop where
  others : ∀ other, other ≠ op.token → next.calls other = world.calls other
  stage : (next.calls op.token).stage = (world.calls op.token).stage
  process : (next.calls op.token).process = (world.calls op.token).process
  tokens : ∀ process other, next.activeTokens process = some other →
    world.activeTokens process = some other
  removes : ∀ process other, world.activeTokens process = some other →
    next.activeTokens process = some other ∨ other = op.token ∨
      op.script = .release ∧ reply = true ∧ process = (world.calls op.token).process
  renewed : op.script ≠ .release → reply = true → SameHandle world next op.token
  gone : op.script = .release ∨ reply = false →
    next.activeTokens (world.calls op.token).process ≠ some op.token

theorem markLost_finishing {script : Script} {wire : Wire} {state : OpState} :
    Finishing world (world.markLost token) ⟨token, script, wire, state⟩ false := by
  have entries (process : Process) : (world.markLost token).activeTokens process =
      if world.activeTokens (world.calls token).process = some token ∧
          process = (world.calls token).process then none
      else world.activeTokens process := by
    change (if world.activeTokens (world.calls token).process = some token then
      Function.update world.activeTokens (world.calls token).process none
        else world.activeTokens) process = _
    by_cases own : world.activeTokens (world.calls token).process = some token
    · by_cases same : process = (world.calls token).process
      · simp [own, same]
      · simp [own, same]
    · simp [own]
  have mine : (world.markLost token).calls token = { world.calls token with lost := true } :=
    put_calls_self
  refine ⟨fun _ differ => put_calls_other differ, ?_, ?_, ?_, ?_, nofun, ?_⟩
  · rw [mine]
  · rw [mine]
  · intro process other entry
    rw [entries] at entry
    split at entry
    · cases entry
    · exact entry
  · intro process other entry
    rw [entries]
    split
    next own =>
      rw [own.2, own.1] at entry
      exact .inr (.inl (Option.some.inj entry).symm)
    next => exact .inl entry
  · intro _ entry
    rw [entries] at entry
    split at entry
    next => cases entry
    next kept => exact kept ⟨entry, rfl⟩

theorem finish_finishing {reply : Bool} : Finishing world (world.finish id op reply) op reply := by
  obtain ⟨token, script, wire, state⟩ := op
  cases script with
  | renew ttlSeconds =>
      cases reply with
      | true =>
          have mine : (world.finish id ⟨token, .renew ttlSeconds, wire, state⟩ true).calls token =
              { world.calls token with ttlSeconds := ttlSeconds } := put_calls_self
          refine ⟨fun _ differ => put_calls_other differ, ?_, ?_, fun _ _ entry => entry,
            fun _ _ entry => .inl entry, ?_, ?_⟩
          · rw [mine]
          · rw [mine]
          · intro _ _
            refine ⟨?_, ?_, fun _ => ?_⟩ <;> rw [mine]
          · rintro (release | negative)
            · cases release
            · cases negative
      | false =>
          have lost : Finishing world (world.markLost token)
              ⟨token, .renew ttlSeconds, wire, state⟩ false := markLost_finishing
          exact ⟨lost.others, lost.stage, lost.process, lost.tokens, lost.removes, nofun, lost.gone⟩
  | release =>
      have mine : (world.put token { world.calls token with released := true }).calls token =
          { world.calls token with released := true } := put_calls_self
      cases reply with
      | true =>
          refine ⟨fun _ differ => put_calls_other differ, ?_, ?_, ?_, ?_, ?_, ?_⟩
          · change ((world.put token { world.calls token with released := true }).calls
              token).stage = _
            rw [mine]
          · change ((world.put token { world.calls token with released := true }).calls
              token).process = _
            rw [mine]
          · intro process other entry
            change Function.update world.activeTokens (world.calls token).process none process =
              some other at entry
            by_cases own : process = (world.calls token).process
            · rw [own, Function.update_self] at entry
              cases entry
            · rw [Function.update_of_ne own] at entry
              exact entry
          · intro process other entry
            by_cases own : process = (world.calls token).process
            · exact .inr (.inr ⟨rfl, rfl, own⟩)
            · left
              change Function.update world.activeTokens (world.calls token).process none process =
                some other
              rw [Function.update_of_ne own]
              exact entry
          · intro differ
            exact absurd rfl differ
          · intro _
            change Function.update world.activeTokens (world.calls token).process none
              (world.calls token).process ≠ some token
            rw [Function.update_self]
            simp
      | false =>
          have lost : Finishing (world.put token { world.calls token with released := true })
              ((world.put token { world.calls token with released := true }).markLost token)
              ⟨token, .release, wire, state⟩ false := markLost_finishing
          have process : ((world.put token { world.calls token with
              released := true }).calls token).process = (world.calls token).process := by
            rw [mine]
          refine ⟨?_, ?_, ?_, lost.tokens, ?_, nofun, ?_⟩
          · intro other differ
            exact (lost.others other differ).trans (put_calls_other differ)
          · have stage := lost.stage
            rw [mine] at stage
            exact stage
          · exact lost.process.trans process
          · intro owner other entry
            rcases lost.removes owner other entry with kept | own | popped
            · exact .inl kept
            · exact .inr (.inl own)
            · cases popped.2.1
          · have gone := lost.gone (.inl rfl)
            rw [process] at gone
            exact fun _ => gone

/-- The end of an operation, and of the context that waits for it. -/
theorem World.Registered.readOp {reply : Bool} (registered : world.Registered)
    (known : world.ops id = some op) :
    ((world.finish id op reply).leave id op.token).Registered := by
  have finishing : Finishing world (world.finish id op reply) op reply := finish_finishing
  have ops : ((world.finish id op reply).leave id op.token).ops = Function.update world.ops id
      (some { op with wire := .idle, state := .returned reply }) := by
    rw [leave_ops, finish_ops]
  have tokens : ((world.finish id op reply).leave id op.token).activeTokens =
      (world.finish id op reply).activeTokens := leave_tokens
  have handle (other : Token) : SameHandle (world.finish id op reply)
      ((world.finish id op reply).leave id op.token) other := leave_handle
  apply registered.operates _ _ _ _
    (fun _ => read_redis.holds.mp) ops
  · intro before found
    rw [known] at found
    cases found
    exact ⟨rfl, rfl⟩
  · rintro ⟨_, idle, _⟩
    cases idle
  · intro other
    rw [(handle other).process]
    by_cases own : other = op.token
    · rw [own, finishing.process]
    · rw [finishing.others other own]
  · intro other
    by_cases own : other = op.token
    · rw [own]
      by_cases exiting : ((world.finish id op reply).calls op.token).stage = .exiting id
      · have before := exiting
        rw [finishing.stage] at before
        obtain ⟨exit_op, found, _, release⟩ := registered.exits op.token id before
        rw [known] at found
        cases found
        refine .left (by rw [before]; rfl) ?_ ?_
        · rw [leave_calls exiting]
          rfl
        · rw [tokens]
          exact finishing.gone (.inl release)
      · have same : (world.finish id op reply).leave id op.token = world.finish id op reply := by
          simp only [World.leave, if_neg exiting]
        rw [same]
        exact .same finishing.stage
    · refine .same ?_
      rw [leave_calls_other own, finishing.others other own]
  · intro process other entry
    rw [tokens] at entry
    have was := registered.inside process other (finishing.tokens process other entry)
    have finished : SameHandle world (world.finish id op reply) other := by
      by_cases own : other = op.token
      · rw [own] at was entry ⊢
        have positive : ¬ (op.script = .release ∨ reply = false) := by
          intro ends
          have gone := finishing.gone ends
          rw [was.1] at gone
          exact gone entry
        apply finishing.renewed
        · exact fun release => positive (.inl release)
        · cases reply with
          | true => rfl
          | false => exact absurd (.inr rfl) positive
      · have same := finishing.others other own
        refine ⟨?_, ?_, fun _ => ?_⟩ <;> rw [same]
    have both := finished.trans (handle other)
    exact ⟨both.lost, both.released was.2.2.1⟩
  · intro process other entry
    rw [tokens] at entry
    exact finishing.tokens process other entry

/-- Redis executes a script of the operation. -/
theorem World.Registered.serveOp (registered : world.Registered) (sound : world.Sound)
    (known : world.ops id = some op) : (world.serveScript id op).Registered := by
  have ops : (world.serveScript id op).ops = Function.update world.ops id (some { op with
      wire := .answered (world.script op.token op.script world.lease).2 }) := rfl
  refine registered.operates ?_ ?_ ?_ ?_ ?_ ops ?_ ?_
  · exact fun _ => rfl
  · exact fun _ => .same rfl
  · exact fun _ _ _ => ⟨rfl, rfl⟩
  · exact fun _ _ entry => entry
  · rintro other ⟨lease, scripted, own⟩
    exact script_before scripted own
  · intro before found
    rw [known] at found
    cases found
    exact ⟨rfl, rfl⟩
  · rintro ⟨_, answered, _⟩ other entry
    have owned : world.Holds op.token := script_owned (.inr (Wire.answered.inj answered))
    exact registered.holder op.token owned (sound.owned id op known) other entry

/-- An operation without an answer. -/
theorem World.Registered.raiseOp (registered : world.Registered)
    (known : world.ops id = some op) (met : world.Answered id) :
    ((world.putOp id { op with state := .raised }).leave id op.token).Registered := by
  have ops : ((world.putOp id { op with state := .raised }).leave id op.token).ops =
      Function.update world.ops id (some { op with state := .raised }) := leave_ops
  have tokens : ((world.putOp id { op with state := .raised }).leave id op.token).activeTokens =
      world.activeTokens := leave_tokens
  have handle (other : Token) : SameHandle (world.putOp id { op with state := .raised })
      ((world.putOp id { op with state := .raised }).leave id op.token) other := leave_handle
  apply registered.operates (fun other => (handle other).process) _ _ _
    (fun _ => raise_redis.holds.mp) ops
  · intro before found
    rw [known] at found
    cases found
    exact ⟨rfl, rfl⟩
  · rintro ⟨_, _, raised⟩
    cases raised
  · intro other
    by_cases own : other = op.token
    · rw [own]
      by_cases exiting : (world.calls op.token).stage = .exiting id
      · refine .left (by rw [exiting]; rfl) ?_ ?_
        · have exiting : ((world.putOp id { op with state := .raised }).calls op.token).stage =
              .exiting id := exiting
          rw [leave_calls exiting]
          rfl
        · rw [tokens]
          exact met op known exiting
      · refine .same ?_
        have exiting : ¬ ((world.putOp id { op with state := .raised }).calls op.token).stage =
            .exiting id := exiting
        simp only [World.leave, if_neg exiting]
        rfl
    · refine .same ?_
      rw [leave_calls_other own]
      rfl
  · intro process other entry
    rw [tokens] at entry
    have was := registered.inside process other entry
    exact ⟨(handle other).lost, (handle other).released was.2.2.1⟩
  · intro process other entry
    rw [tokens] at entry
    exact entry

theorem World.Registered.moved (sound : world.Sound) (registered : world.Registered)
    (met : world.Truthful label) (moved : Moved world label next) : next.Registered := by
  have turned {token : Token} {call : Call}
      (before : (world.calls token).stage.entered = false) (after : call.stage.entered = false) :
      (world.put token call).Registered :=
    registered.outside before after rfl rfl rfl sound.owned fun _ _ holds => holds
  cases moved with
  | tick later forward =>
      refine ⟨registered.inside, ?_, registered.unread, registered.exits⟩
      rintro token ⟨lease, stored, own⟩
      exact registered.holder token ⟨lease, (Option.filter_eq_some_iff.mp stored).1, own⟩
  | redisFailure =>
      refine ⟨registered.inside, ?_, registered.unread, registered.exits⟩
      rintro token ⟨lease, stored, own⟩
      cases stored
  | acquire token process ttlSeconds new valid => exact turned (by rw [new]; rfl) rfl
  | serveSet token sent =>
      have before : (world.calls token).stage.entered = false := by
        cases entered : (world.calls token).stage.entered with
        | false => rfl
        | true => exact absurd sent (sound.idle token entered)
      have tokens : (world.setLock token (world.calls token)).activeTokens =
          world.activeTokens := by
        unfold World.setLock
        split <;> rfl
      refine registered.outside before ?_ setLock_calls setLock_ops.1 tokens sound.owned ?_
      · exact before
      · rintro other differ ⟨lease, stored, own⟩
        refine ⟨lease, ?_, own⟩
        unfold World.setLock at stored
        split at stored
        next =>
          cases stored
          exact absurd own.symm differ
        next => exact stored
  | refuseSet token sets sent => exact turned (sets_outside sets) rfl
  | loseSet token sets => exact turned (sets_outside sets) rfl
  | entered token stage won => exact registered.enter sound (by rw [stage]; rfl) (met won)
  | reentry token stage missed taken => exact turned (by rw [stage]; rfl) rfl
  | contended token stage missed => exact turned (by rw [stage]; rfl) rfl
  | wake token stage => exact turned (by rw [stage]; rfl) rfl
  | readRetry token acquired stage reply => exact turned (by rw [stage]; rfl) rfl
  | resumed token stage => exact registered.enter sound (by rw [stage]; rfl) (met stage)
  | missed token stage => exact turned (by rw [stage]; rfl) rfl
  | timeout token waits => exact turned (waits_outside waits) rfl
  | cancel token inside =>
      refine turned ?_ rfl
      rcases inside with stage | waits
      · rw [stage]
        rfl
      · exact waits_outside waits
  | invoke id token script new inside => exact registered.invoke new
  | exit id token new stage => exact registered.exit new stage
  | serveOp id op known sent => exact registered.serveOp sound known
  | readOp id op reply known awaiting answered => exact registered.readOp known
  | raiseOp id op known awaiting => exact registered.raiseOp known met

theorem reachable_registered (reached : leases.ReachableBy World.Truthful world) :
    world.Registered := by
  refine reached.invariant ?_ ?_
  · rintro _ rfl
    exact .initial
  · intro before after label reached registered met taken
    exact registered.moved (reachable_sound reached.reachable) met (step_moved taken)

/-- An entry leaves the registry with the end of its own renewal or release. -/
theorem Moved.removes (registered : world.Registered) (moved : Moved world label next)
    {process : Process} (entry : world.activeTokens process = some token)
    (removed : next.activeTokens process = none) :
    ∃ id op, label = .readOp id ∧ world.ops id = some op ∧ op.token = token := by
  have kept (same : next.activeTokens = world.activeTokens) :
      ∃ id op, label = .readOp id ∧ world.ops id = some op ∧ op.token = token := by
    rw [same, entry] at removed
    cases removed
  have enters {other : Token} : (world.enter other (world.calls other)).activeTokens process ≠
      none := by
    change Function.update world.activeTokens _ _ process ≠ none
    by_cases own : process = (world.calls other).process
    · rw [own, Function.update_self]
      simp
    · rw [Function.update_of_ne own, entry]
      simp
  cases moved with
  | serveSet setter sent =>
      apply kept
      unfold World.setLock
      split <;> rfl
  | entered other stage won => exact absurd removed enters
  | resumed other stage => exact absurd removed enters
  | invoke id other script new inside =>
      have calling : Calling world (world.invoke id other script) := invoke_calling
      exact kept calling.tokens
  | exit id other new stage =>
      have exiting : Exiting world (world.exit id other) id other := exit_exiting
      exact kept exiting.tokens
  | readOp id op reply known awaiting answered =>
      have finishing : Finishing world (world.finish id op reply) op reply := finish_finishing
      rw [leave_tokens] at removed
      refine ⟨id, op, rfl, known, ?_⟩
      rcases finishing.removes process token entry with still | own | ⟨release, positive, same⟩
      · rw [removed] at still
        cases still
      · exact own.symm
      · rw [positive] at answered
        rw [same] at entry
        exact (registered.unread id op known ⟨release, answered, awaiting⟩ token entry).symm
  | raiseOp id op known awaiting => exact kept leave_tokens
  | _ => exact kept rfl

/-- The registry of a process names a handle that is inside its context: a call is refused as
reentrant only then, and only the owner of an entry takes it out. -/
theorem registry_truthful {world : World} (reached : leases.ReachableBy World.Truthful world) :
    (∀ token next, leases.step world (.readSet token) = some next →
      (next.calls token).stage = .ended .lockReentry →
      ∃ other, (world.calls other).process = (world.calls token).process ∧
        (world.calls other).stage.inside = true) ∧
    ∀ label next, leases.step world label = some next → ∀ process token,
      world.activeTokens process = some token → next.activeTokens process = none →
      ∃ id op, label = .readOp id ∧ world.ops id = some op ∧ op.token = token := by
  have registered := reachable_registered reached
  refine ⟨?_, ?_⟩
  · intro token next taken refused
    have moved : Moved world (.readSet token) next := step_moved taken
    cases moved with
    | entered _ stage won =>
        change (Function.update world.calls token _ token).stage = _ at refused
        rw [Function.update_self] at refused
        cases refused
    | reentry _ stage missed present =>
        obtain ⟨other, entry⟩ := Option.isSome_iff_exists.mp present
        have was := registered.inside _ other entry
        exact ⟨other, was.1, was.2.1⟩
    | contended _ stage missed =>
        rw [put_calls_self] at refused
        cases refused
  · intro label next taken process token entry removed
    exact (step_moved taken).removes registered entry removed

end

instance (world : World) (token : Token) : Decidable (world.Registers token) :=
  inferInstanceAs (Decidable ((∀ lease ∈ world.lease, _ → _ → _) ∧
    ∀ entry ∈ world.scripts, ∀ op ∈ world.ops entry.op, _ → _))

instance (world : World) (id : OpId) : Decidable (world.Answered id) :=
  inferInstanceAs (Decidable (∀ op ∈ world.ops id, _ → _))

instance (world : World) : ∀ label : Label, Decidable (world.Truthful label)
  | .readSet token => inferInstanceAs (Decidable (_ → world.Registers token))
  | .resume token => inferInstanceAs (Decidable (_ → world.Registers token))
  | .raiseOp id => inferInstanceAs (Decidable (world.Answered id))
  | .tick _ => .isTrue trivial
  | .redisFailure => .isTrue trivial
  | .acquire _ _ _ => .isTrue trivial
  | .serveSet _ => .isTrue trivial
  | .refuseSet _ => .isTrue trivial
  | .loseSet _ => .isTrue trivial
  | .wake _ => .isTrue trivial
  | .readRetry _ => .isTrue trivial
  | .timeout _ => .isTrue trivial
  | .cancel _ => .isTrue trivial
  | .invoke _ _ _ => .isTrue trivial
  | .exit _ _ => .isTrue trivial
  | .serveOp _ => .isTrue trivial
  | .readOp _ => .isTrue trivial

/-- A handle is in its body while a second call of its process finds the key taken. -/
def reentrantCall : List Label :=
  [.acquire 0 0 30, .serveSet 0, .readSet 0, .acquire 1 0 30, .serveSet 1]

/-- The release of a context that ends gets no answer; a later call finds the key taken. -/
def unansweredRelease : List Label :=
  [.acquire 0 0 30, .serveSet 0, .readSet 0, .exit 0 0, .raiseOp 0, .acquire 1 0 30, .serveSet 1]

/-- The key is free again; a second handle takes it before the first has read so. -/
def unreadRelease : List Label :=
  [.acquire 0 0 30, .serveSet 0, .readSet 0, .exit 0 0, .serveOp 0, .acquire 1 0 30,
    .serveSet 1, .readSet 1]

theorem registry_truthful_reentrant :
    ∃ world next, leases.exec .initial reentrantCall = some world ∧
      leases.step world (.readSet 1) = some next ∧
      (next.calls 1).stage = .ended .lockReentry ∧
      ∃ other, (world.calls other).process = (world.calls 1).process ∧
        (world.calls other).stage.inside = true := by
  have run : ∃ world next, leases.exec .initial reentrantCall = some world ∧
      leases.Allows World.Truthful .initial reentrantCall ∧
      leases.step world (.readSet 1) = some next ∧
      (next.calls 1).stage = .ended .lockReentry :=
    ⟨_, _, rfl, by decide +kernel, rfl, by decide +kernel⟩
  obtain ⟨world, next, run, met, taken, refused⟩ := run
  refine ⟨world, next, run, taken, refused, ?_⟩
  exact (registry_truthful (Machine.ReachableBy.exec (.start rfl) met run)).1 1 next taken refused

/-- A call is refused as reentrant when every context of its process has ended, and a
release takes the entry of another handle out of the registry. -/
theorem registry_untruthful :
    (∃ world next, leases.exec .initial unansweredRelease = some world ∧
      leases.step world (.readSet 1) = some next ∧
      (next.calls 1).stage = .ended .lockReentry ∧
      (world.calls 0).stage = .ended .exited ∧ (world.calls 1).stage = .setting) ∧
    ∃ world next, leases.exec .initial unreadRelease = some world ∧
      leases.step world (.readOp 0) = some next ∧ (world.calls 1).stage = .body ∧
      world.activeTokens 0 = some 1 ∧ next.activeTokens 0 = none ∧
      (world.ops 0).map (·.token) = some 0 :=
  ⟨⟨_, _, rfl, rfl, by decide +kernel, by decide +kernel, by decide +kernel⟩,
    _, _, rfl, rfl, by decide +kernel, by decide +kernel, by decide +kernel, by decide +kernel⟩

end Locks
