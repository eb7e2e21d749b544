import Soc360.Auth.Rotation

set_option autoImplicit false

namespace Auth

/-- The stages between the flush of a flag and the end of the mass revocation. -/
def Stage.sweeps : Stage → Bool
  | .flagged _ => true
  | .sweeping _ _ _ => true
  | .revoking _ _ _ => true
  | _ => false

def Issue.expiry : Issue → Option Seconds
  | .revokeOld expiresAt => some expiresAt
  | .untrackOld expiresAt => some expiresAt
  | .track expiresAt => some expiresAt
  | _ => none

/-- When the access token that a call has created, and not yet tracked, expires. -/
def Stage.expiry : Stage → Option Seconds
  | .created _ expiresAt => some expiresAt
  | .added _ _ _ issue => issue.expiry
  | _ => none

/-- A mass revocation has read the JTI and is still to denylist it. -/
def Revocation.Awaits (revocation : Revocation) (jti : Jti) : Prop :=
  ∃ first todo, revocation = .writing first todo ∧ jti ∈ first :: todo

/-- The denylist only gains entries, each with the full TTL. -/
def Redis.Grows (ttlSeconds : Seconds) (before after : Redis) : Prop :=
  ∀ jti, after.denylist jti = before.denylist jti ∨ after.denylist jti = some ttlSeconds

namespace World

/-- `get_current_user` for the access token with this JTI. -/
def getCurrentUser (world : World) (directory : Directory) (jti : Jti) : Option UserId :=
  match world.access jti with
  | none => none
  | some token =>
      if token.expiresAt ≤ world.now then none
      else if world.redis.isTokenRevoked jti then none
      else if (world.users.table.slot token.userId).satisfies (·.isActive) then
        match directory.tenantOf token.userId with
        | none => some token.userId
        | some tenant =>
            if (world.tenants.table.slot tenant).satisfies (·.isActive) then some token.userId
            else none
      else none

/-- A tracked access token that is expired or on the denylist. -/
def Dead (world : World) (jti : Jti) : Prop :=
  ∃ token, world.access jti = some token ∧
    (token.expiresAt ≤ world.now ∨ world.redis.isTokenRevoked jti = true)

/-- The row is one of the users', in the eyes of the transaction. -/
def SeesOf (world : World) (txn : Txn) (users : List UserId) (token : TokenHash) : Prop :=
  ∃ row, world.tokens.view txn token = .live row ∧ row.userId ∈ users

/-- The tokens of a login or refresh that has committed. -/
def Issued (world : World) (txn : Txn) (grant : Grant) (token : TokenHash) : Prop :=
  ∃ task, world.tasks txn = some task ∧ task.Committed ∧ task.stage = .granted grant token

/-- What a mass revocation relies on between two statements. -/
def Sweeping (world : World) (directory : Directory) (txn : Txn) (call : Call) : Stage → Prop
  | .flagged todo => ∀ user ∈ todo, user ∈ call.covers directory
  | .sweeping rows todo _ => ∀ token ∈ rows, world.SeesRevoked txn token ∨
      token ∈ todo ∧ world.SeesOf txn (call.covers directory) token
  | .revoking rows jtis calls => (∀ token ∈ rows, world.SeesRevoked txn token) ∧
      ∀ user, ∀ jti ∈ jtis user, (world.access jti).isSome = true ∧
        (world.Dead jti ∨ (calls user).Awaits jti ∨ ∃ command, calls user = .raised command)
  | _ => True

/-- What every world of a run keeps about the access tokens. -/
structure Tracked (world : World) (accessTtl : Seconds) : Prop where
  lasting : ∀ jti token left, world.access jti = some token →
    world.redis.denylist jti = some left → token.expiresAt ≤ world.now + left
  recent : ∀ jti token, world.access jti = some token →
    token.expiresAt ≤ world.now + accessTtl
  known : ∀ user jti, jti ∈ world.redis.active user → (world.access jti).isSome = true
  expiry : ∀ txn task expiresAt, world.Open txn task → task.stage.expiry = some expiresAt →
    expiresAt ≤ world.now + accessTtl

/-- What every world of a run keeps about the mass revocations. -/
structure Swept (world : World) (directory : Directory) : Prop where
  idle : ∀ txn, (∀ task, ¬ world.Open txn task) → world.users.effects txn = []
  flags : ∀ txn task user, world.Open txn task →
    (user, .change (.active false)) ∈ world.users.effects txn →
      user ∈ task.call.covers directory ∧ task.stage.sweeps = true
  sweeping : ∀ txn task, world.Open txn task →
    world.Sweeping directory txn task.call task.stage

/-- The tokens issued on the flags as they were before a deactivation are dead. -/
def NoneSurvives (world : World) : Prop :=
  ∀ txn grant token, world.Issued txn grant token →
    grant.epoch < world.deactivations grant.userId →
      world.Revoked token ∧ ∀ jti, grant.jti = some jti → world.Dead jti

end World

/-- A login or a refresh commits while no deactivation of its user has committed since it
read the flags; a deactivation commits when each token issued to its user so far was in the
snapshot of its UPDATE or in its reading of `active_jtis`, or is dead already. -/
def CaughtUp (world : World) : Label → Prop
  | .commit _ .failed => True
  | .commit txn _ => ∀ task, world.Open txn task →
      (∀ grant token, task.stage = .granted grant token →
        grant.epoch = world.deactivations grant.userId) ∧
      ∀ rows jtis calls, task.stage = .revoking rows jtis calls →
        ∀ other grant token, world.Issued other grant token →
          (grant.userId, .change (.active false)) ∈ world.users.effects txn →
            (world.Revoked token ∨ token ∈ rows) ∧
              ∀ jti, grant.jti = some jti → world.Dead jti ∨ jti ∈ jtis grant.userId
  | _ => True

def Label.isCommit : Label → Bool
  | .commit _ _ => true
  | _ => false

section

variable {directory : Directory} {accessTtl : Seconds} {world after next : World}
  {label : Label} {txn other : Txn} {task : Task} {token : TokenHash} {user : UserId}
  {action : Action} {jti : Jti}

theorem Redis.Grows.refl (ttlSeconds : Seconds) (redis : Redis) :
    redis.Grows ttlSeconds redis := fun _ => .inl rfl

theorem Redis.Grows.setRevoked (ttlSeconds : Seconds) (jti : Jti) (redis : Redis) :
    redis.Grows ttlSeconds (redis.setRevoked ttlSeconds jti) := by
  intro other
  by_cases same : other = jti
  · subst same
    exact .inr (Function.update_self ..)
  · exact .inl (Function.update_of_ne same _ _)

theorem Redis.Grows.revoked {ttlSeconds : Seconds} {before after : Redis}
    (grows : before.Grows ttlSeconds after) (revoked : before.isTokenRevoked jti = true) :
    after.isTokenRevoked jti = true := by
  rcases grows jti with same | set
  · rw [Redis.isTokenRevoked, same]
    exact revoked
  · rw [Redis.isTokenRevoked, set]
    rfl

theorem Revocation.next_grows {ttlSeconds : Seconds} {fate : Fate} {redis redis' : Redis}
    {revocation revocation' : Revocation}
    (taken : revocation.next user ttlSeconds fate redis = some (revocation', redis')) :
    redis.Grows ttlSeconds redis' := by
  cases revocation with
  | reading =>
      simp only [Revocation.next] at taken
      split at taken <;> cases taken <;> exact Redis.Grows.refl ttlSeconds redis
  | writing first todo =>
      cases taken
      exact Fate.settle_preserves (fun state : Redis => redis.Grows ttlSeconds state) fate
        (Redis.Grows.refl ttlSeconds redis) (Redis.Grows.setRevoked ttlSeconds first redis)
  | deleting =>
      cases taken
      exact Fate.settle_preserves (fun state : Redis => redis.Grows ttlSeconds state) fate
        (Redis.Grows.refl ttlSeconds redis) fun _ => .inl rfl
  | returned => cases taken
  | raised command => cases taken

theorem Revocation.next_active {ttlSeconds : Seconds} {fate : Fate} {redis redis' : Redis}
    {revocation revocation' : Revocation}
    (taken : revocation.next user ttlSeconds fate redis = some (revocation', redis'))
    {owner : UserId} (member : jti ∈ redis'.active owner) : jti ∈ redis.active owner := by
  cases revocation with
  | reading =>
      simp only [Revocation.next] at taken
      split at taken <;> cases taken <;> exact member
  | writing first todo =>
      cases taken
      rw [settle_setRevoked_active] at member
      exact member
  | deleting =>
      cases taken
      revert member
      refine Fate.settle_preserves
        (fun state : Redis => jti ∈ state.active owner → jti ∈ redis.active owner) fate id ?_
      intro member
      by_cases same : owner = user
      · subst same
        simp [Redis.delActive] at member
      · simpa [Redis.delActive, same] using member
  | returned => cases taken
  | raised command => cases taken

theorem Revocation.next_reading {ttlSeconds : Seconds} {fate : Fate} {redis redis' : Redis}
    {revocation : Revocation}
    (taken : Revocation.reading.next user ttlSeconds fate redis = some (revocation, redis'))
    (member : jti ∈ redis.smembers user) :
    revocation.Awaits jti ∨ ∃ command, revocation = .raised command := by
  have sorted := List.perm_insertionSort (· ≤ ·) (redis.smembers user)
  have inside : jti ∈ (redis.smembers user).insertionSort (· ≤ ·) :=
    sorted.mem_iff.mpr member
  simp only [Revocation.next] at taken
  split at taken
  next empty =>
    rw [empty] at inside
    cases inside
  next first todo same =>
    cases taken
    rw [same] at inside
    rcases fate.branch_cases (Revocation.writing first todo) (.raised .read) with
      ⟨_, ended⟩ | ⟨_, ended⟩
    · rw [ended]
      exact .inl ⟨first, todo, rfl, inside⟩
    · rw [ended]
      exact .inr ⟨.read, rfl⟩

theorem Revocation.next_awaits {ttlSeconds : Seconds} {fate : Fate} {redis redis' : Redis}
    {revocation revocation' : Revocation}
    (taken : revocation.next user ttlSeconds fate redis = some (revocation', redis'))
    (awaits : revocation.Awaits jti) :
    redis'.isTokenRevoked jti = true ∨ revocation'.Awaits jti ∨
      ∃ command, revocation' = .raised command := by
  obtain ⟨first, todo, same, member⟩ := awaits
  subst same
  cases taken
  rcases fate.branch_cases (Revocation.writes todo) (.raised .denylist) with
    ⟨done, same⟩ | ⟨_, same⟩
  · rw [same]
    subst done
    rcases List.mem_cons.mp member with now | later
    · left
      rw [Fate.settle_ok, Redis.setRevoked_revoked]
      simp [now]
    · right
      left
      cases todo with
      | nil => cases later
      | cons head rest => exact ⟨head, rest, rfl, later⟩
  · rw [same]
    exact .inr (.inr ⟨.denylist, rfl⟩)

/-- A JTI that a mass revocation has read is denylisted, or still to be, or the revocation has
raised. -/
theorem Revocation.next_reached {ttlSeconds : Seconds} {fate : Fate} {redis redis' : Redis}
    {revocation revocation' : Revocation} {dead : Prop}
    (taken : revocation.next user ttlSeconds fate redis = some (revocation', redis'))
    (read : revocation = .reading → jti ∈ redis.smembers user)
    (reached : revocation ≠ .reading →
      dead ∨ revocation.Awaits jti ∨ ∃ command, revocation = .raised command) :
    dead ∨ redis'.isTokenRevoked jti = true ∨ revocation'.Awaits jti ∨
      ∃ command, revocation' = .raised command := by
  cases revocation with
  | reading => exact .inr (.inr (Revocation.next_reading taken (read rfl)))
  | writing first todo =>
      rcases reached (by simp) with done | awaits | ⟨command, raised⟩
      · exact .inl done
      · exact .inr (Revocation.next_awaits taken awaits)
      · cases raised
  | deleting =>
      rcases reached (by simp) with done | ⟨_, _, awaits, _⟩ | ⟨command, raised⟩
      · exact .inl done
      · cases awaits
      · cases raised
  | returned => cases taken
  | raised command => cases taken

/-- No statement removes an entry of the denylist, or adds a member to `active_jtis` that it
has not just tracked. -/
theorem Planned.redis {call : Call} {startedAt : Seconds} {choice : Choice}
    {from_ stage : Stage} {redis : Redis}
    (planned : Planned directory accessTtl world txn call startedAt choice from_ stage
      (.redis redis)) :
    world.redis.Grows accessTtl redis ∧
      ∀ user jti, jti ∈ redis.active user → jti ∈ world.redis.active user := by
  have set_revoked (jti : Jti) : world.redis.Grows accessTtl
      (world.redis.setRevoked accessTtl jti) := .setRevoked accessTtl jti world.redis
  have removed (owner : UserId) (old : Jti) : ∀ user jti,
      jti ∈ (world.redis.srem owner old).active user → jti ∈ world.redis.active user := by
    intro user jti member
    by_cases same : user = owner
    · subst same
      simp only [Redis.srem, Function.update_self] at member
      exact List.mem_of_mem_filter member
    · simpa [Redis.srem, same] using member
  cases planned with
  | denylist _ acts =>
      rcases acts with acts | acts
      · cases acts
      · cases acts
        exact ⟨set_revoked _, fun _ _ member => member⟩
  | revokeOld _ _ _ _ _ acts =>
      rcases acts with acts | acts
      · cases acts
      · cases acts
        exact ⟨set_revoked _, fun _ _ member => member⟩
  | untrackOld oldJti grant =>
      exact ⟨fun _ => .inl rfl, removed grant.userId oldJti⟩
  | untrack jti user => exact ⟨fun _ => .inl rfl, removed user jti⟩
  | command rows jtis calls covered fate taken =>
      exact ⟨Revocation.next_grows taken, fun _ _ member => Revocation.next_active taken member⟩

/-- The one statement that tracks a JTI. -/
theorem Planned.track_unused {call : Call} {startedAt : Seconds} {choice : Choice}
    {from_ stage : Stage} {new : AccessToken}
    (planned : Planned directory accessTtl world txn call startedAt choice from_ stage
      (.track jti new)) :
    world.access jti = none ∧ world.redis.denylist jti = none ∧
      from_.expiry = some new.expiresAt := by
  have nowhere (unused : world.unused jti = true) :
      world.access jti = none ∧ world.redis.denylist jti = none := by
    simpa [World.unused] using unused
  cases planned with
  | denylist _ acts => rcases acts with acts | acts <;> cases acts
  | revokeOld _ _ _ _ _ acts => rcases acts with acts | acts <;> cases acts
  | track grant expiresAt unused => exact ⟨(nowhere unused).1, (nowhere unused).2, rfl⟩
  | trackNew grant evicted row expiresAt unused =>
      exact ⟨(nowhere unused).1, (nowhere unused).2, rfl⟩

/-- What the access tokens that exist now become later. -/
structure World.Onward (world next : World) : Prop where
  now : world.now ≤ next.now
  access : ∀ jti token, world.access jti = some token → next.access jti = some token
  dead : ∀ jti token, world.access jti = some token → world.redis.isTokenRevoked jti = true →
    token.expiresAt ≤ next.now ∨ next.redis.isTokenRevoked jti = true

theorem World.Dead.onward (dead : world.Dead jti) (onward : world.Onward next) :
    next.Dead jti := by
  obtain ⟨token, known, ended⟩ := dead
  refine ⟨token, onward.access jti token known, ?_⟩
  rcases ended with expired | revoked
  · exact .inl (expired.trans onward.now)
  · exact onward.dead jti token known revoked

theorem World.Onward.same (now : next.now = world.now) (redis : next.redis = world.redis)
    (access : next.access = world.access) : world.Onward next := by
  refine ⟨now.ge, ?_, ?_⟩
  · intro jti token known
    rw [access]
    exact known
  · intro jti token _ revoked
    rw [redis]
    exact .inr revoked

/-- The access tokens after a statement: those from before, and the one it has tracked. -/
theorem Planned.access {choice : Choice} {stage : Stage}
    (planned : Planned directory accessTtl world txn task.call task.startedAt choice task.stage
      stage action) (performed : world.perform txn action = some after) :
    world.redis.Grows accessTtl after.redis ∧
      (∀ jti token, world.access jti = some token → after.access jti = some token) ∧
      (∀ jti token, after.access jti = some token → world.access jti = some token ∨
        after.redis.denylist jti = none ∧ task.stage.expiry = some token.expiresAt) ∧
      ∀ user jti, jti ∈ after.redis.active user →
        jti ∈ world.redis.active user ∨ (after.access jti).isSome = true := by
  rcases World.perform_redis performed with
    ⟨redis, access⟩ | ⟨redis, acts, same, access⟩ | ⟨jti, token, acts, redis, access⟩
  · rw [redis, access]
    exact ⟨.refl accessTtl world.redis, fun _ _ known => known, fun _ _ known => .inl known,
      fun _ _ member => .inl member⟩
  · subst acts
    rw [same, access]
    obtain ⟨grows, active⟩ := planned.redis
    exact ⟨grows, fun _ _ known => known, fun _ _ known => .inl known,
      fun user jti member => .inl (active user jti member)⟩
  · subst acts
    obtain ⟨new, clean, expiry⟩ := planned.track_unused
    rw [redis, access]
    refine ⟨fun _ => .inl rfl, ?_, ?_, ?_⟩
    · intro other old known
      have differ : other ≠ jti := by
        rintro rfl
        rw [new] at known
        cases known
      rw [Function.update_of_ne differ]
      exact known
    · intro other found known
      by_cases same : other = jti
      · subst same
        rw [Function.update_self] at known
        cases known
        exact .inr ⟨clean, expiry⟩
      · rw [Function.update_of_ne same] at known
        exact .inl known
    · intro user other member
      by_cases same : other = jti
      · subst same
        right
        rw [Function.update_self]
        rfl
      · left
        by_cases owner : user = token.userId
        · subst owner
          simp only [Redis.sadd, Function.update_self] at member
          exact (List.mem_insert_iff.mp member).resolve_left same
        · simpa [Redis.sadd, owner] using member

theorem World.Tracked.onward (tracked : world.Tracked accessTtl)
    (stepped : world.Stepped directory accessTtl label next) : world.Onward next := by
  cases stepped with
  | tick seconds =>
      refine ⟨Nat.le_add_right .., fun _ _ known => known, ?_⟩
      intro jti token known revoked
      obtain ⟨left, listed⟩ := Option.isSome_iff_exists.mp revoked
      have lasting := tracked.lasting jti token left known listed
      change _ ∨ (((world.redis.denylist jti).bind fun left =>
        if seconds < left then some (left - seconds) else none)).isSome = true
      rw [listed, Option.bind_some]
      by_cases stays : seconds < left
      · right
        rw [if_pos stays]
        rfl
      · left
        have ended : left ≤ seconds := Nat.le_of_not_lt stays
        exact lasting.trans (Nat.add_le_add_left ended _)
  | begin_ => exact .same rfl rfl rfl
  | ran running choice planned accepted performed =>
      obtain ⟨grows, access, _, _⟩ := planned.access performed
      refine ⟨(World.perform_now performed).ge, access, ?_⟩
      intro jti token _ revoked
      exact .inr (grows.revoked revoked)
  | failed => exact .same rfl rfl rfl
  | committed => exact .same rfl rfl rfl

/-- A statement that creates an access token, or that is still to track it, leaves an expiry
that is no later than the TTL from now. -/
theorem Planned.expiry {call : Call} {startedAt : Seconds} {choice : Choice}
    {from_ stage : Stage}
    (planned : Planned directory accessTtl world txn call startedAt choice from_ stage action)
    {expiresAt : Seconds} (later : stage.expiry = some expiresAt) :
    expiresAt = world.now + accessTtl ∨ from_.expiry = some expiresAt := by
  cases planned with
  | create same =>
      cases later
      exact .inl rfl
  | add grant evicted next =>
      rcases next with rfl | rfl <;> cases later
  | createNext =>
      left
      revert later
      simp only [Stage.expiry, Call.issueNext]
      split
      · intro later
        exact (Option.some.inj later).symm
      · intro later
        exact (Option.some.inj later).symm
  | revokeOld => exact .inr later
  | untrackOld => exact .inr later
  | flushUser covers next => rcases next with rfl | ⟨rfl, _⟩ <;> cases later
  | flushTenant next => rcases next with rfl | rfl <;> cases later
  | _ => cases later

theorem World.Tracked.initial (fresh : world.Fresh) : world.Tracked accessTtl := by
  refine ⟨?_, ?_, ?_, ?_⟩
  · intro jti token left known
    rw [fresh.access] at known
    cases known
  · intro jti token known
    rw [fresh.access] at known
    cases known
  · intro user jti member
    rw [fresh.redis] at member
    cases member
  · rintro txn task expiresAt ⟨known, _⟩
    rw [fresh.tasks] at known
    cases known

/-- A label that leaves Redis and the clock alone. -/
theorem World.Tracked.quiet {now : Task} (tracked : world.Tracked accessTtl)
    (redis : after.redis = world.redis) (access : after.access = world.access)
    (clock : after.now = world.now) (tasks : after.tasks = world.tasks)
    (unissued : now.outcome = none → now.stage.expiry = none) :
    (after.record txn now).Tracked accessTtl := by
  refine ⟨?_, ?_, ?_, ?_⟩
  · intro jti token left known listed
    change after.access jti = some token at known
    change after.redis.denylist jti = some left at listed
    change token.expiresAt ≤ after.now + left
    rw [access] at known
    rw [redis] at listed
    rw [clock]
    exact tracked.lasting jti token left known listed
  · intro jti token known
    change after.access jti = some token at known
    change token.expiresAt ≤ after.now + accessTtl
    rw [access] at known
    rw [clock]
    exact tracked.recent jti token known
  · intro user jti member
    change jti ∈ after.redis.active user at member
    change (after.access jti).isSome = true
    rw [redis] at member
    rw [access]
    exact tracked.known user jti member
  · intro other task expiresAt opened pending
    change expiresAt ≤ after.now + accessTtl
    by_cases mine : other = txn
    · subst mine
      have same := World.open_record_self opened
      subst same
      rw [unissued opened.2] at pending
      cases pending
    · rw [World.open_record_other mine, World.Open, tasks] at opened
      rw [clock]
      exact tracked.expiry other task expiresAt opened pending

theorem World.Tracked.tick (tracked : world.Tracked accessTtl) (seconds : Seconds) :
    (world.elapse seconds).Tracked accessTtl := by
  have later {expiresAt : Seconds} (soon : expiresAt ≤ world.now + accessTtl) :
      expiresAt ≤ world.now + seconds + accessTtl := by
    calc expiresAt ≤ world.now + accessTtl := soon
      _ ≤ world.now + seconds + accessTtl :=
        Nat.add_le_add_right (Nat.le_add_right ..) accessTtl
  refine ⟨?_, ?_, tracked.known, ?_⟩
  · intro jti token left known listed
    change ((world.redis.denylist jti).bind fun left =>
      if seconds < left then some (left - seconds) else none) = some left at listed
    obtain ⟨before, was_listed, remains⟩ := Option.bind_eq_some_iff.mp listed
    have lasting := tracked.lasting jti token before known was_listed
    split at remains
    next stays =>
      have rest : before - seconds = left := Option.some.inj remains
      change token.expiresAt ≤ world.now + seconds + left
      rw [← rest, Nat.add_assoc, Nat.add_sub_cancel' (Nat.le_of_lt stays)]
      exact lasting
    next => cases remains
  · intro jti token known
    exact later (tracked.recent jti token known)
  · intro txn task expiresAt opened pending
    exact later (tracked.expiry txn task expiresAt opened pending)

theorem World.Tracked.ran (tracked : world.Tracked accessTtl) (running : world.Open txn task)
    {choice : Choice} {stage : Stage}
    (planned : Planned directory accessTtl world txn task.call task.startedAt choice task.stage
      stage action) (performed : world.perform txn action = some after) :
    (after.record txn { task with stage := stage }).Tracked accessTtl := by
  obtain ⟨grows, kept, access, active⟩ := planned.access performed
  have clock := World.perform_now performed
  have recent (jti : Jti) (token : AccessToken) (known : after.access jti = some token) :
      token.expiresAt ≤ after.now + accessTtl := by
    rw [clock]
    rcases access jti token known with before | ⟨_, pending⟩
    · exact tracked.recent jti token before
    · exact tracked.expiry txn task token.expiresAt running pending
  refine ⟨?_, recent, ?_, ?_⟩
  · intro jti token left known listed
    change after.redis.denylist jti = some left at listed
    rcases grows jti with same | set
    · rcases access jti token known with before | ⟨clean, _⟩
      · rw [same] at listed
        change token.expiresAt ≤ after.now + left
        rw [clock]
        exact tracked.lasting jti token left before listed
      · rw [clean] at listed
        cases listed
    · rw [set] at listed
      cases listed
      exact recent jti token known
  · intro user jti member
    change (after.access jti).isSome = true
    rcases active user jti member with before | new
    · obtain ⟨token, known⟩ := Option.isSome_iff_exists.mp (tracked.known user jti before)
      rw [kept jti token known]
      rfl
    · exact new
  · intro other now expiresAt opened pending
    change expiresAt ≤ after.now + accessTtl
    rw [clock]
    by_cases mine : other = txn
    · subst mine
      have same := World.open_record_self opened
      subst same
      rcases planned.expiry pending with created | before
      · exact created.le
      · exact tracked.expiry other task expiresAt running before
    · rw [World.open_record_other mine, World.Open, World.perform_tasks performed] at opened
      exact tracked.expiry other now expiresAt opened pending

theorem World.Tracked.step (tracked : world.Tracked accessTtl)
    (stepped : world.Stepped directory accessTtl label next) : next.Tracked accessTtl := by
  cases stepped with
  | tick seconds => exact tracked.tick seconds
  | begin_ => exact tracked.quiet rfl rfl rfl rfl fun _ => rfl
  | ran running choice planned accepted performed => exact tracked.ran running planned performed
  | failed => exact tracked.quiet rfl rfl rfl rfl fun running => by cases running
  | committed => exact tracked.quiet rfl rfl rfl rfl fun running => by cases running

theorem World.SeesOf.transfer {users : List UserId} (sees : world.SeesOf txn users token)
    (view : ∀ row, world.tokens.view txn token = .live row →
      ∃ seen, after.tokens.view txn token = .live seen ∧ row.Ages seen) :
    after.SeesOf txn users token := by
  obtain ⟨row, visible, covered⟩ := sees
  obtain ⟨seen, visible, ages⟩ := view row visible
  refine ⟨seen, visible, ?_⟩
  rw [ages.userId]
  exact covered

/-- What a mass revocation relies on, it keeps while the world moves on. -/
theorem World.Sweeping.transfer {call : Call} {stage : Stage}
    (sweeping : world.Sweeping directory txn call stage) (onward : world.Onward after)
    (view : ∀ token row, world.tokens.view txn token = .live row →
      ∃ seen, after.tokens.view txn token = .live seen ∧ row.Ages seen) :
    after.Sweeping directory txn call stage := by
  cases stage with
  | flagged todo => exact sweeping
  | sweeping rows todo at_ =>
      intro token member
      rcases sweeping token member with revoked | ⟨waiting, sees⟩
      · exact .inl (revoked.transfer (view token))
      · exact .inr ⟨waiting, sees.transfer (view token)⟩
  | revoking rows jtis calls =>
      refine ⟨?_, ?_⟩
      · intro token member
        exact (sweeping.1 token member).transfer (view token)
      · intro user jti member
        obtain ⟨known, fate⟩ := sweeping.2 user jti member
        obtain ⟨token, known⟩ := Option.isSome_iff_exists.mp known
        refine ⟨?_, fate.imp_left fun dead => dead.onward onward⟩
        rw [onward.access jti token known]
        rfl
  | _ => trivial

/-- Every statement of a mass revocation leaves what the next one relies on. -/
theorem World.Sweeping.ran (onward : world.Onward after)
    (sweeping : world.Sweeping directory txn task.call task.stage) {choice : Choice}
    {stage : Stage}
    (planned : Planned directory accessTtl world txn task.call task.startedAt choice task.stage
      stage action)
    (known : ∀ user jti, jti ∈ world.redis.active user → (world.access jti).isSome = true)
    (accepted : action ≠ .refuse) (performed : world.perform txn action = some after) :
    after.Sweeping directory txn task.call stage := by
  have view (token : TokenHash) (row : RefreshToken)
      (visible : world.tokens.view txn token = .live row) :
      ∃ seen, after.tokens.view txn token = .live seen ∧ row.Ages seen :=
    World.perform_view performed accepted visible
  obtain ⟨call, startedAt, from_, outcome⟩ := task
  cases planned with
  | refused => exact absurd rfl accepted
  | flushUser covers next =>
      rcases next with rfl | ⟨rfl, _⟩
      · intro user member
        cases member
      · trivial
  | flushTenant next =>
      rcases next with rfl | rfl
      · exact fun user member => member
      · trivial
  | flag member =>
      intro user inside
      exact sweeping user (List.mem_of_mem_erase inside)
  | snapshot =>
      cases performed
      intro token member
      right
      refine ⟨member, ?_⟩
      have covered := (List.mem_filter.mp member).2
      obtain ⟨row, visible, covers⟩ := Slot.satisfies_iff.mp covered
      refine ⟨row, visible, ?_⟩
      rw [RefreshToken.covered, Bool.and_eq_true] at covers
      exact of_decide_eq_true covers.1
  | @sweep rows todo at_ visited member =>
      intro token inside
      rcases sweeping token inside with revoked | ⟨waiting, sees⟩
      · exact .inl (revoked.transfer (view token))
      · by_cases same : token = visited
        · subst same
          obtain ⟨row, visible, covered⟩ := sees
          exact .inl (World.sweep_seesRevoked visible covered performed)
        · exact .inr ⟨(List.mem_erase_of_ne same).mpr waiting, sees.transfer (view token)⟩
  | swept =>
      refine ⟨?_, ?_⟩
      · intro token inside
        rcases sweeping token inside with revoked | ⟨waiting, _⟩
        · exact revoked.transfer (view token)
        · cases waiting
      · intro user jti member
        cases member
  | @command rows jtis calls user covered fate next redis taken =>
      refine ⟨?_, ?_⟩
      · intro token inside
        exact (sweeping.1 token inside).transfer (view token)
      · intro other jti member
        have tracked (present : (world.access jti).isSome = true) :
            (after.access jti).isSome = true := by
          obtain ⟨token, present⟩ := Option.isSome_iff_exists.mp present
          rw [onward.access jti token present]
          rfl
        by_cases same : other = user
        · subst same
          have read (reading : calls other = .reading) : jti ∈ world.redis.smembers other := by
            rw [if_pos reading, Function.update_self] at member
            exact member
          have before (further : calls other ≠ .reading) :=
            sweeping.2 other jti (by rwa [if_neg further] at member)
          have present : (world.access jti).isSome = true := by
            by_cases reading : calls other = .reading
            · exact known other jti (read reading)
            · exact (before reading).1
          refine ⟨tracked present, ?_⟩
          rw [Function.update_self]
          rcases Revocation.next_reached taken read fun further => (before further).2 with
            dead | revoked | reached
          · exact .inl (dead.onward onward)
          · obtain ⟨token, present⟩ := Option.isSome_iff_exists.mp present
            cases performed
            exact .inl ⟨token, present, .inr revoked⟩
          · exact .inr reached
        · have before : jti ∈ jtis other := by
            split at member
            next => rwa [Function.update_of_ne same] at member
            next => exact member
          obtain ⟨present, reached⟩ := sweeping.2 other jti before
          refine ⟨tracked present, ?_⟩
          rw [Function.update_of_ne same]
          exact reached.imp_left fun dead => dead.onward onward
  | _ => trivial

/-- A call that has flushed a deactivation goes on to its mass revocation. -/
theorem Planned.sweeps {call : Call} {startedAt : Seconds} {choice : Choice}
    {from_ stage : Stage}
    (planned : Planned directory accessTtl world txn call startedAt choice from_ stage action)
    (accepted : action ≠ .refuse) (before : from_.sweeps = true) : stage.sweeps = true := by
  cases planned with
  | refused => exact absurd rfl accepted
  | flag => rfl
  | snapshot => rfl
  | sweep => rfl
  | swept => rfl
  | command => rfl
  | _ => cases before

/-- A deactivation is flushed for the users that the call covers, and the call goes on. -/
theorem Planned.deactivates {call : Call} {startedAt : Seconds} {choice : Choice}
    {from_ stage : Stage}
    (planned : Planned directory accessTtl world txn call startedAt choice from_ stage
      (.user user (.active false)))
    (sweeping : world.Sweeping directory txn call from_) :
    user ∈ call.covers directory ∧ stage.sweeps = true := by
  cases planned with
  | denylist _ acts => rcases acts with acts | acts <;> cases acts
  | revokeOld _ _ _ _ _ acts => rcases acts with acts | acts <;> cases acts
  | flushUser covers next =>
      rcases next with rfl | ⟨rfl, other, _⟩
      · exact ⟨covers, rfl⟩
      · cases other
  | flag member => exact ⟨sweeping user member, rfl⟩

/-- What a label leaves of the other mass revocations, with what it makes of its own. -/
theorem World.Swept.transfer {now : Task} (swept : world.Swept directory)
    (tasks : after.tasks = world.tasks)
    (users : ∀ other, other ≠ txn → after.users.effects other = world.users.effects other)
    (others : ∀ other call stage, other ≠ txn → world.Sweeping directory other call stage →
      after.Sweeping directory other call stage)
    (idle : now.outcome ≠ none → after.users.effects txn = [])
    (flags : now.outcome = none → ∀ user,
      (user, .change (.active false)) ∈ after.users.effects txn →
        user ∈ now.call.covers directory ∧ now.stage.sweeps = true)
    (sweeping : now.outcome = none → after.Sweeping directory txn now.call now.stage) :
    (after.record txn now).Swept directory := by
  have same_open {other : Txn} (differ : other ≠ txn) (task : Task) :
      (after.record txn now).Open other task ↔ world.Open other task := by
    rw [World.open_record_other differ, World.Open, World.Open, tasks]
  refine ⟨?_, ?_, ?_⟩
  · intro other closed
    change after.users.effects other = []
    by_cases mine : other = txn
    · subst mine
      exact idle fun running => closed now (World.record_open_self running)
    · rw [users other mine]
      exact swept.idle other fun task opened => closed task ((same_open mine task).mpr opened)
  · intro other task user opened member
    change (user, _) ∈ after.users.effects other at member
    by_cases mine : other = txn
    · subst mine
      have same := World.open_record_self opened
      subst same
      exact flags opened.2 user member
    · rw [users other mine] at member
      exact swept.flags other task user ((same_open mine task).mp opened) member
  · intro other task opened
    by_cases mine : other = txn
    · subst mine
      have same := World.open_record_self opened
      subst same
      exact sweeping opened.2
    · have before := swept.sweeping other task ((same_open mine task).mp opened)
      exact others other task.call task.stage mine before

theorem World.Swept.initial (fresh : world.Fresh) : world.Swept directory := by
  have none_open {txn : Txn} {task : Task} (opened : world.Open txn task) : False := by
    have known := opened.1
    rw [fresh.tasks] at known
    cases known
  refine ⟨?_, ?_, ?_⟩
  · intro txn _
    exact fresh.users.2.1 txn
  · intro txn task user opened
    exact (none_open opened).elim
  · intro txn task opened
    exact (none_open opened).elim

theorem World.Swept.step (orderly : world.Orderly) (tracked : world.Tracked accessTtl)
    (swept : world.Swept directory) (stepped : world.Stepped directory accessTtl label next) :
    next.Swept directory := by
  have onward := tracked.onward stepped
  cases stepped with
  | tick seconds =>
      refine ⟨swept.idle, swept.flags, ?_⟩
      intro txn task opened
      exact (swept.sweeping txn task opened).transfer onward
        fun token row visible => ⟨row, visible, .refl row⟩
  | @begin_ txn new call =>
      have untouched : world.users.effects txn = [] := by
        apply swept.idle txn
        rintro task ⟨known, _⟩
        rw [new] at known
        cases known
      apply swept.transfer rfl (fun _ _ => rfl) (fun _ _ _ _ sweeping => sweeping)
      · intro ended
        exact absurd rfl ended
      · intro _ user member
        rw [untouched] at member
        cases member
      · intro _
        trivial
  | @ran txn task running choice stage action after planned accepted performed =>
      have moved : world.Onward after := ⟨onward.now, onward.access, onward.dead⟩
      have sweeping := swept.sweeping txn task running
      apply swept.transfer (World.perform_tasks performed) (World.perform_users performed).effects
      · intro other call from_ differ before
        exact before.transfer moved fun token row visible =>
          World.perform_view performed accepted visible
      · intro ended
        exact absurd running.2 ended
      · intro _ user member
        rcases World.perform_users_effects performed accepted member with before | ⟨_, acts, same⟩
        · obtain ⟨covered, sweeps⟩ := swept.flags txn task user running before
          exact ⟨covered, planned.sweeps accepted sweeps⟩
        · subst acts
          cases same
          exact planned.deactivates sweeping
      · intro _
        exact sweeping.ran moved planned tracked.known accepted performed
  | @failed txn task running label stage =>
      have tasks : (world.rollback txn).tasks = world.tasks := rfl
      apply swept.transfer tasks (Ledger.Undisturbed.rollback world.users txn).effects
      · intro other call from_ differ before
        have still : world.Onward (world.rollback txn) := .same rfl rfl rfl
        apply before.transfer still
        intro token row visible
        refine ⟨row, ?_, .refl row⟩
        change (world.tokens.rollback txn).view other token = .live row
        rw [Ledger.view_rollback_other world.tokens differ]
        exact visible
      · intro _
        exact Function.update_self ..
      · intro running
        cases running
      · intro running
        cases running
  | @committed txn task running fate arrived complete outcome done =>
      have users (other : Txn) (differ : other ≠ txn) :
          (world.publish txn).users.effects other = world.users.effects other :=
        Function.update_of_ne differ _ _
      have tasks : (world.publish txn).tasks = world.tasks := rfl
      apply swept.transfer tasks users
      · intro other call from_ differ before
        exact before.transfer (.same rfl rfl rfl) fun token row visible =>
          orderly.view_published visible differ
      · intro _
        exact Function.update_self ..
      · intro running
        cases running
      · intro running
        cases running

theorem issued_record_other {grant : Grant} (differ : other ≠ txn) :
    (world.record txn task).Issued other grant token ↔ world.Issued other grant token := by
  rw [World.Issued, World.Issued, World.record_tasks_other differ]

/-- The deactivations after a commit are those from before and those it publishes. -/
theorem deactivations_publish :
    (world.publish txn).deactivations user =
      world.deactivations user + (world.users.pending txn user).countP isDeactivation := by
  change ((world.users.commit txn).history user).countP isDeactivation = _
  rw [Ledger.history_commit, List.countP_append]
  rfl

/-- Only the commit of a deactivation adds to the count. -/
theorem deactivating_of_lt {epoch : Nat} (later : epoch < (world.publish txn).deactivations user)
    (current : ¬ epoch < world.deactivations user) :
    (user, .change (.active false)) ∈ world.users.effects txn := by
  rw [deactivations_publish] at later
  have positive : 0 < (world.users.pending txn user).countP isDeactivation := by
    by_contra none_pending
    have zero := Nat.eq_zero_of_not_pos none_pending
    rw [zero, Nat.add_zero] at later
    exact current later
  obtain ⟨effect, pending, deactivates⟩ := List.countP_pos_iff.mp positive
  have member := Effect.mem_onKey.mp pending
  cases effect with
  | change change =>
      cases change with
      | active isActive =>
          have off : isActive = false := by simpa [isDeactivation] using deactivates
          rw [← off]
          exact member
      | lastLogin at_ => cases deactivates
      | password password => cases deactivates
  | insert row => cases deactivates
  | delete => cases deactivates

theorem World.NoneSurvives.initial (fresh : world.Fresh) : world.NoneSurvives := by
  rintro txn grant token ⟨task, known, _⟩
  rw [fresh.tasks] at known
  cases known

/-- A label that commits nothing issues nothing and deactivates nobody. -/
theorem World.NoneSurvives.uncommitted {now : Task} (none_survives : world.NoneSurvives)
    (tasks : after.tasks = world.tasks) (log : after.users.log = world.users.log)
    (pending : ¬ now.Committed)
    (revoked : ∀ token, world.Revoked token → after.Revoked token)
    (onward : world.Onward after) : (after.record txn now).NoneSurvives := by
  intro other grant token issued later
  have differ : other ≠ txn := by
    rintro rfl
    obtain ⟨task, known, ended, _⟩ := issued
    rw [World.record_tasks_self] at known
    cases known
    exact pending ended
  rw [issued_record_other differ, World.Issued, tasks] at issued
  have same : (after.record txn now).deactivations grant.userId =
      world.deactivations grant.userId := by
    change ((after.users.history grant.userId).countP isDeactivation) = _
    rw [Ledger.history, Ledger.published, log]
    rfl
  rw [same] at later
  obtain ⟨gone, dead⟩ := none_survives other grant token issued later
  refine ⟨revoked token gone, ?_⟩
  intro jti same
  have still : after.Dead jti := (dead jti same).onward onward
  exact still

theorem World.NoneSurvives.committed (orderly : world.Orderly) (swept : world.Swept directory)
    (none_survives : world.NoneSurvives) (running : world.Open txn task) {fate : Fate}
    (arrived : fate ≠ .failed) (caughtUp : CaughtUp world (.commit txn fate))
    (complete : task.stage.complete (task.call.covers directory) = true) (outcome : Outcome) :
    ((world.publish txn).record txn { task with outcome := some outcome }).NoneSurvives := by
  have condition : (∀ grant token, task.stage = .granted grant token →
        grant.epoch = world.deactivations grant.userId) ∧
      ∀ rows jtis calls, task.stage = .revoking rows jtis calls →
        ∀ other grant token, world.Issued other grant token →
          (grant.userId, .change (.active false)) ∈ world.users.effects txn →
            (world.Revoked token ∨ token ∈ rows) ∧
              ∀ jti, grant.jti = some jti → world.Dead jti ∨ jti ∈ jtis grant.userId := by
    cases fate with
    | ok => exact caughtUp task running
    | failed => exact absurd rfl arrived
    | lost => exact caughtUp task running
  intro other grant token issued later
  change grant.epoch < (world.publish txn).deactivations grant.userId at later
  by_cases mine : other = txn
  · subst mine
    obtain ⟨now, known, _, granted⟩ := issued
    rw [World.record_tasks_self] at known
    cases known
    have current := condition.1 grant token granted
    have member := deactivating_of_lt later (by rw [current]; exact Nat.lt_irrefl _)
    have sweeps := (swept.flags other task grant.userId running member).2
    change task.stage = .granted grant token at granted
    rw [granted] at sweeps
    cases sweeps
  · rw [issued_record_other mine] at issued
    by_cases before : grant.epoch < world.deactivations grant.userId
    · obtain ⟨gone, dead⟩ := none_survives other grant token issued before
      exact ⟨gone.seen orderly, dead⟩
    · have member := deactivating_of_lt later before
      obtain ⟨covered, sweeps⟩ := swept.flags txn task grant.userId running member
      have relies := swept.sweeping txn task running
      cases stage : task.stage with
      | revoking rows jtis calls =>
          rw [stage] at relies complete
          obtain ⟨row, tracked⟩ := condition.2 rows jtis calls stage other grant token issued member
          refine ⟨?_, ?_⟩
          · rcases row with gone | read
            · exact gone.seen orderly
            · exact relies.1 token read
          · intro jti same
            rcases tracked jti same with dead | read
            · exact dead
            · have returned : calls grant.userId = .returned := by
                have all := List.all_eq_true.mp complete grant.userId covered
                exact eq_of_beq all
              rcases (relies.2 grant.userId jti read).2 with dead | ⟨_, _, waits, _⟩ | ⟨_, raised⟩
              · exact dead
              · rw [returned] at waits
                cases waits
              · rw [returned] at raised
                cases raised
      | flagged todo =>
          rw [stage] at complete
          cases complete
      | sweeping rows todo at_ =>
          rw [stage] at complete
          cases complete
      | _ =>
          rw [stage] at sweeps
          cases sweeps

theorem World.NoneSurvives.step (orderly : world.Orderly) (tracked : world.Tracked accessTtl)
    (swept : world.Swept directory) (none_survives : world.NoneSurvives)
    (caughtUp : CaughtUp world label) (stepped : world.Stepped directory accessTtl label next) :
    next.NoneSurvives := by
  have onward := tracked.onward stepped
  cases stepped with
  | tick seconds =>
      intro txn grant token issued later
      obtain ⟨gone, dead⟩ := none_survives txn grant token issued later
      exact ⟨gone, fun jti same => (dead jti same).onward onward⟩
  | begin_ =>
      have still : world.Onward world := .same rfl rfl rfl
      apply none_survives.uncommitted rfl rfl _ (fun _ gone => gone) still
      rintro ⟨_, ended, _⟩
      cases ended
  | ran running choice planned accepted performed =>
      have undisturbed := World.perform_tokens performed
      apply none_survives.uncommitted (World.perform_tasks performed)
        (World.perform_users performed).log
      · rintro ⟨_, ended, _⟩
        rw [running.2] at ended
        cases ended
      · intro token gone
        rw [World.Revoked, undisturbed.slot]
        exact gone
      · exact ⟨onward.now, onward.access, onward.dead⟩
  | @failed txn task running label stage =>
      have tasks : (world.rollback txn).tasks = world.tasks := rfl
      have still : world.Onward (world.rollback txn) := .same rfl rfl rfl
      apply none_survives.uncommitted tasks rfl _ (fun _ gone => gone) still
      rintro ⟨_, ended, raised⟩
      cases ended
      cases raised
  | committed running arrived complete outcome =>
      exact none_survives.committed orderly swept running arrived caughtUp complete outcome

theorem reachable_noneSurvives
    (reached : (flows directory accessTtl).ReachableBy CaughtUp world) :
    world.Tracked accessTtl ∧ world.Swept directory ∧ world.NoneSurvives := by
  apply reached.invariant
  · intro state fresh
    exact ⟨.initial fresh, .initial fresh, .initial fresh⟩
  · rintro before next label reached ⟨tracked, swept, none_survives⟩ caughtUp taken
    have orderly := reachable_orderly reached.reachable
    have stepped := World.step_stepped taken
    exact ⟨tracked.step stepped, swept.step orderly tracked stepped,
      none_survives.step orderly tracked swept caughtUp stepped⟩

/-- A revoked token is refused by the SELECT of `refresh_tokens`. -/
theorem World.Revoked.refused (orderly : world.Orderly) (revoked : world.Revoked token)
    {oldJti : Option Jti} (presents : task.call = .refreshTokens token oldJti)
    (begun : task.stage = .begun) (choice : Choice) :
    world.plan directory accessTtl txn task choice = World.refuse := by
  obtain ⟨row, visible, gone⟩ : world.SeesRevoked txn token := revoked.seen orderly
  have inactive : row.active world.now = false := by
    rw [RefreshToken.active, gone, Bool.false_and]
  unfold World.plan World.first
  simp only [begun, presents, visible, inactive, Bool.false_and, Bool.false_eq_true, if_false]

theorem World.Dead.rejected (dead : world.Dead jti) :
    world.getCurrentUser directory jti = none := by
  obtain ⟨token, known, ended⟩ := dead
  rw [World.getCurrentUser, known]
  dsimp only
  by_cases expired : token.expiresAt ≤ world.now
  · rw [if_pos expired]
  · rw [if_neg expired, if_pos (ended.resolve_left expired)]

end

/-- A run without a commit meets the condition. -/
theorem allows_quiet (directory : Directory) (accessTtl : Seconds) (world : World)
    {labels : List Label} (quiet : labels.all (fun label => !label.isCommit) = true) :
    (flows directory accessTtl).Allows CaughtUp world labels := by
  refine Machine.allows_of_forall _ world ?_
  intro label member state
  have no_commit := List.all_eq_true.mp quiet label member
  cases label with
  | commit txn fate => cases no_commit
  | _ => trivial

/-- A transaction that does not begin in a run is not in its last world. -/
theorem exec_not_begun {directory : Directory} {accessTtl : Seconds} {world last : World}
    {txn : Txn} {labels : List Label} (new : world.tasks txn = none)
    (never : ∀ call, Label.begin_ txn call ∉ labels)
    (run : (flows directory accessTtl).exec world labels = some last) :
    last.tasks txn = none := by
  induction labels generalizing world with
  | nil =>
      cases run
      exact new
  | cons label rest ih =>
      obtain ⟨next, taken, run⟩ := Machine.exec_cons_some.mp run
      apply ih _ (fun call member => never call (List.mem_cons_of_mem _ member)) run
      have known_differs {other : Txn} {task : Task} (running : world.Open other task) :
          txn ≠ other := by
        rintro rfl
        have known := running.1
        rw [new] at known
        cases known
      cases World.step_stepped taken with
      | tick => exact new
      | @begin_ other _ call =>
          have differ : txn ≠ other := by
            rintro rfl
            exact never call List.mem_cons_self
          rw [World.record_tasks_other differ]
          exact new
      | ran running _ _ _ performed =>
          rw [World.record_tasks_other (known_differs running), World.perform_tasks performed]
          exact new
      | failed running =>
          rw [World.record_tasks_other (known_differs running)]
          exact new
      | committed running =>
          rw [World.record_tasks_other (known_differs running)]
          exact new

/-- No session survives a deactivation: a token issued on the flags as they were before it is
refused from its commit on, whatever becomes of the flags. -/
theorem no_session_survives (directory : Directory) (accessTtl : Seconds) {world : World}
    (reached : (flows directory accessTtl).ReachableBy CaughtUp world) {txn : Txn}
    {grant : Grant} {token : TokenHash} (issued : world.Issued txn grant token)
    (before : grant.epoch < world.deactivations grant.userId) :
    (∀ other task oldJti choice, world.Open other task →
        task.call = .refreshTokens token oldJti → task.stage = .begun →
          world.plan directory accessTtl other task choice = World.refuse) ∧
      ∀ jti, grant.jti = some jti → world.getCurrentUser directory jti = none := by
  have orderly := reachable_orderly reached.reachable
  obtain ⟨_, _, none_survives⟩ := reachable_noneSurvives reached
  obtain ⟨revoked, dead⟩ := none_survives txn grant token issued before
  refine ⟨?_, ?_⟩
  · intro other task oldJti choice _ presents begun
    exact revoked.refused orderly presents begun choice
  · intro jti same
    exact (dead jti same).rejected

/-- A deactivation of the only user, with the rows of its UPDATE and its Redis commands. -/
def deactivateRun (txn : Txn) (rows : List TokenHash) (commands : Nat) : List Label :=
  [.begin_ txn (.deactivateUser 1), .run txn .none, .run txn .none, .run txn .none] ++
    rows.map (fun token => .run txn (.row token)) ++ [.run txn .none] ++
    List.replicate commands (.run txn (.command 1 .ok))

def reactivateRun (txn : Txn) : List Label :=
  [.begin_ txn (.updateUser 1 true), .run txn .none, .run txn .none]

def issuedRun : List Label := loginRun 1 "jti-a" 10 [] ++ deactivateRun 2 [10] 3

/-- A login is committed, then a deactivation that finds it, then a reactivation. -/
theorem no_session_survives_reactivated :
    ∃ world, (flows oneTenant 900).ReachableBy CaughtUp world ∧
      (world.getActiveUser 9 1).isSome = true ∧
      (∀ other task oldJti choice, world.Open other task →
        task.call = .refreshTokens 10 oldJti → task.stage = .begun →
          world.plan oneTenant 900 other task choice = World.refuse) ∧
      world.getCurrentUser oneTenant "jti-a" = none := by
  have ran : ∃ first issued second inactive third last,
      (flows oneTenant 900).exec oneUser (loginRun 1 "jti-a" 10 []).dropLast = some first ∧
      (flows oneTenant 900).step first (.commit 1 .ok) = some issued ∧
      (flows oneTenant 900).exec issued (deactivateRun 2 [10] 3) = some second ∧
      (flows oneTenant 900).step second (.commit 2 .ok) = some inactive ∧
      (flows oneTenant 900).exec inactive (reactivateRun 3) = some third ∧
      (flows oneTenant 900).step third (.commit 3 .ok) = some last ∧
      (flows oneTenant 900).exec oneUser issuedRun = some second ∧
      (∃ task, first.tasks 1 = some task ∧ task.stage = .granted ⟨1, 0, some "jti-a"⟩ 10 ∧
        first.deactivations 1 = 0) ∧
      (∃ login task rows jtis calls, second.tasks 1 = some login ∧
        login.stage = .granted ⟨1, 0, some "jti-a"⟩ 10 ∧ second.tasks 2 = some task ∧
        task.outcome = none ∧ task.stage = .revoking rows jtis calls ∧ 10 ∈ rows ∧
        "jti-a" ∈ jtis 1) ∧
      (∃ task, third.tasks 3 = some task ∧ task.stage = .finished) ∧
      ∃ login, last.tasks 1 = some login ∧ login.outcome = some .returned ∧
        login.stage = .granted ⟨1, 0, some "jti-a"⟩ 10 ∧ 0 < last.deactivations 1 ∧
        (last.getActiveUser 9 1).isSome = true :=
    ⟨_, _, _, _, _, _, rfl, rfl, rfl, rfl, rfl, rfl, rfl, ⟨_, rfl, rfl, rfl⟩,
      ⟨_, _, _, _, _, rfl, rfl, rfl, rfl, rfl, by decide, by decide⟩, ⟨_, rfl, rfl⟩,
      _, rfl, rfl, rfl, by decide, by decide⟩
  obtain ⟨first, issued, second, inactive, third, last, login_ran, login_committed,
    deactivate_ran, deactivate_committed, reactivate_ran, reactivate_committed, all_ran,
    ⟨login, first_known, first_stage, current⟩,
    ⟨logged, deactivating, rows, jtis, calls, logged_known, logged_stage, known, running, stage,
      in_rows, in_jtis⟩, ⟨reactivating, third_known, third_stage⟩,
    final, final_known, returned, granted, later, active⟩ := ran
  have login_meets : CaughtUp first (.commit 1 .ok) := by
    rintro task ⟨opened, _⟩
    rw [first_known] at opened
    cases opened
    rw [first_stage]
    refine ⟨?_, ?_⟩
    · intro grant token same
      cases same
      exact current.symm
    · intro rows jtis calls same
      cases same
  have deactivate_meets : CaughtUp second (.commit 2 .ok) := by
    rintro task ⟨opened, _⟩
    rw [known] at opened
    cases opened
    rw [stage]
    refine ⟨fun _ _ granted => (by cases granted), ?_⟩
    rintro _ _ _ same other grant token ⟨now, now_known, ⟨outcome, ended, _⟩, now_stage⟩ _
    cases same
    by_cases mine : other = 1
    · subst mine
      rw [logged_known] at now_known
      cases now_known
      rw [logged_stage] at now_stage
      cases now_stage
      refine ⟨.inr in_rows, ?_⟩
      intro jti same
      cases same
      exact .inr in_jtis
    · by_cases own : other = 2
      · subst own
        rw [known] at now_known
        cases now_known
        rw [running] at ended
        cases ended
      · have never (call : Call) : Label.begin_ other call ∉ issuedRun := by
          simp [issuedRun, loginRun, deactivateRun, mine, own]
        rw [exec_not_begun rfl never all_ran] at now_known
        cases now_known
  have reactivate_meets : CaughtUp third (.commit 3 .ok) := by
    rintro task ⟨opened, _⟩
    rw [third_known] at opened
    cases opened
    rw [third_stage]
    refine ⟨?_, ?_⟩
    · intro grant token same
      cases same
    · intro rows jtis calls same
      cases same
  have reached : (flows oneTenant 900).ReachableBy CaughtUp last := by
    have began : (flows oneTenant 900).ReachableBy CaughtUp oneUser :=
      .start (World.initial_fresh _ _)
    have to_first := began.exec (allows_quiet _ _ _ rfl) login_ran
    have to_issued := to_first.step login_meets login_committed
    have to_second := to_issued.exec (allows_quiet _ _ _ rfl) deactivate_ran
    have to_inactive := to_second.step deactivate_meets deactivate_committed
    have to_third := to_inactive.exec (allows_quiet _ _ _ rfl) reactivate_ran
    exact to_third.step reactivate_meets reactivate_committed
  have kept : last.Issued 1 ⟨1, 0, some "jti-a"⟩ 10 :=
    ⟨final, final_known, ⟨.returned, returned, rfl⟩, granted⟩
  obtain ⟨refused, rejected⟩ := no_session_survives oneTenant 900 reached kept later
  exact ⟨last, reached, active, refused, rejected "jti-a" rfl⟩

/-- A login that has read the flags waits for the whole of a deactivation, then commits, and
the user is reactivated. -/
def staleRun : List Label :=
  (loginRun 1 "jti-a" 10 []).take 2 ++ deactivateRun 2 [] 1 ++ [.commit 2 .ok] ++
    (loginRun 1 "jti-a" 10 []).drop 2 ++ reactivateRun 3 ++ [.commit 3 .ok]

/-- Then the access token is accepted and the refresh token is rotated. -/
theorem stale_login_survives :
    ∃ world last, (flows oneTenant 900).Reachable world ∧
      world.Issued 1 ⟨1, 0, some "jti-a"⟩ 10 ∧ 0 < world.deactivations 1 ∧
      world.getCurrentUser oneTenant "jti-a" = some 1 ∧ world.tasks 4 = none ∧
      (flows oneTenant 900).exec world ([.begin_ 4 (.refreshTokens 10 none)] ++
        List.replicate 7 (.run 4 .none) ++ [.run 4 (.jti "jti-b"), .run 4 .none,
          .run 4 (.token 11), .commit 4 .ok]) = some last ∧ last.Rotates 10 4 := by
  have ran : ∃ world last, (flows oneTenant 900).exec oneUser staleRun = some world ∧
      (∃ issuing, world.tasks 1 = some issuing ∧ issuing.outcome = some .returned ∧
        issuing.stage = .granted ⟨1, 0, some "jti-a"⟩ 10) ∧ 0 < world.deactivations 1 ∧
      world.getCurrentUser oneTenant "jti-a" = some 1 ∧ world.tasks 4 = none ∧
      (flows oneTenant 900).exec world ([.begin_ 4 (.refreshTokens 10 none)] ++
        List.replicate 7 (.run 4 .none) ++ [.run 4 (.jti "jti-b"), .run 4 .none,
          .run 4 (.token 11), .commit 4 .ok]) = some last ∧
      ∃ rotating, last.tasks 4 = some rotating ∧
        rotating.call = .refreshTokens 10 none ∧ rotating.outcome = some .returned :=
    ⟨_, _, rfl, ⟨_, rfl, rfl, rfl⟩, by decide, by decide, rfl, rfl, _, rfl, rfl, rfl⟩
  obtain ⟨world, last, run, ⟨issuing, known, returned, granted⟩, later, accepted, new, more,
    rotating, rotating_known, presents, ended⟩ := ran
  have reached : (flows oneTenant 900).Reachable world :=
    Machine.Reachable.exec (.start (World.initial_fresh _ _)) run
  refine ⟨world, last, reached, ?_, later, accepted, new, more, ?_⟩
  · exact ⟨issuing, known, ⟨.returned, returned, rfl⟩, granted⟩
  · exact ⟨rotating, none, rotating_known, presents, .returned, ended, rfl⟩

end Auth
