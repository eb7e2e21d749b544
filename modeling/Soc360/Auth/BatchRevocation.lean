import Soc360.Auth.Denylist

set_option autoImplicit false

namespace Auth

/-- A command of the pipeline of `revoke_all_user_access_tokens_batch`. -/
inductive Queued where
  | set (jti : Jti)
  | delete (user : UserId)
  deriving DecidableEq, Repr

def Queued.apply (ttlSeconds : Seconds) : Queued → Redis → Redis
  | set jti => Redis.setRevoked ttlSeconds jti
  | delete user => Redis.delActive user

/-- The SETs of all users, then the DELETEs. -/
def batchQueue (users : List UserId) (redis : Redis) : List Queued :=
  (users.flatMap fun user => (redis.smembers user).map Queued.set) ++ users.map Queued.delete

/-- `pipe.execute()` without a transaction: a command that fails does not stop the next one. -/
def execute (ttlSeconds : Seconds) : List (Queued × Fate) → Redis → Redis
  | [], redis => redis
  | (command, fate) :: rest, redis =>
      execute ttlSeconds rest (fate.settle (command.apply ttlSeconds) redis)

/-- The commands with their fates, by their positions in the pipeline. -/
def issued (fates : Nat → Fate) (queue : List Queued) : List (Queued × Fate) :=
  queue.mapIdx fun position command => (command, fates position)

inductive BatchOutcome where
  | returned
  | raised
  deriving DecidableEq, Repr

/-- Every SMEMBERS is answered. -/
def Answered (users : List UserId) (reads : Nat → Fate) : Prop :=
  ∀ position < users.length, reads position = .ok

instance (users : List UserId) (reads : Nat → Fate) : Decidable (Answered users reads) :=
  inferInstanceAs (Decidable (∀ position < users.length, reads position = .ok))

/-- `revoke_all_user_access_tokens_batch`: `reads` are the fates of its SMEMBERS, `fates` those of
the commands of its pipeline. -/
def revokeAllUserAccessTokensBatch (users : List UserId) (ttlSeconds : Seconds)
    (reads fates : Nat → Fate) (redis : Redis) : BatchOutcome × Redis :=
  if users = [] then (.returned, redis)
  else if ¬Answered users reads then (.raised, redis)
  else if ∀ user ∈ users, redis.smembers user = [] then (.returned, redis)
  else
    let sent := issued fates (batchQueue users redis)
    (if ∀ entry ∈ sent, entry.2 = .ok then .returned else .raised, execute ttlSeconds sent redis)

/-- `revoke_all_user_access_tokens` returns for one user after the other. -/
inductive InTurn (ttlSeconds : Seconds) : List UserId → Redis → Redis → Prop
  | nil (redis : Redis) : InTurn ttlSeconds [] redis redis
  | cons {user : UserId} {users : List UserId} {fates : List Fate} {redis middle after : Redis}
      (revoked : revokeAllUserAccessTokens user ttlSeconds fates redis = some (.returned, middle))
      (rest : InTurn ttlSeconds users middle after) : InTurn ttlSeconds (user :: users) redis after

/-- What a batch owes to the revocations in turn, and to a retry. -/
structure BatchRefines (users : List UserId) (ttlSeconds : Seconds) (reads fates : Nat → Fate)
    (redis : Redis) : Prop where
  equal : ∀ after,
    revokeAllUserAccessTokensBatch users ttlSeconds reads fates redis = (.returned, after) →
      ∀ other, InTurn ttlSeconds users redis other ↔ other = after
  retried : ∀ after,
    revokeAllUserAccessTokensBatch users ttlSeconds reads fates redis = (.raised, after) →
      ∀ user jti, jti ∈ redis.active user → after.isTokenRevoked jti = false →
        jti ∈ after.active user

/-- A DELETE takes effect for a user with a JTI that is not on the denylist and none of whose SETs
takes effect. -/
def Dropped (users : List UserId) (fates : Nat → Fate) (redis : Redis) : Prop :=
  ∃ user jti, jti ∈ redis.active user ∧ redis.isTokenRevoked jti = false ∧
    (∃ fate, (Queued.delete user, fate) ∈ issued fates (batchQueue users redis) ∧
      fate ≠ .failed) ∧
    ∀ fate, (Queued.set jti, fate) ∈ issued fates (batchQueue users redis) → fate = .failed

section

variable {users : List UserId} {user : UserId} {ttlSeconds : Seconds} {reads fates : Nat → Fate}
  {redis after : Redis} {jti : Jti} {sent : List (Queued × Fate)}

theorem execute_revoked : (execute ttlSeconds sent redis).isTokenRevoked jti = true ↔
    redis.isTokenRevoked jti = true ∨ ∃ fate, (Queued.set jti, fate) ∈ sent ∧ fate ≠ .failed := by
  induction sent generalizing redis with
  | nil => simp [execute]
  | cons entry rest ih =>
      obtain ⟨command, fate⟩ := entry
      rw [execute, ih]
      have first : (fate.settle (command.apply ttlSeconds) redis).isTokenRevoked jti = true ↔
          redis.isTokenRevoked jti = true ∨ command = .set jti ∧ fate ≠ .failed := by
        cases command with
        | delete user => cases fate <;> simp [Queued.apply, Redis.delActive, Redis.isTokenRevoked]
        | set other =>
            have revoked : (redis.setRevoked ttlSeconds other).isTokenRevoked jti = true ↔
                redis.isTokenRevoked jti = true ∨ Queued.set other = .set jti := by
              rw [Redis.setRevoked_revoked, Bool.or_eq_true, decide_eq_true_iff, Queued.set.injEq,
                or_comm, @eq_comm Jti jti]
            cases fate <;> simp [Queued.apply, revoked]
      rw [first, or_assoc]
      apply or_congr_right
      constructor
      · rintro (⟨rfl, effect⟩ | ⟨fate', member, effect⟩)
        · exact ⟨fate, List.mem_cons_self, effect⟩
        · exact ⟨fate', List.mem_cons_of_mem _ member, effect⟩
      · rintro ⟨fate', member, effect⟩
        rcases List.mem_cons.mp member with same | later
        · cases same
          exact .inl ⟨rfl, effect⟩
        · exact .inr ⟨fate', later, effect⟩

/-- A DELETE takes effect for the user. -/
def Cleared (user : UserId) (sent : List (Queued × Fate)) : Prop :=
  ∃ fate, (Queued.delete user, fate) ∈ sent ∧ fate ≠ .failed

theorem execute_cleared (cleared : Cleared user sent ∨ redis.active user = []) :
    (execute ttlSeconds sent redis).active user = [] := by
  induction sent generalizing redis with
  | nil =>
      rcases cleared with ⟨fate, member, _⟩ | empty
      · cases member
      · exact empty
  | cons entry rest ih =>
      obtain ⟨command, fate⟩ := entry
      rw [execute]
      apply ih
      have emptied : redis.active user = [] →
          (fate.settle (command.apply ttlSeconds) redis).active user = [] := by
        intro empty
        apply Fate.settle_preserves (fun redis : Redis => redis.active user = []) fate empty
        cases command with
        | set jti => exact empty
        | delete other =>
            by_cases same : user = other
            · simp [Queued.apply, Redis.delActive, same]
            · simpa [Queued.apply, Redis.delActive, same] using empty
      rcases cleared with ⟨fate', member, effect⟩ | empty
      · rcases List.mem_cons.mp member with same | later
        · cases same
          right
          cases fate with
          | failed => exact absurd rfl effect
          | ok => simp [Queued.apply, Redis.delActive]
          | lost => simp [Queued.apply, Redis.delActive]
        · exact .inl ⟨fate', later, effect⟩
      · exact .inr (emptied empty)

theorem execute_kept (kept : ¬ Cleared user sent) :
    (execute ttlSeconds sent redis).active user = redis.active user := by
  induction sent generalizing redis with
  | nil => rfl
  | cons entry rest ih =>
      obtain ⟨command, fate⟩ := entry
      have later : ¬ Cleared user rest := by
        rintro ⟨fate', member, effect⟩
        exact kept ⟨fate', List.mem_cons_of_mem _ member, effect⟩
      rw [execute, ih later]
      cases command with
      | set jti => exact congrFun (settle_setRevoked_active fate ttlSeconds jti redis) user
      | delete other =>
          by_cases same : user = other
          · subst same
            have failed : fate = .failed := by
              by_contra effect
              exact kept ⟨fate, List.mem_cons_self, effect⟩
            rw [failed, Fate.settle_failed]
          · apply Fate.settle_preserves (fun other : Redis => other.active user = redis.active user)
              fate rfl
            simp [Queued.apply, Redis.delActive, same]

theorem mem_batchQueue_set : Queued.set jti ∈ batchQueue users redis ↔
    ∃ user ∈ users, jti ∈ redis.active user := by
  simp [batchQueue, Redis.smembers]

theorem mem_batchQueue_delete : Queued.delete user ∈ batchQueue users redis ↔ user ∈ users := by
  simp [batchQueue]

theorem issued_commands (fates : Nat → Fate) {queue : List Queued} {command : Queued} :
    command ∈ queue ↔ ∃ fate, (command, fate) ∈ issued fates queue := by
  simp only [issued, List.mem_mapIdx, Prod.mk.injEq]
  constructor
  · intro member
    obtain ⟨position, inside, same⟩ := List.mem_iff_getElem.mp member
    exact ⟨fates position, position, inside, same, rfl⟩
  · rintro ⟨fate, position, inside, rfl, rfl⟩
    exact List.getElem_mem inside

/-- What is left after a mass revocation of all the users. -/
def swept (ttlSeconds : Seconds) (users : List UserId) (redis : Redis) : Redis where
  active user := if user ∈ users then [] else redis.active user
  denylist jti :=
    if ∃ user ∈ users, jti ∈ redis.active user then some ttlSeconds else redis.denylist jti

theorem settled_run {fates : List Fate} {command : Command} {revocation : Revocation}
    (settled : revocation = .returned ∨ revocation = .raised command)
    (ran : revocation.run user ttlSeconds fates redis = some (.returned, after)) :
    revocation = .returned ∧ after = redis := by
  cases fates with
  | nil =>
      cases ran
      exact ⟨rfl, rfl⟩
  | cons fate rest =>
      rcases settled with rfl | rfl
      · cases ran
      · cases ran

/-- The rest of a revocation that returns: every SET and the DELETE have taken effect. -/
theorem writes_returned {fates : List Fate} {todo : List Jti}
    (ran : (Revocation.writes todo).run user ttlSeconds fates redis = some (.returned, after)) :
    after = ⟨Function.update redis.active user [],
      fun jti => if jti ∈ todo then some ttlSeconds else redis.denylist jti⟩ := by
  induction todo generalizing redis fates with
  | nil =>
      cases fates with
      | nil => cases ran
      | cons fate rest =>
          change Revocation.run user ttlSeconds rest (fate.branch .returned (.raised .cleanup))
            (fate.settle (Redis.delActive user) redis) = _ at ran
          obtain ⟨done, rfl⟩ := settled_run
            ((fate.branch_cases _ _).imp (fun ok => ok.2) fun failed => failed.2) ran
          cases fate with
          | ok => simp [Redis.delActive]
          | failed => cases done
          | lost => cases done
  | cons jti todo ih =>
      cases fates with
      | nil => cases ran
      | cons fate rest =>
          change Revocation.run user ttlSeconds rest
            (fate.branch (.writes todo) (.raised .denylist))
            (fate.settle (Redis.setRevoked ttlSeconds jti) redis) = _ at ran
          have passed : fate = .ok := by
            rcases fate.branch_cases (Revocation.writes todo) (.raised .denylist) with
              ⟨ok, _⟩ | ⟨_, failed⟩
            · exact ok
            · rw [failed] at ran
              cases (settled_run (.inr rfl) ran).1
          subst passed
          rw [ih ran]
          congr 1
          funext other
          by_cases same : other = jti
          · subst same
            by_cases member : other ∈ todo
            · simp [member]
            · simp [member, Fate.settle, Redis.setRevoked]
          · simp [Fate.settle, Redis.setRevoked, same]

theorem swept_of_empty (empty : redis.active user = []) :
    swept ttlSeconds [user] redis = redis := by
  rw [swept]
  congr 1
  · funext other
    by_cases same : other = user
    · simp [same, empty]
    · simp [same]
  · funext jti
    simp [empty]

/-- A revocation that returns has written the denylist entries and deleted the set. -/
theorem revokeAllUserAccessTokens_returned {fates : List Fate}
    (returned : revokeAllUserAccessTokens user ttlSeconds fates redis = some (.returned, after)) :
    after = swept ttlSeconds [user] redis := by
  have sorted := List.perm_insertionSort (· ≤ ·) (redis.smembers user)
  cases fates with
  | nil => cases returned
  | cons fate rest =>
      cases read : (redis.smembers user).insertionSort (· ≤ ·) with
      | nil =>
          simp only [revokeAllUserAccessTokens, Revocation.run, Revocation.next, read,
            Option.bind_some] at returned
          rw [read] at sorted
          obtain ⟨_, rfl⟩ := settled_run
            ((fate.branch_cases _ _).imp (fun ok => ok.2) fun failed => failed.2) returned
          exact (swept_of_empty sorted.symm.eq_nil).symm
      | cons jti todo =>
          simp only [revokeAllUserAccessTokens, Revocation.run, Revocation.next, read,
            Option.bind_some] at returned
          rw [read] at sorted
          have passed : fate = .ok := by
            rcases fate.branch_cases (Revocation.writing jti todo) (.raised .read) with
              ⟨ok, _⟩ | ⟨_, failed⟩
            · exact ok
            · rw [failed] at returned
              cases (settled_run (.inr rfl) returned).1
          subst passed
          have written : (Revocation.writes (jti :: todo)).run user ttlSeconds rest redis =
              some (.returned, after) := returned
          rw [writes_returned written, swept]
          congr 1
          · funext other
            by_cases same : other = user
            · simp [same]
            · simp [same]
          · funext other
            simp only [List.mem_singleton, exists_eq_left, sorted.mem_iff]
            rfl

theorem writes_returns (user : UserId) (ttlSeconds : Seconds) (todo : List Jti) (redis : Redis) :
    ∃ fates after, (Revocation.writes todo).run user ttlSeconds fates redis =
      some (.returned, after) := by
  induction todo generalizing redis with
  | nil => exact ⟨[.ok], _, rfl⟩
  | cons jti todo ih =>
      obtain ⟨fates, after, ran⟩ := ih (redis.setRevoked ttlSeconds jti)
      exact ⟨.ok :: fates, after, ran⟩

theorem revokeAllUserAccessTokens_returns (user : UserId) (ttlSeconds : Seconds) (redis : Redis) :
    ∃ fates, revokeAllUserAccessTokens user ttlSeconds fates redis =
      some (.returned, swept ttlSeconds [user] redis) := by
  have returns : ∃ fates after,
      revokeAllUserAccessTokens user ttlSeconds fates redis = some (.returned, after) := by
    cases read : (redis.smembers user).insertionSort (· ≤ ·) with
    | nil =>
        refine ⟨[.ok], redis, ?_⟩
        simp [revokeAllUserAccessTokens, Revocation.run, Revocation.next, read]
    | cons jti todo =>
        obtain ⟨fates, after, ran⟩ := writes_returns user ttlSeconds (jti :: todo) redis
        refine ⟨.ok :: fates, after, ?_⟩
        simp only [revokeAllUserAccessTokens, Revocation.run, Revocation.next, read,
          Option.bind_some]
        exact ran
  obtain ⟨fates, after, returned⟩ := returns
  exact ⟨fates, revokeAllUserAccessTokens_returned returned ▸ returned⟩

theorem swept_cons : swept ttlSeconds users (swept ttlSeconds [user] redis) =
    swept ttlSeconds (user :: users) redis := by
  simp only [swept, List.mem_cons, List.not_mem_nil, or_false, exists_eq_or_imp, exists_eq_left]
  congr 1
  · funext other
    by_cases same : other = user
    · simp [same]
    · simp [same]
  · funext jti
    by_cases own : jti ∈ redis.active user
    · simp [own]
    · have others : (∃ other ∈ users, jti ∈ if other = user then [] else redis.active other) ↔
          ∃ other ∈ users, jti ∈ redis.active other := by
        apply exists_congr
        intro other
        apply and_congr_right
        intro _
        by_cases same : other = user
        · simp [same, own]
        · simp [same]
      simp only [own, false_or, ↓reduceIte]
      exact if_congr others rfl rfl

theorem inTurn_iff : InTurn ttlSeconds users redis after ↔
    after = swept ttlSeconds users redis := by
  induction users generalizing redis with
  | nil =>
      have unchanged : swept ttlSeconds [] redis = redis := by simp [swept]
      rw [unchanged]
      constructor
      · intro turns
        cases turns
        rfl
      · rintro rfl
        exact .nil after
  | cons user users ih =>
      constructor
      · intro turns
        cases turns with
        | cons revoked rest =>
            rw [ih.mp rest, revokeAllUserAccessTokens_returned revoked, swept_cons]
      · rintro rfl
        obtain ⟨fates, returned⟩ := revokeAllUserAccessTokens_returns user ttlSeconds redis
        exact .cons returned (ih.mpr swept_cons.symm)

theorem execute_passed (passed : ∀ entry ∈ sent, entry.2 = .ok) :
    execute ttlSeconds sent redis =
      ⟨fun user => if Queued.delete user ∈ sent.map Prod.fst then [] else redis.active user,
        fun jti => if Queued.set jti ∈ sent.map Prod.fst then some ttlSeconds
          else redis.denylist jti⟩ := by
  induction sent generalizing redis with
  | nil => simp [execute]
  | cons entry rest ih =>
      obtain ⟨command, fate⟩ := entry
      have ok : fate = .ok := passed _ List.mem_cons_self
      subst ok
      rw [execute, ih fun entry member => passed entry (List.mem_cons_of_mem _ member),
        List.map_cons, Fate.settle_ok]
      congr 1
      · funext user
        by_cases own : command = .delete user
        · subst own
          simp [Queued.apply, Redis.delActive]
        · have kept : (command.apply ttlSeconds redis).active user = redis.active user := by
            cases command with
            | set jti => rfl
            | delete other =>
                have differ : user ≠ other := fun same => own (same ▸ rfl)
                simp [Queued.apply, Redis.delActive, differ]
          have later : Queued.delete user ∈ command :: rest.map Prod.fst ↔
              Queued.delete user ∈ rest.map Prod.fst := by
            rw [List.mem_cons, or_iff_right fun same => own same.symm]
          rw [if_congr later rfl rfl, kept]
      · funext jti
        by_cases own : command = .set jti
        · subst own
          simp [Queued.apply, Redis.setRevoked]
        · have kept : (command.apply ttlSeconds redis).denylist jti = redis.denylist jti := by
            cases command with
            | delete user => rfl
            | set other =>
                have differ : jti ≠ other := fun same => own (same ▸ rfl)
                simp [Queued.apply, Redis.setRevoked, differ]
          have later : Queued.set jti ∈ command :: rest.map Prod.fst ↔
              Queued.set jti ∈ rest.map Prod.fst := by
            rw [List.mem_cons, or_iff_right fun same => own same.symm]
          rw [if_congr later rfl rfl, kept]

theorem issued_fst (fates : Nat → Fate) (queue : List Queued) :
    (issued fates queue).map Prod.fst = queue := by
  apply List.ext_getElem
  · simp [issued]
  · intro position first second
    simp [issued]

/-- A pipeline without failures leaves what the revocations in turn leave. -/
theorem execute_swept (passed : ∀ entry ∈ issued fates (batchQueue users redis), entry.2 = .ok) :
    execute ttlSeconds (issued fates (batchQueue users redis)) redis =
      swept ttlSeconds users redis := by
  rw [execute_passed passed, issued_fst, swept]
  congr 1
  · funext user
    exact if_congr mem_batchQueue_delete rfl rfl
  · funext jti
    exact if_congr mem_batchQueue_set rfl rfl

theorem swept_inactive (inactive : ∀ user ∈ users, redis.smembers user = []) :
    swept ttlSeconds users redis = redis := by
  have none_active : ∀ user ∈ users, redis.active user = [] := inactive
  rw [swept]
  congr 1
  · funext user
    split
    next member => exact (none_active user member).symm
    next => rfl
  · funext jti
    rw [if_neg]
    rintro ⟨user, member, active⟩
    rw [none_active user member] at active
    cases active

/-- A failed pipeline loses a JTI exactly where it is dropped. -/
theorem execute_retried :
    (∀ user jti, jti ∈ redis.active user →
      (execute ttlSeconds (issued fates (batchQueue users redis)) redis).isTokenRevoked jti = false →
      jti ∈ (execute ttlSeconds (issued fates (batchQueue users redis)) redis).active user) ↔
      ¬ Dropped users fates redis := by
  constructor
  · rintro retried ⟨user, jti, active, usable, cleared, unset⟩
    have still_usable : (execute ttlSeconds (issued fates (batchQueue users redis))
        redis).isTokenRevoked jti = false := by
      rw [← Bool.not_eq_true, execute_revoked]
      rintro (revoked | ⟨fate, member, effect⟩)
      · rw [usable] at revoked
        cases revoked
      · exact effect (unset fate member)
    have tracked := retried user jti active still_usable
    rw [execute_cleared (.inl cleared)] at tracked
    cases tracked
  · intro kept user jti active usable
    rw [← Bool.not_eq_true, execute_revoked, not_or] at usable
    by_cases cleared : Cleared user (issued fates (batchQueue users redis))
    · exfalso
      refine kept ⟨user, jti, active, by simpa using usable.1, cleared, ?_⟩
      intro fate member
      by_contra effect
      exact usable.2 ⟨fate, member, effect⟩
    · rw [execute_kept cleared]
      exact active

/-- Without failures no JTI is dropped. -/
theorem passed_kept (passed : ∀ entry ∈ issued fates (batchQueue users redis), entry.2 = .ok) :
    ¬ Dropped users fates redis := by
  rintro ⟨user, jti, active, _, ⟨fate, member, _⟩, unset⟩
  have listed : user ∈ users :=
    mem_batchQueue_delete.mp ((issued_commands fates).mpr ⟨fate, member⟩)
  have queued : Queued.set jti ∈ batchQueue users redis :=
    mem_batchQueue_set.mpr ⟨user, listed, active⟩
  obtain ⟨fate', member'⟩ := (issued_commands fates).mp queued
  have failed := unset fate' member'
  have ok := passed _ member'
  rw [failed] at ok
  cases ok

/-- Without active JTIs none is dropped. -/
theorem inactive_kept (inactive : ∀ user ∈ users, redis.smembers user = []) :
    ¬ Dropped users fates redis := by
  rintro ⟨user, jti, active, _, ⟨fate, member, _⟩, _⟩
  have listed : user ∈ users :=
    mem_batchQueue_delete.mp ((issued_commands fates).mpr ⟨fate, member⟩)
  have empty : redis.active user = [] := inactive user listed
  rw [empty] at active
  cases active

/-- The four ways a batch ends. -/
theorem batch_cases (users : List UserId) (ttlSeconds : Seconds) (reads fates : Nat → Fate)
    (redis : Redis) :
    ((∀ user ∈ users, redis.smembers user = []) ∧
      revokeAllUserAccessTokensBatch users ttlSeconds reads fates redis = (.returned, redis)) ∨
    (¬Answered users reads ∧
      revokeAllUserAccessTokensBatch users ttlSeconds reads fates redis = (.raised, redis)) ∨
    ((∀ entry ∈ issued fates (batchQueue users redis), entry.2 = .ok) ∧
      revokeAllUserAccessTokensBatch users ttlSeconds reads fates redis =
        (.returned, execute ttlSeconds (issued fates (batchQueue users redis)) redis)) ∨
    (Answered users reads ∧
      revokeAllUserAccessTokensBatch users ttlSeconds reads fates redis =
        (.raised, execute ttlSeconds (issued fates (batchQueue users redis)) redis)) := by
  unfold revokeAllUserAccessTokensBatch
  by_cases none_asked : users = []
  · subst none_asked
    left
    exact ⟨fun user member => absurd member List.not_mem_nil, rfl⟩
  rw [if_neg none_asked]
  by_cases answered : Answered users reads
  · rw [if_neg (not_not.mpr answered)]
    by_cases inactive : ∀ user ∈ users, redis.smembers user = []
    · rw [if_pos inactive]
      exact .inl ⟨inactive, rfl⟩
    · rw [if_neg inactive]
      by_cases passed : ∀ entry ∈ issued fates (batchQueue users redis), entry.2 = .ok
      · simp only [if_pos passed]
        exact .inr (.inr (.inl ⟨passed, trivial⟩))
      · simp only [if_neg passed]
        exact .inr (.inr (.inr ⟨answered, trivial⟩))
  · rw [if_pos answered]
    exact .inr (.inl ⟨answered, rfl⟩)

/-- A batch that returns refines the revocations in turn, and one that raises keeps every JTI within
reach of a retry, unless its pipeline runs and drops one. -/
theorem batch_refines_iff (users : List UserId) (ttlSeconds : Seconds) (reads fates : Nat → Fate)
    (redis : Redis) : BatchRefines users ttlSeconds reads fates redis ↔
      ¬ (Answered users reads ∧ Dropped users fates redis) := by
  rcases batch_cases users ttlSeconds reads fates redis with
    ⟨inactive, ran⟩ | ⟨unanswered, ran⟩ | ⟨passed, ran⟩ | ⟨answered, ran⟩
  · refine iff_of_true ⟨?_, ?_⟩ fun bad => inactive_kept inactive bad.2
    · intro after returned other
      rw [ran] at returned
      cases returned
      rw [inTurn_iff, swept_inactive inactive]
    · intro after raised
      rw [ran] at raised
      cases raised
  · refine iff_of_true ⟨?_, ?_⟩ fun bad => unanswered bad.1
    · intro after returned
      rw [ran] at returned
      cases returned
    · intro after raised user jti active _
      rw [ran] at raised
      cases raised
      exact active
  · refine iff_of_true ⟨?_, ?_⟩ fun bad => passed_kept passed bad.2
    · intro after returned other
      rw [ran] at returned
      cases returned
      rw [inTurn_iff, execute_swept passed]
    · intro after raised
      rw [ran] at raised
      cases raised
  · have refines : BatchRefines users ttlSeconds reads fates redis ↔ ¬ Dropped users fates redis := by
      rw [← execute_retried]
      constructor
      · intro refines
        exact refines.retried _ ran
      · intro retried
        refine ⟨?_, ?_⟩
        · intro after returned
          rw [ran] at returned
          cases returned
        · intro after raised
          rw [ran] at raised
          cases raised
          exact retried
    rw [refines, and_iff_right answered]

/-- The SET of the only session fails, and the DELETE behind it runs. -/
theorem batch_loses_session :
    ¬ BatchRefines [1] 900 (fun _ => .ok) (fun position => if position = 0 then .failed else .ok)
      (Redis.empty.sadd 1 "jti-a") := by
  intro refines
  have tracked := refines.retried _ rfl 1 "jti-a" (by decide) (by decide)
  revert tracked
  decide

end

end Auth
