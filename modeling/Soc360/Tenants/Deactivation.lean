import Soc360.Tenants.Service

set_option autoImplicit false

namespace Tenants

open Auth (Accounted Redis RefreshToken Revocation Seconds Underway revokeAllUserAccessTokens)
open Users (Reply UserId internalError)

/-- What one command of the revocation of a user does to Redis. -/
inductive Writes (ttlSeconds : Seconds) (user : UserId) : (Redis → Redis) → Prop
  | read : Writes ttlSeconds user id
  | denylist (jti : Auth.Jti) : Writes ttlSeconds user (Redis.setRevoked ttlSeconds jti)
  | cleanup : Writes ttlSeconds user (Redis.delActive user)

/-- The revocation of the user sees in `alone` what it sees in `full`, whose denylist may hold
the sessions of other users too. -/
structure SameTo (user : UserId) (full alone : Redis) : Prop where
  active : full.active user = alone.active user
  denylist : ∀ jti, alone.isTokenRevoked jti = true → full.isTokenRevoked jti = true

section

variable {ttlSeconds : Seconds} {user other : UserId} {command : Redis → Redis}
  {fate : Fate} {redis redis' full alone : Redis} {revocation revocation' : Revocation}

theorem Writes.kept (writes : Writes ttlSeconds user command) {jti : Auth.Jti}
    (revoked : redis.isTokenRevoked jti = true) :
    (fate.settle command redis).isTokenRevoked jti = true := by
  refine Fate.settle_preserves (fun state : Redis => state.isTokenRevoked jti = true) fate
    revoked ?_
  cases writes with
  | read => exact revoked
  | denylist written => simp [Redis.setRevoked_revoked, revoked]
  | cleanup => exact revoked

theorem Writes.active_other (writes : Writes ttlSeconds user command) (differ : user ≠ other) :
    (fate.settle command redis).active other = redis.active other := by
  refine Fate.settle_preserves (fun state : Redis => state.active other = redis.active other) fate
    rfl ?_
  cases writes with
  | read => rfl
  | denylist written => rfl
  | cleanup => exact Function.update_of_ne (Ne.symm differ) ..

theorem Writes.same (writes : Writes ttlSeconds user command) (same : SameTo user full alone) :
    SameTo user (command full) (command alone) := by
  cases writes with
  | read => exact same
  | denylist written =>
      refine ⟨same.active, ?_⟩
      intro jti revoked
      rw [Redis.setRevoked_revoked] at revoked ⊢
      rcases Bool.or_eq_true _ _ ▸ revoked with now | before
      · simp [now]
      · simp [same.denylist jti before]
  | cleanup =>
      refine ⟨?_, same.denylist⟩
      simp [Redis.delActive]

/-- A revocation sees no more than the sessions of its user, and writes by one command. -/
theorem next_writes (taken : revocation.next user ttlSeconds fate redis =
      some (revocation', redis')) :
    ∃ command, Writes ttlSeconds user command ∧ ∀ seen : Redis,
      seen.active user = redis.active user →
        revocation.next user ttlSeconds fate seen =
          some (revocation', fate.settle command seen) := by
  cases revocation with
  | reading =>
      refine ⟨id, .read, ?_⟩
      intro seen active
      have unchanged : fate.settle id seen = seen := by
        cases fate <;> rfl
      rw [unchanged]
      simp only [Revocation.next, Redis.smembers, active] at taken ⊢
      split at taken
      next empty =>
        cases taken
        rfl
      next jti todo sorted =>
        cases taken
        rfl
  | writing jti todo =>
      refine ⟨Redis.setRevoked ttlSeconds jti, .denylist jti, ?_⟩
      intro seen active
      cases taken
      rfl
  | deleting =>
      refine ⟨Redis.delActive user, .cleanup, ?_⟩
      intro seen active
      cases taken
      rfl
  | returned => cases taken
  | raised reason => cases taken

theorem sameTo_independent : Gather.Independent (nextCommand ttlSeconds) SameTo := by
  refine ⟨fun _ _ => ⟨rfl, fun _ revoked => revoked⟩, ?_, ?_⟩
  · intro user fate revocation full alone revocation' full' same taken
    obtain ⟨command, writes, runs⟩ := next_writes taken
    have here := (runs full rfl).symm.trans taken
    refine ⟨fate.settle command alone, runs alone same.active.symm, ?_⟩
    cases here
    cases fate with
    | ok => exact writes.same same
    | failed => exact same
    | lost => exact writes.same same
  · intro user mover fate revocation full alone revocation' full' differ same taken
    obtain ⟨command, writes, runs⟩ := next_writes taken
    have here := (runs full rfl).symm.trans taken
    cases here
    refine ⟨?_, ?_⟩
    · rw [writes.active_other differ]
      exact same.active
    · intro jti revoked
      exact writes.kept (same.denylist jti revoked)

theorem alone_eq_run (fates : List Fate) :
    Gather.alone (nextCommand ttlSeconds) user fates revocation redis =
      revocation.run user ttlSeconds fates redis := by
  induction fates generalizing revocation redis with
  | nil => rfl
  | cons fate rest ih =>
      simp only [Gather.alone, Revocation.run]
      congr 1
      funext taken
      obtain ⟨next, store⟩ := taken
      exact ih

/-- The revocation of the user ends when its commands meet these fates. -/
def Finishes (ttlSeconds : Seconds) (user : UserId) (pattern : Nat → Fate)
    (revocation : Revocation) (redis : Redis) : Prop :=
  ∃ count last after, revocation.run user ttlSeconds ((List.range count).map pattern) redis =
    some (last, after) ∧ isOver last = true

theorem Finishes.now {pattern : Nat → Fate} (finished : isOver revocation = true) :
    Finishes ttlSeconds user pattern revocation redis := ⟨0, revocation, redis, rfl, finished⟩

theorem Finishes.next {pattern : Nat → Fate}
    (taken : revocation.next user ttlSeconds (pattern 0) redis = some (revocation', redis'))
    (rest : Finishes ttlSeconds user (fun index => pattern (index + 1)) revocation' redis') :
    Finishes ttlSeconds user pattern revocation redis := by
  obtain ⟨count, last, after, ran, finished⟩ := rest
  refine ⟨count + 1, last, after, ?_, finished⟩
  have choices : (List.range (count + 1)).map pattern =
      pattern 0 :: (List.range count).map fun index => pattern (index + 1) := by
    simp [List.range_succ_eq_map, Function.comp_def]
  rw [choices, Revocation.run, taken, Option.bind_some]
  exact ran

theorem finishes_deleting (pattern : Nat → Fate) :
    Finishes ttlSeconds user pattern .deleting redis := by
  refine Finishes.next rfl (Finishes.now ?_)
  rcases (pattern 0).branch_cases Revocation.returned (.raised .cleanup) with
    ⟨_, same⟩ | ⟨_, same⟩ <;> rw [same] <;> rfl

theorem finishes_writing (pattern : Nat → Fate) (jti : Auth.Jti) (todo : List Auth.Jti) :
    Finishes ttlSeconds user pattern (.writing jti todo) redis := by
  induction todo generalizing pattern jti redis with
  | nil =>
      refine Finishes.next rfl ?_
      rcases (pattern 0).branch_cases (Revocation.writes []) (.raised .denylist) with
        ⟨_, same⟩ | ⟨_, same⟩ <;> rw [same]
      · exact finishes_deleting _
      · exact Finishes.now rfl
  | cons following rest ih =>
      refine Finishes.next rfl ?_
      rcases (pattern 0).branch_cases (Revocation.writes (following :: rest)) (.raised .denylist)
        with ⟨_, same⟩ | ⟨_, same⟩ <;> rw [same]
      · exact ih _ following
      · exact Finishes.now rfl

/-- Whatever the fates, `revoke_all_user_access_tokens` returns or raises. -/
theorem finishes_reading (pattern : Nat → Fate) :
    Finishes ttlSeconds user pattern .reading redis := by
  cases sorted : (redis.smembers user).insertionSort (· ≤ ·) with
  | nil =>
      have taken : Revocation.reading.next user ttlSeconds (pattern 0) redis =
          some ((pattern 0).branch .returned (.raised .read), redis) := by
        simp only [Revocation.next, sorted]
      refine Finishes.next taken (Finishes.now ?_)
      rcases (pattern 0).branch_cases Revocation.returned (.raised .read) with
        ⟨_, same⟩ | ⟨_, same⟩ <;> rw [same] <;> rfl
  | cons jti todo =>
      have taken : Revocation.reading.next user ttlSeconds (pattern 0) redis =
          some ((pattern 0).branch (.writing jti todo) (.raised .read), redis) := by
        simp only [Revocation.next, sorted]
      refine Finishes.next taken ?_
      rcases (pattern 0).branch_cases (Revocation.writing jti todo) (.raised .read) with
        ⟨_, same⟩ | ⟨_, same⟩ <;> rw [same]
      · exact finishes_writing _ jti todo
      · exact Finishes.now rfl

/-- Without a failure no revocation raises. -/
theorem next_ok (taken : revocation.next user ttlSeconds .ok redis = some (revocation', redis'))
    (reason : Auth.Command) : revocation' ≠ .raised reason := by
  cases revocation with
  | reading =>
      simp only [Revocation.next] at taken
      split at taken
      next => cases taken; exact Revocation.noConfusion
      next => cases taken; exact Revocation.noConfusion
  | writing jti todo =>
      cases taken
      cases todo with
      | nil => exact Revocation.noConfusion
      | cons following rest => exact Revocation.noConfusion
  | deleting =>
      cases taken
      exact Revocation.noConfusion
  | returned => cases taken
  | raised reason => cases taken

theorem run_ok {fates : List Fate} (served : ∀ fate ∈ fates, fate = .ok)
    (begun : ∀ reason, revocation ≠ .raised reason)
    (ran : revocation.run user ttlSeconds fates redis = some (revocation', redis'))
    (reason : Auth.Command) : revocation' ≠ .raised reason := by
  induction fates generalizing revocation redis with
  | nil =>
      cases ran
      exact begun reason
  | cons fate rest ih =>
      obtain ⟨⟨middle, store⟩, taken, ran⟩ := Option.bind_eq_some_iff.mp ran
      rw [served fate List.mem_cons_self] at taken
      have later : ∀ fate ∈ rest, fate = .ok :=
        fun fate member => served fate (List.mem_cons_of_mem _ member)
      exact ih later (next_ok taken) ran

end

section

variable {ttlSeconds : Seconds} {userIds : List UserId} {schedule : List (UserId × Fate)}
  {redis : Redis} {last : Revocations} {user : UserId}

theorem gatherRevocations_some :
    gatherRevocations ttlSeconds userIds schedule redis = some last ↔
      (revocations ttlSeconds userIds).exec ⟨fun _ => .reading, redis⟩ schedule = some last ∧
        ∀ user ∈ userIds, isOver (last.tasks user) = true := by
  rw [gatherRevocations, Option.bind_eq_some_iff]
  constructor
  · rintro ⟨final, ran, finished⟩
    split at finished
    next all_over =>
      cases finished
      exact ⟨ran, List.all_eq_true.mp all_over⟩
    next => cases finished
  · rintro ⟨ran, finished⟩
    refine ⟨last, ran, ?_⟩
    rw [if_pos (List.all_eq_true.mpr finished)]

/-- Each revocation of a gather ends as it does by itself. -/
theorem gatherRevocations_alone (user : UserId)
    (gathered : gatherRevocations ttlSeconds userIds schedule redis = some last) :
    ∃ alone, revokeAllUserAccessTokens user ttlSeconds (Gather.choicesOf user schedule) redis =
      some (last.tasks user, alone) ∧ SameTo user last.store alone := by
  have ran := (gatherRevocations_some.mp gathered).1
  have same : SameTo user redis redis := ⟨rfl, fun _ revoked => revoked⟩
  obtain ⟨alone, ended, agrees⟩ := sameTo_independent.alone same ran
  rw [alone_eq_run] at ended
  exact ⟨alone, ended, agrees⟩

/-- What a gather leaves of the sessions of a user who takes part in it. -/
structure Settled (user : UserId) (first after : Redis) (revocation : Revocation) : Prop where
  kept : ∀ jti, first.isTokenRevoked jti = true → after.isTokenRevoked jti = true
  accounted : Accounted user first after
  revoked : revocation = .returned →
    ∀ jti ∈ first.active user, after.isTokenRevoked jti = true

theorem gatherRevocations_settled
    (gathered : gatherRevocations ttlSeconds userIds schedule redis = some last)
    (member : user ∈ userIds) : Settled user redis last.store (last.tasks user) := by
  obtain ⟨alone, ended, same⟩ := gatherRevocations_alone user gathered
  have finished := (gatherRevocations_some.mp gathered).2 user member
  have underway := Auth.revokeAllUserAccessTokens_underway ended
  have revoked : last.tasks user = .returned →
      ∀ jti ∈ redis.active user, last.store.isTokenRevoked jti = true := by
    intro returned jti active
    rw [returned] at underway
    exact same.denylist jti (underway.reached.2 jti active)
  refine ⟨fun jti before => same.denylist jti (underway.kept jti before), ?_, revoked⟩
  intro jti active
  cases ended_as : last.tasks user with
  | returned => exact .inr (revoked ended_as jti active)
  | raised reason =>
      rw [ended_as] at underway
      rcases underway.accounted jti active with tracked | denied
      · left
        rw [same.active]
        exact tracked
      · exact .inr (same.denylist jti denied)
  | reading => rw [ended_as] at finished; cases finished
  | writing first todo => rw [ended_as] at finished; cases finished
  | deleting => rw [ended_as] at finished; cases finished

/-- Every pattern of fates has a gather that ends. -/
theorem gatherRevocations_completes (distinct : userIds.Nodup) (pattern : UserId → Nat → Fate) :
    ∃ schedule last, gatherRevocations ttlSeconds userIds schedule redis = some last ∧
      ∀ user ∈ userIds, ∃ count,
        Gather.choicesOf user schedule = (List.range count).map (pattern user) := by
  have finishes : ∀ user ∈ userIds, ∀ store : Redis, ∃ choices revocation after,
      (∃ count, choices = (List.range count).map (pattern user)) ∧
        Gather.alone (nextCommand ttlSeconds) user choices .reading store =
          some (revocation, after) ∧ isOver revocation = true := by
    intro user _ store
    have ends : Finishes ttlSeconds user (pattern user) .reading store :=
      finishes_reading (pattern user)
    obtain ⟨count, revocation, after, ran, finished⟩ := ends
    refine ⟨_, revocation, after, ⟨count, rfl⟩, ?_, finished⟩
    rw [alone_eq_run]
    exact ran
  obtain ⟨schedule, last, ran, ended⟩ := Gather.exec_completes
    ⟨fun _ => .reading, redis⟩ (fun revocation => isOver revocation = true)
    (fun user choices => ∃ count, choices = (List.range count).map (pattern user)) finishes distinct
  exact ⟨schedule, last, gatherRevocations_some.mpr ⟨ran, fun user member => (ended user member).1⟩,
    fun user member => (ended user member).2⟩

end

section

variable {texts : Texts} {ttlSeconds : Seconds} {tenantId : TenantId} {attempt : Attempt}
  {call : Call} {database written : Database} {redis after : Redis} {tenant updated : Tenant}
  {data : TenantUpdate}

theorem TenantUpdate.assign_isActive {isActive : Bool} (given : data.isActive = .value isActive)
    (assigned : data.assign texts tenant = .ok updated) : updated.isActive = isActive := by
  obtain ⟨named, _, assigned⟩ := Except.bind_eq_ok.mp assigned
  obtain ⟨planned, _, assigned⟩ := Except.bind_eq_ok.mp assigned
  obtain ⟨limited, _, assigned⟩ := Except.bind_eq_ok.mp assigned
  obtain ⟨activated, active, assigned⟩ := Except.bind_eq_ok.mp assigned
  obtain ⟨configured, settings, assigned⟩ := Except.bind_eq_ok.mp assigned
  obtain ⟨_, _, assigned⟩ := Except.bind_eq_ok.mp assigned
  obtain ⟨_, _, assigned⟩ := Except.bind_eq_ok.mp assigned
  cases assigned
  have active_now : activated.isActive = isActive := by
    rw [TenantUpdate.assignIsActive, given] at active
    cases active
    rfl
  have same : updated.isActive = activated.isActive := by
    rw [TenantUpdate.assignSettings] at settings
    split at settings <;> cases settings <;> rfl
  exact same.trans active_now

/-- A body with nothing but `is_active` deactivates every active tenant. -/
theorem Call.deactivates_only (texts : Texts) (active : tenant.isActive = true) :
    (Call.updateTenant ⟨.unset, .unset, .value false, .unset, .unset⟩).Deactivates texts tenant := by
  refine ⟨?_, { tenant with isActive := false }, rfl⟩
  rw [TenantUpdate.isDeactivating, active]
  rfl

/-- Where a call deactivates the tenant, it goes on to end the sessions. -/
theorem Call.run_deactivates (ttlSeconds : Seconds)
    (found : database.tenants.find tenantId = some tenant)
    (deactivates : call.Deactivates texts tenant) :
    ∃ updated, updated.isActive = false ∧ ∀ attempt redis,
      call.run texts ttlSeconds tenantId attempt database redis =
        endSessions texts ttlSeconds tenantId attempt updated database redis := by
  cases call with
  | deactivateTenant =>
      refine ⟨{ tenant with isActive := false }, rfl, ?_⟩
      intro attempt redis
      have active : tenant.isActive = true := deactivates
      simp only [Call.run, Service.deactivateTenant, found, active, if_pos]
  | updateTenant data =>
      obtain ⟨deactivating, updated, assigned⟩ := deactivates
      have given : data.isActive = .value false := by
        have both := (Bool.and_eq_true _ _).mp deactivating
        exact eq_of_beq both.1
      refine ⟨updated, TenantUpdate.assign_isActive given assigned, ?_⟩
      intro attempt redis
      simp only [Call.run, Service.updateTenant, found, assigned, deactivating, if_pos]

/-- The rows of a call that deactivates and returns. -/
structure Deactivated (tenantId : TenantId) (database : Database) : Prop where
  tenant : ∃ row, database.tenants.find tenantId = some row ∧ row.isActive = false
  users : ∀ user row, database.users.find user = some row → row.tenantId = some tenantId →
    row.isActive = false
  tokens : ∀ token row, database.tokens.find token = some row →
    row.userId ∈ database.members tenantId → row.unrevoked = false

theorem deactivation_users {user : UserId} :
    (deactivation tenantId attempt updated database).users.find user =
      (database.users.find user).map fun row =>
        if row.tenantId = some tenantId then { row with isActive := false } else row := by
  change (Table.update _ _).find user = _
  rw [Table.find_update]
  congr 1
  funext row
  split <;> rfl

/-- No user leaves the tenant. -/
theorem deactivation_members :
    (deactivation tenantId attempt updated database).members tenantId =
      database.members tenantId := by
  refine List.filter_congr ?_
  intro user _
  change ((database.users.update _).slot user).satisfies _ = _
  rw [Table.slot_update]
  cases database.users.slot user with
  | fresh => rfl
  | gone => rfl
  | live row =>
      by_cases same : row.tenantId = some tenantId
      · simp [same]
      · simp [same]

theorem deactivation_deactivated (found : database.tenants.find tenantId = some tenant)
    (inactive : updated.isActive = false) :
    Deactivated tenantId (deactivation tenantId attempt updated database) := by
  refine ⟨⟨updated, ?_, inactive⟩, ?_, ?_⟩
  · change (database.tenants.update _).find tenantId = _
    rw [Table.find_update, found, Option.map_some, if_pos rfl, Option.getD_some]
  · intro user row stored member
    rw [deactivation_users] at stored
    obtain ⟨before, _, rfl⟩ := Option.map_eq_some_iff.mp stored
    split at member
    next same => rw [if_pos same]
    next other => exact absurd member other
  · intro token row stored member
    change (Table.update _ _).find token = _ at stored
    rw [Table.find_update] at stored
    obtain ⟨before, _, rfl⟩ := Option.map_eq_some_iff.mp stored
    by_cases covered : before.covered
        (((database.writeTenant tenantId updated).deactivateUsers tenantId).members tenantId) = true
    · rw [if_pos covered, Option.getD_some]
      rfl
    · rw [if_neg covered, Option.getD_none] at member ⊢
      cases open_now : before.unrevoked with
      | false => rfl
      | true =>
          refine absurd ?_ covered
          rw [RefreshToken.covered, open_now, Bool.and_true]
          exact decide_eq_true member

/-- What a call that deactivates answers and commits once its revocations are over. -/
structure Answers (tenantId : TenantId) (database : Database) (last : Revocations)
    (reply : Reply Tenant) (written : Database) : Prop where
  returns : (∃ row, reply = .ok row) ↔
    ∀ user ∈ database.members tenantId, last.tasks user = .returned
  success : ∀ row, reply = .ok row → Deactivated tenantId written ∧
    ∀ user, user ∈ written.members tenantId ↔ user ∈ database.members tenantId
  failure : ∀ error, reply = .error error → error.statusCode = 503 ∧ written = database

theorem Call.request_answers (found : database.tenants.find tenantId = some tenant)
    (deactivates : call.Deactivates texts tenant) {reply : Reply Tenant}
    (requested : call.request texts ttlSeconds tenantId attempt database redis =
      some (reply, written, after)) :
    ∃ last, gatherRevocations ttlSeconds attempt.userIds attempt.schedule redis = some last ∧
      after = last.store ∧ (∀ user, user ∈ attempt.userIds ↔ user ∈ database.members tenantId) ∧
      Answers tenantId database last reply written := by
  obtain ⟨updated, inactive, runs⟩ := Call.run_deactivates ttlSeconds found deactivates
  rw [Call.request, runs, endSessions] at requested
  split at requested
  next order =>
    obtain ⟨⟨outcome, store⟩, ran, answered⟩ := Option.map_eq_some_iff.mp requested
    obtain ⟨last, gathered, same⟩ := Option.map_eq_some_iff.mp ran
    cases same
    have members : ∀ user, user ∈ attempt.userIds ↔ user ∈ database.members tenantId :=
      fun user => deactivation_members ▸ (List.isPerm_iff.mp order).mem_iff
    refine ⟨last, gathered, ?_⟩
    cases raised : attempt.userIds.any fun user => last.tasks user != .returned with
    | false =>
        have all_returned : ∀ user ∈ database.members tenantId, last.tasks user = .returned := by
          intro user member
          have not_raised := List.any_eq_false.mp raised user ((members user).mpr member)
          simpa using not_raised
        rw [revokeUserTokensDeterministically, Except.refuse, raised] at answered
        cases answered
        refine ⟨rfl, members, ⟨fun _ => all_returned, fun _ => ⟨updated, rfl⟩⟩, ?_, ?_⟩
        · intro row _
          refine ⟨deactivation_deactivated found inactive, ?_⟩
          intro user
          rw [deactivation_members]
        · intro error failed
          cases failed
    | true =>
        rw [revokeUserTokensDeterministically, Except.refuse, raised] at answered
        cases answered
        refine ⟨rfl, members, ⟨?_, ?_⟩, ?_, ?_⟩
        · rintro ⟨row, ok⟩
          cases ok
        · intro all_returned
          obtain ⟨user, member, failed⟩ := List.any_eq_true.mp raised
          rw [all_returned user ((members user).mp member)] at failed
          cases failed
        · intro row ok
          cases ok
        · intro error failed
          cases failed
          exact ⟨rfl, rfl⟩
  next => cases requested

/-- An order of the users and a gather that ends make a request. -/
theorem Call.request_runs (found : database.tenants.find tenantId = some tenant)
    (deactivates : call.Deactivates texts tenant)
    (order : attempt.userIds.Perm (database.members tenantId)) {last : Revocations}
    (gathered : gatherRevocations ttlSeconds attempt.userIds attempt.schedule redis = some last) :
    ∃ reply written, call.request texts ttlSeconds tenantId attempt database redis =
      some (reply, written, last.store) := by
  obtain ⟨updated, inactive, runs⟩ := Call.run_deactivates ttlSeconds found deactivates
  have order_then : attempt.userIds.isPerm
      ((deactivation tenantId attempt updated database).members tenantId) = true := by
    rw [deactivation_members]
    exact List.isPerm_iff.mpr order
  simp only [Call.request, runs, endSessions, order_then, if_pos, gathered, Option.map_some]
  cases revokeUserTokensDeterministically texts attempt.userIds last.tasks with
  | error error => exact ⟨.error error, database, rfl⟩
  | ok done => exact ⟨.ok updated, deactivation tenantId attempt updated database, rfl⟩

/-- The requests that raised leave the rows as they were, and lose no session. -/
theorem Call.failedRequests_keeps (found : database.tenants.find tenantId = some tenant)
    (deactivates : call.Deactivates texts tenant) {attempts : List Attempt} {first : Redis}
    (begun : ∀ user ∈ database.members tenantId, Accounted user first redis)
    (failed : call.failedRequests texts ttlSeconds tenantId attempts database redis =
      some (written, after)) :
    written = database ∧ ∀ user ∈ database.members tenantId, Accounted user first after := by
  induction attempts generalizing redis with
  | nil =>
      cases failed
      exact ⟨rfl, begun⟩
  | cons attempt rest ih =>
      simp only [Call.failedRequests] at failed
      split at failed
      next error stored between requested =>
        obtain ⟨last, gathered, rfl, members, answers⟩ :=
          Call.request_answers found deactivates requested
        obtain ⟨_, rfl⟩ := answers.failure error rfl
        refine ih ?_ failed
        intro user member
        have settled := gatherRevocations_settled gathered ((members user).mpr member)
        intro jti active
        rcases begun user member jti active with tracked | revoked
        · exact settled.accounted jti tracked
        · exact .inr (settled.kept jti revoked)
      next => cases failed

end

section

variable {ttlSeconds : Seconds} {userIds : List UserId} {schedule : List (UserId × Fate)}
  {redis : Redis} {last : Revocations}

/-- A Redis that serves every command lets the revocations return. -/
theorem gatherRevocations_returns {user : UserId}
    (gathered : gatherRevocations ttlSeconds userIds schedule redis = some last)
    (member : user ∈ userIds) (served : ∀ fate ∈ Gather.choicesOf user schedule, fate = .ok) :
    last.tasks user = .returned := by
  obtain ⟨alone, ended, _⟩ := gatherRevocations_alone user gathered
  have finished := (gatherRevocations_some.mp gathered).2 user member
  have not_raised := run_ok served (fun _ => Revocation.noConfusion) ended
  cases ended_as : last.tasks user with
  | returned => rfl
  | raised reason => exact absurd ended_as (not_raised reason)
  | reading => rw [ended_as] at finished; cases finished
  | writing first todo => rw [ended_as] at finished; cases finished
  | deleting => rw [ended_as] at finished; cases finished

end

/-- Deactivating a tenant fails closed: whatever became of the requests before, a request takes
effect as a whole or not at all, no session is lost, and every user's revocation is as
attempted as it would be alone. -/
theorem tenant_deactivation_fail_closed (texts : Texts) (ttlSeconds : Seconds)
    (tenantId : TenantId) (call : Call) {attempts : List Attempt} {database stored : Database}
    {redis before : Redis} {tenant : Tenant}
    (found : database.tenants.find tenantId = some tenant)
    (deactivates : call.Deactivates texts tenant)
    (failed : call.failedRequests texts ttlSeconds tenantId attempts database redis =
      some (stored, before)) :
    stored = database ∧
    (∀ user ∈ database.members tenantId, Accounted user redis before) ∧
    (∀ attempt reply written after,
      call.request texts ttlSeconds tenantId attempt stored before =
          some (reply, written, after) →
        ∃ last, gatherRevocations ttlSeconds attempt.userIds attempt.schedule before = some last ∧
          after = last.store ∧
          ((∃ row, reply = .ok row) ↔
            ∀ user ∈ database.members tenantId, last.tasks user = .returned) ∧
          (∀ user ∈ database.members tenantId, isOver (last.tasks user) = true ∧
            ∃ alone, revokeAllUserAccessTokens user ttlSeconds
              (Gather.choicesOf user attempt.schedule) before = some (last.tasks user, alone)) ∧
          (∀ row, reply = .ok row → Deactivated tenantId written ∧
            ∀ user ∈ written.members tenantId, ∀ jti, jti ∈ redis.active user ∨
              jti ∈ before.active user → after.isTokenRevoked jti = true) ∧
          ∀ error, reply = .error error → written = database ∧
            ∀ user ∈ database.members tenantId,
              Accounted user redis after ∧ Accounted user before after) ∧
    ∀ (pattern : UserId → Nat → Fate) (now : Seconds) (userIds : List UserId),
      userIds.Perm (database.members tenantId) →
        ∃ schedule reply written after,
          call.request texts ttlSeconds tenantId ⟨now, userIds, schedule⟩ stored before =
              some (reply, written, after) ∧
            (∀ user ∈ userIds, ∃ count,
              Gather.choicesOf user schedule = (List.range count).map (pattern user)) ∧
            ((∀ user index, pattern user index = .ok) → ∃ row, reply = .ok row) := by
  have begun : ∀ user ∈ database.members tenantId, Accounted user redis redis :=
    fun _ _ _ active => .inl active
  obtain ⟨rfl, accounted⟩ := Call.failedRequests_keeps found deactivates begun failed
  refine ⟨rfl, accounted, ?_, ?_⟩
  · intro attempt reply written after requested
    obtain ⟨last, gathered, rfl, members, answers⟩ :=
      Call.request_answers found deactivates requested
    refine ⟨last, gathered, rfl, answers.returns, ?_, ?_, ?_⟩
    · intro user member
      obtain ⟨alone, ended, _⟩ := gatherRevocations_alone user gathered
      have finished := (gatherRevocations_some.mp gathered).2 user ((members user).mpr member)
      exact ⟨finished, alone, ended⟩
    · intro row ok
      obtain ⟨deactivated, same⟩ := answers.success row ok
      refine ⟨deactivated, ?_⟩
      intro user member jti tracked
      have inside := (same user).mp member
      have settled := gatherRevocations_settled gathered ((members user).mpr inside)
      have returned := answers.returns.mp ⟨row, ok⟩ user inside
      have revoked := settled.revoked returned
      rcases tracked with at_first | just_before
      · rcases accounted user inside jti at_first with active | denied
        · exact revoked jti active
        · exact settled.kept jti denied
      · exact revoked jti just_before
    · intro error raised
      obtain ⟨_, rolled_back⟩ := answers.failure error raised
      refine ⟨rolled_back, ?_⟩
      intro user member
      have settled := gatherRevocations_settled gathered ((members user).mpr member)
      refine ⟨?_, settled.accounted⟩
      intro jti tracked
      rcases accounted user member jti tracked with active | denied
      · exact settled.accounted jti active
      · exact .inr (settled.kept jti denied)
  · intro pattern now userIds order
    have distinct : userIds.Nodup := order.nodup_iff.mpr (stored.listed.nodup.filter _)
    obtain ⟨schedule, last, gathered, follows⟩ :=
      gatherRevocations_completes distinct pattern
    have request : ∃ reply written, call.request texts ttlSeconds tenantId
        ⟨now, userIds, schedule⟩ stored before = some (reply, written, last.store) :=
      Call.request_runs found deactivates order gathered
    obtain ⟨reply, written, requested⟩ := request
    refine ⟨schedule, reply, written, last.store, requested, follows, ?_⟩
    intro served
    obtain ⟨final, gathered_too, _, members, answers⟩ :=
      Call.request_answers found deactivates requested
    refine answers.returns.mpr ?_
    intro user member
    have inside := (members user).mpr member
    refine gatherRevocations_returns gathered_too inside ?_
    obtain ⟨count, choices⟩ := follows user inside
    intro fate made
    change fate ∈ Gather.choicesOf user schedule at made
    rw [choices] at made
    obtain ⟨index, _, rfl⟩ := List.mem_map.mp made
    exact served user index

def exampleTexts : Texts :=
  ⟨id, id, fun user => toString user, fun _ _ => ("RedisTimeoutError", "Redis service unavailable")⟩

def exampleUser (email : String) : Users.User :=
  ⟨some 1, email, "", "", .analyst, true, false⟩

/-- A tenant with two users, one refresh token each. -/
def twoUsers : Database where
  tenants := Table.empty.insert 1 ⟨"Acme", "free", 10, true, none⟩
  users := (Table.empty.insert 1 (exampleUser "a@acme.es")).insert 2 (exampleUser "b@acme.es")
  tokens := (Table.empty.insert 11 ⟨1, 900, none, 0⟩).insert 12 ⟨2, 900, none, 0⟩
  listed := by
    refine Table.Listed.insert (Table.Listed.insert Table.Listed.empty ?_) ?_
    · exact List.not_mem_nil
    · decide

def threeSessions : Redis :=
  ((Redis.empty.sadd 1 "jti-a").sadd 1 "jti-b").sadd 2 "jti-c"

/-- The second SET of one user fails while the other's revocation returns. The request is made
again, and now it returns. -/
theorem tenant_deactivation_retried :
    ∃ stored before,
      Call.deactivateTenant.failedRequests exampleTexts 900 1
        [⟨100, [2, 1], [(1, .ok), (2, .ok), (1, .ok), (2, .ok), (1, .failed), (2, .ok)]⟩]
        twoUsers threeSessions = some (stored, before) ∧
      ∃ row written after,
        Call.deactivateTenant.request exampleTexts 900 1
          ⟨200, [1, 2], [(2, .ok), (1, .ok), (1, .ok), (1, .ok), (1, .ok)]⟩ stored before =
            some (.ok row, written, after) ∧
        Deactivated 1 written ∧ ∀ user ∈ written.members 1,
          ∀ jti, jti ∈ threeSessions.active user ∨ jti ∈ before.active user →
            after.isTokenRevoked jti = true := by
  have runs : ∃ stored before,
      Call.deactivateTenant.failedRequests exampleTexts 900 1
        [⟨100, [2, 1], [(1, .ok), (2, .ok), (1, .ok), (2, .ok), (1, .failed), (2, .ok)]⟩]
        twoUsers threeSessions = some (stored, before) ∧
      ∃ row written after,
        Call.deactivateTenant.request exampleTexts 900 1
          ⟨200, [1, 2], [(2, .ok), (1, .ok), (1, .ok), (1, .ok), (1, .ok)]⟩ stored before =
            some (.ok row, written, after) :=
    ⟨_, _, rfl, _, _, _, rfl⟩
  obtain ⟨stored, before, failed, row, written, after, requested⟩ := runs
  have found : twoUsers.tenants.find 1 = some ⟨"Acme", "free", 10, true, none⟩ := rfl
  obtain ⟨_, _, holds, _⟩ :=
    tenant_deactivation_fail_closed exampleTexts 900 1 .deactivateTenant found rfl failed
  obtain ⟨last, _, _, _, _, succeeds, _⟩ := holds _ _ _ _ requested
  exact ⟨stored, before, failed, row, written, after, requested, succeeds row rfl⟩

end Tenants
