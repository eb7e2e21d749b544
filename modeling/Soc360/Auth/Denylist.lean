import Mathlib.Data.List.Sort
import Mathlib.Data.String.Basic
import Mathlib.Logic.Function.Basic
import Soc360.Store.Fault

set_option autoImplicit false

namespace Auth

abbrev Jti := String
abbrev UserId := Nat

/-- Seconds. -/
abbrev Seconds := Nat

/-- The Redis keys of the session services: the set `active_jtis:{user}` of each user, which
is absent when it has no member, and the `revoked:{jti}` entries with the TTL they have
left. -/
structure Redis where
  active : UserId → List Jti
  denylist : Jti → Option Seconds

namespace Redis

def empty : Redis := ⟨fun _ => [], fun _ => none⟩

def sadd (user : UserId) (jti : Jti) (redis : Redis) : Redis :=
  { redis with active := Function.update redis.active user ((redis.active user).insert jti) }

def srem (user : UserId) (jti : Jti) (redis : Redis) : Redis :=
  { redis with active := Function.update redis.active user ((redis.active user).filter (· != jti)) }

def smembers (user : UserId) (redis : Redis) : List Jti := redis.active user

/-- `SET revoked:{jti} 1 EX ttl`. -/
def setRevoked (ttlSeconds : Seconds) (jti : Jti) (redis : Redis) : Redis :=
  { redis with denylist := Function.update redis.denylist jti (some ttlSeconds) }

def delActive (user : UserId) (redis : Redis) : Redis :=
  { redis with active := Function.update redis.active user [] }

/-- `is_token_revoked`. -/
def isTokenRevoked (jti : Jti) (redis : Redis) : Bool := (redis.denylist jti).isSome

/-- Time passes, and the entries whose TTL is used up are gone. -/
def elapse (seconds : Seconds) (redis : Redis) : Redis :=
  { redis with denylist := fun jti =>
      (redis.denylist jti).bind fun left =>
        if seconds < left then some (left - seconds) else none }

theorem setRevoked_revoked (ttlSeconds : Seconds) (jti other : Jti) (redis : Redis) :
    (redis.setRevoked ttlSeconds jti).isTokenRevoked other =
      (decide (other = jti) || redis.isTokenRevoked other) := by
  by_cases same : other = jti
  · simp [isTokenRevoked, setRevoked, same]
  · simp [isTokenRevoked, setRevoked, same]

end Redis

/-- The command of a mass revocation that an error came from. -/
inductive Command where
  | read
  | denylist
  | cleanup
  deriving DecidableEq, Repr

/-- Where `revoke_all_user_access_tokens` stands between two commands. -/
inductive Revocation where
  | reading
  | writing (jti : Jti) (todo : List Jti)
  | deleting
  | returned
  | raised (command : Command)
  deriving DecidableEq, Repr

/-- The ordered SETs, then the DELETE. -/
def Revocation.writes : List Jti → Revocation
  | [] => .deleting
  | jti :: todo => .writing jti todo

/-- The next command of `revoke_all_user_access_tokens` and where it leads. The first
error ends the attempt. -/
def Revocation.next (user : UserId) (ttlSeconds : Seconds) (fate : Fate) (redis : Redis) :
    Revocation → Option (Revocation × Redis)
  | .reading =>
      match (redis.smembers user).insertionSort (· ≤ ·) with
      | [] => some (fate.branch .returned (.raised .read), redis)
      | jti :: todo => some (fate.branch (.writing jti todo) (.raised .read), redis)
  | .writing jti todo =>
      some (fate.branch (.writes todo) (.raised .denylist),
        fate.settle (Redis.setRevoked ttlSeconds jti) redis)
  | .deleting =>
      some (fate.branch .returned (.raised .cleanup),
        fate.settle (Redis.delActive user) redis)
  | .returned => none
  | .raised _ => none

/-- An attempt with a fate for each of its commands. -/
def Revocation.run (user : UserId) (ttlSeconds : Seconds) :
    List Fate → Revocation → Redis → Option (Revocation × Redis)
  | [], revocation, redis => some (revocation, redis)
  | fate :: fates, revocation, redis =>
      (revocation.next user ttlSeconds fate redis).bind fun (revocation, redis) =>
        run user ttlSeconds fates revocation redis

/-- `revoke_all_user_access_tokens` from its first command on. -/
def revokeAllUserAccessTokens (user : UserId) (ttlSeconds : Seconds) (fates : List Fate)
    (redis : Redis) : Option (Revocation × Redis) :=
  Revocation.run user ttlSeconds fates .reading redis

/-- Attempts that all end in an error, one after the other. -/
def failedAttempts (user : UserId) (ttlSeconds : Seconds) :
    List (List Fate) → Redis → Option Redis
  | [], redis => some redis
  | fates :: rest, redis =>
      match revokeAllUserAccessTokens user ttlSeconds fates redis with
      | some (.raised _, redis) => failedAttempts user ttlSeconds rest redis
      | _ => none

/-- How far an attempt that started on `first` has got with `redis`. -/
def Revocation.Reached (user : UserId) (first redis : Redis) : Revocation → Prop
  | .reading => redis = first
  | .writing jti todo => redis.active = first.active ∧
      ∀ member ∈ first.active user, member ∈ jti :: todo ∨ redis.isTokenRevoked member = true
  | .deleting => redis.active = first.active ∧
      ∀ member ∈ first.active user, redis.isTokenRevoked member = true
  | .returned => redis.active user = [] ∧
      ∀ member ∈ first.active user, redis.isTokenRevoked member = true
  | .raised .read => redis.active = first.active
  | .raised .denylist => redis.active = first.active
  | .raised .cleanup => ∀ member ∈ first.active user, redis.isTokenRevoked member = true

/-- The invariant of an attempt: its progress, and no denylist entry lost. -/
structure Underway (user : UserId) (first redis : Redis) (revocation : Revocation) : Prop where
  reached : revocation.Reached user first redis
  kept : ∀ jti, first.isTokenRevoked jti = true → redis.isTokenRevoked jti = true

theorem settle_setRevoked_kept (fate : Fate) (ttlSeconds : Seconds) (jti : Jti) {other : Jti}
    {redis : Redis} (revoked : redis.isTokenRevoked other = true) :
    (fate.settle (Redis.setRevoked ttlSeconds jti) redis).isTokenRevoked other = true := by
  refine Fate.settle_preserves (fun state : Redis => state.isTokenRevoked other = true)
    fate revoked ?_
  simp [Redis.setRevoked_revoked, revoked]

theorem settle_setRevoked_active (fate : Fate) (ttlSeconds : Seconds) (jti : Jti)
    (redis : Redis) :
    (fate.settle (Redis.setRevoked ttlSeconds jti) redis).active = redis.active :=
  Fate.settle_preserves (fun state : Redis => state.active = redis.active) fate rfl rfl

theorem Underway.next {user : UserId} {ttlSeconds : Seconds} {first redis redis' : Redis}
    {revocation revocation' : Revocation} {fate : Fate}
    (underway : Underway user first redis revocation)
    (taken : revocation.next user ttlSeconds fate redis = some (revocation', redis')) :
    Underway user first redis' revocation' := by
  obtain ⟨reached, kept⟩ := underway
  cases revocation with
  | reading =>
      subst reached
      simp only [Revocation.next] at taken
      have members := List.perm_insertionSort (· ≤ ·) (redis.smembers user)
      split at taken
      next empty =>
        cases taken
        rw [empty] at members
        have none_active : redis.active user = [] := members.symm.eq_nil
        rcases fate.branch_cases Revocation.returned (.raised .read) with
          ⟨_, same⟩ | ⟨_, same⟩ <;> rw [same]
        · refine ⟨⟨none_active, ?_⟩, kept⟩
          intro member inside
          rw [none_active] at inside
          cases inside
        · exact ⟨rfl, kept⟩
      next jti todo sorted =>
        cases taken
        rcases fate.branch_cases (Revocation.writing jti todo) (.raised .read) with
          ⟨_, same⟩ | ⟨_, same⟩ <;> rw [same]
        · refine ⟨⟨rfl, ?_⟩, kept⟩
          intro member inside
          left
          rw [← sorted]
          exact members.mem_iff.mpr inside
        · exact ⟨rfl, kept⟩
  | writing jti todo =>
      cases taken
      obtain ⟨active, written⟩ := reached
      have still := settle_setRevoked_active fate ttlSeconds jti redis
      have kept_now : ∀ other, first.isTokenRevoked other = true →
          (fate.settle (Redis.setRevoked ttlSeconds jti) redis).isTokenRevoked other = true :=
        fun other revoked => settle_setRevoked_kept fate ttlSeconds jti (kept other revoked)
      rcases fate.branch_cases (Revocation.writes todo) (.raised .denylist) with
        ⟨done, same⟩ | ⟨_, same⟩ <;> rw [same]
      · subst done
        have progress : ∀ member ∈ first.active user, member ∈ todo ∨
            (redis.setRevoked ttlSeconds jti).isTokenRevoked member = true := by
          intro member inside
          rw [Redis.setRevoked_revoked]
          rcases written member inside with waiting | revoked
          · rcases List.mem_cons.mp waiting with now | later
            · simp [now]
            · exact .inl later
          · simp [revoked]
        cases todo with
        | nil =>
            refine ⟨⟨active, ?_⟩, kept_now⟩
            intro member inside
            exact (progress member inside).resolve_left List.not_mem_nil
        | cons next rest => exact ⟨⟨active, progress⟩, kept_now⟩
      · exact ⟨still.trans active, kept_now⟩
  | deleting =>
      cases taken
      obtain ⟨active, written⟩ := reached
      have denylist : ∀ other, redis.isTokenRevoked other = true →
          (fate.settle (Redis.delActive user) redis).isTokenRevoked other = true :=
        fun other revoked =>
          Fate.settle_preserves (fun state : Redis => state.isTokenRevoked other = true)
            fate revoked revoked
      have kept_now := fun other revoked => denylist other (kept other revoked)
      rcases fate.branch_cases Revocation.returned (.raised .cleanup) with
        ⟨done, same⟩ | ⟨_, same⟩ <;> rw [same]
      · subst done
        refine ⟨⟨?_, written⟩, kept_now⟩
        simp [Redis.delActive]
      · exact ⟨fun member inside => denylist member (written member inside), kept_now⟩
  | returned => cases taken
  | raised command => cases taken

theorem Underway.run {user : UserId} {ttlSeconds : Seconds} {first redis redis' : Redis}
    {revocation revocation' : Revocation} {fates : List Fate}
    (underway : Underway user first redis revocation)
    (ran : revocation.run user ttlSeconds fates redis = some (revocation', redis')) :
    Underway user first redis' revocation' := by
  induction fates generalizing revocation redis with
  | nil =>
      cases ran
      exact underway
  | cons fate rest ih =>
      obtain ⟨⟨middle, store⟩, taken, ran⟩ := Option.bind_eq_some_iff.mp ran
      exact ih (underway.next taken) ran

theorem revokeAllUserAccessTokens_underway {user : UserId} {ttlSeconds : Seconds}
    {fates : List Fate} {redis redis' : Redis} {revocation : Revocation}
    (ran : revokeAllUserAccessTokens user ttlSeconds fates redis = some (revocation, redis')) :
    Underway user redis redis' revocation := by
  have begun : Underway user redis redis .reading := ⟨rfl, fun _ revoked => revoked⟩
  exact begun.run ran

/-- No member of `first` has escaped: each is still tracked or already denylisted. -/
def Accounted (user : UserId) (first redis : Redis) : Prop :=
  ∀ jti ∈ first.active user, jti ∈ redis.active user ∨ redis.isTokenRevoked jti = true

theorem Underway.accounted {user : UserId} {first redis : Redis} {command : Command}
    (underway : Underway user first redis (.raised command)) : Accounted user first redis := by
  intro jti member
  have reached := underway.reached
  cases command with
  | read =>
      change redis.active = first.active at reached
      exact .inl (reached ▸ member)
  | denylist =>
      change redis.active = first.active at reached
      exact .inl (reached ▸ member)
  | cleanup => exact .inr (reached jti member)

theorem failedAttempts_accounted {user : UserId} {ttlSeconds : Seconds}
    {attempts : List (List Fate)} {first redis redis' : Redis}
    (accounted : Accounted user first redis)
    (failed : failedAttempts user ttlSeconds attempts redis = some redis') :
    Accounted user first redis' := by
  induction attempts generalizing redis with
  | nil =>
      cases failed
      exact accounted
  | cons fates rest ih =>
      simp only [failedAttempts] at failed
      split at failed
      next command store ran =>
        have underway := revokeAllUserAccessTokens_underway ran
        refine ih ?_ failed
        intro jti member
        rcases accounted jti member with tracked | revoked
        · exact underway.accounted jti tracked
        · exact .inr (underway.kept jti revoked)
      next => cases failed

/-- A mass revocation fails closed, and one that returns after any failures is complete. -/
theorem mass_revocation_fail_closed (user : UserId) (ttlSeconds : Seconds)
    (attempts : List (List Fate)) {redis before : Redis}
    (failed : failedAttempts user ttlSeconds attempts redis = some before) (fates : List Fate) :
    (∀ command after,
        revokeAllUserAccessTokens user ttlSeconds fates before = some (.raised command, after) →
          Accounted user before after ∧
          (∀ jti, before.isTokenRevoked jti = true → after.isTokenRevoked jti = true) ∧
          (command = .read ∨ command = .denylist → after.active = before.active)) ∧
      ∀ after,
        revokeAllUserAccessTokens user ttlSeconds fates before = some (.returned, after) →
          after.active user = [] ∧
            ∀ jti ∈ redis.active user, after.isTokenRevoked jti = true := by
  refine ⟨?_, ?_⟩
  · intro command after ran
    have underway := revokeAllUserAccessTokens_underway ran
    refine ⟨underway.accounted, underway.kept, ?_⟩
    rintro (rfl | rfl)
    · exact underway.reached
    · exact underway.reached
  · intro after ran
    have underway := revokeAllUserAccessTokens_underway ran
    refine ⟨underway.reached.1, ?_⟩
    intro jti member
    have accounted : Accounted user redis before :=
      failedAttempts_accounted (fun _ inside => .inl inside) failed
    rcases accounted jti member with tracked | revoked
    · exact underway.reached.2 jti tracked
    · exact underway.kept jti revoked

def twoSessions : Redis := (Redis.empty.sadd 1 "jti-a").sadd 1 "jti-b"

/-- The second SET fails, the retry loses the reply of its DELETE, the last one returns. -/
theorem mass_revocation_retried :
    ∃ before after,
      failedAttempts 1 900 [[.ok, .ok, .failed], [.ok, .ok, .ok, .lost]] twoSessions =
          some before ∧
        revokeAllUserAccessTokens 1 900 [.ok] before = some (.returned, after) ∧
        after.active 1 = [] ∧ ∀ jti ∈ twoSessions.active 1, after.isTokenRevoked jti = true := by
  have failed : ∃ before, failedAttempts 1 900
      [[.ok, .ok, .failed], [.ok, .ok, .ok, .lost]] twoSessions = some before ∧
        ∃ after, revokeAllUserAccessTokens 1 900 [.ok] before = some (.returned, after) :=
    ⟨_, rfl, _, rfl⟩
  obtain ⟨before, failed, after, returned⟩ := failed
  refine ⟨before, after, failed, returned, ?_⟩
  exact (mass_revocation_fail_closed 1 900 _ failed [.ok]).2 after returned

end Auth
