import Mathlib.Data.Rat.Floor
import Soc360.Auth.Denylist
import Soc360.Store.Expiring
import Soc360.Store.Machine

set_option autoImplicit false

/-! Access tokens and the denylist on one exact clock. Time is counted from the epoch, so that
`int()` of a timestamp rounds it down. -/

namespace Auth

/-- `ACCESS_TOKEN_EXPIRE_MINUTES`, as the settings validate it. -/
structure Lifetime where
  minutes : Nat
  positive : 1 ≤ minutes
  bounded : minutes ≤ 60

/-- `ACCESS_TOKEN_EXPIRE_MINUTES * 60`. -/
def Lifetime.seconds (lifetime : Lifetime) : Nat := lifetime.minutes * 60

/-- The payload of an access token. -/
structure Payload where
  sub : String
  jti : Jti
  tenantId : Option String
  role : String
  isSuperadmin : Bool
  iat : Int
  exp : Int
  deriving DecidableEq, Repr

/-- `ROLE_HIERARCHY`. -/
def roleHierarchy : List (String × Nat) :=
  [("viewer", 0), ("analyst", 1), ("ingestor", 1), ("admin", 2), ("superadmin", 99)]

/-- `create_access_token` at the time `now`, with the new `uuid4` as JTI. No delta, like a zero
one, means the default lifetime. -/
def createAccessToken (lifetime : Lifetime) (now : Time) (jti : Jti) (userId : String)
    (tenantId : Option String) (role : String) (isSuperadmin : Bool)
    (expiresDelta : Option Time) : Except String Payload :=
  if isSuperadmin = true ∧ tenantId.isSome = true then
    .error "Superadmin no puede tener tenant_id"
  else if isSuperadmin = false ∧ tenantId = none then
    .error "Usuario normal debe tener tenant_id"
  else if (roleHierarchy.lookup role).isNone then .error ("Rol invalido: " ++ role)
  else
    let delta := match expiresDelta with
      | none => (lifetime.seconds : Time)
      | some delta => if delta = 0 then (lifetime.seconds : Time) else delta
    .ok ⟨userId, jti, tenantId, role, isSuperadmin, ⌊now⌋, ⌊now + delta⌋⟩

/-- A bearer as PyJWT finds it: signed with our key, or not a token of ours. -/
inductive Bearer where
  | signed (payload : Payload)
  | foreign

/-- The reasons of an `InvalidTokenError`. -/
inductive InvalidToken where
  | signature
  | immature
  | expired
  deriving DecidableEq, Repr

/-- `decode_access_token` at the time `now`. A signed payload has all its fields. -/
def decodeAccessToken (now : Time) : Bearer → Except InvalidToken Payload
  | .foreign => .error .signature
  | .signed payload =>
      if now < payload.iat then .error .immature
      else if (payload.exp : Time) ≤ now then .error .expired
      else .ok payload

abbrev DenylistStore := Expiring Jti String

/-- `revoke_access_token` at the time `now`. -/
def revokeAccessToken (jti : Jti) (ttlSeconds : Int) (now : Time) (store : DenylistStore) :
    DenylistStore :=
  if 0 < ttlSeconds then store.put jti "1" (now + ttlSeconds) else store

/-- A SET of `revoke_all_user_access_tokens` at the time `now`. -/
def revokeTracked (jti : Jti) (ttlSeconds : Nat) (now : Time) (store : DenylistStore) :
    DenylistStore :=
  store.put jti "1" (now + ttlSeconds)

/-- `is_token_revoked` at the time `now`. -/
def tokenRevoked (jti : Jti) (now : Time) (store : DenylistStore) : Bool :=
  (store.sweep now jti).isSome

/-- A row of `users` joined with its tenant. -/
structure Account where
  isActive : Bool
  isSuperadmin : Bool
  tenantId : Option String
  tenantActive : Option Bool
  deriving DecidableEq, Repr

/-- Why `get_current_user` refuses a request. -/
inductive AuthFailure where
  | invalidToken (reason : InvalidToken)
  | missingSub
  | invalidUserId
  | redisUnhealthy
  | revokedToken
  | userInactive
  | tenantInactive
  | missingTenantId
  deriving DecidableEq, Repr

/-- `get_current_user`: it decodes the token at one time and looks at the denylist at another.
`uuid` parses a UUID and `rows` is the query of the user. -/
def getCurrentUser {UserKey : Type} (uuid : String → Option UserKey)
    (rows : UserKey → Option Account) (redisHealthy : Bool) (decodedAt lookedAt : Time)
    (store : DenylistStore) (bearer : Bearer) : Except AuthFailure (UserKey × Jti) :=
  match decodeAccessToken decodedAt bearer with
  | .error reason => .error (.invalidToken reason)
  | .ok payload =>
      if payload.sub = "" then .error .missingSub
      else match uuid payload.sub with
        | none => .error .invalidUserId
        | some user =>
            if redisHealthy = false then .error .redisUnhealthy
            else if payload.jti = "" ∨ tokenRevoked payload.jti lookedAt store = true then
              .error .revokedToken
            else match rows user with
              | none => .error .userInactive
              | some account =>
                  if account.isActive = false then .error .userInactive
                  else if account.isSuperadmin = true then .ok (user, payload.jti)
                  else if account.tenantActive ≠ some true then .error .tenantInactive
                  else if account.tenantId = none then .error .missingTenantId
                  else .ok (user, payload.jti)

/-- The clock and the denylist. -/
structure Clocked where
  now : Time
  store : DenylistStore

/-- Time passes, or one of the services denylists a JTI. -/
inductive ClockedLabel where
  | elapse (duration : Time)
  | revokeAccessToken (jti : Jti)
  | revokeAllUserAccessTokens (jti : Jti)
  | logout (jti : Jti)
  deriving DecidableEq, Repr

/-- The JTI that a service denylists. -/
def ClockedLabel.revokes : ClockedLabel → Option Jti
  | elapse _ => none
  | revokeAccessToken jti => some jti
  | revokeAllUserAccessTokens jti => some jti
  | logout jti => some jti

def Clocked.step (lifetime : Lifetime) (world : Clocked) : ClockedLabel → Option Clocked
  | .elapse duration =>
      if 0 ≤ duration then
        some ⟨world.now + duration, world.store.sweep (world.now + duration)⟩
      else none
  | .revokeAccessToken jti =>
      some { world with store := revokeAccessToken jti lifetime.seconds world.now world.store }
  | .revokeAllUserAccessTokens jti =>
      some { world with store := revokeTracked jti lifetime.seconds world.now world.store }
  | .logout jti =>
      some { world with store := revokeAccessToken jti lifetime.seconds world.now world.store }

/-- Any calls of the services, at any times. -/
def clocked (lifetime : Lifetime) : Machine Clocked ClockedLabel where
  start _ := True
  step := Clocked.step lifetime

/-- How far a label moves the clock. -/
def ClockedLabel.duration : ClockedLabel → Time
  | elapse duration => duration
  | revokeAccessToken _ => 0
  | revokeAllUserAccessTokens _ => 0
  | logout _ => 0

/-- When the labels that start at `now` last denylist the JTI: at `since`, if none of them does. -/
def lastRevoked (jti : Jti) (now since : Time) : List ClockedLabel → Time
  | [] => since
  | label :: rest =>
      lastRevoked jti (now + label.duration) (if label.revokes = some jti then now else since) rest

/-- The JTI was last denylisted at `since`: its key is there until the TTL is over. -/
def Clocked.Listed (world : Clocked) (lifetime : Lifetime) (jti : Jti) (since : Time) : Prop :=
  (∃ entry, world.store jti = some entry ∧
    entry.expiresAt = some (since + lifetime.seconds)) ∨
  world.store jti = none ∧ since + lifetime.seconds ≤ world.now

/-- What becomes of a request that presents a revoked token: the token has expired when it is
decoded, or its JTI is found on the denylist. -/
def Clocked.Refuses (world : Clocked) (decodedAt : Time) (payload : Payload) : Prop :=
  decodeAccessToken decodedAt (.signed payload) = .error .expired ∨
    tokenRevoked payload.jti world.now world.store = true

section

variable {lifetime : Lifetime} {world next last : Clocked} {label : ClockedLabel}
  {labels : List ClockedLabel} {payload : Payload} {duration : Time}

theorem Lifetime.seconds_pos (lifetime : Lifetime) : 0 < lifetime.seconds := by
  have positive := lifetime.positive
  unfold Lifetime.seconds
  omega

/-- Every revocation writes the same entry. -/
theorem step_revokes {jti : Jti} (revokes : label.revokes = some jti) :
    (clocked lifetime).step world label =
      some ⟨world.now, world.store.put jti "1" (world.now + lifetime.seconds)⟩ := by
  have positive : (0 : Int) < lifetime.seconds := by
    have seconds := lifetime.seconds_pos
    omega
  have revoked : revokeAccessToken jti lifetime.seconds world.now world.store =
      world.store.put jti "1" (world.now + lifetime.seconds) := by
    rw [revokeAccessToken, if_pos positive]
    rfl
  cases label with
  | elapse duration => cases revokes
  | revokeAccessToken other =>
      cases revokes
      rw [← revoked]
      rfl
  | revokeAllUserAccessTokens other =>
      cases revokes
      rfl
  | logout other =>
      cases revokes
      rw [← revoked]
      rfl

theorem step_elapse (taken : (clocked lifetime).step world (.elapse duration) = some next) :
    0 ≤ duration ∧ next = ⟨world.now + duration, world.store.sweep (world.now + duration)⟩ := by
  change (if 0 ≤ duration then _ else none) = some next at taken
  split at taken
  next forward =>
    cases taken
    exact ⟨forward, rfl⟩
  next => cases taken

/-- Time does not run back. -/
theorem step_now (taken : (clocked lifetime).step world label = some next) :
    world.now ≤ next.now := by
  cases revokes : label.revokes with
  | some jti =>
      rw [step_revokes revokes] at taken
      cases taken
      exact le_refl _
  | none =>
      cases label with
      | elapse duration =>
          obtain ⟨forward, rfl⟩ := step_elapse taken
          exact le_add_of_nonneg_right forward
      | revokeAccessToken jti => cases revokes
      | revokeAllUserAccessTokens jti => cases revokes
      | logout jti => cases revokes

theorem exec_now (ran : (clocked lifetime).exec world labels = some last) :
    world.now ≤ last.now := by
  induction labels generalizing world with
  | nil =>
      cases ran
      exact le_refl _
  | cons label rest ih =>
      obtain ⟨next, taken, ran⟩ := Machine.exec_cons_some.mp ran
      exact (step_now taken).trans (ih ran)

theorem step_duration (taken : (clocked lifetime).step world label = some next) :
    next.now = world.now + label.duration := by
  cases revokes : label.revokes with
  | some jti =>
      rw [step_revokes revokes] at taken
      cases taken
      cases label with
      | elapse duration => cases revokes
      | _ => exact (add_zero _).symm
  | none =>
      cases label with
      | elapse duration =>
          obtain ⟨_, rfl⟩ := step_elapse taken
          rfl
      | _ => cases revokes

/-- A revocation starts the TTL. -/
theorem Clocked.Listed.revoke {jti : Jti} (revokes : label.revokes = some jti)
    (taken : (clocked lifetime).step world label = some next) :
    next.Listed lifetime jti world.now := by
  rw [step_revokes revokes] at taken
  cases taken
  exact .inl ⟨_, Expiring.put_self, rfl⟩

/-- Only another revocation of the JTI starts it anew. -/
theorem Clocked.Listed.step {jti : Jti} {since : Time} (listed : world.Listed lifetime jti since)
    (taken : (clocked lifetime).step world label = some next) :
    next.Listed lifetime jti (if label.revokes = some jti then world.now else since) := by
  split
  next revokes => exact .revoke revokes taken
  next other_label =>
    cases revokes : label.revokes with
    | some other =>
        have differ : jti ≠ other := by
          rintro rfl
          exact other_label revokes
        rw [step_revokes revokes] at taken
        cases taken
        have kept : world.store.put other "1" (world.now + lifetime.seconds) jti =
            world.store jti := Expiring.put_other differ
        unfold Clocked.Listed
        dsimp only
        rw [kept]
        exact listed
    | none =>
        cases label with
        | elapse duration =>
            obtain ⟨forward, rfl⟩ := step_elapse taken
            rcases listed with ⟨entry, found, expiresAt⟩ | ⟨gone, spent⟩
            · by_cases ahead : world.now + duration < since + lifetime.seconds
              · left
                refine ⟨entry, Expiring.sweep_some.mpr ⟨found, ?_⟩, expiresAt⟩
                intro time same
                cases expiresAt.symm.trans same
                exact ahead
              · right
                refine ⟨?_, not_lt.mp ahead⟩
                rw [Option.eq_none_iff_forall_ne_some]
                intro kept swept
                obtain ⟨same, lasts⟩ := Expiring.sweep_some.mp swept
                cases found.symm.trans same
                exact ahead (lasts _ expiresAt)
            · right
              refine ⟨?_, spent.trans (le_add_of_nonneg_right forward)⟩
              show (world.store jti).filter _ = none
              rw [gone]
              rfl
        | _ => cases revokes

theorem Clocked.Listed.exec {jti : Jti} {since : Time} (listed : world.Listed lifetime jti since)
    (ran : (clocked lifetime).exec world labels = some last) :
    last.Listed lifetime jti (lastRevoked jti world.now since labels) := by
  induction labels generalizing world since with
  | nil =>
      cases ran
      exact listed
  | cons label rest ih =>
      obtain ⟨next, taken, ran⟩ := Machine.exec_cons_some.mp ran
      have later := ih (listed.step taken) ran
      rw [step_duration taken] at later
      exact later

/-- The denylist answers for a JTI until the TTL of its last revocation is over. -/
theorem Clocked.Listed.tokenRevoked_iff {jti : Jti} {since : Time}
    (listed : world.Listed lifetime jti since) :
    tokenRevoked jti world.now world.store = true ↔ world.now < since + lifetime.seconds := by
  unfold tokenRevoked
  rw [Option.isSome_iff_exists]
  rcases listed with ⟨entry, found, expiresAt⟩ | ⟨gone, spent⟩
  · constructor
    · intro ⟨kept, swept⟩
      obtain ⟨same, lasts⟩ := Expiring.sweep_some.mp swept
      cases found.symm.trans same
      exact lasts _ expiresAt
    · intro ahead
      refine ⟨entry, Expiring.sweep_some.mpr ⟨found, ?_⟩⟩
      intro time same
      cases expiresAt.symm.trans same
      exact ahead
  · refine iff_of_false ?_ (not_lt.mpr spent)
    intro ⟨kept, swept⟩
    rw [(Expiring.sweep_some.mp swept).1] at gone
    cases gone

theorem le_lastRevoked {jti : Jti} {since : Time} (reached : since ≤ world.now)
    (ran : (clocked lifetime).exec world labels = some last) :
    since ≤ lastRevoked jti world.now since labels := by
  induction labels generalizing world since with
  | nil => exact le_refl _
  | cons label rest ih =>
      obtain ⟨next, taken, ran⟩ := Machine.exec_cons_some.mp ran
      have forward := step_now taken
      unfold lastRevoked
      rw [← step_duration taken]
      split
      next => exact reached.trans (ih forward ran)
      next => exact ih (reached.trans forward) ran

/-- A token is read as expired from its `exp` on. -/
theorem decodeAccessToken_expired {decodedAt : Time} (mature : (payload.iat : Time) ≤ decodedAt) :
    decodeAccessToken decodedAt (.signed payload) = .error .expired ↔
      (payload.exp : Time) ≤ decodedAt := by
  rw [decodeAccessToken, if_neg (not_lt.mpr mature)]
  split
  next expired => exact iff_of_true rfl expired
  next valid => exact iff_of_false (fun refused => by cases refused) valid

/-- A token of the default lifetime names its expiry in whole seconds. -/
theorem createAccessToken_default {now : Time} {jti : Jti} {userId role : String}
    {tenantId : Option String} {isSuperadmin : Bool}
    (issued : createAccessToken lifetime now jti userId tenantId role isSuperadmin none =
      .ok payload) :
    payload.jti = jti ∧ payload.iat = ⌊now⌋ ∧ payload.exp = ⌊now + (lifetime.seconds : Time)⌋ := by
  unfold createAccessToken at issued
  split at issued
  next => cases issued
  next =>
    split at issued
    next => cases issued
    next =>
      split at issued
      next => cases issued
      next =>
        cases issued
        exact ⟨rfl, rfl, rfl⟩

/-- A request that is accepted has decoded its token. -/
theorem getCurrentUser_ok {UserKey : Type} {uuid : String → Option UserKey}
    {rows : UserKey → Option Account} {redisHealthy : Bool} {decodedAt lookedAt : Time}
    {store : DenylistStore} {accepted : UserKey × Jti}
    (passed : getCurrentUser uuid rows redisHealthy decodedAt lookedAt store (.signed payload) =
      .ok accepted) :
    decodedAt < payload.exp ∧ tokenRevoked payload.jti lookedAt store = false := by
  unfold getCurrentUser at passed
  split at passed
  next => cases passed
  next decoded accepted_payload =>
    unfold decodeAccessToken at accepted_payload
    simp only at accepted_payload
    split at accepted_payload
    next => cases accepted_payload
    next =>
      split at accepted_payload
      next => cases accepted_payload
      next valid =>
        cases accepted_payload
        refine ⟨not_le.mp valid, ?_⟩
        split at passed
        next => cases passed
        next =>
          split at passed
          next => cases passed
          next =>
            split at passed
            next => cases passed
            next =>
              split at passed
              next => cases passed
              next fine =>
                rw [← Bool.not_eq_true]
                intro revoked
                exact fine (.inr revoked)

/-- A request that presents a revoked token, decoded at any time since its issue, is refused if and
only if the token has expired then or the denylist is asked before the TTL of its last revocation
is over. The TTL outlasts the token, and what is refused is not accepted. -/
theorem revoked_token_refused_iff {middle : Clocked} {labels' : List ClockedLabel} {jti : Jti}
    {userId role : String} {tenantId : Option String} {isSuperadmin : Bool}
    (issued : createAccessToken lifetime world.now jti userId tenantId role isSuperadmin none =
      .ok payload)
    (before : (clocked lifetime).exec world labels = some middle)
    (revokes : label.revokes = some jti)
    (taken : (clocked lifetime).step middle label = some next)
    (after : (clocked lifetime).exec next labels' = some last) {decodedAt : Time}
    (known : world.now ≤ decodedAt) :
    (last.Refuses decodedAt payload ↔ (payload.exp : Time) ≤ decodedAt ∨
      last.now < lastRevoked jti next.now middle.now labels' + lifetime.seconds) ∧
    (payload.exp : Time) ≤ lastRevoked jti next.now middle.now labels' + lifetime.seconds ∧
    (last.Refuses decodedAt payload → ∀ {UserKey : Type} (uuid : String → Option UserKey)
      (rows : UserKey → Option Account) (redisHealthy : Bool) (accepted : UserKey × Jti),
      getCurrentUser uuid rows redisHealthy decodedAt last.now last.store (.signed payload) ≠
        .ok accepted) := by
  obtain ⟨same, iat, exp⟩ := createAccessToken_default issued
  have listed := (Clocked.Listed.revoke revokes taken).exec after
  have mature : (payload.iat : Time) ≤ decodedAt := by
    rw [iat]
    exact (Int.floor_le _).trans known
  refine ⟨?_, ?_, ?_⟩
  · unfold Clocked.Refuses
    rw [decodeAccessToken_expired mature, same, listed.tokenRevoked_iff]
  · have rounded : (payload.exp : Time) ≤ world.now + lifetime.seconds := by
      rw [exp]
      exact Int.floor_le _
    have later := exec_now before
    have since : middle.now ≤ lastRevoked jti next.now middle.now labels' :=
      le_lastRevoked (step_now taken) after
    linarith
  · intro refuses UserKey uuid rows redisHealthy accepted passed
    obtain ⟨valid, unlisted⟩ := getCurrentUser_ok passed
    rcases refuses with expired | revoked
    · exact absurd ((decodeAccessToken_expired mature).mp expired) (not_le.mpr valid)
    · rw [revoked] at unlisted
      cases unlisted

/-- A quarter of an hour. -/
def quarter : Lifetime := ⟨15, by decide, by decide⟩

/-- The token is issued half a second into the epoch second 1000 and revoked at its issue and again
ten minutes later. It is decoded before it expires, and looked up after. -/
theorem revoked_twice_refused :
    ∃ payload last, createAccessToken quarter (2001 / 2) "jti-a" "u" (some "t") "viewer" false none =
        .ok payload ∧
      (clocked quarter).exec ⟨2001 / 2, .empty⟩ [.logout "jti-a", .elapse 600,
        .revokeAllUserAccessTokens "jti-a", .elapse 300] = some last ∧
      last.Refuses (3799 / 2) payload ∧
      ∀ accepted, getCurrentUser (fun sub => some sub)
        (fun _ => some ⟨true, false, some "t", some true⟩) true (3799 / 2) last.now last.store
        (.signed payload) ≠ .ok accepted := by
  have issued : ∃ payload, createAccessToken quarter (2001 / 2) "jti-a" "u" (some "t") "viewer"
      false none = .ok payload := ⟨_, rfl⟩
  obtain ⟨payload, issued⟩ := issued
  have taken : ∃ next, (clocked quarter).step ⟨2001 / 2, .empty⟩ (.logout "jti-a") = some next ∧
      ∃ last, (clocked quarter).exec next [.elapse 600, .revokeAllUserAccessTokens "jti-a",
        .elapse 300] = some last ∧ last.now < lastRevoked "jti-a" next.now (2001 / 2)
          [.elapse 600, .revokeAllUserAccessTokens "jti-a", .elapse 300] + quarter.seconds := by
    refine ⟨_, rfl, _, rfl, ?_⟩
    norm_num [lastRevoked, ClockedLabel.duration, ClockedLabel.revokes, Lifetime.seconds, quarter]
  obtain ⟨next, taken, last, after, ahead⟩ := taken
  have before : (clocked quarter).exec ⟨2001 / 2, .empty⟩ [] = some ⟨2001 / 2, .empty⟩ := rfl
  have refused := revoked_token_refused_iff issued before rfl taken after
    (by norm_num : (2001 / 2 : Time) ≤ 3799 / 2)
  have refuses := refused.1.mpr (.inr ahead)
  refine ⟨payload, last, issued, ?_, refuses, refused.2.2 refuses _ _ _⟩
  rw [Machine.exec_cons, taken]
  exact after

/-- The token expires, and its denylist entry goes, between the decoding of the token and the
look at the denylist. -/
theorem revoked_token_straddles :
    ∃ payload last, createAccessToken quarter 1000 "jti-a" "u" (some "t") "viewer" false none =
        .ok payload ∧
      (clocked quarter).exec ⟨1000, .empty⟩ [.elapse (1 / 100), .logout "jti-a", .elapse 900] =
        some last ∧
      (1000 + 1 / 100 : Time) ≤ 189999 / 100 ∧ (189999 / 100 : Time) ≤ last.now ∧
      ¬ last.Refuses (189999 / 100) payload ∧
      getCurrentUser (fun sub => some sub) (fun _ => some ⟨true, false, some "t", some true⟩) true
        (189999 / 100) last.now last.store (.signed payload) = .ok ("u", "jti-a") := by
  let payload : Payload := ⟨"u", "jti-a", some "t", "viewer", false, 1000, 1900⟩
  have waited : ∃ middle, (clocked quarter).step ⟨1000, .empty⟩ (.elapse (1 / 100)) = some middle ∧
      middle.now = 1000 + 1 / 100 := ⟨_, if_pos (by norm_num), rfl⟩
  obtain ⟨middle, waited, at_middle⟩ := waited
  have taken : (clocked quarter).step middle (.logout "jti-a") = some
      ⟨middle.now, middle.store.put "jti-a" "1" (middle.now + quarter.seconds)⟩ := step_revokes rfl
  have ran : ∃ last, (clocked quarter).exec ⟨middle.now, middle.store.put "jti-a" "1"
      (middle.now + quarter.seconds)⟩ [.elapse 900] = some last ∧
      last.now = middle.now + 900 := ⟨_, rfl, rfl⟩
  obtain ⟨last, ran, at_last⟩ := ran
  have unlisted : tokenRevoked "jti-a" last.now last.store = false := by
    have listed := (Clocked.Listed.revoke rfl taken).exec ran
    have since : lastRevoked "jti-a" middle.now middle.now [.elapse 900] = middle.now := rfl
    rw [← Bool.not_eq_true, listed.tokenRevoked_iff, since, at_last]
    norm_num [Lifetime.seconds, quarter]
  have decoded : decodeAccessToken (189999 / 100) (.signed payload) = .ok payload := by
    norm_num [decodeAccessToken, payload]
  refine ⟨payload, last, ?_, ?_, ?_, ?_, ?_, ?_⟩
  · have expires : ⌊(1000 : Time) + (quarter.seconds : Time)⌋ = 1900 := by
      norm_num [Lifetime.seconds, quarter]
    simp [createAccessToken, roleHierarchy, expires, payload]
  · rw [Machine.exec_cons, waited]
    change ((clocked quarter).exec middle _) = _
    rw [Machine.exec_cons, taken]
    exact ran
  · norm_num
  · rw [at_last, at_middle]
    norm_num
  · rintro (expired | revoked)
    · rw [decoded] at expired
      cases expired
    · rw [unlisted] at revoked
      cases revoked
  · rw [getCurrentUser, decoded]
    simp [payload, unlisted]

end

end Auth
