import Mathlib.Data.List.MinMax
import Soc360.Auth.Flows

set_option autoImplicit false

/-! A request with two credentials, a bearer and a refresh cookie, and the users they name. -/

namespace Auth.Credentials

open Auth (RefreshToken Redis)

/-- A row of `users` joined with its tenant. -/
structure Holder where
  isActive : Bool
  isSuperadmin : Bool
  tenantId : Option TenantId
  tenantActive : Bool
  deriving DecidableEq, Repr

/-- The two stores, and the user that each access token was issued to. -/
structure Stores where
  holders : UserId → Option Holder
  tokens : Table TokenHash RefreshToken
  redis : Redis
  issuedTo : Jti → Option UserId

/-- What a validly signed and unexpired bearer says. -/
structure Claims where
  sub : UserId
  jti : Jti
  deriving DecidableEq, Repr

/-- A `refresh` or `logout` request. There is no bearer where none decodes. -/
inductive Request where
  | refresh (cookie : Option TokenHash) (bearer : Option Claims)
  | logout (cookie : Option TokenHash) (bearer : Option Claims)
  deriving DecidableEq, Repr

/-- A write to one of the stores. -/
inductive Write where
  | revokeToken (token : TokenHash) (at_ : Seconds)
  | insertToken (token : TokenHash) (row : RefreshToken)
  | denylist (jti : Jti) (ttlSeconds : Seconds)
  | untrack (user : UserId) (jti : Jti)
  | track (user : UserId) (jti : Jti)
  deriving DecidableEq, Repr

def Write.apply : Write → Stores → Stores
  | revokeToken token at_, stores => { stores with
      tokens := stores.tokens.update fun key row =>
        if key = token then some { row with revokedAt := some at_ } else none }
  | insertToken token row, stores => { stores with tokens := stores.tokens.insert token row }
  | denylist jti ttlSeconds, stores => { stores with
      redis := stores.redis.setRevoked ttlSeconds jti }
  | untrack user jti, stores => { stores with redis := stores.redis.srem user jti }
  | track user jti, stores => { stores with
      redis := stores.redis.sadd user jti
      issuedTo := Function.update stores.issuedTo jti (some user) }

/-- A write to `refresh_tokens`. -/
def Write.isRow : Write → Bool
  | revokeToken _ _ => true
  | insertToken _ _ => true
  | _ => false

/-- The user whose sessions a write concerns. -/
def Write.owner (stores : Stores) : Write → Option UserId
  | revokeToken token _ => (stores.tokens.find token).map RefreshToken.userId
  | insertToken _ row => some row.userId
  | denylist jti _ => stores.issuedTo jti
  | untrack user _ => some user
  | track user _ => some user

/-- What a request finds around it: the clocks, the health of Redis and the new random values. -/
structure Context where
  now : Seconds
  ttlSeconds : Seconds
  redisHealthy : Bool
  newToken : TokenHash
  newJti : Jti

section

variable (context : Context) (stores : Stores)

/-- `_get_active_user_by_id` and `_check_tenant_active`. -/
def Holder.admitted (holder : Holder) : Bool :=
  holder.isActive && (holder.isSuperadmin || holder.tenantActive)

/-- The oldest unrevoked token of the user, other than the one that the request has revoked. -/
def oldestToken (user : UserId) (rotated : TokenHash) : Option TokenHash :=
  (stores.tokens.keys.filter fun token => token != rotated &&
      (stores.tokens.slot token).satisfies (RefreshToken.unrevokedOf user)).argmin
    fun token => ((stores.tokens.find token).map RefreshToken.createdAt).getD 0

/-- `_create_refresh_token`, after the flush of the rotated token. -/
def createRefreshToken (user : UserId) (rotated : TokenHash) : List Write :=
  let activeCount := stores.tokens.keys.countP fun token => token != rotated &&
    (stores.tokens.slot token).satisfies (RefreshToken.activeOf context.now user)
  let evicted := if maxActiveSessions ≤ activeCount then oldestToken stores user rotated else none
  evicted.toList.map (Write.revokeToken · context.now) ++
    [.insertToken context.newToken
      ⟨user, context.now + refreshTokenExpireDays * 86400, none, context.now⟩]

/-- `refresh_tokens`. It reads `refresh_tokens` as a superadmin. -/
def refreshTokens (token : TokenHash) (oldJti : Option Jti) : List Write :=
  if context.redisHealthy = false then []
  else match (stores.tokens.find token).filter (RefreshToken.active context.now) with
    | none => []
    | some record =>
        if (stores.holders record.userId).any Holder.admitted = false then []
        else
          [.revokeToken token context.now] ++ createRefreshToken context stores record.userId token ++
            (match oldJti with
              | none => []
              | some jti =>
                  if jti = "" then []
                  else [.denylist jti context.ttlSeconds, .untrack record.userId jti]) ++
            [.track record.userId context.newJti]

/-- The row level security of `refresh_tokens` in the session of the current user. -/
def sees (user : UserId) (record : RefreshToken) : Bool :=
  (stores.holders user).any fun holder => holder.isSuperadmin ||
    holder.tenantId.any fun tenantId =>
      (stores.holders record.userId).any fun other => other.tenantId == some tenantId

/-- The SELECT of `logout`, which looks the row up by its hash alone. -/
def logoutRecord (user : UserId) (token : Option TokenHash) : Option (TokenHash × RefreshToken) :=
  token.bind fun token =>
    ((stores.tokens.find token).filter fun record =>
      record.unrevoked && sees stores user record).map fun record => (token, record)

/-- `logout`. -/
def logout (jti : Jti) (token : Option TokenHash) (user : UserId) : List Write :=
  if context.redisHealthy = false then []
  else
    [.denylist jti context.ttlSeconds, .untrack user jti] ++
      (logoutRecord stores user token).toList.map fun row => .revokeToken row.1 context.now

/-- `get_current_user`. -/
def authenticated (claims : Claims) : Bool :=
  context.redisHealthy && claims.jti != "" && !stores.redis.isTokenRevoked claims.jti &&
    (stores.holders claims.sub).any fun holder =>
      holder.isActive && (holder.isSuperadmin || holder.tenantActive && holder.tenantId.isSome)

/-- The writes of the routes. A refused request writes nothing. -/
def Request.writes : Request → List Write
  | refresh none _ => []
  | refresh (some token) bearer => refreshTokens context stores token (bearer.map Claims.jti)
  | logout _ none => []
  | logout cookie (some claims) =>
      if authenticated context stores claims then
        Credentials.logout context stores claims.jti cookie claims.sub
      else []

/-- The stores after the request. -/
def Request.serve (request : Request) : Stores :=
  (request.writes context stores).foldl (fun stores write => write.apply stores) stores

end

/-- A denylisted JTI is in no active set. -/
def Stores.Clean (stores : Stores) : Prop :=
  ∀ user jti, stores.redis.isTokenRevoked jti = true → stores.issuedTo jti = some user →
    jti ∉ stores.redis.active user

/-- A request works on the sessions of one user. -/
structure OneUser (context : Context) (stores : Stores) (request : Request) : Prop where
  single : ∃ user, (∀ write ∈ request.writes context stores, write.owner stores = some user) ∧
    ∀ other ≠ user, (request.serve context stores).redis.active other = stores.redis.active other
  left : ∀ jti ttlSeconds, .denylist jti ttlSeconds ∈ request.writes context stores →
    ∀ holder, stores.issuedTo jti = some holder →
      jti ∉ (request.serve context stores).redis.active holder
  clean : stores.Clean → (request.serve context stores).Clean

/-- Both credentials are good, and they belong to different users. -/
def Mixed (context : Context) (stores : Stores) : Request → Prop
  | .refresh cookie bearer => ∃ token record claims, cookie = some token ∧ bearer = some claims ∧
      context.redisHealthy = true ∧
      (stores.tokens.find token).filter (RefreshToken.active context.now) = some record ∧
      (stores.holders record.userId).any Holder.admitted = true ∧ claims.jti ≠ "" ∧
      claims.sub ≠ record.userId
  | .logout cookie bearer => ∃ token record claims, bearer = some claims ∧
      authenticated context stores claims = true ∧
      logoutRecord stores claims.sub cookie = some (token, record) ∧ claims.sub ≠ record.userId

def Request.bearer : Request → Option Claims
  | refresh _ bearer => bearer
  | logout _ bearer => bearer

section

variable {context : Context} {stores : Stores} {user : UserId} {writes : List Write} {jti : Jti}

theorem apply_active {write : Write} {other : UserId} {first : Stores}
    (owned : write.owner first = some user) (differ : other ≠ user) :
    (write.apply stores).redis.active other = stores.redis.active other := by
  cases write with
  | revokeToken token at_ => rfl
  | insertToken token row => rfl
  | denylist jti ttlSeconds => rfl
  | untrack holder jti =>
      cases owned
      exact Function.update_of_ne differ _ _
  | track holder jti =>
      cases owned
      exact Function.update_of_ne differ _ _

/-- Writes of one user leave the active sets of the others. -/
theorem fold_active {other : UserId} {first : Stores}
    (owned : ∀ write ∈ writes, write.owner first = some user) (differ : other ≠ user) :
    (writes.foldl (fun stores write => write.apply stores) stores).redis.active other =
      stores.redis.active other := by
  induction writes generalizing stores with
  | nil => rfl
  | cons write rest ih =>
      rw [List.foldl_cons, ih fun write member => owned write (List.mem_cons_of_mem _ member)]
      exact apply_active (owned write List.mem_cons_self) differ

/-- Writes to `refresh_tokens` leave Redis and the owners of the access tokens. -/
theorem fold_rows (rows : ∀ write ∈ writes, write.isRow = true) :
    (writes.foldl (fun stores write => write.apply stores) stores).redis = stores.redis ∧
      (writes.foldl (fun stores write => write.apply stores) stores).issuedTo =
        stores.issuedTo := by
  induction writes generalizing stores with
  | nil => exact ⟨rfl, rfl⟩
  | cons write rest ih =>
      have later := @ih (write.apply stores)
        fun write member => rows write (List.mem_cons_of_mem _ member)
      have kept : (write.apply stores).redis = stores.redis ∧
          (write.apply stores).issuedTo = stores.issuedTo := by
        have row := rows write List.mem_cons_self
        cases write with
        | revokeToken token at_ => exact ⟨rfl, rfl⟩
        | insertToken token row => exact ⟨rfl, rfl⟩
        | denylist jti ttlSeconds => cases row
        | untrack user jti => cases row
        | track user jti => cases row
      exact ⟨later.1.trans kept.1, later.2.trans kept.2⟩

theorem oldestToken_owner {rotated token : TokenHash}
    (oldest : oldestToken stores user rotated = some token) :
    ∃ record, stores.tokens.find token = some record ∧ record.userId = user := by
  have member := List.argmin_mem oldest
  rw [List.mem_filter, Bool.and_eq_true] at member
  obtain ⟨record, live, own⟩ := Slot.satisfies_iff.mp member.2.2
  rw [RefreshToken.unrevokedOf, Bool.and_eq_true, beq_iff_eq] at own
  exact ⟨record, Slot.row?_eq_some.mpr live, own.1⟩

theorem createRefreshToken_writes {rotated : TokenHash} {write : Write}
    (member : write ∈ createRefreshToken context stores user rotated) :
    write.owner stores = some user ∧ write.isRow = true := by
  rw [createRefreshToken, List.mem_append, List.mem_map, List.mem_singleton] at member
  rcases member with ⟨token, evicted, rfl⟩ | rfl
  · refine ⟨?_, rfl⟩
    rw [Option.mem_toList] at evicted
    split at evicted
    next =>
      obtain ⟨record, found, own⟩ := oldestToken_owner evicted
      rw [Write.owner, found, ← own]
      rfl
    next => cases evicted
  · exact ⟨rfl, rfl⟩

theorem OneUser.of_nil {request : Request} (idle : request.writes context stores = []) :
    OneUser context stores request := by
  have kept : request.serve context stores = stores := by
    rw [Request.serve, idle]
    rfl
  refine ⟨⟨0, ?_, ?_⟩, ?_, ?_⟩
  · intro write member
    rw [idle] at member
    cases member
  · intro other _
    rw [kept]
  · intro jti ttlSeconds member
    rw [idle] at member
    cases member
  · rw [kept]
    exact id

/-- The frame follows from the owners of the writes. -/
theorem OneUser.of_owned {request : Request}
    (owned : ∀ write ∈ request.writes context stores, write.owner stores = some user)
    (left : ∀ jti ttlSeconds, .denylist jti ttlSeconds ∈ request.writes context stores →
      jti ∉ (request.serve context stores).redis.active user)
    (clean : stores.Clean → (request.serve context stores).Clean) :
    OneUser context stores request := by
  refine ⟨⟨user, owned, fun _ differ => fold_active owned differ⟩, ?_, clean⟩
  intro jti ttlSeconds member holder issuedTo
  have own : stores.issuedTo jti = some user := owned _ member
  cases issuedTo.symm.trans own
  exact left jti ttlSeconds member

/-- The JTI of the bearer that a refresh revokes. -/
def presentedJti (bearer : Option Claims) : Option Jti := (bearer.map Claims.jti).filter (· != "")

/-- The writes of a refresh that is accepted. -/
theorem refresh_writes {token : TokenHash} {bearer : Option Claims} {record : RefreshToken}
    (healthy : context.redisHealthy = true)
    (found : (stores.tokens.find token).filter (RefreshToken.active context.now) = some record)
    (admitted : (stores.holders record.userId).any Holder.admitted = true) :
    (Request.refresh (some token) bearer).writes context stores =
      ([.revokeToken token context.now] ++ createRefreshToken context stores record.userId token) ++
        (((presentedJti bearer).toList.flatMap fun jti =>
          [.denylist jti context.ttlSeconds, .untrack record.userId jti]) ++
            [.track record.userId context.newJti]) := by
  rw [Request.writes, refreshTokens, healthy, found]
  simp only [admitted, Bool.true_eq_false, ↓reduceIte]
  rw [List.append_assoc]
  congr 1
  cases bearer with
  | none => rfl
  | some claims =>
      by_cases blank : claims.jti = ""
      · simp [presentedJti, blank]
      · have kept : presentedJti (some claims) = some claims.jti := by
          simp [presentedJti, Option.filter_some, blank]
        rw [kept]
        simp [blank]

theorem Stores.Clean.track (clean : stores.Clean)
    (unlisted : stores.redis.isTokenRevoked jti = false) :
    ((Write.track user jti).apply stores).Clean := by
  intro holder other revoked issuedTo active
  change stores.redis.isTokenRevoked other = true at revoked
  have differ : other ≠ jti := by
    rintro rfl
    rw [revoked] at unlisted
    cases unlisted
  change Function.update stores.issuedTo jti (some user) other = some holder at issuedTo
  rw [Function.update_of_ne differ] at issuedTo
  refine clean holder other revoked issuedTo ?_
  change other ∈ Function.update stores.redis.active user _ holder at active
  by_cases same : holder = user
  · subst same
    rw [Function.update_self, List.mem_insert_iff] at active
    exact active.resolve_left differ
  · rw [Function.update_of_ne same] at active
    exact active

/-- A JTI is denylisted and taken out of the set of its own user. -/
theorem Stores.Clean.revoke {ttlSeconds : Seconds} (clean : stores.Clean)
    (own : stores.issuedTo jti = some user) :
    ((Write.untrack user jti).apply ((Write.denylist jti ttlSeconds).apply stores)).Clean := by
  intro holder other revoked issuedTo active
  change (stores.redis.setRevoked ttlSeconds jti).isTokenRevoked other = true at revoked
  change stores.issuedTo other = some holder at issuedTo
  change other ∈ Function.update stores.redis.active user _ holder at active
  by_cases same : holder = user
  · subst same
    rw [Function.update_self, List.mem_filter, bne_iff_ne] at active
    rw [Redis.setRevoked_revoked, Bool.or_eq_true, decide_eq_true_iff] at revoked
    exact clean holder other (revoked.resolve_left active.2) issuedTo active.1
  · rw [Function.update_of_ne same] at active
    have differ : other ≠ jti := by
      rintro rfl
      rw [own] at issuedTo
      cases issuedTo
      exact same rfl
    rw [Redis.setRevoked_revoked, Bool.or_eq_true, decide_eq_true_iff] at revoked
    exact clean holder other (revoked.resolve_left differ) issuedTo active

/-- A refresh revokes the JTI of the user of its cookie, and the active sets stay clean. -/
theorem refresh_clean {token : TokenHash} {bearer : Option Claims} {record : RefreshToken}
    (fresh : stores.issuedTo context.newJti = none)
    (unlisted : stores.redis.isTokenRevoked context.newJti = false)
    (healthy : context.redisHealthy = true)
    (found : (stores.tokens.find token).filter (RefreshToken.active context.now) = some record)
    (admitted : (stores.holders record.userId).any Holder.admitted = true)
    (own : ∀ jti ∈ presentedJti bearer, stores.issuedTo jti = some record.userId)
    (clean : stores.Clean) :
    ((Request.refresh (some token) bearer).serve context stores).Clean := by
  rw [Request.serve, refresh_writes healthy found admitted, List.foldl_append]
  have rows : ∀ write ∈ [Write.revokeToken token context.now] ++
      createRefreshToken context stores record.userId token, write.isRow = true := by
    intro write member
    rcases List.mem_append.mp member with first | later
    · cases List.mem_singleton.mp first
      rfl
    · exact (createRefreshToken_writes later).2
  obtain ⟨redis, issued⟩ := @fold_rows stores _ rows
  generalize ([Write.revokeToken token context.now] ++
    createRefreshToken context stores record.userId token).foldl
      (fun stores write => write.apply stores) stores = rotated at *
  have clean' : rotated.Clean := by
    intro user jti
    rw [redis, issued]
    exact clean user jti
  rw [← issued] at fresh own
  rw [← redis] at unlisted
  cases presented : presentedJti bearer with
  | none => exact clean'.track unlisted
  | some old =>
      have belongs := own old presented
      have differ : context.newJti ≠ old := by
        rintro rfl
        rw [fresh] at belongs
        cases belongs
      refine (clean'.revoke belongs).track ?_
      change (rotated.redis.setRevoked context.ttlSeconds old).isTokenRevoked _ = false
      rw [Redis.setRevoked_revoked, unlisted, decide_eq_false differ]
      rfl

/-- A JTI that is taken out of a set stays out, whatever others are put in. -/
theorem untrack_track {other : Jti} (differ : jti ≠ other) :
    jti ∉ ((Write.track user other).apply ((Write.untrack user jti).apply stores)).redis.active
      user := by
  simp [Write.apply, Redis.srem, Redis.sadd, differ]

theorem refresh_left {token : TokenHash} {bearer : Option Claims} {record : RefreshToken}
    {ttlSeconds : Seconds} (fresh : stores.issuedTo context.newJti = none)
    (healthy : context.redisHealthy = true)
    (found : (stores.tokens.find token).filter (RefreshToken.active context.now) = some record)
    (admitted : (stores.holders record.userId).any Holder.admitted = true)
    (own : ∀ jti ∈ presentedJti bearer, stores.issuedTo jti = some record.userId)
    (member : .denylist jti ttlSeconds ∈
      (Request.refresh (some token) bearer).writes context stores) :
    jti ∉ ((Request.refresh (some token) bearer).serve context stores).redis.active
      record.userId := by
  have presented : presentedJti bearer = some jti := by
    rw [refresh_writes healthy found admitted] at member
    rcases List.mem_append.mp member with rows | rest
    · rcases List.mem_append.mp rows with first | created
      · cases List.mem_singleton.mp first
      · cases (createRefreshToken_writes created).2
    · rcases List.mem_append.mp rest with old | tracked
      · obtain ⟨old, presented, member⟩ := List.mem_flatMap.mp old
        rcases List.mem_cons.mp member with same | second
        · cases same
          exact Option.mem_toList.mp presented
        · cases List.mem_singleton.mp second
      · cases List.mem_singleton.mp tracked
  have differ : jti ≠ context.newJti := by
    rintro rfl
    have belongs := own _ presented
    rw [fresh] at belongs
    cases belongs
  rw [Request.serve, refresh_writes healthy found admitted, List.foldl_append, presented]
  exact untrack_track differ

theorem presentedJti_some {bearer : Option Claims} (presented : presentedJti bearer = some jti) :
    ∃ claims, bearer = some claims ∧ claims.jti = jti ∧ jti ≠ "" := by
  obtain ⟨mapped, nonempty⟩ := Option.filter_eq_some_iff.mp presented
  obtain ⟨claims, given, same⟩ := Option.map_eq_some_iff.mp mapped
  exact ⟨claims, given, same, by simpa using nonempty⟩

theorem refresh_owned {token : TokenHash} {bearer : Option Claims} {record : RefreshToken}
    (healthy : context.redisHealthy = true)
    (found : (stores.tokens.find token).filter (RefreshToken.active context.now) = some record)
    (admitted : (stores.holders record.userId).any Holder.admitted = true)
    (own : ∀ jti ∈ presentedJti bearer, stores.issuedTo jti = some record.userId) :
    ∀ write ∈ (Request.refresh (some token) bearer).writes context stores,
      write.owner stores = some record.userId := by
  intro write member
  rw [refresh_writes healthy found admitted] at member
  rcases List.mem_append.mp member with rows | rest
  · rcases List.mem_append.mp rows with first | created
    · cases List.mem_singleton.mp first
      rw [Write.owner, (Option.filter_eq_some_iff.mp found).1]
      rfl
    · exact (createRefreshToken_writes created).1
  · rcases List.mem_append.mp rest with old | tracked
    · obtain ⟨jti, presented, member⟩ := List.mem_flatMap.mp old
      have belongs := own jti (Option.mem_toList.mp presented)
      rcases List.mem_cons.mp member with rfl | second
      · exact belongs
      · cases List.mem_singleton.mp second
        rfl
    · cases List.mem_singleton.mp tracked
      rfl

/-- A refresh works on the sessions of one user unless bearer and cookie belong to different
ones. -/
theorem refresh_oneUser_iff {cookie : Option TokenHash} {bearer : Option Claims}
    (signed : ∀ claims ∈ bearer, stores.issuedTo claims.jti = some claims.sub)
    (fresh : stores.issuedTo context.newJti = none)
    (unlisted : stores.redis.isTokenRevoked context.newJti = false) :
    OneUser context stores (.refresh cookie bearer) ↔
      ¬ Mixed context stores (.refresh cookie bearer) := by
  cases cookie with
  | none =>
      refine iff_of_true (.of_nil rfl) ?_
      rintro ⟨_, _, _, absent, _⟩
      cases absent
  | some token =>
      by_cases healthy : context.redisHealthy = true
      · cases found : (stores.tokens.find token).filter (RefreshToken.active context.now) with
        | none =>
            refine iff_of_true (.of_nil ?_) ?_
            · rw [Request.writes, refreshTokens, healthy, found]
              rfl
            · rintro ⟨_, _, _, given, _, _, found', _⟩
              cases given
              rw [found] at found'
              cases found'
        | some record =>
            by_cases admitted : (stores.holders record.userId).any Holder.admitted = true
            · by_cases own : ∀ jti ∈ presentedJti bearer, stores.issuedTo jti = some record.userId
              · refine iff_of_true (.of_owned (refresh_owned healthy found admitted own)
                  (fun _ _ => refresh_left fresh healthy found admitted own)
                  (refresh_clean fresh unlisted healthy found admitted own)) ?_
                rintro ⟨_, other, claims, given, rfl, _, found', _, nonempty, differ⟩
                cases given
                cases found.symm.trans found'
                have presented : presentedJti (some claims) = some claims.jti :=
                  Option.filter_eq_some_iff.mpr ⟨rfl, by simpa using nonempty⟩
                have belongs := own claims.jti presented
                rw [signed claims rfl, Option.some.injEq] at belongs
                exact differ belongs
              · obtain ⟨jti, presented, foreign⟩ : ∃ jti ∈ presentedJti bearer,
                    stores.issuedTo jti ≠ some record.userId := by
                  simpa only [not_forall, exists_prop] using own
                obtain ⟨claims, rfl, rfl, nonempty⟩ := presentedJti_some presented
                rw [signed claims rfl, ne_eq, Option.some.injEq] at foreign
                refine iff_of_false ?_ (not_not.mpr
                  ⟨token, record, claims, rfl, rfl, healthy, found, admitted, nonempty, foreign⟩)
                rintro ⟨⟨user, owned, _⟩, _, _⟩
                rw [refresh_writes healthy found admitted] at owned
                have first := owned (.revokeToken token context.now) (by simp)
                have second := owned (.denylist claims.jti context.ttlSeconds) (by
                  rw [presented]
                  simp)
                rw [Write.owner, (Option.filter_eq_some_iff.mp found).1] at first
                rw [Write.owner, signed claims rfl] at second
                exact foreign (Option.some.inj (second.trans first.symm))
            · refine iff_of_true (.of_nil ?_) ?_
              · rw [Request.writes, refreshTokens, healthy, found]
                simp [admitted]
              · rintro ⟨_, _, _, given, _, _, found', admitted', _⟩
                cases given
                rw [found] at found'
                cases found'
                exact admitted admitted'
      · refine iff_of_true (.of_nil ?_) ?_
        · rw [Bool.not_eq_true] at healthy
          rw [Request.writes, refreshTokens, healthy]
          rfl
        · rintro ⟨_, _, _, _, _, healthy', _⟩
          exact healthy healthy'

theorem logout_writes {cookie : Option TokenHash} {claims : Claims}
    (passed : authenticated context stores claims = true) :
    (Request.logout cookie (some claims)).writes context stores =
      [.denylist claims.jti context.ttlSeconds, .untrack claims.sub claims.jti] ++
        (logoutRecord stores claims.sub cookie).toList.map fun row =>
          .revokeToken row.1 context.now := by
  have healthy : ¬ context.redisHealthy = false := by
    rw [authenticated, Bool.and_eq_true, Bool.and_eq_true, Bool.and_eq_true] at passed
    simp [passed.1.1.1]
  rw [Request.writes, if_pos passed]
  exact if_neg healthy

theorem logoutRecord_found {cookie : Option TokenHash} {row : TokenHash × RefreshToken}
    (selected : logoutRecord stores user cookie = some row) :
    stores.tokens.find row.1 = some row.2 := by
  obtain ⟨token, _, selected⟩ := Option.bind_eq_some_iff.mp selected
  obtain ⟨record, found, rfl⟩ := Option.map_eq_some_iff.mp selected
  exact (Option.filter_eq_some_iff.mp found).1

theorem logout_clean {cookie : Option TokenHash} {claims : Claims}
    (signed : stores.issuedTo claims.jti = some claims.sub)
    (passed : authenticated context stores claims = true) (clean : stores.Clean) :
    ((Request.logout cookie (some claims)).serve context stores).Clean := by
  rw [Request.serve, logout_writes passed, List.foldl_append]
  have revoked : ((Write.untrack claims.sub claims.jti).apply
      ((Write.denylist claims.jti context.ttlSeconds).apply stores)).Clean := clean.revoke signed
  have rows : ∀ write ∈ (logoutRecord stores claims.sub cookie).toList.map fun row =>
      Write.revokeToken row.1 context.now, write.isRow = true := by
    intro write member
    obtain ⟨row, _, rfl⟩ := List.mem_map.mp member
    rfl
  intro user jti
  obtain ⟨redis, issued⟩ := @fold_rows ((Write.untrack claims.sub claims.jti).apply
    ((Write.denylist claims.jti context.ttlSeconds).apply stores)) _ rows
  rw [List.foldl_cons, List.foldl_cons, List.foldl_nil, redis, issued]
  exact revoked user jti

theorem logout_left {cookie : Option TokenHash} {claims : Claims} {ttlSeconds : Seconds}
    (passed : authenticated context stores claims = true)
    (member : .denylist jti ttlSeconds ∈
      (Request.logout cookie (some claims)).writes context stores) :
    jti ∉ ((Request.logout cookie (some claims)).serve context stores).redis.active
      claims.sub := by
  have same : jti = claims.jti := by
    rw [logout_writes passed, List.mem_append, List.mem_map] at member
    rcases member with session | ⟨row, _, same⟩
    · rcases List.mem_cons.mp session with same | second
      · cases same
        rfl
      · cases List.mem_singleton.mp second
    · cases same
  subst same
  rw [Request.serve, logout_writes passed, List.foldl_append]
  have rows : ∀ write ∈ (logoutRecord stores claims.sub cookie).toList.map fun row =>
      Write.revokeToken row.1 context.now, write.isRow = true := by
    intro write member
    obtain ⟨row, _, rfl⟩ := List.mem_map.mp member
    rfl
  obtain ⟨redis, _⟩ := @fold_rows ((Write.untrack claims.sub claims.jti).apply
    ((Write.denylist claims.jti context.ttlSeconds).apply stores)) _ rows
  rw [List.foldl_cons, List.foldl_cons, List.foldl_nil, redis]
  simp [Write.apply, Redis.srem]

/-- A logout works on the sessions of one user unless bearer and cookie belong to different ones. -/
theorem logout_oneUser_iff {cookie : Option TokenHash} {bearer : Option Claims}
    (signed : ∀ claims ∈ bearer, stores.issuedTo claims.jti = some claims.sub) :
    OneUser context stores (.logout cookie bearer) ↔
      ¬ Mixed context stores (.logout cookie bearer) := by
  cases bearer with
  | none =>
      refine iff_of_true (.of_nil rfl) ?_
      rintro ⟨_, _, _, absent, _⟩
      cases absent
  | some claims =>
      have own := signed claims rfl
      by_cases passed : authenticated context stores claims = true
      · have first : (Write.denylist claims.jti context.ttlSeconds).owner stores =
            some claims.sub := own
        have second : (Write.untrack claims.sub claims.jti).owner stores = some claims.sub := rfl
        by_cases same : ∀ row ∈ logoutRecord stores claims.sub cookie, row.2.userId = claims.sub
        · have clean : stores.Clean →
              ((Request.logout cookie (some claims)).serve context stores).Clean :=
            logout_clean own passed
          refine iff_of_true (.of_owned ?_ (fun _ _ => logout_left passed) clean) ?_
          · intro write member
            rw [logout_writes passed, List.mem_append, List.mem_map] at member
            rcases member with session | ⟨row, selected, rfl⟩
            · rcases List.mem_cons.mp session with rfl | last
              · exact first
              · cases List.mem_singleton.mp last
                exact second
            · rw [Option.mem_toList] at selected
              rw [Write.owner, logoutRecord_found selected, ← same row selected]
              rfl
          · rintro ⟨token, record, _, given, _, selected, differ⟩
            cases given
            exact differ (same _ selected).symm
        · obtain ⟨⟨token, record⟩, selected, foreign⟩ : ∃ row ∈ logoutRecord stores claims.sub cookie,
              row.2.userId ≠ claims.sub := by
            simpa only [not_forall, exists_prop] using same
          refine iff_of_false ?_ (not_not.mpr
            ⟨token, record, claims, rfl, passed, selected, foreign.symm⟩)
          rintro ⟨⟨user, owned, _⟩, _, _⟩
          rw [logout_writes passed] at owned
          have denylisted := owned (.denylist claims.jti context.ttlSeconds) (by simp)
          have revoked := owned (.revokeToken token context.now) (by
            rw [Option.mem_def.mp selected]
            simp)
          rw [Write.owner, logoutRecord_found selected] at revoked
          exact foreign (Option.some.inj (revoked.trans (denylisted.symm.trans first)))
      · refine iff_of_true (.of_nil ?_) ?_
        · rw [Request.writes, if_neg passed]
        · rintro ⟨_, _, _, given, passed', _⟩
          cases given
          exact passed passed'

/-- A session request touches the sessions of one user, unless its bearer and its cookie are both
good and belong to different users. -/
theorem session_oneUser_iff (request : Request)
    (signed : ∀ claims ∈ request.bearer, stores.issuedTo claims.jti = some claims.sub)
    (fresh : stores.issuedTo context.newJti = none)
    (unlisted : stores.redis.isTokenRevoked context.newJti = false) :
    OneUser context stores request ↔ ¬ Mixed context stores request := by
  cases request with
  | refresh cookie bearer => exact refresh_oneUser_iff signed fresh unlisted
  | logout cookie bearer => exact logout_oneUser_iff signed

/-- Two active users of one tenant, each with a session. -/
def colleagues : Stores where
  holders user := if user ≤ 2 then some ⟨true, false, some 1, true⟩ else none
  tokens := (Table.empty.insert 11 ⟨1, 1000, none, 0⟩).insert 22 ⟨2, 1000, none, 0⟩
  redis := (Redis.empty.sadd 1 "jti-a").sadd 2 "jti-b"
  issuedTo jti := if jti = "jti-a" then some 1 else if jti = "jti-b" then some 2 else none

def morning : Context := ⟨100, 900, true, 33, "jti-c"⟩

theorem session_oneUser_colleague :
    OneUser morning colleagues (.refresh (some 11) (some ⟨1, "jti-a"⟩)) := by
  refine (session_oneUser_iff _ ?_ ?_ ?_).mpr ?_
  · intro claims given
    cases given
    decide
  · decide
  · decide
  · rintro ⟨token, record, claims, given, bearer, _, found, _, _, differ⟩
    cases given
    cases bearer
    cases found
    exact differ rfl

/-- The cookie of user 1 with the bearer of user 2: the session of user 2 is denylisted, and stays in
its set. -/
theorem foreign_bearer_revoked :
    ¬ OneUser morning colleagues (.refresh (some 11) (some ⟨2, "jti-b"⟩)) := by
  intro oneUser
  have stays := oneUser.left "jti-b" 900 (by decide) 2 (by decide)
  revert stays
  decide

end

end Auth.Credentials
