import Mathlib.Data.List.MinMax
import Soc360.Auth.Flows
import Soc360.Auth.RateLimit
import Soc360.Store.Scoped
import Soc360.Store.UnitOfWork
import Soc360.Text.Python

set_option autoImplicit false

/-! A login with its event and the transaction that encloses it. -/

namespace Auth.Logins

open RateLimit (loginAttemptsMax)
open UnitOfWork (Act Desk Work appended)

abbrev Email := String

/-- A row of `users` joined with the id and the `is_active` of its tenant. -/
structure User where
  email : Email
  hashedPassword : String
  isActive : Bool
  isSuperadmin : Bool
  tenant : Option (TenantId × Bool)
  lastLoginAt : Option Seconds
  deriving DecidableEq, Repr

/-- A row of `refresh_tokens` under its `token_hash`. -/
structure Session extends RefreshToken where
  createdFromIp : Option String
  deriving DecidableEq, Repr

structure Accounts where
  users : Table UserId User
  tokens : Table TokenHash Session

/-- `AuthSuperadminLoginEvent` and `AuthLoginEvent`, without the fields that are drawn anew. -/
structure LoginEvent where
  superadmin : Bool
  tenantId : Option TenantId
  userId : UserId
  emailHash : Option String
  ipPrefix : Option String
  userAgent : Option String
  deriving DecidableEq, Repr

def LoginEvent.eventType (event : LoginEvent) : String :=
  if event.superadmin then "system.auth.login" else "auth.login"

/-- Library functions: the verification of a password, `_DUMMY_PASSWORD_HASH`, the SHA-256 of a
text, the network of an address as `mask_ip` writes it, and what the driver takes for an INET. -/
structure Library where
  verify : String → String → Bool
  dummyPasswordHash : String
  sha256 : String → String
  network : String → Option String
  isInet : String → Bool

/-- `unavailable` is `ServiceUnavailableError`, `credentials` the `AuthError` of a login, `outage`
a `RedisOutageError`, `cancelled` a `CancelledError` and `broken` an error of the database. -/
inductive Raised where
  | unavailable
  | credentials
  | outage
  | cancelled
  | broken
  deriving DecidableEq, Repr

/-- What becomes of the SELECT of the advisory lock. -/
inductive LockReply where
  | acquired
  | timeout
  | failed
  deriving DecidableEq, Repr

/-- What becomes of one XADD, and whether the event is on the stream where it is not confirmed. -/
inductive Attempt where
  | returned
  | outage (taken : Bool)
  | cancelled (taken : Bool)
  deriving DecidableEq, Repr

def Attempt.fate : Attempt → Fate
  | returned => .ok
  | outage taken => if taken then .lost else .failed
  | cancelled taken => if taken then .lost else .failed

def Attempt.raised : Attempt → Raised
  | cancelled _ => .cancelled
  | _ => .outage

/-- A call of `login` with the random token hash that it draws and with what becomes of its
statements and of those of the transaction that encloses it. `attempts` is the reply of Redis to
`_check_account_lockout`. -/
structure Call where
  email : Email
  password : String
  requestIp : Option String
  userAgent : Option String
  now : Seconds
  token : TokenHash
  healthy : Bool
  context : Fate
  attempts : Option (Option Nat)
  lookup : Fate
  track : Fate
  lockTimeout : Fate
  lock : LockReply
  touch : Fate
  count : Fate
  oldest : Fate
  first : Attempt
  second : Attempt
  evict : Fate
  insert : Fate
  commit : Fate

/-- The control characters that become spaces. -/
def isReplaced (char : Char) : Bool :=
  char.toNat ≤ 0x08 || char.toNat = 0x0b || char.toNat = 0x0c ||
    0x0e ≤ char.toNat && char.toNat ≤ 0x1f || char.toNat = 0x7f

/-- `sanitize_user_agent`. -/
def sanitizeUserAgent : Option String → Option String
  | none => none
  | some userAgent =>
      let cleaned := userAgent.toList.map fun char => if isReplaced char then ' ' else char
      let cleaned := Python.sub (Python.runOf Python.isSpace 1) (fun _ => [' ']) cleaned
      let cleaned := Python.strip cleaned
      if cleaned = [] then none else some (String.ofList (cleaned.take 256))

section

variable (library : Library)

/-- `hash_email`. -/
def hashEmail (email : Email) : Option String :=
  if email = "" then none else some (String.ofList ((library.sha256 email).toList.take 32))

/-- `mask_ip`. -/
def maskIp : Option String → Option String
  | none => none
  | some ipAddress =>
      if ipAddress = "" then none else some ((library.network ipAddress).getD ipAddress)

end

namespace Accounts

variable (accounts : Accounts)

/-- The user of `_get_active_user`. -/
def activeUser (email : Email) : Option (UserId × User) :=
  (accounts.users.rows fun _ row => row.email == email).head?.filter fun found => found.2.isActive

def activeCount (now : Seconds) (user : UserId) : Nat :=
  accounts.tokens.count fun row => row.toRefreshToken.activeOf now user

def oldestToken (user : UserId) : Option TokenHash :=
  ((accounts.tokens.rows fun _ row => row.toRefreshToken.unrevokedOf user).argmin
    fun found => found.2.createdAt).map Prod.fst

def touch (user : UserId) (now : Seconds) : Accounts :=
  { accounts with users := accounts.users.update fun key row =>
      if key = user then some { row with lastLoginAt := some now } else none }

def revoke (token : TokenHash) (now : Seconds) : Accounts :=
  { accounts with tokens := accounts.tokens.update fun key row =>
      if key = token then some { row with revokedAt := some now } else none }

/-- The INSERT of a session: its address is an INET, and its hash is new. -/
def insert (library : Library) (token : TokenHash) (row : Session) : Except Raised Accounts :=
  if row.createdFromIp.all library.isInet && (accounts.tokens.find token).isNone then
    .ok { accounts with tokens := accounts.tokens.insert token row }
  else .error .broken

end Accounts

abbrev Login (Value : Type) : Type := Work Accounts LoginEvent Raised Value

section

variable (library : Library) (call : Call)

def check (passes : Bool) (error : Raised) : Login Unit :=
  .lift (if passes then .ok () else .error error)

/-- A statement that changes nothing. -/
def select (fate : Fate) : Login Unit := .refresh fate .broken

/-- `_check_account_lockout`. -/
def checkAccountLockout : Login Unit :=
  check (call.attempts.any fun attempts => attempts.all (· < loginAttemptsMax)) .credentials

/-- `_check_tenant_active`. -/
def checkTenantActive (user : User) : Login Unit :=
  check (user.isSuperadmin || user.tenant.any Prod.snd) .credentials

/-- `_acquire_session_cap_lock`. -/
def acquireSessionCapLock : Login Unit := do
  select call.lockTimeout
  match call.lock with
  | .acquired => return ()
  | .timeout => Work.lift (.error .unavailable)
  | .failed => Work.lift (.error .broken)

/-- `_create_refresh_token`: the token to evict. The first SELECT flushes `last_login_at`; the
UPDATE of the evicted token and the INSERT of the new one wait for the end of the transaction. -/
def createRefreshToken (user : UserId) : Login (Option TokenHash) := do
  acquireSessionCapLock call
  Work.flush call.touch .broken fun accounts => .ok (accounts.touch user call.now)
  select call.count
  let accounts ← Work.read
  if accounts.activeCount call.now user < maxActiveSessions then return none
  else do
    select call.oldest
    return accounts.oldestToken user

/-- `login` up to its event. The counters of the failed attempts, which it writes on a best-effort
basis, are those of no later step. -/
def openSession : Login (UserId × User × Option TokenHash) := do
  check call.healthy .unavailable
  select call.context
  checkAccountLockout call
  select call.lookup
  let accounts ← Work.read
  let found := accounts.activeUser call.email
  let passwordHash := (found.map fun found => found.2.hashedPassword).getD
    library.dummyPasswordHash
  let passwordOk := library.verify call.password passwordHash
  match found with
  | none => Work.lift (.error .credentials)
  | some (userId, user) => do
      check passwordOk .credentials
      checkTenantActive user
      Work.lift (call.track.branch (.ok ()) (.error .outage))
      let evicted ← createRefreshToken call userId
      return (userId, user, evicted)

def loginEvent (userId : UserId) (user : User) : LoginEvent where
  superadmin := user.isSuperadmin
  tenantId := if user.isSuperadmin then none else user.tenant.map Prod.fst
  userId := userId
  emailHash := hashEmail library user.email
  ipPrefix := maskIp library call.requestIp
  userAgent := sanitizeUserAgent call.userAgent

def newSession (userId : UserId) : Session where
  userId := userId
  expiresAt := call.now + refreshTokenExpireDays * 86400
  revokedAt := none
  createdAt := call.now
  createdFromIp := call.requestIp

def publish (attempt : Attempt) (event : LoginEvent) : Login Unit :=
  .publish attempt.fate attempt.raised event

/-- The event of a login: one retry after an outage, and every error but a cancellation is left
behind. -/
def publishLogin (event : LoginEvent) : Login Unit :=
  ((publish call.first event).handle fun error =>
      if error = .outage then publish call.second event else Work.lift (.error error)).handle
    fun error => if error = .cancelled then Work.lift (.error error) else return ()

/-- `login`. -/
def login : Login (Option TokenHash × Session) := do
  let (userId, user, evicted) ← openSession library call
  publishLogin call (loginEvent library call userId user)
  return (evicted, newSession call userId)

def flushEvicted (evicted : Option TokenHash) : Login Unit :=
  match evicted with
  | none => return ()
  | some oldest => Work.flush call.evict .broken fun accounts => .ok (accounts.revoke oldest call.now)

/-- The flush before the commit. -/
def flushSession (evicted : Option TokenHash) (row : Session) : Login Unit := do
  flushEvicted call evicted
  Work.flush call.insert .broken fun accounts => accounts.insert library call.token row

/-- A request of `get_db`: the transaction is committed after the call has returned. -/
def request : Login Unit := do
  let (evicted, row) ← login library call
  flushSession library call evicted row
  Work.commit call.commit .broken

end

/-- Whether the event is on the stream after the attempt. -/
def Attempt.taken : Attempt → Bool
  | returned => true
  | outage taken => taken
  | cancelled taken => taken

def Attempt.isCancelled : Attempt → Bool
  | cancelled _ => true
  | _ => false

namespace Call

variable (library : Library) (accounts : Accounts) (call : Call)

/-- How many times the attempts put the event on the stream. -/
def delivered : Nat :=
  match call.first with
  | .outage taken => taken.toNat + call.second.taken.toNat
  | first => first.taken.toNat

/-- Whether a cancellation ends the publishing. -/
def cancelled : Bool :=
  match call.first with
  | .outage _ => call.second.isCancelled
  | first => first.isCancelled

/-- The login comes to its event. -/
structure Admits (userId : UserId) (user : User) : Prop where
  healthy : call.healthy = true
  context : call.context = .ok
  attempts : (call.attempts.any fun attempts => attempts.all (· < loginAttemptsMax)) = true
  lookup : call.lookup = .ok
  found : accounts.activeUser call.email = some (userId, user)
  password : library.verify call.password user.hashedPassword = true
  tenant : (user.isSuperadmin || user.tenant.any Prod.snd) = true
  track : call.track = .ok
  lockTimeout : call.lockTimeout = .ok
  lock : call.lock = .acquired
  touch : call.touch = .ok
  count : call.count = .ok
  oldest : maxActiveSessions ≤ accounts.activeCount call.now userId → call.oldest = .ok

/-- The session to evict. -/
def evicted (userId : UserId) : Option TokenHash :=
  if accounts.activeCount call.now userId < maxActiveSessions then none
  else accounts.oldestToken userId

/-- The transaction ends with the token of the login in it. -/
structure Persists (userId : UserId) : Prop where
  address : call.requestIp.all library.isInet = true
  unused : accounts.tokens.find call.token = none
  evict : (call.evicted accounts userId).isSome → call.evict = .ok
  insert : call.insert = .ok
  commit : call.commit ≠ .failed

end Call

section

variable (library : Library) (accounts : Accounts) (call : Call)

/-- The desk after a request on the committed `accounts`. -/
def afterRequest : Desk Accounts LoginEvent := (request library call (.start accounts)).2

/-- The events of the request. -/
def announced : List LoginEvent := appended (afterRequest library accounts call).acts

/-- The request has committed the refresh token of its login. -/
def Committed : Prop :=
  accounts.tokens.find call.token = none ∧
    ((afterRequest library accounts call).committed.tokens.find call.token).isSome

/-- A login event means a login happened, and a committed login has one event at most. -/
def Lawful : Prop :=
  (announced library accounts call ≠ [] → Committed library accounts call) ∧
    (Committed library accounts call → (announced library accounts call).length ≤ 1)

end

section

variable {library : Library} {accounts : Accounts} {call : Call} {given : Unit}
  {desk after : Desk Accounts LoginEvent}

theorem check_eq_ok {passes : Bool} {error : Raised} :
    check passes error desk = (.ok given, after) ↔ passes = true ∧ desk = after := by
  cases passes with
  | false => simp [check, Work.lift]
  | true => simp [check, Work.lift]

theorem select_eq_ok {fate : Fate} :
    select fate desk = (.ok given, after) ↔ fate = .ok ∧ desk.record (.refresh .ok) = after :=
  Work.refresh_eq_ok

theorem flush_eq_ok {fate : Fate} {change : Accounts → Accounts} :
    (Work.flush fate .broken fun accounts => .ok (change accounts) : Login Unit) desk =
        (.ok given, after) ↔
      fate = .ok ∧ { desk.record (.flush .ok) with working := change desk.working } = after := by
  simp [Work.flush_eq_ok]

theorem acquireSessionCapLock_eq_ok :
    acquireSessionCapLock call desk = (.ok given, after) ↔
      call.lockTimeout = .ok ∧ call.lock = .acquired ∧ desk.record (.refresh .ok) = after := by
  constructor
  · intro returned
    obtain ⟨_, middle, selected, locked⟩ := Work.bind_eq_ok.mp returned
    obtain ⟨timeout, rfl⟩ := select_eq_ok.mp selected
    cases lock : call.lock with
    | acquired =>
        simp only [lock] at locked
        cases locked
        exact ⟨timeout, rfl, rfl⟩
    | timeout =>
        simp only [lock] at locked
        cases locked
    | failed =>
        simp only [lock] at locked
        cases locked
  · rintro ⟨timeout, lock, rfl⟩
    refine Work.bind_eq_ok.mpr ⟨(), _, select_eq_ok.mpr ⟨timeout, rfl⟩, ?_⟩
    simp only [lock]
    rfl

/-- The statements of `_create_refresh_token`. -/
def selects (call : Call) (accounts : Accounts) (userId : UserId) :
    List (Act Accounts LoginEvent) :=
  [.refresh .ok, .flush .ok, .refresh .ok] ++
    if accounts.activeCount call.now userId < maxActiveSessions then [] else [.refresh .ok]

theorem evict_eq_ok {userId : UserId} {evicted : Option TokenHash} :
    (if accounts.activeCount call.now userId < maxActiveSessions then return none
      else do
        select call.oldest
        return accounts.oldestToken userId : Login (Option TokenHash)) desk = (.ok evicted, after) ↔
      (maxActiveSessions ≤ accounts.activeCount call.now userId → call.oldest = .ok) ∧
      call.evicted accounts userId = evicted ∧
      { desk with acts := desk.acts ++
          if accounts.activeCount call.now userId < maxActiveSessions then []
          else [.refresh .ok] } = after := by
  by_cases room : accounts.activeCount call.now userId < maxActiveSessions
  · have nothing : ¬ maxActiveSessions ≤ accounts.activeCount call.now userId := by omega
    simp [room, nothing, Work.pure_eq_ok, Call.evicted]
  · have full : maxActiveSessions ≤ accounts.activeCount call.now userId := by omega
    simp [room, full, Work.bind_eq_ok, select_eq_ok, Work.pure_eq_ok, Call.evicted, and_assoc,
      Desk.record]

theorem createRefreshToken_eq_ok {userId : UserId} {evicted : Option TokenHash} :
    createRefreshToken call userId desk = (.ok evicted, after) ↔
      call.lockTimeout = .ok ∧ call.lock = .acquired ∧ call.touch = .ok ∧ call.count = .ok ∧
      (maxActiveSessions ≤ desk.working.activeCount call.now userId → call.oldest = .ok) ∧
      call.evicted desk.working userId = evicted ∧
      { desk with working := desk.working.touch userId call.now,
                  acts := desk.acts ++ selects call desk.working userId } = after := by
  have same : (desk.working.touch userId call.now).activeCount call.now userId =
      desk.working.activeCount call.now userId := rfl
  have evicts : call.evicted (desk.working.touch userId call.now) userId =
      call.evicted desk.working userId := rfl
  simp [createRefreshToken, Work.bind_eq_ok, acquireSessionCapLock_eq_ok, flush_eq_ok,
    select_eq_ok, Work.read_eq_ok, evict_eq_ok, selects, and_assoc, Desk.record, same, evicts]

theorem track_eq_ok {fate : Fate} :
    (Work.lift (fate.branch (.ok ()) (.error .outage)) : Login Unit) desk = (.ok given, after) ↔
      fate = .ok ∧ desk = after := by
  cases fate with
  | ok => simp [Work.lift]
  | failed => simp [Work.lift, Fate.branch]
  | lost => simp [Work.lift, Fate.branch]

/-- A login comes to its event on the inputs that admit it. -/
theorem openSession_eq_ok {userId : UserId} {user : User} {evicted : Option TokenHash} :
    openSession library call (.start accounts) = (.ok (userId, user, evicted), after) ↔
      call.Admits library accounts userId user ∧ call.evicted accounts userId = evicted ∧
      ⟨accounts, accounts.touch userId call.now,
        [.refresh .ok, .refresh .ok] ++ selects call accounts userId⟩ = after := by
  cases found : accounts.activeUser call.email with
  | none =>
      have unmatched : ¬ call.Admits library accounts userId user := by
        intro admits
        cases found.symm.trans admits.found
      simp [openSession, Work.bind_eq_ok, check_eq_ok, select_eq_ok, checkAccountLockout,
        Work.read_eq_ok, Desk.record, Desk.start, found, Work.lift, unmatched]
  | some row =>
      simp only [openSession, checkAccountLockout, checkTenantActive, Desk.start, Work.bind_eq_ok,
        check_eq_ok, select_eq_ok, Desk.record, Work.read_eq_ok, and_assoc, exists_and_left,
        ↓existsAndEq, true_and, exists_eq_left', exists_const, List.append_assoc,
        List.cons_append, List.nil_append, found, Option.map_some, Option.getD_some,
        track_eq_ok, createRefreshToken_eq_ok, Work.pure_eq_ok, Prod.mk.injEq]
      constructor
      · rintro ⟨healthy, context, attempts, lookup, password, tenant, track, lockTimeout, lock,
          touch, count, oldest, rfl, rfl, evicts, ends⟩
        exact ⟨⟨healthy, context, attempts, lookup, found, password, tenant, track, lockTimeout,
          lock, touch, count, oldest⟩, evicts, ends⟩
      · rintro ⟨admits, evicts, ends⟩
        have same : row = (userId, user) := Option.some.inj (found.symm.trans admits.found)
        subst same
        exact ⟨admits.healthy, admits.context, admits.attempts, admits.lookup, admits.password,
          admits.tenant, admits.track, admits.lockTimeout, admits.lock, admits.touch,
          admits.count, admits.oldest, rfl, rfl, evicts, ends⟩

theorem check_quiet {passes : Bool} {error : Raised} : (check passes error).Quiet := .lift

theorem select_quiet {fate : Fate} : (select fate).Quiet := .refresh

theorem acquireSessionCapLock_quiet : (acquireSessionCapLock call).Quiet := by
  refine .bind select_quiet fun _ => ?_
  cases call.lock with
  | acquired => exact .lift
  | timeout => exact .lift
  | failed => exact .lift

theorem createRefreshToken_quiet {userId : UserId} : (createRefreshToken call userId).Quiet := by
  refine .bind acquireSessionCapLock_quiet fun _ => ?_
  refine .bind .flush fun _ => ?_
  refine .bind select_quiet fun _ => ?_
  refine .bind .read fun accounts => ?_
  split
  · exact .lift
  · exact .bind select_quiet fun _ => .lift

/-- A login commits nothing, and publishes nothing before its event. -/
theorem openSession_quiet : (openSession library call).Quiet := by
  refine .bind check_quiet fun _ => ?_
  refine .bind select_quiet fun _ => ?_
  refine .bind check_quiet fun _ => ?_
  refine .bind select_quiet fun _ => ?_
  refine .bind .read fun accounts => ?_
  cases accounts.activeUser call.email with
  | none => exact .lift
  | some row =>
      refine .bind check_quiet fun _ => ?_
      refine .bind check_quiet fun _ => ?_
      refine .bind .lift fun _ => ?_
      exact .bind createRefreshToken_quiet fun _ => .lift

theorem appended_publish {attempt : Attempt} {event : LoginEvent} :
    appended ([.publish event attempt.fate] : List (Act Accounts LoginEvent)) =
      List.replicate attempt.taken.toNat event := by
  cases attempt with
  | returned => rfl
  | outage taken => cases taken with
    | false => rfl
    | true => rfl
  | cancelled taken => cases taken with
    | false => rfl
    | true => rfl

theorem publish_returned {event : LoginEvent} :
    publish .returned event desk =
      (.ok (), desk.record (.publish event Attempt.returned.fate)) := rfl

theorem publish_failed {attempt : Attempt} {event : LoginEvent} (failed : attempt ≠ .returned) :
    publish attempt event desk =
      (.error attempt.raised, desk.record (.publish event attempt.fate)) := by
  cases attempt with
  | returned => exact absurd rfl failed
  | outage taken => cases taken with
    | false => rfl
    | true => rfl
  | cancelled taken => cases taken with
    | false => rfl
    | true => rfl

/-- What publishing puts on the stream, and whether the login goes on after it. -/
theorem publishLogin_eq {event : LoginEvent} : ∃ acts,
    publishLogin call event desk =
      (if call.cancelled then .error .cancelled else .ok (),
        { desk with acts := desk.acts ++ acts }) ∧
      appended acts = List.replicate call.delivered event := by
  cases first : call.first with
  | returned =>
      refine ⟨[.publish event Attempt.returned.fate], ?_, ?_⟩
      · simp [publishLogin, Work.handle, first, publish_returned, Call.cancelled,
          Attempt.isCancelled, Desk.record]
      · rw [appended_publish]
        simp [Call.delivered, first]
  | cancelled taken =>
      refine ⟨[.publish event (Attempt.cancelled taken).fate], ?_, ?_⟩
      · simp [publishLogin, Work.handle, first, publish_failed, Attempt.raised, Work.lift,
          Call.cancelled, Attempt.isCancelled, Desk.record]
      · rw [appended_publish]
        simp [Call.delivered, first]
  | outage taken =>
      -- The retry is the second attempt, whatever became of the first.
      refine ⟨[.publish event (Attempt.outage taken).fate, .publish event call.second.fate],
        ?_, ?_⟩
      · cases second : call.second with
        | returned =>
            simp [publishLogin, Work.handle, first, second, publish_failed, Attempt.raised,
              publish_returned, Call.cancelled, Attempt.isCancelled, Desk.record]
        | outage again =>
            simp [publishLogin, Work.handle, first, second, publish_failed, Attempt.raised,
              Call.cancelled, Attempt.isCancelled, Desk.record, pure, Work.lift]
        | cancelled again =>
            simp [publishLogin, Work.handle, first, second, publish_failed, Attempt.raised,
              Call.cancelled, Attempt.isCancelled, Desk.record, Work.lift]
      · have both : ([.publish event (Attempt.outage taken).fate,
              .publish event call.second.fate] : List (Act Accounts LoginEvent)) =
            [.publish event (Attempt.outage taken).fate] ++
              [.publish event call.second.fate] := rfl
        rw [both, UnitOfWork.appended_append, appended_publish, appended_publish,
          List.replicate_append_replicate]
        simp only [Call.delivered, first]
        rfl

theorem flushEvicted_eq_ok {evicted : Option TokenHash} :
    flushEvicted call evicted desk = (.ok given, after) ↔
      (evicted.isSome → call.evict = .ok) ∧
      { desk with
        working := evicted.elim desk.working fun oldest => desk.working.revoke oldest call.now,
        acts := desk.acts ++ evicted.toList.map fun _ => .flush .ok } = after := by
  cases evicted with
  | none => simp [flushEvicted, Work.pure_eq_ok]
  | some oldest => simp [flushEvicted, flush_eq_ok, Desk.record]

theorem insert_eq_ok {rows rows' : Accounts} {row : Session} :
    rows.insert library call.token row = .ok rows' ↔
      row.createdFromIp.all library.isInet = true ∧ rows.tokens.find call.token = none ∧
      { rows with tokens := rows.tokens.insert call.token row } = rows' := by
  by_cases accepted :
      (row.createdFromIp.all library.isInet && (rows.tokens.find call.token).isNone) = true
  · rw [Accounts.insert, if_pos accepted]
    simp only [Bool.and_eq_true, Option.isNone_iff_eq_none] at accepted
    simp [accepted]
  · rw [Accounts.insert, if_neg accepted]
    simp only [Bool.and_eq_true, Option.isNone_iff_eq_none, not_and] at accepted
    simp only [reduceCtorEq, false_iff, not_and]
    intro address unused
    exact absurd unused (accepted address)

theorem find_revoke {rows : Accounts} {oldest token : TokenHash} {now : Seconds} :
    (rows.revoke oldest now).tokens.find token = none ↔ rows.tokens.find token = none := by
  simp only [Accounts.revoke, Table.find_update, Option.map_eq_none_iff]

theorem find_elim_revoke {rows : Accounts} {evicted : Option TokenHash} {token : TokenHash}
    {now : Seconds} :
    (evicted.elim rows fun oldest => rows.revoke oldest now).tokens.find token = none ↔
      rows.tokens.find token = none := by
  cases evicted with
  | none => exact Iff.rfl
  | some oldest => exact find_revoke

/-- The flush before the commit goes well on what persists, and sends the token. -/
theorem flushSession_eq_ok {evicted : Option TokenHash} {row : Session} :
    (∃ after, flushSession library call evicted row desk = (.ok (), after)) ↔
      (evicted.isSome → call.evict = .ok) ∧ call.insert = .ok ∧
      row.createdFromIp.all library.isInet = true ∧
      desk.working.tokens.find call.token = none := by
  simp only [flushSession, Work.bind_eq_ok, flushEvicted_eq_ok, Work.flush_eq_ok, insert_eq_ok]
  constructor
  · rintro ⟨_, _, _, ⟨evict, rfl⟩, insert, _, ⟨address, unused, _⟩, _⟩
    exact ⟨evict, insert, address, find_elim_revoke.mp unused⟩
  · rintro ⟨evict, insert, address, unused⟩
    exact ⟨_, (), _, ⟨evict, rfl⟩, insert, _, ⟨address, find_elim_revoke.mpr unused, rfl⟩, rfl⟩

theorem find_of_flushSession {evicted : Option TokenHash} {row : Session}
    (sent : flushSession library call evicted row desk = (.ok (), after)) :
    (after.working.tokens.find call.token).isSome := by
  simp only [flushSession, Work.bind_eq_ok, Work.flush_eq_ok, insert_eq_ok] at sent
  obtain ⟨_, _, _, _, _, ⟨_, _, rfl⟩, rfl⟩ := sent
  simp [Table.find_insert]

theorem flushSession_quiet {evicted : Option TokenHash} {row : Session} :
    (flushSession library call evicted row).Quiet := by
  refine .bind ?_ fun _ => .flush
  cases evicted with
  | none => exact .lift
  | some oldest => exact .flush

theorem login_of_admits {userId : UserId} {user : User}
    (admits : call.Admits library accounts userId user) : ∃ desk,
    login library call (.start accounts) =
      (if call.cancelled then .error .cancelled
        else .ok (call.evicted accounts userId, newSession call userId), desk) ∧
      desk.committed = accounts ∧ desk.working = accounts.touch userId call.now ∧
      appended desk.acts = List.replicate call.delivered (loginEvent library call userId user) := by
  obtain ⟨acts, published, put⟩ := @publishLogin_eq call
    ⟨accounts, accounts.touch userId call.now,
      [.refresh .ok, .refresh .ok] ++ selects call accounts userId⟩
    (loginEvent library call userId user)
  have opened := openSession_eq_ok.mpr ⟨admits, rfl, rfl⟩
  have quiet : appended ([.refresh .ok, .refresh .ok] ++ selects call accounts userId) = [] := by
    have kept := (@openSession_quiet library call (Desk.start accounts)).2
    rw [opened] at kept
    obtain ⟨more, acts', fruitless⟩ := kept
    simp only [Desk.start, List.nil_append] at acts'
    rw [acts']
    exact UnitOfWork.appended_fruitless fruitless
  refine ⟨⟨accounts, accounts.touch userId call.now,
    [.refresh .ok, .refresh .ok] ++ selects call accounts userId ++ acts⟩, ?_, rfl, rfl, ?_⟩
  · rw [login, Work.bind_of_ok opened]
    cases cancelled : call.cancelled with
    | false =>
        rw [cancelled] at published
        exact Work.bind_of_ok published
    | true =>
        rw [cancelled] at published
        exact Work.bind_of_error published
  · rw [UnitOfWork.appended_append, quiet, put, List.nil_append]

theorem login_refused
    (refused : ∀ userId user, ¬ call.Admits library accounts userId user) : ∃ error desk,
    login library call (.start accounts) = (.error error, desk) ∧ desk.committed = accounts ∧
      appended desk.acts = [] := by
  obtain ⟨kept, more, acts, fruitless⟩ := @openSession_quiet library call (Desk.start accounts)
  cases outcome : openSession library call (Desk.start accounts) with
  | mk result desk =>
      rw [outcome] at kept acts
      cases result with
      | ok opened => exact absurd (openSession_eq_ok.mp outcome).1 (refused _ _)
      | error error =>
          refine ⟨error, desk, Work.bind_of_error outcome, kept, ?_⟩
          rw [acts]
          exact UnitOfWork.appended_fruitless fruitless

/-- A request whose login does not come to its event leaves the store and the stream alone. -/
theorem request_refused (refused : ∀ userId user, ¬ call.Admits library accounts userId user) :
    announced library accounts call = [] ∧ ¬ Committed library accounts call := by
  obtain ⟨error, desk, outcome, kept, nothing⟩ := login_refused refused
  have ended : afterRequest library accounts call = desk :=
    congrArg Prod.snd (Work.bind_of_error outcome)
  refine ⟨?_, ?_⟩
  · rw [announced, ended]
    exact nothing
  · rintro ⟨unused, inserted⟩
    rw [ended, kept, unused] at inserted
    cases inserted

theorem request_cancelled {userId : UserId} {user : User}
    (admits : call.Admits library accounts userId user) (cancelled : call.cancelled = true) :
    (announced library accounts call).length = call.delivered ∧
      ¬ Committed library accounts call := by
  obtain ⟨desk, outcome, kept, _, put⟩ := login_of_admits admits
  rw [cancelled, if_pos rfl] at outcome
  have ended : afterRequest library accounts call = desk :=
    congrArg Prod.snd (Work.bind_of_error outcome)
  refine ⟨?_, ?_⟩
  · rw [announced, ended, put, List.length_replicate]
  · rintro ⟨unused, inserted⟩
    rw [ended, kept, unused] at inserted
    cases inserted

/-- What the request of a login persists, if its flush and its commit go well. -/
theorem flushed_iff {userId : UserId} (kept : desk.working = accounts.touch userId call.now) :
    (∃ after, flushSession library call (call.evicted accounts userId) (newSession call userId)
        desk = (.ok (), after)) ∧ call.commit ≠ .failed ↔
      call.Persists library accounts userId := by
  have unchanged : desk.working.tokens = accounts.tokens := by
    rw [kept]
    rfl
  rw [flushSession_eq_ok, unchanged]
  constructor
  · rintro ⟨⟨evict, insert, address, unused⟩, commit⟩
    exact ⟨address, unused, evict, insert, commit⟩
  · intro persists
    exact ⟨⟨persists.evict, persists.insert, persists.address, persists.unused⟩, persists.commit⟩

theorem request_completed {userId : UserId} {user : User}
    (admits : call.Admits library accounts userId user) (calm : call.cancelled = false) :
    (announced library accounts call).length = call.delivered ∧
      (Committed library accounts call ↔ call.Persists library accounts userId) := by
  obtain ⟨desk, outcome, kept, working, put⟩ := login_of_admits admits
  rw [calm, if_neg Bool.false_ne_true] at outcome
  have ended : afterRequest library accounts call =
      ((flushSession library call (call.evicted accounts userId) (newSession call userId) >>=
        fun _ => Work.commit call.commit .broken) desk).2 :=
    congrArg Prod.snd (Work.bind_of_ok outcome)
  obtain ⟨same, more, acts, fruitless⟩ := @flushSession_quiet library call
    (call.evicted accounts userId) (newSession call userId) desk
  rw [← flushed_iff working]
  cases flushed : flushSession library call (call.evicted accounts userId)
      (newSession call userId) desk with
  | mk result after =>
      rw [flushed] at same acts
      cases result with
      | error error =>
          rw [Work.bind_of_error flushed] at ended
          refine ⟨?_, ?_⟩
          · rw [announced, ended, acts, UnitOfWork.appended_append, put,
              UnitOfWork.appended_fruitless fruitless, List.append_nil, List.length_replicate]
          · constructor
            · rintro ⟨unused, inserted⟩
              rw [ended, same, kept, unused] at inserted
              cases inserted
            · rintro ⟨⟨_, returned⟩, _⟩
              cases returned
      | ok given =>
          rw [Work.bind_of_ok flushed] at ended
          have unused : accounts.tokens.find call.token = none := by
            have free := (flushSession_eq_ok.mp ⟨after, flushed⟩).2.2.2
            rw [working] at free
            exact free
          refine ⟨?_, ?_⟩
          · rw [announced, ended]
            change (appended (after.acts ++ [.commit call.commit after.working])).length = _
            rw [acts, UnitOfWork.appended_append, UnitOfWork.appended_append, put,
              UnitOfWork.appended_fruitless fruitless]
            simp [appended]
          · rw [Committed, ended]
            change (_ ∧ ((call.commit.settle (fun _ => after.working)
              after.committed).tokens.find call.token).isSome) ↔ _
            have inserted := find_of_flushSession flushed
            have held : after.committed = accounts := same.trans kept
            cases call.commit with
            | ok => simp [unused, inserted]
            | lost => simp [unused, inserted]
            | failed => simp [held, unused]

theorem lawful_iff_of_admits {userId : UserId} {user : User}
    (admits : call.Admits library accounts userId user) :
    Lawful library accounts call ↔
      call.delivered = 0 ∨ call.delivered = 1 ∧ call.cancelled = false ∧
        call.Persists library accounts userId := by
  have law : Lawful library accounts call ↔
      ((announced library accounts call).length ≠ 0 → Committed library accounts call) ∧
        (Committed library accounts call → (announced library accounts call).length ≤ 1) := by
    rw [Lawful, ne_eq, ne_eq, List.length_eq_zero_iff]
  rw [law]
  cases cancelled : call.cancelled with
  | true =>
      obtain ⟨length, uncommitted⟩ := request_cancelled admits cancelled
      rw [length]
      simp [uncommitted]
  | false =>
      obtain ⟨length, committed⟩ := request_completed admits cancelled
      rw [length, committed]
      constructor
      · rintro ⟨sound, once⟩
        by_cases nothing : call.delivered = 0
        · exact .inl nothing
        · have persists := sound nothing
          have one : call.delivered = 1 := by
            have most := once persists
            omega
          exact .inr ⟨one, rfl, persists⟩
      · rintro (nothing | ⟨one, _, persists⟩)
        · exact ⟨fun some => absurd nothing some, fun _ => by omega⟩
        · exact ⟨fun _ => persists, fun _ => by omega⟩

end

/-- A login event means a login happened exactly where the attempts to publish put no event on
the stream, or one whose login is not cancelled and persists. -/
theorem login_event_follows_commit_iff (library : Library) (accounts : Accounts) (call : Call) :
    Lawful library accounts call ↔
      ∀ userId user, call.Admits library accounts userId user →
        call.delivered = 0 ∨ call.delivered = 1 ∧ call.cancelled = false ∧
          call.Persists library accounts userId := by
  constructor
  · intro lawful userId user admits
    exact (lawful_iff_of_admits admits).mp lawful
  · intro each
    by_cases admitted : ∃ userId user, call.Admits library accounts userId user
    · obtain ⟨userId, user, admits⟩ := admitted
      exact (lawful_iff_of_admits admits).mpr (each userId user admits)
    · push Not at admitted
      obtain ⟨nothing, uncommitted⟩ := request_refused admitted
      exact ⟨fun some => absurd nothing some, fun committed => absurd committed uncommitted⟩

/-- Text functions on the inputs of one call. -/
def plainLibrary : Library where
  verify := fun password passwordHash => password == "secret" && passwordHash == "hash of secret"
  dummyPasswordHash := "dummy"
  sha256 := fun _ => "8b1a9953c4611296a827abf8c47804d7"
  network := fun _ => none
  isInet := fun text => text == "10.0.0.7"

/-- One user of an active tenant. -/
def oneUser : Accounts where
  users := Table.empty.insert 1 ⟨"ana@acme.test", "hash of secret", true, false, some (10, true), none⟩
  tokens := Table.empty

/-- A login behind a trusted proxy, whose `X-Forwarded-For` starts with no address. -/
def forwarded : Call where
  email := "ana@acme.test"
  password := "secret"
  requestIp := some "spoofed"
  userAgent := none
  now := 1000
  token := 7
  healthy := true
  context := .ok
  attempts := some none
  lookup := .ok
  track := .ok
  lockTimeout := .ok
  lock := .acquired
  touch := .ok
  count := .ok
  oldest := .ok
  first := .returned
  second := .returned
  evict := .ok
  insert := .ok
  commit := .ok

theorem forwarded_login_announced : ¬ Lawful plainLibrary oneUser forwarded := by
  intro lawful
  have sent : announced plainLibrary oneUser forwarded ≠ [] := by decide
  have kept : ((afterRequest plainLibrary oneUser forwarded).committed.tokens.find 7).isSome =
      false := by decide
  exact absurd (lawful.1 sent).2 (by rw [Bool.not_eq_true]; exact kept)

end Auth.Logins
