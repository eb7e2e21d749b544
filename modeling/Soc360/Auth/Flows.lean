import Soc360.Auth.Denylist
import Soc360.Store.Ledger
import Soc360.Store.Machine

set_option autoImplicit false

namespace Auth

abbrev Txn := Nat
abbrev TenantId := Nat

/-- The sha256 of a raw refresh token. -/
abbrev TokenHash := Nat

/-- A password and the hash that verifies it are one value. -/
abbrev Password := String

def maxActiveSessions : Nat := 5

def refreshTokenExpireDays : Nat := 7

/-- A row of `refresh_tokens` under its `token_hash`. -/
structure RefreshToken where
  userId : UserId
  expiresAt : Seconds
  revokedAt : Option Seconds
  createdAt : Seconds
  deriving DecidableEq, Repr

namespace RefreshToken

def unrevoked (row : RefreshToken) : Bool := row.revokedAt.isNone

/-- The predicate of the SELECT of `refresh_tokens`. -/
def active (now : Seconds) (row : RefreshToken) : Bool :=
  row.unrevoked && decide (now < row.expiresAt)

/-- The predicate of `active_count`. -/
def activeOf (now : Seconds) (user : UserId) (row : RefreshToken) : Bool :=
  row.userId == user && row.active now

/-- The predicate of the eviction query, which has no condition on `expires_at`. -/
def unrevokedOf (user : UserId) (row : RefreshToken) : Bool :=
  row.userId == user && row.unrevoked

/-- The predicate of `_revoke_all_user_tokens` and of its tenant variant. -/
def covered (users : List UserId) (row : RefreshToken) : Bool :=
  decide (row.userId ∈ users) && row.unrevoked

end RefreshToken

/-- The UPDATEs of `refresh_tokens`: the flush of `revoked_at` on one loaded record, and the
bulk statement of `_revoke_all_user_tokens`. -/
inductive TokenChange where
  | revoke (at_ : Seconds)
  | revokeAll (users : List UserId) (at_ : Seconds)
  deriving DecidableEq, Repr

instance : RowAction TokenChange RefreshToken where
  act
    | .revoke at_, row => some { row with revokedAt := some at_ }
    | .revokeAll users at_, row =>
        if row.covered users then some { row with revokedAt := some at_ } else none

abbrev TokenEffect := Effect RefreshToken TokenChange

/-- The columns of a `users` row that the session flows read or write. -/
structure User where
  isActive : Bool
  hashedPassword : Password
  lastLoginAt : Option Seconds
  deriving DecidableEq, Repr

inductive UserChange where
  | lastLogin (at_ : Seconds)
  | password (password : Password)
  | active (isActive : Bool)
  deriving DecidableEq, Repr

instance : RowAction UserChange User where
  act
    | .lastLogin at_, row => some { row with lastLoginAt := some at_ }
    | .password password, row => some { row with hashedPassword := password }
    | .active isActive, row => some { row with isActive := isActive }

structure Tenant where
  isActive : Bool
  deriving DecidableEq, Repr

inductive TenantChange where
  | active (isActive : Bool)
  deriving DecidableEq, Repr

instance : RowAction TenantChange Tenant where
  act
    | .active isActive, row => some { row with isActive := isActive }

/-- The columns of `users` that no modelled call writes. A superadmin is a user without a
tenant, by the two CHECK constraints of the table. -/
structure Directory where
  tenantOf : UserId → Option TenantId
  users : List UserId

/-- The users with a `tenant_id`. -/
def Directory.members (directory : Directory) (tenant : TenantId) : List UserId :=
  directory.users.filter fun user => directory.tenantOf user == some tenant

/-- The row level security of `refresh_tokens` in the session of a request of `caller`. -/
def Directory.sees (directory : Directory) (caller owner : UserId) : Bool :=
  directory.tenantOf caller == none || directory.tenantOf owner == directory.tenantOf caller

/-- The unrevoked rows that the SELECT of `logout` finds for its caller. -/
def RefreshToken.shown (directory : Directory) (caller : UserId) (row : RefreshToken) : Bool :=
  row.unrevoked && directory.sees caller row.userId

/-- What an access token says of itself. -/
structure AccessToken where
  userId : UserId
  expiresAt : Seconds
  deriving DecidableEq, Repr

/-- A request that reaches one of the services. The user of a login is the one its email
names, and the JTIs come from access tokens whose signature was verified. -/
inductive Call where
  | login (user : UserId) (password : Password)
  | refreshTokens (token : TokenHash) (oldJti : Option Jti)
  | logout (jti : Jti) (token : TokenHash) (user : UserId)
  | changePassword (user : UserId) (current new : Password)
  | updateUser (user : UserId) (isActive : Bool)
  | deactivateUser (user : UserId)
  | updateTenant (tenant : TenantId) (isActive : Bool)
  | deactivateTenant (tenant : TenantId)
  deriving DecidableEq, Repr

namespace Call

/-- The JTIs that a call presents. -/
def presented : Call → List Jti
  | refreshTokens _ oldJti => oldJti.toList
  | logout jti _ _ => [jti]
  | _ => []

/-- The users whose tokens a mass revocation of the call covers. -/
def covers (directory : Directory) : Call → List UserId
  | changePassword user _ _ => [user]
  | updateUser user _ => [user]
  | deactivateUser user => [user]
  | updateTenant tenant _ => directory.members tenant
  | deactivateTenant tenant => directory.members tenant
  | _ => []

/-- The calls that set `is_active` to false, when it was true. -/
def deactivates : Call → Bool
  | updateUser _ isActive => !isActive
  | deactivateUser _ => true
  | updateTenant _ isActive => !isActive
  | deactivateTenant _ => true
  | _ => false

/-- The calls that issue tokens. -/
def isSession : Call → Bool
  | login _ _ => true
  | refreshTokens _ _ => true
  | _ => false

def isLogout : Call → Bool
  | logout _ _ _ => true
  | _ => false

/-- The changes of a password or of `is_active`. -/
def isChange : Call → Bool
  | changePassword _ _ _ => true
  | updateUser _ _ => true
  | deactivateUser _ => true
  | updateTenant _ _ => true
  | deactivateTenant _ => true
  | _ => false

end Call

/-- A login or a refresh after it read the flags: its user, the number of deactivations of
the user that were committed then, and the JTI it has tracked. -/
structure Grant where
  userId : UserId
  epoch : Nat
  jti : Option Jti
  deriving DecidableEq, Repr

/-- The access token part of `refresh_tokens`, after the rotation. -/
inductive Issue where
  | create
  | revokeOld (expiresAt : Seconds)
  | untrackOld (expiresAt : Seconds)
  | track (expiresAt : Seconds)
  | done
  deriving DecidableEq, Repr

/-- Where a call stands between two statements, with the variables it still needs. -/
inductive Stage where
  | begun
  -- login and refresh_tokens
  | selected (user : UserId)
  | authenticated (grant : Grant)
  | created (grant : Grant) (expiresAt : Seconds)
  | tracked (grant : Grant)
  | locked (grant : Grant)
  | flushed (grant : Grant)
  | full (grant : Grant)
  | room (grant : Grant) (evicted : Option (TokenHash × Seconds))
  | added (grant : Grant) (evicted : Option (TokenHash × Seconds)) (row : RefreshToken)
      (issue : Issue)
  | inserting (grant : Grant) (row : RefreshToken)
  | granted (grant : Grant) (token : TokenHash)
  -- logout
  | denylisted
  | untracked
  | found (record : Option TokenHash)
  -- change_password and the changes of is_active
  | verified
  | flagged (todo : List UserId)
  | sweeping (rows todo : List TokenHash) (at_ : Seconds)
  | revoking (rows : List TokenHash) (jtis : UserId → List Jti) (calls : UserId → Revocation)
  | finished

/-- How a call ended. A commit whose reply is lost is committed and still raises. -/
inductive Outcome where
  | returned
  | raised
  | unconfirmed
  deriving DecidableEq, Repr

def Outcome.committed : Outcome → Bool
  | returned => true
  | raised => false
  | unconfirmed => true

/-- A call in its transaction, whose NOW() is `startedAt`. -/
structure Task where
  call : Call
  startedAt : Seconds
  stage : Stage
  outcome : Option Outcome

/-- The calls of any number of processes over one database and one Redis. `sessionLock` is
the advisory lock of each user, and `access` knows the access tokens ever tracked. -/
structure World where
  now : Seconds
  redis : Redis
  access : Jti → Option AccessToken
  tokens : Ledger Txn TokenHash RefreshToken TokenChange
  users : Ledger Txn UserId User UserChange
  tenants : Ledger Txn TenantId Tenant TenantChange
  sessionLock : UserId → Option Txn
  tasks : Txn → Option Task

/-- What the environment decides about a statement: a random value, the row that a query
returns first or an UPDATE visits next, the reply of a Redis command. -/
inductive Choice where
  | none
  | jti (jti : Jti)
  | token (token : TokenHash)
  | oldest (token : Option TokenHash)
  | row (token : TokenHash)
  | user (user : UserId)
  | command (user : UserId) (fate : Fate)
  deriving DecidableEq, Repr

/-- What one statement does to the stores. -/
inductive Action where
  | skip
  | refuse
  | lock (token : TokenHash)
  | revoke (token : TokenHash) (at_ : Seconds)
  | sweep (token : TokenHash) (users : List UserId) (at_ : Seconds)
  | insert (token : TokenHash) (row : RefreshToken)
  | user (user : UserId) (change : UserChange)
  | tenant (tenant : TenantId) (change : TenantChange)
  | advisory (user : UserId)
  | redis (redis : Redis)
  | track (jti : Jti) (token : AccessToken)

def Action.outcome : Action → Option Outcome
  | refuse => some .raised
  | _ => none

theorem Action.outcome_accepted {action : Action} (accepted : action ≠ .refuse) :
    action.outcome = none := by
  cases action with
  | refuse => exact absurd rfl accepted
  | _ => rfl

/-- The flush of the changed row, before a mass revocation or a reactivation. -/
def Call.flush (directory : Directory) : Call → Option (Stage × Action)
  | .changePassword user _ new => some (.flagged [], .user user (.password new))
  | .updateUser user isActive =>
      some (if isActive then .finished else .flagged [], .user user (.active isActive))
  | .deactivateUser user => some (.flagged [], .user user (.active false))
  | .updateTenant tenant isActive =>
      some (if isActive then .finished else .flagged (directory.members tenant),
        .tenant tenant (.active isActive))
  | .deactivateTenant tenant =>
      some (.flagged (directory.members tenant), .tenant tenant (.active false))
  | _ => none

/-- The JTI of a refresh is tracked after its `old_jti` was dealt with. -/
def Call.issueNext (expiresAt : Seconds) : Call → Issue
  | .refreshTokens _ (some _) => .revokeOld expiresAt
  | _ => .track expiresAt

/-- One label of a run. -/
inductive Label where
  | tick (seconds : Seconds)
  | begin_ (txn : Txn) (call : Call)
  | run (txn : Txn) (choice : Choice)
  | commit (txn : Txn) (fate : Fate)
  | abort (txn : Txn)
  deriving DecidableEq, Repr

/-- `is_active = False` in the history of a user, also when the tenant was deactivated. -/
def isDeactivation : Effect User UserChange → Bool
  | .change (.active isActive) => !isActive
  | _ => false

namespace World

/-- The committed deactivations of a user. -/
def deactivations (world : World) (user : UserId) : Nat :=
  (world.users.history user).countP isDeactivation

section

variable (directory : Directory) (accessTtl : Seconds) (world : World) (txn : Txn)

/-- `_get_active_user`. -/
def getActiveUser (user : UserId) : Option User :=
  (world.users.view txn user).row?.filter (·.isActive)

/-- `_check_tenant_active`, on the tenant of the same join. -/
def checkTenantActive (user : UserId) : Bool :=
  match directory.tenantOf user with
  | none => true
  | some tenant => (world.tenants.view txn tenant).satisfies (·.isActive)

/-- The tokens of a user among which the cap query counts. -/
def activeCount (user : UserId) : Nat :=
  world.tokens.count txn (RefreshToken.activeOf world.now user)

/-- `ORDER BY created_at ASC LIMIT 1` may return this row, or none. -/
def isOldest (user : UserId) : Option TokenHash → Bool
  | none => world.tokens.table.keys.all fun other =>
      !(world.tokens.view txn other).satisfies (RefreshToken.unrevokedOf user)
  | some token =>
      match world.tokens.view txn token with
      | .live row => row.unrevokedOf user &&
          world.tokens.table.keys.all fun other =>
            !(world.tokens.view txn other).satisfies fun row' =>
              row'.unrevokedOf user && decide (row'.createdAt < row.createdAt)
      | _ => false

/-- The rows in the snapshot of the bulk UPDATE. -/
def coveredRows (users : List UserId) : List TokenHash :=
  world.tokens.table.keys.filter fun token =>
    (world.tokens.view txn token).satisfies (RefreshToken.covered users)

/-- A JTI from `uuid4()` is new to every store. -/
def unused (jti : Jti) : Bool :=
  (world.access jti).isNone && (world.redis.denylist jti).isNone

/-- The target of a change of `is_active` as it was loaded: none when there is no row. -/
def target : Call → Option Bool
  | .updateUser user _ => (world.users.view txn user).row?.map (·.isActive)
  | .deactivateUser user => (world.users.view txn user).row?.map (·.isActive)
  | .updateTenant tenant _ => (world.tenants.view txn tenant).row?.map (·.isActive)
  | .deactivateTenant tenant => (world.tenants.view txn tenant).row?.map (·.isActive)
  | _ => none

/-- A raise: the transaction is rolled back. -/
def refuse : Option (Stage × Action) := some (.finished, .refuse)

/-- The first statement of each call. -/
def first : Call → Option (Stage × Action)
  | .login user password =>
      match world.getActiveUser txn user with
      | none => refuse
      | some row =>
          if row.hashedPassword = password && world.checkTenantActive directory txn user then
            some (.authenticated ⟨user, world.deactivations user, none⟩, .skip)
          else refuse
  | .refreshTokens token _ =>
      -- FOR UPDATE SKIP LOCKED: a row that another transaction holds is not found.
      match world.tokens.view txn token with
      | .live row =>
          if row.active world.now && decide (world.tokens.Unblocked txn token) then
            some (.selected row.userId, .lock token)
          else refuse
      | _ => refuse
  | .logout jti _ _ =>
      if 0 < accessTtl then
        some (.denylisted, .redis (world.redis.setRevoked accessTtl jti))
      else some (.denylisted, .skip)
  | .changePassword user current _ =>
      match world.getActiveUser txn user with
      | none => refuse
      | some row => if row.hashedPassword = current then some (.verified, .skip) else refuse
  | .updateUser user isActive =>
      match world.target txn (.updateUser user isActive) with
      | none => refuse
      | some loaded =>
          -- No change of the attribute, no UPDATE at the flush, no revocation.
          if loaded = isActive then some (.finished, .skip) else some (.verified, .skip)
  | .deactivateUser user =>
      if world.target txn (.deactivateUser user) = some true then some (.verified, .skip)
      else refuse
  | .updateTenant tenant isActive =>
      match world.target txn (.updateTenant tenant isActive) with
      | none => refuse
      | some loaded =>
          if loaded = isActive then some (.finished, .skip) else some (.verified, .skip)
  | .deactivateTenant tenant =>
      if world.target txn (.deactivateTenant tenant) = some true then some (.verified, .skip)
      else refuse

/-- The access token of a refresh, one command at a time. -/
def issue (call : Call) (grant : Grant) (choice : Choice) : Issue → Option (Grant × Issue × Action)
  | .create => some (grant, call.issueNext (world.now + accessTtl), .skip)
  | .revokeOld expiresAt =>
      match call with
      | .refreshTokens _ (some oldJti) =>
          some (grant, .untrackOld expiresAt,
            if 0 < accessTtl then .redis (world.redis.setRevoked accessTtl oldJti) else .skip)
      | _ => none
  | .untrackOld expiresAt =>
      match call with
      | .refreshTokens _ (some oldJti) =>
          some (grant, .track expiresAt, .redis (world.redis.srem grant.userId oldJti))
      | _ => none
  | .track expiresAt =>
      match choice with
      | .jti jti =>
          if world.unused jti then
            some ({ grant with jti := some jti }, .done, .track jti ⟨grant.userId, expiresAt⟩)
          else none
      | _ => none
  | .done => none

/-- The next statement of a call, with what it sees and what it does. -/
def plan (task : Task) (choice : Choice) : Option (Stage × Action) :=
  match task.stage with
  | .begun => world.first directory accessTtl txn task.call
  | .selected user =>
      match world.getActiveUser txn user with
      | none => refuse
      | some _ =>
          if world.checkTenantActive directory txn user then
            some (.authenticated ⟨user, world.deactivations user, none⟩, .skip)
          else refuse
  | .authenticated grant =>
      match task.call with
      | .login _ _ => some (.created grant (world.now + accessTtl), .skip)
      | .refreshTokens _ _ => some (.locked grant, .advisory grant.userId)
      | _ => none
  | .created grant expiresAt =>
      match choice with
      | .jti jti =>
          if world.unused jti then
            some (.tracked { grant with jti := some jti },
              .track jti ⟨grant.userId, expiresAt⟩)
          else none
      | _ => none
  | .tracked grant => some (.locked grant, .advisory grant.userId)
  | .locked grant =>
      -- The autoflush of the count, which the `text` statements before it do not do: of
      -- `record.revoked_at`, on the row locked by the SELECT, or of `user.last_login_at`.
      match task.call with
      | .refreshTokens token _ => some (.flushed grant, .revoke token world.now)
      | _ => some (.flushed grant, .user grant.userId (.lastLogin world.now))
  | .flushed grant =>
      if maxActiveSessions ≤ world.activeCount txn grant.userId then some (.full grant, .skip)
      else some (.room grant none, .skip)
  | .full grant =>
      match choice with
      | .oldest token =>
          if world.isOldest txn grant.userId token then
            some (.room grant (token.map (·, world.now)), .skip)
          else none
      | _ => none
  | .room grant evicted =>
      let row : RefreshToken := {
        userId := grant.userId
        expiresAt := world.now + refreshTokenExpireDays * 86400
        revokedAt := none
        createdAt := task.startedAt }
      match task.call with
      | .refreshTokens _ _ => some (.added grant evicted row .create, .skip)
      | _ => some (.added grant evicted row .done, .skip)
  | .added grant evicted row .done =>
      -- The flush of the commit: the UPDATE of the evicted record, then the INSERT.
      match evicted with
      | none => some (.inserting grant row, .skip)
      | some (token, at_) => some (.inserting grant row, .revoke token at_)
  | .added grant evicted row issue =>
      (world.issue accessTtl task.call grant choice issue).map fun (grant, issue, action) =>
        (.added grant evicted row issue, action)
  | .inserting grant row =>
      match choice with
      | .token token => some (.granted grant token, .insert token row)
      | _ => none
  | .granted _ _ => none
  | .denylisted =>
      match task.call with
      | .logout jti _ user => some (.untracked, .redis (world.redis.srem user jti))
      | _ => none
  | .untracked =>
      match task.call with
      | .logout _ token user =>
          if (world.tokens.view txn token).satisfies (RefreshToken.shown directory user) then
            some (.found (some token), .skip)
          else some (.found none, .skip)
      | _ => none
  | .found record =>
      match record with
      | none => some (.finished, .skip)
      | some token => some (.finished, .revoke token world.now)
  | .verified => task.call.flush directory
  | .flagged [] =>
      let rows := world.coveredRows txn (task.call.covers directory)
      some (.sweeping rows rows world.now, .skip)
  | .flagged todo =>
      match choice with
      | .user user =>
          if user ∈ todo then some (.flagged (todo.erase user), .user user (.active false))
          else none
      | _ => none
  | .sweeping rows [] _ => some (.revoking rows (fun _ => []) (fun _ => .reading), .skip)
  | .sweeping rows todo at_ =>
      match choice with
      | .row token =>
          if token ∈ todo then
            some (.sweeping rows (todo.erase token) at_,
              .sweep token (task.call.covers directory) at_)
          else none
      | _ => none
  | .revoking rows jtis calls =>
      match choice with
      | .command user fate =>
          if user ∈ task.call.covers directory then
            ((calls user).next user accessTtl fate world.redis).map fun (after, redis) =>
              (.revoking rows
                (if calls user = .reading then
                  Function.update jtis user (world.redis.smembers user) else jtis)
                (Function.update calls user after), .redis redis)
          else none
      | _ => none
  | .finished => none

end

/-- Drop what a transaction has pending, with its locks. -/
def rollback (world : World) (txn : Txn) : World :=
  { world with
    tokens := world.tokens.rollback txn
    users := world.users.rollback txn
    tenants := world.tenants.rollback txn
    sessionLock := fun user =>
      if world.sessionLock user = some txn then none else world.sessionLock user }

/-- Publish what a transaction has pending and release its locks. -/
def publish (world : World) (txn : Txn) : World :=
  { world with
    tokens := world.tokens.commit txn
    users := world.users.commit txn
    tenants := world.tenants.commit txn
    sessionLock := fun user =>
      if world.sessionLock user = some txn then none else world.sessionLock user }

/-- Time passes for the database and for Redis alike. -/
def elapse (world : World) (seconds : Seconds) : World :=
  { world with now := world.now + seconds, redis := world.redis.elapse seconds }

def record (world : World) (txn : Txn) (task : Task) : World :=
  { world with tasks := Function.update world.tasks txn (some task) }

/-- The effect of a statement on the stores. `none` while it waits for a lock. -/
def perform (world : World) (txn : Txn) : Action → Option World
  | .skip => some world
  | .refuse => some (world.rollback txn)
  | .lock token =>
      (world.tokens.lock txn token).map fun tokens => { world with tokens := tokens }
  | .revoke token at_ =>
      (world.tokens.write txn token (.change (.revoke at_))).map fun tokens =>
        { world with tokens := tokens }
  | .sweep token users at_ =>
      (world.tokens.update txn token (.change (.revokeAll users at_))).map fun (tokens, _) =>
        { world with tokens := tokens }
  | .insert token row =>
      (world.tokens.insert txn token row).map fun tokens => { world with tokens := tokens }
  | .user user change =>
      (world.users.update txn user (.change change)).map fun (users, _) =>
        { world with users := users }
  | .tenant tenant change =>
      (world.tenants.update txn tenant (.change change)).map fun (tenants, _) =>
        { world with tenants := tenants }
  | .advisory user =>
      if world.sessionLock user = none ∨ world.sessionLock user = some txn then
        some { world with
          sessionLock := Function.update world.sessionLock user (some txn) }
      else none
  | .redis redis => some { world with redis := redis }
  | .track jti token =>
      some { world with
        redis := world.redis.sadd token.userId jti
        access := Function.update world.access jti (some token) }

end World

/-- A call commits after its last statement, and a mass revocation when every user's
`revoke_all_user_access_tokens` has returned. -/
def Stage.complete (users : List UserId) : Stage → Bool
  | .granted _ _ => true
  | .finished => true
  | .revoking _ _ calls => users.all fun user => calls user == .returned
  | _ => false

namespace World

/-- A step. `abort` stands for every failure between two statements: a timeout, a
deadlock, a Redis error, a cancellation, a crash. -/
def step (directory : Directory) (accessTtl : Seconds) (world : World) : Label → Option World
  | .tick seconds => some (world.elapse seconds)
  | .begin_ txn call =>
      match world.tasks txn with
      | some _ => none
      | none =>
          if call.presented.all fun jti => (world.access jti).isSome then
            some (world.record txn ⟨call, world.now, .begun, none⟩)
          else none
  | .run txn choice =>
      match world.tasks txn with
      | some task =>
          if task.outcome = none then
            (world.plan directory accessTtl txn task choice).bind fun (stage, action) =>
              (world.perform txn action).map fun after =>
                after.record txn { task with stage := stage, outcome := action.outcome }
          else none
      | none => none
  | .commit txn fate =>
      match world.tasks txn with
      | some task =>
          if task.outcome = none ∧ task.stage.complete (task.call.covers directory) then
            some (match fate with
              | .ok => (world.publish txn).record txn { task with outcome := some .returned }
              | .failed => (world.rollback txn).record txn { task with outcome := some .raised }
              | .lost =>
                  (world.publish txn).record txn { task with outcome := some .unconfirmed })
          else none
      | none => none
  | .abort txn =>
      match world.tasks txn with
      | some task =>
          if task.outcome = none then
            some ((world.rollback txn).record txn { task with outcome := some .raised })
          else none
      | none => none

end World

/-- The database before the first call: any users and tenants, no refresh token. -/
structure World.Fresh (world : World) : Prop where
  tokens : world.tokens = .empty
  users : world.users.log = [] ∧ (∀ txn, world.users.effects txn = []) ∧
    ∀ user, world.users.owner user = none
  tenants : world.tenants.log = [] ∧ (∀ txn, world.tenants.effects txn = []) ∧
    ∀ tenant, world.tenants.owner tenant = none
  redis : world.redis = .empty
  access : ∀ jti, world.access jti = none
  sessionLock : ∀ user, world.sessionLock user = none
  tasks : ∀ txn, world.tasks txn = none

/-- Given users and tenants, and nothing else. -/
def World.initial (users : Table UserId User) (tenants : Table TenantId Tenant) : World where
  now := 0
  redis := .empty
  access := fun _ => none
  tokens := .empty
  users := { (Ledger.empty : Ledger Txn UserId User UserChange) with table := users }
  tenants := { (Ledger.empty : Ledger Txn TenantId Tenant TenantChange) with table := tenants }
  sessionLock := fun _ => none
  tasks := fun _ => none

theorem World.initial_fresh (users : Table UserId User) (tenants : Table TenantId Tenant) :
    (World.initial users tenants).Fresh where
  tokens := rfl
  users := ⟨rfl, fun _ => rfl, fun _ => rfl⟩
  tenants := ⟨rfl, fun _ => rfl, fun _ => rfl⟩
  redis := rfl
  access := fun _ => rfl
  sessionLock := fun _ => rfl
  tasks := fun _ => rfl

def flows (directory : Directory) (accessTtl : Seconds) : Machine World Label where
  start := World.Fresh
  step := World.step directory accessTtl

def oneTenant : Directory := ⟨fun _ => some 1, [1]⟩

def oneUser : World :=
  .initial (Table.empty.insert 1 ⟨true, "secret", none⟩) (Table.empty.insert 1 ⟨true⟩)

/-- A login of the only user, with the choice of its eviction query if it makes one. -/
def loginRun (txn : Txn) (jti : Jti) (token : TokenHash) (evicts : List Choice) : List Label :=
  [.begin_ txn (.login 1 "secret"), .run txn .none, .run txn .none, .run txn (.jti jti),
    .run txn .none, .run txn .none, .run txn .none] ++ evicts.map (.run txn) ++
    [.run txn .none, .run txn .none, .run txn (.token token), .commit txn .ok]

section

variable (directory : Directory) (accessTtl : Seconds) (world : World) (txn : Txn) (call : Call)
  (startedAt : Seconds) (choice : Choice)

/-- What the next statement of a call can do: the stage it leaves, the stage it reaches and
its action, with what it has seen. -/
inductive Planned : Stage → Stage → Action → Prop
  | refused (stage : Stage) : Planned stage .finished .refuse
  | login {user : UserId} {password : Password} (same : call = .login user password) :
      Planned .begun (.authenticated ⟨user, world.deactivations user, none⟩) .skip
  | select {token : TokenHash} {oldJti : Option Jti} {row : RefreshToken}
      (same : call = .refreshTokens token oldJti)
      (seen : world.tokens.view txn token = .live row) (active : row.active world.now = true) :
      Planned .begun (.selected row.userId) (.lock token)
  | denylist {jti : Jti} {token : TokenHash} {user : UserId} {action : Action}
      (same : call = .logout jti token user)
      (acts : action = .skip ∨ action = .redis (world.redis.setRevoked accessTtl jti)) :
      Planned .begun .denylisted action
  | verify (loaded : call.deactivates = true → world.target txn call = some true)
      (changes : call.isChange = true) : Planned .begun .verified .skip
  | unchanged (changes : call.isChange = true) : Planned .begun .finished .skip
  | authenticate (user : UserId) :
      Planned (.selected user) (.authenticated ⟨user, world.deactivations user, none⟩) .skip
  | create {user : UserId} {password : Password} (same : call = .login user password)
      (grant : Grant) :
      Planned (.authenticated grant) (.created grant (world.now + accessTtl)) .skip
  | lockSession {token : TokenHash} {oldJti : Option Jti}
      (same : call = .refreshTokens token oldJti) (grant : Grant) :
      Planned (.authenticated grant) (.locked grant) (.advisory grant.userId)
  | track (grant : Grant) (expiresAt : Seconds) {jti : Jti} (unused : world.unused jti = true) :
      Planned (.created grant expiresAt) (.tracked { grant with jti := some jti })
        (.track jti ⟨grant.userId, expiresAt⟩)
  | advisory (grant : Grant) :
      Planned (.tracked grant) (.locked grant) (.advisory grant.userId)
  | rotate {token : TokenHash} {oldJti : Option Jti} (same : call = .refreshTokens token oldJti)
      (grant : Grant) : Planned (.locked grant) (.flushed grant) (.revoke token world.now)
  | touch (grant : Grant) (login : ∀ token oldJti, call ≠ .refreshTokens token oldJti) :
      Planned (.locked grant) (.flushed grant) (.user grant.userId (.lastLogin world.now))
  | full (grant : Grant) : Planned (.flushed grant) (.full grant) .skip
  | room (grant : Grant) (below : world.activeCount txn grant.userId < maxActiveSessions) :
      Planned (.flushed grant) (.room grant none) .skip
  | pick (grant : Grant) {token : Option TokenHash} (chosen : choice = .oldest token)
      (oldest : world.isOldest txn grant.userId token = true) :
      Planned (.full grant) (.room grant (token.map (·, world.now))) .skip
  | add (grant : Grant) (evicted : Option (TokenHash × Seconds)) {issue : Issue}
      (next : issue = .create ∨ issue = .done) :
      Planned (.room grant evicted)
        (.added grant evicted ⟨grant.userId, world.now + refreshTokenExpireDays * 86400, none,
          startedAt⟩ issue) .skip
  | createNext (grant : Grant) (evicted : Option (TokenHash × Seconds)) (row : RefreshToken) :
      Planned (.added grant evicted row .create)
        (.added grant evicted row (call.issueNext (world.now + accessTtl))) .skip
  | revokeOld {token : TokenHash} {oldJti : Jti}
      (same : call = .refreshTokens token (some oldJti)) (grant : Grant)
      (evicted : Option (TokenHash × Seconds)) (row : RefreshToken) (expiresAt : Seconds)
      {action : Action}
      (acts : action = .skip ∨ action = .redis (world.redis.setRevoked accessTtl oldJti)) :
      Planned (.added grant evicted row (.revokeOld expiresAt))
        (.added grant evicted row (.untrackOld expiresAt)) action
  | untrackOld (oldJti : Jti) (grant : Grant) (evicted : Option (TokenHash × Seconds))
      (row : RefreshToken) (expiresAt : Seconds) :
      Planned (.added grant evicted row (.untrackOld expiresAt))
        (.added grant evicted row (.track expiresAt))
        (.redis (world.redis.srem grant.userId oldJti))
  | trackNew (grant : Grant) (evicted : Option (TokenHash × Seconds)) (row : RefreshToken)
      (expiresAt : Seconds) {jti : Jti} (unused : world.unused jti = true) :
      Planned (.added grant evicted row (.track expiresAt))
        (.added { grant with jti := some jti } evicted row .done)
        (.track jti ⟨grant.userId, expiresAt⟩)
  | keep (grant : Grant) (row : RefreshToken) :
      Planned (.added grant none row .done) (.inserting grant row) .skip
  | evict (grant : Grant) (token : TokenHash) (at_ : Seconds) (row : RefreshToken) :
      Planned (.added grant (some (token, at_)) row .done) (.inserting grant row)
        (.revoke token at_)
  | insert (grant : Grant) (row : RefreshToken) (token : TokenHash) :
      Planned (.inserting grant row) (.granted grant token) (.insert token row)
  | untrack (jti : Jti) (user : UserId) :
      Planned .denylisted .untracked (.redis (world.redis.srem user jti))
  | find {jti : Jti} {token : TokenHash} {user : UserId} (same : call = .logout jti token user)
      (seen : (world.tokens.view txn token).satisfies
        (RefreshToken.shown directory user) = true) :
      Planned .untracked (.found (some token)) .skip
  | miss {jti : Jti} {token : TokenHash} {user : UserId} (same : call = .logout jti token user)
      (unseen : (world.tokens.view txn token).satisfies
        (RefreshToken.shown directory user) = false) :
      Planned .untracked (.found none) .skip
  | logoutNothing : Planned (.found none) .finished .skip
  | logout (token : TokenHash) :
      Planned (.found (some token)) .finished (.revoke token world.now)
  | flushUser {user : UserId} {change : UserChange} {stage : Stage}
      (covers : user ∈ call.covers directory)
      (next : stage = .flagged [] ∨
        stage = .finished ∧ isDeactivation (.change change) = false ∧
          call = .updateUser user true ∧ change = .active true) :
      Planned .verified stage (.user user change)
  | flushTenant {tenant : TenantId} {change : TenantChange} {stage : Stage}
      (next : stage = .flagged (call.covers directory) ∨ stage = .finished)
      (same : (∃ isActive, call = .updateTenant tenant isActive) ∨
        call = .deactivateTenant tenant) :
      Planned .verified stage (.tenant tenant change)
  | flag {todo : List UserId} {user : UserId} (member : user ∈ todo) :
      Planned (.flagged todo) (.flagged (todo.erase user)) (.user user (.active false))
  | snapshot :
      Planned (.flagged [])
        (.sweeping (world.coveredRows txn (call.covers directory))
          (world.coveredRows txn (call.covers directory)) world.now) .skip
  | sweep (rows : List TokenHash) {todo : List TokenHash} (at_ : Seconds) {token : TokenHash}
      (member : token ∈ todo) :
      Planned (.sweeping rows todo at_) (.sweeping rows (todo.erase token) at_)
        (.sweep token (call.covers directory) at_)
  | swept (rows : List TokenHash) (at_ : Seconds) :
      Planned (.sweeping rows [] at_)
        (.revoking rows (fun _ => []) (fun _ => .reading)) .skip
  | command (rows : List TokenHash) (jtis : UserId → List Jti) (calls : UserId → Revocation)
      {user : UserId} (covered : user ∈ call.covers directory) (fate : Fate)
      {after : Revocation} {redis : Redis}
      (taken : (calls user).next user accessTtl fate world.redis = some (after, redis)) :
      Planned (.revoking rows jtis calls)
        (.revoking rows
          (if calls user = .reading then
            Function.update jtis user (world.redis.smembers user) else jtis)
          (Function.update calls user after)) (.redis redis)

end

section

variable {directory : Directory} {accessTtl : Seconds} {world : World} {txn : Txn} {task : Task}
  {choice : Choice} {stage : Stage} {action : Action}

theorem first_planned
    (planned : world.first directory accessTtl txn task.call = some (stage, action)) :
    Planned directory accessTtl world txn task.call task.startedAt choice .begun
      stage action := by
  unfold World.first at planned
  split at planned
  next user password same =>
    split at planned
    next => cases planned; exact .refused _
    next row _ =>
      split at planned
      next => cases planned; exact .login same
      next => cases planned; exact .refused _
  next token oldJti same =>
    split at planned
    next row seen =>
      split at planned
      next found =>
        cases planned
        rw [Bool.and_eq_true] at found
        exact .select same seen found.1
      next => cases planned; exact .refused _
    next => cases planned; exact .refused _
  next jti token user same =>
    split at planned
    next => cases planned; exact .denylist same (.inr rfl)
    next => cases planned; exact .denylist same (.inl rfl)
  next user current new same =>
    split at planned
    next => cases planned; exact .refused _
    next row _ =>
      split at planned
      next =>
        cases planned
        rw [same]
        exact .verify (by simp [Call.deactivates]) rfl
      next => cases planned; exact .refused _
  next user isActive same =>
    split at planned
    next => cases planned; exact .refused _
    next loaded seen =>
      split at planned
      next => cases planned; rw [same]; exact .unchanged rfl
      next differs =>
        cases planned
        rw [same]
        refine .verify ?_ rfl
        intro deactivates
        have off : isActive = false := by simpa [Call.deactivates] using deactivates
        have on : loaded = true := by
          rw [off] at differs
          simpa using differs
        rw [seen, on]
  next user same =>
    split at planned
    next seen => cases planned; rw [same]; exact .verify (fun _ => seen) rfl
    next => cases planned; exact .refused _
  next tenant isActive same =>
    split at planned
    next => cases planned; exact .refused _
    next loaded seen =>
      split at planned
      next => cases planned; rw [same]; exact .unchanged rfl
      next differs =>
        cases planned
        rw [same]
        refine .verify ?_ rfl
        intro deactivates
        have off : isActive = false := by simpa [Call.deactivates] using deactivates
        have on : loaded = true := by
          rw [off] at differs
          simpa using differs
        rw [seen, on]
  next tenant same =>
    split at planned
    next seen => cases planned; rw [same]; exact .verify (fun _ => seen) rfl
    next => cases planned; exact .refused _

theorem flush_planned (planned : task.call.flush directory = some (stage, action)) :
    Planned directory accessTtl world txn task.call task.startedAt choice .verified
      stage action := by
  unfold Call.flush at planned
  split at planned
  next user current new same =>
    cases planned
    exact .flushUser (by simp [same, Call.covers]) (.inl rfl)
  next user isActive same =>
    cases planned
    refine .flushUser (by simp [same, Call.covers]) ?_
    cases isActive
    · exact .inl rfl
    · exact .inr ⟨rfl, rfl, same, rfl⟩
  next user same =>
    cases planned
    exact .flushUser (by simp [same, Call.covers]) (.inl rfl)
  next tenant isActive same =>
    cases planned
    refine .flushTenant ?_ (.inl ⟨isActive, same⟩)
    rw [same]
    cases isActive
    · exact .inl rfl
    · exact .inr rfl
  next tenant same =>
    cases planned
    refine .flushTenant (.inl ?_) (.inr same)
    rw [same]
    rfl
  next => cases planned

theorem issue_planned {grant : Grant} {evicted : Option (TokenHash × Seconds)}
    {row : RefreshToken} {issue : Issue}
    (planned : (world.issue accessTtl task.call grant choice issue).map
      (fun (grant, issue, action) => (Stage.added grant evicted row issue, action)) =
        some (stage, action)) :
    Planned directory accessTtl world txn task.call task.startedAt choice
      (.added grant evicted row issue) stage action := by
  obtain ⟨⟨after, issue', act⟩, issued, same⟩ := Option.map_eq_some_iff.mp planned
  cases same
  unfold World.issue at issued
  split at issued
  next => cases issued; exact .createNext ..
  next expiresAt =>
    split at issued
    next token oldJti same =>
      cases issued
      refine .revokeOld same _ _ _ _ ?_
      by_cases positive : 0 < accessTtl
      · simp [positive]
      · simp [positive]
    next => cases issued
  next expiresAt =>
    split at issued
    next token oldJti same => cases issued; exact .untrackOld ..
    next => cases issued
  next expiresAt =>
    split at issued
    next jti =>
      split at issued
      next unused => cases issued; exact .trackNew _ _ _ _ unused
      next => cases issued
    next => cases issued
  next => cases issued

theorem plan_planned
    (planned : world.plan directory accessTtl txn task choice = some (stage, action)) :
    Planned directory accessTtl world txn task.call task.startedAt choice task.stage
      stage action := by
  unfold World.plan at planned
  split at planned
  next same => rw [same]; exact first_planned planned
  next user same =>
    rw [same]
    split at planned
    next => cases planned; exact .refused _
    next row _ =>
      split at planned
      next => cases planned; exact .authenticate _
      next => cases planned; exact .refused _
  next grant same =>
    rw [same]
    split at planned
    next user password login => cases planned; exact .create login _
    next token oldJti refresh => cases planned; exact .lockSession refresh _
    next => cases planned
  next grant expiresAt same =>
    rw [same]
    split at planned
    next jti =>
      split at planned
      next unused => cases planned; exact .track _ _ unused
      next => cases planned
    next => cases planned
  next grant same => rw [same]; cases planned; exact .advisory _
  next grant same =>
    rw [same]
    split at planned
    next token oldJti refresh => cases planned; exact .rotate refresh _
    next login => cases planned; exact .touch _ login
  next grant same =>
    rw [same]
    split at planned
    next => cases planned; exact .full _
    next below => cases planned; exact .room _ (Nat.lt_of_not_le below)
  next grant same =>
    rw [same]
    split at planned
    next token =>
      split at planned
      next oldest => cases planned; exact .pick _ rfl oldest
      next => cases planned
    next => cases planned
  next grant evicted same =>
    rw [same]
    dsimp only at planned
    split at planned
    next => cases planned; exact .add _ _ (.inl rfl)
    next => cases planned; exact .add _ _ (.inr rfl)
  next grant evicted row same =>
    rw [same]
    split at planned
    next => cases planned; exact .keep _ _
    next token at_ => cases planned; exact .evict ..
  next grant evicted row issue _ same =>
    rw [same]
    exact issue_planned planned
  next grant row same =>
    rw [same]
    split at planned
    next token => cases planned; exact .insert ..
    next => cases planned
  next => cases planned
  next same =>
    rw [same]
    split at planned
    next jti token user logout => cases planned; exact .untrack ..
    next => cases planned
  next same =>
    rw [same]
    split at planned
    next jti token user logout =>
      split at planned
      next seen => cases planned; exact .find logout seen
      next unseen => cases planned; exact .miss logout (Bool.eq_false_iff.mpr unseen)
    next => cases planned
  next record same =>
    rw [same]
    split at planned
    next => cases planned; exact .logoutNothing
    next token => cases planned; exact .logout _
  next same => rw [same]; exact flush_planned planned
  next same => rw [same]; cases planned; exact .snapshot
  next todo _ same =>
    rw [same]
    split at planned
    next user =>
      split at planned
      next member => cases planned; exact .flag member
      next => cases planned
    next => cases planned
  next rows at_ same => rw [same]; cases planned; exact .swept ..
  next rows todo at_ _ same =>
    rw [same]
    split at planned
    next token =>
      split at planned
      next member => cases planned; exact .sweep _ _ member
      next => cases planned
    next => cases planned
  next rows jtis calls same =>
    rw [same]
    split at planned
    next user fate =>
      split at planned
      next covered =>
        obtain ⟨⟨after, redis⟩, taken, done⟩ := Option.map_eq_some_iff.mp planned
        cases done
        exact .command _ _ _ covered _ taken
      next => cases planned
    next => cases planned
  next => cases planned

end

end Auth
