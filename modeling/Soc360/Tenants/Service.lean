import Soc360.Auth.Flows
import Soc360.Store.Gather
import Soc360.Users.Service
import Mathlib.Data.PNat.Defs

set_option autoImplicit false

namespace Tenants

open Auth (Redis RefreshToken Revocation Seconds TokenHash)
open Users (HttpError Reply UserId UserTable internalError)

abbrev TenantId := Nat

inductive Plan where
  | free
  | starter
  | pro
  | enterprise
  deriving DecidableEq, Repr

/-- The text of the Literal, which the column holds. -/
def Plan.text : Plan → String
  | free => "free"
  | starter => "starter"
  | pro => "pro"
  | enterprise => "enterprise"

/-- `_PLAN_MAX_ASSETS`. -/
def planMaxAssets (plan : String) : Option Nat :=
  if plan = "free" then some 10
  else if plan = "starter" then some 25
  else if plan = "pro" then some 100
  else if plan = "enterprise" then some 500
  else none

theorem planMaxAssets_plan (plan : Plan) : ∃ limit, planMaxAssets plan.text = some limit := by
  cases plan
  · exact ⟨10, by decide⟩
  · exact ⟨25, by decide⟩
  · exact ⟨100, by decide⟩
  · exact ⟨500, by decide⟩

inductive Severity where
  | critical
  | high
  | medium
  | low
  deriving DecidableEq, Repr

structure ScanLimits where
  dailyMax : ℕ+ := 5
  concurrentMax : ℕ+ := 1
  deriving DecidableEq, Repr

/-- `TenantSettings`, which also validates what the column holds. -/
structure TenantSettings where
  notificationEmail : Option String := none
  scanSchedule : String := "0 2 * * *"
  severityThreshold : Severity := .medium
  timezone : String := "Europe/Madrid"
  scanLimits : ScanLimits := {}
  logBufferMax : ℕ+ := 500
  baselineResetRequested : Bool := false
  deriving DecidableEq, Repr

/-- The texts of the JSON that the column holds. -/
def TenantSettings.storable (settings : TenantSettings) : Bool :=
  settings.notificationEmail.all String.storable && settings.scanSchedule.storable &&
    settings.timezone.storable

/-- `TenantSettings()`. -/
def TenantSettings.defaults : TenantSettings := {}

/-- `ScanLimits()`. -/
def ScanLimits.defaults : ScanLimits := {}

structure ScanLimitsUpdate where
  dailyMax : Option ℕ+
  concurrentMax : Option ℕ+
  deriving DecidableEq, Repr

/-- The fields of `settings` that a body sets. -/
structure SettingsUpdate where
  notificationEmail : Option (Option String)
  scanSchedule : Option String
  severityThreshold : Option Severity
  timezone : Option String
  scanLimits : Option ScanLimitsUpdate
  logBufferMax : Option ℕ+
  baselineResetRequested : Option Bool
  deriving DecidableEq, Repr

/-- `merged.update`. A `scan_limits` in the body replaces the stored one as a whole, and a limit
that it does not set falls back to its default. -/
def SettingsUpdate.merge (given : SettingsUpdate) (current : TenantSettings) : TenantSettings where
  notificationEmail := given.notificationEmail.getD current.notificationEmail
  scanSchedule := given.scanSchedule.getD current.scanSchedule
  severityThreshold := given.severityThreshold.getD current.severityThreshold
  timezone := given.timezone.getD current.timezone
  scanLimits :=
    match given.scanLimits with
    | none => current.scanLimits
    | some limits =>
        let defaults : ScanLimits := {}
        ⟨limits.dailyMax.getD defaults.dailyMax, limits.concurrentMax.getD defaults.concurrentMax⟩
  logBufferMax := given.logBufferMax.getD current.logBufferMax
  baselineResetRequested := given.baselineResetRequested.getD current.baselineResetRequested

/-- A row of `tenants`. -/
structure Tenant where
  name : String
  plan : String
  maxAssets : Int
  isActive : Bool
  settings : Option TenantSettings
  deriving DecidableEq, Repr

structure TenantUpdate where
  name : Users.Field String
  plan : Users.Field Plan
  isActive : Users.Field Bool
  maxAssets : Users.Field Int
  settings : Users.Field SettingsUpdate
  deriving DecidableEq, Repr

/-- Functions of Python: `str.strip`, `repr` of a string, `str` of a UUID, and the name of the
class and the message of the error that ends a revocation. -/
structure Texts where
  strip : String → String
  repr : String → String
  uuid : UserId → String
  exception : UserId → Auth.Command → String × String

/-- The tables that the two calls read and write. -/
structure Database where
  tenants : Table TenantId Tenant
  users : UserTable
  tokens : Table TokenHash RefreshToken
  listed : users.Listed

namespace Database

variable (database : Database) (tenantId : TenantId)

/-- `select(User.id).where(User.tenant_id == tenant_id)`. -/
def members : List UserId :=
  database.users.keys.filter fun id =>
    (database.users.slot id).satisfies fun row => row.tenantId == some tenantId

/-- The UPDATE of a flush. -/
def writeTenant (row : Tenant) : Database :=
  { database with tenants := database.tenants.update fun id _ =>
      if id = tenantId then some row else none }

/-- `update(User).where(User.tenant_id == tenant_id).values(is_active=False)`. -/
def deactivateUsers : Database :=
  { database with
    users := database.users.update fun _ row =>
      if row.tenantId = some tenantId then some { row with isActive := false } else none
    listed := database.listed.update _ }

/-- `_revoke_all_user_tokens_for_tenant`. -/
def revokeAllUserTokensForTenant (now : Seconds) : Database :=
  { database with tokens := database.tokens.update fun _ row =>
      if row.covered (database.members tenantId) then some { row with revokedAt := some now }
      else none }

end Database

section

variable (texts : Texts)

def invalidPlan (plan : String) : HttpError := ⟨400, "Plan inválido: " ++ plan⟩

/-- `_plan_to_max_assets`. -/
def planToMaxAssets (plan : String) : Reply Nat :=
  match planMaxAssets plan with
  | none => .error (invalidPlan (texts.repr plan))
  | some limit => .ok limit

namespace TenantUpdate

variable (data : TenantUpdate) (tenant : Tenant)

/-- `None` has no `strip`. -/
def assignName : Reply Tenant :=
  match data.name with
  | .unset => .ok tenant
  | .null => .error internalError
  | .value name => .ok { tenant with name := texts.strip name }

def assignPlan : Reply Tenant :=
  match data.plan with
  | .unset => .ok tenant
  -- None is no plan, whether it is looked up here or for `max_assets`
  | .null => .error (invalidPlan "None")
  | .value plan =>
      match data.maxAssets with
      | .unset => do
          let limit ← planToMaxAssets texts plan.text
          return { tenant with plan := plan.text, maxAssets := limit }
      | _ => .ok { tenant with plan := plan.text }

/-- The plan of the body, if any, is already that of `tenant`. -/
def assignMaxAssets : Reply Tenant :=
  match data.maxAssets with
  | .unset => .ok tenant
  | .null => do
      let _ ← planToMaxAssets texts tenant.plan
      -- `None > int`
      .error internalError
  | .value maxAssets => do
      let limit ← planToMaxAssets texts tenant.plan
      Except.refuse (decide ((limit : Int) < maxAssets))
        ⟨422, "max_assets " ++ toString maxAssets ++ " excede el límite del plan " ++
          texts.repr tenant.plan ++ " (" ++ toString limit ++ ")"⟩
      return { tenant with maxAssets := maxAssets }

/-- The null in a NOT NULL column fails in the flush. -/
def assignIsActive : Reply Tenant :=
  match data.isActive with
  | .unset => .ok tenant
  | .null => .error internalError
  | .value isActive => .ok { tenant with isActive := isActive }

def assignSettings : Reply Tenant :=
  match data.settings with
  | .unset => .ok tenant
  | .null => .error internalError
  | .value given =>
      .ok { tenant with settings := some (given.merge (tenant.settings.getD .defaults)) }

/-- The assignments of `update_tenant` and the flush. -/
def assign : Reply Tenant := do
  let tenant ← data.assignName texts tenant
  let tenant ← data.assignPlan texts tenant
  let tenant ← data.assignMaxAssets texts tenant
  let tenant ← data.assignIsActive tenant
  let tenant ← data.assignSettings tenant
  -- the columns that the flush writes
  Except.refuse (data.name.get?.isSome &&
    (decide (255 < tenant.name.length) || !tenant.name.storable)) internalError
  Except.refuse (data.settings.get?.isSome && !tenant.settings.all TenantSettings.storable)
    internalError
  return tenant

/-- `is_deactivating`. -/
def isDeactivating : Bool := data.isActive == .value false && tenant.isActive

end TenantUpdate

end

/-- The revocations that `asyncio.gather` runs side by side, each between two commands. -/
abbrev Revocations := Gather UserId Revocation Redis

abbrev nextCommand (ttlSeconds : Seconds) : Gather.Next UserId Revocation Redis Fate :=
  fun user fate revocation redis => revocation.next user ttlSeconds fate redis

/-- One command of one of the users at a time. -/
def revocations (ttlSeconds : Seconds) (userIds : List UserId) :
    Machine Revocations (UserId × Fate) :=
  Gather.machine userIds (nextCommand ttlSeconds)

/-- A result or an exception. -/
def isOver : Revocation → Bool
  | .returned => true
  | .raised _ => true
  | _ => false

/-- `asyncio.gather` with `return_exceptions`, which waits for all of them. -/
def gatherRevocations (ttlSeconds : Seconds) (userIds : List UserId)
    (schedule : List (UserId × Fate)) (redis : Redis) : Option Revocations :=
  ((revocations ttlSeconds userIds).exec ⟨fun _ => .reading, redis⟩ schedule).bind fun last =>
    if userIds.all fun user => isOver (last.tasks user) then some last else none

section

variable (texts : Texts)

def outcome (user : UserId) : Revocation → String
  | .raised command =>
      texts.uuid user ++ ": " ++ (texts.exception user command).1 ++ " (" ++
        (texts.exception user command).2 ++ ")"
  | _ => texts.uuid user ++ ": success"

/-- The end of `_revoke_user_tokens_deterministically`, with the results in input order. -/
def revokeUserTokensDeterministically (userIds : List UserId) (results : UserId → Revocation) :
    Reply Unit :=
  Except.refuse (userIds.any fun user => results user != .returned)
    ⟨503, "Tenant token revocation partially failed: " ++
      "; ".intercalate (userIds.map fun user => outcome texts user (results user))⟩

/-- How one call goes: the clock, the order in which the SELECT gives the users, and the order
and the fates of the commands of their revocations. -/
structure Attempt where
  now : Seconds
  userIds : List UserId
  schedule : List (UserId × Fate)

variable (ttlSeconds : Seconds) (tenantId : TenantId) (attempt : Attempt)

/-- The rows that both calls leave to the commit, `tenant` being the row of the tenant. -/
def deactivation (tenant : Tenant) (database : Database) : Database :=
  ((database.writeTenant tenantId tenant).deactivateUsers tenantId).revokeAllUserTokensForTenant
    tenantId attempt.now

/-- What both calls do with a tenant that they deactivate. -/
def endSessions (tenant : Tenant) (database : Database) (redis : Redis) :
    Option (Reply (Tenant × Database) × Redis) :=
  let written := deactivation tenantId attempt tenant database
  if attempt.userIds.isPerm (written.members tenantId) then
    (gatherRevocations ttlSeconds attempt.userIds attempt.schedule redis).map fun last =>
      ((revokeUserTokensDeterministically texts attempt.userIds last.tasks).map fun _ =>
        (tenant, written), last.store)
  else none

namespace Service

def deactivateTenant (database : Database) (redis : Redis) :
    Option (Reply (Tenant × Database) × Redis) :=
  match database.tenants.find tenantId with
  | none => some (.error ⟨404, "Tenant no encontrado"⟩, redis)
  | some tenant =>
      if tenant.isActive then
        endSessions texts ttlSeconds tenantId attempt { tenant with isActive := false }
          database redis
      else some (.error ⟨409, "El tenant ya esta desactivado"⟩, redis)

def updateTenant (data : TenantUpdate) (database : Database) (redis : Redis) :
    Option (Reply (Tenant × Database) × Redis) :=
  match database.tenants.find tenantId with
  | none => some (.error ⟨404, "Tenant no encontrado"⟩, redis)
  | some tenant =>
      match data.assign texts tenant with
      | .error error => some (.error error, redis)
      | .ok updated =>
          if data.isDeactivating tenant then
            endSessions texts ttlSeconds tenantId attempt updated database redis
          else some (.ok (updated, database.writeTenant tenantId updated), redis)

end Service

inductive Call where
  | deactivateTenant
  | updateTenant (data : TenantUpdate)
  deriving DecidableEq, Repr

namespace Call

def run (database : Database) (redis : Redis) : Call → Option (Reply (Tenant × Database) × Redis)
  | deactivateTenant => Service.deactivateTenant texts ttlSeconds tenantId attempt database redis
  | updateTenant data =>
      Service.updateTenant texts ttlSeconds tenantId attempt data database redis

/-- The call in the transaction of its request, which a raise rolls back. -/
def request (call : Call) (database : Database) (redis : Redis) :
    Option (Reply Tenant × Database × Redis) :=
  (call.run texts ttlSeconds tenantId attempt database redis).map fun (reply, redis) =>
    match reply with
    | .ok (tenant, written) => (.ok tenant, written, redis)
    | .error error => (.error error, database, redis)

/-- Requests that all raise, one after the other. -/
def failedRequests (call : Call) : List Attempt → Database → Redis → Option (Database × Redis)
  | [], database, redis => some (database, redis)
  | attempt :: rest, database, redis =>
      match call.request texts ttlSeconds tenantId attempt database redis with
      | some (.error _, database, redis) => call.failedRequests rest database redis
      | _ => none

/-- The call deactivates the tenant: the tenant is active, and the other fields of an update are
accepted. -/
def Deactivates (tenant : Tenant) : Call → Prop
  | deactivateTenant => tenant.isActive = true
  | updateTenant data => data.isDeactivating tenant = true ∧
      ∃ updated, data.assign texts tenant = .ok updated

end Call

end

end Tenants
