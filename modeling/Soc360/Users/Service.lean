import Soc360.Store.Checks
import Soc360.Store.Machine
import Soc360.Store.Table
import Soc360.Text.Python
import Soc360.Text.Regex
import Mathlib.Tactic.Common

set_option autoImplicit false

namespace Users

abbrev UserId := Nat
abbrev TenantId := Nat

inductive RoleEnum where
  | viewer
  | analyst
  | ingestor
  | admin
  | superadmin
  deriving DecidableEq, Repr

/-- `ROLE_HIERARCHY`. -/
def RoleEnum.level : RoleEnum → Nat
  | viewer => 0
  | analyst => 1
  | ingestor => 1
  | admin => 2
  | superadmin => 99

def hasMinimumRole (userRole requiredRole : RoleEnum) : Bool :=
  decide (requiredRole.level ≤ userRole.level)

/-- A row of `users`. The CHECK on `role` leaves the members of `RoleEnum`. -/
structure User where
  tenantId : Option TenantId
  email : String
  hashedPassword : String
  fullName : String
  role : RoleEnum
  isActive : Bool
  isSuperadmin : Bool
  deriving DecidableEq, Repr

/-- `chk_superadmin_no_tenant` and `chk_user_has_tenant`, and the lengths of the columns. -/
def User.storable (row : User) : Bool :=
  !(row.isSuperadmin && row.tenantId.isSome) && !(!row.isSuperadmin && row.tenantId.isNone) &&
    decide (row.email.length ≤ 255) && decide (row.hashedPassword.length ≤ 255) &&
    decide (row.fullName.length ≤ 255)

abbrev UserTable := Table UserId User

structure HttpError where
  statusCode : Nat
  detail : String
  deriving DecidableEq, Repr

abbrev Reply := Except HttpError

/-- An exception that no handler knows, of Python or of the database. -/
def internalError : HttpError := ⟨500, "Internal Server Error"⟩

def unprocessable (message : String) : HttpError := ⟨422, message⟩

/-- String functions of Python and bcrypt. -/
structure Texts where
  lower : String → String
  strip : String → String
  hash : String → String

/-- `[^@\s]`. -/
def mailChar : Regex := .chars fun char => char != '@' && !Python.isSpace char

/-- `_EMAIL_RE`. -/
def emailRe : Regex :=
  .seq (.plus mailChar) (.seq (.literal "@") (.seq (.plus mailChar) (.seq (.literal ".")
    (.seq (.plus mailChar) .stop))))

/-- `EmailStr`, by `_validate_email_lenient`. -/
def Texts.emailStr (texts : Texts) (given : String) : Option String :=
  let email := texts.lower (texts.strip given)
  if emailRe.matchesStart email.toList then some email else none

/-- A field of a JSON body: absent, null or a value. -/
inductive Field (Value : Type) where
  | unset
  | null
  | value (value : Value)
  deriving DecidableEq, Repr

namespace Field

variable {Value : Type}

/-- The attribute of the model: the default is None. -/
def get? : Field Value → Option Value
  | value given => some given
  | _ => none

end Field

structure UserCreate where
  email : String
  password : String
  fullName : String
  role : RoleEnum
  tenantId : Option TenantId
  deriving DecidableEq, Repr

structure UserUpdate where
  email : Field String
  fullName : Field String
  role : Field RoleEnum
  isActive : Field Bool
  deriving DecidableEq, Repr

/-- `UserCreate`, which knows no `is_superadmin`. -/
def UserCreate.validate (texts : Texts) (body : UserCreate) : Reply UserCreate :=
  match texts.emailStr body.email with
  | none => .error (unprocessable "Formato de email inválido")
  | some email => do
      Except.refuse (decide (body.password.length < 12))
        (unprocessable "String should have at least 12 characters")
      Except.refuse (decide (128 < body.password.length))
        (unprocessable "String should have at most 128 characters")
      Except.refuse (decide (72 < body.password.utf8ByteSize))
        (unprocessable "Password exceeds 72 bytes (UTF-8). Choose a shorter password.")
      Except.refuse (decide (body.fullName.length < 1))
        (unprocessable "String should have at least 1 character")
      Except.refuse (decide (255 < body.fullName.length))
        (unprocessable "String should have at most 255 characters")
      Except.refuse body.tenantId.isNone (unprocessable "Un usuario debe tener tenant_id")
      Except.refuse (body.role == .superadmin)
        (unprocessable "role='superadmin' requiere creación interna")
      return { body with email := email }

def UserUpdate.validateEmail (texts : Texts) : Field String → Reply (Field String)
  | .value given =>
      match texts.emailStr given with
      | none => .error (unprocessable "Formato de email inválido")
      | some email =>
          if 255 < email.length then
            .error (unprocessable "String should have at most 255 characters")
          else .ok (.value email)
  | field => .ok field

def UserUpdate.validate (texts : Texts) (body : UserUpdate) : Reply UserUpdate := do
  let email ← validateEmail texts body.email
  Except.refuse (body.fullName.get?.any (·.length < 1))
    (unprocessable "String should have at least 1 character")
  Except.refuse (body.fullName.get?.any (255 < ·.length))
    (unprocessable "String should have at most 255 characters")
  Except.refuse (body.role.get? == some .superadmin)
    (unprocessable ("No se puede asignar role='superadmin' via update. " ++
      "Los superadmins se crean directamente."))
  return { body with email := email }

section

variable (tenants : TenantId → Option Bool)

/-- `get_current_user`, after the checks of the token. `tenants` gives the `is_active` of the
rows of `tenants`. -/
def getCurrentUser : Option User → Reply User
  | none => .error ⟨401, "Usuario no encontrado o inactivo"⟩
  | some user => do
      Except.refuse (!user.isActive) ⟨401, "Usuario no encontrado o inactivo"⟩
      Except.refuse (!user.isSuperadmin && (user.tenantId.bind tenants) != some true)
        ⟨401, "Tenant inactivo o no encontrado"⟩
      return user

def requireRole (minimumRole : RoleEnum) (currentUser : User) : Reply Unit :=
  Except.refuse (!hasMinimumRole currentUser.role minimumRole) ⟨403, "Permisos insuficientes"⟩

/-- `_get_user_for_admin`, on the row of the target. -/
def getUserForAdmin (currentUser : User) : Option User → Reply User
  | none => .error ⟨404, "Usuario no encontrado"⟩
  | some row => do
      Except.refuse (!currentUser.isSuperadmin && row.tenantId != currentUser.tenantId)
        ⟨403, "Permisos insuficientes"⟩
      return row

/-- The policy of `create_user` in the router. -/
def checkCreate (currentUser : User) (body : UserCreate) : Reply Unit := do
  Except.refuse (!currentUser.isSuperadmin && body.tenantId != currentUser.tenantId)
    ⟨403, "Solo puedes crear usuarios en tu propio tenant."⟩
  Except.refuse (!currentUser.isSuperadmin && (body.role == .admin || body.role == .superadmin))
    ⟨403, "No puedes asignar un rol igual o superior al tuyo"⟩

/-- The policy of `update_user` in the router. -/
def checkUpdate (currentUser target : User) (isSelf : Bool) (body : UserUpdate) : Reply Unit :=
  if currentUser.isSuperadmin then
    Except.refuse (isSelf && body.isActive.get? == some false)
      ⟨409, "No puedes desactivarte a ti mismo"⟩
  else if isSelf then
    Except.refuse (body.role.get?.isSome || body.isActive.get?.isSome)
      ⟨403, "No puedes cambiar tu propio rol o estado de activación"⟩
  else if hasMinimumRole currentUser.role .admin then do
    Except.refuse target.isSuperadmin ⟨403, "No puedes modificar a un superadmin."⟩
    Except.refuse (body.role.get?.any (hasMinimumRole · .admin))
      ⟨403, "No puedes elegir un rol igual o superior al tuyo"⟩
    Except.refuse (body.isActive.get?.isSome && hasMinimumRole target.role .admin)
      ⟨403, "Un admin no puede cambiar el estado de activación de otro admin"⟩
  else .error ⟨403, "Permisos insuficientes"⟩

/-- The policy of `deactivate_user` in the router. -/
def checkDeactivate (currentUser target : User) (isSelf : Bool) : Reply Unit := do
  Except.refuse isSelf ⟨409, "No puedes desactivarte a ti mismo"⟩
  Except.refuse (!currentUser.isSuperadmin && target.isSuperadmin)
    ⟨403, "No se puede desactivar a un superadmin"⟩
  Except.refuse (!currentUser.isSuperadmin && hasMinimumRole target.role .admin)
    ⟨403, "Un admin no puede desactivar a otro admin"⟩

end

section

variable (texts : Texts) (tenants : TenantId → Option Bool) (users : UserTable)

/-- `_is_email_taken`. -/
def isEmailTaken (email : String) (excludeId : Option UserId) : Bool :=
  users.keys.any fun id => excludeId != some id &&
    (users.slot id).satisfies fun row => texts.lower row.email == texts.lower email

/-- `_get_active_tenant`, where there is a `tenant_id`. -/
def getActiveTenant : Option TenantId → Reply Unit
  | none => .ok ()
  | some tenantId =>
      match tenants tenantId with
      | none => .error ⟨404, "Tenant no encontrado"⟩
      | some isActive => Except.refuse (!isActive) ⟨409, "El tenant está inactivo"⟩

def Service.createUser (id : UserId) (data : UserCreate) : Reply User := do
  Except.refuse (isEmailTaken texts users data.email none) ⟨409, "El email ya está registrado"⟩
  getActiveTenant tenants data.tenantId
  Except.refuse (decide (72 < data.password.utf8ByteSize))
    ⟨400, "Password exceeds 72 bytes (UTF-8). Choose a shorter password."⟩
  let user : User := {
    tenantId := data.tenantId
    email := texts.strip (texts.lower data.email)
    hashedPassword := texts.hash data.password
    fullName := data.fullName
    role := data.role
    isActive := true
    -- `getattr(data, "is_superadmin", False)`
    isSuperadmin := false }
  -- The INSERT of the flush. The primary key is the only unique value not looked up above.
  Except.refuse (!user.storable) internalError
  match users.slot id with
  | .fresh => return user
  | _ => .error ⟨409, "El email ya está registrado"⟩

/-- One attribute of `update_user`. A null in the body raises: None has no such method, and
the column is NOT NULL. -/
def assign {Value : Type} (field : Field Value) (user : User)
    (set : Value → User → Reply User) : Reply User :=
  match field with
  | .unset => .ok user
  | .null => .error internalError
  | .value given => set given user

/-- `served` tells whether Redis serves the revocation. -/
def Service.updateUser (currentUser : User) (userId : UserId) (target : User)
    (data : UserUpdate) (served : Bool) : Reply User := do
  Except.refuse (!currentUser.isSuperadmin && target.tenantId != currentUser.tenantId)
    ⟨403, "Permisos insuficientes"⟩
  let isDeactivating := data.isActive == .value false && target.isActive
  let user ← assign data.email target fun email user => do
    let newEmail := texts.strip (texts.lower email)
    Except.refuse (isEmailTaken texts users newEmail (some userId))
      ⟨409, "El email ya esta registrado"⟩
    return { user with email := newEmail }
  let user ← assign data.fullName user fun fullName user =>
    .ok { user with fullName := texts.strip fullName }
  let user ← assign data.role user fun role user => .ok { user with role := role }
  let user ← assign data.isActive user fun isActive user =>
    .ok { user with isActive := isActive }
  Except.refuse (!user.storable) internalError
  Except.refuse (isDeactivating && !served) ⟨503, "Redis service unavailable"⟩
  return user

def Service.deactivateUser (currentUser target : User) (served : Bool) : Reply User := do
  Except.refuse (!currentUser.isSuperadmin && target.tenantId != currentUser.tenantId)
    ⟨403, "Permisos insuficientes"⟩
  Except.refuse (!target.isActive) ⟨409, "El usuario ya está desactivado"⟩
  let user := { target with isActive := false }
  Except.refuse (!user.storable) internalError
  Except.refuse (!served) ⟨503, "Redis service unavailable"⟩
  return user

end

/-- A request of an authenticated user. `id` is the `uuid4()` of a new row, and `served` tells
whether Redis serves the lease of a deactivation and the revocation. -/
inductive Request where
  | createUser (actor : UserId) (body : UserCreate) (id : UserId)
  | updateUser (actor userId : UserId) (body : UserUpdate) (served : Bool)
  | deactivateUser (actor userId : UserId) (served : Bool)
  deriving DecidableEq, Repr

namespace Request

def actor : Request → UserId
  | createUser actor _ _ => actor
  | updateUser actor _ _ _ => actor
  | deactivateUser actor _ _ => actor

/-- The row that the request writes. -/
def written : Request → UserId
  | createUser _ _ id => id
  | updateUser _ userId _ _ => userId
  | deactivateUser _ userId _ => userId

/-- The endpoints of `/users`: the dependencies, the schema, the policy and the service. -/
def respond (texts : Texts) (tenants : TenantId → Option Bool) (users : UserTable) :
    Request → Reply User
  | createUser actor body id => do
      let currentUser ← getCurrentUser tenants (users.find actor)
      requireRole .admin currentUser
      let body ← body.validate texts
      checkCreate currentUser body
      Service.createUser texts tenants users id body
  | updateUser actor userId body served => do
      let currentUser ← getCurrentUser tenants (users.find actor)
      let target ← getUserForAdmin currentUser (users.find userId)
      let body ← body.validate texts
      checkUpdate currentUser target (userId == actor) body
      Service.updateUser texts users currentUser userId target body served
  | deactivateUser actor userId served => do
      let currentUser ← getCurrentUser tenants (users.find actor)
      requireRole .admin currentUser
      let target ← getUserForAdmin currentUser (users.find userId)
      Except.refuse (!served) ⟨503, "lock_timeout"⟩
      checkDeactivate currentUser target (userId == actor)
      Service.deactivateUser currentUser target served

end Request

/-- The rows after a request: a raise rolls its transaction back. -/
def UserTable.after (users : UserTable) (request : Request) : Reply User → UserTable
  | .error _ => users
  | .ok user =>
      match request with
      | .createUser _ _ id => users.insert id user
      | _ => { users with slot := Function.update users.slot request.written (.live user) }

/-- One request after the other, over any rows. -/
def requests (texts : Texts) (tenants : TenantId → Option Bool) : Machine UserTable Request where
  start _ := True
  step users request := some (UserTable.after users request (request.respond texts tenants users))

end Users
