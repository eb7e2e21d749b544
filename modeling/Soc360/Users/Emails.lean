import Soc360.Users.Service

set_option autoImplicit false

namespace Users

/-- The columns are long enough for the row. -/
def User.fits (row : User) : Bool :=
  decide (row.email.length ≤ 255) && decide (row.hashedPassword.length ≤ 255) &&
    decide (row.fullName.length ≤ 255)

/-- `chk_superadmin_no_tenant` and `chk_user_has_tenant`. -/
def User.checked (row : User) : Bool :=
  !(row.isSuperadmin && row.tenantId.isSome) && !(!row.isSuperadmin && row.tenantId.isNone)

/-- A text as `EmailStr` returns it. -/
structure Texts.Normal (texts : Texts) (email : String) : Prop where
  lowered : texts.lower email = email
  stripped : texts.strip email = email

namespace Emails

/-- What `set_tenant_context` leaves a session to see. -/
inductive Context where
  | superadmin
  | tenant (tenantId : TenantId)
  deriving DecidableEq, Repr

/-- The policy `rls_users`, for the rows read and for the rows written. -/
def Context.sees : Context → User → Bool
  | superadmin, _ => true
  | tenant tenantId, row => row.tenantId == some tenantId

/-- The errors of PostgreSQL for a write of `users`, in the order of its checks. -/
inductive Violation where
  | tooLong
  | rowLevelSecurity
  | notNull
  | check
  | primaryKey
  | uniqueEmail
  deriving DecidableEq, Repr

def Violation.pgcode : Violation → String
  | tooLong => "22001"
  | rowLevelSecurity => "42501"
  | notNull => "23502"
  | check => "23514"
  | primaryKey => "23505"
  | uniqueEmail => "23505"

/-- What a call of the service raises. -/
inductive Raised where
  | userError (statusCode : Nat) (detail : String)
  | attributeError
  | database (violation : Violation)
  | serviceUnavailable
  deriving DecidableEq, Repr

namespace Raised

/-- The errors of the e-mail: the domain error in its two spellings, and the raw one. -/
def ofEmail (raised : Raised) : Bool :=
  [userError 409 "El email ya está registrado", userError 409 "El email ya esta registrado",
    database .uniqueEmail].contains raised

end Raised

section

variable (texts : Texts) (dbLower : String → String) (tenants : TenantId → Option Bool)
  (context : Context) (users : UserTable)

/-- The text that `email.lower().strip()` leaves. -/
def normalise (email : String) : String := texts.strip (texts.lower email)

/-- The rows of `users` that meet a condition, their `id` apart from `excludeId`. -/
def isHeld (excludeId : Option UserId) (matching : User → Bool) : Bool :=
  users.keys.any fun id => excludeId != some id && (users.slot id).satisfies matching

/-- `_is_email_taken`, over the rows that the session sees. -/
def isEmailTakenIn (email : String) (excludeId : Option UserId) : Bool :=
  isHeld users excludeId fun row => context.sees row && dbLower row.email == texts.lower email

/-- The INSERT or the UPDATE of a flush. The unique index holds every row. -/
def flush (isNew : Bool) (id : UserId) (row : User) (isActiveIsNull : Bool) :
    Except Violation User := do
  Except.refuse (!row.fits) .tooLong
  Except.refuse (!context.sees row) .rowLevelSecurity
  Except.refuse isActiveIsNull .notNull
  Except.refuse (!row.checked) .check
  Except.refuse (isNew && (users.find id).isSome) .primaryKey
  Except.refuse (isHeld users (some id) (·.email == row.email)) .uniqueEmail
  return row

/-- `create_user`. `isSuperadmin` is that of a `UserInternalCreate`. -/
def createUser (id : UserId) (data : UserCreate) (isSuperadmin : Bool) : Except Raised User := do
  Except.refuse (isEmailTakenIn texts dbLower context users data.email none)
    (.userError 409 "El email ya está registrado")
  (if isSuperadmin then .ok () else getActiveTenant tenants data.tenantId).mapError
    fun error => .userError error.statusCode error.detail
  Except.refuse (decide (72 < data.password.utf8ByteSize))
    (.userError 400 "Password exceeds 72 bytes (UTF-8). Choose a shorter password.")
  let user : User := {
    tenantId := data.tenantId
    email := normalise texts data.email
    hashedPassword := texts.hash data.password
    fullName := data.fullName
    role := data.role
    isActive := true
    isSuperadmin := isSuperadmin }
  (flush context users true id user false).mapError fun violation =>
    if violation.pgcode == "23505" then .userError 409 "El email ya está registrado"
    else .database violation

/-- An attribute whose null has no such method. -/
def assign {Value : Type} (field : Field Value) (user : User)
    (set : Value → User → Except Raised User) : Except Raised User :=
  match field with
  | .unset => .ok user
  | .null => .error .attributeError
  | .value given => set given user

/-- `update_user`. `served` tells whether Redis serves the revocation. -/
def updateUser (currentUser : User) (userId : UserId) (target : User) (data : UserUpdate)
    (served : Bool) : Except Raised User := do
  Except.refuse (!currentUser.isSuperadmin && target.tenantId != currentUser.tenantId)
    (.userError 403 "Permisos insuficientes")
  let isDeactivating := data.isActive == .value false && target.isActive
  let user ← assign data.email target fun email user => do
    let newEmail := normalise texts email
    Except.refuse (isEmailTakenIn texts dbLower context users newEmail (some userId))
      (.userError 409 "El email ya esta registrado")
    return { user with email := newEmail }
  let user ← assign data.fullName user fun fullName user =>
    .ok { user with fullName := texts.strip fullName }
  let user ← assign data.role user fun role user => .ok { user with role := role }
  let user := { user with isActive := data.isActive.get?.getD user.isActive }
  -- A flush has no handler here.
  let user ← (flush context users false userId user (data.isActive == .null)).mapError .database
  Except.refuse (isDeactivating && !served) .serviceUnavailable
  return user

end

/-- A call of the service, after the schemas and the policy of the router. -/
inductive Call where
  | createUser (id : UserId) (data : UserCreate) (isSuperadmin : Bool)
  | updateUser (currentUser : User) (userId : UserId) (target : User) (data : UserUpdate)
      (served : Bool)
  deriving DecidableEq, Repr

namespace Call

variable (texts : Texts) (dbLower : String → String) (tenants : TenantId → Option Bool)
  (context : Context) (users : UserTable)

def outcome : Call → Except Raised User
  | createUser id data isSuperadmin =>
      Emails.createUser texts dbLower tenants context users id data isSuperadmin
  | updateUser currentUser userId target data served =>
      Emails.updateUser texts dbLower context users currentUser userId target data served

/-- The rows that the request leaves: what raises rolls its transaction back. -/
def after (call : Call) : UserTable :=
  match call, call.outcome texts dbLower tenants context users with
  | _, .error _ => users
  | createUser id _ _, .ok row => users.insert id row
  | updateUser _ userId _ _ _, .ok row =>
      users.update fun id _ => if id = userId then some row else none

/-- The e-mail that the call gives its user. -/
def email? : Call → Option String
  | createUser _ data _ => some data.email
  | updateUser _ _ _ data _ => data.email.get?

def subject : Call → UserId
  | createUser id _ _ => id
  | updateUser _ userId _ _ _ => userId

end Call

/-- What `str.lower`, `str.strip`, `lower()` of PostgreSQL and bcrypt are taken to do. -/
structure Lawful (texts : Texts) (dbLower : String → String) : Prop where
  lower (text : String) : texts.lower (texts.lower text) = texts.lower text
  strip (text : String) :
    texts.strip (texts.lower (texts.strip text)) = texts.lower (texts.strip text)
  dbLower {text : String} (lowered : texts.lower text = text) : dbLower text = text
  hash (password : String) : (texts.hash password).length ≤ 255

/-- `users` as the service leaves it. -/
structure Consistent (texts : Texts) (users : UserTable) : Prop where
  listed : users.Listed
  normal {id : UserId} {row : User} (live : users.slot id = .live row) : texts.Normal row.email
  stored {id : UserId} {row : User} (live : users.slot id = .live row) :
    row.fits = true ∧ row.checked = true
  unique {id other : UserId} {row twin : User} (live : users.slot id = .live row)
    (twinLive : users.slot other = .live twin) (same : row.email = twin.email) : id = other

/-- The session of a request has the context of its user, whose tenant is active. -/
inductive Context.Of (tenants : TenantId → Option Bool) : Context → User → Prop
  | superadmin {currentUser : User} (staff : currentUser.isSuperadmin = true) :
      Of tenants .superadmin currentUser
  | tenant {currentUser : User} {tenantId : TenantId} (ordinary : currentUser.isSuperadmin = false)
      (own : currentUser.tenantId = some tenantId) (active : tenants tenantId = some true) :
      Of tenants (.tenant tenantId) currentUser

/-- What the schema and the router have checked before `create_user`. -/
structure Creatable (texts : Texts) (tenants : TenantId → Option Bool) (context : Context)
    (data : UserCreate) (isSuperadmin : Bool) : Prop where
  email : texts.Normal data.email
  password : data.password.utf8ByteSize ≤ 72
  fullName : data.fullName.length ≤ 255
  tenant : data.tenantId.isNone = isSuperadmin
  own {tenantId : TenantId} (scope : context = .tenant tenantId) :
    data.tenantId = some tenantId ∧ tenants tenantId = some true

/-- A call as the router makes it. -/
inductive Call.Admissible (texts : Texts) (tenants : TenantId → Option Bool) (context : Context)
    (users : UserTable) : Call → Prop
  | createUser {id : UserId} {data : UserCreate} {isSuperadmin : Bool}
      (unused : id ∉ users.keys)
      (creatable : Creatable texts tenants context data isSuperadmin) :
      Admissible texts tenants context users (.createUser id data isSuperadmin)
  | updateUser {currentUser target : User} {userId : UserId} {data : UserUpdate} {served : Bool}
      (scope : context.Of tenants currentUser) (live : users.slot userId = .live target)
      (seen : context.sees target = true)
      (email : ∀ given, data.email = .value given → texts.Normal given) :
      Admissible texts tenants context users (.updateUser currentUser userId target data served)

/-- Another user has the e-mail that the call gives. -/
def Call.Meets (texts : Texts) (users : UserTable) (call : Call) (id : UserId) (row : User) :
    Prop :=
  users.slot id = .live row ∧ id ≠ call.subject ∧
    call.email?.map (normalise texts) = some (normalise texts row.email)

def Call.Collides (texts : Texts) (users : UserTable) (call : Call) : Prop :=
  ∃ id row, call.Meets texts users id row

/-- An update gives the e-mail of a user that row-level security hides from it. -/
def Call.CollidesUnseen (texts : Texts) (context : Context) (users : UserTable) : Call → Prop
  | createUser _ _ _ => False
  | updateUser currentUser userId target data served => ∃ id row,
      (updateUser currentUser userId target data served).Meets texts users id row ∧
        context.sees row = false

/-- An e-mail in use ends the call in a domain error, and only that ends it for its e-mail. -/
structure Call.Surfaces (texts : Texts) (dbLower : String → String)
    (tenants : TenantId → Option Bool) (context : Context) (users : UserTable) (call : Call) :
    Prop where
  collides (met : call.Collides texts users) :
    (∃ detail, call.outcome texts dbLower tenants context users =
      .error (.userError 409 detail)) ∧ call.after texts dbLower tenants context users = users
  free (unmet : ¬ call.Collides texts users) {raised : Raised}
    (failed : call.outcome texts dbLower tenants context users = .error raised) :
    raised.ofEmail = false
  domain : call.outcome texts dbLower tenants context users ≠ .error (.database .uniqueEmail)

section

variable {texts : Texts} {dbLower : String → String} {tenants : TenantId → Option Bool}
  {context : Context} {users : UserTable}

theorem normalise_normal {email : String} (normal : texts.Normal email) :
    normalise texts email = email := by
  rw [normalise, normal.lowered, normal.stripped]

theorem Consistent.fresh (consistent : Consistent texts users) {id : UserId}
    (unused : id ∉ users.keys) : users.slot id = .fresh := by
  by_contra used
  exact unused (consistent.listed.known id used)

theorem isHeld_iff (listed : users.Listed) {excludeId : Option UserId} {matching : User → Bool} :
    isHeld users excludeId matching = true ↔
      ∃ id row, users.slot id = .live row ∧ excludeId ≠ some id ∧ matching row = true := by
  simp only [isHeld, List.any_eq_true, Bool.and_eq_true, bne_iff_ne, Slot.satisfies_iff]
  constructor
  · rintro ⟨id, -, other, row, live, matched⟩
    exact ⟨id, row, live, other, matched⟩
  · rintro ⟨id, row, live, other, matched⟩
    have used : users.slot id ≠ .fresh := by simp [live]
    exact ⟨id, listed.known id used, other, row, live, matched⟩

/-- The rows of the check that compares in lower case are those with the e-mail. -/
theorem isEmailTakenIn_iff (lawful : Lawful texts dbLower) (consistent : Consistent texts users)
    {email : String} (normal : texts.Normal email) {excludeId : Option UserId} :
    isEmailTakenIn texts dbLower context users email excludeId = true ↔
      ∃ id row, users.slot id = .live row ∧ excludeId ≠ some id ∧ context.sees row = true ∧
        row.email = email := by
  rw [isEmailTakenIn, isHeld_iff consistent.listed]
  refine exists_congr fun id => exists_congr fun row => and_congr_right fun live => ?_
  have lowered := (consistent.normal live).lowered
  rw [Bool.and_eq_true, beq_iff_eq, lawful.dbLower lowered, normal.lowered]

section

variable {isNew isActiveIsNull : Bool} {id : UserId} {row : User}

/-- The unique index is the last check of a flush. -/
theorem flush_uniqueEmail
    (failed : flush context users isNew id row isActiveIsNull = .error .uniqueEmail) :
    isHeld users (some id) (·.email == row.email) = true := by
  simp [flush, Except.bind_eq_error, Except.refuse_error, Except.refuse_ok, pure, Except.pure]
    at failed
  simpa using failed.2.2.2.2.2

theorem flush_primaryKey
    (failed : flush context users isNew id row isActiveIsNull = .error .primaryKey) :
    (users.find id).isSome = true := by
  simp [flush, Except.bind_eq_error, Except.refuse_error, Except.refuse_ok, pure, Except.pure]
    at failed
  simpa using failed.2.2.2.2.2

/-- A row that only the unique index refuses. -/
theorem flush_held (fits : row.fits = true) (seen : context.sees row = true)
    (checked : row.checked = true) (free : users.find id = none)
    (held : isHeld users (some id) (·.email == row.email) = true) :
    flush context users isNew id row false = .error .uniqueEmail := by
  simp only [flush, fits, seen, checked, free, held, Option.isSome_none, Bool.not_true,
    Bool.and_false]
  rfl

theorem flush_ok {stored : User}
    (passed : flush context users isNew id row isActiveIsNull = .ok stored) :
    stored = row ∧ row.fits = true ∧ row.checked = true ∧
      isHeld users (some id) (·.email == row.email) = false := by
  simp [flush, Except.bind_eq_ok, Except.refuse_ok, pure, Except.pure] at passed
  obtain ⟨fits, -, -, checked, -, held, same⟩ := passed
  exact ⟨same.symm, fits, checked, by simpa using held⟩

end

theorem getActiveTenant_error {tenantId : Option TenantId} {error : HttpError}
    (failed : getActiveTenant tenants tenantId = .error error) :
    error = ⟨404, "Tenant no encontrado"⟩ ∨ error = ⟨409, "El tenant está inactivo"⟩ := by
  cases tenantId with
  | none => cases failed
  | some tenantId =>
    rw [getActiveTenant] at failed
    split at failed
    · exact .inl (Except.error.inj failed).symm
    · exact .inr (Except.refuse_error.mp failed).2.symm

section

variable {id : UserId} {data : UserCreate} {isSuperadmin : Bool}

/-- `create_user` answers for the e-mail that its check or its flush finds. -/
theorem createUser_ofEmail {raised : Raised} (fresh : users.slot id = .fresh)
    (failed : createUser texts dbLower tenants context users id data isSuperadmin =
      .error raised) (ofEmail : raised.ofEmail = true) :
    (isEmailTakenIn texts dbLower context users data.email none = true ∨
      isHeld users (some id) (·.email == normalise texts data.email) = true) ∧
    raised = .userError 409 "El email ya está registrado" := by
  rcases Except.bind_eq_error.mp failed with taken | ⟨_, _, failed⟩
  · have refused := Except.refuse_error.mp taken
    exact ⟨.inl refused.1, refused.2.symm⟩
  rcases Except.bind_eq_error.mp failed with refused | ⟨_, _, failed⟩
  · obtain ⟨error, inactive, rfl⟩ := Except.mapError_eq_error.mp refused
    have known : (if isSuperadmin then .ok () else getActiveTenant tenants data.tenantId) =
        .error error := inactive
    split at known
    · cases known
    · rcases getActiveTenant_error known with rfl | rfl
      · exact absurd ofEmail (by decide)
      · exact absurd ofEmail (by decide)
  rcases Except.bind_eq_error.mp failed with refused | ⟨_, _, failed⟩
  · obtain ⟨-, rfl⟩ := Except.refuse_error.mp refused
    exact absurd ofEmail (by decide)
  obtain ⟨violation, violated, rfl⟩ := Except.mapError_eq_error.mp failed
  cases violation with
  | uniqueEmail => exact ⟨.inr (flush_uniqueEmail violated), rfl⟩
  | primaryKey =>
    have used := flush_primaryKey violated
    simp [Table.find, fresh] at used
  | tooLong | rowLevelSecurity | notNull | check => exact absurd ofEmail (by decide)

theorem createUser_taken
    (taken : isEmailTakenIn texts dbLower context users data.email none = true) :
    createUser texts dbLower tenants context users id data isSuperadmin =
      .error (.userError 409 "El email ya está registrado") := by
  rw [createUser, taken]
  rfl

/-- The handler of the flush answers for an e-mail that the check did not see. -/
theorem createUser_held (lawful : Lawful texts dbLower) (fresh : users.slot id = .fresh)
    {tenantId : TenantId} (creatable : Creatable texts tenants (.tenant tenantId) data isSuperadmin)
    (short : data.email.length ≤ 255)
    (held : isHeld users (some id) (·.email == data.email) = true) :
    createUser texts dbLower tenants (.tenant tenantId) users id data isSuperadmin =
      .error (.userError 409 "El email ya está registrado") := by
  cases taken : isEmailTakenIn texts dbLower (.tenant tenantId) users data.email none with
  | true => exact createUser_taken taken
  | false =>
    obtain ⟨own, active⟩ := creatable.own rfl
    have ordinary : isSuperadmin = false := by simpa [own] using creatable.tenant.symm
    subst ordinary
    have password : ¬ 72 < data.password.utf8ByteSize := by
      have := creatable.password
      omega
    let user : User := {
      tenantId := some tenantId
      email := data.email
      hashedPassword := texts.hash data.password
      fullName := data.fullName
      role := data.role
      isActive := true
      isSuperadmin := false }
    have fits : user.fits = true := by
      simp [User.fits, user, short, creatable.fullName, lawful.hash]
    have refused : flush (.tenant tenantId) users true id user false = .error .uniqueEmail := by
      apply flush_held fits
      · simp [Context.sees, user]
      · rfl
      · rw [Table.find, fresh]
        rfl
      · exact held
    rw [createUser, taken, own, getActiveTenant, active, normalise_normal creatable.email,
      decide_eq_false password]
    change (flush (.tenant tenantId) users true id user false).mapError _ = _
    rw [refused]
    rfl

end

section

variable {Value : Type} {field : Field Value} {user written : User} {raised : Raised}
  {set : Value → User → Except Raised User}

theorem assign_error (failed : assign field user set = .error raised) :
    raised = .attributeError ∨ ∃ given, field = .value given ∧ set given user = .error raised := by
  cases field with
  | unset => cases failed
  | null => exact .inl (Except.error.inj failed).symm
  | value given => exact .inr ⟨given, rfl, failed⟩

theorem assign_ok (passed : assign field user set = .ok written) :
    (field = .unset ∧ written = user) ∨
      ∃ given, field = .value given ∧ set given user = .ok written := by
  cases field with
  | unset => exact .inl ⟨rfl, (Except.ok.inj passed).symm⟩
  | null => cases passed
  | value given => exact .inr ⟨given, rfl, passed⟩

/-- An attribute that takes any value. -/
theorem assign_plain_error {change : Value → User → User}
    (failed : (assign field user fun given user => .ok (change given user)) = .error raised) :
    raised = .attributeError := by
  rcases assign_error failed with crashed | ⟨given, -, failed⟩
  · exact crashed
  · cases failed

theorem assign_plain_email {change : Value → User → User}
    (passed : (assign field user fun given user => .ok (change given user)) = .ok written)
    (kept : ∀ given user, (change given user).email = user.email) :
    written.email = user.email := by
  rcases assign_ok passed with ⟨-, rfl⟩ | ⟨given, -, passed⟩
  · rfl
  · cases passed
    exact kept given user

end

section

variable {currentUser target : User} {userId : UserId} {data : UserUpdate} {served : Bool}
  {raised : Raised}

/-- The errors of `update_user` on a user that the caller may write. -/
theorem updateUser_error
    (failed : updateUser texts dbLower context users currentUser userId target data served =
      .error raised) :
    raised = .userError 403 "Permisos insuficientes" ∨
    (∃ given, data.email = .value given ∧ raised = .userError 409 "El email ya esta registrado" ∧
      isEmailTakenIn texts dbLower context users (normalise texts given) (some userId) = true) ∨
    raised = .attributeError ∨
    (∃ violation row, raised = .database violation ∧
      row.email = (data.email.get?.map (normalise texts)).getD target.email ∧
      flush context users false userId row (data.isActive == .null) = .error violation) ∨
    raised = .serviceUnavailable := by
  rcases Except.bind_eq_error.mp failed with refused | ⟨_, _, failed⟩
  · exact .inl (Except.refuse_error.mp refused).2.symm
  rcases Except.bind_eq_error.mp failed with refused | ⟨mailed, mail, failed⟩
  · rcases assign_error refused with crashed | ⟨given, asked, refused⟩
    · exact .inr (.inr (.inl crashed))
    · rcases Except.bind_eq_error.mp refused with refused | ⟨_, _, refused⟩
      · obtain ⟨taken, rfl⟩ := Except.refuse_error.mp refused
        exact .inr (.inl ⟨given, asked, rfl, taken⟩)
      · cases refused
  have email : mailed.email = (data.email.get?.map (normalise texts)).getD target.email := by
    rcases assign_ok mail with ⟨unset, rfl⟩ | ⟨given, asked, passed⟩
    · rw [unset]
      rfl
    · obtain ⟨_, _, passed⟩ := Except.bind_eq_ok.mp passed
      cases passed
      rw [asked]
      rfl
  rcases Except.bind_eq_error.mp failed with refused | ⟨named, name, failed⟩
  · exact .inr (.inr (.inl (assign_plain_error refused)))
  rcases Except.bind_eq_error.mp failed with refused | ⟨ranked, rank, failed⟩
  · exact .inr (.inr (.inl (assign_plain_error refused)))
  rcases Except.bind_eq_error.mp failed with refused | ⟨_, _, failed⟩
  · obtain ⟨violation, violated, rfl⟩ := Except.mapError_eq_error.mp refused
    refine .inr (.inr (.inr (.inl ⟨violation, _, rfl, ?_, violated⟩)))
    change ranked.email = _
    rw [assign_plain_email rank fun _ _ => rfl, assign_plain_email name fun _ _ => rfl, email]
  rcases Except.bind_eq_error.mp failed with refused | ⟨_, _, failed⟩
  · exact .inr (.inr (.inr (.inr (Except.refuse_error.mp refused).2.symm)))
  · cases failed

theorem updateUser_taken (scope : context.Of tenants currentUser)
    (seen : context.sees target = true) {given : String} (asked : data.email = .value given)
    (taken : isEmailTakenIn texts dbLower context users (normalise texts given) (some userId) =
      true) :
    updateUser texts dbLower context users currentUser userId target data served =
      .error (.userError 409 "El email ya esta registrado") := by
  have allowed : (!currentUser.isSuperadmin && target.tenantId != currentUser.tenantId) =
      false := by
    cases scope with
    | superadmin staff => rw [staff]; rfl
    | @tenant _ tenantId ordinary own active =>
      have same : target.tenantId = some tenantId := by simpa [Context.sees] using seen
      simp [same, own]
  rw [updateUser, allowed, asked]
  simp only [assign]
  rw [taken]
  rfl

end

theorem after_of_error {call : Call} {raised : Raised}
    (failed : call.outcome texts dbLower tenants context users = .error raised) :
    call.after texts dbLower tenants context users = users := by
  cases call <;> simp only [Call.after, failed]

/-- The users that a call meets are those that have its e-mail. -/
theorem meets_iff (consistent : Consistent texts users) {call : Call} {given : String}
    (asked : call.email? = some given) (normal : texts.Normal given) {id : UserId} {row : User} :
    call.Meets texts users id row ↔
      users.slot id = .live row ∧ id ≠ call.subject ∧ row.email = given := by
  refine and_congr_right fun live => and_congr_right fun other => ?_
  rw [asked, Option.map_some, normalise_normal normal, normalise_normal (consistent.normal live),
    Option.some_inj]
  exact eq_comm

theorem createUser_surfaces (lawful : Lawful texts dbLower) (consistent : Consistent texts users)
    {id : UserId} {data : UserCreate} {isSuperadmin : Bool} (fresh : users.slot id = .fresh)
    (creatable : Creatable texts tenants context data isSuperadmin) :
    (Call.createUser id data isSuperadmin).Surfaces texts dbLower tenants context users := by
  have meets {other : UserId} {row : User} :
      (Call.createUser id data isSuperadmin).Meets texts users other row ↔
        users.slot other = .live row ∧ other ≠ id ∧ row.email = data.email :=
    meets_iff consistent rfl creatable.email
  constructor
  · rintro ⟨other, row, met⟩
    obtain ⟨live, differ, same⟩ := meets.mp met
    have ended : createUser texts dbLower tenants context users id data isSuperadmin =
        .error (.userError 409 "El email ya está registrado") := by
      cases context with
      | superadmin =>
        apply createUser_taken
        exact (isEmailTakenIn_iff lawful consistent creatable.email).mpr
          ⟨other, row, live, nofun, rfl, same⟩
      | tenant tenantId =>
        have fits := (consistent.stored live).1
        simp only [User.fits, Bool.and_eq_true, decide_eq_true_eq] at fits
        apply createUser_held lawful fresh creatable
        · rw [← same]
          exact fits.1.1
        · refine (isHeld_iff consistent.listed).mpr ⟨other, row, live, ?_, beq_iff_eq.mpr same⟩
          intro equal
          exact differ (Option.some.inj equal).symm
    exact ⟨⟨_, ended⟩, after_of_error ended⟩
  · intro unmet raised failed
    by_contra named
    have named : raised.ofEmail = true := by simpa using named
    apply unmet
    rcases (createUser_ofEmail fresh failed named).1 with taken | held
    · obtain ⟨other, row, live, -, -, same⟩ :=
        (isEmailTakenIn_iff lawful consistent creatable.email).mp taken
      refine ⟨other, row, meets.mpr ⟨live, ?_, same⟩⟩
      intro equal
      rw [equal, fresh] at live
      cases live
    · obtain ⟨other, row, live, differ, same⟩ := (isHeld_iff consistent.listed).mp held
      rw [normalise_normal creatable.email] at same
      refine ⟨other, row, meets.mpr ⟨live, ?_, beq_iff_eq.mp same⟩⟩
      intro equal
      exact differ (congrArg some equal.symm)
  · intro failed
    have named := (createUser_ofEmail fresh failed (by decide)).2
    cases named

section

variable {currentUser target : User} {userId : UserId} {data : UserUpdate} {served : Bool}

theorem Meets.asked {id : UserId} {row : User}
    (met : (Call.updateUser currentUser userId target data served).Meets texts users id row) :
    ∃ given, data.email = .value given := by
  obtain ⟨-, -, same⟩ := met
  obtain ⟨given, found, -⟩ := Option.map_eq_some_iff.mp same
  change data.email.get? = some given at found
  cases field : data.email with
  | value text => exact ⟨text, rfl⟩
  | unset | null =>
    rw [field] at found
    cases found

theorem meets_update (consistent : Consistent texts users) {given : String}
    (asked : data.email = .value given) (normal : texts.Normal given) {id : UserId} {row : User} :
    (Call.updateUser currentUser userId target data served).Meets texts users id row ↔
      users.slot id = .live row ∧ id ≠ userId ∧ row.email = given :=
  meets_iff consistent (show (Call.updateUser currentUser userId target data served).email? =
    some given from congrArg Field.get? asked) normal

/-- An update fails for its e-mail only where another user has it. -/
theorem updateUser_ofEmail (lawful : Lawful texts dbLower) (consistent : Consistent texts users)
    (live : users.slot userId = .live target)
    (email : ∀ given, data.email = .value given → texts.Normal given) {raised : Raised}
    (failed : updateUser texts dbLower context users currentUser userId target data served =
      .error raised) (ofEmail : raised.ofEmail = true) :
    (Call.updateUser currentUser userId target data served).Collides texts users := by
  rcases updateUser_error failed with
    rfl | ⟨given, asked, rfl, taken⟩ | rfl | ⟨violation, row, rfl, mailed, violated⟩ | rfl
  · exact absurd ofEmail (by decide)
  · have normal := email given asked
    rw [normalise_normal normal] at taken
    obtain ⟨other, twin, twinLive, differ, -, same⟩ :=
      (isEmailTakenIn_iff lawful consistent normal).mp taken
    refine ⟨other, twin, (meets_update consistent asked normal).mpr
      ⟨twinLive, ?_, same⟩⟩
    intro equal
    exact differ (congrArg some equal.symm)
  · exact absurd ofEmail (by decide)
  · cases violation with
    | uniqueEmail =>
      obtain ⟨other, twin, twinLive, differ, same⟩ :=
        (isHeld_iff consistent.listed).mp (flush_uniqueEmail violated)
      have same : twin.email = row.email := beq_iff_eq.mp same
      cases field : data.email with
      | value given =>
        have normal := email given field
        rw [field, Field.get?, Option.map_some, Option.getD_some, normalise_normal normal]
          at mailed
        refine ⟨other, twin, (meets_update consistent field normal).mpr
          ⟨twinLive, ?_, same.trans mailed⟩⟩
        intro equal
        exact differ (congrArg some equal.symm)
      | unset | null =>
        rw [field] at mailed
        have own := consistent.unique twinLive live (same.trans mailed)
        exact absurd (congrArg some own.symm) differ
    | tooLong | rowLevelSecurity | notNull | check | primaryKey =>
      exact absurd ofEmail (by decide)
  · exact absurd ofEmail (by decide)

theorem updateUser_surfaces_iff (lawful : Lawful texts dbLower)
    (consistent : Consistent texts users) (scope : context.Of tenants currentUser)
    (live : users.slot userId = .live target) (seen : context.sees target = true)
    (email : ∀ given, data.email = .value given → texts.Normal given) :
    (Call.updateUser currentUser userId target data served).Surfaces texts dbLower tenants context
        users ↔
      ¬ (Call.updateUser currentUser userId target data served).CollidesUnseen texts context
        users := by
  constructor
  · rintro surfaces ⟨other, row, met, unseen⟩
    obtain ⟨⟨detail, failed⟩, -⟩ := surfaces.collides ⟨other, row, met⟩
    rcases updateUser_error failed with
      ended | ⟨given, asked, -, taken⟩ | ended | ⟨violation, _, ended, -, -⟩ | ended
    · cases ended
    · have normal := email given asked
      rw [normalise_normal normal] at taken
      obtain ⟨twin, twinRow, twinLive, -, twinSeen, same⟩ :=
        (isEmailTakenIn_iff lawful consistent normal).mp taken
      obtain ⟨rowLive, -, own⟩ := (meets_update consistent asked normal).mp met
      have equal := consistent.unique twinLive rowLive (same.trans own.symm)
      rw [equal, rowLive] at twinLive
      cases twinLive
      rw [twinSeen] at unseen
      cases unseen
    · cases ended
    · cases ended
    · cases ended
  · intro unhidden
    have ended {other : UserId} {row : User}
        (met : (Call.updateUser currentUser userId target data served).Meets texts users other
          row) :
        updateUser texts dbLower context users currentUser userId target data served =
          .error (.userError 409 "El email ya esta registrado") := by
      obtain ⟨given, asked⟩ := Meets.asked met
      have normal := email given asked
      obtain ⟨rowLive, differ, same⟩ :=
        (meets_update consistent asked normal).mp met
      apply updateUser_taken scope seen asked
      rw [normalise_normal normal]
      refine (isEmailTakenIn_iff lawful consistent normal).mpr
        ⟨other, row, rowLive, ?_, ?_, same⟩
      · intro equal
        exact differ (Option.some.inj equal).symm
      · by_contra hidden
        exact unhidden ⟨other, row, met, by simpa using hidden⟩
    constructor
    · rintro ⟨other, row, met⟩
      exact ⟨⟨_, ended met⟩, after_of_error (ended met)⟩
    · intro unmet raised failed
      by_contra named
      exact unmet (updateUser_ofEmail lawful consistent live email failed
        (by simpa using named))
    · intro failed
      obtain ⟨other, row, met⟩ :=
        updateUser_ofEmail lawful consistent live email failed (by decide)
      have refused : updateUser texts dbLower context users currentUser userId target data served =
        .error (.database .uniqueEmail) := failed
      rw [ended met] at refused
      cases refused

end

/-- A row that a call writes. -/
structure Kept (texts : Texts) (users : UserTable) (id : UserId) (row : User) : Prop where
  normal : texts.Normal row.email
  stored : row.fits = true ∧ row.checked = true
  apart : isHeld users (some id) (·.email == row.email) = false

theorem createUser_ok {id : UserId} {data : UserCreate} {isSuperadmin : Bool} {row : User}
    (normal : texts.Normal data.email)
    (passed : createUser texts dbLower tenants context users id data isSuperadmin = .ok row) :
    Kept texts users id row := by
  obtain ⟨_, _, passed⟩ := Except.bind_eq_ok.mp passed
  obtain ⟨_, _, passed⟩ := Except.bind_eq_ok.mp passed
  obtain ⟨_, _, passed⟩ := Except.bind_eq_ok.mp passed
  obtain ⟨rfl, fits, checked, apart⟩ := flush_ok (Except.mapError_eq_ok.mp passed)
  refine ⟨?_, ⟨fits, checked⟩, apart⟩
  change texts.Normal (normalise texts data.email)
  rw [normalise_normal normal]
  exact normal

theorem updateUser_ok {currentUser target row : User} {userId : UserId} {data : UserUpdate}
    {served : Bool} (normal : texts.Normal target.email)
    (email : ∀ given, data.email = .value given → texts.Normal given)
    (passed : updateUser texts dbLower context users currentUser userId target data served =
      .ok row) :
    Kept texts users userId row := by
  obtain ⟨_, _, passed⟩ := Except.bind_eq_ok.mp passed
  obtain ⟨mailed, mail, passed⟩ := Except.bind_eq_ok.mp passed
  obtain ⟨named, name, passed⟩ := Except.bind_eq_ok.mp passed
  obtain ⟨ranked, rank, passed⟩ := Except.bind_eq_ok.mp passed
  obtain ⟨flushed, write, passed⟩ := Except.bind_eq_ok.mp passed
  obtain ⟨_, _, passed⟩ := Except.bind_eq_ok.mp passed
  cases passed
  obtain ⟨rfl, fits, checked, apart⟩ := flush_ok (Except.mapError_eq_ok.mp write)
  refine ⟨?_, ⟨fits, checked⟩, apart⟩
  change texts.Normal ranked.email
  rw [assign_plain_email rank fun _ _ => rfl, assign_plain_email name fun _ _ => rfl]
  rcases assign_ok mail with ⟨-, rfl⟩ | ⟨given, asked, passed⟩
  · exact normal
  · obtain ⟨_, _, passed⟩ := Except.bind_eq_ok.mp passed
    cases passed
    change texts.Normal (normalise texts given)
    rw [normalise_normal (email given asked)]
    exact email given asked

/-- A table that holds one more row, or one row anew. -/
theorem Consistent.write {written : UserTable} (consistent : Consistent texts users)
    (listed : written.Listed) {id : UserId} {row : User} (kept : Kept texts users id row)
    (self : ∀ found, written.slot id = .live found → found = row)
    (other : ∀ key, key ≠ id → written.slot key = users.slot key) : Consistent texts written := by
  have source {key : UserId} {found : User} (live : written.slot key = .live found) :
      (key = id ∧ found = row) ∨ (key ≠ id ∧ users.slot key = .live found) := by
    by_cases same : key = id
    · exact .inl ⟨same, self found (same ▸ live)⟩
    · exact .inr ⟨same, other key same ▸ live⟩
  have apart {key : UserId} {found : User} (differ : key ≠ id)
      (live : users.slot key = .live found) : found.email ≠ row.email := by
    intro same
    have held : isHeld users (some id) (·.email == row.email) = true :=
      (isHeld_iff consistent.listed).mpr ⟨key, found, live, fun equal =>
        differ (Option.some.inj equal).symm, beq_iff_eq.mpr same⟩
    rw [kept.apart] at held
    cases held
  refine ⟨listed, ?_, ?_, ?_⟩
  · intro key found live
    rcases source live with ⟨-, rfl⟩ | ⟨-, before⟩
    · exact kept.normal
    · exact consistent.normal before
  · intro key found live
    rcases source live with ⟨-, rfl⟩ | ⟨-, before⟩
    · exact kept.stored
    · exact consistent.stored before
  · intro key twinKey found twin live twinLive same
    rcases source live with ⟨rfl, rfl⟩ | ⟨differ, before⟩
    · rcases source twinLive with ⟨rfl, -⟩ | ⟨differ, before⟩
      · rfl
      · exact absurd same.symm (apart differ before)
    · rcases source twinLive with ⟨rfl, rfl⟩ | ⟨-, twinBefore⟩
      · exact absurd same (apart differ before)
      · exact consistent.unique before twinBefore same

theorem Consistent.empty : Consistent texts Table.empty :=
  ⟨Table.Listed.empty, nofun, nofun, nofun⟩

theorem Consistent.insert (consistent : Consistent texts users) {id : UserId} {row : User}
    (unused : id ∉ users.keys) (kept : Kept texts users id row) :
    Consistent texts (users.insert id row) := by
  apply consistent.write (consistent.listed.insert unused) kept
  · intro found live
    simpa [Table.insert] using live.symm
  · intro key differ
    simp [Table.insert, Function.update_of_ne differ]

/-- Every call keeps the e-mails normal and apart. -/
theorem Consistent.after (consistent : Consistent texts users) {call : Call}
    (admissible : call.Admissible texts tenants context users) :
    Consistent texts (call.after texts dbLower tenants context users) := by
  cases ended : call.outcome texts dbLower tenants context users with
  | error raised =>
    rw [after_of_error ended]
    exact consistent
  | ok row =>
    cases admissible with
    | @createUser id data isSuperadmin unused creatable =>
      simp only [Call.after, ended]
      exact consistent.insert unused (createUser_ok creatable.email ended)
    | @updateUser currentUser target userId data served scope live seen email =>
      simp only [Call.after, ended]
      refine consistent.write (consistent.listed.update _)
        (updateUser_ok (consistent.normal live) email ended) ?_ ?_
      · intro found written
        rw [Table.slot_update, live] at written
        simpa using written.symm
      · intro key differ
        rw [Table.slot_update]
        cases users.slot key <;> simp [differ]

/-- The tables that calls make. -/
inductive Reachable (texts : Texts) (dbLower : String → String) : UserTable → Prop
  | empty : Reachable texts dbLower Table.empty
  | call {users : UserTable} {tenants : TenantId → Option Bool} {context : Context} {call : Call}
      (before : Reachable texts dbLower users)
      (admissible : call.Admissible texts tenants context users) :
      Reachable texts dbLower (call.after texts dbLower tenants context users)

theorem Reachable.consistent (reachable : Reachable texts dbLower users) :
    Consistent texts users := by
  induction reachable with
  | empty => exact Consistent.empty
  | call before admissible ih => exact ih.after admissible

theorem emailStr_normal (lawful : Lawful texts dbLower) {given email : String}
    (accepted : texts.emailStr given = some email) : texts.Normal email := by
  unfold Texts.emailStr at accepted
  dsimp only at accepted
  split at accepted
  next =>
    cases accepted
    exact ⟨lawful.lower _, lawful.strip _⟩
  next => cases accepted

/-- The schema and the policy of the router admit the `create_user` of a request. -/
theorem creatable_of_request (lawful : Lawful texts dbLower) {currentUser : User}
    {body data : UserCreate} (scope : context.Of tenants currentUser)
    (valid : body.validate texts = .ok data) (allowed : checkCreate currentUser data = .ok ()) :
    Creatable texts tenants context data false := by
  rw [UserCreate.validate] at valid
  cases accepted : texts.emailStr body.email with
  | none => simp [accepted] at valid
  | some email =>
    simp only [accepted, Except.bind_eq_ok, Except.refuse_ok, decide_eq_false_iff_not] at valid
    obtain ⟨_, -, _, -, _, password, _, -, _, fullName, _, tenant, _, -, same⟩ := valid
    cases same
    refine ⟨emailStr_normal lawful accepted, Nat.not_lt.mp password, Nat.not_lt.mp fullName,
      tenant, ?_⟩
    rintro tenantId rfl
    cases scope with
    | tenant ordinary own active =>
      obtain ⟨_, same, -⟩ := Except.bind_eq_ok.mp allowed
      have same := Except.refuse_ok.mp same
      rw [ordinary, own] at same
      exact ⟨by simpa using same, active⟩

theorem normal_of_request (lawful : Lawful texts dbLower) {body data : UserUpdate}
    (valid : body.validate texts = .ok data) {given : String}
    (asked : data.email = .value given) : texts.Normal given := by
  obtain ⟨email, checked, valid⟩ := Except.bind_eq_ok.mp valid
  obtain ⟨_, -, valid⟩ := Except.bind_eq_ok.mp valid
  obtain ⟨_, -, valid⟩ := Except.bind_eq_ok.mp valid
  obtain ⟨_, -, valid⟩ := Except.bind_eq_ok.mp valid
  cases valid
  cases field : body.email with
  | unset | null =>
    rw [field] at checked
    cases checked
    cases asked
  | value text =>
    rw [field, UserUpdate.validateEmail] at checked
    cases accepted : texts.emailStr text with
    | none => simp [accepted] at checked
    | some found =>
      simp only [accepted] at checked
      split at checked
      · cases checked
      · cases checked
        cases asked
        exact emailStr_normal lawful accepted

/-- An e-mail in use always ends the call in a domain error, unless row-level security hides its
user from an update. -/
theorem email_collisions_surface_iff (lawful : Lawful texts dbLower)
    (consistent : Consistent texts users) {call : Call}
    (admissible : call.Admissible texts tenants context users) :
    call.Surfaces texts dbLower tenants context users ↔
      ¬ call.CollidesUnseen texts context users := by
  cases admissible with
  | createUser unused creatable =>
    have fresh := consistent.fresh unused
    exact iff_of_true (createUser_surfaces lawful consistent fresh creatable) not_false
  | updateUser scope live seen email =>
    exact updateUser_surfaces_iff lawful consistent scope live seen email

end

/-- Texts in lower case and without white space. -/
def plainTexts : Texts where
  lower := id
  strip := id
  hash _ := "$2b$12$h"

theorem plain_lawful : Lawful plainTexts id where
  lower _ := rfl
  strip _ := rfl
  dbLower _ := rfl
  hash _ := show "$2b$12$h".length ≤ 255 by decide

def acmeAdmin : User where
  tenantId := some 1
  email := "admin@acme.com"
  hashedPassword := "$2b$12$h"
  fullName := "Admin Acme"
  role := .admin
  isActive := true
  isSuperadmin := false

def acmeViewer : User :=
  { acmeAdmin with email := "viewer@acme.com", fullName := "Viewer Acme", role := .viewer }

def globexViewer : User :=
  { acmeAdmin with
    tenantId := some 2
    email := "viewer@globex.com"
    fullName := "Viewer Globex"
    role := .viewer }

/-- Users of two tenants. -/
def twoTenants : UserTable :=
  ((Table.empty.insert 1 acmeAdmin).insert 2 acmeViewer).insert 3 globexViewer

theorem twoTenants_consistent : Consistent plainTexts twoTenants := by
  apply Consistent.insert
  · apply Consistent.insert
    · apply Consistent.insert Consistent.empty
      · decide
      · exact ⟨⟨rfl, rfl⟩, by decide, by decide⟩
    · decide
    · exact ⟨⟨rfl, rfl⟩, by decide, by decide⟩
  · decide
  · exact ⟨⟨rfl, rfl⟩, by decide, by decide⟩

/-- The body of a PATCH that gives the e-mail of the other tenant's viewer. -/
def takenEmail : UserUpdate where
  email := .value "viewer@globex.com"
  fullName := .unset
  role := .unset
  isActive := .unset

/-- A creation with the e-mail of another tenant's user. -/
theorem email_collisions_surface_creating :
    (Call.createUser 4 ⟨"viewer@globex.com", "correct horse", "V", .viewer, some 1⟩ false).Surfaces
      plainTexts id (fun _ => some true) (.tenant 1) twoTenants := by
  refine (email_collisions_surface_iff plain_lawful twoTenants_consistent (.createUser ?_ ?_)).mpr
    not_false
  · decide
  · refine ⟨⟨rfl, rfl⟩, by decide, by decide, rfl, ?_⟩
    rintro tenantId ⟨⟩
    exact ⟨rfl, rfl⟩

/-- An update to the e-mail of another tenant's user ends in the raw error of the index. -/
theorem hidden_email_raises :
    (Call.updateUser acmeAdmin 2 acmeViewer takenEmail true).Admissible plainTexts
      (fun _ => some true) (.tenant 1) twoTenants ∧
    ¬ (Call.updateUser acmeAdmin 2 acmeViewer takenEmail true).Surfaces plainTexts id
      (fun _ => some true) (.tenant 1) twoTenants := by
  constructor
  · exact .updateUser (.tenant rfl rfl rfl) rfl rfl fun _ _ => ⟨rfl, rfl⟩
  · intro surfaces
    exact surfaces.domain rfl

end Emails

end Users
