import Soc360.Payloads.Requests

set_option autoImplicit false

/-! Which bodies of a user end in an error that no handler knows. -/

namespace Payloads

open Users (RoleEnum User UserId UserUpdate)
open Users.Emails (Context Raised isEmailTakenIn isHeld normalise)

section

variable (library : Library) (state : State)

/-- Where a PATCH of a user does not crash: the call is forbidden, or its e-mail is a text that
another visible user has, or no field of it is null, its texts are free of NUL and its e-mail
is that of no user whom row-level security hides. -/
def UserSound (context : Context) (currentUser : User) (userId : UserId) (target : User)
    (data : UserUpdate) : Prop :=
  (currentUser.isSuperadmin || target.tenantId == currentUser.tenantId) = true →
    data.email ≠ .null ∧
    (∀ email, data.email = .value email → (normalise library.users email).storable = true) ∧
    ((∃ email, data.email = .value email ∧ isEmailTakenIn library.users library.dbLower context
        state.users (normalise library.users email) (some userId) = true) ∨
      data.fullName ≠ .null ∧ data.role ≠ .null ∧ data.isActive ≠ .null ∧
      (∀ name, data.fullName = .value name → (library.users.strip name).storable = true) ∧
      ∀ email, data.email = .value email →
        isHeld state.users (some userId) (·.email == normalise library.users email) = false)

end

section

variable {library : Library} {state : State} {context : Context} {currentUser target : User}
  {userId : UserId} {data : UserUpdate}

/-- The row that the flush of an update sends. -/
def written (texts : Users.Texts) (target : User) (data : UserUpdate) : User :=
  { target with
    email := (data.email.get?.map (normalise texts)).getD target.email
    fullName := (data.fullName.get?.map texts.strip).getD target.fullName
    role := data.role.get?.getD target.role
    isActive := data.isActive.get?.getD target.isActive }

/-- The e-mail of the body is that of another visible user. -/
def taken (library : Library) (state : State) (context : Context) (userId : UserId)
    (data : UserUpdate) : Bool :=
  data.email.get?.any fun email => isEmailTakenIn library.users library.dbLower context
    state.users (normalise library.users email) (some userId)

theorem assign_unset {Value : Type} {set : Value → User → Except Raised User} :
    Users.Emails.assign .unset target set = .ok target := rfl

theorem assign_null {Value : Type} {set : Value → User → Except Raised User} :
    Users.Emails.assign .null target set = .error .attributeError := rfl

theorem assign_value {Value : Type} {given : Value} {set : Value → User → Except Raised User} :
    Users.Emails.assign (.value given) target set = set given target := rfl

/-- The assignments after that of the e-mail. -/
theorem assign_named {fullName : Users.Field String} {role : Users.Field RoleEnum} (strip : String → String)
    (user : User) (rest : User → Except Raised User) :
    (do
      let user ← Users.Emails.assign fullName user fun fullName user =>
        .ok { user with fullName := strip fullName }
      let user ← Users.Emails.assign role user fun role user => .ok { user with role := role }
      rest user) =
    if fullName = .null ∨ role = .null then .error .attributeError
    else rest { user with
      fullName := (fullName.get?.map strip).getD user.fullName
      role := role.get?.getD user.role } := by
  cases fullName with
  | null => rfl
  | unset =>
      cases role with
      | null => rfl
      | unset => simp [assign_unset, Except.ok_bind, Users.Field.get?]
      | value given => simp [assign_unset, assign_value, Except.ok_bind, Users.Field.get?]
  | value name =>
      cases role with
      | null => simp [assign_value, assign_null, Except.ok_bind, Except.error_bind]
      | unset => simp [assign_unset, assign_value, Except.ok_bind, Users.Field.get?]
      | value given => simp [assign_value, Except.ok_bind, Users.Field.get?]

theorem updateUser_eq
    (permitted : (currentUser.isSuperadmin || target.tenantId == currentUser.tenantId) = true) :
    Users.Emails.updateUser library.users library.dbLower context state.users currentUser userId
        target data true =
      if data.email = .null then .error .attributeError
      else if taken library state context userId data = true then
        .error (.userError 409 "El email ya esta registrado")
      else if data.fullName = .null ∨ data.role = .null then .error .attributeError
      else (Users.Emails.flush context state.users false userId
        (written library.users target data) (data.isActive == .null)).mapError .database := by
  obtain ⟨email, fullName, role, isActive⟩ := data
  have allowed :
      Except.refuse (!currentUser.isSuperadmin && target.tenantId != currentUser.tenantId)
        (Raised.userError 403 "Permisos insuficientes") = .ok () := by
    have passes : (!currentUser.isSuperadmin && target.tenantId != currentUser.tenantId) =
        false := by
      rw [bne, ← Bool.not_or, permitted]
      rfl
    rw [passes]
    rfl
  have served (outcome : Except Raised User) :
      (do
        let user ← outcome
        Except.refuse ((isActive == .value false && target.isActive) && !true) .serviceUnavailable
        return user) = outcome := by
    cases outcome with
    | error raised => rfl
    | ok user => simp [Except.refuse, bind, Except.bind, pure, Except.pure]
  simp only [Users.Emails.updateUser, allowed, Except.ok_bind, served]
  cases email with
  | null => rfl
  | unset =>
      simp only [assign_unset, Except.ok_bind]
      exact assign_named library.users.strip _ _
  | value given =>
      simp only [assign_value]
      by_cases held : isEmailTakenIn library.users library.dbLower context state.users
          (normalise library.users given) (some userId) = true
      · simp only [held, Except.refuse, if_true, Except.error_bind, taken, Users.Field.get?,
          Option.any_some]
        rfl
      · rw [Bool.not_eq_true] at held
        simp only [held, Except.refuse, if_false, Bool.false_eq_true, Except.ok_bind, taken,
          Users.Field.get?, Option.any_some, pure, Except.pure]
        exact assign_named library.users.strip _ _

theorem flush_passes_iff {row : User} {isActiveIsNull : Bool} (fits : row.fits = true)
    (seen : context.sees row = true) (checked : row.checked = true) :
    (∃ stored, Users.Emails.flush context state.users false userId row isActiveIsNull =
        .ok stored) ↔
      isActiveIsNull = false ∧ isHeld state.users (some userId) (·.email == row.email) = false := by
  rw [← Except.raisesOnly_never]
  cases isActiveIsNull with
  | false =>
      simp [Users.Emails.flush, Except.raisesOnly_bind, Except.raisesOnly_refuse,
        Except.refuse_ok, fits, seen, checked, pure, Except.pure, Except.raisesOnly_ok]
  | true =>
      simp [Users.Emails.flush, Except.raisesOnly_bind, Except.raisesOnly_refuse,
        Except.refuse_ok, fits, seen, checked]

/-- The texts of an accepted body fit their columns. -/
theorem validate_fits {body : UserUpdate} (valid : body.validate library.users = .ok data) :
    (∀ email, data.email = .value email → (normalise library.users email).length ≤ 255) ∧
      ∀ name, data.fullName = .value name → (library.users.strip name).length ≤ 255 := by
  have normal {given : String} (asked : data.email = .value given) :
      library.users.Normal given := Users.Emails.normal_of_request library.lawful valid asked
  obtain ⟨email, checked, valid⟩ := Except.bind_eq_ok.mp valid
  obtain ⟨_, -, valid⟩ := Except.bind_eq_ok.mp valid
  obtain ⟨_, long, valid⟩ := Except.bind_eq_ok.mp valid
  obtain ⟨_, -, valid⟩ := Except.bind_eq_ok.mp valid
  cases valid
  refine ⟨?_, ?_⟩
  · intro given asked
    rw [Users.Emails.normalise_normal (normal asked)]
    change email = .value given at asked
    subst asked
    cases field : body.email with
    | unset => rw [field] at checked; cases checked
    | null => rw [field] at checked; cases checked
    | value text =>
        rw [field, UserUpdate.validateEmail] at checked
        cases accepted : library.users.emailStr text with
        | none => simp [accepted] at checked
        | some found =>
            simp only [accepted] at checked
            split at checked
            next => cases checked
            next short =>
              cases checked
              exact Nat.le_of_not_lt short
  · intro name asked
    change body.fullName = .value name at asked
    rw [Except.refuse_ok, asked] at long
    have short : name.length ≤ 255 := by
      simpa [Users.Field.get?] using long
    exact (library.shorter name).trans short

theorem live_of_find {table : Users.UserTable}
    (found : (table.find userId).filter context.sees = some target) :
    table.slot userId = .live target ∧ context.sees target = true := by
  obtain ⟨stored, seen⟩ := Option.filter_eq_some_iff.mp found
  exact ⟨Slot.row?_eq_some.mp stored, seen⟩

/-- The e-mail that the row has already is that of no other user. -/
theorem isHeld_own (live : state.users.slot userId = .live target) :
    isHeld state.users (some userId) (·.email == target.email) = false := by
  rw [isHeld, List.any_eq_false]
  intro id _
  rw [Bool.and_eq_true, not_and, bne_iff_ne, Slot.satisfies_iff]
  intro other
  rintro ⟨twin, twinLive, same⟩
  apply other
  rw [state.userUnique live twinLive (beq_iff_eq.mp same).symm]

theorem written_flush_iff {body : UserUpdate} (valid : body.validate library.users = .ok data)
    (live : state.users.slot userId = .live target) (seen : context.sees target = true) :
    (∃ stored, Users.Emails.flush context state.users false userId
        (written library.users target data) (data.isActive == .null) = .ok stored) ↔
      data.isActive ≠ .null ∧ isHeld state.users (some userId)
        (·.email == (written library.users target data).email) = false := by
  obtain ⟨fits, checked⟩ := state.userStored live
  obtain ⟨shortEmail, shortName⟩ := validate_fits valid
  simp only [User.fits, Bool.and_eq_true, decide_eq_true_eq] at fits
  have fits' : (written library.users target data).fits = true := by
    simp only [User.fits, Bool.and_eq_true, decide_eq_true_eq]
    refine ⟨⟨?_, fits.1.2⟩, ?_⟩
    · cases field : data.email with
      | value email => simpa [written, field, Users.Field.get?] using shortEmail email field
      | unset => simpa [written, field, Users.Field.get?] using fits.1.1
      | null => simpa [written, field, Users.Field.get?] using fits.1.1
    · cases field : data.fullName with
      | value name => simpa [written, field, Users.Field.get?] using shortName name field
      | unset => simpa [written, field, Users.Field.get?] using fits.2
      | null => simpa [written, field, Users.Field.get?] using fits.2
  have seen' : context.sees (written library.users target data) = true := by
    cases context with
    | superadmin => rfl
    | tenant tenantId => exact seen
  rw [flush_passes_iff fits' seen' checked]
  simp

/-- The flush of an update that comes to it goes well. -/
def Flushes (library : Library) (state : State) (userId : UserId) (target : User)
    (data : UserUpdate) : Prop :=
  data.fullName ≠ .null ∧ data.role ≠ .null ∧ data.isActive ≠ .null ∧
    isHeld state.users (some userId) (·.email == (written library.users target data).email) = false

theorem updateUser_flushes {body : UserUpdate} (valid : body.validate library.users = .ok data)
    (live : state.users.slot userId = .live target) (seen : context.sees target = true)
    (permitted : (currentUser.isSuperadmin || target.tenantId == currentUser.tenantId) = true)
    (email : data.email ≠ .null) (free : taken library state context userId data = false)
    (flushes : Flushes library state userId target data) :
    Users.Emails.updateUser library.users library.dbLower context state.users currentUser userId
      target data true = .ok (written library.users target data) := by
  obtain ⟨name, role, isActive, unheld⟩ := flushes
  obtain ⟨stored, passed⟩ := (written_flush_iff valid live seen).mpr ⟨isActive, unheld⟩
  rw [updateUser_eq permitted, if_neg email, if_neg (Bool.eq_false_iff.mp free),
    if_neg (not_or.mpr ⟨name, role⟩), passed, (Users.Emails.flush_ok passed).1]
  rfl

/-- The service on its own: it does not crash on an e-mail that another visible user has. -/
theorem updateUser_handled_iff {body : UserUpdate}
    (valid : body.validate library.users = .ok data)
    (live : state.users.slot userId = .live target) (seen : context.sees target = true)
    (permitted : (currentUser.isSuperadmin || target.tenantId == currentUser.tenantId) = true) :
    (Users.Emails.updateUser library.users library.dbLower context state.users currentUser userId
        target data true).RaisesOnly (fun raised => (ofUsers raised).Handled) ↔
      data.email ≠ .null ∧ (taken library state context userId data = true ∨
        Flushes library state userId target data) := by
  by_cases email : data.email = .null
  · rw [updateUser_eq permitted, if_pos email, Except.raisesOnly_error]
    simp [email, ofUsers, Failure.Handled]
  · by_cases visible : taken library state context userId data = true
    · rw [updateUser_eq permitted, if_neg email, if_pos visible, Except.raisesOnly_error]
      simp [email, visible, ofUsers, Failure.Handled]
    · rw [Bool.not_eq_true] at visible
      constructor
      · intro handled
        refine ⟨email, .inr ?_⟩
        rw [updateUser_eq permitted, if_neg email, if_neg (Bool.eq_false_iff.mp visible)] at handled
        by_cases null : data.fullName = .null ∨ data.role = .null
        · rw [if_pos null, Except.raisesOnly_error] at handled
          cases handled
        · rw [if_neg null, Except.raisesOnly_mapError] at handled
          push Not at null
          exact ⟨null.1, null.2, (written_flush_iff valid live seen).mp
            (Except.raisesOnly_never.mp handled)⟩
      · rintro ⟨_, taken | flushes⟩
        · rw [visible] at taken
          cases taken
        · rw [updateUser_flushes valid live seen permitted email visible flushes]
          exact Except.raisesOnly_ok

theorem updateUser_written {row : User}
    (permitted : (currentUser.isSuperadmin || target.tenantId == currentUser.tenantId) = true)
    (passed : Users.Emails.updateUser library.users library.dbLower context state.users
      currentUser userId target data true = .ok row) :
    row = written library.users target data ∧
      taken library state context userId data = false := by
  rw [updateUser_eq permitted] at passed
  split at passed
  next => cases passed
  next =>
    split at passed
    next => cases passed
    next free =>
      split at passed
      next => cases passed
      next =>
        obtain ⟨same, _⟩ := Users.Emails.flush_ok (Except.mapError_eq_ok.mp passed)
        exact ⟨same, Bool.eq_false_iff.mpr free⟩

theorem isHeld_written (live : state.users.slot userId = .live target)
    (email : data.email ≠ .null) :
    isHeld state.users (some userId) (·.email == (written library.users target data).email) =
        false ↔
      ∀ given, data.email = .value given →
        isHeld state.users (some userId) (·.email == normalise library.users given) = false := by
  cases field : data.email with
  | null => exact absurd field email
  | unset =>
      have own := isHeld_own live
      simpa [written, field, Users.Field.get?] using own
  | value given => simp [written, field, Users.Field.get?]

theorem fullName_written :
    (data.fullName.get?.isSome && !(written library.users target data).fullName.storable) =
        false ↔
      ∀ name, data.fullName = .value name → (library.users.strip name).storable = true := by
  cases field : data.fullName with
  | unset => simp [Users.Field.get?]
  | null => simp [Users.Field.get?]
  | value name => simp [written, field, Users.Field.get?]

/-- The conditions of a user come to those of its flush. -/
theorem userSound_iff (live : state.users.slot userId = .live target)
    (permitted : (currentUser.isSuperadmin || target.tenantId == currentUser.tenantId) = true) :
    UserSound library state context currentUser userId target data ↔
      data.email ≠ .null ∧
      (data.email.get?.any fun email => !(normalise library.users email).storable) = false ∧
      (taken library state context userId data = true ∨
        Flushes library state userId target data ∧
        (data.fullName.get?.isSome && !(written library.users target data).fullName.storable) =
          false) := by
  rw [UserSound, taken, any_get_true, any_get_false, fullName_written]
  simp only [permitted, forall_const, Bool.not_eq_false']
  refine and_congr_right fun email => and_congr_right fun _ => or_congr_right ?_
  rw [Flushes, isHeld_written live email]
  tauto

/-- A PATCH of a user that its schema accepts. -/
theorem updateUser_raisesOnly_iff {body : UserUpdate}
    (valid : body.validate library.users = .ok data)
    (found : (state.users.find userId).filter context.sees = some target) :
    (updateUser library state context currentUser userId body).RaisesOnly Failure.Handled ↔
      UserSound library state context currentUser userId target data := by
  obtain ⟨live, seen⟩ := live_of_find found
  have validated : (body.validate library.users).mapError ofHttp = .ok data := by
    rw [valid]
    rfl
  simp only [updateUser, validated, Except.ok_bind, found]
  rw [Except.raisesOnly_refuse_bind id, Except.raisesOnly_bind, Except.raisesOnly_mapError]
  by_cases permitted :
      (currentUser.isSuperadmin || target.tenantId == currentUser.tenantId) = true
  · rw [updateUser_handled_iff valid live seen permitted, userSound_iff live permitted]
    simp only [permitted, Bool.true_and, Except.mapError_eq_ok]
    constructor
    · rintro ⟨storable, ⟨email, safe⟩, last⟩
      refine ⟨email, storable, ?_⟩
      by_cases visible : taken library state context userId data = true
      · exact .inl visible
      · have flushes := safe.resolve_left visible
        have passed := updateUser_flushes valid live seen permitted email
          (Bool.eq_false_iff.mpr visible) flushes
        exact .inr ⟨flushes, ((Except.raisesOnly_refuse_bind id).mp (last _ passed)).1⟩
    · rintro ⟨email, storable, safe⟩
      refine ⟨storable, ⟨email, safe.imp_right And.left⟩, ?_⟩
      intro user passed
      obtain ⟨rfl, free⟩ := updateUser_written permitted passed
      have named := (safe.resolve_left (Bool.eq_false_iff.mp free)).2
      exact (Except.raisesOnly_refuse_bind id).mpr ⟨named, Except.raisesOnly_ok⟩
  · have forbidden : Users.Emails.updateUser library.users library.dbLower context state.users
        currentUser userId target data true = .error (.userError 403 "Permisos insuficientes") := by
      have stops : (!currentUser.isSuperadmin && target.tenantId != currentUser.tenantId) =
          true := by
        rw [bne, ← Bool.not_or, Bool.eq_false_iff.mpr permitted]
        rfl
      rw [Users.Emails.updateUser, stops]
      rfl
    rw [forbidden, Except.raisesOnly_error]
    simp [permitted, UserSound, Except.mapError, ofUsers, Failure.Handled]

end

end Payloads
