import Soc360.Users.Service

set_option autoImplicit false

namespace Users

/-- The target and the body that the router hands to `service.update_user`, unless it refuses the
PATCH. -/
def Request.handed (texts : Texts) (tenants : TenantId → Option Bool) (users : UserTable) :
    Request → Option (User × UserUpdate)
  | .updateUser actor userId body _ => Except.toOption do
      let currentUser ← getCurrentUser tenants (users.find actor)
      let target ← getUserForAdmin currentUser (users.find userId)
      let body ← body.validate texts
      checkUpdate currentUser target (userId == actor) body
      return (target, body)
  | _ => none

/-- What an accepted request found and what it writes. -/
inductive Accepted (texts : Texts) (tenants : TenantId → Option Bool) (users : UserTable) :
    Request → User → Prop
  | created {actor : UserId} {body : UserCreate} {id : UserId} {currentUser user : User}
      (known : users.find actor = some currentUser) (fresh : users.slot id = .fresh)
      (ordinary : user.isSuperadmin = false ∧ user.tenantId ≠ none ∧ user.role ≠ .superadmin)
      (own : currentUser.isSuperadmin = false →
        user.tenantId = currentUser.tenantId ∧ user.role ≠ .admin) :
      Accepted texts tenants users (.createUser actor body id) user
  | updated {actor userId : UserId} {body : UserUpdate} {served : Bool}
      {currentUser target user : User} (known : users.find actor = some currentUser)
      (found : users.find userId = some target)
      (tenant : user.tenantId = target.tenantId ∧ user.isSuperadmin = target.isSuperadmin)
      (role : user.role = body.role.get?.getD target.role)
      (isActive : user.isActive = body.isActive.get?.getD target.isActive)
      (schema : body.role.get? ≠ some .superadmin)
      (own : currentUser.isSuperadmin = false → target.tenantId = currentUser.tenantId)
      (self : currentUser.isSuperadmin = false → userId = actor →
        body.role.get? = none ∧ body.isActive.get? = none)
      (other : currentUser.isSuperadmin = false → userId ≠ actor →
        target.isSuperadmin = false ∧ body.role.get? ≠ some .admin ∧
          (body.isActive.get? ≠ none → hasMinimumRole target.role .admin = false))
      (handed : ∃ data, (Request.updateUser actor userId body served).handed texts tenants users =
        some (target, data) ∧ data.role = body.role) :
      Accepted texts tenants users (.updateUser actor userId body served) user
  | deactivated {actor userId : UserId} {served : Bool} {currentUser target : User}
      (known : users.find actor = some currentUser) (found : users.find userId = some target)
      (differ : userId ≠ actor)
      (own : currentUser.isSuperadmin = false → target.tenantId = currentUser.tenantId ∧
        hasMinimumRole target.role .admin = false) :
      Accepted texts tenants users (.deactivateUser actor userId served)
        { target with isActive := false }

section

variable {texts : Texts} {tenants : TenantId → Option Bool} {users : UserTable}
  {currentUser target user : User} {row : Option User} {done : Unit}

theorem getCurrentUser_ok (passed : getCurrentUser tenants row = .ok currentUser) :
    row = some currentUser ∧ currentUser.isActive = true := by
  cases row with
  | none => cases passed
  | some found =>
      obtain ⟨_, active, passed⟩ := Except.bind_eq_ok.mp passed
      obtain ⟨_, _, passed⟩ := Except.bind_eq_ok.mp passed
      cases passed
      have isActive := Except.refuse_ok.mp active
      exact ⟨rfl, by simpa using isActive⟩

theorem getUserForAdmin_ok (passed : getUserForAdmin currentUser row = .ok target) :
    row = some target ∧
      (currentUser.isSuperadmin = false → target.tenantId = currentUser.tenantId) := by
  cases row with
  | none => cases passed
  | some found =>
      obtain ⟨_, same, passed⟩ := Except.bind_eq_ok.mp passed
      cases passed
      have tenant := Except.refuse_ok.mp same
      refine ⟨rfl, ?_⟩
      intro ordinary
      rw [ordinary] at tenant
      simpa using tenant

theorem UserCreate.validate_ok {body valid : UserCreate}
    (passed : body.validate texts = .ok valid) :
    valid.tenantId ≠ none ∧ valid.role ≠ .superadmin := by
  unfold UserCreate.validate at passed
  split at passed
  next => cases passed
  next email _ =>
    obtain ⟨_, _, passed⟩ := Except.bind_eq_ok.mp passed
    obtain ⟨_, _, passed⟩ := Except.bind_eq_ok.mp passed
    obtain ⟨_, _, passed⟩ := Except.bind_eq_ok.mp passed
    obtain ⟨_, _, passed⟩ := Except.bind_eq_ok.mp passed
    obtain ⟨_, _, passed⟩ := Except.bind_eq_ok.mp passed
    obtain ⟨_, tenant, passed⟩ := Except.bind_eq_ok.mp passed
    obtain ⟨_, role, passed⟩ := Except.bind_eq_ok.mp passed
    cases passed
    have tenant := Except.refuse_ok.mp tenant
    have role := Except.refuse_ok.mp role
    refine ⟨?_, by simpa using role⟩
    intro missing
    rw [missing] at tenant
    cases tenant

theorem UserUpdate.validate_ok {body valid : UserUpdate}
    (passed : body.validate texts = .ok valid) :
    valid.role = body.role ∧ valid.isActive = body.isActive ∧
      body.role.get? ≠ some .superadmin := by
  obtain ⟨_, _, passed⟩ := Except.bind_eq_ok.mp passed
  obtain ⟨_, _, passed⟩ := Except.bind_eq_ok.mp passed
  obtain ⟨_, _, passed⟩ := Except.bind_eq_ok.mp passed
  obtain ⟨_, role, passed⟩ := Except.bind_eq_ok.mp passed
  cases passed
  have role := Except.refuse_ok.mp role
  exact ⟨rfl, rfl, by simpa using role⟩

theorem checkCreate_ok {body : UserCreate} (passed : checkCreate currentUser body = .ok done)
    (ordinary : currentUser.isSuperadmin = false) :
    body.tenantId = currentUser.tenantId ∧ body.role ≠ .admin := by
  obtain ⟨_, tenant, role⟩ := Except.bind_eq_ok.mp passed
  have tenant := Except.refuse_ok.mp tenant
  have role := Except.refuse_ok.mp role
  rw [ordinary] at tenant role
  have roles : body.role ≠ .admin ∧ body.role ≠ .superadmin := by simpa using role
  exact ⟨by simpa using tenant, roles.1⟩

theorem checkUpdate_ok {isSelf : Bool} {body : UserUpdate}
    (passed : checkUpdate currentUser target isSelf body = .ok done)
    (ordinary : currentUser.isSuperadmin = false) :
    (isSelf = true → body.role.get? = none ∧ body.isActive.get? = none) ∧
      (isSelf = false → target.isSuperadmin = false ∧ body.role.get? ≠ some .admin ∧
        (body.isActive.get? ≠ none → hasMinimumRole target.role .admin = false)) := by
  unfold checkUpdate at passed
  rw [if_neg (by rw [ordinary]; simp)] at passed
  cases isSelf with
  | true =>
      have fields := Except.refuse_ok.mp passed
      refine ⟨fun _ => by simpa using fields, ?_⟩
      intro impossible
      cases impossible
  | false =>
      refine ⟨by simp, fun _ => ?_⟩
      simp only [Bool.false_eq_true, if_false] at passed
      split at passed
      next =>
        obtain ⟨_, superadmin, passed⟩ := Except.bind_eq_ok.mp passed
        obtain ⟨_, role, active⟩ := Except.bind_eq_ok.mp passed
        have superadmin := Except.refuse_ok.mp superadmin
        have role := Except.refuse_ok.mp role
        have active := Except.refuse_ok.mp active
        refine ⟨superadmin, ?_, ?_⟩
        · intro admin
          rw [admin] at role
          cases role
        · intro given
          cases field : body.isActive.get? with
          | none => exact absurd field given
          | some value =>
              rw [field] at active
              simpa using active
      next => cases passed

theorem checkDeactivate_ok {isSelf : Bool}
    (passed : checkDeactivate currentUser target isSelf = .ok done) :
    isSelf = false ∧
      (currentUser.isSuperadmin = false → hasMinimumRole target.role .admin = false) := by
  obtain ⟨_, self, passed⟩ := Except.bind_eq_ok.mp passed
  obtain ⟨_, _, admin⟩ := Except.bind_eq_ok.mp passed
  have admin := Except.refuse_ok.mp admin
  refine ⟨Except.refuse_ok.mp self, ?_⟩
  intro ordinary
  rw [ordinary] at admin
  simpa using admin

theorem Service.createUser_ok {id : UserId} {data : UserCreate}
    (passed : Service.createUser texts tenants users id data = .ok user) :
    users.slot id = .fresh ∧ user.isSuperadmin = false ∧ user.tenantId = data.tenantId ∧
      user.role = data.role := by
  obtain ⟨_, _, passed⟩ := Except.bind_eq_ok.mp passed
  obtain ⟨_, _, passed⟩ := Except.bind_eq_ok.mp passed
  obtain ⟨_, _, passed⟩ := Except.bind_eq_ok.mp passed
  obtain ⟨_, _, passed⟩ := Except.bind_eq_ok.mp passed
  split at passed
  next fresh =>
    cases passed
    exact ⟨fresh, rfl, rfl, rfl⟩
  next => cases passed

/-- An attribute is left, or it gets the value of the body. -/
theorem assign_ok {Value : Type} {field : Field Value} {after : User}
    {set : Value → User → Reply User} (passed : assign field user set = .ok after) :
    field.get? = none ∧ after = user ∨
      ∃ value, field.get? = some value ∧ set value user = .ok after := by
  cases field with
  | unset => cases passed; exact .inl ⟨rfl, rfl⟩
  | null => cases passed
  | value given => exact .inr ⟨given, rfl, passed⟩

theorem Service.updateUser_ok {userId : UserId} {data : UserUpdate} {served : Bool}
    (passed : Service.updateUser texts users currentUser userId target data served = .ok user) :
    user.tenantId = target.tenantId ∧ user.isSuperadmin = target.isSuperadmin ∧
      user.role = data.role.get?.getD target.role ∧
      user.isActive = data.isActive.get?.getD target.isActive := by
  obtain ⟨_, _, passed⟩ := Except.bind_eq_ok.mp passed
  obtain ⟨emailed, email, passed⟩ := Except.bind_eq_ok.mp passed
  obtain ⟨renamed, fullName, passed⟩ := Except.bind_eq_ok.mp passed
  obtain ⟨assigned, role, passed⟩ := Except.bind_eq_ok.mp passed
  obtain ⟨_, isActive, passed⟩ := Except.bind_eq_ok.mp passed
  obtain ⟨_, _, passed⟩ := Except.bind_eq_ok.mp passed
  obtain ⟨_, _, passed⟩ := Except.bind_eq_ok.mp passed
  cases passed
  have same_email : emailed.tenantId = target.tenantId ∧
      emailed.isSuperadmin = target.isSuperadmin ∧ emailed.role = target.role ∧
      emailed.isActive = target.isActive := by
    rcases assign_ok email with ⟨_, rfl⟩ | ⟨value, _, set⟩
    · exact ⟨rfl, rfl, rfl, rfl⟩
    · obtain ⟨_, _, set⟩ := Except.bind_eq_ok.mp set
      cases set
      exact ⟨rfl, rfl, rfl, rfl⟩
  have same_name : renamed.tenantId = emailed.tenantId ∧
      renamed.isSuperadmin = emailed.isSuperadmin ∧ renamed.role = emailed.role ∧
      renamed.isActive = emailed.isActive := by
    rcases assign_ok fullName with ⟨_, rfl⟩ | ⟨value, _, set⟩
    · exact ⟨rfl, rfl, rfl, rfl⟩
    · cases set
      exact ⟨rfl, rfl, rfl, rfl⟩
  have new_role : assigned.tenantId = renamed.tenantId ∧
      assigned.isSuperadmin = renamed.isSuperadmin ∧
      assigned.role = data.role.get?.getD renamed.role ∧
      assigned.isActive = renamed.isActive := by
    rcases assign_ok role with ⟨field, rfl⟩ | ⟨value, field, set⟩
    · exact ⟨rfl, rfl, by rw [field]; rfl, rfl⟩
    · cases set
      exact ⟨rfl, rfl, by rw [field]; rfl, rfl⟩
  have new_flag : user.tenantId = assigned.tenantId ∧
      user.isSuperadmin = assigned.isSuperadmin ∧ user.role = assigned.role ∧
      user.isActive = data.isActive.get?.getD assigned.isActive := by
    rcases assign_ok isActive with ⟨field, rfl⟩ | ⟨value, field, set⟩
    · exact ⟨rfl, rfl, rfl, by rw [field]; rfl⟩
    · cases set
      exact ⟨rfl, rfl, rfl, by rw [field]; rfl⟩
  rw [new_flag.1, new_flag.2.1, new_flag.2.2.1, new_flag.2.2.2, new_role.1, new_role.2.1,
    new_role.2.2.1, new_role.2.2.2, same_name.1, same_name.2.1, same_name.2.2.1, same_name.2.2.2]
  rw [same_email.1, same_email.2.1, same_email.2.2.1, same_email.2.2.2]
  exact ⟨rfl, rfl, rfl, rfl⟩

theorem Service.deactivateUser_ok {served : Bool}
    (passed : Service.deactivateUser currentUser target served = .ok user) :
    user = { target with isActive := false } := by
  obtain ⟨_, _, passed⟩ := Except.bind_eq_ok.mp passed
  obtain ⟨_, _, passed⟩ := Except.bind_eq_ok.mp passed
  obtain ⟨_, _, passed⟩ := Except.bind_eq_ok.mp passed
  obtain ⟨_, _, passed⟩ := Except.bind_eq_ok.mp passed
  cases passed
  rfl

theorem respond_accepted {request : Request}
    (passed : request.respond texts tenants users = .ok user) :
    Accepted texts tenants users request user := by
  cases request with
  | createUser actor body id =>
      obtain ⟨currentUser, authenticated, passed⟩ := Except.bind_eq_ok.mp passed
      obtain ⟨_, _, passed⟩ := Except.bind_eq_ok.mp passed
      obtain ⟨valid, schema, passed⟩ := Except.bind_eq_ok.mp passed
      obtain ⟨_, policy, passed⟩ := Except.bind_eq_ok.mp passed
      obtain ⟨known, _⟩ := getCurrentUser_ok authenticated
      obtain ⟨fresh, ordinary, tenant, role⟩ := Service.createUser_ok passed
      obtain ⟨has_tenant, not_superadmin⟩ := UserCreate.validate_ok schema
      refine .created known fresh ⟨ordinary, by rw [tenant]; exact has_tenant,
        by rw [role]; exact not_superadmin⟩ ?_
      intro restricted
      obtain ⟨own, not_admin⟩ := checkCreate_ok policy restricted
      exact ⟨tenant.trans own, by rw [role]; exact not_admin⟩
  | updateUser actor userId body served =>
      obtain ⟨currentUser, authenticated, passed⟩ := Except.bind_eq_ok.mp passed
      obtain ⟨target, checked, passed⟩ := Except.bind_eq_ok.mp passed
      obtain ⟨valid, schema, passed⟩ := Except.bind_eq_ok.mp passed
      obtain ⟨_, policy, passed⟩ := Except.bind_eq_ok.mp passed
      obtain ⟨known, _⟩ := getCurrentUser_ok authenticated
      obtain ⟨found, own⟩ := getUserForAdmin_ok checked
      obtain ⟨same_role, same_active, not_superadmin⟩ := UserUpdate.validate_ok schema
      obtain ⟨tenant, superadmin, role, isActive⟩ := Service.updateUser_ok passed
      rw [same_role] at role
      rw [same_active] at isActive
      have handed : (Request.updateUser actor userId body served).handed texts tenants users =
          some (target, valid) := by
        unfold Request.handed
        dsimp only
        rw [authenticated, Except.ok_bind, checked, Except.ok_bind, schema, Except.ok_bind, policy]
        rfl
      refine .updated known found ⟨tenant, superadmin⟩ role isActive not_superadmin own ?_ ?_
        ⟨valid, handed, same_role⟩
      · intro restricted self
        have fields := (checkUpdate_ok policy restricted).1 (by simpa using self)
        rw [same_role, same_active] at fields
        exact fields
      · intro restricted differ
        have fields := (checkUpdate_ok policy restricted).2 (by simpa using differ)
        rw [same_role, same_active] at fields
        exact fields
  | deactivateUser actor userId served =>
      obtain ⟨currentUser, authenticated, passed⟩ := Except.bind_eq_ok.mp passed
      obtain ⟨_, _, passed⟩ := Except.bind_eq_ok.mp passed
      obtain ⟨target, checked, passed⟩ := Except.bind_eq_ok.mp passed
      obtain ⟨_, _, passed⟩ := Except.bind_eq_ok.mp passed
      obtain ⟨_, policy, passed⟩ := Except.bind_eq_ok.mp passed
      obtain ⟨known, _⟩ := getCurrentUser_ok authenticated
      obtain ⟨found, own⟩ := getUserForAdmin_ok checked
      obtain ⟨differ, not_admin⟩ := checkDeactivate_ok policy
      rw [Service.deactivateUser_ok passed]
      refine .deactivated known found (by simpa using differ) ?_
      intro restricted
      exact ⟨own restricted, not_admin restricted⟩

end

/-- What a request leaves behind. -/
inductive Answered (texts : Texts) (tenants : TenantId → Option Bool) (users : UserTable)
    (request : Request) (next : UserTable) : Prop
  | refused (same : next = users)
  | wrote (user : User) (accepted : Accepted texts tenants users request user)
      (here : next.find request.written = some user)
      (elsewhere : ∀ id, id ≠ request.written → next.find id = users.find id)

section

variable {texts : Texts} {tenants : TenantId → Option Bool} {start users next : UserTable}
  {request : Request}

theorem step_answered (taken : (requests texts tenants).step users request = some next) :
    Answered texts tenants users request next := by
  cases taken
  cases answer : request.respond texts tenants users with
  | error reason => exact .refused rfl
  | ok user =>
      have accepted := respond_accepted answer
      have put (id : UserId) (slot : UserId → Slot User)
          (written : slot = Function.update users.slot id (.live user)) (keys : List UserId) :
          (Table.mk keys slot).find id = some user ∧
            ∀ other, other ≠ id → (Table.mk keys slot).find other = users.find other := by
        subst written
        refine ⟨?_, ?_⟩
        · show (Function.update users.slot id (.live user) id).row? = some user
          rw [Function.update_self]
          rfl
        · intro other differ
          show (Function.update users.slot id (.live user) other).row? = (users.slot other).row?
          rw [Function.update_of_ne differ]
      cases request with
      | createUser actor body id =>
          obtain ⟨here, elsewhere⟩ := put id _ rfl (id :: users.keys)
          exact .wrote user accepted here elsewhere
      | updateUser actor userId body served =>
          obtain ⟨here, elsewhere⟩ := put userId _ rfl users.keys
          exact .wrote user accepted here elsewhere
      | deactivateUser actor userId served =>
          obtain ⟨here, elsewhere⟩ := put userId _ rfl users.keys
          exact .wrote user accepted here elsewhere

/-- The actor, as the request finds it, is no superadmin. -/
def Request.Ordinary (users : UserTable) (request : Request) : Prop :=
  ∀ row ∈ users.find request.actor, row.isSuperadmin = false

/-- The router hands on no PATCH that gives a role to an admin. -/
def Request.SparesAdmins (texts : Texts) (tenants : TenantId → Option Bool) (users : UserTable)
    (request : Request) : Prop :=
  ∀ handed ∈ request.handed texts tenants users,
    handed.2.role.get? = none ∨ handed.1.role ≠ .admin

/-- Nobody gets above what the rows of the start gave, or into another tenant, and the admins
of the start stay what they are. -/
structure Unescalated (start users : UserTable) : Prop where
  roles : ∀ id row, users.find id = some row → row.role = .admin ∨ row.role = .superadmin →
    ∃ before, start.find id = some before ∧ before.role = row.role
  flags : ∀ id row, users.find id = some row → row.isSuperadmin = true →
    ∃ before, start.find id = some before ∧ before.isSuperadmin = true
  tenants : ∀ id before, start.find id = some before →
    ∃ row, users.find id = some row ∧ row.tenantId = before.tenantId
  admins : ∀ id before, start.find id = some before → before.role = .admin →
    ∃ row, users.find id = some row ∧ row.role = .admin ∧
      (before.isActive = true → row.isActive = true)

/-- What one request of the actor leaves alone: the own role and flag, and other tenants. -/
structure Confined (actor : UserId) (users next : UserTable) : Prop where
  own : ∀ row, users.find actor = some row →
    ∃ after, next.find actor = some after ∧ after.role = row.role ∧ after.isActive = row.isActive
  foreign : ∀ currentUser, users.find actor = some currentUser →
    ∀ id row, users.find id = some row → row.tenantId ≠ currentUser.tenantId →
      next.find id = some row
  created : ∀ currentUser, users.find actor = some currentUser →
    ∀ id row, users.find id = none → next.find id = some row →
      row.tenantId = currentUser.tenantId

theorem Unescalated.refl (users : UserTable) : Unescalated users users where
  roles := fun _ row found _ => ⟨row, found, rfl⟩
  flags := fun _ row found flag => ⟨row, found, flag⟩
  tenants := fun _ row found => ⟨row, found, rfl⟩
  admins := fun _ row found admin => ⟨row, found, admin, fun active => active⟩

theorem find_fresh {id : UserId} (fresh : users.slot id = .fresh) : users.find id = none := by
  unfold Table.find
  rw [fresh]
  rfl

/-- An admin or a superadmin that an ordinary actor writes was one before. -/
theorem Accepted.role {user : User} (accepted : Accepted texts tenants users request user)
    (ordinary : request.Ordinary users) (high : user.role = .admin ∨ user.role = .superadmin) :
    ∃ target, users.find request.written = some target ∧ target.role = user.role := by
  cases accepted with
  | created known fresh new own =>
      have not_admin := (own (ordinary _ known)).2
      rcases high with admin | superadmin
      · exact absurd admin not_admin
      · exact absurd superadmin new.2.2
  | @updated actor userId body _ _ target _ known found _ role _ schema _ self other =>
      refine ⟨target, found, ?_⟩
      cases given : body.role.get? with
      | none => rw [role, given]; rfl
      | some assigned =>
          rw [given] at role schema self other
          have not_admin : assigned ≠ .admin := by
            intro admin
            by_cases same : userId = actor
            · cases (self (ordinary _ known) same).1
            · exact (other (ordinary _ known) same).2.1 (congrArg some admin)
          have same : user.role = assigned := role
          rcases high with admin | superadmin
          · exact absurd (same.symm.trans admin) not_admin
          · exact absurd (congrArg some (same.symm.trans superadmin)) schema
  | deactivated known found => exact ⟨_, found, rfl⟩

theorem Accepted.isSuperadmin {user : User} (accepted : Accepted texts tenants users request user)
    (flag : user.isSuperadmin = true) :
    ∃ target, users.find request.written = some target ∧ target.isSuperadmin = true := by
  cases accepted with
  | created known fresh new =>
      rw [new.1] at flag
      cases flag
  | updated known found tenant =>
      refine ⟨_, found, ?_⟩
      rw [← tenant.2]
      exact flag
  | deactivated known found => exact ⟨_, found, flag⟩

theorem Accepted.tenantId {user target : User}
    (accepted : Accepted texts tenants users request user)
    (found : users.find request.written = some target) : user.tenantId = target.tenantId := by
  cases accepted with
  | created known fresh =>
      have absent := find_fresh fresh
      rw [Request.written, absent] at found
      cases found
  | updated known found' tenant =>
      have same := Option.some.inj (found'.symm.trans found)
      rw [← same]
      exact tenant.1
  | deactivated known found' =>
      have same := Option.some.inj (found'.symm.trans found)
      rw [← same]

/-- An admin keeps role and flag, unless a PATCH gives it a role. -/
theorem Accepted.admin {user target : User} (accepted : Accepted texts tenants users request user)
    (ordinary : request.Ordinary users) (spares : request.SparesAdmins texts tenants users)
    (found : users.find request.written = some target) (admin : target.role = .admin) :
    user.role = .admin ∧ (target.isActive = true → user.isActive = true) := by
  have minimum : hasMinimumRole target.role .admin = true := by
    rw [admin]
    rfl
  cases accepted with
  | created known fresh =>
      have absent := find_fresh fresh
      rw [Request.written, absent] at found
      cases found
  | @updated actor userId body _ _ target' _ known found' _ role isActive _ _ self other handed =>
      have same : target' = target := Option.some.inj (found'.symm.trans found)
      subst same
      obtain ⟨data, handed, same_role⟩ := handed
      have no_role : body.role.get? = none := by
        rw [← same_role]
        rcases spares _ handed with none_given | other_role
        · exact none_given
        · exact absurd admin other_role
      have no_flag : body.isActive.get? = none := by
        by_cases same : userId = actor
        · exact (self (ordinary _ known) same).2
        · by_contra given
          have low := (other (ordinary _ known) same).2.2 given
          rw [minimum] at low
          cases low
      rw [no_role] at role
      rw [no_flag] at isActive
      exact ⟨role.trans admin, fun active => isActive.trans active⟩
  | deactivated known found' _ own =>
      have same := Option.some.inj (found'.symm.trans found)
      have low := (own (ordinary _ known)).2
      rw [same, minimum] at low
      cases low

theorem Unescalated.answered (unescalated : Unescalated start users)
    (ordinary : request.Ordinary users) (spares : request.SparesAdmins texts tenants users)
    (answered : Answered texts tenants users request next) : Unescalated start next := by
  cases answered with
  | refused same =>
      rw [same]
      exact unescalated
  | wrote user accepted here elsewhere =>
      refine ⟨?_, ?_, ?_, ?_⟩
      · intro id row found high
        by_cases same : id = request.written
        · subst same
          have written : user = row := Option.some.inj (here.symm.trans found)
          rw [← written] at high ⊢
          obtain ⟨target, held, role⟩ := accepted.role ordinary high
          rw [← role] at high ⊢
          exact unescalated.roles _ target held high
        · rw [elsewhere id same] at found
          exact unescalated.roles id row found high
      · intro id row found flag
        by_cases same : id = request.written
        · subst same
          have written : user = row := Option.some.inj (here.symm.trans found)
          rw [← written] at flag
          obtain ⟨target, held, set⟩ := accepted.isSuperadmin flag
          exact unescalated.flags _ target held set
        · rw [elsewhere id same] at found
          exact unescalated.flags id row found flag
      · intro id before found
        obtain ⟨row, held, tenant⟩ := unescalated.tenants id before found
        by_cases same : id = request.written
        · subst same
          exact ⟨user, here, (accepted.tenantId held).trans tenant⟩
        · exact ⟨row, (elsewhere id same).trans held, tenant⟩
      · intro id before found admin
        obtain ⟨row, held, role, active⟩ := unescalated.admins id before found admin
        by_cases same : id = request.written
        · subst same
          obtain ⟨role', active'⟩ := accepted.admin ordinary spares held role
          exact ⟨user, here, role', fun was => active' (active was)⟩
        · exact ⟨row, (elsewhere id same).trans held, role, active⟩

/-- Of its own account an ordinary actor changes neither role nor flag. -/
theorem Accepted.self {user row : User} (accepted : Accepted texts tenants users request user)
    (ordinary : request.Ordinary users) (own : request.written = request.actor)
    (found : users.find request.actor = some row) :
    user.role = row.role ∧ user.isActive = row.isActive := by
  cases accepted with
  | @created actor _ id _ _ known fresh =>
      have same : id = actor := own
      have absent := find_fresh fresh
      rw [same, known] at absent
      cases absent
  | @updated actor userId _ _ _ target _ known found' _ role isActive _ _ self =>
      have same : userId = actor := own
      obtain ⟨no_role, no_flag⟩ := self (ordinary _ known) same
      subst same
      cases Option.some.inj (found'.symm.trans found)
      rw [no_role] at role
      rw [no_flag] at isActive
      exact ⟨role, isActive⟩
  | deactivated known found' differ => exact absurd own differ

/-- The row that an ordinary actor writes is, and was, of the actor's tenant. -/
theorem Accepted.tenant {user currentUser : User}
    (accepted : Accepted texts tenants users request user)
    (ordinary : request.Ordinary users) (known : users.find request.actor = some currentUser) :
    user.tenantId = currentUser.tenantId ∧
      ∀ row, users.find request.written = some row → row.tenantId = currentUser.tenantId := by
  have restricted := ordinary currentUser known
  cases accepted with
  | created known' fresh _ own =>
      cases Option.some.inj (known'.symm.trans known)
      refine ⟨(own restricted).1, ?_⟩
      intro row found
      have absent := find_fresh fresh
      rw [Request.written, absent] at found
      cases found
  | updated known' found tenant _ _ _ own =>
      cases Option.some.inj (known'.symm.trans known)
      refine ⟨tenant.1.trans (own restricted), ?_⟩
      intro row found'
      cases Option.some.inj (found.symm.trans found')
      exact own restricted
  | deactivated known' found _ own =>
      cases Option.some.inj (known'.symm.trans known)
      refine ⟨(own restricted).1, ?_⟩
      intro row found'
      cases Option.some.inj (found.symm.trans found')
      exact (own restricted).1

theorem Answered.confined (ordinary : request.Ordinary users)
    (answered : Answered texts tenants users request next) : Confined request.actor users next := by
  cases answered with
  | refused same =>
      rw [same]
      refine ⟨fun row found => ⟨row, found, rfl, rfl⟩, fun _ _ _ _ found _ => found, ?_⟩
      intro _ _ id row absent found
      rw [absent] at found
      cases found
  | wrote user accepted here elsewhere =>
      refine ⟨?_, ?_, ?_⟩
      · intro row found
        by_cases own : request.written = request.actor
        · rw [← own]
          exact ⟨user, here, accepted.self ordinary own found⟩
        · exact ⟨row, (elsewhere _ (Ne.symm own)).trans found, rfl, rfl⟩
      · intro currentUser known id row found foreign
        by_cases same : id = request.written
        · subst same
          exact absurd ((accepted.tenant ordinary known).2 row found) foreign
        · exact (elsewhere id same).trans found
      · intro currentUser known id row absent found
        by_cases same : id = request.written
        · subst same
          have written : user = row := Option.some.inj (here.symm.trans found)
          rw [← written]
          exact (accepted.tenant ordinary known).1
        · rw [elsewhere id same, absent] at found
          cases found

/-- No privilege escalation. Over any rows and any requests of ordinary actors, none of which
gives a role to an admin: the roles, flags and tenants of the start bound those of every later
state, and each request stays in the tenant of its actor and off the actor's own privileges. -/
theorem no_privilege_escalation {labels : List Request} {last : UserTable}
    (allows : (requests texts tenants).Allows
      (fun users request => request.Ordinary users ∧ request.SparesAdmins texts tenants users)
      start labels)
    (run : (requests texts tenants).exec start labels = some last) :
    Unescalated start last ∧
      ∀ first request rest users next, labels = first ++ request :: rest →
        (requests texts tenants).exec start first = some users →
        (requests texts tenants).step users request = some next →
        Confined request.actor users next := by
  refine ⟨?_, ?_⟩
  · apply allows.preserves _ (.refl start) run
    intro users next request unescalated met taken
    exact unescalated.answered met.1 met.2 (step_answered taken)
  · intro first request rest users next split reached taken
    subst split
    have met := allows.at reached
    exact (step_answered taken).confined met.1

end

instance (users : UserTable) (request : Request) : Decidable (request.Ordinary users) :=
  inferInstanceAs (Decidable (∀ row ∈ users.find request.actor, row.isSuperadmin = false))

instance (texts : Texts) (tenants : TenantId → Option Bool) (users : UserTable)
    (request : Request) : Decidable (request.SparesAdmins texts tenants users) :=
  inferInstanceAs (Decidable (∀ handed ∈ request.handed texts tenants users,
    handed.2.role.get? = none ∨ handed.1.role ≠ .admin))

def plainTexts : Texts := ⟨id, id, id⟩

def member (role : RoleEnum) (email : String) : User :=
  ⟨some 1, email, "hash", "name", role, true, false⟩

/-- A superadmin, and two admins and an analyst of one tenant. -/
def staff : UserTable :=
  (((Table.empty.insert 0 ⟨none, "s@x.es", "hash", "name", .superadmin, true, true⟩).insert 1
    (member .admin "a@x.es")).insert 2 (member .admin "b@x.es")).insert 3 (member .analyst "c@x.es")

def onlyRole (role : RoleEnum) : UserUpdate := ⟨.unset, .unset, .value role, .unset⟩

/-- An admin creates a viewer, makes it an analyst and deactivates it. -/
def ordinaryDay : List Request :=
  [.createUser 1 ⟨"d@x.es", "long-enough-1", "new", .viewer, some 1⟩ 4,
    .updateUser 1 4 (onlyRole .analyst) true, .deactivateUser 1 4 true]

theorem no_privilege_escalation_ordinary :
    ∃ last, (requests plainTexts fun _ => some true).exec staff ordinaryDay = some last ∧
      (last.find 4).map (fun row => (row.role, row.isActive)) = some (.analyst, false) ∧
      Unescalated staff last := by
  have run : ∃ last, (requests plainTexts fun _ => some true).exec staff ordinaryDay =
      some last ∧ (last.find 4).map (fun row => (row.role, row.isActive)) =
        some (.analyst, false) := ⟨_, rfl, by decide +kernel⟩
  obtain ⟨last, run, changed⟩ := run
  have allows : (requests plainTexts fun _ => some true).Allows
      (fun users request => request.Ordinary users ∧
        request.SparesAdmins plainTexts (fun _ => some true) users) staff ordinaryDay := by
    decide +kernel
  exact ⟨last, run, changed, (no_privilege_escalation allows run).1⟩

/-- An admin makes another admin an analyst and then deactivates it. -/
theorem admin_deactivated :
    ∃ last, (requests plainTexts fun _ => some true).exec staff
        [.updateUser 1 2 (onlyRole .analyst) true, .deactivateUser 1 2 true] = some last ∧
      (requests plainTexts fun _ => some true).Allows (fun users request => request.Ordinary users)
        staff [.updateUser 1 2 (onlyRole .analyst) true, .deactivateUser 1 2 true] ∧
      (∃ before ∈ staff.find 2, before.role = .admin ∧ before.isActive = true) ∧
      ∃ row ∈ last.find 2, row.isActive = false :=
  ⟨_, rfl, by decide +kernel, by decide +kernel, by decide +kernel⟩

section

variable {texts : Texts} {tenants : TenantId → Option Bool} {start users next : UserTable}
  {request : Request}

/-- The router hands on no PATCH that gives a role to a superadmin. -/
def Request.KeepsSuperadmins (texts : Texts) (tenants : TenantId → Option Bool) (users : UserTable)
    (request : Request) : Prop :=
  ∀ handed ∈ request.handed texts tenants users,
    handed.2.role.get? = none ∨ handed.1.isSuperadmin = false

/-- The three marks of a superadmin agree. -/
def User.Coherent (row : User) : Prop :=
  (row.role = .superadmin ↔ row.isSuperadmin = true) ∧
    (row.isSuperadmin = true ↔ row.tenantId = none)

def UserTable.Coherent (users : UserTable) : Prop :=
  ∀ id row, users.find id = some row → row.Coherent

theorem Accepted.coherent {user : User} (accepted : Accepted texts tenants users request user)
    (keeps : request.KeepsSuperadmins texts tenants users) (coherent : users.Coherent) :
    user.Coherent := by
  cases accepted with
  | created known fresh new =>
      refine ⟨?_, ?_⟩
      · simp [new.1, new.2.2]
      · simp [new.1, new.2.1]
  | @updated actor userId body _ _ target _ known found tenant role _ schema _ _ _ handed =>
      obtain ⟨data, handed, same_role⟩ := handed
      obtain ⟨marked, placed⟩ := coherent _ _ found
      refine ⟨?_, by rw [tenant.1, tenant.2]; exact placed⟩
      rw [tenant.2]
      rcases keeps _ handed with none_given | plain
      · rw [same_role] at none_given
        rw [none_given] at role
        rw [role]
        exact marked
      · cases given : body.role.get? with
        | none =>
            rw [given] at role
            rw [role]
            exact marked
        | some assigned =>
            rw [given] at role schema
            have same : user.role = assigned := role
            rw [plain, same]
            simpa using schema
  | @deactivated _ userId _ _ target known found =>
      have before : target.Coherent := coherent userId target found
      exact before

/-- Superadmin coherence, over any requests none of which gives a role to a superadmin. -/
theorem superadmin_coherence {labels : List Request} {last : UserTable}
    (coherent : start.Coherent)
    (allows : (requests texts tenants).Allows
      (fun users request => request.KeepsSuperadmins texts tenants users) start labels)
    (run : (requests texts tenants).exec start labels = some last) : last.Coherent := by
  apply allows.preserves _ coherent run
  intro users next request coherent keeps taken
  cases step_answered taken with
  | refused same =>
      rw [same]
      exact coherent
  | wrote user accepted here elsewhere =>
      intro id row found
      by_cases same : id = request.written
      · subst same
        have written : user = row := Option.some.inj (here.symm.trans found)
        rw [← written]
        exact accepted.coherent keeps coherent
      · rw [elsewhere id same] at found
        exact coherent id row found

end

instance (texts : Texts) (tenants : TenantId → Option Bool) (users : UserTable)
    (request : Request) : Decidable (request.KeepsSuperadmins texts tenants users) :=
  inferInstanceAs (Decidable (∀ handed ∈ request.handed texts tenants users,
    handed.2.role.get? = none ∨ handed.1.isSuperadmin = false))

theorem staff_coherent : staff.Coherent := by
  have ordinary (role : RoleEnum) (email : String) (below : role ≠ .superadmin) :
      (member role email).Coherent := by
    simp [User.Coherent, member, below]
  intro id row found
  simp only [staff, Table.find, Table.insert, Function.update_apply] at found
  split at found
  next => cases found; exact ordinary _ _ (by decide)
  next =>
    split at found
    next => cases found; exact ordinary _ _ (by decide)
    next =>
      split at found
      next => cases found; exact ordinary _ _ (by decide)
      next =>
        split at found
        next => cases found; simp [User.Coherent]
        next => cases found

/-- The superadmin makes an analyst an admin. -/
theorem superadmin_coherence_promoting :
    ∃ last, (requests plainTexts fun _ => some true).exec staff
        [.updateUser 0 3 (onlyRole .admin) true] = some last ∧
      (last.find 3).map (·.role) = some .admin ∧ last.Coherent := by
  have run : ∃ last, (requests plainTexts fun _ => some true).exec staff
      [.updateUser 0 3 (onlyRole .admin) true] = some last ∧
      (last.find 3).map (·.role) = some .admin := ⟨_, rfl, by decide +kernel⟩
  obtain ⟨last, run, promoted⟩ := run
  have allows : (requests plainTexts fun _ => some true).Allows
      (fun users request => request.KeepsSuperadmins plainTexts (fun _ => some true) users) staff
      [.updateUser 0 3 (onlyRole .admin) true] := by
    decide +kernel
  exact ⟨last, run, promoted, superadmin_coherence staff_coherent allows run⟩

/-- A superadmin takes its own role: `is_superadmin` stays. -/
theorem superadmin_demoted :
    staff.Coherent ∧ ∃ last, (requests plainTexts fun _ => some true).exec staff
        [.updateUser 0 0 (onlyRole .viewer) true] = some last ∧ ¬ last.Coherent := by
  have run : ∃ last, (requests plainTexts fun _ => some true).exec staff
      [.updateUser 0 0 (onlyRole .viewer) true] = some last ∧
      ∃ row ∈ last.find 0, row.role = .viewer ∧ row.isSuperadmin = true :=
    ⟨_, rfl, by decide +kernel⟩
  obtain ⟨last, run, row, found, role, flag⟩ := run
  refine ⟨staff_coherent, last, run, ?_⟩
  intro coherent
  have superadmin := (coherent 0 row found).1.mpr flag
  rw [role] at superadmin
  cases superadmin

end Users
