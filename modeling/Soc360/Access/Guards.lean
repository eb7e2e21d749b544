import Soc360.Users.Service

set_option autoImplicit false

namespace Users

/-- `require_any_role`: the roles by name, without the hierarchy. -/
def requireAnyRole (roles : List RoleEnum) (currentUser : User) : Reply Unit :=
  Except.refuse (currentUser.role ∉ roles) ⟨403, "Permisos insuficientes"⟩

/-- `require_superadmin`. -/
def requireSuperadmin (currentUser : User) : Reply Unit :=
  Except.refuse (!currentUser.isSuperadmin) ⟨403, "Se requieren permisos de superadmin"⟩

end Users
