import Soc360.Store.Machine
import Soc360.Store.RowSecurity
import Soc360.Text.Uuids

set_option autoImplicit false

namespace Tenancy.Policies

open RowSecurity

/-- The tables with row level security. -/
inductive TableName where
  | tenants
  | users
  | refreshTokens
  | assets
  | scans
  | vulnerabilities
  | reports
  | vulnerabilityEnrichments
  deriving DecidableEq, Repr

/-- A row: its `tenant_id`, and the `user_id`, `asset_id`, `scan_id` or `vulnerability_id` that it
has. -/
structure Row (Columns : Type) where
  tenantId : Option Uuid
  parentId : Option Uuid
  columns : Columns
  deriving DecidableEq, Repr

variable {Columns : Type}

/-- `tenant_id` refers to `tenants.id`. -/
def tenantReference : Reference TableName Uuid (Row Columns) where
  parent := .tenants
  key row := row.tenantId.map fun tenantId => [tenantId]
  target tenant := [tenant.1]

/-- `user_id` refers to `users.id`. -/
def userReference : Reference TableName Uuid (Row Columns) where
  parent := .users
  key row := row.parentId.map fun userId => [userId]
  target user := [user.1]

/-- A composite key: `asset_id, tenant_id` refers to `assets.id, assets.tenant_id`, and so on. -/
def scopedReference (parent : TableName) : Reference TableName Uuid (Row Columns) where
  parent
  key row := row.parentId.bind fun parentId => row.tenantId.map fun tenantId => [parentId, tenantId]
  target parent := parent.1 :: parent.2.tenantId.toList

def references : TableName → List (Reference TableName Uuid (Row Columns))
  | .tenants => []
  | .users => [tenantReference]
  | .refreshTokens => [userReference]
  | .assets => [tenantReference]
  | .scans => [tenantReference, scopedReference .assets]
  | .vulnerabilities => [tenantReference, scopedReference .scans]
  | .reports => [tenantReference, scopedReference .assets]
  | .vulnerabilityEnrichments => [tenantReference, scopedReference .vulnerabilities]

/-- How far a table is from `tenants`. -/
def rank : TableName → Nat
  | .tenants => 0
  | .users => 1
  | .refreshTokens => 2
  | .assets => 1
  | .scans => 2
  | .vulnerabilities => 3
  | .reports => 2
  | .vulnerabilityEnrichments => 4

/-- The checks and the unique keys of the other columns. -/
structure Constraints (Columns : Type) where
  valid : TableName → Uuid × Row Columns → Bool
  clashes : TableName → Row Columns → Row Columns → Bool

/-- What the references of a table are. `users` is referred to by the tokens only. -/
theorem mem_references {table : TableName} {reference : Reference TableName Uuid (Row Columns)}
    (listed : reference ∈ references table) :
    rank reference.parent < rank table ∧
      (table = .refreshTokens ∧ reference = userReference ∨
        table ≠ .refreshTokens ∧ reference.parent ≠ .refreshTokens ∧
          (reference = tenantReference ∨ ∃ parent, parent ≠ .tenants ∧
            reference = scopedReference parent)) := by
  cases table <;> simp only [references, List.mem_cons, List.not_mem_nil, or_false] at listed
  case refreshTokens =>
    subst listed
    exact ⟨Nat.lt_succ_self 1, .inl ⟨rfl, rfl⟩⟩
  case users | assets =>
    subst listed
    exact ⟨Nat.zero_lt_one, .inr ⟨nofun, nofun, .inl rfl⟩⟩
  case scans | reports =>
    rcases listed with rfl | rfl
    · exact ⟨Nat.zero_lt_two, .inr ⟨nofun, nofun, .inl rfl⟩⟩
    · exact ⟨Nat.one_lt_two, .inr ⟨nofun, nofun, .inr ⟨.assets, nofun, rfl⟩⟩⟩
  case vulnerabilities =>
    rcases listed with rfl | rfl
    · exact ⟨Nat.zero_lt_succ 2, .inr ⟨nofun, nofun, .inl rfl⟩⟩
    · exact ⟨Nat.lt_succ_self 2, .inr ⟨nofun, nofun, .inr ⟨.scans, nofun, rfl⟩⟩⟩
  case vulnerabilityEnrichments =>
    rcases listed with rfl | rfl
    · exact ⟨Nat.zero_lt_succ 3, .inr ⟨nofun, nofun, .inl rfl⟩⟩
    · exact ⟨Nat.lt_succ_self 3, .inr ⟨nofun, nofun, .inr ⟨.vulnerabilities, nofun, rfl⟩⟩⟩

def schema (constraints : Constraints Columns) : Schema TableName Uuid (Row Columns) where
  relations := [.tenants, .users, .refreshTokens, .assets, .scans, .vulnerabilities, .reports,
    .vulnerabilityEnrichments]
  references
  valid := constraints.valid
  clashes := constraints.clashes
  rank
  depth := 4
  listed table := by
    cases table <;> simp
  descends table reference listed := (mem_references listed).1
  bounded table := by
    cases table <;> decide
  identifies table reference listed first second same := by
    obtain ⟨_, ⟨_, rfl⟩ | ⟨_, _, rfl | ⟨parent, _, rfl⟩⟩⟩ := mem_references listed
    · exact List.head_eq_of_cons_eq same
    · exact List.head_eq_of_cons_eq same
    · exact List.head_eq_of_cons_eq same

/-- What `current_setting` tells of `app.is_superadmin` and `app.current_tenant`. -/
structure Settings where
  isSuperadmin : Option (List Char)
  currentTenant : Option (List Char)
  deriving DecidableEq, Repr

namespace Settings

variable (settings : Settings)

/-- `current_setting('app.is_superadmin', TRUE) = 'true'`. -/
def superadmin : Bool := settings.isSuperadmin == some ['t', 'r', 'u', 'e']

/-- `id::text = current_setting('app.current_tenant', TRUE)`. -/
def isTenant (tenantId : Uuid) : Bool := settings.currentTenant == some tenantId.text

/-- `rls_tenants`, `rls_users`, `rls_refresh_tokens` and so on. The policy of `users` guards the
subquery in that of the tokens too, with the same condition. -/
def policy : Policy TableName Uuid (Row Columns) := fun rows table entry =>
  settings.superadmin ||
    match table with
    | .tenants => settings.isTenant entry.1
    | .refreshTokens => (rows .users).any fun user =>
        user.2.tenantId.any settings.isTenant && entry.2.parentId == some user.1
    | _ => entry.2.tenantId.any settings.isTenant

end Settings

/-- Whether a row is one of the tenants that are given. A token has the tenant of its user. -/
def ownedBy (mine : Uuid → Bool) (table : TableName) (entry : Uuid × Row Columns) : Bool :=
  match table with
  | .tenants => mine entry.1
  | .refreshTokens => false
  | _ => entry.2.tenantId.any mine

theorem ownedBy_tenantId {mine : Uuid → Bool} {table : TableName} (other : table ≠ .tenants)
    (other' : table ≠ .refreshTokens) (entry : Uuid × Row Columns) :
    ownedBy mine table entry = entry.2.tenantId.any mine := by
  cases table with
  | tenants => exact absurd rfl other
  | refreshTokens => exact absurd rfl other'
  | _ => rfl

/-- Both keys of a table keep a row with the tenant of the row that it refers to. -/
theorem ownedBy_refers {mine : Uuid → Bool} {table : TableName}
    {reference : Reference TableName Uuid (Row Columns)} (listed : reference ∈ references table)
    (other : table ≠ .refreshTokens) {child parent : Uuid × Row Columns}
    (refers : reference.refers child.2 parent = true) :
    ownedBy mine table child = ownedBy mine reference.parent parent := by
  obtain ⟨below, ⟨same, _⟩ | ⟨_, apart, which⟩⟩ := mem_references listed
  · exact absurd same other
  have further : table ≠ .tenants := by
    rintro rfl
    exact absurd below (Nat.not_lt_zero _)
  rw [ownedBy_tenantId further other]
  rw [Reference.refers_iff] at refers
  rcases which with rfl | ⟨named, apart', rfl⟩
  · obtain ⟨tenantId, given, same⟩ := Option.map_eq_some_iff.mp refers
    rw [given, Option.any_some, List.head_eq_of_cons_eq same]
    rfl
  · obtain ⟨parentId, _, refers⟩ := Option.bind_eq_some_iff.mp refers
    obtain ⟨tenantId, given, same⟩ := Option.map_eq_some_iff.mp refers
    change _ = ownedBy mine named parent
    rw [ownedBy_tenantId apart' apart, given]
    have tail := List.tail_eq_of_cons_eq same
    cases owner : parent.2.tenantId with
    | none =>
      rw [owner] at tail
      cases tail
    | some tenantId' =>
      rw [owner] at tail
      cases tail
      rfl

def scope (constraints : Constraints Columns) (mine : Uuid → Bool) :
    Scope (schema constraints) where
  own := ownedBy mine
  through
    | .refreshTokens => some userReference
    | _ => none
  direct table reference listed := by
    obtain ⟨_, ⟨_, rfl⟩ | ⟨_, apart, _⟩⟩ := mem_references listed
    · rfl
    · cases parent : reference.parent with
      | refreshTokens => exact absurd parent apart
      | _ => rfl
  only table reference given := by
    cases table with
    | refreshTokens =>
      cases given
      rfl
    | _ => cases given
  together table reference listed direct child parent := by
    refine ownedBy_refers listed ?_
    rintro rfl
    cases direct

section

variable {constraints : Constraints Columns} {settings : Settings}

theorem userReference_refers {child : Row Columns} {user : Uuid × Row Columns} :
    userReference.refers child user = (child.parentId == some user.1) := by
  rw [Bool.eq_iff_iff, Reference.refers_iff, beq_iff_eq, userReference, Option.map_eq_some_iff]
  constructor
  · rintro ⟨userId, given, same⟩
    rw [given, List.head_eq_of_cons_eq same]
  · intro given
    exact ⟨user.1, given, rfl⟩

/-- The policies let through what the tenants of the settings own. -/
theorem policy_scope (constraints : Constraints Columns) (regular : settings.superadmin = false) :
    (settings.policy : Policy TableName Uuid (Row Columns)) =
      (scope constraints settings.isTenant).owns := by
  funext rows table entry
  cases table <;> simp only [Settings.policy, regular, Bool.false_or]
  case refreshTokens =>
    simp only [← userReference_refers]
    rfl
  all_goals rfl

/-- Settings without a tenant: there is none, or the empty text that a reset leaves. -/
def blank (setting : Option (List Char)) : Prop := setting.getD [] = []

theorem isTenant_blank (absent : blank settings.currentTenant) :
    settings.isTenant = fun _ => false := by
  funext tenantId
  rw [Settings.isTenant, beq_eq_false_iff_ne]
  intro same
  rw [blank, same] at absent
  exact Uuid.text_ne_nil absent

theorem superadmin_blank (absent : blank settings.isSuperadmin) : settings.superadmin = false := by
  rw [Settings.superadmin, beq_eq_false_iff_ne]
  intro same
  rw [blank, same] at absent
  cases absent

theorem isTenant_text {tenantId : Uuid} (given : settings.currentTenant = some tenantId.text) :
    settings.isTenant = (· == tenantId) := by
  funext other
  rw [Settings.isTenant, given, Bool.eq_iff_iff, beq_iff_eq, beq_iff_eq, Option.some.injEq]
  constructor
  · intro same
    exact (Uuid.text_inj same).symm
  · rintro rfl
    rfl

/-- A scope without tenants owns nothing. -/
theorem owns_nothing (rows : Rows TableName Uuid (Row Columns)) (table : TableName)
    (entry : Uuid × Row Columns) : (scope constraints fun _ => false).owns rows table entry = false := by
  have own : ∀ (table : TableName) (entry : Uuid × Row Columns),
      ownedBy (fun _ => false) table entry = false := by
    intro table entry
    cases table <;> simp [ownedBy]
  rw [Scope.owns]
  split
  · exact own table entry
  · rw [List.any_eq_false]
    intro user _ both
    rw [Bool.and_eq_true] at both
    exact absurd (both.1.symm.trans (own _ user)) (by decide)

end

/-- What a transaction has asked for. -/
inductive Context where
  | nothing
  | tenant (tenantId : Uuid)
  | everything
  deriving DecidableEq, Repr

/-- `set_tenant_context`: what is set until the transaction ends. -/
def setTenantContext (tenantId : Option Uuid) (isSuperadmin : Bool) :
    Except String (Context × Settings) :=
  if isSuperadmin then .ok (.everything, ⟨some ['t', 'r', 'u', 'e'], some []⟩)
  else
    match tenantId with
    | none => .error "tenant_id requerido para usuarios no superadmin"
    | some tenantId =>
        .ok (.tenant tenantId, ⟨some ['f', 'a', 'l', 's', 'e'], some tenantId.text⟩)

inductive Stage where
  | idle
  | opened (context : Context)
  | aborted
  deriving DecidableEq, Repr

/-- A connection of the pool: what its session has of the settings, and what its transaction has set
for itself. -/
structure Connection where
  session : Settings
  transaction : Settings
  stage : Stage
  deriving DecidableEq, Repr

namespace Connection

def fresh : Connection := ⟨⟨none, none⟩, ⟨none, none⟩, .idle⟩

variable (connection : Connection)

def settings : Settings where
  isSuperadmin := connection.transaction.isSuperadmin.or connection.session.isSuperadmin
  currentTenant := connection.transaction.currentTenant.or connection.session.currentTenant

/-- The end of a transaction takes back what it has set. A setting that the session has not goes to
the empty text. -/
def reset (set session : Option (List Char)) : Option (List Char) :=
  set.elim session fun _ => some (session.getD [])

def finish : Connection where
  session := ⟨reset connection.transaction.isSuperadmin connection.session.isSuperadmin,
    reset connection.transaction.currentTenant connection.session.currentTenant⟩
  transaction := ⟨none, none⟩
  stage := .idle

end Connection

section

variable (constraints : Constraints Columns) (Answer : Type)

/-- A statement that a connection has sent, and the rows that it has met. -/
structure Sent where
  context : Context
  settings : Settings
  rows : Rows TableName Uuid (Row Columns)
  consistent : (schema constraints).Consistent rows
  statement : Statement TableName Uuid (Row Columns) Answer

structure Pool where
  connections : Nat → Connection
  sent : List (Sent constraints Answer)

/-- `rows` is what a statement meets: what the transactions of all connections have made of the
tables. -/
inductive PoolLabel where
  | connect (connection : Nat)
  | begin (connection : Nat)
  | setTenantContext (connection : Nat) (tenantId : Option Uuid) (isSuperadmin : Bool)
  | execute (connection : Nat) (rows : Rows TableName Uuid (Row Columns))
      (consistent : (schema constraints).Consistent rows)
      (statement : Statement TableName Uuid (Row Columns) Answer)
  | finish (connection : Nat)

variable {constraints Answer}

def Sent.outcome (sent : Sent constraints Answer) :
    Except SqlError (Result Uuid (Row Columns) Answer × Rows TableName Uuid (Row Columns)) :=
  execute (schema constraints) sent.settings.policy sent.rows sent.statement

namespace Pool

variable (pool : Pool constraints Answer)

def put (index : Nat) (connection : Connection) : Pool constraints Answer :=
  { pool with connections := Function.update pool.connections index connection }

def step : PoolLabel constraints Answer → Option (Pool constraints Answer)
  | .connect index =>
      match (pool.connections index).stage with
      | .idle => some (pool.put index .fresh)
      | _ => none
  | .begin index =>
      match (pool.connections index).stage with
      | .idle => some (pool.put index { pool.connections index with stage := .opened .nothing })
      | _ => none
  | .setTenantContext index tenantId isSuperadmin =>
      match (pool.connections index).stage with
      | .opened _ =>
          match setTenantContext tenantId isSuperadmin with
          | .ok (context, settings) => some (pool.put index
              { pool.connections index with transaction := settings, stage := .opened context })
          | .error _ => some (pool.put index { pool.connections index with stage := .aborted })
      | _ => none
  | .execute index rows consistent statement =>
      match (pool.connections index).stage with
      | .opened context =>
          let sent : Sent constraints Answer :=
            ⟨context, (pool.connections index).settings, rows, consistent, statement⟩
          let logged := { pool with sent := sent :: pool.sent }
          match sent.outcome with
          | .ok _ => some logged
          | .error _ => some (logged.put index { pool.connections index with stage := .aborted })
      | _ => none
  | .finish index =>
      match (pool.connections index).stage with
      | .idle => none
      | _ => some (pool.put index (pool.connections index).finish)

end Pool

/-- The connections of the pool, all of them new. -/
def pooling : Machine (Pool constraints Answer) (PoolLabel constraints Answer) where
  start pool := pool.connections = (fun _ => .fresh) ∧ pool.sent = []
  step := Pool.step

/-- What the policies promise a transaction. Without a context it sees and changes nothing. With
that of a tenant it meets the rows of the tenant as if there were no others, which it leaves alone. -/
def Sent.Confined (sent : Sent constraints Answer) : Prop :=
  match sent.context with
  | .nothing =>
      (visible sent.settings.policy sent.rows = fun _ => []) ∧
        ∀ result after, sent.outcome = .ok (result, after) → after = sent.rows
  | .tenant tenantId =>
      let own := scope constraints (· == tenantId)
      visible sent.settings.policy sent.rows = visible own.owns sent.rows ∧
        (∀ result after, sent.outcome = .ok (result, after) →
          others own after = others own sent.rows) ∧
        (sent.outcome = .error .unique ∨ part own sent.outcome =
          execute (schema constraints) own.owns (visible own.owns sent.rows) sent.statement)
  | .everything => visible sent.settings.policy sent.rows = sent.rows

/-- What holds of a connection at each point of a transaction. -/
structure Connection.Sound (connection : Connection) : Prop where
  session : blank connection.session.isSuperadmin ∧ blank connection.session.currentTenant
  transaction : match connection.stage with
    | .idle => connection.transaction = ⟨none, none⟩
    | .opened .nothing => connection.transaction = ⟨none, none⟩
    | .opened (.tenant tenantId) =>
        connection.transaction = ⟨some ['f', 'a', 'l', 's', 'e'], some tenantId.text⟩
    | .opened .everything => connection.transaction = ⟨some ['t', 'r', 'u', 'e'], some []⟩
    | .aborted => True

structure Pool.Sound (pool : Pool constraints Answer) : Prop where
  connections : ∀ index, (pool.connections index).Sound
  sent : ∀ sent ∈ pool.sent, sent.Confined

section

variable {connection : Connection} {index : Nat} {pool next : Pool constraints Answer}

theorem Connection.fresh_sound : fresh.Sound := ⟨⟨rfl, rfl⟩, rfl⟩

theorem blank_reset {set session : Option (List Char)} (absent : blank session) :
    blank (Connection.reset set session) := by
  cases set with
  | none => exact absent
  | some value => exact absent

theorem Connection.Sound.finish (sound : connection.Sound) : connection.finish.Sound :=
  ⟨⟨blank_reset sound.session.1, blank_reset sound.session.2⟩, rfl⟩

/-- A transaction without a context has blank settings. -/
theorem Connection.Sound.settings_nothing (sound : connection.Sound)
    (stage : connection.stage = .opened .nothing) :
    blank connection.settings.isSuperadmin ∧ blank connection.settings.currentTenant := by
  have transaction := sound.transaction
  rw [stage] at transaction
  rw [Connection.settings, transaction]
  exact sound.session

theorem Connection.Sound.settings_tenant (sound : connection.Sound) {tenantId : Uuid}
    (stage : connection.stage = .opened (.tenant tenantId)) :
    connection.settings = ⟨some ['f', 'a', 'l', 's', 'e'], some tenantId.text⟩ := by
  have transaction := sound.transaction
  rw [stage] at transaction
  rw [Connection.settings, transaction]
  rfl

theorem Connection.Sound.settings_everything (sound : connection.Sound)
    (stage : connection.stage = .opened .everything) :
    connection.settings = ⟨some ['t', 'r', 'u', 'e'], some []⟩ := by
  have transaction := sound.transaction
  rw [stage] at transaction
  rw [Connection.settings, transaction]
  rfl

/-- A statement is confined by the settings that the transaction has asked for. -/
theorem Connection.Sound.confined (sound : connection.Sound) {context : Context}
    (stage : connection.stage = .opened context) (rows : Rows TableName Uuid (Row Columns))
    (consistent : (schema constraints).Consistent rows)
    (statement : Statement TableName Uuid (Row Columns) Answer) :
    Sent.Confined ⟨context, connection.settings, rows, consistent, statement⟩ := by
  cases context with
  | nothing =>
    obtain ⟨superadmin, tenant⟩ := sound.settings_nothing stage
    have policy := policy_scope constraints (superadmin_blank superadmin)
    rw [isTenant_blank tenant] at policy
    refine ⟨?_, fun result after executed => ?_⟩
    · funext table
      change (rows table).filter _ = []
      rw [policy, List.filter_eq_nil_iff]
      intro entry _
      rw [owns_nothing]
      exact Bool.false_ne_true
    · change execute _ connection.settings.policy _ _ = _ at executed
      rw [policy] at executed
      have same := execute_others consistent executed
      have all (rows : Rows TableName Uuid (Row Columns)) :
          others (scope constraints fun _ => false) rows = rows := by
        funext table
        refine List.filter_eq_self.mpr fun entry _ => ?_
        rw [owns_nothing]
        rfl
      rwa [all, all] at same
  | tenant tenantId =>
    have policy : connection.settings.policy = (scope constraints (· == tenantId)).owns := by
      rw [sound.settings_tenant stage, policy_scope constraints rfl,
        isTenant_text rfl]
    refine ⟨?_, fun result after executed => ?_, ?_⟩
    · change visible connection.settings.policy rows = _
      rw [policy]
    · change execute _ connection.settings.policy _ _ = _ at executed
      rw [policy] at executed
      exact execute_others consistent executed
    · change execute _ connection.settings.policy _ _ = _ ∨
        part _ (execute _ connection.settings.policy _ _) = _
      rw [policy]
      exact execute_private consistent statement
  | everything =>
    change visible connection.settings.policy rows = rows
    rw [sound.settings_everything stage]
    funext table
    exact List.filter_eq_self.mpr fun entry _ => rfl

theorem Pool.Sound.put (sound : pool.Sound) (connected : connection.Sound) :
    (pool.put index connection).Sound := by
  refine ⟨fun other => ?_, sound.sent⟩
  by_cases same : other = index
  · have here : (pool.put index connection).connections other = connection := by
      rw [same]
      exact Function.update_self ..
    rw [here]
    exact connected
  · have elsewhere : (pool.put index connection).connections other = pool.connections other :=
      Function.update_of_ne same ..
    rw [elsewhere]
    exact sound.connections other

theorem Pool.Sound.setTenantContext (sound : pool.Sound) {tenantId : Option Uuid}
    {isSuperadmin : Bool}
    (taken : pool.step (.setTenantContext index tenantId isSuperadmin) = some next) :
    next.Sound := by
  have session := (sound.connections index).session
  rw [step] at taken
  split at taken
  case h_2 => cases taken
  case h_1 =>
    split at taken
    case h_1 context settings given =>
      cases taken
      refine sound.put ⟨session, ?_⟩
      unfold Policies.setTenantContext at given
      split at given
      case isTrue =>
        cases given
        rfl
      case isFalse =>
        split at given
        case h_1 => cases given
        case h_2 =>
          cases given
          rfl
    case h_2 =>
      cases taken
      exact sound.put ⟨session, trivial⟩

theorem Pool.Sound.execute (sound : pool.Sound) {rows : Rows TableName Uuid (Row Columns)}
    {consistent : (schema constraints).Consistent rows}
    {statement : Statement TableName Uuid (Row Columns) Answer}
    (taken : pool.step (.execute index rows consistent statement) = some next) : next.Sound := by
  have connected := sound.connections index
  rw [step] at taken
  split at taken
  case h_2 => cases taken
  case h_1 context stage =>
    have logged : ({ pool with sent := ⟨context, (pool.connections index).settings, rows, consistent,
        statement⟩ :: pool.sent } : Pool constraints Answer).Sound := by
      refine ⟨sound.connections, fun sent member => ?_⟩
      rcases List.mem_cons.mp member with rfl | before
      · exact connected.confined stage rows consistent statement
      · exact sound.sent sent before
    dsimp only at taken
    split at taken
    case h_1 =>
      cases taken
      exact logged
    case h_2 =>
      cases taken
      exact logged.put ⟨connected.session, trivial⟩

theorem Pool.Sound.step {label : PoolLabel constraints Answer} (sound : pool.Sound)
    (taken : pool.step label = some next) : next.Sound := by
  cases label with
  | connect index =>
    unfold Pool.step at taken
    dsimp only at taken
    split at taken
    case h_2 => cases taken
    case h_1 =>
      cases taken
      exact sound.put Connection.fresh_sound
  | begin index =>
    have connected := sound.connections index
    unfold Pool.step at taken
    dsimp only at taken
    split at taken
    case h_2 => cases taken
    case h_1 stage =>
      cases taken
      have transaction := connected.transaction
      rw [stage] at transaction
      exact sound.put ⟨connected.session, transaction⟩
  | setTenantContext index tenantId isSuperadmin => exact sound.setTenantContext taken
  | execute index rows consistent statement => exact sound.execute taken
  | finish index =>
    have connected := sound.connections index
    unfold Pool.step at taken
    dsimp only at taken
    split at taken
    case h_1 => cases taken
    case h_2 =>
      cases taken
      exact sound.put connected.finish

/-- However transactions share the connections, each statement has the rights of the context that
its own transaction has set last: no right is left over from another. -/
theorem pool_confined (reached : pooling.Reachable pool) :
    ∀ sent ∈ pool.sent, sent.Confined := by
  have sound : pool.Sound := by
    refine reached.invariant (fun fresh begins => ?_) fun _ _ _ _ sound _ taken => sound.step taken
    obtain ⟨connections, sent⟩ := begins
    refine ⟨fun index => ?_, fun sent' member => ?_⟩
    · rw [connections]
      exact Connection.fresh_sound
    · rw [sent] at member
      cases member
  exact sound.sent

end

end

def unconstrained : Constraints Unit := ⟨fun _ _ => true, fun _ _ _ => false⟩

/-- Each tenant has a user with a token, and an asset with a scan. -/
def twoTenants : Rows TableName Uuid (Row Unit)
  | .tenants => [(1, ⟨none, none, ()⟩), (2, ⟨none, none, ()⟩)]
  | .users => [(11, ⟨some 1, none, ()⟩), (12, ⟨some 2, none, ()⟩)]
  | .refreshTokens => [(21, ⟨none, some 11, ()⟩), (22, ⟨none, some 12, ()⟩)]
  | .assets => [(31, ⟨some 1, none, ()⟩), (32, ⟨some 2, none, ()⟩)]
  | .scans => [(41, ⟨some 1, some 31, ()⟩), (42, ⟨some 2, some 32, ()⟩)]
  | _ => []

theorem twoTenants_consistent : (schema unconstrained).Consistent twoTenants := by
  refine ⟨fun table => ?_, fun table => List.all_eq_true.mp ?_⟩
  · cases table <;> decide
  · cases table <;> decide

/-- A transaction of tenant 1 deletes its assets, and one without a context follows on its
connection. -/
def served : List (PoolLabel unconstrained Nat) :=
  [.begin 0, .setTenantContext 0 (some 1) false,
    .execute 0 twoTenants twoTenants_consistent (.delete .assets fun _ _ => true), .finish 0,
    .begin 0, .execute 0 twoTenants twoTenants_consistent (.select fun rows => (rows .users).length)]

def newPool : Pool unconstrained Nat := ⟨fun _ => .fresh, []⟩

theorem pool_confined_served : ∃ pool, pooling.exec newPool served = some pool ∧
    pool.sent.map Sent.context = [.nothing, .tenant 1] ∧ ∀ sent ∈ pool.sent, sent.Confined := by
  have run : ((pooling.exec newPool served).map fun pool => pool.sent.map Sent.context) =
      some [.nothing, .tenant 1] := by
    rfl
  obtain ⟨pool, run, contexts⟩ := Option.map_eq_some_iff.mp run
  exact ⟨pool, run, contexts, pool_confined (.exec (.start ⟨rfl, rfl⟩) run)⟩

/-- A transaction of a tenant goes as it would go on the rows of the tenant alone, up to a key that
is taken, and leaves the keys, the references and the rows of the others as they should be. -/
theorem transaction_private {constraints : Constraints Columns} {Answer : Type} (tenantId : Uuid)
    (context : Context) (settings : Settings)
    (given : setTenantContext (some tenantId) false = .ok (context, settings))
    (rows : Rows TableName Uuid (Row Columns)) (consistent : (schema constraints).Consistent rows)
    (program : Program TableName Uuid (Row Columns) Answer) (steps : Nat) :
    let own := scope constraints (· == tenantId)
    let among := run (schema constraints) settings.policy program steps [] rows
    let alone := run (schema constraints) settings.policy program steps [] (visible own.owns rows)
    (among.2 = .error .unique ∧ among.1 <+: alone.1 ∨
      among.1 = alone.1 ∧ among.2.map (visible own.owns) = alone.2) ∧
    ∀ after, among.2 = .ok after →
      (schema constraints).Consistent after ∧ others own after = others own rows := by
  cases given
  have policy : (Settings.policy ⟨some ['f', 'a', 'l', 's', 'e'], some tenantId.text⟩ :
      Policy TableName Uuid (Row Columns)) = (scope constraints (· == tenantId)).owns := by
    rw [policy_scope constraints rfl, isTenant_text rfl]
  dsimp only
  rw [policy]
  exact ⟨run_private program steps [] consistent,
    fun after finished => run_others program steps [] consistent finished⟩

/-- Tenant 1 deletes every asset, counts the scans, and adds a token. -/
def cleanUp : Program TableName Uuid (Row Unit) Nat
  | [] => some (.delete .assets fun _ _ => true)
  | [_] => some (.select fun rows => (rows .scans).length)
  | [_, _] => some (.insert .refreshTokens fun rows =>
      (rows .users).map fun user => (23, ⟨none, some user.1, ()⟩))
  | _ => none

theorem transaction_private_cleanUp :
    ∃ context settings after, setTenantContext (some 1) false = .ok (context, settings) ∧
      (run (schema unconstrained) settings.policy cleanUp 9 [] twoTenants).2 = .ok after ∧
      (schema unconstrained).Consistent after ∧
      others (scope unconstrained (· == 1)) after = others (scope unconstrained (· == 1)) twoTenants := by
  refine ⟨_, _, _, rfl, rfl, ?_⟩
  exact (transaction_private 1 _ _ rfl twoTenants twoTenants_consistent cleanUp 9).2 _ rfl

end Tenancy.Policies
