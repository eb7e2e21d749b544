import Mathlib.Logic.Relation
import Soc360.Auth.SessionCap

set_option autoImplicit false

namespace Auth

/-- What a transaction keeps from one statement on until it ends. -/
inductive Lock where
  | session (user : UserId)
  | user (user : UserId)
  | token (token : TokenHash)
  deriving DecidableEq, Repr

/-- The lock that a statement waits for. The SELECT of `refresh_tokens` skips a locked row,
and no other transaction knows the hash of an INSERT. -/
def Action.request : Action → Option Lock
  | .revoke token _ => some (.token token)
  | .sweep token _ _ => some (.token token)
  | .user named _ => some (.user named)
  | .advisory named => some (.session named)
  | _ => none

/-- A login, a refresh or a password change of the user. -/
def Call.isSessionFlow (user : UserId) : Call → Bool
  | login named _ => named == user
  | refreshTokens _ _ => true
  | changePassword named _ _ => named == user
  | _ => false

def Call.isRefresh : Call → Bool
  | refreshTokens _ _ => true
  | _ => false

/-- The rows that the UPDATE of a password change has yet to visit. -/
def Stage.unswept : Stage → List TokenHash
  | .sweeping _ todo _ => todo
  | _ => []

/-- The lock on a row that a call under the advisory lock has yet to update: the row of its
user, where a login has not flushed `last_login_at`, or the token it has chosen to evict. -/
def Task.outstanding (task : Task) : Option Lock :=
  match task.stage with
  | .locked grant => if task.call.isRefresh then none else some (.user grant.userId)
  | .room _ (some (token, _)) => some (.token token)
  | .added _ (some (token, _)) _ _ => some (.token token)
  | _ => none

namespace World

def holder (world : World) : Lock → Option Txn
  | .session named => world.sessionLock named
  | .user named => world.users.owner named
  | .token token => world.tokens.owner token

section

variable (directory : Directory) (accessTtl : Seconds) (world : World)

/-- The next statement of the transaction, one of them for an UPDATE of several rows, asks
for the lock. -/
def Requests (txn : Txn) (lock : Lock) : Prop :=
  ∃ task choice stage action, world.Open txn task ∧
    world.plan directory accessTtl txn task choice = some (stage, action) ∧
    action.request = some lock

/-- An edge of the wait-for graph. -/
def WaitsFor (txn other : Txn) : Prop :=
  ∃ lock, world.Requests directory accessTtl txn lock ∧ world.holder lock = some other ∧
    other ≠ txn

/-- No transaction waits for itself along the graph. -/
def DeadlockFree : Prop :=
  ∀ txn, ¬ Relation.TransGen (world.WaitsFor directory accessTtl) txn txn

end

def refreshing (world : World) (txn : Txn) : Bool :=
  (world.tasks txn).any (·.call.isRefresh)

/-- A password change has yet to revoke a token that a refresh has locked. -/
def SweepsRefreshed (world : World) (txn : Txn) : Prop :=
  ∃ task ∈ world.tasks txn, ∃ token ∈ task.stage.unswept,
    ∃ other ∈ world.tokens.owner token, world.refreshing other = true

/-- The holder of the user's advisory lock has yet to update a row that another transaction
has locked, and that transaction is a refresh, which needs the advisory lock, or a password
change which has yet to revoke the token of a refresh. -/
def Entangled (world : World) (user : UserId) : Prop :=
  ∃ first ∈ world.sessionLock user, ∃ task ∈ world.tasks first, ∃ lock ∈ task.outstanding,
    ∃ other ∈ world.holder lock, other ≠ first ∧
      (world.refreshing other = true ∨ world.SweepsRefreshed other)

instance (world : World) (txn : Txn) : Decidable (world.SweepsRefreshed txn) :=
  inferInstanceAs (Decidable (∃ task ∈ world.tasks txn, ∃ token ∈ task.stage.unswept,
    ∃ other ∈ world.tokens.owner token, world.refreshing other = true))

instance (world : World) (user : UserId) : Decidable (world.Entangled user) :=
  inferInstanceAs (Decidable (∃ first ∈ world.sessionLock user, ∃ task ∈ world.tasks first,
    ∃ lock ∈ task.outstanding, ∃ other ∈ world.holder lock, other ≠ first ∧
      (world.refreshing other = true ∨ world.SweepsRefreshed other)))

/-- Any sessions of one user, and no transaction. -/
structure Idle (user : UserId) (world : World) : Prop where
  tokens : world.tokens.Sound ∧ ∀ txn, world.tokens.effects txn = []
  rows : ∀ token row, world.tokens.table.slot token = .live row → row.userId = user
  exists_ : ∃ row, world.users.table.slot user = .live row
  free : ∀ lock, world.holder lock = none
  tasks : ∀ txn, world.tasks txn = none

end World

/-- The calls begun are session flows of the user. -/
def OfUser (user : UserId) : Label → Prop
  | .begin_ _ call => call.isSessionFlow user = true
  | _ => True

instance (user : UserId) : ∀ label, Decidable (OfUser user label)
  | .begin_ _ call => inferInstanceAs (Decidable (call.isSessionFlow user = true))
  | .tick _ => .isTrue trivial
  | .run _ _ => .isTrue trivial
  | .commit _ _ => .isTrue trivial
  | .abort _ => .isTrue trivial

/-- The same statements over the sessions that one user has already. -/
def sessionFlows (directory : Directory) (accessTtl : Seconds) (user : UserId) :
    Machine World Label where
  start := World.Idle user
  step := World.step directory accessTtl

/-- The users that a stage names. -/
def Stage.users : Stage → List UserId
  | .selected named => [named]
  | .authenticated grant => [grant.userId]
  | .created grant _ => [grant.userId]
  | .tracked grant => [grant.userId]
  | .locked grant => [grant.userId]
  | .flushed grant => [grant.userId]
  | .full grant => [grant.userId]
  | .room grant _ => [grant.userId]
  | .added grant _ row _ => [grant.userId, row.userId]
  | .inserting grant row => [grant.userId, row.userId]
  | .granted grant _ => [grant.userId]
  | .flagged todo => todo
  | _ => []

/-- The call has updated the row of its user. -/
def Task.tookUser (task : Task) : Bool :=
  match task.stage with
  | .flushed _ => !task.call.isRefresh
  | .full _ => !task.call.isRefresh
  | .room _ _ => !task.call.isRefresh
  | .added _ _ _ _ => !task.call.isRefresh
  | .inserting _ _ => !task.call.isRefresh
  | .granted _ _ => !task.call.isRefresh
  | .flagged _ => true
  | .sweeping _ _ _ => true
  | .revoking _ _ _ => true
  | _ => false

def Call.presentsToken (token : TokenHash) : Call → Bool
  | refreshTokens presented _ => presented == token
  | _ => false

/-- A refresh has locked the row of its token. -/
def Stage.started : Stage → Bool
  | .begun => false
  | _ => true

/-- What a call has locked for sure. -/
def Task.Holds (user : UserId) (task : Task) : Lock → Prop
  | .session named => task.stage.holder = some named
  | .user named => named = user ∧ task.tookUser = true
  | .token token => task.call.presentsToken token = true ∧ task.stage.started = true

/-- Where a call may have locked a token other than the one it presents. -/
def Stage.revokes : Stage → Bool
  | .inserting _ _ => true
  | .granted _ _ => true
  | .sweeping _ _ _ => true
  | .revoking _ _ _ => true
  | _ => false

/-- What a call may have locked. -/
def Task.MayHold (user : UserId) (task : Task) : Lock → Prop
  | .token token => task.Holds user (.token token) ∨ task.stage.revokes = true
  | lock => task.Holds user lock

/-- The lock that a statement takes, if it finds its row. -/
def Action.takes : Action → Option Lock
  | .lock token => some (.token token)
  | .insert token _ => some (.token token)
  | action => action.request

section

variable {directory : Directory} {accessTtl : Seconds} {world after next : World} {label : Label}
  {txn other : Txn} {task : Task} {user : UserId} {token : TokenHash} {action : Action}
  {lock : Lock}

theorem acyclic_of_rank {Node : Type} {edge : Node → Node → Prop} (rank : Node → Nat)
    (falls : ∀ first second, edge first second → rank second < rank first) (node : Node) :
    ¬ Relation.TransGen edge node node := by
  have below {first second : Node} (path : Relation.TransGen edge first second) :
      rank second < rank first := by
    induction path with
    | single step => exact falls _ _ step
    | tail _ step ih => exact Nat.lt_trans (falls _ _ step) ih
  intro cycle
  exact Nat.lt_irrefl _ (below cycle)

/-- A ledger that has locked one more row for the transaction. -/
theorem holder_token {tokens : Ledger Txn TokenHash RefreshToken TokenChange}
    (owner : tokens.owner = Function.update world.tokens.owner token (some txn))
    (unblocked : world.tokens.Unblocked txn token) (lock : Lock) :
    ({ world with tokens := tokens } : World).holder lock = world.holder lock ∨
      lock = .token token ∧ ({ world with tokens := tokens } : World).holder lock = some txn ∧
        (world.holder lock = none ∨ world.holder lock = some txn) := by
  cases lock with
  | session named => exact .inl rfl
  | user named => exact .inl rfl
  | token place =>
      by_cases same : place = token
      · subst same
        refine .inr ⟨rfl, ?_, unblocked⟩
        show tokens.owner place = some txn
        rw [owner, Function.update_self]
      · refine .inl ?_
        show tokens.owner place = world.tokens.owner place
        rw [owner, Function.update_of_ne same]

/-- A statement takes at most one lock, and only a free one. -/
theorem perform_holder (performed : world.perform txn action = some after)
    (accepted : action ≠ .refuse) (lock : Lock) :
    after.holder lock = world.holder lock ∨
      action.takes = some lock ∧ after.holder lock = some txn ∧
        (world.holder lock = none ∨ world.holder lock = some txn) := by
  have written {token : TokenHash} {effect : TokenEffect}
      {tokens : Ledger Txn TokenHash RefreshToken TokenChange}
      (wrote : world.tokens.write txn token effect = some tokens)
      (takes : action.takes = some (.token token)) :
      ({ world with tokens := tokens } : World).holder lock = world.holder lock ∨
        action.takes = some lock ∧ ({ world with tokens := tokens } : World).holder lock = some txn ∧
          (world.holder lock = none ∨ world.holder lock = some txn) := by
    obtain ⟨unblocked, _, _, same⟩ := Ledger.write_some wrote
    have owner : tokens.owner = Function.update world.tokens.owner token (some txn) := by rw [same]
    rcases holder_token owner unblocked lock with same | ⟨rfl, taken⟩
    · exact .inl same
    · exact .inr ⟨takes, taken⟩
  cases action with
  | refuse => exact absurd rfl accepted
  | lock token =>
      obtain ⟨tokens, locked, rfl⟩ := Option.map_eq_some_iff.mp performed
      obtain ⟨unblocked, same⟩ := Ledger.lock_some locked
      have owner : tokens.owner = Function.update world.tokens.owner token (some txn) := by
        rw [same]
      rcases holder_token owner unblocked lock with same | ⟨rfl, taken⟩
      · exact .inl same
      · exact .inr ⟨rfl, taken⟩
  | revoke token at_ =>
      obtain ⟨tokens, wrote, rfl⟩ := Option.map_eq_some_iff.mp performed
      exact written wrote rfl
  | sweep token users at_ =>
      obtain ⟨⟨tokens, hit⟩, updated, rfl⟩ := Option.map_eq_some_iff.mp performed
      rcases Ledger.update_some updated with ⟨-, rfl, -⟩ | ⟨-, wrote⟩
      · exact .inl rfl
      · exact written wrote rfl
  | insert token row =>
      obtain ⟨tokens, inserted, rfl⟩ := Option.map_eq_some_iff.mp performed
      unfold Ledger.insert at inserted
      split at inserted
      next => cases inserted
      next =>
        obtain ⟨unblocked, _, _, same⟩ := Ledger.write_some inserted
        have owner : tokens.owner = Function.update world.tokens.owner token (some txn) := by
          rw [same]
        rcases holder_token owner unblocked lock with same | ⟨rfl, taken⟩
        · exact .inl same
        · exact .inr ⟨rfl, taken⟩
  | user named change =>
      obtain ⟨⟨users, hit⟩, updated, rfl⟩ := Option.map_eq_some_iff.mp performed
      rcases Ledger.update_some updated with ⟨-, rfl, -⟩ | ⟨-, wrote⟩
      · exact .inl rfl
      · obtain ⟨unblocked, _, _, rfl⟩ := Ledger.write_some wrote
        cases lock with
        | session place => exact .inl rfl
        | token place => exact .inl rfl
        | user place =>
            by_cases same : place = named
            · subst same
              exact .inr ⟨rfl, Function.update_self .., unblocked⟩
            · exact .inl (Function.update_of_ne same _ _)
  | tenant tenant change =>
      obtain ⟨_, _, rfl⟩ := Option.map_eq_some_iff.mp performed
      exact .inl rfl
  | advisory named =>
      simp only [World.perform] at performed
      split at performed
      next free =>
        cases performed
        cases lock with
        | user place => exact .inl rfl
        | token place => exact .inl rfl
        | session place =>
            by_cases same : place = named
            · subst same
              exact .inr ⟨rfl, Function.update_self .., free⟩
            · exact .inl (Function.update_of_ne same _ _)
      next => cases performed
  | _ => cases performed; exact .inl rfl

theorem perform_keeps (performed : world.perform txn action = some after)
    (accepted : action ≠ .refuse) (held : world.holder lock = some other) :
    after.holder lock = some other := by
  rcases perform_holder performed accepted lock with same | ⟨_, taken, free⟩
  · rw [same, held]
  · rw [held] at free
    have mine : other = txn := by simpa using free
    rw [taken, mine]

section

variable {call : Call} {startedAt : Seconds} {choice : Choice} {from_ stage : Stage}

theorem flow_covers (flow : call.isSessionFlow user = true) {named : UserId}
    (covered : named ∈ call.covers directory) : named = user := by
  cases call with
  | changePassword changed current new =>
      have same : changed = user := by simpa [Call.isSessionFlow] using flow
      rw [← same]
      simpa [Call.covers] using covered
  | login => cases covered
  | refreshTokens => cases covered
  | _ => cases flow

theorem flow_not_tenant {tenant : TenantId} (flow : call.isSessionFlow user = true)
    (same : (∃ isActive, call = .updateTenant tenant isActive) ∨
      call = .deactivateTenant tenant) : False := by
  rcases same with ⟨isActive, rfl⟩ | rfl
  · cases flow
  · cases flow

/-- The calls of one user stay with that user. -/
theorem Planned.users (planned : Planned directory accessTtl world txn call startedAt choice
      from_ stage action)
    (flow : call.isSessionFlow user = true) (about : ∀ named ∈ from_.users, named = user)
    (rows : ∀ token row, world.tokens.view txn token = .live row → row.userId = user) :
    ∀ named ∈ stage.users, named = user := by
  intro named member
  cases planned with
  | login same =>
      subst same
      have only : named = _ := List.mem_singleton.mp member
      rw [only]
      simpa [Call.isSessionFlow] using flow
  | select same seen active =>
      have only : named = _ := List.mem_singleton.mp member
      rw [only]
      exact rows _ _ seen
  | add grant =>
      have only : named = grant.userId := by simpa [Stage.users] using member
      exact about named (List.mem_singleton.mpr only)
  | insert =>
      refine about named ?_
      exact List.mem_cons.mpr (.inl (List.mem_singleton.mp member))
  | flushUser covers next =>
      rcases next with rfl | ⟨rfl, _⟩
      · cases member
      · cases member
  | flushTenant next same => exact (flow_not_tenant flow same).elim
  | flag => exact about named (List.mem_of_mem_erase member)
  | denylist => cases member
  | _ => first | exact about named member | cases member

/-- What a call holds after a statement, it held before or has taken just now. -/
theorem Planned.holds (planned : Planned directory accessTtl world txn call startedAt choice
      from_ stage action) {outcome : Option Outcome} (accepted : action ≠ .refuse)
    (flow : call.isSessionFlow user = true) (about : ∀ named ∈ from_.users, named = user)
    (held : (⟨call, startedAt, stage, outcome⟩ : Task).Holds user lock) :
    (⟨call, startedAt, from_, outcome⟩ : Task).Holds user lock ∨
      action.takes = some lock ∧ ∀ token users at_, action ≠ .sweep token users at_ := by
  have takes (taken : action.takes = some lock)
      (unlike : ∀ token users at_, action ≠ .sweep token users at_) :
      (⟨call, startedAt, from_, outcome⟩ : Task).Holds user lock ∨
        action.takes = some lock ∧ ∀ token users at_, action ≠ .sweep token users at_ :=
    .inr ⟨taken, unlike⟩
  have not_presents {token : TokenHash} (changes : call.isChange = true)
      (presents : call.presentsToken token = true) : False := by
    cases call with
    | refreshTokens => cases changes
    | _ => cases presents
  cases lock with
  | session named =>
      cases planned with
      | lockSession same grant =>
          have only : grant.userId = named := by simpa [Task.Holds, Stage.holder] using held
          exact takes (by rw [← only]; rfl) (fun _ _ _ other => by cases other)
      | advisory grant =>
          have only : grant.userId = named := by simpa [Task.Holds, Stage.holder] using held
          exact takes (by rw [← only]; rfl) (fun _ _ _ other => by cases other)
      | flushUser covers next => rcases next with rfl | ⟨rfl, _⟩ <;> cases held
      | flushTenant next same => exact (flow_not_tenant flow same).elim
      | refused => exact absurd rfl accepted
      | _ => exact .inl held
  | user named =>
      obtain ⟨rfl, took⟩ := held
      cases planned with
      | rotate same => subst same; cases took
      | touch grant =>
          have only : grant.userId = named := about _ (List.mem_singleton_self _)
          exact takes (by rw [← only]; rfl) (fun _ _ _ other => by cases other)
      | flushUser covers next =>
          have only := flow_covers flow covers
          exact takes (by rw [← only]; rfl) (fun _ _ _ other => by cases other)
      | flushTenant next same => exact (flow_not_tenant flow same).elim
      | refused => exact absurd rfl accepted
      | _ => exact .inl ⟨rfl, took⟩
  | token token =>
      obtain ⟨presents, _⟩ := held
      cases planned with
      | login same => subst same; cases presents
      | select same =>
          subst same
          refine takes ?_ (fun _ _ _ other => by cases other)
          rw [← beq_iff_eq.mp presents]
          rfl
      | denylist same => subst same; cases presents
      | verify _ changes => exact (not_presents changes presents).elim
      | unchanged changes => exact (not_presents changes presents).elim
      | refused => exact absurd rfl accepted
      | _ => exact .inl ⟨presents, rfl⟩

/-- What a statement takes, the call may hold, beside what it might hold before. -/
theorem Planned.mayHold (planned : Planned directory accessTtl world txn call startedAt choice
      from_ stage action) {outcome : Option Outcome} (accepted : action ≠ .refuse)
    (flow : call.isSessionFlow user = true) (about : ∀ named ∈ from_.users, named = user)
    (fits : from_.fits call = true)
    (held : (⟨call, startedAt, from_, outcome⟩ : Task).MayHold user lock ∨
      action.takes = some lock) :
    (⟨call, startedAt, stage, outcome⟩ : Task).MayHold user lock := by
  cases lock with
  | session named =>
      rcases held with held | taken
      · cases planned with
        | refused => exact absurd rfl accepted
        | _ => first | exact held | cases held
      · cases planned with
        | lockSession same grant => cases taken; rfl
        | advisory grant => cases taken; rfl
        | denylist _ acts => rcases acts with rfl | rfl <;> cases taken
        | revokeOld _ _ _ _ _ acts => rcases acts with rfl | rfl <;> cases taken
        | _ => cases taken
  | user named =>
      rcases held with ⟨rfl, took⟩ | taken
      · cases planned with
        | refused => exact absurd rfl accepted
        | _ => first | exact ⟨rfl, took⟩ | cases took
      · cases planned with
        | touch grant login =>
            cases taken
            refine ⟨about _ (List.mem_singleton_self _), ?_⟩
            cases call <;> first | rfl | exact absurd rfl (login _ _)
        | flushUser covers next =>
            cases taken
            refine ⟨flow_covers flow covers, ?_⟩
            rcases next with rfl | ⟨_, _, rfl, _⟩
            · rfl
            · cases flow
        | flag => cases taken; exact ⟨about _ ‹_›, rfl⟩
        | denylist _ acts => rcases acts with rfl | rfl <;> cases taken
        | revokeOld _ _ _ _ _ acts => rcases acts with rfl | rfl <;> cases taken
        | _ => cases taken
  | token token =>
      rcases held with (⟨presents, started⟩ | revokes) | taken
      · cases planned with
        | refused => exact absurd rfl accepted
        | flushUser _ next => rcases next with rfl | ⟨rfl, _⟩ <;> exact .inl ⟨presents, rfl⟩
        | flushTenant next same => exact (flow_not_tenant flow same).elim
        | _ => exact .inl ⟨presents, rfl⟩
      · cases planned with
        | refused => exact absurd rfl accepted
        | flushUser => cases revokes
        | flushTenant => cases revokes
        | _ => first | exact .inr rfl | cases revokes
      · cases planned with
        | select same =>
            cases taken
            exact .inl ⟨by simp [same, Call.presentsToken], rfl⟩
        | rotate same =>
            cases taken
            exact .inl ⟨by simp [same, Call.presentsToken], rfl⟩
        | evict => exact .inr rfl
        | insert => exact .inr rfl
        | sweep => exact .inr rfl
        | logout =>
            cases call with
            | logout => cases flow
            | _ => cases fits
        | denylist _ acts => rcases acts with rfl | rfl <;> cases taken
        | revokeOld _ _ _ _ _ acts => rcases acts with rfl | rfl <;> cases taken
        | _ => cases taken

end

theorem Planned.inserts {call : Call} {startedAt : Seconds} {choice : Choice}
    {from_ stage : Stage} {row : RefreshToken}
    (planned : Planned directory accessTtl world txn call startedAt choice from_ stage
      (.insert token row)) : row.userId ∈ from_.users := by
  cases planned with
  | denylist _ acts => rcases acts with acts | acts <;> cases acts
  | revokeOld _ _ _ _ _ acts => rcases acts with acts | acts <;> cases acts
  | insert grant => exact List.mem_cons_of_mem _ (List.mem_singleton_self _)

/-- A statement that is no conditional UPDATE takes its lock. -/
theorem perform_takes (performed : world.perform txn action = some after)
    (takes : action.takes = some lock) (unlike : ∀ token users at_, action ≠ .sweep token users at_)
    (finds : ∀ named change, action = .user named change → after.users.owner named = some txn) :
    after.holder lock = some txn := by
  cases action with
  | sweep token users at_ => exact absurd rfl (unlike token users at_)
  | lock token =>
      cases takes
      obtain ⟨tokens, locked, rfl⟩ := Option.map_eq_some_iff.mp performed
      obtain ⟨_, rfl⟩ := Ledger.lock_some locked
      exact Function.update_self ..
  | revoke token at_ =>
      cases takes
      obtain ⟨tokens, written, rfl⟩ := Option.map_eq_some_iff.mp performed
      obtain ⟨_, _, _, rfl⟩ := Ledger.write_some written
      exact Function.update_self ..
  | insert token row =>
      cases takes
      obtain ⟨tokens, inserted, rfl⟩ := Option.map_eq_some_iff.mp performed
      unfold Ledger.insert at inserted
      split at inserted
      next => cases inserted
      next =>
        obtain ⟨_, _, _, rfl⟩ := Ledger.write_some inserted
        exact Function.update_self ..
  | user named change =>
      cases takes
      exact finds named change rfl
  | advisory named =>
      cases takes
      exact World.perform_advisory performed
  | _ => cases takes

theorem write_row {place : TokenHash} {how : TokenChange} {row : RefreshToken}
    {tokens : Ledger Txn TokenHash RefreshToken TokenChange}
    (written : world.tokens.write txn place (.change how) = some tokens)
    (visible : tokens.view other token = .live row) :
    ∃ old, world.tokens.view other token = .live old ∧ old.userId = row.userId := by
  obtain ⟨slot, applied, views⟩ := Ledger.view_write written
  obtain ⟨old, new, before, acted, rfl⟩ := Effect.apply_change_some.mp applied
  rw [views] at visible
  by_cases mine : other = txn
  · subst mine
    rw [Function.update_self] at visible
    by_cases same : token = place
    · subst same
      rw [Function.update_self] at visible
      cases visible
      exact ⟨old, before, (RefreshToken.Ages.of_act acted).userId.symm⟩
    · rw [Function.update_of_ne same] at visible
      exact ⟨row, visible, rfl⟩
  · rw [Function.update_of_ne mine] at visible
    exact ⟨row, visible, rfl⟩

/-- A statement shows no row of another user, unless it inserts one. -/
theorem perform_row {row : RefreshToken} (performed : world.perform txn action = some after)
    (accepted : action ≠ .refuse) (visible : after.tokens.view other token = .live row) :
    (∃ old, world.tokens.view other token = .live old ∧ old.userId = row.userId) ∨
      action = .insert token row := by
  cases action with
  | refuse => exact absurd rfl accepted
  | lock place =>
      obtain ⟨tokens, locked, rfl⟩ := Option.map_eq_some_iff.mp performed
      have same : tokens.view = world.tokens.view := Ledger.view_lock locked
      have before : world.tokens.view other token = .live row := by
        rw [← same]
        exact visible
      exact .inl ⟨row, before, rfl⟩
  | revoke place at_ =>
      obtain ⟨tokens, written, rfl⟩ := Option.map_eq_some_iff.mp performed
      exact .inl (write_row written visible)
  | sweep place users at_ =>
      obtain ⟨⟨tokens, hit⟩, updated, rfl⟩ := Option.map_eq_some_iff.mp performed
      rcases Ledger.update_some updated with ⟨-, rfl, -⟩ | ⟨-, written⟩
      · exact .inl ⟨row, visible, rfl⟩
      · exact .inl (write_row written visible)
  | insert place new =>
      obtain ⟨tokens, inserted, rfl⟩ := Option.map_eq_some_iff.mp performed
      obtain ⟨_, _, _, _, views⟩ := Ledger.insert_some inserted
      have shown : tokens.view other token = .live row := visible
      rw [views] at shown
      by_cases mine : other = txn
      · subst mine
        rw [Function.update_self] at shown
        by_cases same : token = place
        · subst same
          rw [Function.update_self] at shown
          cases shown
          exact .inr rfl
        · rw [Function.update_of_ne same] at shown
          exact .inl ⟨row, shown, rfl⟩
      · rw [Function.update_of_ne mine] at shown
        exact .inl ⟨row, shown, rfl⟩
  | user named change =>
      obtain ⟨_, _, rfl⟩ := Option.map_eq_some_iff.mp performed
      exact .inl ⟨row, visible, rfl⟩
  | tenant tenant change =>
      obtain ⟨_, _, rfl⟩ := Option.map_eq_some_iff.mp performed
      exact .inl ⟨row, visible, rfl⟩
  | advisory named =>
      simp only [World.perform] at performed
      split at performed
      next => cases performed; exact .inl ⟨row, visible, rfl⟩
      next => cases performed
  | _ => cases performed; exact .inl ⟨row, visible, rfl⟩

/-- No statement takes the row of a user away, and an UPDATE of it finds it. -/
theorem perform_user_row (performed : world.perform txn action = some after)
    (accepted : action ≠ .refuse)
    (exists_ : ∀ txn, ∃ row, world.users.view txn user = .live row) :
    (∀ txn, ∃ row, after.users.view txn user = .live row) ∧
      ∀ change, action = .user user change → after.users.owner user = some txn := by
  have unlike (differ : ∀ named change, action ≠ .user named change) (change : UserChange)
      (same : action = .user user change) : after.users.owner user = some txn :=
    absurd same (differ user change)
  cases action with
  | refuse => exact absurd rfl accepted
  | user named change =>
      obtain ⟨⟨users, hit⟩, updated, rfl⟩ := Option.map_eq_some_iff.mp performed
      rcases Ledger.update_some updated with ⟨-, rfl, missed⟩ | ⟨-, written⟩
      · refine ⟨exists_, ?_⟩
        rintro _ ⟨rfl⟩
        obtain ⟨row, visible⟩ := exists_ txn
        rw [visible] at missed
        cases change <;> cases missed
      · refine ⟨?_, ?_⟩
        · intro reader
          obtain ⟨slot, applied, views⟩ := Ledger.view_write written
          obtain ⟨old, new, before, acted, rfl⟩ := Effect.apply_change_some.mp applied
          show ∃ row, users.view reader user = .live row
          rw [views]
          by_cases mine : reader = txn
          · subst mine
            rw [Function.update_self]
            by_cases same : user = named
            · subst same
              exact ⟨new, Function.update_self ..⟩
            · rw [Function.update_of_ne same]
              exact exists_ reader
          · rw [Function.update_of_ne mine]
            exact exists_ reader
        · rintro _ ⟨rfl⟩
          obtain ⟨_, _, _, rfl⟩ := Ledger.write_some written
          exact Function.update_self ..
  | lock place =>
      obtain ⟨_, _, rfl⟩ := Option.map_eq_some_iff.mp performed
      exact ⟨exists_, unlike (by simp)⟩
  | revoke place at_ =>
      obtain ⟨_, _, rfl⟩ := Option.map_eq_some_iff.mp performed
      exact ⟨exists_, unlike (by simp)⟩
  | sweep place users at_ =>
      obtain ⟨_, _, rfl⟩ := Option.map_eq_some_iff.mp performed
      exact ⟨exists_, unlike (by simp)⟩
  | insert place new =>
      obtain ⟨_, _, rfl⟩ := Option.map_eq_some_iff.mp performed
      exact ⟨exists_, unlike (by simp)⟩
  | tenant tenant change =>
      obtain ⟨_, _, rfl⟩ := Option.map_eq_some_iff.mp performed
      exact ⟨exists_, unlike (by simp)⟩
  | advisory named =>
      simp only [World.perform] at performed
      split at performed
      next => cases performed; exact ⟨exists_, unlike (by simp)⟩
      next => cases performed
  | _ => cases performed; exact ⟨exists_, unlike (by simp)⟩

@[simp] theorem record_holder : (world.record txn task).holder lock = world.holder lock := by
  cases lock <;> rfl

theorem rollback_holder : (world.rollback txn).holder lock =
    if world.holder lock = some txn then none else world.holder lock := by
  cases lock <;> rfl

theorem publish_holder : (world.publish txn).holder lock =
    if world.holder lock = some txn then none else world.holder lock := by
  cases lock <;> rfl

/-- Whose rows and locks there are. -/
structure World.Accounted (user : UserId) (world : World) : Prop where
  orderly : world.Orderly
  committed : ∀ token row, world.tokens.table.slot token = .live row → row.userId = user
  seen : ∀ txn token row, world.tokens.view txn token = .live row → row.userId = user
  exists_ : ∀ txn, ∃ row, world.users.view txn user = .live row
  stored : ∃ row, world.users.table.slot user = .live row
  flow : ∀ txn task, world.Open txn task → task.call.isSessionFlow user = true
  about : ∀ txn task, world.Open txn task → ∀ named ∈ task.stage.users, named = user
  holds : ∀ txn task lock, world.Open txn task → task.Holds user lock →
    world.holder lock = some txn
  held : ∀ txn lock, world.holder lock = some txn →
    ∃ task, world.Open txn task ∧ task.MayHold user lock

theorem World.Accounted.initial (idle : World.Idle user world) : world.Accounted user := by
  have none_open (txn : Txn) (task : Task) : ¬ world.Open txn task := by
    rintro ⟨known, _⟩
    rw [idle.tasks] at known
    cases known
  have token_free (token : TokenHash) : world.tokens.owner token = none :=
    idle.free (.token token)
  have user_free (named : UserId) : world.users.owner named = none := idle.free (.user named)
  obtain ⟨sound, no_effects⟩ := idle.tokens
  refine ⟨⟨sound, ?_, fun txn _ => no_effects txn, ?_, ?_⟩, idle.rows, ?_, ?_, idle.exists_,
    ?_, ?_, ?_, ?_⟩
  · intro txn token effect member
    rw [no_effects] at member
    cases member
  · intro txn task grant row opened
    exact absurd opened (none_open txn task)
  · intro txn task opened
    exact absurd opened (none_open txn task)
  · intro txn token row visible
    rw [Ledger.view_foreign (by rw [token_free]; simp)] at visible
    exact idle.rows token row visible
  · intro txn
    rw [Ledger.view_foreign (by rw [user_free]; simp)]
    exact idle.exists_
  · intro txn task opened
    exact absurd opened (none_open txn task)
  · intro txn task opened
    exact absurd opened (none_open txn task)
  · intro txn task lock opened
    exact absurd opened (none_open txn task)
  · intro txn lock taken
    rw [idle.free] at taken
    cases taken

/-- A call that has ended keeps nothing, and the others keep what they have. -/
theorem World.Accounted.ended (accounted : world.Accounted user)
    (orderly : (after.record txn task).Orderly)
    (settled : task.outcome ≠ none) (tasks : after.tasks = world.tasks)
    (released : ∀ lock, after.holder lock =
      if world.holder lock = some txn then none else world.holder lock)
    (committed : ∀ token row, after.tokens.table.slot token = .live row → row.userId = user)
    (seen : ∀ txn token row, after.tokens.view txn token = .live row → row.userId = user)
    (exists_ : ∀ txn, ∃ row, after.users.view txn user = .live row)
    (stored : ∃ row, after.users.table.slot user = .live row) :
    (after.record txn task).Accounted user := by
  have before {other : Txn} {now : Task} (opened : (after.record txn task).Open other now) :
      other ≠ txn ∧ world.Open other now := by
    by_cases mine : other = txn
    · subst mine
      have same := open_record_self opened
      rw [same] at opened
      exact absurd opened.2 settled
    · have elsewhere := (open_record_other mine).mp opened
      rw [World.Open, tasks] at elsewhere
      exact ⟨mine, elsewhere⟩
  refine ⟨orderly, committed, seen, exists_, stored, ?_, ?_, ?_, ?_⟩
  · intro other now opened
    exact accounted.flow other now (before opened).2
  · intro other now opened
    exact accounted.about other now (before opened).2
  · intro other now lock opened holds
    obtain ⟨differ, running⟩ := before opened
    have held := accounted.holds other now lock running holds
    rw [record_holder, released, held]
    simp [differ]
  · intro other lock held
    rw [record_holder, released] at held
    split at held
    next => cases held
    next foreign =>
      have differ : other ≠ txn := by
        rintro rfl
        exact foreign held
      obtain ⟨now, running, may⟩ := accounted.held other lock held
      refine ⟨now, (open_record_other differ).mpr ?_, may⟩
      rw [World.Open, tasks]
      exact running

theorem World.Accounted.failed (accounted : world.Accounted user) (call : Call)
    (startedAt : Seconds) (stage : Stage) :
    ((world.rollback txn).record txn ⟨call, startedAt, stage, some .raised⟩).Accounted user := by
  have orderly : ((world.rollback txn).record txn
      ⟨call, startedAt, stage, some .raised⟩).Orderly := accounted.orderly.failed ..
  refine accounted.ended orderly (by simp) rfl (fun _ => rollback_holder) accounted.committed
    ?_ ?_ accounted.stored
  · intro other token row visible
    have shown : (world.tokens.rollback txn).view other token = .live row := visible
    by_cases mine : other = txn
    · subst mine
      rw [Ledger.view_rollback_self] at shown
      exact accounted.committed token row shown
    · rw [Ledger.view_rollback_other _ mine] at shown
      exact accounted.seen other token row shown
  · intro other
    show ∃ row, (world.users.rollback txn).view other user = .live row
    by_cases mine : other = txn
    · subst mine
      rw [Ledger.view_rollback_self]
      exact accounted.stored
    · rw [Ledger.view_rollback_other _ mine]
      exact accounted.exists_ other

theorem World.Accounted.published (accounted : world.Accounted user) (outcome : Outcome) :
    ((world.publish txn).record txn { task with outcome := some outcome }).Accounted user := by
  have orderly : ((world.publish txn).record txn
      { task with outcome := some outcome }).Orderly := accounted.orderly.committed ..
  refine accounted.ended orderly (by simp) rfl (fun _ => publish_holder)
    (fun token row => accounted.seen txn token row) ?_ ?_ (accounted.exists_ txn)
  · intro other token row visible
    have shown : (world.tokens.commit txn).view other token = .live row := visible
    by_cases mine : other = txn
    · subst mine
      rw [Ledger.view_commit_self] at shown
      exact accounted.seen other token row shown
    · rw [Ledger.view_commit_other _ mine] at shown
      split at shown
      next owned =>
        rw [← Ledger.view_owned owned] at shown
        exact accounted.seen other token row shown
      next => exact accounted.seen txn token row shown
  · intro other
    show ∃ row, (world.users.commit txn).view other user = .live row
    by_cases mine : other = txn
    · subst mine
      rw [Ledger.view_commit_self]
      exact accounted.exists_ other
    · rw [Ledger.view_commit_other _ mine]
      split
      next owned =>
        rw [← Ledger.view_owned owned]
        exact accounted.exists_ other
      next => exact accounted.exists_ txn

theorem World.Accounted.ran (accounted : world.Accounted user) (running : world.Open txn task)
    {choice : Choice} {stage : Stage}
    (planned : Planned directory accessTtl world txn task.call task.startedAt choice task.stage
      stage action)
    (accepted : action ≠ .refuse) (performed : world.perform txn action = some after) :
    (after.record txn { task with stage := stage }).Accounted user := by
  have orderly := accounted.orderly.ran running planned accepted performed
  have flow := accounted.flow txn task running
  have about := accounted.about txn task running
  have users := planned.users flow about (accounted.seen txn)
  have same_open {other : Txn} (differ : other ≠ txn) (now : Task) :
      (after.record txn { task with stage := stage }).Open other now ↔ world.Open other now := by
    rw [open_record_other differ, World.Open, World.Open, World.perform_tasks performed]
  obtain ⟨exists_, finds⟩ := perform_user_row performed accepted accounted.exists_
  refine ⟨orderly, ?_, ?_, exists_, ?_, ?_, ?_, ?_, ?_⟩
  · intro token row committed
    refine accounted.committed token row ?_
    rw [← (World.perform_tokens performed).slot]
    exact committed
  · intro other token row visible
    rcases perform_row performed accepted visible with ⟨old, before, same⟩ | rfl
    · rw [← same]
      exact accounted.seen other token old before
    · exact about _ planned.inserts
  · obtain ⟨row, stored⟩ := accounted.stored
    refine ⟨row, ?_⟩
    show after.users.table.slot user = .live row
    rw [(World.perform_users performed).slot]
    exact stored
  · intro other now opened
    by_cases mine : other = txn
    · subst mine
      rw [open_record_self opened]
      exact flow
    · exact accounted.flow other now ((same_open mine now).mp opened)
  · intro other now opened
    by_cases mine : other = txn
    · subst mine
      rw [open_record_self opened]
      exact users
    · exact accounted.about other now ((same_open mine now).mp opened)
  · intro other now lock opened holds
    rw [record_holder]
    by_cases mine : other = txn
    · subst mine
      rw [open_record_self opened] at holds
      rcases planned.holds accepted flow about holds with before | ⟨takes, unlike⟩
      · exact perform_keeps performed accepted (accounted.holds _ _ _ running before)
      · refine perform_takes performed takes unlike ?_
        intro named change acts
        rw [acts] at takes
        cases takes
        rw [holds.1]
        exact finds change (by rw [acts, holds.1])
    · have before := (same_open mine now).mp opened
      exact perform_keeps performed accepted (accounted.holds other now lock before holds)
  · intro other lock held
    rw [record_holder] at held
    have mine (may : task.MayHold user lock ∨ action.takes = some lock) :
        ∃ now, (after.record txn { task with stage := stage }).Open txn now ∧
          now.MayHold user lock := by
      refine ⟨_, record_open_self running.2, ?_⟩
      exact planned.mayHold accepted flow about (accounted.orderly.fits txn task running) may
    rcases perform_holder performed accepted lock with same | ⟨takes, taken, _⟩
    · rw [same] at held
      obtain ⟨now, opened, may⟩ := accounted.held other lock held
      by_cases own : other = txn
      · subst own
        have only : now = task := Option.some.inj (opened.1.symm.trans running.1)
        exact mine (.inl (by rw [← only]; exact may))
      · exact ⟨now, (same_open own now).mpr opened, may⟩
    · rw [taken] at held
      have own : txn = other := Option.some.inj held
      subst own
      exact mine (.inr takes)

theorem World.Accounted.step (accounted : world.Accounted user) (flow : OfUser user label)
    (stepped : world.Stepped directory accessTtl label next) : next.Accounted user := by
  have orderly := accounted.orderly.step stepped
  cases stepped with
  | tick seconds =>
      refine ⟨orderly, accounted.committed, accounted.seen, accounted.exists_, accounted.stored,
        accounted.flow, accounted.about, ?_, ?_⟩
      · intro txn task lock opened holds
        have held := accounted.holds txn task lock opened holds
        cases lock <;> exact held
      · intro txn lock held
        refine accounted.held txn lock ?_
        cases lock <;> exact held
  | @begin_ txn new call presented =>
      have same_open {other : Txn} {now : Task}
          (opened : (world.record txn ⟨call, world.now, .begun, none⟩).Open other now) :
          (other = txn ∧ now = ⟨call, world.now, .begun, none⟩) ∨ world.Open other now := by
        by_cases mine : other = txn
        · subst mine
          exact .inl ⟨rfl, open_record_self opened⟩
        · exact .inr ((open_record_other mine).mp opened)
      refine ⟨orderly, accounted.committed, accounted.seen, accounted.exists_, accounted.stored,
        ?_, ?_, ?_, ?_⟩
      · intro other now opened
        rcases same_open opened with ⟨_, rfl⟩ | before
        · exact flow
        · exact accounted.flow other now before
      · intro other now opened
        rcases same_open opened with ⟨_, rfl⟩ | before
        · intro named member
          cases member
        · exact accounted.about other now before
      · intro other now lock opened holds
        rw [record_holder]
        rcases same_open opened with ⟨_, rfl⟩ | before
        · cases lock with
          | session named => cases holds
          | user named => cases holds.2
          | token token => cases holds.2
        · exact accounted.holds other now lock before holds
      · intro other lock held
        rw [record_holder] at held
        obtain ⟨now, opened, may⟩ := accounted.held other lock held
        refine ⟨now, (open_record_other ?_).mpr opened, may⟩
        rintro rfl
        rw [World.Open, new] at opened
        cases opened.1
  | ran running choice planned accepted performed =>
      exact accounted.ran running planned accepted performed
  | failed running => exact accounted.failed _ _ _
  | committed running arrived complete outcome => exact accounted.published outcome

theorem reachable_accounted
    (reached : (sessionFlows directory accessTtl user).ReachableBy
      (fun _ label => OfUser user label) world) : world.Accounted user := by
  refine reached.invariant ?_ ?_
  · intro state idle
    exact .initial idle
  · intro before next label _ accounted flow taken
    exact accounted.step flow (World.step_stepped taken)

/-- Why a statement asks for a lock that its transaction does not have. -/
inductive Asks (user : UserId) (task : Task) : Lock → Prop
  | serialise (session : task.call.isSession = true) (outside : task.stage.holder = none)
      (untouched : task.tookUser = false) : Asks user task (.session user)
  | update {lock : Lock} (outstanding : task.outstanding = some lock)
      (inside : task.stage.holder = some user) : Asks user task lock
  | change (verified : task.stage = .verified) (changes : task.call.isChange = true) :
      Asks user task (.user user)
  | sweep {token : TokenHash} (unswept : token ∈ task.stage.unswept)
      (took : task.tookUser = true) (changes : task.call.isChange = true) :
      Asks user task (.token token)

theorem World.Accounted.asks (accounted : world.Accounted user)
    (requests : world.Requests directory accessTtl txn lock)
    (foreign : world.holder lock ≠ some txn) :
    ∃ task, world.Open txn task ∧ Asks user task lock := by
  obtain ⟨task, choice, stage, action, running, planned, request⟩ := requests
  have flow := accounted.flow txn task running
  have about := accounted.about txn task running
  have fits := accounted.orderly.fits txn task running
  have holds := accounted.holds txn task lock running
  have plans := plan_planned planned
  refine ⟨task, running, ?_⟩
  obtain ⟨call, startedAt, from_, outcome⟩ := task
  cases plans with
  | denylist _ acts => rcases acts with rfl | rfl <;> cases request
  | revokeOld _ _ _ _ _ acts => rcases acts with rfl | rfl <;> cases request
  | lockSession same grant =>
      cases request
      have only : grant.userId = user := about _ (List.mem_singleton_self _)
      rw [only]
      exact .serialise fits rfl rfl
  | advisory grant =>
      cases request
      have only : grant.userId = user := about _ (List.mem_singleton_self _)
      rw [only]
      exact .serialise fits rfl rfl
  | rotate same =>
      cases same
      cases request
      exact absurd (holds ⟨beq_self_eq_true _, rfl⟩) foreign
  | touch grant login =>
      cases request
      have only : grant.userId = user := about _ (List.mem_singleton_self _)
      refine .update ?_ (by rw [← only]; rfl)
      cases call with
      | refreshTokens token oldJti => exact absurd rfl (login token oldJti)
      | _ => rfl
  | evict grant =>
      cases request
      have only : grant.userId = user := about _ List.mem_cons_self
      exact .update rfl (by rw [← only]; rfl)
  | flushUser covers =>
      cases request
      rw [flow_covers flow covers]
      exact .change rfl fits
  | flag member =>
      cases request
      exact absurd (holds ⟨about _ member, rfl⟩) foreign
  | sweep _ _ member =>
      cases request
      exact .sweep member rfl fits
  | logout =>
      cases call with
      | logout => cases flow
      | _ => cases fits
  | _ => cases request

theorem World.Accounted.inside (accounted : world.Accounted user) (running : world.Open txn task)
    (inside : task.stage.holder = some user) : world.sessionLock user = some txn :=
  accounted.holds txn task (.session user) running inside

/-- Only one transaction at a time has updated the row of the user. -/
theorem World.Accounted.sole {now : Task} (accounted : world.Accounted user)
    (running : world.Open txn task) (took : task.tookUser = true)
    (opened : world.Open other now) (took' : now.tookUser = true) : other = txn := by
  have mine := accounted.holds txn task (.user user) running ⟨rfl, took⟩
  have theirs := accounted.holds other now (.user user) opened ⟨rfl, took'⟩
  rw [mine] at theirs
  exact (Option.some.inj theirs).symm

/-- Where the transaction that has a token is: before or under the advisory lock, or in its
password change. -/
theorem World.Accounted.token_holder (accounted : world.Accounted user)
    (held : world.holder (.token token) = some txn) :
    ∃ task, world.Open txn task ∧
      (task.call.isRefresh = true ∨ task.call.isSession = true ∧ task.stage.holder = some user ∧
          task.outstanding = none ∨
        task.call.isSession = false ∧ task.tookUser = true) := by
  obtain ⟨task, running, may⟩ := accounted.held txn (.token token) held
  have fits := accounted.orderly.fits txn task running
  have flow := accounted.flow txn task running
  have about := accounted.about txn task running
  refine ⟨task, running, ?_⟩
  rcases may with ⟨presents, _⟩ | revokes
  · left
    cases presented : task.call with
    | refreshTokens => rfl
    | _ => rw [presented] at presents; cases presents
  · right
    obtain ⟨call, startedAt, stage, outcome⟩ := task
    cases stage with
    | inserting grant row =>
        have only : grant.userId = user := about _ List.mem_cons_self
        exact .inl ⟨fits, by rw [← only]; rfl, rfl⟩
    | granted grant token =>
        have only : grant.userId = user := about _ (List.mem_singleton_self _)
        exact .inl ⟨fits, by rw [← only]; rfl, rfl⟩
    | sweeping rows todo at_ =>
        have changes := World.Orderly.change_not_session fits
        exact .inr ⟨by simpa using changes, rfl⟩
    | revoking rows jtis calls =>
        have changes := World.Orderly.change_not_session fits
        exact .inr ⟨by simpa using changes, rfl⟩
    | _ => cases revokes

/-- How late a call comes in the order of the locks it has yet to take. -/
def World.grade (world : World) (txn : Txn) : Nat :=
  match world.tasks txn with
  | none => 0
  | some task => if task.call.isSession then 2 else if task.tookUser then 3 else 4

theorem World.Open.unique {first second : Task} (running : world.Open txn first)
    (opened : world.Open txn second) : second = first :=
  Option.some.inj (opened.1.symm.trans running.1)

/-- Under the advisory lock a call waits only for the row that it has yet to update. -/
theorem World.Accounted.blocked (accounted : world.Accounted user)
    (inside : world.sessionLock user = some txn)
    (waits : world.WaitsFor directory accessTtl txn other) :
    ∃ task lock, world.Open txn task ∧ task.outstanding = some lock ∧
      world.holder lock = some other ∧ other ≠ txn := by
  obtain ⟨lock, requests, held, differ⟩ := waits
  obtain ⟨task, running, asks⟩ := accounted.asks requests (by rw [held]; simpa using differ)
  obtain ⟨now, opened, holds⟩ := accounted.held txn (.session user) inside
  have same : now = task := running.unique opened
  rw [same] at holds
  have holder : task.stage.holder = some user := holds
  cases asks with
  | serialise =>
      have mine : some txn = some other := inside.symm.trans held
      exact absurd (Option.some.inj mine).symm differ
  | update outstanding => exact ⟨task, lock, running, outstanding, held, differ⟩
  | change verified =>
      rw [verified] at holder
      cases holder
  | sweep unswept =>
      cases stage : task.stage with
      | sweeping rows todo at_ =>
          rw [stage] at holder
          cases holder
      | _ =>
          rw [stage] at unswept
          cases unswept

/-- Unless it is entangled, it waits for a password change that no refresh holds up. -/
theorem World.Accounted.blocker (accounted : world.Accounted user)
    (free : ¬ world.Entangled user) (inside : world.sessionLock user = some txn)
    (waits : world.WaitsFor directory accessTtl txn other) :
    (∃ now, world.Open other now ∧ now.tookUser = true) ∧ ¬ world.SweepsRefreshed other := by
  obtain ⟨task, lock, running, outstanding, held, differ⟩ := accounted.blocked inside waits
  have entangled (hinders : world.refreshing other = true ∨ world.SweepsRefreshed other) : False :=
    free ⟨txn, inside, task, running.1, lock, outstanding, other, held, differ, hinders⟩
  refine ⟨?_, fun sweeps => entangled (.inr sweeps)⟩
  cases lock with
  | session named =>
      unfold Task.outstanding at outstanding
      split at outstanding
      next => split at outstanding <;> cases outstanding
      next => cases outstanding
      next => cases outstanding
      next => cases outstanding
  | user named =>
      obtain ⟨now, opened, _, took⟩ := accounted.held other (.user named) held
      exact ⟨now, opened, took⟩
  | token token =>
      obtain ⟨now, opened, kind⟩ := accounted.token_holder held
      rcases kind with refresh | ⟨_, holder, _⟩ | ⟨_, took⟩
      · refine (entangled (.inl ?_)).elim
        rw [World.refreshing, opened.1]
        exact refresh
      · have theirs := accounted.inside opened holder
        rw [inside] at theirs
        exact absurd (Option.some.inj theirs).symm differ
      · exact ⟨now, opened, took⟩

theorem grade_session (running : world.Open txn task) (session : task.call.isSession = true) :
    world.grade txn = 2 := by
  unfold World.grade
  rw [running.1]
  simp [session]

theorem grade_took (running : world.Open txn task) (changes : task.call.isSession = false)
    (took : task.tookUser = true) : world.grade txn = 3 := by
  unfold World.grade
  rw [running.1]
  simp [changes, took]

theorem grade_le_of_took (running : world.Open txn task) (took : task.tookUser = true) :
    world.grade txn ≤ 3 := by
  cases session : task.call.isSession with
  | true =>
      have grade := grade_session running session
      omega
  | false =>
      have grade := grade_took running session took
      omega

/-- The edges of the calls that are not under the advisory lock. -/
inductive World.Edge (world : World) (user : UserId) (txn other : Txn) (task : Task) : Prop
  | serialise (outside : task.tookUser = false) (grade : world.grade txn = 2)
      (inside : world.sessionLock user = some other)
  | change (outside : task.tookUser = false) (grade : world.grade txn = 4)
      (below : world.grade other ≤ 3)
  | sweep (took : task.tookUser = true) (grade : world.grade txn = 3)
      (below : world.grade other = 2)
      (hindered : world.SweepsRefreshed txn ∨ ∃ now, world.Open other now ∧
        now.stage.holder = some user ∧ now.outstanding = none)

theorem World.Accounted.edge (accounted : world.Accounted user)
    (outside : world.sessionLock user ≠ some txn)
    (waits : world.WaitsFor directory accessTtl txn other) :
    ∃ task, world.Open txn task ∧ world.Edge user txn other task := by
  obtain ⟨lock, requests, held, differ⟩ := waits
  obtain ⟨task, running, asks⟩ := accounted.asks requests (by rw [held]; simpa using differ)
  refine ⟨task, running, ?_⟩
  cases asks with
  | serialise session _ untouched => exact .serialise untouched (grade_session running session) held
  | update _ inside => exact absurd (accounted.inside running inside) outside
  | change verified changes =>
      obtain ⟨now, opened, _, took⟩ := accounted.held other (.user user) held
      have not_session := World.Orderly.change_not_session changes
      have untouched : task.tookUser = false := by simp [Task.tookUser, verified]
      refine .change untouched ?_ (grade_le_of_took opened took)
      unfold World.grade
      rw [running.1]
      have session : task.call.isSession = false := by simpa using not_session
      simp [session, untouched]
  | sweep unswept took changes =>
      have not_session := World.Orderly.change_not_session changes
      have grade := grade_took running (by simpa using not_session) took
      obtain ⟨now, opened, kind⟩ := accounted.token_holder held
      rcases kind with refresh | ⟨session, holder, idle⟩ | ⟨_, took'⟩
      · have session : now.call.isSession = true := by
          cases call : now.call with
          | refreshTokens => rfl
          | _ => rw [call] at refresh; cases refresh
        refine .sweep took grade (grade_session opened session) (.inl ?_)
        refine ⟨task, running.1, _, unswept, other, held, ?_⟩
        rw [World.refreshing, opened.1]
        exact refresh
      · exact .sweep took grade (grade_session opened session) (.inr ⟨now, opened, holder, idle⟩)
      · exact absurd (accounted.sole running took opened took') differ

/-- Where the advisory lock is held by a call that waits for nothing, every path ends there. -/
theorem World.Accounted.deadlockFree_of_moving (accounted : world.Accounted user)
    (moving : ∀ first other, world.sessionLock user = some first →
      ¬ world.WaitsFor directory accessTtl first other) :
    world.DeadlockFree directory accessTtl := by
  refine acyclic_of_rank
    (fun txn => if world.sessionLock user = some txn then 0 else world.grade txn) ?_
  intro txn other waits
  have outside : world.sessionLock user ≠ some txn := fun inside => moving txn other inside waits
  obtain ⟨task, running, edge⟩ := accounted.edge outside waits
  have lower : (if world.sessionLock user = some other then 0 else world.grade other) ≤
      world.grade other := by
    split
    · exact Nat.zero_le _
    · exact Nat.le_refl _
  simp only [if_neg outside]
  cases edge with
  | serialise _ grade inside =>
      rw [if_pos inside, grade]
      omega
  | change _ grade below => omega
  | sweep _ grade below _ => omega

/-- Where it is held by a call that waits, that call waits for a transaction that does not. -/
theorem World.Accounted.deadlockFree_of_blocked (accounted : world.Accounted user)
    (free : ¬ world.Entangled user) {first : Txn} (inside : world.sessionLock user = some first)
    (waits : world.WaitsFor directory accessTtl first other) :
    world.DeadlockFree directory accessTtl := by
  obtain ⟨task, lock, running, outstanding, held, differ⟩ := accounted.blocked inside waits
  obtain ⟨⟨now, opened, took⟩, moves⟩ := accounted.blocker free inside waits
  refine acyclic_of_rank (fun txn => if txn = other then 0 else if txn = first then 1
    else world.grade txn) ?_
  intro txn next edge
  have lower {bound : Nat} (least : 1 ≤ bound) (below : world.grade next ≤ bound) :
      (if next = other then 0 else if next = first then 1 else world.grade next) ≤ bound := by
    split
    · omega
    · split
      · exact least
      · exact below
  by_cases mine : txn = first
  · subst mine
    obtain ⟨task', lock', running', outstanding', held', _⟩ := accounted.blocked inside edge
    have same : task' = task := running.unique running'
    rw [same, outstanding] at outstanding'
    cases outstanding'
    have only : next = other := Option.some.inj (held'.symm.trans held)
    simp [only, Ne.symm differ]
  · have outside : world.sessionLock user ≠ some txn := by
      rw [inside]
      simpa using Ne.symm mine
    obtain ⟨task', running', edge⟩ := accounted.edge outside edge
    have not_other (untouched : task'.tookUser = false) : txn ≠ other := by
      rintro rfl
      have same : now = task' := running'.unique opened
      rw [same, untouched] at took
      cases took
    cases edge with
    | serialise untouched grade inside' =>
        have only : next = first := Option.some.inj (inside'.symm.trans inside)
        simp only [if_neg (not_other untouched), if_neg mine, grade, only]
        split <;> simp
    | change untouched grade below =>
        simp only [if_neg (not_other untouched), if_neg mine, grade]
        have := lower (by omega) below
        omega
    | sweep took' grade below hindered =>
        have only : txn = other := accounted.sole opened took running' took'
        subst only
        rcases hindered with sweeps | ⟨there, opened', holder, idle⟩
        · exact absurd sweeps moves
        · have theirs := accounted.inside opened' holder
          have same : next = first := Option.some.inj (theirs.symm.trans inside)
          subst same
          have same : there = task := running.unique opened'
          rw [same, outstanding] at idle
          cases idle

/-- No deadlock. In every state that any number of logins, refreshes and password changes of
one user reach, over any sessions that there were before and in any order of their
statements, the wait-for graph has no cycle, unless the state is entangled. -/
theorem session_locks_acyclic (reached : (sessionFlows directory accessTtl user).ReachableBy
      (fun _ label => OfUser user label) world)
    (free : ¬ world.Entangled user) : world.DeadlockFree directory accessTtl := by
  have accounted := reachable_accounted reached
  by_cases blocked : ∃ first other, world.sessionLock user = some first ∧
      world.WaitsFor directory accessTtl first other
  · obtain ⟨first, other, inside, waits⟩ := blocked
    exact accounted.deadlockFree_of_blocked free inside waits
  · refine accounted.deadlockFree_of_moving ?_
    intro first other inside waits
    exact blocked ⟨first, other, inside, waits⟩

end

/-- A call that is about to ask for a lock. -/
theorem World.Requests.next {directory : Directory} {accessTtl : Seconds} {world : World}
    {txn : Txn} {lock : Lock}
    (next : ∃ task ∈ world.tasks txn, task.outcome = none ∧
      (world.plan directory accessTtl txn task .none).map (·.2.request) = some (some lock)) :
    world.Requests directory accessTtl txn lock := by
  obtain ⟨task, known, running, asks⟩ := next
  obtain ⟨⟨stage, action⟩, planned, request⟩ := Option.map_eq_some_iff.mp asks
  exact ⟨task, .none, stage, action, ⟨known, running⟩, planned, request⟩

theorem oneUser_idle : World.Idle 1 oneUser := by
  refine ⟨⟨.empty, fun _ => rfl⟩, ?_, ⟨_, rfl⟩, ?_, fun _ => rfl⟩
  · intro token row stored
    cases stored
  · intro lock
    cases lock <;> rfl

/-- Five sessions, a refresh of one of them and a login that evicts the oldest. Both are
before their next lock. -/
def refreshBesideLogin (token : TokenHash) : List Label :=
  loginRun 0 "a" 100 [] ++ [.tick 1] ++ loginRun 1 "b" 101 [] ++ loginRun 2 "c" 102 [] ++
    loginRun 3 "d" 103 [] ++ loginRun 4 "e" 104 [] ++
    [.begin_ 5 (.refreshTokens token none), .run 5 .none, .begin_ 6 (.login 1 "secret"),
      .run 6 .none, .run 6 .none, .run 6 (.jti "f"), .run 6 .none, .run 6 .none, .run 6 .none,
      .run 6 (.oldest (some 100)), .run 6 .none, .run 5 .none]

/-- The refresh of a later session waits for the login and for nothing else. -/
theorem session_locks_acyclic_evicting :
    ∃ world, (sessionFlows oneTenant 900 1).exec oneUser (refreshBesideLogin 101) = some world ∧
      world.WaitsFor oneTenant 900 5 6 ∧ world.DeadlockFree oneTenant 900 := by
  have run : ∃ world, (sessionFlows oneTenant 900 1).exec oneUser (refreshBesideLogin 101) =
      some world ∧ ¬ world.Entangled 1 ∧ world.holder (.session 1) = some 6 ∧
      ∃ task ∈ world.tasks 5, task.outcome = none ∧
        (world.plan oneTenant 900 5 task .none).map (·.2.request) = some (some (.session 1)) :=
    ⟨_, rfl, by decide +kernel⟩
  obtain ⟨world, run, free, inside, next⟩ := run
  have allows : (sessionFlows oneTenant 900 1).Allows (fun _ label => OfUser 1 label) oneUser
      (refreshBesideLogin 101) := by
    decide +kernel
  have reached := Machine.ReachableBy.exec (.start oneUser_idle) allows run
  exact ⟨world, run, ⟨.session 1, .next next, inside, by decide⟩,
    session_locks_acyclic reached free⟩

/-- The refresh of the oldest session has locked the row that the login evicts: it waits for
the advisory lock of the login, and the login waits for the row. -/
theorem session_locks_deadlock :
    ∃ world, (sessionFlows oneTenant 900 1).ReachableBy (fun _ label => OfUser 1 label) world ∧
      ¬ world.DeadlockFree oneTenant 900 := by
  have run : ∃ world, (sessionFlows oneTenant 900 1).exec oneUser (refreshBesideLogin 100) =
      some world ∧ (world.holder (.session 1) = some 6 ∧ ∃ task ∈ world.tasks 5,
        task.outcome = none ∧ (world.plan oneTenant 900 5 task .none).map (·.2.request) =
          some (some (.session 1))) ∧
      world.holder (.token 100) = some 5 ∧ ∃ task ∈ world.tasks 6, task.outcome = none ∧
        (world.plan oneTenant 900 6 task .none).map (·.2.request) = some (some (.token 100)) :=
    ⟨_, rfl, by decide +kernel⟩
  obtain ⟨world, run, ⟨inside, refresh⟩, locked, login⟩ := run
  have allows : (sessionFlows oneTenant 900 1).Allows (fun _ label => OfUser 1 label) oneUser
      (refreshBesideLogin 100) := by
    decide +kernel
  refine ⟨world, .exec (.start oneUser_idle) allows run, ?_⟩
  intro deadlock_free
  have first : world.WaitsFor oneTenant 900 5 6 := ⟨.session 1, .next refresh, inside, by decide⟩
  have second : world.WaitsFor oneTenant 900 6 5 := ⟨.token 100, .next login, locked, by decide⟩
  exact deadlock_free 5 (.tail (.single first) second)

end Auth
