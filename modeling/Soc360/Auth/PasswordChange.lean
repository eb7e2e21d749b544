import Soc360.Auth.Resurrection

set_option autoImplicit false

namespace Auth

/-- A new `hashed_password` in the history of a user. -/
def isPasswordChange : Effect User UserChange → Bool
  | .change (.password _) => true
  | _ => false

namespace World

/-- The committed password changes of a user. -/
def passwordChanges (world : World) (user : UserId) : Nat :=
  (world.users.history user).countP isPasswordChange

/-- The tokens of the session that a login opened: the one it issued, and every one that a
refresh issued for one of them. -/
inductive Session (world : World) (login : Txn) : Grant → TokenHash → Prop
  | opened {grant : Grant} {token : TokenHash} (issued : world.Issued login grant token) :
      Session world login grant token
  | rotated {grant next : Grant} {parent token : TokenHash} {txn : Txn} {task : Task}
      {oldJti : Option Jti} (before : Session world login grant parent)
      (known : world.tasks txn = some task) (ended : task.Committed)
      (presents : task.call = .refreshTokens parent oldJti)
      (granted : task.stage = .granted next token) : Session world login next token

/-- The transaction has a new password of the user pending. -/
def ChangesPassword (world : World) (txn : Txn) (user : UserId) : Prop :=
  ∃ password, (user, .change (.password password)) ∈ world.users.effects txn

/-- Who has a new password pending goes on to the mass revocation of the user. -/
def Changing (world : World) (directory : Directory) : Prop :=
  ∀ txn task user, world.Open txn task → world.ChangesPassword txn user →
    user ∈ task.call.covers directory ∧ task.stage.sweeps = true

/-- A call that is about to commit a token has its row pending. -/
def Inserting (world : World) : Prop :=
  ∀ txn task grant token, world.Open txn task → task.stage = .granted grant token →
    ∃ row, (token, .insert row) ∈ world.tokens.effects txn

end World

/-- For the session of a login that verified its password after `changes` password changes of
the user: the login commits before the next one does, and a password change commits when each
token of the session so far was in the snapshot of its UPDATE or in its reading of
`active_jtis`, or is dead already. -/
def SweepsSession (user : UserId) (login : Txn) (changes : Nat) (world : World) : Label → Prop
  | .commit _ .failed => True
  | .commit txn _ => (txn = login → world.passwordChanges user = changes) ∧
      ∀ task rows jtis calls, world.Open txn task → task.stage = .revoking rows jtis calls →
        world.ChangesPassword txn user → ∀ grant token, world.Session login grant token →
          (world.Revoked token ∨ token ∈ rows) ∧
            ∀ jti, grant.jti = some jti → world.Dead jti ∨ jti ∈ jtis user
  | _ => True

section

variable {directory : Directory} {accessTtl : Seconds} {world after next : World}
  {label : Label} {txn other login : Txn} {task : Task} {token : TokenHash} {user : UserId}
  {action : Action} {grant : Grant}

/-- The calls that commit later add to a session, and no other step does. -/
theorem World.Session.of_tasks (session : next.Session login grant token)
    (tasks : ∀ txn task, next.tasks txn = some task → task.Committed →
      world.tasks txn = some task) : world.Session login grant token := by
  induction session with
  | opened issued =>
      obtain ⟨task, known, ended, granted⟩ := issued
      exact .opened ⟨task, tasks _ _ known ended, ended, granted⟩
  | rotated before known ended presents granted ih =>
      exact .rotated ih (tasks _ _ known ended) ended presents granted

/-- A statement that sets a password is the flush of a call that covers the user. -/
theorem Planned.changesPassword {call : Call} {startedAt : Seconds} {choice : Choice}
    {from_ stage : Stage} {password : Password}
    (planned : Planned directory accessTtl world txn call startedAt choice from_ stage
      (.user user (.password password))) :
    user ∈ call.covers directory ∧ stage.sweeps = true := by
  cases planned with
  | denylist _ acts => rcases acts with acts | acts <;> cases acts
  | revokeOld _ _ _ _ _ acts => rcases acts with acts | acts <;> cases acts
  | flushUser covers next =>
      rcases next with rfl | ⟨_, _, _, other⟩
      · exact ⟨covers, rfl⟩
      · cases other

/-- Only the INSERT leads to a granted token. -/
theorem Planned.grants_insert {call : Call} {startedAt : Seconds} {choice : Choice} {from_ : Stage}
    (planned : Planned directory accessTtl world txn call startedAt choice from_
      (.granted grant token) action) : ∃ row, action = .insert token row := by
  cases planned with
  | insert grant row => exact ⟨row, rfl⟩
  | flushUser covers next => rcases next with next | ⟨next, _⟩ <;> cases next
  | flushTenant next => rcases next with next | next <;> cases next

theorem World.Changing.step (swept : world.Swept directory) (changing : world.Changing directory)
    (stepped : world.Stepped directory accessTtl label next) : next.Changing directory := by
  cases stepped with
  | tick seconds => exact changing
  | @begin_ txn new call =>
      intro other now user opened changes
      by_cases mine : other = txn
      · subst mine
        have untouched : world.users.effects other = [] := by
          apply swept.idle other
          rintro task ⟨known, _⟩
          rw [new] at known
          cases known
        obtain ⟨password, member⟩ := changes
        change (user, _) ∈ world.users.effects other at member
        rw [untouched] at member
        cases member
      · exact changing other now user ((World.open_record_other mine).mp opened) changes
  | @ran txn task running choice stage action after planned accepted performed =>
      intro other now user opened changes
      obtain ⟨password, member⟩ := changes
      change (user, _) ∈ after.users.effects other at member
      by_cases mine : other = txn
      · subst mine
        have same := World.open_record_self opened
        subst same
        rcases World.perform_users_effects performed accepted member with before | ⟨_, acts, same⟩
        · obtain ⟨covered, sweeps⟩ := changing other task user running ⟨password, before⟩
          exact ⟨covered, planned.sweeps accepted sweeps⟩
        · subst acts
          cases same
          exact planned.changesPassword
      · rw [(World.perform_users performed).effects other mine] at member
        rw [World.open_record_other mine, World.Open, World.perform_tasks performed] at opened
        exact changing other now user opened ⟨password, member⟩
  | @failed txn task running label stage =>
      intro other now user opened changes
      obtain ⟨differ, before⟩ := World.open_record_over rfl opened
      obtain ⟨password, member⟩ := changes
      have kept : (world.rollback txn).users.effects other = world.users.effects other :=
        Function.update_of_ne differ _ _
      change (user, _) ∈ (world.rollback txn).users.effects other at member
      rw [kept] at member
      exact changing other now user before ⟨password, member⟩
  | @committed txn task running fate arrived complete outcome done =>
      intro other now user opened changes
      obtain ⟨differ, before⟩ := World.open_record_over rfl opened
      obtain ⟨password, member⟩ := changes
      have kept : (world.publish txn).users.effects other = world.users.effects other :=
        Function.update_of_ne differ _ _
      change (user, _) ∈ (world.publish txn).users.effects other at member
      rw [kept] at member
      exact changing other now user before ⟨password, member⟩

theorem World.Inserting.step (inserting : world.Inserting)
    (stepped : world.Stepped directory accessTtl label next) : next.Inserting := by
  cases stepped with
  | tick seconds => exact inserting
  | @begin_ txn new call =>
      intro other now grant token opened granted
      by_cases mine : other = txn
      · subst mine
        have same := World.open_record_self opened
        subst same
        cases granted
      · exact inserting other now grant token ((World.open_record_other mine).mp opened) granted
  | @ran txn task running choice stage action after planned accepted performed =>
      intro other now grant token opened granted
      by_cases mine : other = txn
      · subst mine
        have same := World.open_record_self opened
        subst same
        change stage = .granted grant token at granted
        subst granted
        obtain ⟨row, acts⟩ := planned.grants_insert
        subst acts
        obtain ⟨tokens, inserted, rfl⟩ := Option.map_eq_some_iff.mp performed
        obtain ⟨_, _, effects, _, _⟩ := Ledger.insert_some inserted
        refine ⟨row, ?_⟩
        change (token, .insert row) ∈ tokens.effects other
        rw [effects, Function.update_self]
        exact List.mem_append_right _ (List.mem_singleton_self _)
      · rw [World.open_record_other mine, World.Open, World.perform_tasks performed] at opened
        obtain ⟨row, member⟩ := inserting other now grant token opened granted
        refine ⟨row, ?_⟩
        change _ ∈ after.tokens.effects other
        rw [(World.perform_tokens performed).effects other mine]
        exact member
  | @failed txn task running label stage =>
      intro other now grant token opened granted
      obtain ⟨differ, before⟩ := World.open_record_over rfl opened
      obtain ⟨row, member⟩ := inserting other now grant token before granted
      refine ⟨row, ?_⟩
      change _ ∈ Function.update world.tokens.effects txn [] other
      rw [Function.update_of_ne differ]
      exact member
  | @committed txn task running fate arrived complete outcome done =>
      intro other now grant token opened granted
      obtain ⟨differ, before⟩ := World.open_record_over rfl opened
      obtain ⟨row, member⟩ := inserting other now grant token before granted
      refine ⟨row, ?_⟩
      change _ ∈ Function.update world.tokens.effects txn [] other
      rw [Function.update_of_ne differ]
      exact member

/-- Nothing can be inserted over a row. -/
theorem replay_live_no_insert {effects : List TokenEffect} {row new : RefreshToken}
    {slot : Slot RefreshToken} (lasting : Lasting effects)
    (replayed : Effect.replay effects (.live row) = some slot) : .insert new ∉ effects := by
  induction effects generalizing row with
  | nil => exact List.not_mem_nil
  | cons effect rest ih =>
      obtain ⟨middle, applied, replayed⟩ := Option.bind_eq_some_iff.mp replayed
      have lasting_rest : Lasting rest := fun other member =>
        lasting other (List.mem_cons_of_mem _ member)
      cases effect with
      | insert first =>
          have free := (Effect.apply_insert_some.mp applied).1
          cases free
      | change how =>
          obtain ⟨_, _, _, _, rfl⟩ := Effect.apply_change_some.mp applied
          simpa using ih lasting_rest replayed
      | delete => exact absurd rfl (lasting .delete List.mem_cons_self)

/-- A token that is about to be committed is not in the table yet. -/
theorem World.Inserting.not_live (orderly : world.Orderly) (inserting : world.Inserting)
    (running : world.Open txn task) (granted : task.stage = .granted grant token)
    (row : RefreshToken) : world.tokens.table.slot token ≠ .live row := by
  intro committed
  obtain ⟨new, member⟩ := inserting txn task grant token running granted
  have viewed := orderly.sound.viewed txn token
  rw [committed] at viewed
  exact replay_live_no_insert orderly.lasting viewed (Effect.mem_onKey.mpr member)

theorem passwordChanges_publish :
    (world.publish txn).passwordChanges user =
      world.passwordChanges user + (world.users.pending txn user).countP isPasswordChange := by
  change ((world.users.commit txn).history user).countP isPasswordChange = _
  rw [Ledger.history_commit, List.countP_append]
  rfl

/-- Only the commit of a password change adds to the count. -/
theorem changesPassword_of_lt {changes : Nat}
    (later : changes < (world.publish txn).passwordChanges user)
    (current : ¬ changes < world.passwordChanges user) : world.ChangesPassword txn user := by
  rw [passwordChanges_publish] at later
  have positive : 0 < (world.users.pending txn user).countP isPasswordChange := by omega
  obtain ⟨effect, pending, sets⟩ := List.countP_pos_iff.mp positive
  have member := Effect.mem_onKey.mp pending
  cases effect with
  | change change =>
      cases change with
      | password password => exact ⟨password, member⟩
      | lastLogin at_ => cases sets
      | active isActive => cases sets
  | insert row => cases sets
  | delete => cases sets

/-- The tokens of the session are dead once the password has changed again. -/
def World.SessionEnds (world : World) (user : UserId) (login : Txn) (changes : Nat) : Prop :=
  changes < world.passwordChanges user → ∀ grant token, world.Session login grant token →
    world.Revoked token ∧ ∀ jti, grant.jti = some jti → world.Dead jti

/-- What a commit adds to a session: the token of the login, or of a refresh of the session. -/
theorem World.Session.committed (single : world.SingleUse) (running : world.Open txn task)
    {outcome : Outcome}
    (unborn : ∀ grant token row, task.stage = .granted grant token →
      world.tokens.table.slot token ≠ .live row)
    (session : ((world.publish txn).record txn { task with outcome := some outcome }).Session
      login grant token) :
    world.Session login grant token ∨ task.stage = .granted grant token ∧ (txn = login ∨
      ∃ parent oldJti before, task.call = .refreshTokens parent oldJti ∧
        world.Session login before parent) := by
  -- No refresh, this one included, has presented a token that is only now committed.
  have never {grant : Grant} {parent : TokenHash} {other : Txn} {now : Task} {oldJti : Option Jti}
      (granted : task.stage = .granted grant parent) (known : world.tasks other = some now)
      (presents : now.call = .refreshTokens parent oldJti)
      (reached : now.Committed ∨ now = task ∧ other = txn) : False := by
    rcases reached with ended | ⟨same, own⟩
    · obtain ⟨row, committed, _⟩ :=
        (single.rotated other parent ⟨now, oldJti, known, presents, ended⟩).1
      exact unborn grant parent row granted committed
    · subst same own
      have rotating := single.rotating other now parent oldJti running presents
      rw [granted] at rotating
      obtain ⟨_, row, committed, _⟩ := rotating.held (by rintro ⟨⟩)
      exact unborn grant parent row granted committed
  induction session with
  | @opened grant token issued =>
      by_cases mine : login = txn
      · subst mine
        obtain ⟨now, known, _, granted⟩ := issued
        rw [World.record_tasks_self] at known
        cases known
        exact .inr ⟨granted, .inl rfl⟩
      · exact .inl (.opened ((issued_record_other mine).mp issued))
  | @rotated grant next parent token other now oldJti before known ended presents granted ih =>
      by_cases mine : other = txn
      · subst mine
        rw [World.record_tasks_self] at known
        cases known
        rcases ih with session | ⟨stage, _⟩
        · exact .inr ⟨granted, .inr ⟨parent, oldJti, grant, presents, session⟩⟩
        · exact (never stage running.1 presents (.inr ⟨rfl, rfl⟩)).elim
      · rw [World.record_tasks_other mine] at known
        rcases ih with session | ⟨stage, _⟩
        · exact .inl (.rotated session known ended presents granted)
        · exact (never stage known presents (.inl ended)).elim

namespace World.SessionEnds

variable {changes : Nat}

/-- A label that commits nothing adds to no session and changes no password. -/
theorem uncommitted {now : Task} (ends : world.SessionEnds user login changes)
    (tasks : after.tasks = world.tasks) (log : after.users.log = world.users.log)
    (pending : ¬ now.Committed) (revoked : ∀ token, world.Revoked token → after.Revoked token)
    (onward : world.Onward after) : (after.record txn now).SessionEnds user login changes := by
  intro later grant token session
  have before : world.Session login grant token := by
    apply session.of_tasks
    intro other task known ended
    by_cases mine : other = txn
    · subst mine
      rw [World.record_tasks_self] at known
      cases known
      exact absurd ended pending
    · rw [World.record_tasks_other mine, tasks] at known
      exact known
  have same : (after.record txn now).passwordChanges user = world.passwordChanges user := by
    change ((after.users.history user).countP isPasswordChange) = _
    rw [Ledger.history, Ledger.published, log]
    rfl
  rw [same] at later
  obtain ⟨gone, dead⟩ := ends later grant token before
  refine ⟨revoked token gone, ?_⟩
  intro jti same
  have still : after.Dead jti := (dead jti same).onward onward
  exact still

/-- The commit of a password change finds every token of the session dead or has just ended
it; no other commit adds a token to a session that is over. -/
theorem committed (orderly : world.Orderly) (single : world.SingleUse)
    (swept : world.Swept directory) (changing : world.Changing directory)
    (inserting : world.Inserting) (ends : world.SessionEnds user login changes)
    (running : world.Open txn task) {fate : Fate} (arrived : fate ≠ .failed)
    (meets : SweepsSession user login changes world (.commit txn fate))
    (complete : task.stage.complete (task.call.covers directory) = true) (outcome : Outcome) :
    ((world.publish txn).record txn { task with outcome := some outcome }).SessionEnds user login
      changes := by
  have condition : (txn = login → world.passwordChanges user = changes) ∧
      ∀ task rows jtis calls, world.Open txn task → task.stage = .revoking rows jtis calls →
        world.ChangesPassword txn user → ∀ grant token, world.Session login grant token →
          (world.Revoked token ∨ token ∈ rows) ∧
            ∀ jti, grant.jti = some jti → world.Dead jti ∨ jti ∈ jtis user := by
    cases fate with
    | ok => exact meets
    | failed => exact absurd rfl arrived
    | lost => exact meets
  intro later grant token session
  change changes < (world.publish txn).passwordChanges user at later
  have added := session.committed single running fun grant token row granted =>
    inserting.not_live orderly running granted row
  by_cases before : changes < world.passwordChanges user
  · rcases added with known | ⟨granted, new⟩
    · obtain ⟨gone, dead⟩ := ends before grant token known
      exact ⟨gone.seen orderly, dead⟩
    · exfalso
      rcases new with own | ⟨parent, oldJti, first, presents, known⟩
      · have current := condition.1 own
        omega
      · -- A refresh holds the token that it presents, so that token is not revoked.
        have rotating := single.rotating txn task parent oldJti running presents
        rw [granted] at rotating
        have holds : world.Holds txn parent := rotating.held (by rintro ⟨⟩)
        exact holds.not_revoked (ends before first parent known).1
  · have sets := changesPassword_of_lt later before
    obtain ⟨covered, sweeps⟩ := changing txn task user running sets
    have relies := swept.sweeping txn task running
    have known : world.Session login grant token := by
      rcases added with known | ⟨granted, _⟩
      · exact known
      · rw [granted] at sweeps
        cases sweeps
    cases stage : task.stage with
    | revoking rows jtis calls =>
        rw [stage] at relies complete
        obtain ⟨row, tracked⟩ :=
          condition.2 task rows jtis calls running stage sets grant token known
        refine ⟨?_, ?_⟩
        · rcases row with gone | read
          · exact gone.seen orderly
          · exact relies.1 token read
        · intro jti same
          rcases tracked jti same with dead | read
          · exact dead
          · exact (relies.2 user jti read).2.resolve_right fun pending => by
              have returned : calls user = .returned :=
                eq_of_beq (List.all_eq_true.mp complete user covered)
              rw [returned] at pending
              rcases pending with ⟨_, _, waits, _⟩ | ⟨_, raised⟩
              · cases waits
              · cases raised
    | flagged todo =>
        rw [stage] at complete
        cases complete
    | sweeping rows todo at_ =>
        rw [stage] at complete
        cases complete
    | _ =>
        rw [stage] at sweeps
        cases sweeps

theorem step (orderly : world.Orderly) (single : world.SingleUse)
    (tracked : world.Tracked accessTtl) (swept : world.Swept directory)
    (changing : world.Changing directory) (inserting : world.Inserting)
    (ends : world.SessionEnds user login changes)
    (meets : SweepsSession user login changes world label)
    (stepped : world.Stepped directory accessTtl label next) :
    next.SessionEnds user login changes := by
  have onward := tracked.onward stepped
  cases stepped with
  | tick seconds =>
      intro later grant token session
      have before : world.Session login grant token :=
        session.of_tasks fun _ _ known _ => known
      obtain ⟨gone, dead⟩ := ends later grant token before
      exact ⟨gone, fun jti same => (dead jti same).onward onward⟩
  | begin_ =>
      have still : world.Onward world := .same rfl rfl rfl
      refine ends.uncommitted rfl rfl ?_ (fun _ gone => gone) still
      rintro ⟨_, ended, _⟩
      cases ended
  | ran running choice planned accepted performed =>
      have undisturbed := World.perform_tokens performed
      refine ends.uncommitted (World.perform_tasks performed)
        (World.perform_users performed).log ?_ ?_ ⟨onward.now, onward.access, onward.dead⟩
      · rintro ⟨_, ended, _⟩
        rw [running.2] at ended
        cases ended
      · intro token gone
        rw [World.Revoked, undisturbed.slot]
        exact gone
  | @failed txn task running label stage =>
      have tasks : (world.rollback txn).tasks = world.tasks := rfl
      have still : world.Onward (world.rollback txn) := .same rfl rfl rfl
      refine ends.uncommitted tasks rfl ?_ (fun _ gone => gone) still
      rintro ⟨_, ended, raised⟩
      cases ended
      cases raised
  | committed running arrived complete outcome =>
      exact ends.committed orderly single swept changing inserting running arrived meets complete
        outcome

end World.SessionEnds

/-- The invariants that a password change rests on hold in every run. -/
theorem reachable_changing (reached : (flows directory accessTtl).Reachable world) :
    world.Tracked accessTtl ∧ world.Swept directory ∧ world.Changing directory ∧
      world.Inserting := by
  have none_open {state : World} (fresh : state.Fresh) {txn : Txn} {task : Task}
      (opened : state.Open txn task) : False := by
    have known := opened.1
    rw [fresh.tasks] at known
    cases known
  apply reached.invariant
  · intro state fresh
    refine ⟨.initial fresh, .initial fresh, ?_, ?_⟩
    · intro txn task user opened
      exact (none_open fresh opened).elim
    · intro txn task grant token opened
      exact (none_open fresh opened).elim
  · rintro before next label reached ⟨tracked, swept, changing, inserting⟩ _ taken
    have orderly := reachable_orderly reached
    have stepped := World.step_stepped taken
    exact ⟨tracked.step stepped, swept.step orderly tracked stepped, changing.step swept stepped,
      inserting.step stepped⟩

end

/-- A password change ends the session of a login that verified its password before, in the
world `verifying`: every token of the session is revoked, and its access tokens are expired or
on the denylist. -/
theorem old_sessions_end (directory : Directory) (accessTtl : Seconds) {verifying last : World}
    (reached : (flows directory accessTtl).Reachable verifying) {user : UserId} {login : Txn}
    {labels : List Label}
    (sweeps : (flows directory accessTtl).Allows
      (SweepsSession user login (verifying.passwordChanges user)) verifying labels)
    (run : (flows directory accessTtl).exec verifying labels = some last)
    (changed : verifying.passwordChanges user < last.passwordChanges user) {grant : Grant}
    {token : TokenHash} (session : last.Session login grant token) :
    last.Revoked token ∧ ∀ jti, grant.jti = some jti →
      last.Dead jti ∧ last.getCurrentUser directory jti = none := by
  have ends : (flows directory accessTtl).Reachable last ∧
      last.SessionEnds user login (verifying.passwordChanges user) := by
    apply sweeps.preserves ?_ ?_ run
    · rintro before next label ⟨reached, ends⟩ meets taken
      obtain ⟨tracked, swept, changing, inserting⟩ := reachable_changing reached
      exact ⟨reached.step trivial taken, ends.step (reachable_orderly reached)
        (reachable_singleUse reached) tracked swept changing inserting meets
        (World.step_stepped taken)⟩
    · exact ⟨reached, fun later => absurd later (Nat.lt_irrefl _)⟩
  obtain ⟨revoked, dead⟩ := ends.2 changed grant token session
  exact ⟨revoked, fun jti same => ⟨dead jti same, (dead jti same).rejected⟩⟩

/-- A password change of the only user, with the rows of its UPDATE and its Redis commands. -/
def changePasswordRun (txn : Txn) (rows : List TokenHash) (commands : Nat) : List Label :=
  [.begin_ txn (.changePassword 1 "secret" "other"), .run txn .none, .run txn .none,
    .run txn .none] ++ rows.map (fun token => .run txn (.row token)) ++ [.run txn .none] ++
    List.replicate commands (.run txn (.command 1 .ok))

/-- The login goes on from its verification to its commit, and then the password changes. -/
theorem old_sessions_end_changed :
    ∃ last : World, last.Session 1 ⟨1, 0, some "jti-a"⟩ 10 ∧ last.Revoked 10 ∧
      last.getCurrentUser oneTenant "jti-a" = none := by
  have ran : ∃ verifying granting issued revoking last,
      (flows oneTenant 900).exec oneUser [.begin_ 1 (.login 1 "secret")] = some verifying ∧
      (flows oneTenant 900).exec verifying ((loginRun 1 "jti-a" 10 []).drop 1).dropLast =
        some granting ∧
      (flows oneTenant 900).step granting (.commit 1 .ok) = some issued ∧
      (flows oneTenant 900).exec issued (changePasswordRun 2 [10] 3) = some revoking ∧
      (flows oneTenant 900).step revoking (.commit 2 .ok) = some last ∧
      (flows oneTenant 900).exec oneUser (loginRun 1 "jti-a" 10 [] ++ changePasswordRun 2 [10] 3) =
        some revoking ∧
      (∃ task, granting.tasks 1 = some task ∧ task.stage = .granted ⟨1, 0, some "jti-a"⟩ 10 ∧
        granting.passwordChanges 1 = verifying.passwordChanges 1) ∧
      (∃ login task rows jtis calls, revoking.tasks 1 = some login ∧
        login.call = .login 1 "secret" ∧ login.stage = .granted ⟨1, 0, some "jti-a"⟩ 10 ∧
        revoking.tasks 2 = some task ∧ task.outcome = none ∧
        task.stage = .revoking rows jtis calls ∧ 10 ∈ rows ∧ "jti-a" ∈ jtis 1) ∧
      ∃ login, last.tasks 1 = some login ∧ login.outcome = some .returned ∧
        login.stage = .granted ⟨1, 0, some "jti-a"⟩ 10 ∧
        verifying.passwordChanges 1 < last.passwordChanges 1 :=
    ⟨_, _, _, _, _, rfl, rfl, rfl, rfl, rfl, rfl, ⟨_, rfl, rfl, by decide⟩,
      ⟨_, _, _, _, _, rfl, rfl, rfl, rfl, rfl, rfl, by decide, by decide⟩, _, rfl, rfl, rfl,
      by decide⟩
  obtain ⟨verifying, granting, issued, revoking, last, began, login_ran, login_committed,
    change_ran, change_committed, all_ran, ⟨granted, granting_known, granted_stage, current⟩,
    ⟨login, task, rows, jtis, calls, login_known, login_call, login_stage, known, running, stage,
      in_rows, in_jtis⟩, final, final_known, returned, final_stage, changed⟩ := ran
  have reached : (flows oneTenant 900).Reachable verifying :=
    Machine.Reachable.exec (.start (World.initial_fresh _ _)) began
  have quiet {labels : List Label} (state : World)
      (no_commit : labels.all (fun label => !label.isCommit) = true) :
      (flows oneTenant 900).Allows (SweepsSession 1 1 (verifying.passwordChanges 1)) state
        labels := by
    refine Machine.allows_of_forall _ state ?_
    intro label member world
    have not_commit := List.all_eq_true.mp no_commit label member
    cases label with
    | commit txn fate => cases not_commit
    | _ => trivial
  have login_meets :
      SweepsSession 1 1 (verifying.passwordChanges 1) granting (.commit 1 .ok) := by
    refine ⟨fun _ => current, ?_⟩
    rintro now rows jtis calls ⟨opened, _⟩ revokes
    rw [granting_known] at opened
    cases opened
    rw [granted_stage] at revokes
    cases revokes
  have change_meets :
      SweepsSession 1 1 (verifying.passwordChanges 1) revoking (.commit 2 .ok) := by
    refine ⟨fun other => (by cases other), ?_⟩
    rintro now _ _ _ ⟨opened, _⟩ revokes _ grant token session
    rw [known] at opened
    cases opened
    rw [stage] at revokes
    cases revokes
    cases session with
    | opened issued =>
        obtain ⟨other, other_known, _, other_stage⟩ := issued
        rw [login_known] at other_known
        cases other_known
        rw [login_stage] at other_stage
        cases other_stage
        refine ⟨.inr in_rows, ?_⟩
        intro jti same
        cases same
        exact .inr in_jtis
    | @rotated _ _ _ _ txn rotating _ _ rotating_known ended presents _ =>
        exfalso
        by_cases first : txn = 1
        · subst first
          rw [login_known] at rotating_known
          cases rotating_known
          rw [login_call] at presents
          cases presents
        · by_cases second : txn = 2
          · subst second
            rw [known] at rotating_known
            cases rotating_known
            obtain ⟨_, outcome, _⟩ := ended
            rw [running] at outcome
            cases outcome
          · have never (call : Call) : Label.begin_ txn call ∉
                loginRun 1 "jti-a" 10 [] ++ changePasswordRun 2 [10] 3 := by
              simp [loginRun, changePasswordRun, first, second]
            rw [exec_not_begun rfl never all_ran] at rotating_known
            cases rotating_known
  have session : last.Session 1 ⟨1, 0, some "jti-a"⟩ 10 :=
    .opened ⟨final, final_known, ⟨.returned, returned, rfl⟩, final_stage⟩
  have commits : (flows oneTenant 900).Allows (SweepsSession 1 1 (verifying.passwordChanges 1))
      verifying (((loginRun 1 "jti-a" 10 []).drop 1).dropLast ++ .commit 1 .ok ::
        (changePasswordRun 2 [10] 3 ++ [.commit 2 .ok])) := by
    refine (quiet _ rfl).append login_ran ⟨login_meets, ?_⟩
    intro next taken
    have same : issued = next := Option.some.inj (login_committed.symm.trans taken)
    subst same
    refine (quiet _ rfl).append change_ran ⟨change_meets, ?_⟩
    intro _ _
    trivial
  have run : (flows oneTenant 900).exec verifying
      (((loginRun 1 "jti-a" 10 []).drop 1).dropLast ++ .commit 1 .ok ::
        (changePasswordRun 2 [10] 3 ++ [.commit 2 .ok])) = some last := by
    rw [Machine.exec_append, login_ran, Option.bind_some, Machine.exec_cons, login_committed,
      Option.bind_some, Machine.exec_append, change_ran, Option.bind_some, Machine.exec_cons,
      change_committed, Option.bind_some, Machine.exec_nil]
  obtain ⟨revoked, dead⟩ := old_sessions_end oneTenant 900 reached commits run changed session
  exact ⟨last, session, revoked, (dead "jti-a" rfl).2⟩

/-- The password changes between the verification and the rest of the login. -/
def changeInsideLogin : List Label :=
  ((loginRun 1 "jti-a" 10 []).drop 1).take 1 ++ changePasswordRun 2 [] 1 ++ [.commit 2 .ok] ++
    (loginRun 1 "jti-a" 10 []).drop 2

/-- The access token is accepted and the refresh token is not revoked. -/
theorem old_session_survives :
    ∃ verifying last, (flows oneTenant 900).Reachable verifying ∧
      verifying.tasks 1 = some ⟨.login 1 "secret", 0, .begun, none⟩ ∧
      (flows oneTenant 900).exec verifying changeInsideLogin = some last ∧
      verifying.passwordChanges 1 < last.passwordChanges 1 ∧
      last.Session 1 ⟨1, 0, some "jti-a"⟩ 10 ∧ ¬ last.Revoked 10 ∧
      last.getCurrentUser oneTenant "jti-a" = some 1 := by
  have ran : ∃ verifying last,
      (flows oneTenant 900).exec oneUser [.begin_ 1 (.login 1 "secret")] = some verifying ∧
      verifying.tasks 1 = some ⟨.login 1 "secret", 0, .begun, none⟩ ∧
      (flows oneTenant 900).exec verifying changeInsideLogin = some last ∧
      verifying.passwordChanges 1 < last.passwordChanges 1 ∧
      (∃ issuing, last.tasks 1 = some issuing ∧ issuing.outcome = some .returned ∧
        issuing.stage = .granted ⟨1, 0, some "jti-a"⟩ 10) ∧
      (last.tokens.table.slot 10).satisfies RefreshToken.unrevoked = true ∧
      last.getCurrentUser oneTenant "jti-a" = some 1 :=
    ⟨_, _, rfl, rfl, rfl, by decide, ⟨_, rfl, rfl, rfl⟩, by decide, by decide +kernel⟩
  obtain ⟨verifying, last, began, begun, run, changed, ⟨issuing, known, returned, granted⟩,
    active, accepted⟩ := ran
  have reached : (flows oneTenant 900).Reachable verifying :=
    Machine.Reachable.exec (.start (World.initial_fresh _ _)) began
  obtain ⟨row, committed, unrevoked⟩ := Slot.satisfies_iff.mp active
  refine ⟨verifying, last, reached, begun, run, changed, ?_, ?_, accepted⟩
  · exact .opened ⟨issuing, known, ⟨.returned, returned, rfl⟩, granted⟩
  · rintro ⟨other, found, revoked⟩
    rw [committed] at found
    cases found
    rw [unrevoked] at revoked
    cases revoked

end Auth
