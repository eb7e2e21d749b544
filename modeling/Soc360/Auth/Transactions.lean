import Soc360.Auth.Flows

set_option autoImplicit false

namespace Auth

/-- How an UPDATE changes a row: it may revoke it, for good. -/
structure RefreshToken.Ages (before after : RefreshToken) : Prop where
  userId : after.userId = before.userId
  expiresAt : after.expiresAt = before.expiresAt
  revoked : after.unrevoked = true → before.unrevoked = true

namespace RefreshToken.Ages

theorem refl (row : RefreshToken) : row.Ages row := ⟨rfl, rfl, fun same => same⟩

theorem trans {first second third : RefreshToken} (before : first.Ages second)
    (after : second.Ages third) : first.Ages third :=
  ⟨after.userId.trans before.userId, after.expiresAt.trans before.expiresAt,
    fun same => before.revoked (after.revoked same)⟩

theorem activeOf {row after : RefreshToken} (ages : row.Ages after) {now : Seconds}
    {user : UserId} (active : after.activeOf now user = true) : row.activeOf now user = true := by
  simp only [RefreshToken.activeOf, RefreshToken.active, Bool.and_eq_true] at active ⊢
  rw [ages.userId, ages.expiresAt] at active
  exact ⟨active.1, ages.revoked active.2.1, active.2.2⟩

theorem of_act {change : TokenChange} {row after : RefreshToken}
    (acted : RowAction.act change row = some after) : row.Ages after := by
  cases change with
  | revoke at_ =>
      cases acted
      exact ⟨rfl, rfl, fun unrevoked => by cases unrevoked⟩
  | revokeAll users at_ =>
      simp only [RowAction.act] at acted
      split at acted
      next =>
        cases acted
        exact ⟨rfl, rfl, fun unrevoked => by cases unrevoked⟩
      next => cases acted

end RefreshToken.Ages

/-- No service deletes a refresh token. -/
def Lasting (effects : List TokenEffect) : Prop := ∀ effect ∈ effects, effect ≠ .delete

theorem replay_ages {effects : List TokenEffect} {row : RefreshToken}
    {slot : Slot RefreshToken} (lasting : Lasting effects)
    (replayed : Effect.replay effects (.live row) = some slot) :
    ∃ after, slot = .live after ∧ row.Ages after := by
  induction effects generalizing row with
  | nil =>
      cases replayed
      exact ⟨row, rfl, .refl row⟩
  | cons effect rest ih =>
      obtain ⟨next, applied, replayed⟩ := Option.bind_eq_some_iff.mp replayed
      have lasting_rest : Lasting rest := fun other member =>
        lasting other (List.mem_cons_of_mem _ member)
      cases effect with
      | insert new =>
          have inserted := (Effect.apply_insert_some.mp applied).1
          cases inserted
      | change how =>
          obtain ⟨old, new, same, acted, rfl⟩ := Effect.apply_change_some.mp applied
          cases same
          obtain ⟨after, landed, ages⟩ := ih lasting_rest replayed
          exact ⟨after, landed, (RefreshToken.Ages.of_act acted).trans ages⟩
      | delete => exact absurd rfl (lasting .delete List.mem_cons_self)

namespace World

/-- A call that has not ended. -/
def Open (world : World) (txn : Txn) (task : Task) : Prop :=
  world.tasks txn = some task ∧ task.outcome = none

/-- What one label does to the world. A refusal, a failure and a failed commit are one
thing to the database. -/
inductive Stepped (directory : Directory) (accessTtl : Seconds) (world : World) :
    Label → World → Prop
  | tick (seconds : Seconds) :
      Stepped directory accessTtl world (.tick seconds) (world.elapse seconds)
  | begin_ {txn : Txn} (new : world.tasks txn = none) (call : Call)
      (presented : ∀ jti ∈ call.presented, (world.access jti).isSome = true) :
      Stepped directory accessTtl world (.begin_ txn call)
        (world.record txn ⟨call, world.now, .begun, none⟩)
  | ran {txn : Txn} {task : Task} (running : world.Open txn task) (choice : Choice)
      {stage : Stage} {action : Action} {after : World}
      (planned : Planned directory accessTtl world txn task.call task.startedAt choice
        task.stage stage action)
      (accepted : action ≠ .refuse) (performed : world.perform txn action = some after) :
      Stepped directory accessTtl world (.run txn choice)
        (after.record txn { task with stage := stage })
  | failed {txn : Txn} {task : Task} (running : world.Open txn task) (label : Label)
      (stage : Stage) :
      Stepped directory accessTtl world label
        ((world.rollback txn).record txn ⟨task.call, task.startedAt, stage, some .raised⟩)
  | committed {txn : Txn} {task : Task} (running : world.Open txn task) {fate : Fate}
      (arrived : fate ≠ .failed)
      (complete : task.stage.complete (task.call.covers directory) = true) (outcome : Outcome)
      (done : outcome.committed = true) :
      Stepped directory accessTtl world (.commit txn fate)
        ((world.publish txn).record txn { task with outcome := some outcome })

section

variable {directory : Directory} {accessTtl : Seconds} {world next : World} {label : Label}
  {txn : Txn} {action : Action} {after : World} {user : UserId}

theorem step_stepped (taken : world.step directory accessTtl label = some next) :
    world.Stepped directory accessTtl label next := by
  unfold step at taken
  split at taken
  next seconds => cases taken; exact .tick seconds
  next txn call =>
    split at taken
    next => cases taken
    next new =>
      split at taken
      next presented =>
        cases taken
        exact .begin_ new call (List.all_eq_true.mp presented)
      next => cases taken
  next txn choice =>
    split at taken
    next task known =>
      split at taken
      next running =>
        obtain ⟨⟨stage, action⟩, planned, taken⟩ := Option.bind_eq_some_iff.mp taken
        obtain ⟨after, performed, rfl⟩ := Option.map_eq_some_iff.mp taken
        by_cases refused : action = .refuse
        · subst refused
          cases performed
          exact .failed ⟨known, running⟩ _ stage
        · have stays : action.outcome = task.outcome :=
            (Action.outcome_accepted refused).trans running.symm
          rw [stays]
          exact .ran ⟨known, running⟩ choice (plan_planned planned) refused performed
      next => cases taken
    next => cases taken
  next txn fate =>
    split at taken
    next task known =>
      split at taken
      next ready =>
        cases taken
        cases fate
        · exact .committed ⟨known, ready.1⟩ (by decide) ready.2 .returned rfl
        · exact .failed ⟨known, ready.1⟩ _ task.stage
        · exact .committed ⟨known, ready.1⟩ (by decide) ready.2 .unconfirmed rfl
      next => cases taken
    next => cases taken
  next txn =>
    split at taken
    next task known =>
      split at taken
      next running => cases taken; exact .failed ⟨known, running⟩ _ task.stage
      next => cases taken
    next => cases taken

theorem perform_tokens (performed : world.perform txn action = some after) :
    Ledger.Undisturbed txn world.tokens after.tokens := by
  cases action with
  | refuse => cases performed; exact .rollback _ _
  | lock token =>
      obtain ⟨tokens, locked, rfl⟩ := Option.map_eq_some_iff.mp performed
      exact .lock locked
  | revoke token at_ =>
      obtain ⟨tokens, written, rfl⟩ := Option.map_eq_some_iff.mp performed
      exact .write written
  | sweep token users at_ =>
      obtain ⟨⟨tokens, hit⟩, updated, rfl⟩ := Option.map_eq_some_iff.mp performed
      exact .update updated
  | insert token row =>
      obtain ⟨tokens, inserted, rfl⟩ := Option.map_eq_some_iff.mp performed
      exact .insert inserted
  | user user change =>
      obtain ⟨⟨users, hit⟩, updated, rfl⟩ := Option.map_eq_some_iff.mp performed
      exact .refl
  | tenant tenant change =>
      obtain ⟨⟨tenants, hit⟩, updated, rfl⟩ := Option.map_eq_some_iff.mp performed
      exact .refl
  | advisory user =>
      simp only [perform] at performed
      split at performed
      next => cases performed; exact .refl
      next => cases performed
  | _ => cases performed; exact .refl

/-- A statement adds to what its own transaction has pending, and only the INSERT adds a
row. -/
theorem perform_effects (performed : world.perform txn action = some after)
    (accepted : action ≠ .refuse) :
    ∃ added, after.tokens.effects txn = world.tokens.effects txn ++ added ∧
      ∀ token effect, (token, effect) ∈ added →
        (∃ how, effect = .change how) ∨ ∃ row, action = .insert token row ∧
          effect = .insert row := by
  have write_adds {token : TokenHash} {how : TokenChange}
      {tokens : Ledger Txn TokenHash RefreshToken TokenChange}
      (written : world.tokens.write txn token (.change how) = some tokens) :
      ∃ added, tokens.effects txn = world.tokens.effects txn ++ added ∧
        ∀ other effect, (other, effect) ∈ added →
          (∃ how, effect = .change how) ∨ ∃ row, action = .insert other row ∧
            effect = .insert row := by
    obtain ⟨_, _, _, rfl⟩ := Ledger.write_some written
    refine ⟨[(token, .change how)], Function.update_self .., ?_⟩
    intro other effect member
    have same := List.mem_singleton.mp member
    cases same
    exact .inl ⟨how, rfl⟩
  have nothing (same : after.tokens.effects txn = world.tokens.effects txn) :
      ∃ added, after.tokens.effects txn = world.tokens.effects txn ++ added ∧
        ∀ other effect, (other, effect) ∈ added →
          (∃ how, effect = .change how) ∨ ∃ row, action = .insert other row ∧
            effect = .insert row :=
    ⟨[], by rw [same, List.append_nil], fun _ _ member => absurd member List.not_mem_nil⟩
  cases action with
  | refuse => exact absurd rfl accepted
  | lock token =>
      obtain ⟨tokens, locked, rfl⟩ := Option.map_eq_some_iff.mp performed
      obtain ⟨_, rfl⟩ := Ledger.lock_some locked
      exact nothing rfl
  | revoke token at_ =>
      obtain ⟨tokens, written, rfl⟩ := Option.map_eq_some_iff.mp performed
      exact write_adds written
  | sweep token users at_ =>
      obtain ⟨⟨tokens, hit⟩, updated, rfl⟩ := Option.map_eq_some_iff.mp performed
      rcases Ledger.update_some updated with ⟨-, rfl, -⟩ | ⟨-, written⟩
      · exact nothing rfl
      · exact write_adds written
  | insert token row =>
      obtain ⟨tokens, inserted, rfl⟩ := Option.map_eq_some_iff.mp performed
      obtain ⟨_, _, effects, _, _⟩ := Ledger.insert_some inserted
      refine ⟨[(token, .insert row)], ?_, ?_⟩
      · change tokens.effects txn = _
        rw [effects, Function.update_self]
      · intro other effect member
        have same := List.mem_singleton.mp member
        cases same
        exact .inr ⟨row, rfl, rfl⟩
  | user user change =>
      obtain ⟨⟨users, hit⟩, updated, rfl⟩ := Option.map_eq_some_iff.mp performed
      exact nothing rfl
  | tenant tenant change =>
      obtain ⟨⟨tenants, hit⟩, updated, rfl⟩ := Option.map_eq_some_iff.mp performed
      exact nothing rfl
  | advisory user =>
      simp only [perform] at performed
      split at performed
      next => cases performed; exact nothing rfl
      next => cases performed
  | _ => cases performed; exact nothing rfl

theorem perform_sound (performed : world.perform txn action = some after)
    (sound : world.tokens.Sound) : after.tokens.Sound := by
  have write_sound {token : TokenHash} {how : TokenChange}
      {tokens : Ledger Txn TokenHash RefreshToken TokenChange}
      (written : world.tokens.write txn token (.change how) = some tokens) : tokens.Sound := by
    obtain ⟨_, slot, applied, _⟩ := Ledger.write_some written
    obtain ⟨row, _, seen, _, _⟩ := Effect.apply_change_some.mp applied
    have used : world.tokens.view txn token ≠ .fresh := by
      rw [seen]
      simp
    exact sound.write written (sound.known txn token used)
  cases action with
  | refuse => cases performed; exact sound.rollback txn
  | lock token =>
      obtain ⟨tokens, locked, rfl⟩ := Option.map_eq_some_iff.mp performed
      exact sound.lock locked
  | revoke token at_ =>
      obtain ⟨tokens, written, rfl⟩ := Option.map_eq_some_iff.mp performed
      exact write_sound written
  | sweep token users at_ =>
      obtain ⟨⟨tokens, hit⟩, updated, rfl⟩ := Option.map_eq_some_iff.mp performed
      rcases Ledger.update_some updated with ⟨-, rfl, -⟩ | ⟨-, written⟩
      · exact sound
      · exact write_sound written
  | insert token row =>
      obtain ⟨tokens, inserted, rfl⟩ := Option.map_eq_some_iff.mp performed
      exact sound.insert inserted
  | user user change =>
      obtain ⟨⟨users, hit⟩, updated, rfl⟩ := Option.map_eq_some_iff.mp performed
      exact sound
  | tenant tenant change =>
      obtain ⟨⟨tenants, hit⟩, updated, rfl⟩ := Option.map_eq_some_iff.mp performed
      exact sound
  | advisory user =>
      simp only [perform] at performed
      split at performed
      next => cases performed; exact sound
      next => cases performed
  | _ => cases performed; exact sound

theorem write_ages {token place : TokenHash} {row : RefreshToken} {how : TokenChange}
    {tokens : Ledger Txn TokenHash RefreshToken TokenChange}
    (written : world.tokens.write txn place (.change how) = some tokens)
    (visible : world.tokens.view txn token = .live row) :
    ∃ seen, tokens.view txn token = .live seen ∧ row.Ages seen := by
  obtain ⟨slot, applied, views⟩ := Ledger.view_write written
  obtain ⟨old, new, before, acted, rfl⟩ := Effect.apply_change_some.mp applied
  by_cases same : token = place
  · subst same
    rw [visible] at before
    cases before
    refine ⟨new, ?_, .of_act acted⟩
    rw [views, Function.update_self, Function.update_self]
  · refine ⟨row, ?_, .refl row⟩
    rw [views, Function.update_self, Function.update_of_ne same]
    exact visible

/-- A row that a transaction sees stays there for it, and at most it is revoked. -/
theorem perform_view {other : Txn} {token : TokenHash} {row : RefreshToken}
    (performed : world.perform txn action = some after) (accepted : action ≠ .refuse)
    (visible : world.tokens.view other token = .live row) :
    ∃ seen, after.tokens.view other token = .live seen ∧ row.Ages seen := by
  by_cases mine : other = txn
  · subst mine
    cases action with
    | refuse => exact absurd rfl accepted
    | lock place =>
        obtain ⟨tokens, locked, rfl⟩ := Option.map_eq_some_iff.mp performed
        refine ⟨row, ?_, .refl row⟩
        rw [Ledger.view_lock locked]
        exact visible
    | revoke place at_ =>
        obtain ⟨tokens, written, rfl⟩ := Option.map_eq_some_iff.mp performed
        exact write_ages written visible
    | sweep place users at_ =>
        obtain ⟨⟨tokens, hit⟩, updated, rfl⟩ := Option.map_eq_some_iff.mp performed
        rcases Ledger.update_some updated with ⟨-, rfl, -⟩ | ⟨-, written⟩
        · exact ⟨row, visible, .refl row⟩
        · exact write_ages written visible
    | insert place new =>
        obtain ⟨tokens, inserted, rfl⟩ := Option.map_eq_some_iff.mp performed
        obtain ⟨_, _, _, fresh, views⟩ := Ledger.insert_some inserted
        have differ : token ≠ place := by
          rintro rfl
          rw [visible] at fresh
          cases fresh
        refine ⟨row, ?_, .refl row⟩
        rw [views, Function.update_self, Function.update_of_ne differ]
        exact visible
    | user user change =>
        obtain ⟨_, _, rfl⟩ := Option.map_eq_some_iff.mp performed
        exact ⟨row, visible, .refl row⟩
    | tenant tenant change =>
        obtain ⟨_, _, rfl⟩ := Option.map_eq_some_iff.mp performed
        exact ⟨row, visible, .refl row⟩
    | advisory user =>
        simp only [perform] at performed
        split at performed
        next => cases performed; exact ⟨row, visible, .refl row⟩
        next => cases performed
    | _ => cases performed; exact ⟨row, visible, .refl row⟩
  · refine ⟨row, ?_, .refl row⟩
    rw [(perform_tokens performed).view other mine]
    exact visible

theorem perform_users (performed : world.perform txn action = some after) :
    Ledger.Undisturbed txn world.users after.users := by
  cases action with
  | refuse => cases performed; exact .rollback _ _
  | lock token => obtain ⟨_, _, rfl⟩ := Option.map_eq_some_iff.mp performed; exact .refl
  | revoke token at_ => obtain ⟨_, _, rfl⟩ := Option.map_eq_some_iff.mp performed; exact .refl
  | sweep token users at_ =>
      obtain ⟨_, _, rfl⟩ := Option.map_eq_some_iff.mp performed
      exact .refl
  | insert token row => obtain ⟨_, _, rfl⟩ := Option.map_eq_some_iff.mp performed; exact .refl
  | user user change =>
      obtain ⟨⟨users, hit⟩, updated, rfl⟩ := Option.map_eq_some_iff.mp performed
      exact .update updated
  | tenant tenant change =>
      obtain ⟨_, _, rfl⟩ := Option.map_eq_some_iff.mp performed
      exact .refl
  | advisory user =>
      simp only [perform] at performed
      split at performed
      next => cases performed; exact .refl
      next => cases performed
  | _ => cases performed; exact .refl

/-- What a transaction has pending on the users, it has from its UPDATEs of `users`. -/
theorem perform_users_effects (performed : world.perform txn action = some after)
    (accepted : action ≠ .refuse) {effect : Effect User UserChange}
    (member : (user, effect) ∈ after.users.effects txn) :
    (user, effect) ∈ world.users.effects txn ∨
      ∃ change, action = .user user change ∧ effect = .change change := by
  cases action with
  | refuse => exact absurd rfl accepted
  | lock token => obtain ⟨_, _, rfl⟩ := Option.map_eq_some_iff.mp performed; exact .inl member
  | revoke token at_ =>
      obtain ⟨_, _, rfl⟩ := Option.map_eq_some_iff.mp performed
      exact .inl member
  | sweep token users at_ =>
      obtain ⟨_, _, rfl⟩ := Option.map_eq_some_iff.mp performed
      exact .inl member
  | insert token row =>
      obtain ⟨_, _, rfl⟩ := Option.map_eq_some_iff.mp performed
      exact .inl member
  | user changed change =>
      obtain ⟨⟨users, hit⟩, updated, rfl⟩ := Option.map_eq_some_iff.mp performed
      rcases Ledger.update_some updated with ⟨-, rfl, -⟩ | ⟨-, written⟩
      · exact .inl member
      · obtain ⟨_, _, _, rfl⟩ := Ledger.write_some written
        simp only [Function.update_self, List.mem_append, List.mem_singleton] at member
        rcases member with old | new
        · exact .inl old
        · cases new
          exact .inr ⟨change, rfl, rfl⟩
  | tenant tenant change =>
      obtain ⟨_, _, rfl⟩ := Option.map_eq_some_iff.mp performed
      exact .inl member
  | advisory user =>
      simp only [perform] at performed
      split at performed
      next => cases performed; exact .inl member
      next => cases performed
  | _ => cases performed; exact .inl member

/-- Of all statements only the two Redis ones reach Redis. -/
theorem perform_redis (performed : world.perform txn action = some after) :
    after.redis = world.redis ∧ after.access = world.access ∨
      (∃ redis, action = .redis redis ∧ after.redis = redis ∧ after.access = world.access) ∨
      ∃ jti token, action = .track jti token ∧
        after.redis = world.redis.sadd token.userId jti ∧
        after.access = Function.update world.access jti (some token) := by
  cases action with
  | lock token => obtain ⟨_, _, rfl⟩ := Option.map_eq_some_iff.mp performed; exact .inl ⟨rfl, rfl⟩
  | revoke token at_ =>
      obtain ⟨_, _, rfl⟩ := Option.map_eq_some_iff.mp performed
      exact .inl ⟨rfl, rfl⟩
  | sweep token users at_ =>
      obtain ⟨_, _, rfl⟩ := Option.map_eq_some_iff.mp performed
      exact .inl ⟨rfl, rfl⟩
  | insert token row =>
      obtain ⟨_, _, rfl⟩ := Option.map_eq_some_iff.mp performed
      exact .inl ⟨rfl, rfl⟩
  | user user change =>
      obtain ⟨_, _, rfl⟩ := Option.map_eq_some_iff.mp performed
      exact .inl ⟨rfl, rfl⟩
  | tenant tenant change =>
      obtain ⟨_, _, rfl⟩ := Option.map_eq_some_iff.mp performed
      exact .inl ⟨rfl, rfl⟩
  | advisory user =>
      simp only [perform] at performed
      split at performed
      next => cases performed; exact .inl ⟨rfl, rfl⟩
      next => cases performed
  | redis redis => cases performed; exact .inr (.inl ⟨redis, rfl, rfl, rfl⟩)
  | track jti token => cases performed; exact .inr (.inr ⟨jti, token, rfl, rfl, rfl⟩)
  | skip => cases performed; exact .inl ⟨rfl, rfl⟩
  | refuse => cases performed; exact .inl ⟨rfl, rfl⟩

/-- A statement starts no task and takes no time. -/
theorem perform_frame (performed : world.perform txn action = some after) :
    after.tasks = world.tasks ∧ after.now = world.now := by
  cases action with
  | lock token => obtain ⟨_, _, rfl⟩ := Option.map_eq_some_iff.mp performed; exact ⟨rfl, rfl⟩
  | revoke token at_ => obtain ⟨_, _, rfl⟩ := Option.map_eq_some_iff.mp performed; exact ⟨rfl, rfl⟩
  | sweep token users at_ => obtain ⟨_, _, rfl⟩ := Option.map_eq_some_iff.mp performed; exact ⟨rfl, rfl⟩
  | insert token row => obtain ⟨_, _, rfl⟩ := Option.map_eq_some_iff.mp performed; exact ⟨rfl, rfl⟩
  | user user change => obtain ⟨_, _, rfl⟩ := Option.map_eq_some_iff.mp performed; exact ⟨rfl, rfl⟩
  | tenant tenant change => obtain ⟨_, _, rfl⟩ := Option.map_eq_some_iff.mp performed; exact ⟨rfl, rfl⟩
  | advisory user =>
      simp only [perform] at performed
      split at performed
      next => cases performed; exact ⟨rfl, rfl⟩
      next => cases performed
  | _ => cases performed; exact ⟨rfl, rfl⟩

theorem perform_tasks (performed : world.perform txn action = some after) :
    after.tasks = world.tasks := (perform_frame performed).1

theorem perform_now (performed : world.perform txn action = some after) :
    after.now = world.now := (perform_frame performed).2

theorem perform_sessionLock (performed : world.perform txn action = some after)
    (accepted : action ≠ .refuse) {holder : Txn} (held : world.sessionLock user = some holder) :
    after.sessionLock user = some holder := by
  cases action with
  | refuse => exact absurd rfl accepted
  | lock token => obtain ⟨_, _, rfl⟩ := Option.map_eq_some_iff.mp performed; exact held
  | revoke token at_ => obtain ⟨_, _, rfl⟩ := Option.map_eq_some_iff.mp performed; exact held
  | sweep token users at_ =>
      obtain ⟨_, _, rfl⟩ := Option.map_eq_some_iff.mp performed; exact held
  | insert token row => obtain ⟨_, _, rfl⟩ := Option.map_eq_some_iff.mp performed; exact held
  | user user change => obtain ⟨_, _, rfl⟩ := Option.map_eq_some_iff.mp performed; exact held
  | tenant tenant change =>
      obtain ⟨_, _, rfl⟩ := Option.map_eq_some_iff.mp performed; exact held
  | advisory locked =>
      simp only [perform] at performed
      split at performed
      next free =>
        cases performed
        by_cases same : user = locked
        · subst same
          rw [held] at free
          have mine : holder = txn := by simpa using free
          simp [mine]
        · simpa [same] using held
      next => cases performed
  | _ => cases performed; exact held

end

section

variable {world : World} {txn other : Txn} {task now : Task}

@[simp] theorem record_tasks_self : (world.record txn task).tasks txn = some task :=
  Function.update_self ..

theorem record_tasks_other (differ : other ≠ txn) :
    (world.record txn task).tasks other = world.tasks other :=
  Function.update_of_ne differ _ _

theorem record_open_self (running : task.outcome = none) :
    (world.record txn task).Open txn task :=
  ⟨record_tasks_self, running⟩

theorem open_record_self (opened : (world.record txn task).Open txn now) : now = task := by
  have known := opened.1
  rw [record_tasks_self] at known
  exact (Option.some.inj known).symm

theorem open_record_other (differ : other ≠ txn) :
    (world.record txn task).Open other now ↔ world.Open other now := by
  rw [Open, Open, record_tasks_other differ]

/-- Where a task is over, those that are open are others. -/
theorem open_record_over {outcome : Outcome} (settled : task.outcome = some outcome)
    (opened : (world.record txn task).Open other now) : other ≠ txn ∧ world.Open other now := by
  have differ : other ≠ txn := by
    rintro rfl
    have running := opened.2
    rw [open_record_self opened, settled] at running
    cases running
  exact ⟨differ, (open_record_other differ).mp opened⟩

end

end World

/-- The refresh token that a login or a refresh is about to insert. -/
def Stage.row? : Stage → Option (Grant × RefreshToken)
  | .added grant _ row _ => some (grant, row)
  | .inserting grant row => some (grant, row)
  | _ => none

/-- Which calls reach a stage. -/
def Stage.fits (call : Call) : Stage → Bool
  | .begun => true
  | .denylisted => call.isLogout
  | .untracked => call.isLogout
  | .found _ => call.isLogout
  | .verified => call.isChange
  | .flagged _ => call.isChange
  | .sweeping _ _ _ => call.isChange
  | .revoking _ _ _ => call.isChange
  | .finished => !call.isSession
  | _ => call.isSession

namespace World

/-- What a call may have pending on a refresh token. -/
def Pending (world : World) (txn : Txn) (token : TokenHash) : TokenEffect → Prop
  | .change _ => True
  | .delete => False
  | .insert row => row.revokedAt = none ∧ ∃ task grant, world.Open txn task ∧
      task.stage = .granted grant token ∧ row.userId = grant.userId

/-- A transaction that is about to commit a new token of the user. -/
def Grants (world : World) (txn : Txn) (user : UserId) : Prop :=
  ∃ task grant token, world.Open txn task ∧ task.stage = .granted grant token ∧
    grant.userId = user

/-- What every reachable world keeps about its refresh tokens. -/
structure Orderly (world : World) : Prop where
  sound : world.tokens.Sound
  pending : ∀ txn token effect, (token, effect) ∈ world.tokens.effects txn →
    world.Pending txn token effect
  idle : ∀ txn, (∀ task, ¬ world.Open txn task) → world.tokens.effects txn = []
  rows : ∀ txn task grant row, world.Open txn task → task.stage.row? = some (grant, row) →
    row.userId = grant.userId ∧ row.revokedAt = none
  fits : ∀ txn task, world.Open txn task → task.stage.fits task.call = true

namespace Orderly

variable {directory : Directory} {accessTtl : Seconds} {world next after : World} {label : Label}
  {txn : Txn} {task : Task} {token : TokenHash}

theorem lasting (orderly : world.Orderly) :
    Lasting (world.tokens.pending txn token) := by
  intro effect member
  have pending := orderly.pending txn token effect (Effect.mem_onKey.mp member)
  rintro rfl
  exact pending

/-- A committed row looks to every transaction like itself or like a revoked version. -/
theorem view_live (orderly : world.Orderly) {row : RefreshToken}
    (committed : world.tokens.table.slot token = .live row) :
    ∃ seen, world.tokens.view txn token = .live seen ∧ row.Ages seen := by
  have viewed := orderly.sound.viewed txn token
  rw [committed] at viewed
  exact replay_ages orderly.lasting viewed

/-- The commit of another transaction takes no row away either. -/
theorem view_published (orderly : world.Orderly) {other : Txn} {row : RefreshToken}
    (visible : world.tokens.view other token = .live row) (differ : other ≠ txn) :
    ∃ seen, (world.publish txn).tokens.view other token = .live seen ∧ row.Ages seen := by
  have views := Ledger.view_commit_other world.tokens differ token
  by_cases owned : world.tokens.owner token = some other
  · rw [if_pos owned, ← Ledger.view_owned owned, visible] at views
    exact ⟨row, views, .refl row⟩
  · rw [if_neg owned] at views
    rw [Ledger.view_foreign owned] at visible
    obtain ⟨seen, landed, ages⟩ := orderly.view_live visible
    exact ⟨seen, views.trans landed, ages⟩

/-- A row that a transaction sees is a committed one, unless it has inserted it itself. -/
theorem view_committed (orderly : world.Orderly) {seen : RefreshToken}
    (visible : world.tokens.view txn token = .live seen)
    (grants : ¬ world.Grants txn seen.userId) :
    ∃ row, world.tokens.table.slot token = .live row ∧ row.Ages seen := by
  have viewed := orderly.sound.viewed txn token
  rw [visible] at viewed
  have lasting : Lasting (world.tokens.pending txn token) := orderly.lasting
  cases committed : world.tokens.table.slot token with
  | live row =>
      rw [committed] at viewed
      obtain ⟨_, same, ages⟩ := replay_ages lasting viewed
      cases same
      exact ⟨row, rfl, ages⟩
  | gone =>
      rw [committed] at viewed
      cases pending : world.tokens.pending txn token with
      | nil =>
          rw [pending] at viewed
          cases viewed
      | cons effect rest =>
          rw [pending] at viewed
          obtain ⟨next, applied, _⟩ := Option.bind_eq_some_iff.mp viewed
          cases effect <;> cases applied
  | fresh =>
      rw [committed] at viewed
      cases pending : world.tokens.pending txn token with
      | nil =>
          rw [pending] at viewed
          cases viewed
      | cons effect rest =>
          rw [pending] at viewed
          obtain ⟨next, applied, replayed⟩ := Option.bind_eq_some_iff.mp viewed
          have first : effect ∈ world.tokens.pending txn token := by
            rw [pending]
            exact List.mem_cons_self
          have accounted := orderly.pending txn token effect (Effect.mem_onKey.mp first)
          cases effect with
          | insert row =>
              have lands := (Effect.apply_insert_some.mp applied).2
              subst lands
              have lasting_rest : Lasting rest := by
                intro effect member
                refine lasting effect ?_
                rw [pending]
                exact List.mem_cons_of_mem _ member
              obtain ⟨_, same, ages⟩ := replay_ages lasting_rest replayed
              cases same
              obtain ⟨_, task, grant, opened, granted, owner⟩ := accounted
              have grantee : grant.userId = seen.userId := by
                rw [ages.userId, owner]
              exact absurd ⟨task, grant, token, opened, granted, grantee⟩ grants
          | change how => cases applied
          | delete => cases applied

theorem initial (fresh : world.Fresh) : world.Orderly := by
  have none_open (txn : Txn) (task : Task) : ¬ world.Open txn task := by
    rintro ⟨known, _⟩
    rw [fresh.tasks] at known
    cases known
  refine ⟨?_, ?_, ?_, ?_, ?_⟩
  · rw [fresh.tokens]
    exact .empty
  · intro txn token effect member
    rw [fresh.tokens] at member
    cases member
  · intro txn _
    rw [fresh.tokens]
    rfl
  · intro txn task grant row opened
    exact absurd opened (none_open txn task)
  · intro txn task opened
    exact absurd opened (none_open txn task)

theorem change_not_session {call : Call} (changes : call.isChange = true) :
    (!call.isSession) = true := by
  cases call <;> first | rfl | cases changes

theorem logout_not_session {call : Call} (logout : call.isLogout = true) :
    (!call.isSession) = true := by
  cases call <;> first | rfl | cases logout

/-- The same tokens under other tasks: what `txn` has pending is empty or accounted for. -/
theorem transfer (orderly : world.Orderly) {task : Task}
    (sound : after.tokens.Sound)
    (others : ∀ other, other ≠ txn → after.tokens.effects other = world.tokens.effects other)
    (tasks : after.tasks = world.tasks)
    (own : ∀ token effect, (token, effect) ∈ after.tokens.effects txn →
      (after.record txn task).Pending txn token effect)
    (idle : task.outcome ≠ none → after.tokens.effects txn = [])
    (row : ∀ grant row, task.outcome = none → task.stage.row? = some (grant, row) →
      row.userId = grant.userId ∧ row.revokedAt = none)
    (fits : task.outcome = none → task.stage.fits task.call = true) :
    (after.record txn task).Orderly := by
  have same_open {other : Txn} (differ : other ≠ txn) (now : Task) :
      (after.record txn task).Open other now ↔ world.Open other now := by
    rw [open_record_other differ, Open, Open, tasks]
  refine ⟨sound, ?_, ?_, ?_, ?_⟩
  · intro other token effect member
    by_cases mine : other = txn
    · subst mine
      exact own token effect member
    · have before : (token, effect) ∈ world.tokens.effects other := by
        rw [← others other mine]
        exact member
      have pending := orderly.pending other token effect before
      cases effect with
      | change how => trivial
      | delete => exact pending
      | insert new =>
          obtain ⟨unrevoked, now, grant, opened, stage, user⟩ := pending
          exact ⟨unrevoked, now, grant, (same_open mine now).mpr opened, stage, user⟩
  · intro other closed
    by_cases mine : other = txn
    · subst mine
      refine idle ?_
      intro running
      exact closed task (record_open_self running)
    · change after.tokens.effects other = []
      rw [others other mine]
      refine orderly.idle other ?_
      intro now opened
      exact closed now ((same_open mine now).mpr opened)
  · intro other now grant new opened held
    by_cases mine : other = txn
    · subst mine
      have same := open_record_self opened
      subst same
      exact row grant new opened.2 held
    · exact orderly.rows other now grant new ((same_open mine now).mp opened) held
  · intro other now opened
    by_cases mine : other = txn
    · subst mine
      have same := open_record_self opened
      subst same
      exact fits opened.2
    · exact orderly.fits other now ((same_open mine now).mp opened)

theorem begin_ (orderly : world.Orderly) (new : world.tasks txn = none) (call : Call) :
    (world.record txn ⟨call, world.now, .begun, none⟩).Orderly := by
  have nothing : world.tokens.effects txn = [] := by
    refine orderly.idle txn ?_
    rintro task ⟨known, _⟩
    rw [new] at known
    cases known
  refine orderly.transfer orderly.sound (fun _ _ => rfl) rfl ?_ (fun ended => absurd rfl ended) ?_
    (fun _ => rfl)
  · intro token effect member
    rw [nothing] at member
    cases member
  · intro grant row _ held
    cases held

theorem ran (orderly : world.Orderly) (running : world.Open txn task) {choice : Choice}
    {stage : Stage} {action : Action}
    (planned : Planned directory accessTtl world txn task.call task.startedAt choice task.stage
      stage action)
    (accepted : action ≠ .refuse) (performed : world.perform txn action = some after) :
    (after.record txn { task with stage := stage }).Orderly := by
  have undisturbed := perform_tokens performed
  have row_of (grant : Grant) (row : RefreshToken) (held : task.stage.row? = some (grant, row)) :=
    orderly.rows txn task grant row running held
  refine orderly.transfer (perform_sound performed orderly.sound) undisturbed.effects
    (perform_tasks performed) ?_ (fun ended => absurd running.2 ended) ?_ ?_
  · intro token effect member
    obtain ⟨added, effects, fresh⟩ := perform_effects performed accepted
    rw [effects] at member
    rcases List.mem_append.mp member with old | new
    · have pending := orderly.pending txn token effect old
      cases effect with
      | change how => trivial
      | delete => exact pending
      | insert row =>
          -- A granted call has no statement left.
          obtain ⟨_, now, grant, opened, granted, _⟩ := pending
          have same : task = now := Option.some.inj (running.1.symm.trans opened.1)
          rw [same, granted] at planned
          cases planned with
          | refused => exact absurd rfl accepted
    · rcases fresh token effect new with ⟨how, rfl⟩ | ⟨row, inserts, rfl⟩
      · trivial
      · subst inserts
        obtain ⟨call, startedAt, from_, outcome⟩ := task
        cases planned with
        | denylist _ acts => rcases acts with acts | acts <;> cases acts
        | revokeOld _ _ _ _ _ acts => rcases acts with acts | acts <;> cases acts
        | insert grant =>
            obtain ⟨user, unrevoked⟩ := row_of grant row rfl
            exact ⟨unrevoked, _, grant, record_open_self running.2, rfl, user⟩
  · intro grant row _ held
    obtain ⟨call, startedAt, from_, outcome⟩ := task
    cases planned with
    | add => cases held; exact ⟨rfl, rfl⟩
    | createNext => cases held; exact row_of _ _ rfl
    | revokeOld => cases held; exact row_of _ _ rfl
    | untrackOld => cases held; exact row_of _ _ rfl
    | trackNew grant => cases held; exact row_of grant _ rfl
    | keep => cases held; exact row_of _ _ rfl
    | evict => cases held; exact row_of _ _ rfl
    | flushUser covers next =>
        rcases next with rfl | ⟨rfl, _⟩ <;> cases held
    | flushTenant next =>
        rcases next with rfl | rfl <;> cases held
    | _ => cases held
  · intro _
    have before := orderly.fits txn task running
    obtain ⟨call, startedAt, from_, outcome⟩ := task
    cases planned with
    | refused => exact absurd rfl accepted
    | login same => cases same; rfl
    | select same => cases same; rfl
    | denylist same => cases same; rfl
    | verify _ changes => exact changes
    | unchanged changes => exact change_not_session changes
    | logoutNothing => exact logout_not_session before
    | logout => exact logout_not_session before
    | flushUser covers next =>
        rcases next with rfl | ⟨rfl, _⟩
        · exact before
        · exact change_not_session before
    | flushTenant next =>
        rcases next with rfl | rfl
        · exact before
        · exact change_not_session before
    | _ => exact before

theorem failed (orderly : world.Orderly) (call : Call) (startedAt : Seconds) (stage : Stage) :
    ((world.rollback txn).record txn ⟨call, startedAt, stage, some .raised⟩).Orderly := by
  have nothing : (world.rollback txn).tokens.effects txn = [] := Function.update_self ..
  refine orderly.transfer (orderly.sound.rollback txn)
    (Ledger.Undisturbed.rollback world.tokens txn).effects rfl ?_ (fun _ => nothing) ?_
    (fun running => by cases running)
  · intro token effect member
    rw [nothing] at member
    cases member
  · intro grant row running
    cases running

theorem committed (orderly : world.Orderly) (outcome : Outcome) :
    ((world.publish txn).record txn { task with outcome := some outcome }).Orderly := by
  have nothing : (world.publish txn).tokens.effects txn = [] := Function.update_self ..
  refine orderly.transfer (orderly.sound.commit txn) ?_ rfl ?_ (fun _ => nothing) ?_
    (fun running => by cases running)
  · intro other differ
    exact Function.update_of_ne differ _ _
  · intro token effect member
    rw [nothing] at member
    cases member
  · intro grant row running
    cases running

theorem step (orderly : world.Orderly)
    (stepped : world.Stepped directory accessTtl label next) : next.Orderly := by
  cases stepped with
  | tick seconds =>
      exact ⟨orderly.sound, orderly.pending, orderly.idle, orderly.rows, orderly.fits⟩
  | begin_ new call => exact orderly.begin_ new call
  | ran running choice planned accepted performed =>
      exact orderly.ran running planned accepted performed
  | failed running => exact orderly.failed _ _ _
  | committed running arrived complete outcome => exact orderly.committed outcome

end Orderly

end World

theorem reachable_orderly {directory : Directory} {accessTtl : Seconds} {world : World}
    (reached : (flows directory accessTtl).Reachable world) : world.Orderly := by
  refine reached.invariant ?_ ?_
  · intro state fresh
    exact .initial fresh
  · intro before next label _ orderly _ taken
    exact orderly.step (World.step_stepped taken)

end Auth
