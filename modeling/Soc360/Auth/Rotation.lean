import Soc360.Auth.Transactions

set_option autoImplicit false

namespace Auth

/-- The rows that a list of effects inserts. -/
def insertions (effects : List (TokenHash × TokenEffect)) : List (TokenHash × RefreshToken) :=
  effects.filterMap fun
    | (token, .insert row) => some (token, row)
    | _ => none

/-- What a rotation commits: the old token is revoked, and one other token is inserted. -/
structure Rotation (token : TokenHash) (effects : List (TokenHash × TokenEffect)) : Prop where
  revokes : ∃ at_, (token, .change (.revoke at_)) ∈ effects
  inserts : ∃ fresh row, insertions effects = [(fresh, row)] ∧ fresh ≠ token ∧
    row.unrevoked = true

/-- The stages of a refresh by what it has written. -/
inductive Progress where
  | untouched
  | selected
  | revoked
  | evicted
  | inserted
  | elsewhere

def Stage.progress : Stage → Progress
  | .begun => .untouched
  | .selected _ => .selected
  | .authenticated _ => .selected
  | .locked _ => .selected
  | .flushed _ => .revoked
  | .full _ => .revoked
  | .room _ _ => .revoked
  | .added _ _ _ _ => .revoked
  | .inserting _ _ => .evicted
  | .granted _ _ => .inserted
  | _ => .elsewhere

def Task.Committed (task : Task) : Prop :=
  ∃ outcome, task.outcome = some outcome ∧ outcome.committed = true

namespace World

def Committed (world : World) (txn : Txn) : Prop :=
  ∃ task, world.tasks txn = some task ∧ task.Committed

/-- The transaction is a committed refresh that presented the token. -/
def Rotates (world : World) (token : TokenHash) (txn : Txn) : Prop :=
  ∃ task oldJti, world.tasks txn = some task ∧ task.call = .refreshTokens token oldJti ∧
    task.Committed

/-- The entries of the log that belong to one transaction. -/
def entriesOf (world : World) (txn : Txn) : List (Txn × List (TokenHash × TokenEffect)) :=
  world.tokens.log.filter (·.1 = txn)

/-- The token is committed and not revoked, under the row lock of the transaction. -/
def Holds (world : World) (txn : Txn) (token : TokenHash) : Prop :=
  world.tokens.owner token = some txn ∧
    ∃ row, world.tokens.table.slot token = .live row ∧ row.unrevoked = true

/-- The transaction sees the token as revoked. -/
def SeesRevoked (world : World) (txn : Txn) (token : TokenHash) : Prop :=
  ∃ row, world.tokens.view txn token = .live row ∧ row.unrevoked = false

/-- The token is revoked in the committed rows. -/
def Revoked (world : World) (token : TokenHash) : Prop :=
  ∃ row, world.tokens.table.slot token = .live row ∧ row.unrevoked = false

/-- How far a refresh of the token has got with the rows. -/
def Rotating (world : World) (txn : Txn) (token : TokenHash) : Progress → Prop
  | .untouched => world.tokens.effects txn = []
  | .selected => world.Holds txn token ∧ world.tokens.effects txn = []
  | .revoked => world.Holds txn token ∧ world.SeesRevoked txn token ∧
      ∃ at_, world.tokens.effects txn = [(token, .change (.revoke at_))]
  | .evicted => world.Holds txn token ∧ world.SeesRevoked txn token ∧
      (∃ at_, (token, .change (.revoke at_)) ∈ world.tokens.effects txn) ∧
      insertions (world.tokens.effects txn) = []
  | .inserted => world.Holds txn token ∧ world.SeesRevoked txn token ∧
      Rotation token (world.tokens.effects txn)
  | .elsewhere => False

/-- The rotation invariant. A refresh holds the row of its token from its SELECT to its end;
what is committed of it is one rotation, and nothing is before that. -/
structure SingleUse (world : World) : Prop where
  silent : ∀ txn, ¬ world.Committed txn → ∀ entry ∈ world.tokens.log, entry.1 ≠ txn
  rotating : ∀ txn task token oldJti, world.Open txn task →
    task.call = .refreshTokens token oldJti → world.Rotating txn token task.stage.progress
  rotated : ∀ txn token, world.Rotates token txn → world.Revoked token ∧
    ∃ effects, world.entriesOf txn = [(txn, effects)] ∧ Rotation token effects
  once : ∀ txn other token, world.Rotates token txn → world.Rotates token other → txn = other

end World

section

variable {directory : Directory} {accessTtl : Seconds} {world after next : World} {label : Label}
  {txn other : Txn} {task : Task} {token : TokenHash} {action : Action}

theorem insertions_append (first second : List (TokenHash × TokenEffect)) :
    insertions (first ++ second) = insertions first ++ insertions second :=
  List.filterMap_append ..

theorem World.Rotating.held {progress : Progress}
    (rotating : world.Rotating txn token progress) (past : progress ≠ .untouched) :
    world.Holds txn token := by
  cases progress with
  | untouched => exact absurd rfl past
  | elsewhere => exact rotating.elim
  | selected => exact rotating.1
  | revoked => exact rotating.1
  | evicted => exact rotating.1
  | inserted => exact rotating.1

/-- What a refresh has done so far rests on its lock, its view and its own effects. -/
theorem World.Rotating.transfer {progress : Progress}
    (rotating : world.Rotating txn token progress)
    (holds : world.Holds txn token → after.Holds txn token)
    (sees : world.Holds txn token → world.SeesRevoked txn token → after.SeesRevoked txn token)
    (effects : after.tokens.effects txn = world.tokens.effects txn) :
    after.Rotating txn token progress := by
  cases progress with
  | untouched => exact effects.trans rotating
  | selected => exact ⟨holds rotating.1, effects.trans rotating.2⟩
  | revoked =>
      obtain ⟨held, seen, at_, same⟩ := rotating
      exact ⟨holds held, sees held seen, at_, effects.trans same⟩
  | evicted =>
      obtain ⟨held, seen, revokes, none_inserted⟩ := rotating
      rw [World.Rotating, effects]
      exact ⟨holds held, sees held seen, revokes, none_inserted⟩
  | inserted =>
      obtain ⟨held, seen, rotation⟩ := rotating
      rw [World.Rotating, effects]
      exact ⟨holds held, sees held seen, rotation⟩
  | elsewhere => exact rotating.elim

/-- A statement or a rollback of another transaction does not reach a refresh. -/
theorem World.Rotating.beside {progress : Progress}
    (rotating : world.Rotating txn token progress)
    (undisturbed : Ledger.Undisturbed other world.tokens after.tokens) (differ : txn ≠ other) :
    after.Rotating txn token progress := by
  apply rotating.transfer
  · rintro ⟨owned, row, committed, unrevoked⟩
    refine ⟨undisturbed.owner token txn differ owned, row, ?_, unrevoked⟩
    rw [undisturbed.slot]
    exact committed
  · rintro _ ⟨row, visible, revoked⟩
    refine ⟨row, ?_, revoked⟩
    rw [undisturbed.view txn differ]
    exact visible
  · exact undisturbed.effects txn differ

/-- The commit of another transaction does not reach a refresh either: the lock keeps it
from the row. -/
theorem World.Rotating.published {progress : Progress}
    (rotating : world.Rotating txn token progress) (differ : txn ≠ other) :
    (world.publish other).Rotating txn token progress := by
  apply rotating.transfer
  · rintro ⟨owned, row, committed, unrevoked⟩
    have foreign : world.tokens.owner token ≠ some other := by
      rw [owned]
      simpa using differ
    refine ⟨?_, row, ?_, unrevoked⟩
    · change (if world.tokens.owner token = some other then none
        else world.tokens.owner token) = some txn
      rw [if_neg foreign]
      exact owned
    · change world.tokens.view other token = .live row
      rw [Ledger.view_foreign foreign]
      exact committed
  · rintro ⟨owned, _⟩ ⟨row, visible, revoked⟩
    refine ⟨row, ?_, revoked⟩
    change (world.tokens.commit other).view txn token = .live row
    rw [Ledger.view_commit_other world.tokens differ, if_pos owned, ← Ledger.view_owned owned]
    exact visible
  · exact Function.update_of_ne differ _ _

theorem World.Rotating.own_write {revoked : TokenHash} {at_ : Seconds}
    {tokens : Ledger Txn TokenHash RefreshToken TokenChange}
    (holds : world.Holds txn token)
    (written : world.tokens.write txn revoked (.change (.revoke at_)) = some tokens)
    (target : revoked = token ∨ world.SeesRevoked txn token) :
    World.Holds { world with tokens := tokens } txn token ∧
      World.SeesRevoked { world with tokens := tokens } txn token ∧
      tokens.effects txn = world.tokens.effects txn ++ [(revoked, .change (.revoke at_))] := by
  obtain ⟨slot, applied, views⟩ := Ledger.view_write written
  obtain ⟨_, row, _, acted, rfl⟩ := Effect.apply_change_some.mp applied
  obtain ⟨_, _, _, rfl⟩ := Ledger.write_some written
  have now_revoked : row.unrevoked = false := by
    cases acted
    rfl
  obtain ⟨owned, committed⟩ := holds
  refine ⟨⟨?_, committed⟩, ?_, Function.update_self ..⟩
  · by_cases same : token = revoked
    · subst same
      exact Function.update_self ..
    · exact (Function.update_of_ne same _ _).trans owned
  · by_cases same : token = revoked
    · subst same
      refine ⟨row, ?_, now_revoked⟩
      rw [views, Function.update_self, Function.update_self]
    · obtain ⟨old, visible, revoked⟩ := target.resolve_left (Ne.symm same)
      refine ⟨old, ?_, revoked⟩
      rw [views, Function.update_self, Function.update_of_ne same]
      exact visible

/-- Every statement of a refresh carries it on. -/
theorem World.Rotating.ran (orderly : world.Orderly) (running : world.Open txn task)
    {oldJti : Option Jti} (presents : task.call = .refreshTokens token oldJti)
    (rotating : world.Rotating txn token task.stage.progress) {choice : Choice} {stage : Stage}
    (planned : Planned directory accessTtl world txn task.call task.startedAt choice task.stage
      stage action)
    (accepted : action ≠ .refuse) (performed : world.perform txn action = some after) :
    after.Rotating txn token stage.progress := by
  obtain ⟨call, startedAt, from_, outcome⟩ := task
  cases presents
  cases planned with
  | refused => exact absurd rfl accepted
  | login same => cases same
  | select same seen active =>
      cases same
      obtain ⟨tokens, locked, rfl⟩ := Option.map_eq_some_iff.mp performed
      obtain ⟨_, rfl⟩ := Ledger.lock_some locked
      rw [orderly.sound.view_untouched rotating] at seen
      rw [RefreshToken.active, Bool.and_eq_true] at active
      exact ⟨⟨Function.update_self .., _, seen, active.1⟩, rotating⟩
  | denylist same => cases same
  | verify _ other => cases other
  | unchanged other => cases other
  | authenticate =>
      cases performed
      exact rotating
  | create same => cases same
  | rotate same grant =>
      cases same
      obtain ⟨tokens, written, rfl⟩ := Option.map_eq_some_iff.mp performed
      obtain ⟨holds, untouched⟩ := rotating
      obtain ⟨held, sees, effects⟩ := World.Rotating.own_write holds written (.inl rfl)
      rw [untouched] at effects
      exact ⟨held, sees, _, effects⟩
  | lockSession =>
      simp only [World.perform] at performed
      split at performed
      next => cases performed; exact rotating
      next => cases performed
  | touch _ login => exact absurd rfl (login token oldJti)
  | full => cases performed; exact rotating
  | room => cases performed; exact rotating
  | pick => cases performed; exact rotating
  | add => cases performed; exact rotating
  | createNext => cases performed; exact rotating
  | revokeOld _ _ _ _ _ acts =>
      rcases acts with rfl | rfl <;> cases performed <;> exact rotating
  | untrackOld => cases performed; exact rotating
  | trackNew => cases performed; exact rotating
  | keep =>
      cases performed
      obtain ⟨holds, sees, at_, effects⟩ := rotating
      rw [Stage.progress, World.Rotating, effects]
      exact ⟨holds, sees, ⟨at_, List.mem_singleton_self _⟩, rfl⟩
  | evict grant evicted at_ row =>
      obtain ⟨tokens, written, rfl⟩ := Option.map_eq_some_iff.mp performed
      obtain ⟨holds, sees, first, before⟩ := rotating
      obtain ⟨held, sees, effects⟩ := World.Rotating.own_write holds written (.inr sees)
      rw [before] at effects
      refine ⟨held, sees, ⟨first, ?_⟩, ?_⟩
      · change _ ∈ tokens.effects txn
        rw [effects]
        exact List.mem_cons_self
      · change insertions (tokens.effects txn) = []
        rw [effects]
        rfl
  | insert grant row fresh =>
      obtain ⟨tokens, inserted, rfl⟩ := Option.map_eq_some_iff.mp performed
      have undisturbed := Ledger.Undisturbed.insert inserted
      obtain ⟨new, _, effects, _, views⟩ := Ledger.insert_some inserted
      obtain ⟨⟨owned, old, committed, unrevoked⟩, ⟨seen, visible, revoked⟩, ⟨at_, revokes⟩,
        none_inserted⟩ := rotating
      have known : token ∈ world.tokens.table.keys := by
        refine orderly.sound.listed.known token ?_
        rw [committed]
        simp
      have differ : fresh ≠ token := fun same => new (by rw [same]; exact known)
      obtain ⟨_, row_unrevoked⟩ := orderly.rows txn _ grant row running rfl
      have owner_kept : tokens.owner token = some txn := by
        unfold Ledger.insert at inserted
        rw [if_neg new] at inserted
        obtain ⟨_, _, _, rfl⟩ := Ledger.write_some inserted
        exact (Function.update_of_ne (Ne.symm differ) _ _).trans owned
      refine ⟨⟨owner_kept, old, ?_, unrevoked⟩, ⟨seen, ?_, revoked⟩, ?_⟩
      · rw [undisturbed.slot]
        exact committed
      · rw [views, Function.update_self, Function.update_of_ne (Ne.symm differ)]
        exact visible
      · change Rotation token (tokens.effects txn)
        rw [effects, Function.update_self]
        refine ⟨⟨at_, List.mem_append_left _ revokes⟩, fresh, row, ?_, differ, ?_⟩
        · rw [insertions_append, none_inserted]
          rfl
        · rw [RefreshToken.unrevoked, row_unrevoked]
          rfl
  | flushUser => exact rotating.elim
  | flushTenant => exact rotating.elim
  | _ => exact rotating.elim

/-- Only a commit that reaches the database changes the committed rows. -/
theorem World.Stepped.slot (stepped : world.Stepped directory accessTtl label next) :
    next.tokens.table.slot = world.tokens.table.slot ∨
      ∃ txn fate, label = .commit txn fate ∧ fate ≠ .failed ∧
        next.tokens.table.slot = world.tokens.view txn := by
  cases stepped with
  | tick => exact .inl rfl
  | begin_ => exact .inl rfl
  | ran _ _ _ _ performed => exact .inl (World.perform_tokens performed).slot
  | failed => exact .inl rfl
  | committed _ arrived => exact .inr ⟨_, _, rfl, arrived, rfl⟩

theorem RefreshToken.Ages.revokes {row seen : RefreshToken} (ages : row.Ages seen)
    (revoked : row.unrevoked = false) : seen.unrevoked = false := by
  cases now : seen.unrevoked with
  | false => rfl
  | true =>
      rw [ages.revoked now] at revoked
      cases revoked

theorem World.Revoked.seen (orderly : world.Orderly) (revoked : world.Revoked token) :
    world.SeesRevoked txn token := by
  obtain ⟨row, committed, gone⟩ := revoked
  obtain ⟨seen, visible, ages⟩ := orderly.view_live committed
  exact ⟨seen, visible, ages.revokes gone⟩

/-- A revocation is final. -/
theorem World.Revoked.stepped (orderly : world.Orderly) (revoked : world.Revoked token)
    (stepped : world.Stepped directory accessTtl label next) : next.Revoked token := by
  rcases stepped.slot with same | ⟨txn, _, _, _, same⟩
  · rw [World.Revoked, same]
    exact revoked
  · rw [World.Revoked, same]
    exact World.Revoked.seen orderly revoked

theorem World.Holds.not_revoked (holds : world.Holds txn token)
    (revoked : world.Revoked token) : False := by
  obtain ⟨_, row, committed, unrevoked⟩ := holds
  obtain ⟨other, same, gone⟩ := revoked
  rw [committed] at same
  cases same
  rw [unrevoked] at gone
  cases gone

theorem committed_record_self (running : task.outcome = none) :
    ¬ (world.record txn task).Committed txn := by
  rintro ⟨now, known, outcome, ended, _⟩
  rw [World.record_tasks_self] at known
  cases known
  rw [running] at ended
  cases ended

theorem rotates_record_other (differ : other ≠ txn) :
    (world.record txn task).Rotates token other ↔ world.Rotates token other := by
  rw [World.Rotates, World.Rotates, World.record_tasks_other differ]

theorem committed_record_other (differ : other ≠ txn) :
    (world.record txn task).Committed other ↔ world.Committed other := by
  rw [World.Committed, World.Committed, World.record_tasks_other differ]

theorem World.Rotates.committed (rotates : world.Rotates token txn) : world.Committed txn := by
  obtain ⟨task, _, known, _, ended⟩ := rotates
  exact ⟨task, known, ended⟩

theorem World.Open.not_committed (running : world.Open txn task) : ¬ world.Committed txn := by
  rintro ⟨now, known, outcome, ended, _⟩
  have same : task = now := Option.some.inj (running.1.symm.trans known)
  rw [← same, running.2] at ended
  cases ended

/-- A label that commits nothing keeps the invariant, when it carries its own call on. -/
theorem World.SingleUse.uncommitted {now : Task} (single : world.SingleUse)
    (before : ¬ world.Committed txn) (log : after.tokens.log = world.tokens.log)
    (slot : after.tokens.table.slot = world.tokens.table.slot)
    (tasks : after.tasks = world.tasks) (pending : ¬ now.Committed)
    (beside : ∀ other progress token, other ≠ txn → world.Rotating other token progress →
      after.Rotating other token progress)
    (own : ∀ token oldJti, now.outcome = none → now.call = .refreshTokens token oldJti →
      after.Rotating txn token now.stage.progress) :
    (after.record txn now).SingleUse := by
  have not_committed : ¬ (after.record txn now).Committed txn := by
    rintro ⟨task, known, ended⟩
    rw [World.record_tasks_self] at known
    cases known
    exact pending ended
  have old_rotates {other : Txn} {token : TokenHash}
      (rotates : (after.record txn now).Rotates token other) : world.Rotates token other := by
    have differ : other ≠ txn := by
      rintro rfl
      exact not_committed rotates.committed
    rw [rotates_record_other differ, World.Rotates, tasks] at rotates
    exact rotates
  refine ⟨?_, ?_, ?_, ?_⟩
  · intro other none_committed entry member
    change entry ∈ after.tokens.log at member
    rw [log] at member
    by_cases mine : other = txn
    · rw [mine]
      exact single.silent txn before entry member
    · refine single.silent other ?_ entry member
      rw [committed_record_other mine, World.Committed, tasks] at none_committed
      exact none_committed
  · intro other task token oldJti opened presents
    by_cases mine : other = txn
    · subst mine
      have same := World.open_record_self opened
      subst same
      exact own token oldJti opened.2 presents
    · have opened_before : world.Open other task := by
        rw [World.open_record_other mine, World.Open, tasks] at opened
        exact opened
      have rotating := single.rotating other task token oldJti opened_before presents
      exact beside other _ token mine rotating
  · intro other token rotates
    obtain ⟨revoked, effects, entries, rotation⟩ := single.rotated other token
      (old_rotates rotates)
    refine ⟨?_, effects, ?_, rotation⟩
    · change after.Revoked token
      rw [World.Revoked, slot]
      exact revoked
    · change after.entriesOf other = _
      rw [World.entriesOf, log]
      exact entries
  · intro first second token rotates rotates'
    exact single.once first second token (old_rotates rotates) (old_rotates rotates')

theorem World.SingleUse.committed (orderly : world.Orderly) (single : world.SingleUse)
    (running : world.Open txn task)
    (complete : task.stage.complete (task.call.covers directory) = true) {outcome : Outcome}
    (done : outcome.committed = true) :
    ((world.publish txn).record txn { task with outcome := some outcome }).SingleUse := by
  have entries_self : world.entriesOf txn = [] := by
    rw [World.entriesOf, List.filter_eq_nil_iff]
    intro entry member
    have silent := single.silent txn running.not_committed entry member
    simp [silent]
  have entries_after (other : Txn) : (world.publish txn).entriesOf other =
      world.entriesOf other ++
        if txn = other then [(txn, world.tokens.effects txn)] else [] := by
    change (world.tokens.log ++ [(txn, world.tokens.effects txn)]).filter (·.1 = other) = _
    rw [List.filter_append, World.entriesOf]
    by_cases mine : txn = other
    · simp [mine]
    · simp [mine]
  have rotates_after {other : Txn} {token : TokenHash}
      (rotates : ((world.publish txn).record txn
        { task with outcome := some outcome }).Rotates token other) :
      (other = txn ∧ ∃ oldJti, task.call = .refreshTokens token oldJti) ∨
        other ≠ txn ∧ world.Rotates token other := by
    by_cases mine : other = txn
    · subst mine
      obtain ⟨now, oldJti, known, presents, _⟩ := rotates
      rw [World.record_tasks_self] at known
      cases known
      exact .inl ⟨rfl, oldJti, presents⟩
    · exact .inr ⟨mine, (rotates_record_other mine).mp rotates⟩
  have finished {token : TokenHash} {oldJti : Option Jti}
      (presents : task.call = .refreshTokens token oldJti) :
      world.Rotating txn token .inserted := by
    have rotating := single.rotating txn task token oldJti running presents
    cases stage : task.stage with
    | granted =>
        rw [stage] at rotating
        exact rotating
    | finished =>
        rw [stage] at rotating
        exact rotating.elim
    | revoking =>
        rw [stage] at rotating
        exact rotating.elim
    | _ =>
        rw [stage] at complete
        cases complete
  refine ⟨?_, ?_, ?_, ?_⟩
  · intro other none_committed entry member
    rcases List.mem_append.mp member with old | new
    · by_cases mine : other = txn
      · rw [mine]
        exact single.silent txn running.not_committed entry old
      · exact single.silent other (fun before =>
          none_committed ((committed_record_other mine).mpr before)) entry old
    · rw [List.mem_singleton.mp new]
      rintro rfl
      exact none_committed ⟨_, World.record_tasks_self, outcome, rfl, done⟩
  · intro other now token oldJti opened presents
    obtain ⟨differ, before⟩ := World.open_record_over rfl opened
    exact (single.rotating other now token oldJti before presents).published differ
  · intro other token rotates
    rcases rotates_after rotates with ⟨rfl, oldJti, presents⟩ | ⟨differ, before⟩
    · obtain ⟨_, sees, rotation⟩ := finished presents
      refine ⟨sees, world.tokens.effects other, ?_, rotation⟩
      change (world.publish other).entriesOf other = _
      rw [entries_after, entries_self, if_pos rfl]
      rfl
    · obtain ⟨revoked, effects, entries, rotation⟩ := single.rotated other token before
      refine ⟨World.Revoked.seen orderly revoked, effects, ?_, rotation⟩
      change (world.publish txn).entriesOf other = _
      rw [entries_after, if_neg (Ne.symm differ), List.append_nil]
      exact entries
  · intro first second token rotates rotates'
    have conflict {other : Txn} {oldJti : Option Jti}
        (presents : task.call = .refreshTokens token oldJti)
        (before : world.Rotates token other) : False :=
      World.Holds.not_revoked (finished presents).1 (single.rotated other token before).1
    rcases rotates_after rotates with ⟨rfl, _, presents⟩ | ⟨_, before⟩
    · rcases rotates_after rotates' with ⟨rfl, _⟩ | ⟨_, before⟩
      · rfl
      · exact (conflict presents before).elim
    · rcases rotates_after rotates' with ⟨rfl, _, presents⟩ | ⟨_, before'⟩
      · exact (conflict presents before).elim
      · exact single.once first second token before before'

theorem World.SingleUse.initial (fresh : world.Fresh) : world.SingleUse := by
  have none_known {txn : Txn} {task : Task} (known : world.tasks txn = some task) : False := by
    rw [fresh.tasks] at known
    cases known
  refine ⟨?_, ?_, ?_, ?_⟩
  · intro txn _ entry member
    rw [fresh.tokens] at member
    cases member
  · intro txn task token oldJti opened
    exact (none_known opened.1).elim
  · rintro txn token ⟨task, _, known, _⟩
    exact (none_known known).elim
  · rintro txn other token ⟨task, _, known, _⟩
    exact (none_known known).elim

theorem World.SingleUse.step (orderly : world.Orderly) (single : world.SingleUse)
    (stepped : world.Stepped directory accessTtl label next) : next.SingleUse := by
  cases stepped with
  | tick seconds => exact ⟨single.silent, single.rotating, single.rotated, single.once⟩
  | @begin_ txn new call =>
      have not_known {task : Task} (known : world.tasks txn = some task) : False := by
        rw [new] at known
        cases known
      have untouched : world.tokens.effects txn = [] :=
        orderly.idle txn fun task opened => not_known opened.1
      refine single.uncommitted ?_ rfl rfl rfl ?_ (fun _ _ _ _ rotating => rotating) ?_
      · rintro ⟨task, known, _⟩
        exact not_known known
      · rintro ⟨_, ended, _⟩
        cases ended
      · intro token oldJti _ _
        exact untouched
  | @ran txn task running choice stage action after planned accepted performed =>
      have undisturbed := World.perform_tokens performed
      refine single.uncommitted running.not_committed undisturbed.log undisturbed.slot
        (World.perform_tasks performed) ?_ ?_ ?_
      · rintro ⟨_, ended, _⟩
        rw [running.2] at ended
        cases ended
      · intro other progress token differ rotating
        exact rotating.beside undisturbed differ
      · intro token oldJti _ presents
        have rotating := single.rotating txn task token oldJti running presents
        exact rotating.ran orderly running presents planned accepted performed
  | @failed txn task running label stage =>
      have undisturbed : Ledger.Undisturbed txn world.tokens (world.rollback txn).tokens :=
        .rollback world.tokens txn
      refine single.uncommitted running.not_committed rfl rfl rfl ?_ ?_ ?_
      · rintro ⟨_, ended, raised⟩
        cases ended
        cases raised
      · intro other progress token differ rotating
        exact rotating.beside undisturbed differ
      · intro token oldJti ended
        cases ended
  | committed running arrived complete outcome done =>
      exact single.committed orderly running complete done

theorem reachable_singleUse (reached : (flows directory accessTtl).Reachable world) :
    world.SingleUse := by
  refine reached.invariant ?_ ?_
  · intro state fresh
    exact .initial fresh
  · intro before next label reached single _ taken
    exact single.step (reachable_orderly reached) (World.step_stepped taken)

/-- While the token is revoked, no refresh that presents it can commit. -/
theorem World.Revoked.no_rotation (orderly : world.Orderly) (single : world.SingleUse)
    (revoked : world.Revoked token) (before : ¬ world.Rotates token txn)
    (stepped : world.Stepped directory accessTtl label next) : ¬ next.Rotates token txn := by
  intro rotates
  have now_single := single.step orderly stepped
  cases stepped with
  | tick => exact before rotates
  | @begin_ other new call =>
      by_cases mine : txn = other
      · subst mine
        exact committed_record_self rfl rotates.committed
      · exact before ((rotates_record_other mine).mp rotates)
  | @ran other task running choice stage action after planned accepted performed =>
      by_cases mine : txn = other
      · subst mine
        have still : ({ task with stage := stage } : Task).outcome = none := running.2
        exact committed_record_self still rotates.committed
      · rw [rotates_record_other mine, World.Rotates, World.perform_tasks performed] at rotates
        exact before rotates
  | @failed other task running label stage =>
      by_cases mine : txn = other
      · subst mine
        obtain ⟨now, _, known, _, outcome, ended, raised⟩ := rotates
        rw [World.record_tasks_self] at known
        cases known
        cases ended
        cases raised
      · exact before ((rotates_record_other mine).mp rotates)
  | @committed other task running fate arrived complete outcome done =>
      by_cases mine : txn = other
      · subst mine
        obtain ⟨now, oldJti, known, presents, _⟩ := rotates
        rw [World.record_tasks_self] at known
        cases known
        have rotating := single.rotating txn task token oldJti running presents
        have past : task.stage.progress ≠ .untouched := by
          intro untouched
          cases stage : task.stage with
          | begun =>
              rw [stage] at complete
              cases complete
          | _ =>
              rw [stage] at untouched
              cases untouched
        exact World.Holds.not_revoked (rotating.held past) revoked
      · exact before ((rotates_record_other mine).mp rotates)

end

/-- The logouts that present the token and whose caller is shown the rows of its user. -/
def LogsOut (directory : Directory) (call : Call) (token : TokenHash) (user : UserId) : Prop :=
  ∃ jti caller, call = .logout jti token caller ∧ directory.sees caller user = true

/-- The calls whose commit ends a token: a logout that covers it, and a mass revocation of
its user that has run its UPDATE. -/
def Ends (directory : Directory) (task : Task) (token : TokenHash) (user : UserId) : Prop :=
  LogsOut directory task.call token user ∨
    (∃ rows jtis calls, task.stage = .revoking rows jtis calls) ∧
      user ∈ task.call.covers directory

namespace World

/-- How far a call that ends the token has got with its row. -/
def Ending (world : World) (directory : Directory) (txn : Txn) (token : TokenHash)
    (user : UserId) (task : Task) : Stage → Prop
  | .found record => LogsOut directory task.call token user →
      record = some token ∨ world.SeesRevoked txn token
  | .finished => LogsOut directory task.call token user → world.SeesRevoked txn token
  | .sweeping _ todo _ => user ∈ task.call.covers directory →
      token ∈ todo ∨ world.SeesRevoked txn token
  | .revoking _ _ _ => user ∈ task.call.covers directory → world.SeesRevoked txn token
  | _ => True

/-- The row of a token that existed when the run of these states began, and every call that
started since and ends it. -/
structure Expiring (world : World) (directory : Directory) (token : TokenHash) (user : UserId)
    (since : World) : Prop where
  row : ∃ row, world.tokens.table.slot token = .live row ∧ row.userId = user
  ending : ∀ txn task, since.tasks txn = none → world.Open txn task →
    world.Ending directory txn token user task task.stage
  ended : ∀ txn task, since.tasks txn = none → world.tasks txn = some task → task.Committed →
    Ends directory task token user → world.Revoked token

end World

section

variable {directory : Directory} {accessTtl : Seconds} {world after next since : World}
  {label : Label} {txn other : Txn} {task : Task} {token : TokenHash} {user : UserId}
  {action : Action}

theorem World.SeesRevoked.transfer (sees : world.SeesRevoked txn token)
    (view : ∀ row, world.tokens.view txn token = .live row →
      ∃ seen, after.tokens.view txn token = .live seen ∧ row.Ages seen) :
    after.SeesRevoked txn token := by
  obtain ⟨row, visible, revoked⟩ := sees
  obtain ⟨seen, visible, ages⟩ := view row visible
  exact ⟨seen, visible, ages.revokes revoked⟩

/-- No statement takes a revocation back, in the eyes of any transaction. -/
theorem World.SeesRevoked.performed (sees : world.SeesRevoked other token)
    (performed : world.perform txn action = some after) (accepted : action ≠ .refuse) :
    after.SeesRevoked other token :=
  sees.transfer fun _ visible => World.perform_view performed accepted visible

/-- Nor does the commit of another transaction. -/
theorem World.SeesRevoked.published (orderly : world.Orderly)
    (sees : world.SeesRevoked other token) (differ : other ≠ txn) :
    (world.publish txn).SeesRevoked other token :=
  sees.transfer fun _ visible => orderly.view_published visible differ

theorem World.Ending.transfer {stage : Stage}
    (ending : world.Ending directory txn token user task stage)
    (sees : world.SeesRevoked txn token → after.SeesRevoked txn token) :
    after.Ending directory txn token user task stage := by
  cases stage with
  | found record => exact fun logout => (ending logout).imp id sees
  | finished => exact fun logout => sees (ending logout)
  | sweeping rows todo at_ => exact fun covered => (ending covered).imp id sees
  | revoking => exact fun covered => sees (ending covered)
  | _ => exact ending

/-- A row that an UPDATE of the covered users has visited is revoked. -/
theorem World.sweep_seesRevoked {users : List UserId} {at_ : Seconds} {row : RefreshToken}
    (visible : world.tokens.view txn token = .live row) (covered : row.userId ∈ users)
    (performed : world.perform txn (.sweep token users at_) = some after) :
    after.SeesRevoked txn token := by
  obtain ⟨⟨tokens, hit⟩, updated, rfl⟩ := Option.map_eq_some_iff.mp performed
  rcases Ledger.update_some updated with ⟨-, rfl, missed⟩ | ⟨-, written⟩
  · rw [visible] at missed
    have revoked : row.unrevoked = false := by
      by_contra still
      simp [Effect.apply, RowAction.act, RefreshToken.covered, covered, still] at missed
    exact ⟨row, visible, revoked⟩
  · obtain ⟨slot, applied, views⟩ := Ledger.view_write written
    obtain ⟨old, new, _, acted, rfl⟩ := Effect.apply_change_some.mp applied
    refine ⟨new, ?_, ?_⟩
    · rw [views, Function.update_self, Function.update_self]
    · simp only [RowAction.act] at acted
      split at acted
      next => cases acted; rfl
      next => cases acted

/-- Every statement of a call that ends the token brings the revocation nearer. -/
theorem World.Ending.ran (orderly : world.Orderly) (running : world.Open txn task)
    (row : ∃ row, world.tokens.table.slot token = .live row ∧ row.userId = user)
    (ending : world.Ending directory txn token user task task.stage) {choice : Choice}
    {stage : Stage}
    (planned : Planned directory accessTtl world txn task.call task.startedAt choice task.stage
      stage action)
    (accepted : action ≠ .refuse) (performed : world.perform txn action = some after) :
    after.Ending directory txn token user task stage := by
  have fits := orderly.fits txn task running
  obtain ⟨row, committed, owner⟩ := row
  obtain ⟨seen, visible, ages⟩ :
      ∃ seen, world.tokens.view txn token = .live seen ∧ row.Ages seen :=
    orderly.view_live committed
  have keeps (sees : world.SeesRevoked txn token) : after.SeesRevoked txn token :=
    sees.performed performed accepted
  have not_logout (changes : task.call.isChange = true)
      (logout : LogsOut directory task.call token user) : False := by
    obtain ⟨_, _, same, _⟩ := logout
    rw [same] at changes
    cases changes
  obtain ⟨call, startedAt, from_, outcome⟩ := task
  cases planned with
  | unchanged changes => exact fun logout => (not_logout changes logout).elim
  | find same =>
      rintro ⟨_, _, logout, _⟩
      rw [same] at logout
      cases logout
      exact .inl rfl
  | miss same unseen =>
      cases performed
      rintro ⟨_, _, logout, shows⟩
      rw [same] at logout
      cases logout
      rw [visible, Slot.satisfies_live, RefreshToken.shown, ages.userId, owner, shows,
        Bool.and_true] at unseen
      exact .inr ⟨seen, visible, unseen⟩
  | logoutNothing =>
      intro logout
      rcases ending logout with none_found | sees
      · cases none_found
      · exact keeps sees
  | logout found =>
      intro logout
      rcases ending logout with same | sees
      · cases same
        obtain ⟨tokens, written, rfl⟩ := Option.map_eq_some_iff.mp performed
        obtain ⟨slot, applied, views⟩ := Ledger.view_write written
        obtain ⟨old, new, _, acted, rfl⟩ := Effect.apply_change_some.mp applied
        cases acted
        refine ⟨{ old with revokedAt := some world.now }, ?_, rfl⟩
        rw [views, Function.update_self, Function.update_self]
      · exact keeps sees
  | flushUser _ next =>
      rcases next with rfl | ⟨rfl, _⟩
      · trivial
      · exact fun logout => (not_logout fits logout).elim
  | flushTenant next =>
      rcases next with rfl | rfl
      · trivial
      · exact fun logout => (not_logout fits logout).elim
  | snapshot =>
      cases performed
      intro covered
      cases now : seen.unrevoked with
      | false => exact .inr ⟨seen, visible, now⟩
      | true =>
          left
          refine List.mem_filter.mpr ⟨?_, ?_⟩
          · refine orderly.sound.listed.known token ?_
            rw [committed]
            simp
          · rw [visible]
            have covers : seen.userId ∈ call.covers directory := by
              rw [ages.userId, owner]
              exact covered
            simp [RefreshToken.covered, covers, now]
  | @sweep rows todo at_ visited member =>
      intro covered
      by_cases same : visited = token
      · subst same
        right
        refine World.sweep_seesRevoked visible ?_ performed
        rw [ages.userId, owner]
        exact covered
      · rcases ending covered with waiting | sees
        · exact .inl ((List.mem_erase_of_ne (Ne.symm same)).mpr waiting)
        · exact .inr (keeps sees)
  | swept =>
      intro covered
      rcases ending covered with waiting | sees
      · cases waiting
      · exact keeps sees
  | command => exact fun covered => keeps (ending covered)
  | refused => exact absurd rfl accepted
  | _ => trivial

theorem World.Expiring.begins {row : RefreshToken}
    (committed : world.tokens.table.slot token = .live row) :
    world.Expiring directory token row.userId world := by
  refine ⟨⟨row, committed, rfl⟩, ?_, ?_⟩
  · rintro txn task new ⟨known, _⟩
    rw [new] at known
    cases known
  · intro txn task new known
    rw [new] at known
    cases known

theorem World.Expiring.row_stepped (orderly : world.Orderly)
    (expiring : world.Expiring directory token user since)
    (stepped : world.Stepped directory accessTtl label next) :
    ∃ row, next.tokens.table.slot token = .live row ∧ row.userId = user := by
  obtain ⟨row, committed, owner⟩ := expiring.row
  rcases stepped.slot with same | ⟨txn, _, _, _, same⟩
  · rw [same]
    exact ⟨row, committed, owner⟩
  · rw [same]
    obtain ⟨seen, visible, ages⟩ :
        ∃ seen, world.tokens.view txn token = .live seen ∧ row.Ages seen :=
      orderly.view_live committed
    exact ⟨seen, visible, ages.userId.trans owner⟩

/-- The commit of a call that ends the token leaves it revoked. -/
theorem World.Expiring.ends (orderly : world.Orderly)
    (expiring : world.Expiring directory token user since) (new : since.tasks txn = none)
    (running : world.Open txn task)
    (complete : task.stage.complete (task.call.covers directory) = true)
    (ends : Ends directory task token user) : world.SeesRevoked txn token := by
  have ending := expiring.ending txn task new running
  have fits := orderly.fits txn task running
  rcases ends with covers | ⟨⟨rows, jtis, calls, stage⟩, covered⟩
  · have ⟨_, _, logout, _⟩ := covers
    cases stage : task.stage with
    | finished =>
        rw [stage] at ending
        exact ending covers
    | granted =>
        rw [stage, logout] at fits
        cases fits
    | revoking =>
        rw [stage, logout] at fits
        cases fits
    | _ =>
        rw [stage] at complete
        cases complete
  · rw [stage] at ending
    exact ending covered

theorem World.Expiring.step (orderly : world.Orderly)
    (expiring : world.Expiring directory token user since)
    (stepped : world.Stepped directory accessTtl label next) :
    next.Expiring directory token user since := by
  have row := expiring.row_stepped orderly stepped
  have revoked_kept (revoked : world.Revoked token) : next.Revoked token :=
    revoked.stepped orderly stepped
  cases stepped with
  | tick => exact ⟨row, expiring.ending, expiring.ended⟩
  | @begin_ txn _ call =>
      refine ⟨row, ?_, ?_⟩
      · intro other now new opened
        by_cases mine : other = txn
        · subst mine
          have same := World.open_record_self opened
          subst same
          trivial
        · exact expiring.ending other now new ((World.open_record_other mine).mp opened)
      · intro other now new known ended ends
        by_cases mine : other = txn
        · subst mine
          rw [World.record_tasks_self] at known
          cases known
          obtain ⟨_, outcome, _⟩ := ended
          cases outcome
        · rw [World.record_tasks_other mine] at known
          exact expiring.ended other now new known ended ends
  | @ran txn task running choice stage action after planned accepted performed =>
      have same_tasks := World.perform_tasks performed
      refine ⟨row, ?_, ?_⟩
      · intro other now new opened
        by_cases mine : other = txn
        · subst mine
          have same := World.open_record_self opened
          subst same
          have before := expiring.ending other task new running
          have carried : after.Ending directory other token user task stage :=
            before.ran orderly running expiring.row planned accepted performed
          exact carried
        · rw [World.open_record_other mine, World.Open, same_tasks] at opened
          have before := expiring.ending other now new opened
          have kept : after.Ending directory other token user now now.stage :=
            before.transfer fun sees => sees.performed performed accepted
          exact kept
      · intro other now new known ended ends
        by_cases mine : other = txn
        · subst mine
          rw [World.record_tasks_self] at known
          cases known
          obtain ⟨_, outcome, _⟩ := ended
          rw [running.2] at outcome
          cases outcome
        · rw [World.record_tasks_other mine, same_tasks] at known
          exact revoked_kept (expiring.ended other now new known ended ends)
  | @failed txn task running label stage =>
      refine ⟨row, ?_, ?_⟩
      · intro other now new opened
        obtain ⟨differ, before⟩ := World.open_record_over rfl opened
        refine (expiring.ending other now new before).transfer ?_
        rintro ⟨seen, visible, revoked⟩
        refine ⟨seen, ?_, revoked⟩
        change (world.tokens.rollback txn).view other token = _
        rw [Ledger.view_rollback_other world.tokens differ]
        exact visible
      · intro other now new known ended ends
        by_cases mine : other = txn
        · subst mine
          rw [World.record_tasks_self] at known
          cases known
          obtain ⟨_, outcome, raised⟩ := ended
          cases outcome
          cases raised
        · rw [World.record_tasks_other mine] at known
          exact revoked_kept (expiring.ended other now new known ended ends)
  | @committed txn task running fate arrived complete outcome done =>
      refine ⟨row, ?_, ?_⟩
      · intro other now new opened
        obtain ⟨differ, before⟩ := World.open_record_over rfl opened
        have ending := expiring.ending other now new before
        exact ending.transfer fun sees => sees.published orderly differ
      · intro other now new known ended ends
        by_cases mine : other = txn
        · subst mine
          rw [World.record_tasks_self] at known
          cases known
          exact expiring.ends orderly new running complete ends
        · rw [World.record_tasks_other mine] at known
          exact revoked_kept (expiring.ended other now new known ended ends)

/-- A call that ends the token, and that began when its row existed, has revoked it once it
is committed. -/
theorem ended_revoked (orderly : world.Orderly) {labels : List Label} {last : World}
    (run : (flows directory accessTtl).exec world labels = some last) {row : RefreshToken}
    (committed : world.tokens.table.slot token = .live row) (new : world.tasks txn = none)
    (known : last.tasks txn = some task) (ended : task.Committed)
    (ends : Ends directory task token row.userId) : last.Revoked token := by
  have kept := Machine.exec_preserves
    (fun state => state.Orderly ∧ state.Expiring directory token row.userId world)
    ?_ ⟨orderly, .begins committed⟩ run
  · exact kept.2.ended txn task new known ended ends
  · rintro state next label ⟨orderly, expiring⟩ taken
    have stepped := World.step_stepped taken
    exact ⟨orderly.step stepped, expiring.step orderly stepped⟩

theorem revoked_not_rotated (orderly : world.Orderly) (single : world.SingleUse)
    (revoked : world.Revoked token) {labels : List Label} {last : World}
    (run : (flows directory accessTtl).exec world labels = some last)
    (before : ¬ world.Rotates token txn) :
    last.Revoked token ∧ ¬ last.Rotates token txn := by
  have kept := Machine.exec_preserves
    (fun state => state.Orderly ∧ state.SingleUse ∧ state.Revoked token ∧
      ¬ state.Rotates token txn)
    ?_ ⟨orderly, single, revoked, before⟩ run
  · exact kept.2.2
  · rintro state next label ⟨orderly, single, revoked, before⟩ taken
    have stepped := World.step_stepped taken
    exact ⟨orderly.step stepped, single.step orderly stepped, revoked.stepped orderly stepped,
      revoked.no_rotation orderly single before stepped⟩

end

/-- Two refreshes present one token: the first holds the row, so the second finds nothing. -/
def competingRefreshes : List Label :=
  loginRun 0 "a" 100 [] ++
    [.begin_ 1 (.refreshTokens 100 (some "a")), .begin_ 2 (.refreshTokens 100 none),
      .run 1 .none, .run 2 .none] ++
    List.replicate 8 (.run 1 .none) ++ [.run 1 (.jti "b"), .run 1 .none, .run 1 (.token 101),
      .commit 1 .ok]

end Auth
