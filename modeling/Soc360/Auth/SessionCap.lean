import Soc360.Auth.Transactions

set_option autoImplicit false

namespace Auth

/-- The user whose advisory lock a call holds at a stage. -/
def Stage.holder : Stage → Option UserId
  | .locked grant => some grant.userId
  | .flushed grant => some grant.userId
  | .full grant => some grant.userId
  | .room grant _ => some grant.userId
  | .added grant _ _ _ => some grant.userId
  | .inserting grant _ => some grant.userId
  | .granted grant _ => some grant.userId
  | _ => none

/-- How many active tokens of its user a call may see, not counting the evicted one. -/
def Stage.bound : Stage → Option (UserId × Option TokenHash × Nat)
  | .room grant evicted => some (grant.userId, evicted.map (·.1), maxActiveSessions - 1)
  | .added grant evicted _ _ => some (grant.userId, evicted.map (·.1), maxActiveSessions - 1)
  | .inserting grant _ => some (grant.userId, none, maxActiveSessions - 1)
  | .granted grant _ => some (grant.userId, none, maxActiveSessions)
  | _ => none

namespace World

/-- The unrevoked and unexpired refresh tokens of a user in the committed rows. -/
def activeTokens (world : World) (user : UserId) : Nat :=
  world.tokens.table.count (RefreshToken.activeOf world.now user)

/-- The same in the eyes of a transaction, without one token. -/
def activeBut (world : World) (txn : Txn) (user : UserId) (except : Option TokenHash) : Nat :=
  world.tokens.table.keys.countP fun token =>
    (world.tokens.view txn token).satisfies (RefreshToken.activeOf world.now user) &&
      decide (except ≠ some token)

/-- The session cap: at most the maximum is committed, and a call that holds its user's
advisory lock has made room for the token it adds. -/
structure Capped (world : World) : Prop where
  cap : ∀ user, world.activeTokens user ≤ maxActiveSessions
  held : ∀ txn task user, world.Open txn task → task.stage.holder = some user →
    world.sessionLock user = some txn
  room : ∀ txn task user except bound, world.Open txn task →
    task.stage.bound = some (user, except, bound) → world.activeBut txn user except ≤ bound

end World

/-- The eviction query returns a token that has not expired. -/
def EvictsActive (world : World) : Label → Prop
  | .run txn (.oldest (some token)) =>
      (world.tokens.view txn token).satisfies
        (fun row => decide (world.now < row.expiresAt)) = true
  | _ => True

instance (world : World) : ∀ label, Decidable (EvictsActive world label)
  | .run _ (.oldest (some _)) => inferInstanceAs (Decidable (_ = true))
  | .run _ (.oldest none) => .isTrue trivial
  | .run _ .none => .isTrue trivial
  | .run _ (.jti _) => .isTrue trivial
  | .run _ (.token _) => .isTrue trivial
  | .run _ (.row _) => .isTrue trivial
  | .run _ (.user _) => .isTrue trivial
  | .run _ (.command _ _) => .isTrue trivial
  | .tick _ => .isTrue trivial
  | .begin_ _ _ => .isTrue trivial
  | .commit _ _ => .isTrue trivial
  | .abort _ => .isTrue trivial

section

variable {directory : Directory} {accessTtl : Seconds} {world after next : World} {label : Label}
  {txn other : Txn} {task : Task} {user : UserId} {token : TokenHash} {action : Action}

theorem satisfies_activeOf {slot : Slot RefreshToken} {now : Seconds} :
    slot.satisfies (RefreshToken.activeOf now user) = true ↔
      ∃ row, slot = .live row ∧ row.userId = user ∧ row.unrevoked = true ∧
        now < row.expiresAt := by
  rw [Slot.satisfies_iff]
  simp [RefreshToken.activeOf, RefreshToken.active]

theorem activeOf_earlier {row : RefreshToken} {now later : Seconds} (passes : now ≤ later)
    (active : row.activeOf later user = true) : row.activeOf now user = true := by
  simp only [RefreshToken.activeOf, RefreshToken.active, Bool.and_eq_true,
    decide_eq_true_eq] at active ⊢
  have unexpired : now < row.expiresAt := Nat.lt_of_le_of_lt passes active.2.2
  exact ⟨active.1, active.2.1, unexpired⟩

theorem World.Orderly.view_active (orderly : world.Orderly) {now : Seconds}
    (grants : ¬ world.Grants txn user)
    (active : (world.tokens.view txn token).satisfies (RefreshToken.activeOf now user) = true) :
    (world.tokens.table.slot token).satisfies (RefreshToken.activeOf now user) = true := by
  obtain ⟨seen, visible, matching⟩ := Slot.satisfies_iff.mp active
  have owner : seen.userId = user := by
    simp only [RefreshToken.activeOf, Bool.and_eq_true, beq_iff_eq] at matching
    exact matching.1
  obtain ⟨row, committed, ages⟩ := orderly.view_committed visible (by rw [owner]; exact grants)
  rw [committed]
  exact ages.activeOf matching

theorem World.listed_of_active (orderly : world.Orderly) {matching : RefreshToken → Bool}
    (satisfied : (world.tokens.view txn token).satisfies matching = true) :
    token ∈ world.tokens.table.keys := by
  obtain ⟨row, visible, _⟩ := Slot.satisfies_iff.mp satisfied
  refine orderly.sound.known txn token ?_
  rw [visible]
  simp

theorem World.activeBut_le {except excepted : Option TokenHash} (orderly : world.Orderly)
    (distinct : after.tokens.table.keys.Nodup)
    (before : ∀ token, (after.tokens.view txn token).satisfies
        (RefreshToken.activeOf after.now user) = true → except ≠ some token →
      (world.tokens.view txn token).satisfies (RefreshToken.activeOf world.now user) = true ∧
        excepted ≠ some token) :
    after.activeBut txn user except ≤ world.activeBut txn user excepted := by
  refine List.countP_le_of_subset distinct ?_
  intro token _ counted
  rw [Bool.and_eq_true, decide_eq_true_eq] at counted
  obtain ⟨active, kept⟩ := before token counted.1 counted.2
  refine ⟨World.listed_of_active orderly active, ?_⟩
  rw [Bool.and_eq_true, decide_eq_true_eq]
  exact ⟨active, kept⟩

theorem World.activeTokens_le (orderly : world.Orderly)
    (distinct : after.tokens.table.keys.Nodup)
    (before : ∀ token, (after.tokens.table.slot token).satisfies
        (RefreshToken.activeOf after.now user) = true →
      (world.tokens.table.slot token).satisfies (RefreshToken.activeOf world.now user) = true) :
    after.activeTokens user ≤ world.activeTokens user := by
  refine List.countP_le_of_subset distinct ?_
  intro token _ counted
  have active := before token counted
  refine ⟨?_, active⟩
  obtain ⟨row, committed, _⟩ := Slot.satisfies_iff.mp active
  refine orderly.sound.listed.known token ?_
  rw [committed]
  simp

/-- A transaction that grants nothing sees no more active tokens than are committed. -/
theorem World.activeBut_le_activeTokens (orderly : world.Orderly)
    (grants : ¬ world.Grants txn user) (except : Option TokenHash) :
    world.activeBut txn user except ≤ world.activeTokens user := by
  refine List.countP_le_of_subset orderly.sound.listed.nodup ?_
  intro token member counted
  rw [Bool.and_eq_true] at counted
  exact ⟨member, orderly.view_active grants counted.1⟩

/-- Only one call at a time is between the advisory lock and its commit. -/
theorem World.Capped.not_grants (capped : world.Capped)
    (held : world.sessionLock user = some other) (differ : other ≠ txn) :
    ¬ world.Grants txn user := by
  rintro ⟨task, grant, token, opened, granted, rfl⟩
  have mine := capped.held txn task grant.userId opened (by rw [granted]; rfl)
  rw [held] at mine
  exact differ (Option.some.inj mine)

theorem not_grants_of_stage (opened : world.Open txn task)
    (stage : ∀ grant token, task.stage ≠ .granted grant token) : ¬ world.Grants txn user := by
  rintro ⟨other, grant, token, known, granted, _⟩
  have same : task = other := Option.some.inj (opened.1.symm.trans known.1)
  exact stage grant token (by rw [same]; exact granted)

theorem World.Capped.initial (fresh : world.Fresh) : world.Capped := by
  have none_open (txn : Txn) (task : Task) : ¬ world.Open txn task := by
    rintro ⟨known, _⟩
    rw [fresh.tasks] at known
    cases known
  refine ⟨?_, ?_, ?_⟩
  · intro user
    rw [World.activeTokens, fresh.tokens]
    exact Nat.zero_le _
  · intro txn task user opened
    exact absurd opened (none_open txn task)
  · intro txn task user except bound opened
    exact absurd opened (none_open txn task)

theorem World.Capped.tick (orderly : world.Orderly) (capped : world.Capped) (seconds : Seconds) :
    (world.elapse seconds).Capped := by
  have sound : (world.elapse seconds).tokens.Sound := orderly.sound
  have passes : world.now ≤ world.now + seconds := Nat.le_add_right _ _
  have earlier (slot : Slot RefreshToken) (user : UserId)
      (active : slot.satisfies (RefreshToken.activeOf (world.now + seconds) user) = true) :
      slot.satisfies (RefreshToken.activeOf world.now user) = true := by
    obtain ⟨row, same, matching⟩ := Slot.satisfies_iff.mp active
    rw [same]
    exact activeOf_earlier passes matching
  refine ⟨?_, capped.held, ?_⟩
  · intro user
    refine Nat.le_trans (World.activeTokens_le orderly sound.listed.nodup ?_)
      (capped.cap user)
    intro token active
    exact earlier _ user active
  · intro txn task user except bound opened held
    have fewer : (world.elapse seconds).activeBut txn user except ≤
        world.activeBut txn user except := by
      apply World.activeBut_le orderly sound.listed.nodup
      intro token active kept
      exact ⟨earlier _ user active, kept⟩
    exact Nat.le_trans fewer (capped.room txn task user except bound opened held)

theorem activeBut_none : world.activeBut txn user none = world.activeCount txn user := by
  simp [World.activeBut, World.activeCount, Ledger.count]

/-- A statement or a rollback of one transaction leaves the counts of every other. -/
theorem activeBut_beside (orderly : world.Orderly) (sound : after.tokens.Sound)
    (undisturbed : Ledger.Undisturbed txn world.tokens after.tokens)
    (same_now : after.now = world.now) (differ : other ≠ txn) (except : Option TokenHash) :
    after.activeBut other user except ≤ world.activeBut other user except := by
  apply World.activeBut_le orderly sound.listed.nodup
  intro token active kept
  rw [undisturbed.view other differ, same_now] at active
  exact ⟨active, kept⟩

theorem activeTokens_beside (orderly : world.Orderly) (sound : after.tokens.Sound)
    (undisturbed : Ledger.Undisturbed txn world.tokens after.tokens)
    (same_now : after.now = world.now) :
    after.activeTokens user ≤ world.activeTokens user := by
  apply World.activeTokens_le orderly sound.listed.nodup
  intro token active
  rw [undisturbed.slot, same_now] at active
  exact active

/-- The eviction query leaves room for one token: it finds nothing unrevoked, or one of the
active tokens is the one to go. -/
theorem room_of_oldest {oldest : Option TokenHash} (orderly : world.Orderly)
    (below : world.activeBut txn user none ≤ maxActiveSessions)
    (chosen : world.isOldest txn user oldest = true)
    (active : ∀ token, oldest = some token →
      (world.tokens.view txn token).satisfies
        (fun row => decide (world.now < row.expiresAt)) = true) :
    world.activeBut txn user oldest ≤ maxActiveSessions - 1 := by
  cases oldest with
  | none =>
      have empty : world.activeBut txn user none = 0 := by
        rw [World.activeBut, List.countP_eq_zero]
        intro token member counted
        rw [Bool.and_eq_true] at counted
        obtain ⟨row, visible, owner, unrevoked, _⟩ := satisfies_activeOf.mp counted.1
        have nothing := List.all_eq_true.mp chosen token member
        simp [visible, RefreshToken.unrevokedOf, owner, unrevoked] at nothing
      rw [empty]
      exact Nat.zero_le _
  | some token =>
      obtain ⟨row, visible, unexpired⟩ := Slot.satisfies_iff.mp (active token rfl)
      simp only [World.isOldest, visible, RefreshToken.unrevokedOf, Bool.and_eq_true,
        beq_iff_eq] at chosen
      have counted : (world.tokens.view txn token).satisfies
          (RefreshToken.activeOf world.now user) = true :=
        satisfies_activeOf.mpr
          ⟨row, visible, chosen.1.1, chosen.1.2, of_decide_eq_true unexpired⟩
      have member := World.listed_of_active orderly counted
      have distinct := orderly.sound.listed.nodup
      have fewer : world.activeBut txn user (some token) ≤
          (world.tokens.table.keys.erase token).countP fun key =>
            (world.tokens.view txn key).satisfies (RefreshToken.activeOf world.now user) &&
              decide (none ≠ some key) := by
        apply List.countP_le_of_subset distinct
        intro key inside kept
        rw [Bool.and_eq_true, decide_eq_true_eq] at kept
        have differ : key ≠ token := fun same => kept.2 (by rw [same])
        refine ⟨(List.mem_erase_of_ne differ).mpr inside, ?_⟩
        simp [kept.1]
      have erased := List.countP_erase (fun key =>
        (world.tokens.view txn key).satisfies (RefreshToken.activeOf world.now user) &&
          decide (none ≠ some key)) world.tokens.table.keys token
      have here : token ∈ world.tokens.table.keys ∧
          ((world.tokens.view txn token).satisfies (RefreshToken.activeOf world.now user) &&
            decide (none ≠ some token)) = true := by
        simp [member, counted]
      rw [if_pos here] at erased
      rw [erased] at fewer
      exact Nat.le_trans fewer (Nat.sub_le_sub_right below 1)

theorem World.perform_advisory (performed : world.perform txn (.advisory user) = some after) :
    after.sessionLock user = some txn := by
  simp only [World.perform] at performed
  split at performed
  next => cases performed; exact Function.update_self ..
  next => cases performed

theorem World.Capped.own_held (capped : world.Capped) (running : world.Open txn task)
    {choice : Choice} {stage : Stage}
    (planned : Planned directory accessTtl world txn task.call task.startedAt choice task.stage
      stage action)
    (accepted : action ≠ .refuse) (performed : world.perform txn action = some after)
    (holds : stage.holder = some user) : after.sessionLock user = some txn := by
  obtain ⟨call, startedAt, from_, outcome⟩ := task
  have keeps (held : from_.holder = some user) : after.sessionLock user = some txn :=
    World.perform_sessionLock performed accepted (capped.held txn _ user running held)
  cases planned with
  | lockSession => cases holds; exact World.perform_advisory performed
  | advisory => cases holds; exact World.perform_advisory performed
  | rotate => exact keeps holds
  | touch => exact keeps holds
  | full => exact keeps holds
  | room => exact keeps holds
  | pick => exact keeps holds
  | add => exact keeps holds
  | createNext => exact keeps holds
  | revokeOld => exact keeps holds
  | untrackOld => exact keeps holds
  | trackNew => exact keeps holds
  | keep => exact keeps holds
  | evict => exact keeps holds
  | insert => exact keeps holds
  | flushUser covers next => rcases next with rfl | ⟨rfl, _⟩ <;> cases holds
  | flushTenant next => rcases next with rfl | rfl <;> cases holds
  | _ => cases holds

theorem World.Capped.own_room (orderly : world.Orderly) (capped : world.Capped)
    (running : world.Open txn task) {choice : Choice} {stage : Stage}
    (planned : Planned directory accessTtl world txn task.call task.startedAt choice task.stage
      stage action)
    (performed : world.perform txn action = some after)
    (evicts : EvictsActive world (.run txn choice)) {except : Option TokenHash} {bound : Nat}
    (bounded : stage.bound = some (user, except, bound)) :
    after.activeBut txn user except ≤ bound := by
  have sound := World.perform_sound performed orderly.sound
  have same_now := World.perform_now performed
  obtain ⟨call, startedAt, from_, outcome⟩ := task
  have room (held : from_.bound = some (user, except, bound)) :
      world.activeBut txn user except ≤ bound :=
    capped.room txn _ user except bound running held
  cases planned with
  | room grant below =>
      cases performed
      cases bounded
      change world.activeBut txn grant.userId none ≤ _
      rw [activeBut_none]
      exact Nat.le_sub_one_of_lt below
  | pick grant chosen oldest =>
      cases performed
      cases bounded
      have grants : ¬ world.Grants txn grant.userId :=
        not_grants_of_stage running (fun _ _ same => by cases same)
      have below := Nat.le_trans (World.activeBut_le_activeTokens orderly grants none)
        (capped.cap grant.userId)
      have same_token (token : Option TokenHash) :
          (token.map (·, world.now)).map (·.1) = token := by
        cases token <;> rfl
      rw [same_token]
      refine room_of_oldest orderly below oldest ?_
      rintro token rfl
      subst chosen
      exact evicts
  | add =>
      cases performed
      exact room bounded
  | createNext =>
      cases performed
      exact room bounded
  | revokeOld _ _ _ _ _ acts =>
      rcases acts with rfl | rfl <;> cases performed <;> exact room bounded
  | untrackOld =>
      cases performed
      exact room bounded
  | trackNew =>
      cases performed
      exact room bounded
  | keep =>
      cases performed
      exact room bounded
  | evict grant token at_ row =>
      cases bounded
      have below := capped.room txn _ grant.userId (some token) _ running rfl
      refine Nat.le_trans (World.activeBut_le orderly sound.listed.nodup ?_) below
      intro key active _
      obtain ⟨tokens, written, rfl⟩ := Option.map_eq_some_iff.mp performed
      obtain ⟨slot, applied, views⟩ := Ledger.view_write written
      obtain ⟨old, new, _, acted, rfl⟩ := Effect.apply_change_some.mp applied
      cases acted
      change (tokens.view txn key).satisfies _ = true at active
      rw [views, Function.update_self] at active
      by_cases same : key = token
      · rw [same, Function.update_self] at active
        simp [RefreshToken.activeOf, RefreshToken.active, RefreshToken.unrevoked] at active
      · rw [Function.update_of_ne same] at active
        refine ⟨active, ?_⟩
        intro evicted
        exact same (Option.some.inj evicted).symm
  | insert grant row token =>
      cases bounded
      have below := capped.room txn _ grant.userId none _ running rfl
      obtain ⟨tokens, inserted, rfl⟩ := Option.map_eq_some_iff.mp performed
      obtain ⟨new, keys, _, _, views⟩ := Ledger.insert_some inserted
      have split_keys : World.activeBut { world with tokens := tokens } txn grant.userId none ≤
          world.activeBut txn grant.userId none + 1 := by
        rw [World.activeBut, keys, List.countP_cons]
        have rest : world.tokens.table.keys.countP (fun key =>
            (tokens.view txn key).satisfies (RefreshToken.activeOf world.now grant.userId) &&
              decide (none ≠ some key)) ≤ world.activeBut txn grant.userId none := by
          apply List.countP_le_of_subset orderly.sound.listed.nodup
          intro key member counted
          have differ : key ≠ token := fun same => new (by rw [← same]; exact member)
          rw [views, Function.update_self, Function.update_of_ne differ] at counted
          exact ⟨member, counted⟩
        split
        · exact Nat.add_le_add_right rest 1
        · exact Nat.le_trans rest (Nat.le_succ _)
      exact Nat.le_trans split_keys (Nat.succ_le_succ below)
  | flushUser covers next => rcases next with rfl | ⟨rfl, _⟩ <;> cases bounded
  | flushTenant next => rcases next with rfl | rfl <;> cases bounded
  | _ => cases bounded

theorem World.Capped.ran (orderly : world.Orderly) (capped : world.Capped)
    (running : world.Open txn task) {choice : Choice} {stage : Stage}
    (planned : Planned directory accessTtl world txn task.call task.startedAt choice task.stage
      stage action)
    (accepted : action ≠ .refuse) (performed : world.perform txn action = some after)
    (evicts : EvictsActive world (.run txn choice)) :
    (after.record txn { task with stage := stage }).Capped := by
  have sound := World.perform_sound performed orderly.sound
  have undisturbed := World.perform_tokens performed
  have same_now := World.perform_now performed
  have same_tasks := World.perform_tasks performed
  have before {other : Txn} {now : Task} (differ : other ≠ txn)
      (opened : (after.record txn { task with stage := stage }).Open other now) :
      world.Open other now := by
    rw [World.open_record_other differ, World.Open, same_tasks] at opened
    exact opened
  refine ⟨?_, ?_, ?_⟩
  · intro user
    exact Nat.le_trans (activeTokens_beside orderly sound undisturbed same_now)
      (capped.cap user)
  · intro other now user opened holds
    by_cases mine : other = txn
    · subst mine
      have same := World.open_record_self opened
      subst same
      change after.sessionLock user = some other
      exact World.Capped.own_held capped running planned accepted performed holds
    · have held := capped.held other now user (before mine opened) holds
      exact World.perform_sessionLock performed accepted held
  · intro other now user except bound opened bounded
    by_cases mine : other = txn
    · subst mine
      have same := World.open_record_self opened
      subst same
      change after.activeBut other user except ≤ bound
      exact World.Capped.own_room orderly capped running planned performed evicts bounded
    · exact Nat.le_trans (activeBut_beside orderly sound undisturbed same_now mine except)
        (capped.room other now user except bound (before mine opened) bounded)

theorem released_lock {lock : UserId → Option Txn} (held : lock user = some other)
    (differ : other ≠ txn) :
    (if lock user = some txn then none else lock user) = some other := by
  rw [held]
  simp [differ]

theorem World.Capped.failed (orderly : world.Orderly) (capped : world.Capped) (call : Call)
    (startedAt : Seconds) (stage : Stage) :
    ((world.rollback txn).record txn ⟨call, startedAt, stage, some .raised⟩).Capped := by
  have undisturbed : Ledger.Undisturbed txn world.tokens (world.rollback txn).tokens :=
    .rollback world.tokens txn
  have sound : (world.rollback txn).tokens.Sound := orderly.sound.rollback txn
  refine ⟨?_, ?_, ?_⟩
  · intro user
    exact Nat.le_trans
      (activeTokens_beside orderly sound undisturbed rfl)
      (capped.cap user)
  · intro other now user opened holds
    obtain ⟨differ, before⟩ := World.open_record_over rfl opened
    exact released_lock (capped.held other now user before holds) differ
  · intro other now user except bound opened bounded
    obtain ⟨differ, before⟩ := World.open_record_over rfl opened
    exact Nat.le_trans
      (activeBut_beside orderly sound undisturbed rfl differ except)
      (capped.room other now user except bound before bounded)

theorem World.Capped.committed (orderly : world.Orderly) (capped : world.Capped)
    (outcome : Outcome) :
    ((world.publish txn).record txn { task with outcome := some outcome }).Capped := by
  have sound : (world.publish txn).tokens.Sound := orderly.sound.commit txn
  refine ⟨?_, ?_, ?_⟩
  · intro user
    change (world.publish txn).activeTokens user ≤ maxActiveSessions
    by_cases grants : world.Grants txn user
    · obtain ⟨now, grant, token, opened, granted, rfl⟩ := grants
      have below := capped.room txn now grant.userId none maxActiveSessions opened
        (by rw [granted]; rfl)
      have same : (world.publish txn).activeTokens grant.userId =
          world.activeBut txn grant.userId none := by
        rw [activeBut_none]
        rfl
      rw [same]
      exact below
    · have fewer : (world.publish txn).activeTokens user ≤ world.activeTokens user := by
        apply World.activeTokens_le orderly sound.listed.nodup
        intro token active
        exact orderly.view_active grants active
      exact Nat.le_trans fewer (capped.cap user)
  · intro other now user opened holds
    obtain ⟨differ, before⟩ := World.open_record_over rfl opened
    exact released_lock (capped.held other now user before holds) differ
  · intro other now user except bound opened bounded
    obtain ⟨differ, before⟩ := World.open_record_over rfl opened
    refine Nat.le_trans ?_ (capped.room other now user except bound before bounded)
    change (world.publish txn).activeBut other user except ≤ _
    apply World.activeBut_le orderly sound.listed.nodup
    intro token active kept
    refine ⟨?_, kept⟩
    change ((world.tokens.commit txn).view other token).satisfies _ = true at active
    rw [Ledger.view_commit_other world.tokens differ] at active
    by_cases owned : world.tokens.owner token = some other
    · rw [if_pos owned] at active
      rw [Ledger.view_owned owned]
      exact active
    · rw [if_neg owned] at active
      rw [Ledger.view_foreign owned]
      -- The bound belongs to the holder of the lock, so the commit adds no token of its user.
      have holds : now.stage.holder = some user := by
        cases stage : now.stage <;> rw [stage] at bounded <;> cases bounded <;> rfl
      have held := capped.held other now user before holds
      exact orderly.view_active (capped.not_grants held differ) active

theorem World.Capped.step (orderly : world.Orderly) (capped : world.Capped)
    (evicts : EvictsActive world label)
    (stepped : world.Stepped directory accessTtl label next) : next.Capped := by
  cases stepped with
  | tick seconds => exact World.Capped.tick orderly capped seconds
  | begin_ new call =>
      rename_i txn _
      have before {other : Txn} {now : Task}
          (opened : (world.record txn ⟨call, world.now, .begun, none⟩).Open other now) :
          now.stage = .begun ∨ world.Open other now := by
        by_cases mine : other = txn
        · subst mine
          have same := World.open_record_self opened
          subst same
          exact .inl rfl
        · exact .inr ((World.open_record_other mine).mp opened)
      refine ⟨capped.cap, ?_, ?_⟩
      · intro other now user opened holds
        rcases before opened with begun | open_before
        · rw [begun] at holds
          cases holds
        · exact capped.held other now user open_before holds
      · intro other now user except bound opened bounded
        rcases before opened with begun | open_before
        · rw [begun] at bounded
          cases bounded
        · exact capped.room other now user except bound open_before bounded
  | ran running choice planned accepted performed =>
      exact World.Capped.ran orderly capped running planned accepted performed evicts
  | failed running => exact World.Capped.failed orderly capped _ _ _
  | committed running arrived complete outcome =>
      exact World.Capped.committed orderly capped outcome

/-- The session cap, in the runs where every eviction removes an unexpired token. -/
theorem session_cap (directory : Directory) (accessTtl : Seconds) {world : World}
    (reached : (flows directory accessTtl).ReachableBy EvictsActive world) (user : UserId) :
    world.activeTokens user ≤ maxActiveSessions := by
  have capped : world.Capped := by
    refine reached.invariant ?_ ?_
    · intro state fresh
      exact World.Capped.initial fresh
    · intro before next label reached capped evicts taken
      exact World.Capped.step (reachable_orderly reached.reachable) capped evicts
        (World.step_stepped taken)
  exact capped.cap user

end

/-- The sixth login evicts the first one. -/
def sixLogins : List Label :=
  loginRun 0 "a" 100 [] ++ loginRun 1 "b" 101 [] ++ loginRun 2 "c" 102 [] ++
    loginRun 3 "d" 103 [] ++ loginRun 4 "e" 104 [] ++ loginRun 5 "f" 105 [.oldest (some 100)]

theorem session_cap_evicting :
    ∃ world, (flows oneTenant 900).exec oneUser sixLogins = some world ∧
      world.activeTokens 1 ≤ maxActiveSessions := by
  have run : ∃ world, (flows oneTenant 900).exec oneUser sixLogins = some world := ⟨_, rfl⟩
  obtain ⟨world, run⟩ := run
  have allows : (flows oneTenant 900).Allows EvictsActive oneUser sixLogins := by
    decide +kernel
  have reached := Machine.ReachableBy.exec (.start (World.initial_fresh _ _)) allows run
  exact ⟨world, run, session_cap oneTenant 900 reached 1⟩

/-- The first token expires while four others are active. The next login still counts four,
the one after it counts five and evicts the expired token. -/
def expiredRun : List Label :=
  loginRun 0 "a" 100 [] ++ [.tick 604000] ++ loginRun 1 "b" 101 [] ++ loginRun 2 "c" 102 [] ++
    loginRun 3 "d" 103 [] ++ loginRun 4 "e" 104 [] ++ [.tick 800] ++ loginRun 5 "f" 105 [] ++
    loginRun 6 "g" 106 [.oldest (some 100)]

theorem session_cap_exceeded :
    ∃ world, (flows oneTenant 900).exec oneUser expiredRun = some world ∧
      world.activeTokens 1 = 6 ∧ ¬ world.activeTokens 1 ≤ maxActiveSessions :=
  ⟨_, rfl, by decide, by decide⟩

end Auth
