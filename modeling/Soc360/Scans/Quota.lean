import Soc360.Scans.AtMostOnce

set_option autoImplicit false

namespace Scans

/-- The UTC day of a time. -/
def day (time : Timestamp) : Nat := time / dayMicroseconds

/-- The rows `dispatch_scan` counts that were dispatched on one day. -/
def Scan.countedOn (tenantId : TenantId) (date : Nat) (scan : Scan) : Bool :=
  scan.tenantId == tenantId && scan.dispatchedAt.any (day · == date) &&
    !((scan.status == .failed || scan.status == .cancelled) && scan.startedAt.isNone)

theorem countedOn_counted {tenantId : TenantId} {now : Timestamp} {scan : Scan}
    (counted : scan.countedOn tenantId (day now) = true) :
    scan.counted tenantId (dayStart now) = true := by
  simp only [Scan.countedOn, Bool.and_eq_true] at counted
  simp only [Scan.counted, Bool.and_eq_true]
  refine ⟨⟨counted.1.1, ?_⟩, counted.2⟩
  cases dispatched : scan.dispatchedAt with
  | none => simp [dispatched] at counted
  | some time =>
      have same_day : day time = day now := by simpa [dispatched] using counted.1.2
      have split : dayStart now = day time * dayMicroseconds := by
        rw [same_day, dayStart, day]
      have below : dayStart now ≤ time := by
        rw [split]
        exact Nat.div_mul_le_self time dayMicroseconds
      rw [Option.any_some, decide_eq_true_eq]
      exact below

theorem countedOn_tenant {tenantId : TenantId} {date : Nat} {scan : Scan}
    (counted : scan.countedOn tenantId date = true) : scan.tenantId = tenantId := by
  simp only [Scan.countedOn, Bool.and_eq_true, beq_iff_eq] at counted
  exact counted.1.1

theorem countedOn_day {tenantId : TenantId} {date : Nat} {scan : Scan} {time : Timestamp}
    (dispatched : scan.dispatchedAt = some time)
    (counted : scan.countedOn tenantId date = true) : day time = date := by
  simp only [Scan.countedOn, Bool.and_eq_true, dispatched] at counted
  simpa using counted.1.2

/-- Only a dispatch brings a scan into the count of a day. -/
theorem act_counted {how : ScanChange} {scan after : Scan} {tenantId : TenantId} {date : Nat}
    (acted : RowAction.act how scan = some after)
    (other : isDispatch (.change how) = false)
    (counted : after.countedOn tenantId date = true) : scan.countedOn tenantId date = true := by
  have dispatched := act_undispatched acted other
  obtain ⟨matching, rfl⟩ := act_some.mp acted
  have same_tenant : (how.values scan).tenantId = scan.tenantId := by cases how <;> rfl
  simp only [Scan.countedOn, dispatched, same_tenant, Bool.and_eq_true] at counted ⊢
  refine ⟨counted.1, ?_⟩
  by_cases terminal : scan.status ∈ terminalStatuses
  · obtain ⟨columns, rfl⟩ := matching_terminal matching terminal
    exact counted.2
  · have failed : scan.status ≠ .failed := fun same => terminal (by rw [same]; decide)
    have cancelled : scan.status ≠ .cancelled := fun same => terminal (by rw [same]; decide)
    simp [failed, cancelled]

theorem effect_counted {effect : ScanEffect} {slot next : Slot Scan} {tenantId : TenantId}
    {date : Nat} (created : StartsPending effect) (other : isDispatch effect = false)
    (applied : effect.apply slot = some next)
    (counted : next.satisfies (Scan.countedOn tenantId date) = true) :
    slot.satisfies (Scan.countedOn tenantId date) = true := by
  cases effect with
  | insert scan =>
      obtain ⟨_, rfl⟩ := Effect.apply_insert_some.mp applied
      obtain ⟨data, owner, config, rfl⟩ := created scan rfl
      simp [Scan.countedOn, ScanCreate.row] at counted
  | delete =>
      obtain ⟨_, rfl⟩ := Effect.apply_delete_some.mp applied
      cases counted
  | change how =>
      obtain ⟨scan, after, rfl, acted, rfl⟩ := Effect.apply_change_some.mp applied
      exact act_counted acted other counted

/-- A scan belongs to one tenant for good. -/
def OfTenant (tenantId : TenantId) (slot : Slot Scan) : Prop :=
  slot ≠ .fresh ∧ ∀ scan, slot = .live scan → scan.tenantId = tenantId

theorem OfTenant.replay {tenantId : TenantId} {history : List ScanEffect} {slot last : Slot Scan}
    (owned : OfTenant tenantId slot) (replayed : Effect.replay history slot = some last) :
    OfTenant tenantId last := by
  induction history generalizing slot with
  | nil =>
      cases replayed
      exact owned
  | cons effect rest ih =>
      obtain ⟨middle, applied, replayed⟩ := Option.bind_eq_some_iff.mp replayed
      refine ih ⟨Effect.apply_ne_fresh applied, ?_⟩ replayed
      intro after live
      subst live
      cases effect with
      | insert scan => exact absurd (Effect.apply_insert_some.mp applied).1 owned.1
      | delete => cases (Effect.apply_delete_some.mp applied).2
      | change how =>
          obtain ⟨scan, _, before, acted, same⟩ := Effect.apply_change_some.mp applied
          cases same
          obtain ⟨_, rfl⟩ := act_some.mp acted
          rw [← owned.2 scan before]
          cases how <;> rfl

theorem Wrote.view_other {ledger next : ScanLedger} {txn other : Txn}
    {added : List (ScanId × ScanEffect)} (wrote : Wrote ledger txn next added)
    (differ : other ≠ txn) : next.view other = ledger.view other := by
  cases wrote with
  | nothing => rfl
  | lock scanId next locked => rw [Ledger.view_lock locked]
  | insert scanId data tenantId config next inserted =>
      unfold Ledger.insert at inserted
      split at inserted
      next => cases inserted
      next =>
        obtain ⟨slot, _, views⟩ := Ledger.view_write inserted
        rw [views, Function.update_of_ne differ]
        rfl
  | change scanId how next written =>
      obtain ⟨slot, _, views⟩ := Ledger.view_write written
      rw [views, Function.update_of_ne differ]
  | delete scanId next written =>
      obtain ⟨slot, _, views⟩ := Ledger.view_write written
      rw [views, Function.update_of_ne differ]

theorem write_view_self {ledger next : ScanLedger} {txn : Txn} {scanId : ScanId}
    {effect : ScanEffect} (written : ledger.write txn scanId effect = some next) (key : ScanId) :
    (key ≠ scanId ∧ next.view txn key = ledger.view txn key) ∨
      (key = scanId ∧ effect.apply (ledger.view txn key) = some (next.view txn key)) := by
  obtain ⟨slot, applied, views⟩ := Ledger.view_write written
  rw [views, Function.update_self]
  by_cases same : key = scanId
  · subst same
    rw [Function.update_self]
    exact .inr ⟨rfl, applied⟩
  · rw [Function.update_of_ne same]
    exact .inl ⟨same, rfl⟩

theorem Wrote.view_self {ledger next : ScanLedger} {txn : Txn}
    {added : List (ScanId × ScanEffect)} (wrote : Wrote ledger txn next added) (key : ScanId) :
    next.view txn key = ledger.view txn key ∨
      ∃ effect, (key, effect) ∈ added ∧
        effect.apply (ledger.view txn key) = some (next.view txn key) := by
  cases wrote with
  | nothing => exact .inl rfl
  | lock scanId next locked => exact .inl (by rw [Ledger.view_lock locked])
  | insert scanId data tenantId config next inserted =>
      unfold Ledger.insert at inserted
      split at inserted
      next => cases inserted
      next =>
        rcases write_view_self inserted key with ⟨_, same⟩ | ⟨rfl, applied⟩
        · exact .inl same
        · exact .inr ⟨_, List.mem_singleton_self _, applied⟩
  | change scanId how next written =>
      rcases write_view_self written key with ⟨_, same⟩ | ⟨rfl, applied⟩
      · exact .inl same
      · exact .inr ⟨_, List.mem_singleton_self _, applied⟩
  | delete scanId next written =>
      rcases write_view_self written key with ⟨_, same⟩ | ⟨rfl, applied⟩
      · exact .inl same
      · exact .inr ⟨_, List.mem_singleton_self _, applied⟩

theorem Wrote.owner {ledger next : ScanLedger} {txn : Txn}
    {added : List (ScanId × ScanEffect)} (wrote : Wrote ledger txn next added) (key : ScanId) :
    next.owner key = ledger.owner key ∨ next.owner key = some txn := by
  have written {base : ScanLedger} {scanId : ScanId} {effect : ScanEffect}
      (write : base.write txn scanId effect = some next) :
      next.owner key = base.owner key ∨ next.owner key = some txn := by
    obtain ⟨_, _, _, rfl⟩ := Ledger.write_some write
    by_cases same : key = scanId
    · exact .inr (by simp [same])
    · exact .inl (by simp [same])
  cases wrote with
  | nothing => exact .inl rfl
  | lock scanId next locked =>
      obtain ⟨_, rfl⟩ := Ledger.lock_some locked
      by_cases same : key = scanId
      · exact .inr (by simp [same])
      · exact .inl (by simp [same])
  | insert scanId data tenantId config next inserted =>
      unfold Ledger.insert at inserted
      split at inserted
      next => cases inserted
      next =>
        have kept := written inserted
        exact kept
  | change scanId how next write => exact written write
  | delete scanId next write => exact written write

/-- A statement adds at most a key that nobody else sees. -/
theorem Wrote.keys {ledger next : ScanLedger} {txn : Txn}
    {added : List (ScanId × ScanEffect)} (wrote : Wrote ledger txn next added) :
    next.table.keys = ledger.table.keys ∨
      ∃ scanId, scanId ∉ ledger.table.keys ∧ next.table.keys = scanId :: ledger.table.keys := by
  cases wrote with
  | nothing => exact .inl rfl
  | lock scanId next locked =>
      obtain ⟨_, rfl⟩ := Ledger.lock_some locked
      exact .inl rfl
  | insert scanId data tenantId config next inserted =>
      unfold Ledger.insert at inserted
      split at inserted
      next => cases inserted
      next new =>
        obtain ⟨_, _, _, rfl⟩ := Ledger.write_some inserted
        exact .inr ⟨scanId, new, rfl⟩
  | change scanId how next written =>
      obtain ⟨_, _, _, rfl⟩ := Ledger.write_some written
      exact .inl rfl
  | delete scanId next written =>
      obtain ⟨_, _, _, rfl⟩ := Ledger.write_some written
      exact .inl rfl

/-- The rows of a tenant that count on a day, over some reading of the table. -/
def countOn (keys : List ScanId) (slot : ScanId → Slot Scan) (tenantId : TenantId)
    (date : Nat) : Nat :=
  keys.countP fun key => (slot key).satisfies (Scan.countedOn tenantId date)

theorem countOn_mono {keys : List ScanId} {before after : ScanId → Slot Scan}
    {tenantId : TenantId} {date : Nat}
    (implied : ∀ key, (after key).satisfies (Scan.countedOn tenantId date) = true →
      (before key).satisfies (Scan.countedOn tenantId date) = true) :
    countOn keys after tenantId date ≤ countOn keys before tenantId date :=
  List.countP_mono_left fun key _ => implied key

theorem Wrote.countOn {ledger next : ScanLedger} {txn : Txn}
    {added : List (ScanId × ScanEffect)} (wrote : Wrote ledger txn next added)
    {slot : ScanId → Slot Scan} (known : ∀ key, slot key ≠ .fresh → key ∈ ledger.table.keys)
    (tenantId : TenantId) (date : Nat) :
    Scans.countOn next.table.keys slot tenantId date =
      Scans.countOn ledger.table.keys slot tenantId date := by
  rcases wrote.keys with same | ⟨scanId, new, more⟩
  · rw [same]
  · have unused : slot scanId = .fresh := by
      by_contra used
      exact new (known scanId used)
    simp [Scans.countOn, more, unused]

/-- What a transaction sees adds nothing to the count of any day. -/
def Calm (view slot : Slot Scan) : Prop :=
  ∀ tenantId date, view.satisfies (Scan.countedOn tenantId date) = true →
    slot.satisfies (Scan.countedOn tenantId date) = true

/-- The row a transaction has dispatched and not yet committed. -/
def Reserved (world : World) (txn : Txn) (key : ScanId) : Prop :=
  ∃ transaction tenantId stage scan, world.opened txn = some transaction ∧
    transaction.task = .dispatching key tenantId stage ∧ stage.wrote = true ∧
    world.ledger.view txn key = .live scan ∧ scan.tenantId = tenantId ∧
    scan.dispatchedAt = some transaction.now

/-- The quota invariant: dispatches of a tenant hold its lock, one reservation at a
time is pending, and a dispatch ready to commit has seen the whole count. -/
structure Capped (limit : TenantId → Int) (world : World) : Prop where
  closed : ∀ txn, world.opened txn = none → ∀ key, world.ledger.owner key ≠ some txn
  holds : ∀ txn transaction scanId tenantId stage, world.opened txn = some transaction →
    transaction.task = .dispatching scanId tenantId stage → stage ≠ .tenantLock →
      world.tenantLock tenantId = some txn
  tenant : ∀ txn transaction scanId tenantId stage, world.opened txn = some transaction →
    transaction.task = .dispatching scanId tenantId stage →
      OfTenant tenantId (world.ledger.view txn scanId)
  calm : ∀ txn key, Calm (world.ledger.view txn key) (world.ledger.table.slot key) ∨
    Reserved world txn key
  checked : ∀ txn transaction scanId tenantId, world.opened txn = some transaction →
    transaction.task = .dispatching scanId tenantId .commit → ∀ date,
      countOn world.ledger.table.keys (world.ledger.view txn) tenantId date ≤
        (limit tenantId).toNat
  capped : ∀ tenantId date,
    countOn world.ledger.table.keys world.ledger.table.slot tenantId date ≤
      (limit tenantId).toNat

theorem Capped.initial (limit : TenantId → Int) : Capped limit .initial where
  closed := by
    intro txn _ key held
    cases held
  holds := by
    intro txn transaction scanId tenantId stage opened
    cases opened
  tenant := by
    intro txn transaction scanId tenantId stage opened
    cases opened
  calm := fun _ _ => .inl fun _ _ counted => counted
  checked := by
    intro txn transaction scanId tenantId opened
    cases opened
  capped := fun _ _ => Nat.zero_le _

/-- Outside a reservation, every row a transaction sees is calm. -/
theorem Capped.calm_of {limit : TenantId → Int} {world : World} (capped : Capped limit world)
    {txn : Txn} {key : ScanId} {transaction : Transaction}
    (opened : world.opened txn = some transaction)
    (unreserved : ∀ tenantId stage, transaction.task = .dispatching key tenantId stage →
      stage.wrote = false) :
    Calm (world.ledger.view txn key) (world.ledger.table.slot key) := by
  rcases capped.calm txn key with calm | ⟨other, tenantId, stage, _, same, task, wrote, _⟩
  · exact calm
  · rw [opened] at same
    cases same
    rw [unreserved tenantId stage task] at wrote
    cases wrote

theorem Calm.wrote {ledger next : ScanLedger} {txn : Txn}
    {added : List (ScanId × ScanEffect)} (wrote : Wrote ledger txn next added)
    (undispatched : ∀ entry ∈ added, isDispatch entry.2 = false) {key : ScanId} {slot : Slot Scan}
    (calm : Calm (ledger.view txn key) slot) : Calm (next.view txn key) slot := by
  rcases wrote.view_self key with same | ⟨effect, member, applied⟩
  · rw [same]
    exact calm
  · intro tenantId date counted
    refine calm tenantId date ?_
    exact effect_counted (wrote.created _ member) (undispatched _ member) applied counted

/-- The world after a statement. -/
def World.after (world : World) (txn : Txn) (now : Timestamp) (effected : Effected) : World :=
  { world with
    ledger := effected.ledger
    tenantLock := effected.tenantLock
    opened := Function.update world.opened txn (some ⟨now, effected.task, effected.moved⟩) }

/-- What a statement owes the quota invariant for its own transaction. -/
structure OwnCapped (limit : TenantId → Int) (world : World) (txn : Txn) (now : Timestamp)
    (after : Effected) : Prop where
  holds : ∀ scanId tenantId stage, after.task = .dispatching scanId tenantId stage →
    stage ≠ .tenantLock → after.tenantLock tenantId = some txn
  tenant : ∀ scanId tenantId stage, after.task = .dispatching scanId tenantId stage →
    OfTenant tenantId (after.ledger.view txn scanId)
  calm : ∀ key, Calm (after.ledger.view txn key) (world.ledger.table.slot key) ∨
    ∃ tenantId stage scan, after.task = .dispatching key tenantId stage ∧ stage.wrote = true ∧
      after.ledger.view txn key = .live scan ∧ scan.tenantId = tenantId ∧
      scan.dispatchedAt = some now
  checked : ∀ scanId tenantId, after.task = .dispatching scanId tenantId .commit → ∀ date,
    countOn after.ledger.table.keys (after.ledger.view txn) tenantId date ≤
      (limit tenantId).toNat
  others : ∀ tenantId other, other ≠ txn → world.tenantLock tenantId = some other →
    after.tenantLock tenantId = some other

theorem Capped.after {limit : TenantId → Int} {world : World} {txn : Txn}
    {before : Transaction} {after : Effected} {added : List (ScanId × ScanEffect)}
    (capped : Capped limit world) (sound : world.ledger.Sound)
    (opened : world.opened txn = some before)
    (wrote : Wrote world.ledger txn after.ledger added)
    (own : OwnCapped limit world txn before.now after) :
    Capped limit (world.after txn before.now after) := by
  obtain ⟨_, _, slots⟩ := wrote.recorded
  refine ⟨?_, ?_, ?_, ?_, ?_, ?_⟩
  · intro other closed key held
    have mine : other ≠ txn := by
      rintro rfl
      simp [World.after] at closed
    simp only [World.after, Function.update_of_ne mine] at closed
    rcases wrote.owner key with same | same
    · exact capped.closed other closed key (same ▸ held)
    · exact mine (Option.some.inj (held.symm.trans same))
  · intro other transaction scanId tenantId stage found task past
    by_cases mine : other = txn
    · subst mine
      simp only [World.after, Function.update_self, Option.some.injEq] at found
      subst found
      exact own.holds scanId tenantId stage task past
    · simp only [World.after, Function.update_of_ne mine] at found
      refine own.others tenantId other mine ?_
      exact capped.holds other transaction scanId tenantId stage found task past
  · intro other transaction scanId tenantId stage found task
    by_cases mine : other = txn
    · subst mine
      simp only [World.after, Function.update_self, Option.some.injEq] at found
      subst found
      exact own.tenant scanId tenantId stage task
    · simp only [World.after, Function.update_of_ne mine] at found
      change OfTenant tenantId (after.ledger.view other scanId)
      rw [wrote.view_other mine]
      exact capped.tenant other transaction scanId tenantId stage found task
  · intro other key
    change Calm (after.ledger.view other key) (after.ledger.table.slot key) ∨ _
    rw [slots]
    by_cases mine : other = txn
    · subst mine
      rcases own.calm key with calm | ⟨tenantId, stage, scan, task, past, live, rest⟩
      · exact .inl calm
      · exact .inr ⟨_, tenantId, stage, scan, Function.update_self .., task, past, live, rest⟩
    · rw [wrote.view_other mine]
      rcases capped.calm other key with
        calm | ⟨transaction, tenantId, stage, scan, found, task, past, live, rest⟩
      · exact .inl calm
      · refine .inr ⟨transaction, tenantId, stage, scan, ?_, task, past, ?_, rest⟩
        · simpa only [World.after, Function.update_of_ne mine] using found
        · change after.ledger.view other key = .live scan
          rw [wrote.view_other mine]
          exact live
  · intro other transaction scanId tenantId found task date
    by_cases mine : other = txn
    · subst mine
      simp only [World.after, Function.update_self, Option.some.injEq] at found
      subst found
      exact own.checked scanId tenantId task date
    · simp only [World.after, Function.update_of_ne mine] at found
      change countOn after.ledger.table.keys (after.ledger.view other) tenantId date ≤ _
      rw [wrote.view_other mine, wrote.countOn (sound.known other)]
      exact capped.checked other transaction scanId tenantId found task date
  · intro tenantId date
    change countOn after.ledger.table.keys after.ledger.table.slot tenantId date ≤ _
    rw [slots, wrote.countOn sound.listed.known]
    exact capped.capped tenantId date

section

variable {limit : TenantId → Int} {world : World} {txn : Txn} {before : Transaction}
  {after : Effected}

/-- A statement outside `dispatch_scan` leaves the transaction calm. -/
theorem Ran.own_plain (capped : Capped limit world) (opened : world.opened txn = some before)
    {added : List (ScanId × ScanEffect)} (from_plain : before.task.plain = true)
    (to_plain : after.task.plain = true) (wrote : Wrote world.ledger txn after.ledger added)
    (undispatched : ∀ entry ∈ added, isDispatch entry.2 = false)
    (locks : after.tenantLock = world.tenantLock) :
    OwnCapped limit world txn before.now after where
  holds := by
    intro scanId tenantId stage task
    rw [task] at to_plain
    cases to_plain
  tenant := by
    intro scanId tenantId stage task
    rw [task] at to_plain
    cases to_plain
  calm := by
    intro key
    refine .inl (Calm.wrote wrote undispatched (capped.calm_of opened ?_))
    intro tenantId stage task
    rw [task] at from_plain
    cases from_plain
  checked := by
    intro scanId tenantId task
    rw [task] at to_plain
    cases to_plain
  others := fun tenantId other _ held => locks ▸ held

/-- The dispatch `UPDATE` puts its row, and no other, into the count. -/
theorem Ran.own_dispatched (capped : Capped limit world)
    (opened : world.opened txn = some before) {scanId : ScanId} {tenantId : TenantId}
    (stage : before.task = .dispatching scanId tenantId .update)
    (task : after.task = .dispatching scanId tenantId .count)
    (written : world.ledger.write txn scanId (.change (.dispatch before.now)) =
      some after.ledger)
    (locks : after.tenantLock = world.tenantLock) :
    OwnCapped limit world txn before.now after := by
  have owner := capped.tenant txn before scanId tenantId .update opened stage
  have lock := capped.holds txn before scanId tenantId .update opened stage (by decide)
  obtain ⟨_, slot, applied, _⟩ := Ledger.write_some written
  obtain ⟨scan, next, live, acted, _⟩ := Effect.apply_change_some.mp applied
  obtain ⟨_, rfl⟩ := act_some.mp acted
  have same_tenant : scan.tenantId = tenantId := owner.2 scan live
  have reached : after.ledger.view txn scanId =
      .live ((ScanChange.dispatch before.now).values scan) := by
    rcases write_view_self written scanId with ⟨differ, _⟩ | ⟨_, moved⟩
    · exact absurd rfl differ
    · rw [live] at moved
      obtain ⟨_, _, same, acted, shown⟩ := Effect.apply_change_some.mp moved
      cases same
      rw [shown, (act_some.mp acted).2]
  refine ⟨?_, ?_, ?_, ?_, fun _ _ _ held => locks ▸ held⟩
  · intro other owner' stage' same _
    rw [task] at same
    cases same
    rw [locks]
    exact lock
  · intro other owner' stage' same
    rw [task] at same
    cases same
    rw [reached]
    refine ⟨by simp, ?_⟩
    intro row shown
    cases shown
    exact same_tenant
  · intro key
    rcases write_view_self written key with ⟨differ, same⟩ | ⟨rfl, _⟩
    · left
      rw [same]
      refine capped.calm_of opened ?_
      intro owner' stage' task'
      rw [stage] at task'
      cases task'
      rfl
    · exact .inr ⟨tenantId, .count, _, task, rfl, reached, same_tenant, rfl⟩
  · intro other owner' same
    rw [task] at same
    cases same

/-- The count bounds every single day, by the lock its own day and by the committed
rows any other. -/
theorem Capped.count_checked (capped : Capped limit world)
    (opened : world.opened txn = some before) {tenantId : TenantId}
    (within : (world.ledger.count txn (Scan.counted tenantId (dayStart before.now)) : Int) ≤
      limit tenantId) (date : Nat) :
    countOn world.ledger.table.keys (world.ledger.view txn) tenantId date ≤
      (limit tenantId).toNat := by
  by_cases today : date = day before.now
  · have fewer : countOn world.ledger.table.keys (world.ledger.view txn) tenantId date ≤
        world.ledger.count txn (Scan.counted tenantId (dayStart before.now)) := by
      refine List.countP_mono_left fun key _ counted => ?_
      obtain ⟨scan, live, counted⟩ := Slot.satisfies_iff.mp counted
      rw [today] at counted
      rw [live]
      exact countedOn_counted counted
    omega
  · refine le_trans (countOn_mono ?_) (capped.capped tenantId date)
    intro key counted
    rcases capped.calm txn key with
      calm | ⟨transaction, owner, stage', scan, same, task, _, live, _, dispatched⟩
    · exact calm tenantId date counted
    · rw [opened] at same
      cases same
      rw [live] at counted
      exact absurd (countedOn_day dispatched counted).symm today

theorem Ran.own (capped : Capped limit world) (opened : world.opened txn = some before)
    (ran : Ran limit world txn before after) : OwnCapped limit world txn before.now after := by
  have calm_before {scanId : ScanId} {tenantId : TenantId} {stage : DispatchStage}
      (task : before.task = .dispatching scanId tenantId stage) (early : stage.wrote = false)
      (key : ScanId) : Calm (world.ledger.view txn key) (world.ledger.table.slot key) := by
    refine capped.calm_of opened ?_
    intro owner stage' same
    rw [task] at same
    cases same
    exact early
  cases ran with
  | plain added from_plain to_plain wrote undispatched moved locks =>
      exact own_plain capped opened from_plain to_plain wrote undispatched locks
  | dispatched scanId tenantId stage task written moved locks =>
      exact own_dispatched capped opened stage task written locks
  | started scanId scan from_plain task seen ledger moved locks =>
      refine ⟨?_, ?_, ?_, ?_, fun _ _ _ held => locks ▸ held⟩
      · intro other owner stage same past
        rw [task] at same
        cases same
        exact absurd rfl past
      · intro other owner stage same
        rw [task] at same
        cases same
        rw [ledger, seen]
        refine ⟨by simp, ?_⟩
        intro row live
        cases live
        rfl
      · intro key
        rw [ledger]
        refine .inl (capped.calm_of opened ?_)
        intro owner stage same
        rw [same] at from_plain
        cases from_plain
      · intro other owner same
        rw [task] at same
        cases same
  | tenantLocked scanId tenantId stage task ledger moved unlocked locks =>
      refine ⟨?_, ?_, ?_, ?_, ?_⟩
      · intro other owner stage' same _
        rw [task] at same
        cases same
        rw [locks, Function.update_self]
      · intro other owner stage' same
        rw [task] at same
        cases same
        rw [ledger]
        exact capped.tenant txn before scanId tenantId .tenantLock opened stage
      · intro key
        rw [ledger]
        exact .inl (calm_before stage rfl key)
      · intro other owner same
        rw [task] at same
        cases same
      · intro owner other differ held
        rw [locks]
        have elsewhere : owner ≠ tenantId := by
          rintro rfl
          rw [held] at unlocked
          rcases unlocked with none | same
          · cases none
          · exact differ (Option.some.inj same)
        rw [Function.update_of_ne elsewhere]
        exact held
  | missed scanId tenantId stage task ledger moved locks =>
      refine ⟨?_, ?_, ?_, ?_, fun _ _ _ held => locks ▸ held⟩
      · intro other owner stage' same _
        rw [task] at same
        cases same
        rw [locks]
        exact capped.holds txn before scanId tenantId .update opened stage (by decide)
      · intro other owner stage' same
        rw [task] at same
        cases same
        rw [ledger]
        exact capped.tenant txn before scanId tenantId .update opened stage
      · intro key
        rw [ledger]
        exact .inl (calm_before stage rfl key)
      · intro other owner same
        rw [task] at same
        cases same
  | counted scanId tenantId verdict stage task quota ledger moved locks =>
      refine ⟨?_, ?_, ?_, ?_, fun _ _ _ held => locks ▸ held⟩
      · intro other owner stage' same _
        rw [task] at same
        cases same
        rw [locks]
        exact capped.holds txn before scanId tenantId .count opened stage (by decide)
      · intro other owner stage' same
        rw [task] at same
        cases same
        rw [ledger]
        exact capped.tenant txn before scanId tenantId .count opened stage
      · intro key
        rw [ledger]
        rcases capped.calm txn key with
          calm | ⟨transaction, owner, stage', scan, same, found, _, rest⟩
        · exact .inl calm
        · rw [opened] at same
          cases same
          rw [stage] at found
          cases found
          refine .inr ⟨tenantId, verdict, scan, task, ?_, rest⟩
          rcases quota with rfl | ⟨rfl, _⟩ <;> rfl
      · intro other owner same date
        rw [task] at same
        cases same
        rcases quota with same | ⟨_, within⟩
        · cases same
        · rw [ledger]
          exact capped.count_checked opened within date

end

section

variable {limit : TenantId → Int} {world : World} {txn : Txn} {transaction : Transaction}

theorem releaseTenants_other {tenantLock : TenantId → Option Txn} {tenantId : TenantId}
    {other : Txn} (differ : other ≠ txn) (held : tenantLock tenantId = some other) :
    releaseTenants tenantLock txn tenantId = some other := by
  unfold releaseTenants
  rw [held]
  simp [differ]

/-- Another transaction is open when one has ended. -/
theorem still_open {opened : Txn → Option Transaction} {other : Txn} {found : Transaction}
    (same : Function.update opened txn none other = some found) :
    other ≠ txn ∧ opened other = some found := by
  have differ : other ≠ txn := by
    rintro rfl
    simp at same
  exact ⟨differ, by simpa only [Function.update_of_ne differ] using same⟩

/-- A commit adds nothing to the count of a tenant whose lock someone else holds. -/
theorem Capped.commit_calm (capped : Capped limit world) {tenantId : TenantId} {other : Txn}
    (differ : other ≠ txn) (held : world.tenantLock tenantId = some other) {key : ScanId}
    {date : Nat}
    (counted : (world.ledger.view txn key).satisfies (Scan.countedOn tenantId date) = true) :
    (world.ledger.table.slot key).satisfies (Scan.countedOn tenantId date) = true := by
  rcases capped.calm txn key with
    calm | ⟨transaction, owner, stage, scan, opened, task, past, live, same, _⟩
  · exact calm tenantId date counted
  · rw [live] at counted
    have owner_eq : owner = tenantId := same.symm.trans (countedOn_tenant counted)
    subst owner_eq
    have late : stage ≠ .tenantLock := by
      rintro rfl
      cases past
    have mine := capped.holds txn transaction key owner stage opened task late
    rw [held] at mine
    exact absurd (Option.some.inj mine) differ

theorem Capped.commit (capped : Capped limit world) (sound : world.ledger.Sound)
    (opened : world.opened txn = some transaction)
    (committable : transaction.task.committable = true) :
    Capped limit { world with
      ledger := world.ledger.commit txn
      tenantLock := releaseTenants world.tenantLock txn
      opened := Function.update world.opened txn none
      returned := world.returned ++ transaction.moved
      dispatches := world.dispatches ++ transaction.task.dispatched world.clock } := by
  have slots : (world.ledger.commit txn).table.slot = world.ledger.view txn := rfl
  refine ⟨?_, ?_, ?_, ?_, ?_, ?_⟩
  · intro other closed key held
    simp only [Ledger.commit] at held
    split at held
    next => cases held
    next kept =>
      have differ : other ≠ txn := by
        rintro rfl
        exact kept held
      simp only [Function.update_of_ne differ] at closed
      exact capped.closed other closed key held
  · intro other found scanId tenantId stage same task past
    obtain ⟨differ, same⟩ := still_open same
    exact releaseTenants_other differ (capped.holds other found scanId tenantId stage same task past)
  · intro other found scanId tenantId stage same task
    obtain ⟨differ, same⟩ := still_open same
    have before := capped.tenant other found scanId tenantId stage same task
    change OfTenant tenantId ((world.ledger.commit txn).view other scanId)
    rw [Ledger.view_commit_other world.ledger differ]
    split
    next owned =>
      rw [Ledger.view_owned owned] at before
      exact before
    next foreign =>
      rw [Ledger.view_foreign foreign] at before
      exact before.replay (sound.viewed txn scanId)
  · intro other key
    by_cases mine : other = txn
    · subst mine
      left
      change Calm ((world.ledger.commit other).view other key) _
      rw [Ledger.view_commit_self]
      exact fun _ _ counted => counted
    · change Calm ((world.ledger.commit txn).view other key) (world.ledger.view txn key) ∨ _
      have view := Ledger.view_commit_other world.ledger mine key
      by_cases owned : world.ledger.owner key = some other
      · have foreign : world.ledger.owner key ≠ some txn := by simpa [owned] using mine
        rw [if_pos owned, ← Ledger.view_owned owned] at view
        rw [view, Ledger.view_foreign foreign]
        rcases capped.calm other key with
          calm | ⟨found, tenantId, stage, scan, same, task, past, live, rest⟩
        · exact .inl calm
        · refine .inr ⟨found, tenantId, stage, scan, ?_, task, past, view.trans live, rest⟩
          simpa only [Function.update_of_ne mine] using same
      · rw [if_neg owned] at view
        rw [view]
        exact .inl fun _ _ counted => counted
  · intro other found scanId tenantId same task date
    obtain ⟨differ, same⟩ := still_open same
    have held := capped.holds other found scanId tenantId .commit same task (by decide)
    refine le_trans (countOn_mono ?_) (capped.checked other found scanId tenantId same task date)
    intro key counted
    change ((world.ledger.commit txn).view other key).satisfies _ = true at counted
    rw [Ledger.view_commit_other world.ledger differ] at counted
    split at counted
    next owned => rwa [Ledger.view_owned owned]
    next foreign =>
      rw [Ledger.view_foreign foreign]
      exact capped.commit_calm differ held counted
  · intro tenantId date
    change countOn world.ledger.table.keys (world.ledger.view txn) tenantId date ≤ _
    by_cases mine : ∃ scanId, transaction.task = .dispatching scanId tenantId .commit
    · obtain ⟨scanId, task⟩ := mine
      exact capped.checked txn transaction scanId tenantId opened task date
    · refine le_trans (countOn_mono ?_) (capped.capped tenantId date)
      intro key counted
      rcases capped.calm txn key with
        calm | ⟨found, owner, stage, scan, same, task, past, live, owned, _⟩
      · exact calm tenantId date counted
      · rw [opened] at same
        cases same
        rw [live] at counted
        have owner_eq : owner = tenantId := owned.symm.trans (countedOn_tenant counted)
        subst owner_eq
        rw [task] at committable
        have final : stage = .commit := by
          cases stage <;> first | rfl | cases committable
        exact absurd ⟨key, final ▸ task⟩ mine

theorem Capped.rollback (capped : Capped limit world) :
    Capped limit { world with
      ledger := world.ledger.rollback txn
      tenantLock := releaseTenants world.tenantLock txn
      opened := Function.update world.opened txn none } := by
  refine ⟨?_, ?_, ?_, ?_, ?_, capped.capped⟩
  · intro other closed key held
    simp only [Ledger.rollback] at held
    split at held
    next => cases held
    next kept =>
      have differ : other ≠ txn := by
        rintro rfl
        exact kept held
      simp only [Function.update_of_ne differ] at closed
      exact capped.closed other closed key held
  · intro other found scanId tenantId stage same task past
    obtain ⟨differ, same⟩ := still_open same
    exact releaseTenants_other differ (capped.holds other found scanId tenantId stage same task past)
  · intro other found scanId tenantId stage same task
    obtain ⟨differ, same⟩ := still_open same
    change OfTenant tenantId ((world.ledger.rollback txn).view other scanId)
    rw [Ledger.view_rollback_other world.ledger differ]
    exact capped.tenant other found scanId tenantId stage same task
  · intro other key
    by_cases mine : other = txn
    · subst mine
      left
      change Calm ((world.ledger.rollback other).view other key) (world.ledger.table.slot key)
      rw [Ledger.view_rollback_self]
      exact fun _ _ counted => counted
    · change Calm ((world.ledger.rollback txn).view other key) (world.ledger.table.slot key) ∨ _
      have view := congrFun (Ledger.view_rollback_other world.ledger mine) key
      rw [view]
      rcases capped.calm other key with
        calm | ⟨found, tenantId, stage, scan, same, task, past, live, rest⟩
      · exact .inl calm
      · refine .inr ⟨found, tenantId, stage, scan, ?_, task, past, view.trans live, rest⟩
        simpa only [Function.update_of_ne mine] using same
  · intro other found scanId tenantId same task date
    obtain ⟨differ, same⟩ := still_open same
    change countOn world.ledger.table.keys ((world.ledger.rollback txn).view other) _ _ ≤ _
    rw [Ledger.view_rollback_other world.ledger differ]
    exact capped.checked other found scanId tenantId same task date

theorem Capped.begin_ (capped : Capped limit world) (closed : world.opened txn = none)
    (now : Timestamp) :
    Capped limit { world with
      opened := Function.update world.opened txn (some ⟨now, .idle, []⟩) } := by
  have was_open {other : Txn} {found : Transaction} {scanId : ScanId} {tenantId : TenantId}
      {stage : DispatchStage}
      (same : Function.update world.opened txn (some ⟨now, .idle, []⟩) other = some found)
      (task : found.task = .dispatching scanId tenantId stage) :
      world.opened other = some found := by
    have differ : other ≠ txn := by
      rintro rfl
      rw [Function.update_self, Option.some.injEq] at same
      subst same
      cases task
    simpa only [Function.update_of_ne differ] using same
  refine ⟨?_, ?_, ?_, ?_, ?_, capped.capped⟩
  · intro other shut key
    have differ : other ≠ txn := by
      rintro rfl
      simp at shut
    simp only [Function.update_of_ne differ] at shut
    exact capped.closed other shut key
  · intro other found scanId tenantId stage same task
    exact capped.holds other found scanId tenantId stage (was_open same task) task
  · intro other found scanId tenantId stage same task
    exact capped.tenant other found scanId tenantId stage (was_open same task) task
  · intro other key
    rcases capped.calm other key with
      calm | ⟨found, tenantId, stage, scan, same, rest⟩
    · exact .inl calm
    · refine .inr ⟨found, tenantId, stage, scan, ?_, rest⟩
      have differ : other ≠ txn := by
        rintro rfl
        rw [closed] at same
        cases same
      simpa only [Function.update_of_ne differ] using same
  · intro other found scanId tenantId same task
    exact capped.checked other found scanId tenantId (was_open same task) task

theorem Capped.step {next : World} {label : Label} (capped : Capped limit world)
    (tracked : Tracked world) (taken : world.step limit label = some next) :
    Capped limit next := by
  cases step_moved taken with
  | tick later _ => exact { capped with }
  | begin_ txn closed => exact capped.begin_ closed world.clock
  | run txn statement before after opened executed =>
      have ran := execute_ran executed
      have dispatching : Dispatching (world.ledger.effects txn) before.task := by
        intro scanId now member
        obtain ⟨_, tenantId, stage, same, task, wrote⟩ :=
          tracked.dispatching txn scanId now member
        rw [opened] at same
        cases same
        exact ⟨tenantId, stage, task, wrote⟩
      obtain ⟨added, wrote, _⟩ := ran.wrote dispatching
      exact capped.after tracked.sound opened wrote (ran.own capped opened)
  | commit txn before opened committable => exact capped.commit tracked.sound opened committable
  | rollback txn before opened => exact capped.rollback

end

theorem reachable_capped {limit : TenantId → Int} {world : World}
    (reached : (concurrent limit).Reachable world) : Capped limit world := by
  refine reached.invariant ?_ ?_
  · rintro _ rfl
    exact .initial limit
  · intro world next label before capped _ taken
    exact capped.step (reachable_tracked before) taken

/-- Whether a scan was ever moved to running. -/
def World.everRan (world : World) (scanId : ScanId) : Bool :=
  decide (1 ≤ runningEntries (world.ledger.history scanId) .fresh)

/-- The stored scans of a tenant that were dispatched on a day and ever ran. -/
def World.ranOn (world : World) (tenantId : TenantId) (date : Nat) : List ScanId :=
  world.ledger.table.keys.filter fun key =>
    world.everRan key && (world.ledger.table.slot key).satisfies fun scan =>
      scan.tenantId == tenantId && scan.dispatchedAt.any (day · == date)

/-- The daily quota, for the scans that are still stored and by the day of the
dispatching transaction. -/
theorem daily_quota (limit : TenantId → Int) {world : World}
    (reached : (concurrent limit).Reachable world) (tenantId : TenantId) (date : Nat) :
    (world.ranOn tenantId date).length ≤ (limit tenantId).toNat := by
  refine le_trans ?_ ((reachable_capped reached).capped tenantId date)
  rw [World.ranOn, ← List.countP_eq_length_filter]
  refine List.countP_mono_left ?_
  intro key _ ran
  simp only [Bool.and_eq_true, World.everRan, decide_eq_true_eq] at ran
  obtain ⟨scan, live, dispatched⟩ := Slot.satisfies_iff.mp ran.2
  obtain ⟨_, started⟩ := ((reachable_tracked reached).lived key).ran scan live ran.1
  rw [live]
  simp only [Bool.and_eq_true] at dispatched
  have not_none : scan.startedAt.isNone = false := by
    rw [Option.isNone_eq_false_iff]
    exact started
  simp [Scan.countedOn, dispatched.1, dispatched.2, not_none]

def createLabels (txn : Txn) (scanId : ScanId) (name : String) : List Label :=
  [.begin_ txn, .run txn (.createScan { firstScan with name := name } 1 scanId), .commit txn]

def dispatchLabels (txn : Txn) (scanId : ScanId) : List Label :=
  [.begin_ txn, .run txn (.dispatchRead scanId), .run txn .dispatchNext, .run txn .dispatchNext,
    .run txn .dispatchNext]

def claimLabels (txn : Txn) (scanId : ScanId) : List Label :=
  [.begin_ txn, .run txn (.claimSelect (some scanId)), .run txn .claimUpdate, .commit txn]

/-- One scan runs and is deleted, then a second one is dispatched on the same day. -/
def deletingRun : List Label :=
  createLabels 0 0 "nightly" ++ dispatchLabels 0 0 ++ [.commit 0] ++ claimLabels 0 0 ++
    [.begin_ 0, .run 0 (.deleteScan 0), .commit 0] ++
    createLabels 0 1 "weekly" ++ dispatchLabels 0 1 ++ [.commit 0] ++ claimLabels 0 1

/-- A dispatch that starts before midnight commits after it, and so does the next one. -/
def midnightRun : List Label :=
  createLabels 0 0 "nightly" ++ createLabels 0 1 "weekly" ++
    dispatchLabels 0 0 ++ [.tick dayMicroseconds, .commit 0] ++
    dispatchLabels 0 1 ++ [.commit 0] ++ claimLabels 0 0 ++ claimLabels 0 1

theorem daily_quota_deleting :
    ∃ world, (concurrent fun _ => 1).exec .initial deletingRun = some world ∧
      world.ranOn 1 0 = [1] ∧ (world.ranOn 1 0).length ≤ 1 := by
  have run : ∃ world, (concurrent fun _ => 1).exec .initial deletingRun = some world ∧
      world.ranOn 1 0 = [1] := ⟨_, rfl, by decide⟩
  obtain ⟨world, run, ran⟩ := run
  refine ⟨world, run, ran, ?_⟩
  exact daily_quota _ (Machine.Reachable.exec (.start rfl) run) 1 0

/-- The scans of a tenant, deleted ones included, whose dispatch committed on a day and
that ever ran. -/
def World.committedOn (world : World) (tenantId : TenantId) (date : Nat) : List ScanId :=
  (world.dispatches.filter fun (scanId, owner, time) =>
    owner == tenantId && day time == date && world.everRan scanId).map (·.1)

/-- By the day of the commit, and with deleted scans, two scans run on a quota of one. -/
theorem daily_quota_exceeded :
    (∃ world, (concurrent fun _ => 1).exec .initial deletingRun = some world ∧
      world.committedOn 1 0 = [0, 1]) ∧
      ∃ world, (concurrent fun _ => 1).exec .initial midnightRun = some world ∧
        world.committedOn 1 1 = [0, 1] :=
  ⟨⟨_, rfl, by decide⟩, _, rfl, by decide⟩

end Scans
