import Soc360.Scans.Lifecycle

set_option autoImplicit false

namespace Scans

abbrev Txn := Nat

abbrev ScanEffect := Effect Scan ScanChange

abbrev ScanLedger := Ledger Txn ScanId Scan ScanChange

/-- The next statement of `dispatch_scan`, or what is left to do after the last one. -/
inductive DispatchStage where
  | tenantLock
  | update
  | count
  | commit
  | rollback
  deriving DecidableEq

/-- Where a transaction stands between two statements. -/
inductive Task where
  | idle
  | claiming (scanId : ScanId)
  | dispatching (scanId : ScanId) (tenantId : TenantId) (stage : DispatchStage)
  | reaping (olderThanSeconds : Nat) (todo : List ScanId)
  deriving DecidableEq

/-- An open transaction. `now` is its `now()`; `moved` lists the scans that its claims
and its transitions to running have reported. -/
structure Transaction where
  now : Timestamp
  task : Task
  moved : List ScanId

/-- Concurrent transactions on `scans`. `returned` and `dispatches` record, at each
commit, the scans it moved to running and the dispatch it published with its time. -/
structure World where
  ledger : ScanLedger
  clock : Timestamp
  tenantLock : TenantId → Option Txn
  opened : Txn → Option Transaction
  returned : List ScanId
  dispatches : List (ScanId × TenantId × Timestamp)

def World.initial : World :=
  ⟨.empty, 0, fun _ => none, fun _ => none, [], []⟩

/-- One statement as the database executes it. -/
inductive Statement where
  | createScan (data : ScanCreate) (tenantId : TenantId) (scanId : ScanId)
  | claimSelect (oldest : Option ScanId)
  | claimUpdate
  | transitionScan (scanId : ScanId) (args : Transition) (at_ : Timestamp)
  | reapSnapshot (olderThanSeconds : Nat)
  | reapRow
  | dispatchRead (scanId : ScanId)
  | dispatchNext
  | deleteScan (scanId : ScanId)

/-- What a statement leaves: the rows, the tenant locks and its own transaction, whose
`now` never changes. -/
structure Effected where
  ledger : ScanLedger
  tenantLock : TenantId → Option Txn
  task : Task
  moved : List ScanId

/-- A scan enters `running` through the claim or through the direct transition. -/
def entersRunning : ScanEffect → Bool
  | .change (.claim _) => true
  | .change (.transition args _) => args.target == .running
  | _ => false

section

variable (limit : TenantId → Int) (world : World) (txn : Txn) (transaction : Transaction)

/-- A conditional `UPDATE` or `DELETE`; the scan is reported when it entered `running`. -/
def World.update (scanId : ScanId) (effect : ScanEffect) (after : Bool → Task) :
    Option Effected :=
  (world.ledger.update txn scanId effect).map fun (ledger, hit) =>
    ⟨ledger, world.tenantLock, after hit,
      transaction.moved ++ if hit && entersRunning effect then [scanId] else []⟩

/-- The transaction goes on without a write. -/
def World.proceed (task : Task) : Effected :=
  ⟨world.ledger, world.tenantLock, task, transaction.moved⟩

/-- The statements of `dispatch_scan` after `get_scan`. -/
def World.dispatchNext (scanId : ScanId) (tenantId : TenantId) :
    DispatchStage → Option Effected
  | .tenantLock =>
      -- SELECT scans_per_day … FOR NO KEY UPDATE waits for the other dispatches of the tenant.
      match world.tenantLock tenantId with
      | none => some ⟨world.ledger, Function.update world.tenantLock tenantId (some txn),
          .dispatching scanId tenantId .update, transaction.moved⟩
      | some holder =>
          if holder = txn then
            some (world.proceed transaction (.dispatching scanId tenantId .update))
          else none
  | .update =>
      world.update txn transaction scanId (.change (.dispatch transaction.now)) fun hit =>
        .dispatching scanId tenantId (if hit then .count else .rollback)
  | .count =>
      let count := world.ledger.count txn (Scan.counted tenantId (dayStart transaction.now))
      some (world.proceed transaction
        (.dispatching scanId tenantId (if limit tenantId < count then .rollback else .commit)))
  | .commit => none
  | .rollback => none

def World.execute : Statement → Option Effected
  | .createScan data tenantId scanId =>
      match transaction.task, validateScanConfig (some data.type) (.obj data.config) with
      | .idle, .ok normalised =>
          (world.ledger.insert txn scanId (data.row tenantId normalised)).map fun ledger =>
            ⟨ledger, world.tenantLock, .idle, transaction.moved⟩
      | _, _ => none
  | .claimSelect oldest =>
      match transaction.task, oldest with
      -- Nothing ready, or every ready row was skipped as locked.
      | .idle, none => some (world.proceed transaction .idle)
      | .idle, some scanId =>
          if (world.ledger.view txn scanId).satisfies Scan.ready then
            (world.ledger.lock txn scanId).map fun ledger =>
              ⟨ledger, world.tenantLock, .claiming scanId, transaction.moved⟩
          else none
      | _, _ => none
  | .claimUpdate =>
      match transaction.task with
      | .claiming scanId =>
          world.update txn transaction scanId (.change (.claim transaction.now)) fun _ => .idle
      | _ => none
  | .transitionScan scanId args at_ =>
      match transaction.task with
      | .idle =>
          world.update txn transaction scanId (.change (.transition args at_)) fun _ => .idle
      | _ => none
  | .reapSnapshot olderThanSeconds =>
      match transaction.task with
      | .idle =>
          let todo := world.ledger.table.keys.filter fun key =>
            (world.ledger.view txn key).satisfies fun scan =>
              scan.stale olderThanSeconds transaction.now
          some (world.proceed transaction (.reaping olderThanSeconds todo))
      | _ => none
  | .reapRow =>
      match transaction.task with
      | .reaping _ [] => some (world.proceed transaction .idle)
      | .reaping olderThanSeconds (scanId :: todo) =>
          -- The predicate is checked again on the row as it is once its lock is held.
          world.update txn transaction scanId
            (.change (.reap olderThanSeconds transaction.now)) fun _ =>
              .reaping olderThanSeconds todo
      | _ => none
  | .dispatchRead scanId =>
      match transaction.task, world.ledger.view txn scanId with
      | .idle, .live scan =>
          some (world.proceed transaction (.dispatching scanId scan.tenantId .tenantLock))
      | .idle, _ => some (world.proceed transaction .idle)
      | _, _ => none
  | .dispatchNext =>
      match transaction.task with
      | .dispatching scanId tenantId stage =>
          world.dispatchNext limit txn transaction scanId tenantId stage
      | _ => none
  | .deleteScan scanId =>
      match transaction.task with
      | .idle => world.update txn transaction scanId .delete fun _ => .idle
      | _ => none

end

/-- A commit is due after the last statement of a call. -/
def Task.committable : Task → Bool
  | .idle => true
  | .dispatching _ _ .commit => true
  | _ => false

def Task.dispatched (task : Task) (time : Timestamp) : List (ScanId × TenantId × Timestamp) :=
  match task with
  | .dispatching scanId tenantId .commit => [(scanId, tenantId, time)]
  | _ => []

def releaseTenants (tenantLock : TenantId → Option Txn) (txn : Txn) :
    TenantId → Option Txn :=
  fun tenantId => if tenantLock tenantId = some txn then none else tenantLock tenantId

/-- `rollback` also stands for a failure at that point. -/
inductive Label where
  | tick (later : Timestamp)
  | begin_ (txn : Txn)
  | run (txn : Txn) (statement : Statement)
  | commit (txn : Txn)
  | rollback (txn : Txn)

def World.step (limit : TenantId → Int) (world : World) : Label → Option World
  | .tick later => if world.clock ≤ later then some { world with clock := later } else none
  | .begin_ txn =>
      match world.opened txn with
      | some _ => none
      | none => some { world with
          opened := Function.update world.opened txn (some ⟨world.clock, .idle, []⟩) }
  | .run txn statement =>
      (world.opened txn).bind fun transaction =>
        (world.execute limit txn transaction statement).map fun effected => { world with
          ledger := effected.ledger
          tenantLock := effected.tenantLock
          opened := Function.update world.opened txn
            (some ⟨transaction.now, effected.task, effected.moved⟩) }
  | .commit txn =>
      match world.opened txn with
      | some transaction =>
          if transaction.task.committable then some { world with
            ledger := world.ledger.commit txn
            tenantLock := releaseTenants world.tenantLock txn
            opened := Function.update world.opened txn none
            returned := world.returned ++ transaction.moved
            dispatches := world.dispatches ++ transaction.task.dispatched world.clock }
          else none
      | none => none
  | .rollback txn =>
      match world.opened txn with
      | some _ => some { world with
          ledger := world.ledger.rollback txn
          tenantLock := releaseTenants world.tenantLock txn
          opened := Function.update world.opened txn none }
      | none => none

/-- Any number of transactions over `scans`. `limit` is `scans_per_day` of each tenant. -/
def concurrent (limit : TenantId → Int) : Machine World Label where
  start world := world = .initial
  step world label := world.step limit label

/-- The writes of one statement and the effects they leave pending. -/
inductive Wrote (ledger : ScanLedger) (txn : Txn) :
    ScanLedger → List (ScanId × ScanEffect) → Prop
  | nothing : Wrote ledger txn ledger []
  | lock (scanId : ScanId) (next : ScanLedger) (locked : ledger.lock txn scanId = some next) :
      Wrote ledger txn next []
  | insert (scanId : ScanId) (data : ScanCreate) (tenantId : TenantId) (config : JsonObject)
      (next : ScanLedger)
      (inserted : ledger.insert txn scanId (data.row tenantId config) = some next) :
      Wrote ledger txn next [(scanId, .insert (data.row tenantId config))]
  | change (scanId : ScanId) (how : ScanChange) (next : ScanLedger)
      (written : ledger.write txn scanId (.change how) = some next) :
      Wrote ledger txn next [(scanId, .change how)]
  | delete (scanId : ScanId) (next : ScanLedger)
      (written : ledger.write txn scanId .delete = some next) :
      Wrote ledger txn next [(scanId, .delete)]

/-- The scans that a list of effects moves to running. -/
def entries (effects : List (ScanId × ScanEffect)) : List ScanId :=
  effects.filterMap fun entry => if entersRunning entry.2 then some entry.1 else none

def isDispatch : ScanEffect → Bool
  | .change (.dispatch _) => true
  | _ => false

def Task.plain : Task → Bool
  | .dispatching _ _ _ => false
  | _ => true

/-- Everything a statement can do: outside `dispatch_scan`, or one of its stages. -/
inductive Ran (limit : TenantId → Int) (world : World) (txn : Txn) (before : Transaction)
    (after : Effected) : Prop
  | plain (added : List (ScanId × ScanEffect)) (from_plain : before.task.plain = true)
      (to_plain : after.task.plain = true)
      (wrote : Wrote world.ledger txn after.ledger added)
      (undispatched : ∀ entry ∈ added, isDispatch entry.2 = false)
      (moved : after.moved = before.moved ++ entries added)
      (locks : after.tenantLock = world.tenantLock)
  | started (scanId : ScanId) (scan : Scan) (from_plain : before.task.plain = true)
      (task : after.task = .dispatching scanId scan.tenantId .tenantLock)
      (seen : world.ledger.view txn scanId = .live scan) (ledger : after.ledger = world.ledger)
      (moved : after.moved = before.moved) (locks : after.tenantLock = world.tenantLock)
  | tenantLocked (scanId : ScanId) (tenantId : TenantId)
      (stage : before.task = .dispatching scanId tenantId .tenantLock)
      (task : after.task = .dispatching scanId tenantId .update)
      (ledger : after.ledger = world.ledger) (moved : after.moved = before.moved)
      (unlocked : world.tenantLock tenantId = none ∨ world.tenantLock tenantId = some txn)
      (locks : after.tenantLock = Function.update world.tenantLock tenantId (some txn))
  | dispatched (scanId : ScanId) (tenantId : TenantId)
      (stage : before.task = .dispatching scanId tenantId .update)
      (task : after.task = .dispatching scanId tenantId .count)
      (written : world.ledger.write txn scanId (.change (.dispatch before.now)) =
        some after.ledger)
      (moved : after.moved = before.moved) (locks : after.tenantLock = world.tenantLock)
  | missed (scanId : ScanId) (tenantId : TenantId)
      (stage : before.task = .dispatching scanId tenantId .update)
      (task : after.task = .dispatching scanId tenantId .rollback)
      (ledger : after.ledger = world.ledger) (moved : after.moved = before.moved)
      (locks : after.tenantLock = world.tenantLock)
  | counted (scanId : ScanId) (tenantId : TenantId) (verdict : DispatchStage)
      (stage : before.task = .dispatching scanId tenantId .count)
      (task : after.task = .dispatching scanId tenantId verdict)
      (quota : verdict = .rollback ∨ verdict = .commit ∧
        (world.ledger.count txn (Scan.counted tenantId (dayStart before.now)) : Int) ≤
          limit tenantId)
      (ledger : after.ledger = world.ledger) (moved : after.moved = before.moved)
      (locks : after.tenantLock = world.tenantLock)

section

variable {limit : TenantId → Int} {world : World} {txn : Txn} {before : Transaction}
  {after : Effected}

theorem update_inv {scanId : ScanId} {effect : ScanEffect} {task : Bool → Task}
    (ran : world.update txn before scanId effect task = some after) :
    after.tenantLock = world.tenantLock ∧
      ((after.ledger = world.ledger ∧ after.moved = before.moved ∧
          after.task = task false) ∨
        (world.ledger.write txn scanId effect = some after.ledger ∧
          after.moved = before.moved ++ entries [(scanId, effect)] ∧
          after.task = task true)) := by
  obtain ⟨⟨next, hit⟩, updated, rfl⟩ := Option.map_eq_some_iff.mp ran
  refine ⟨rfl, ?_⟩
  rcases Ledger.update_some updated with ⟨rfl, rfl, -⟩ | ⟨rfl, written⟩
  · exact .inl ⟨rfl, by simp, rfl⟩
  · refine .inr ⟨written, ?_, rfl⟩
    cases enters : entersRunning effect <;> simp [entries, enters]

theorem update_plain {scanId : ScanId} {effect : ScanEffect} {task : Bool → Task}
    (from_plain : before.task.plain = true) (to_plain : ∀ hit, (task hit).plain = true)
    (undispatched : isDispatch effect = false)
    (kind : (∃ how, effect = .change how) ∨ effect = .delete)
    (ran : world.update txn before scanId effect task = some after) :
    Ran limit world txn before after := by
  obtain ⟨locks, ⟨ledger, moved, reached⟩ | ⟨written, moved, reached⟩⟩ := update_inv ran
  · refine .plain [] from_plain (by rw [reached]; exact to_plain _) ?_ (by simp) ?_ locks
    · rw [ledger]
      exact .nothing
    · simp [moved, entries]
  · refine .plain [(scanId, effect)] from_plain (by rw [reached]; exact to_plain _) ?_ ?_ moved locks
    · rcases kind with ⟨how, rfl⟩ | rfl
      · exact .change scanId how _ written
      · exact .delete scanId _ written
    · simpa using undispatched

theorem proceed_plain {task : Task} (from_plain : before.task.plain = true)
    (to_plain : task.plain = true) :
    Ran limit world txn before (world.proceed before task) :=
  .plain [] from_plain to_plain .nothing (by simp) (by simp [World.proceed, entries]) rfl

theorem dispatchNext_ran {scanId : ScanId} {tenantId : TenantId} {stage : DispatchStage}
    (task : before.task = .dispatching scanId tenantId stage)
    (ran : world.dispatchNext limit txn before scanId tenantId stage = some after) :
    Ran limit world txn before after := by
  cases stage with
  | tenantLock =>
      simp only [World.dispatchNext] at ran
      split at ran
      next unlocked =>
        cases ran
        exact .tenantLocked scanId tenantId task rfl rfl rfl (.inl unlocked) rfl
      next holder held =>
        split at ran
        next same =>
          cases ran
          subst same
          refine .tenantLocked scanId tenantId task rfl rfl rfl (.inr held) ?_
          exact (Function.update_eq_self_iff.mpr held.symm).symm
        next => cases ran
  | update =>
      simp only [World.dispatchNext] at ran
      obtain ⟨locks, ⟨ledger, moved, reached⟩ | ⟨written, moved, reached⟩⟩ := update_inv ran
      · exact .missed scanId tenantId task reached ledger moved locks
      · refine .dispatched scanId tenantId task reached written ?_ locks
        simpa [entries, entersRunning] using moved
  | count =>
      simp only [World.dispatchNext] at ran
      cases ran
      refine .counted scanId tenantId _ task rfl ?_ rfl rfl rfl
      split
      next => exact .inl rfl
      next within => exact .inr ⟨rfl, not_lt.mp within⟩
  | commit => cases ran
  | rollback => cases ran

theorem execute_ran {statement : Statement}
    (ran : world.execute limit txn before statement = some after) :
    Ran limit world txn before after := by
  have plain_of : ∀ {task : Task}, before.task = task → task.plain = true →
      before.task.plain = true := fun same plain => same ▸ plain
  cases statement with
  | createScan data tenantId scanId =>
      simp only [World.execute] at ran
      split at ran
      next normalised task _ =>
        obtain ⟨ledger, inserted, rfl⟩ := Option.map_eq_some_iff.mp ran
        refine .plain _ (plain_of task rfl) rfl
          (.insert scanId data tenantId normalised ledger inserted) ?_ ?_ rfl
        · simp [isDispatch]
        · simp [entries, entersRunning]
      next => cases ran
  | claimSelect oldest =>
      simp only [World.execute] at ran
      split at ran
      next task =>
        cases ran
        exact proceed_plain (plain_of task rfl) rfl
      next scanId task =>
        split at ran
        next =>
          obtain ⟨ledger, locked, rfl⟩ := Option.map_eq_some_iff.mp ran
          exact .plain [] (plain_of task rfl) rfl (.lock scanId ledger locked) (by simp)
            (by simp [entries]) rfl
        next => cases ran
      next => cases ran
  | claimUpdate =>
      simp only [World.execute] at ran
      split at ran
      next scanId task =>
        exact update_plain (plain_of task rfl) (fun _ => rfl) rfl (.inl ⟨_, rfl⟩) ran
      next => cases ran
  | transitionScan scanId args at_ =>
      simp only [World.execute] at ran
      split at ran
      next task =>
        exact update_plain (plain_of task rfl) (fun _ => rfl) rfl (.inl ⟨_, rfl⟩) ran
      next => cases ran
  | reapSnapshot olderThanSeconds =>
      simp only [World.execute] at ran
      split at ran
      next task =>
        cases ran
        exact proceed_plain (plain_of task rfl) rfl
      next => cases ran
  | reapRow =>
      simp only [World.execute] at ran
      split at ran
      next task =>
        cases ran
        exact proceed_plain (plain_of task rfl) rfl
      next task =>
        exact update_plain (plain_of task rfl) (fun _ => rfl) rfl (.inl ⟨_, rfl⟩) ran
      next => cases ran
  | dispatchRead scanId =>
      simp only [World.execute] at ran
      split at ran
      next scan task seen =>
        cases ran
        exact .started scanId scan (plain_of task rfl) rfl seen rfl rfl rfl
      next task _ =>
        cases ran
        exact proceed_plain (plain_of task rfl) rfl
      next => cases ran
  | dispatchNext =>
      simp only [World.execute] at ran
      split at ran
      next scanId tenantId stage task => exact dispatchNext_ran task ran
      next => cases ran
  | deleteScan scanId =>
      simp only [World.execute] at ran
      split at ran
      next task => exact update_plain (plain_of task rfl) (fun _ => rfl) rfl (.inr rfl) ran
      next => cases ran

/-- Whatever a statement does, it writes at most one row. -/
theorem Ran.writes (ran : Ran limit world txn before after) :
    ∃ added, Wrote world.ledger txn after.ledger added := by
  cases ran with
  | plain added _ _ wrote => exact ⟨added, wrote⟩
  | started _ _ _ _ _ ledger => exact ⟨[], ledger ▸ .nothing⟩
  | tenantLocked _ _ _ _ ledger => exact ⟨[], ledger ▸ .nothing⟩
  | dispatched scanId tenantId stage task written => exact ⟨_, .change scanId _ _ written⟩
  | missed _ _ _ _ ledger => exact ⟨[], ledger ▸ .nothing⟩
  | counted _ _ _ _ _ _ ledger => exact ⟨[], ledger ▸ .nothing⟩

/-- Everything a step can be. -/
inductive Moved (limit : TenantId → Int) (world : World) : Label → World → Prop where
  | tick (later : Timestamp) (forward : world.clock ≤ later) :
      Moved limit world (.tick later) { world with clock := later }
  | begin_ (txn : Txn) (closed : world.opened txn = none) :
      Moved limit world (.begin_ txn)
        { world with
          opened := Function.update world.opened txn (some ⟨world.clock, .idle, []⟩) }
  | run (txn : Txn) (statement : Statement) (before : Transaction) (after : Effected)
      (opened : world.opened txn = some before)
      (executed : world.execute limit txn before statement = some after) :
      Moved limit world (.run txn statement)
        { world with
          ledger := after.ledger
          tenantLock := after.tenantLock
          opened := Function.update world.opened txn
            (some ⟨before.now, after.task, after.moved⟩) }
  | commit (txn : Txn) (before : Transaction) (opened : world.opened txn = some before)
      (committable : before.task.committable = true) :
      Moved limit world (.commit txn)
        { world with
          ledger := world.ledger.commit txn
          tenantLock := releaseTenants world.tenantLock txn
          opened := Function.update world.opened txn none
          returned := world.returned ++ before.moved
          dispatches := world.dispatches ++ before.task.dispatched world.clock }
  | rollback (txn : Txn) (before : Transaction) (opened : world.opened txn = some before) :
      Moved limit world (.rollback txn)
        { world with
          ledger := world.ledger.rollback txn
          tenantLock := releaseTenants world.tenantLock txn
          opened := Function.update world.opened txn none }

theorem step_moved {next : World} {label : Label} (taken : world.step limit label = some next) :
    Moved limit world label next := by
  cases label with
  | tick later =>
      simp only [World.step] at taken
      split at taken
      next forward => cases taken; exact .tick later forward
      next => cases taken
  | begin_ txn =>
      simp only [World.step] at taken
      split at taken
      next => cases taken
      next closed => cases taken; exact .begin_ txn closed
  | run txn statement =>
      obtain ⟨before, opened, taken⟩ := Option.bind_eq_some_iff.mp taken
      obtain ⟨after, executed, rfl⟩ := Option.map_eq_some_iff.mp taken
      exact .run txn statement before after opened executed
  | commit txn =>
      simp only [World.step] at taken
      split at taken
      next before opened =>
        split at taken
        next committable => cases taken; exact .commit txn before opened committable
        next => cases taken
      next => cases taken
  | rollback txn =>
      simp only [World.step] at taken
      split at taken
      next before opened => cases taken; exact .rollback txn before opened
      next => cases taken

end

end Scans
