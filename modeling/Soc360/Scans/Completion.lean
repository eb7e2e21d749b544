import Soc360.Scans.Executor
import Soc360.Scans.Quota

set_option autoImplicit false

namespace Scans

section

variable {limit : TenantId → Int} {world next : World} {label : Label} {txn : Txn}
  {scanId : ScanId}

/-- A label leaves what other transactions have pending. -/
theorem step_effects_other (taken : world.step limit label = some next)
    (other : label.session ≠ some txn) :
    next.ledger.effects txn = world.ledger.effects txn := by
  have differ {owner : Txn} (session : label.session = some owner) : txn ≠ owner := by
    rintro rfl
    exact other session
  cases step_moved taken with
  | tick later _ => rfl
  | begin_ owner _ => rfl
  | run owner statement before after opened executed =>
      have wrote : ∃ added, Wrote world.ledger owner after.ledger added :=
        (execute_ran executed).writes
      obtain ⟨added, wrote⟩ := wrote
      change after.ledger.effects txn = _
      rw [wrote.recorded.1, Function.update_of_ne (differ rfl)]
  | commit owner before opened _ => exact Function.update_of_ne (differ rfl) _ _
  | rollback owner before opened => exact Function.update_of_ne (differ rfl) _ _

/-- What is committed under a key only goes on from where it was. -/
theorem step_slot (sound : world.ledger.Sound) (taken : world.step limit label = some next) :
    ∃ effects : List ScanEffect, Effect.replay effects (world.ledger.table.slot scanId) =
      some (next.ledger.table.slot scanId) := by
  have still (same : next.ledger.table.slot = world.ledger.table.slot) :
      ∃ effects : List ScanEffect, Effect.replay effects (world.ledger.table.slot scanId) =
        some (next.ledger.table.slot scanId) := by
    refine ⟨[], ?_⟩
    rw [same]
    rfl
  cases step_moved taken with
  | tick later _ => exact still rfl
  | begin_ txn _ => exact still rfl
  | run txn statement before after opened executed =>
      obtain ⟨added, wrote⟩ := (execute_ran executed).writes
      exact still wrote.recorded.2.2
  | commit txn before opened _ => exact ⟨_, sound.viewed txn scanId⟩
  | rollback txn before opened => exact still rfl

theorem step_begin_ (taken : world.step limit (.begin_ txn) = some next) :
    next.ledger = world.ledger := by
  cases step_moved taken with
  | begin_ _ closed => rfl

theorem step_rollback : ((world.step limit (.rollback txn)).getD world).ledger =
    if (world.opened txn).isSome then world.ledger.rollback txn else world.ledger := by
  simp only [World.step]
  split
  next transaction opened =>
    rw [opened]
    rfl
  next closed =>
    rw [closed]
    rfl

theorem step_commit (taken : world.step limit (.commit txn) = some next) :
    next.ledger = world.ledger.commit txn := by
  cases step_moved taken with
  | commit _ before opened => rfl

/-- The conditional UPDATE of `transition_scan`, by its rowcount. -/
theorem step_transition {args : Transition} {at_ : Timestamp}
    (taken : world.step limit (.run txn (.transitionScan scanId args at_)) = some next) :
    ((Effect.change (.transition args at_) : ScanEffect).apply
        (world.ledger.view txn scanId) = none ∧
        next.ledger = world.ledger) ∨
      world.ledger.write txn scanId (.change (.transition args at_)) = some next.ledger := by
  obtain ⟨before, opened, taken⟩ := Option.bind_eq_some_iff.mp taken
  obtain ⟨after, executed, rfl⟩ := Option.map_eq_some_iff.mp taken
  simp only [World.execute] at executed
  split at executed
  next =>
    obtain ⟨⟨ledger, hit⟩, updated, rfl⟩ := Option.map_eq_some_iff.mp executed
    rcases Ledger.update_some updated with ⟨_, rfl, missed⟩ | ⟨_, written⟩
    · exact .inl ⟨missed, rfl⟩
    · exact .inr written
  next => cases executed

end

/-- A scan that was claimed: there is a row, or was one, and it is past `pending`. -/
structure Claimed (slot : Slot Scan) : Prop where
  used : slot ≠ .fresh
  past : ∀ scan, slot = .live scan → scan.status ≠ .pending

theorem Claimed.replay {effects : List ScanEffect} {slot next : Slot Scan}
    (claimed : Claimed slot) (replayed : Effect.replay effects slot = some next) :
    Claimed next := by
  induction effects generalizing slot with
  | nil =>
      cases replayed
      exact claimed
  | cons effect rest ih =>
      obtain ⟨middle, applied, replayed⟩ := Option.bind_eq_some_iff.mp replayed
      apply ih _ replayed
      refine ⟨Effect.apply_ne_fresh applied, ?_⟩
      rintro after rfl
      cases effect with
      | insert row => exact absurd (Effect.apply_insert_some.mp applied).1 claimed.used
      | delete => cases (Effect.apply_delete_some.mp applied).2
      | change how =>
          obtain ⟨scan, _, before, acted, same⟩ := Effect.apply_change_some.mp applied
          cases same
          rcases (act_follows acted).edge with same | edge
          · rw [same]
            exact claimed.past scan before
          · intro pending
            rw [pending] at edge
            exact edge_pending edge

theorem replay_gone {effects : List ScanEffect} {next : Slot Scan}
    (replayed : Effect.replay effects .gone = some next) : next = .gone := by
  cases effects with
  | nil =>
      cases replayed
      rfl
  | cons effect rest =>
      obtain ⟨middle, applied, _⟩ := Option.bind_eq_some_iff.mp replayed
      cases effect <;> cases applied

/-- An outcome stays as it is until the row is deleted. -/
theorem replay_terminal {effects : List ScanEffect} {scan : Scan} {next : Slot Scan}
    (replayed : Effect.replay effects (.live scan) = some next)
    (terminal : scan.status ∈ terminalStatuses) :
    next = .gone ∨ ∃ after, next = .live after ∧ Frozen scan after := by
  induction effects generalizing scan with
  | nil =>
      cases replayed
      exact .inr ⟨scan, rfl, .refl scan⟩
  | cons effect rest ih =>
      obtain ⟨middle, applied, replayed⟩ := Option.bind_eq_some_iff.mp replayed
      cases effect with
      | insert row => cases applied
      | delete =>
          cases applied
          exact .inl (replay_gone replayed)
      | change how =>
          obtain ⟨_, after, same, acted, rfl⟩ := Effect.apply_change_some.mp applied
          cases same
          have frozen : Frozen scan after := (act_follows acted).frozen terminal
          have still : after.status ∈ terminalStatuses := by
            rw [frozen.status]
            exact terminal
          rcases ih replayed still with gone | ⟨last, same, later⟩
          · exact .inl gone
          · exact .inr ⟨last, same, frozen.trans later⟩

/-- The row has its outcome, or it was deleted. -/
def Ended (slot : Slot Scan) : Prop :=
  slot = .gone ∨ ∃ scan, slot = .live scan ∧ scan.status ∈ terminalStatuses

/-- The row is failed with the reason, or it was deleted. -/
def FailedWith (reason : String) (slot : Slot Scan) : Prop :=
  slot = .gone ∨
    ∃ scan, slot = .live scan ∧ scan.status = .failed ∧ scan.failureReason = some reason

theorem Ended.replay {effects : List ScanEffect} {slot next : Slot Scan} (ended : Ended slot)
    (replayed : Effect.replay effects slot = some next) : Ended next := by
  rcases ended with rfl | ⟨scan, rfl, terminal⟩
  · exact .inl (replay_gone replayed)
  · rcases replay_terminal replayed terminal with gone | ⟨after, same, frozen⟩
    · exact .inl gone
    · refine .inr ⟨after, same, ?_⟩
      rw [frozen.status]
      exact terminal

theorem FailedWith.replay {effects : List ScanEffect} {slot next : Slot Scan} {reason : String}
    (failed : FailedWith reason slot) (replayed : Effect.replay effects slot = some next) :
    FailedWith reason next := by
  rcases failed with rfl | ⟨scan, rfl, status, reason_kept⟩
  · exact .inl (replay_gone replayed)
  · have terminal : scan.status ∈ terminalStatuses := by
      rw [status]
      decide
    rcases replay_terminal replayed terminal with gone | ⟨after, same, frozen⟩
    · exact .inl gone
    · exact .inr ⟨after, same, frozen.status.trans status,
        frozen.failureReason.trans reason_kept⟩

theorem FailedWith.ended {slot : Slot Scan} {reason : String}
    (failed : FailedWith reason slot) : Ended slot := by
  rcases failed with gone | ⟨scan, live, status, _⟩
  · exact .inl gone
  · refine .inr ⟨scan, live, ?_⟩
    rw [status]
    decide

theorem Ended.not_running {slot : Slot Scan} (ended : Ended slot) : isRunning slot = false := by
  rcases ended with rfl | ⟨scan, rfl, terminal⟩
  · rfl
  · have differ : scan.status ≠ .running := by
      intro same
      rw [same] at terminal
      revert terminal
      decide
    simpa [isRunning] using differ

/-- On a claimed scan a transition to an outcome misses only what has an outcome. -/
theorem Claimed.missed {args : Transition} {at_ : Timestamp} {slot : Slot Scan}
    (claimed : Claimed slot) (outcome : args.target ∈ terminalStatuses)
    (missed : (Effect.change (.transition args at_) : ScanEffect).apply slot = none) :
    Ended slot := by
  cases slot with
  | fresh => exact absurd rfl claimed.used
  | gone => exact .inl rfl
  | live scan =>
      refine .inr ⟨scan, rfl, ?_⟩
      have not_pending := claimed.past scan rfl
      have not_running : scan.status ≠ .running := by
        intro running
        have edge : scan.status ∈ allowedFrom args.target := by
          rw [running]
          revert outcome
          cases args.target <;> decide
        have other : args.target ≠ .running := by
          intro same
          rw [same] at outcome
          revert outcome
          decide
        have acted : RowAction.act (ScanChange.transition args at_) scan =
            some ((ScanChange.transition args at_).values scan) := by
          refine act_some.mpr ⟨?_, rfl⟩
          simp [ScanChange.matching, edge, other]
        simp [Effect.apply, acted] at missed
      revert not_pending not_running
      cases scan.status <;> decide

/-- A transition that matches leaves the row at its target. -/
theorem hit_target {args : Transition} {at_ : Timestamp} {slot next : Slot Scan}
    (applied : (Effect.change (.transition args at_) : ScanEffect).apply slot = some next) :
    ∃ scan, next = .live scan ∧ scan.status = args.target ∧
      (args.target = .failed → scan.failureReason = args.failureReason) := by
  obtain ⟨before, after, _, acted, rfl⟩ := Effect.apply_change_some.mp applied
  obtain ⟨_, rfl⟩ := act_some.mp acted
  refine ⟨_, rfl, rfl, ?_⟩
  intro failed
  exact if_pos failed

section

variable {Finding : Type}

/-- The rows of `vulnerabilities` that the `persist_node` of a run flushed. -/
def Run.rows (run : Run Finding) (session : Txn) : List (Vulnerability Finding) :=
  run.written.map (⟨session, run.scanId, ·⟩)

/-- The reasons a run may fail with: the executor's own, or one that a node reported. -/
def Run.Reason (run : Run Finding) (reason : String) : Prop :=
  reason = "asset_missing" ∨ reason = "internal_error" ∨ reason ∈ run.nodeErrors

def Run.Cleans (run : Run Finding) : Cleanup → Prop
  | .fail reason => run.Reason reason
  | .cancel => True

/-- A commit moved the scan to completed. -/
def Published.Completes (entry : Published Finding) (scanId : ScanId) : Prop :=
  ∃ args at_, args.target = .completed ∧
    (scanId, Effect.change (.transition args at_)) ∈ entry.effects

namespace Executions

variable (world : Executions Finding) (session : Txn)

/-- The rows of `vulnerabilities` that the session has pending. -/
def mine : List (Vulnerability Finding) := world.pending.filter (·.session = session)

def slot (scanId : ScanId) : Slot Scan := world.scans.ledger.table.slot scanId

/-- The session has written nothing yet, and committed nothing. -/
structure Untouched : Prop where
  effects : world.scans.ledger.effects session = []
  mine : world.mine session = []
  unpublished : ∀ entry ∈ world.published, entry.session ≠ session

/-- What a run has done when it awaits a stage. -/
def Holding (run : Run Finding) : Stage Finding → Prop
  | .context => world.Untouched session
  | .load => world.Untouched session
  | .graphContext => world.Untouched session
  | .node _ state => world.Untouched session ∧ state.failure = none
  | .flush state _ => world.Untouched session ∧ state.failure = none
  | .completion _ => world.scans.ledger.effects session = [] ∧
      world.mine session = run.rows session ∧
      ∀ entry ∈ world.published, entry.session ≠ session
  | .discard => Ended (world.slot run.scanId)
  | .commit => (∃ args at_, args.target = .completed ∧
        world.scans.ledger.effects session =
          [(run.scanId, Effect.change (.transition args at_))]) ∧
      world.mine session = run.rows session
  | .cleanup _ which .rollback _ => run.Cleans which
  | .cleanup _ which (.commit true) _ => run.Cleans which ∧ world.mine session = [] ∧
      ∃ args at_, which.Asks args ∧ world.scans.ledger.effects session =
        [(run.scanId, Effect.change (.transition args at_))]
  | .cleanup _ which (.commit false) _ => run.Cleans which ∧ world.mine session = [] ∧
      world.scans.ledger.effects session = [] ∧ Ended (world.slot run.scanId)
  | .cleanup _ which _ _ => run.Cleans which ∧ world.mine session = [] ∧
      world.scans.ledger.effects session = []
  | .returned .completed => Ended (world.slot run.scanId) ∧
      ∃ entry ∈ world.published, entry.session = session ∧ entry.Completes run.scanId
  | .returned .failed => ∃ reason, run.Reason reason ∧
      FailedWith reason (world.slot run.scanId)
  | .returned .cancelled => Ended (world.slot run.scanId)
  | .returned .skipped => False
  | .raised _ => True
  | .crashed => True

/-- What every world keeps about one run. -/
structure Atomic (run : Run Finding) : Prop where
  claimed : Claimed (world.slot run.scanId)
  holding : world.Holding session run run.stage
  entries : ∀ entry ∈ world.published, entry.session = session →
    (entry.Completes run.scanId ∧ entry.rows = run.rows session) ∨
      (¬ entry.Completes run.scanId ∧ entry.rows = [])
  kept : ∀ entry ∈ world.published, entry.session = session → ∀ row ∈ entry.rows,
    row ∈ world.stored ∨ world.slot run.scanId = .gone
  cleaned : run.cleaned = true → Ended (world.slot run.scanId)

/-- What every world keeps about all runs. -/
structure Sound (pipeline : Pipeline Finding) : Prop where
  reached : (concurrent pipeline.limit).Reachable world.scans
  pending : ∀ row ∈ world.pending, (world.runs row.session).isSome = true
  published : ∀ entry ∈ world.published, (world.runs entry.session).isSome = true
  stored : ∀ row ∈ world.stored, ∃ entry ∈ world.published,
    entry.session = row.session ∧ row ∈ entry.rows
  atomic : ∀ session run, world.runs session = some run → world.Atomic session run

/-- What a step does to the runs it is not a step of. -/
structure Beside (world after : Executions Finding) (session : Txn) : Prop where
  effects : after.scans.ledger.effects session = world.scans.ledger.effects session
  mine : after.mine session = world.mine session
  published : ∀ entry, entry.session = session →
    (entry ∈ after.published ↔ entry ∈ world.published)
  stored : ∀ row ∈ world.stored, row ∈ after.stored ∨
    (after.slot row.scanId).satisfies (fun _ => true) = false
  slot : ∀ scanId, ∃ effects : List ScanEffect,
    Effect.replay effects (world.slot scanId) = some (after.slot scanId)

end Executions

variable {pipeline : Pipeline Finding} {world after next : Executions Finding}
  {session other : Txn} {run : Run Finding} {scanId : ScanId} {action : Action Finding}

open Executions

theorem Executions.Holding.beside {stage : Stage Finding}
    (holding : world.Holding session run stage) (beside : world.Beside after session) :
    after.Holding session run stage := by
  have untouched (before : world.Untouched session) : after.Untouched session := by
    refine ⟨beside.effects.trans before.effects, beside.mine.trans before.mine, ?_⟩
    intro entry member same
    exact before.unpublished entry ((beside.published entry same).mp member) same
  obtain ⟨effects, replayed⟩ := beside.slot run.scanId
  cases stage with
  | context => exact untouched holding
  | load => exact untouched holding
  | graphContext => exact untouched holding
  | node node state => exact ⟨untouched holding.1, holding.2⟩
  | flush state rows => exact ⟨untouched holding.1, holding.2⟩
  | completion state =>
      obtain ⟨nothing, rows, unpublished⟩ := holding
      refine ⟨beside.effects.trans nothing, beside.mine.trans rows, ?_⟩
      intro entry member same
      exact unpublished entry ((beside.published entry same).mp member) same
  | discard => exact Ended.replay holding replayed
  | commit =>
      obtain ⟨⟨args, at_, target, written⟩, rows⟩ := holding
      exact ⟨⟨args, at_, target, beside.effects.trans written⟩, beside.mine.trans rows⟩
  | cleanup frame which stage cancelled =>
      cases stage with
      | rollback => exact holding
      | context =>
          obtain ⟨cleans, rows, nothing⟩ := holding
          exact ⟨cleans, beside.mine.trans rows, beside.effects.trans nothing⟩
      | update =>
          obtain ⟨cleans, rows, nothing⟩ := holding
          exact ⟨cleans, beside.mine.trans rows, beside.effects.trans nothing⟩
      | commit ok =>
          cases ok with
          | true =>
              obtain ⟨cleans, rows, args, at_, asks, written⟩ := holding
              exact ⟨cleans, beside.mine.trans rows, args, at_, asks,
                beside.effects.trans written⟩
          | false =>
              obtain ⟨cleans, rows, nothing, ended⟩ := holding
              exact ⟨cleans, beside.mine.trans rows, beside.effects.trans nothing,
                ended.replay replayed⟩
  | returned outcome =>
      cases outcome with
      | completed =>
          obtain ⟨ended, entry, member, same, completes⟩ := holding
          exact ⟨ended.replay replayed, entry, (beside.published entry same).mpr member, same,
            completes⟩
      | failed =>
          obtain ⟨reason, given, failed⟩ := holding
          exact ⟨reason, given, failed.replay replayed⟩
      | cancelled => exact Ended.replay holding replayed
      | skipped => exact holding
  | raised cancelled => trivial
  | crashed => trivial

/-- The rows of a commit of a run are rows of its scan. -/
theorem Executions.Atomic.owned (atomic : world.Atomic session run) :
    ∀ entry ∈ world.published, entry.session = session → ∀ row ∈ entry.rows,
      row.scanId = run.scanId := by
  intro entry member same row inside
  rcases atomic.entries entry member same with ⟨_, rows⟩ | ⟨_, rows⟩
  · rw [rows] at inside
    obtain ⟨finding, _, rfl⟩ := List.mem_map.mp inside
    rfl
  · rw [rows] at inside
    cases inside

/-- What a commit of the run has stored stays there as long as the scan does. -/
theorem Executions.Atomic.kept_onward (atomic : world.Atomic session run)
    (slots : ∀ scanId, ∃ effects : List ScanEffect,
      Effect.replay effects (world.slot scanId) = some (after.slot scanId))
    (stored : ∀ row ∈ world.stored, row ∈ after.stored ∨
      (after.slot row.scanId).satisfies (fun _ => true) = false) :
    ∀ entry ∈ world.published, entry.session = session → ∀ row ∈ entry.rows,
      row ∈ after.stored ∨ after.slot run.scanId = .gone := by
  intro entry member same row inside
  obtain ⟨effects, replayed⟩ := slots run.scanId
  rcases atomic.kept entry member same row inside with before | gone
  · rcases stored row before with still | dead
    · exact .inl still
    · right
      rw [atomic.owned entry member same row inside] at dead
      have claimed := atomic.claimed.replay replayed
      cases landed : after.slot run.scanId with
      | gone => rfl
      | fresh => exact absurd landed claimed.used
      | live scan =>
          rw [landed] at dead
          cases dead
  · right
    rw [gone] at replayed
    exact replay_gone replayed

theorem Executions.Atomic.beside (atomic : world.Atomic session run)
    (beside : world.Beside after session) : after.Atomic session run := by
  obtain ⟨effects, replayed⟩ := beside.slot run.scanId
  refine ⟨atomic.claimed.replay replayed, atomic.holding.beside beside, ?_, ?_, ?_⟩
  · intro entry member same
    exact atomic.entries entry ((beside.published entry same).mp member) same
  · intro entry member same
    have before := (beside.published entry same).mp member
    exact atomic.kept_onward beside.slot beside.stored entry before same
  · intro cleaned
    exact (atomic.cleaned cleaned).replay replayed

/-- The record of another run is no part of what a run relies on. -/
theorem Executions.Atomic.recorded {now : Run Finding} (atomic : world.Atomic session run) :
    (world.record other now).Atomic session run :=
  atomic.beside ⟨rfl, rfl, fun _ _ => .rfl, fun _ stored => .inl stored, fun _ => ⟨[], rfl⟩⟩

theorem perform_reached (reached : (concurrent pipeline.limit).Reachable world.scans)
    (performed : world.perform pipeline session scanId action = some after) :
    (concurrent pipeline.limit).Reachable after.scans := by
  have stepped {label : Label} {scans : World}
      (taken : world.scans.step pipeline.limit label = some scans) :
      (concurrent pipeline.limit).Reachable scans := .step reached trivial taken
  cases action with
  | skip => cases performed; exact reached
  | begin_ =>
      obtain ⟨scans, taken, rfl⟩ := Option.map_eq_some_iff.mp performed
      exact stepped taken
  | insert rows => cases performed; exact reached
  | transition args =>
      obtain ⟨scans, taken, rfl⟩ := Option.map_eq_some_iff.mp performed
      exact stepped taken
  | rollback =>
      cases performed
      cases taken : world.scans.step pipeline.limit (.rollback session) with
      | none => exact reached
      | some scans => exact stepped taken
  | commit =>
      obtain ⟨scans, taken, rfl⟩ := Option.map_eq_some_iff.mp performed
      exact stepped taken

/-- An action of a session leaves the rows of the scans to go on, and the stored findings
with the scans that are still there. -/
theorem perform_onward (sound : world.scans.ledger.Sound)
    (performed : world.perform pipeline session scanId action = some after) :
    (∀ scanId, ∃ effects : List ScanEffect,
      Effect.replay effects (world.slot scanId) = some (after.slot scanId)) ∧
      ∀ row ∈ world.stored, row ∈ after.stored ∨
        (after.slot row.scanId).satisfies (fun _ => true) = false := by
  have same (scanId : ScanId) : ∃ effects : List ScanEffect,
      Effect.replay effects (world.slot scanId) = some (world.slot scanId) := ⟨[], rfl⟩
  cases action with
  | skip => cases performed; exact ⟨same, fun _ stored => .inl stored⟩
  | begin_ =>
      obtain ⟨scans, taken, rfl⟩ := Option.map_eq_some_iff.mp performed
      exact ⟨fun _ => step_slot sound taken, fun _ stored => .inl stored⟩
  | insert rows => cases performed; exact ⟨same, fun _ stored => .inl stored⟩
  | transition args =>
      obtain ⟨scans, taken, rfl⟩ := Option.map_eq_some_iff.mp performed
      exact ⟨fun _ => step_slot sound taken, fun _ stored => .inl stored⟩
  | rollback =>
      cases performed
      refine ⟨?_, fun _ stored => .inl stored⟩
      intro scanId
      cases taken : world.scans.step pipeline.limit (.rollback session) with
      | none =>
          simp only [slot, Option.getD_none]
          exact same scanId
      | some scans => exact step_slot sound taken
  | commit =>
      obtain ⟨scans, taken, rfl⟩ := Option.map_eq_some_iff.mp performed
      refine ⟨fun _ => step_slot sound taken, ?_⟩
      intro row stored
      cases live : (scans.ledger.table.slot row.scanId).satisfies fun _ => true with
      | true =>
          left
          apply List.mem_append_left
          exact List.mem_filter.mpr ⟨stored, live⟩
      | false => exact .inr live

theorem perform_beside (sound : world.scans.ledger.Sound) (differ : other ≠ session)
    (performed : world.perform pipeline session scanId action = some after) :
    world.Beside after other := by
  obtain ⟨slot, stored⟩ := perform_onward sound performed
  have owner {label : Label} (owned : label.session = some session) :
      label.session ≠ some other := by
    rw [owned]
    simpa using Ne.symm differ
  have filtered (rows : List (Vulnerability Finding)) :
      (rows.filter (·.session ≠ session)).filter (·.session = other) =
        rows.filter (·.session = other) := by
    rw [List.filter_filter]
    apply List.filter_congr
    intro row _
    by_cases mine : row.session = other
    · simp [mine, differ]
    · simp [mine]
  cases action with
  | skip => cases performed; exact ⟨rfl, rfl, fun _ _ => .rfl, stored, slot⟩
  | begin_ =>
      obtain ⟨scans, taken, rfl⟩ := Option.map_eq_some_iff.mp performed
      exact ⟨step_effects_other taken (owner rfl), rfl, fun _ _ => .rfl, stored, slot⟩
  | insert rows =>
      cases performed
      refine ⟨rfl, ?_, fun _ _ => .rfl, stored, slot⟩
      have foreign : (rows.map fun finding => (⟨session, scanId, finding⟩ :
          Vulnerability Finding)).filter (·.session = other) = [] := by
        rw [List.filter_eq_nil_iff]
        intro row member
        obtain ⟨finding, _, rfl⟩ := List.mem_map.mp member
        simpa using Ne.symm differ
      change (world.pending ++ _).filter _ = _
      rw [List.filter_append, foreign, List.append_nil]
      rfl
  | transition args =>
      obtain ⟨scans, taken, rfl⟩ := Option.map_eq_some_iff.mp performed
      exact ⟨step_effects_other taken (owner rfl), rfl, fun _ _ => .rfl, stored, slot⟩
  | rollback =>
      cases performed
      refine ⟨?_, filtered world.pending, fun _ _ => .rfl, stored, slot⟩
      cases taken : world.scans.step pipeline.limit (.rollback session) with
      | none => rfl
      | some scans => exact step_effects_other taken (owner rfl)
  | commit =>
      obtain ⟨scans, taken, rfl⟩ := Option.map_eq_some_iff.mp performed
      refine ⟨step_effects_other taken (owner rfl), filtered world.pending, ?_, stored, slot⟩
      intro entry same
      change entry ∈ world.published ++ [_] ↔ _
      rw [List.mem_append, List.mem_singleton]
      refine ⟨?_, .inl⟩
      rintro (old | rfl)
      · exact old
      · exact absurd same.symm differ

/-- A label of a transaction that belongs to no run. -/
theorem cascade_beside {label : Label} {scans : World} (sound : world.scans.ledger.Sound)
    (taken : world.scans.step pipeline.limit label = some scans)
    (foreign : label.session ≠ some session) :
    world.Beside (world.cascade scans) session := by
  refine ⟨step_effects_other taken foreign, rfl, fun _ _ => .rfl, ?_, fun _ =>
    step_slot sound taken⟩
  intro row stored
  cases live : (scans.ledger.table.slot row.scanId).satisfies fun _ => true with
  | true => exact .inl (List.mem_filter.mpr ⟨stored, live⟩)
  | false => exact .inr live

/-- A closed transaction has nothing pending. -/
theorem closed_effects {limit : TenantId → Int} {scans : World} {txn : Txn}
    (reached : (concurrent limit).Reachable scans) (closed : scans.opened txn = none) :
    scans.ledger.effects txn = [] := by
  have sound := (reachable_tracked reached).sound
  rw [List.eq_nil_iff_forall_not_mem]
  rintro ⟨key, effect⟩ member
  have owned := sound.held txn key effect member
  exact (reachable_capped reached).closed txn closed key owned

theorem perform_rollback (reached : (concurrent pipeline.limit).Reachable world.scans)
    (performed : world.perform pipeline session scanId .rollback = some after) :
    after.scans.ledger.effects session = [] ∧ after.mine session = [] ∧
      after.published = world.published := by
  cases performed
  refine ⟨?_, ?_, rfl⟩
  · rw [step_rollback]
    cases opened : world.scans.opened session with
    | none =>
        exact closed_effects reached opened
    | some transaction => exact Function.update_self ..
  · change (world.pending.filter _).filter _ = []
    rw [List.filter_filter, List.filter_eq_nil_iff]
    intro row _
    simp

/-- The UPDATE of a session that has nothing pending sees the committed row. -/
theorem perform_transition {args : Transition} (sound : world.scans.ledger.Sound)
    (untouched : world.scans.ledger.effects session = [])
    (performed : world.perform pipeline session scanId (.transition args) = some after) :
    after.mine session = world.mine session ∧ after.published = world.published ∧
      after.slot = world.slot ∧
      ((world.hits session scanId args = false ∧
          after.scans.ledger.effects session = [] ∧
          (Effect.change (.transition args world.scans.clock) : ScanEffect).apply
            (world.slot scanId) = none) ∨
        (world.hits session scanId args = true ∧
          after.scans.ledger.effects session =
            [(scanId, .change (.transition args world.scans.clock))])) := by
  obtain ⟨scans, taken, rfl⟩ := Option.map_eq_some_iff.mp performed
  have view : world.scans.ledger.view session scanId = world.slot scanId :=
    sound.view_untouched untouched
  rcases step_transition taken with ⟨missed, same⟩ | written
  · refine ⟨rfl, rfl, ?_, .inl ⟨?_, ?_, ?_⟩⟩
    · exact congrArg (fun ledger : ScanLedger => ledger.table.slot) same
    · rw [hits, missed]
      rfl
    · change scans.ledger.effects session = []
      rw [same]
      exact untouched
    · rw [view] at missed
      exact missed
  · obtain ⟨_, slot, applied, updated⟩ := Ledger.write_some written
    refine ⟨rfl, rfl, ?_, .inr ⟨?_, ?_⟩⟩
    · exact (Ledger.Undisturbed.write written).slot
    · rw [hits, applied]
      rfl
    · change scans.ledger.effects session = _
      rw [updated]
      change Function.update _ session _ session = _
      rw [Function.update_self, untouched]
      rfl

/-- A commit publishes what the session has pending under the scan. -/
theorem perform_commit (sound : world.scans.ledger.Sound)
    (performed : world.perform pipeline session scanId .commit = some after) :
    after.published = world.published ++
        [⟨session, world.scans.ledger.effects session, world.mine session⟩] ∧
      (∀ row ∈ world.mine session, row ∈ after.stored) ∧
      ∀ scanId, Effect.replay (world.scans.ledger.pending session scanId) (world.slot scanId) =
        some (after.slot scanId) := by
  obtain ⟨scans, taken, rfl⟩ := Option.map_eq_some_iff.mp performed
  refine ⟨rfl, fun row member => List.mem_append_right _ member, ?_⟩
  intro scanId
  have committed : scans.ledger.table.slot scanId = world.scans.ledger.view session scanId := by
    rw [step_commit taken]
    rfl
  change _ = some (scans.ledger.table.slot scanId)
  rw [committed]
  exact sound.viewed session scanId

theorem perform_published (uncommitted : action ≠ .commit)
    (performed : world.perform pipeline session scanId action = some after) :
    after.published = world.published := by
  cases action with
  | skip => cases performed; rfl
  | begin_ => obtain ⟨_, _, rfl⟩ := Option.map_eq_some_iff.mp performed; rfl
  | insert rows => cases performed; rfl
  | transition args => obtain ⟨_, _, rfl⟩ := Option.map_eq_some_iff.mp performed; rfl
  | rollback => cases performed; rfl
  | commit => exact absurd rfl uncommitted

/-- An action other than a commit keeps what a run relies on, once its new stage is sound. -/
theorem Executions.Atomic.uncommitted {now : Run Finding}
    (reached : (concurrent pipeline.limit).Reachable world.scans)
    (atomic : world.Atomic session run) (uncommitted : action ≠ .commit)
    (performed : world.perform pipeline session run.scanId action = some after)
    (same_scan : now.scanId = run.scanId)
    (rows : now.rows session = run.rows session ∨
      ∀ entry ∈ world.published, entry.session ≠ session)
    (cleaned : now.cleaned = run.cleaned) (holding : after.Holding session now now.stage) :
    after.Atomic session now := by
  have sound := (reachable_tracked reached).sound
  obtain ⟨slots, stored⟩ := perform_onward sound performed
  obtain ⟨effects, replayed⟩ := slots run.scanId
  have published := perform_published uncommitted performed
  have claimed := atomic.claimed.replay replayed
  refine ⟨?_, holding, ?_, ?_, ?_⟩
  · rw [same_scan]
    exact claimed
  · intro entry member same
    rw [published] at member
    rw [same_scan]
    rcases rows with rows | unpublished
    · rw [rows]
      exact atomic.entries entry member same
    · exact absurd same (unpublished entry member)
  · intro entry member same
    rw [published] at member
    rw [same_scan]
    exact atomic.kept_onward slots stored entry member same
  · intro was_cleaned
    rw [cleaned] at was_cleaned
    rw [same_scan]
    exact (atomic.cleaned was_cleaned).replay replayed

/-- What a session commits, from one of the two stages that commit. -/
structure Executions.Commits (world : Executions Finding) (session : Txn) (run : Run Finding) :
    Prop where
  effects : world.scans.ledger.effects session = [] ∧ Ended (world.slot run.scanId) ∨
    ∃ args at_, args.target ∈ terminalStatuses ∧ world.scans.ledger.effects session =
      [(run.scanId, Effect.change (.transition args at_))]
  rows : (∃ args at_, args.target = .completed ∧ world.scans.ledger.effects session =
        [(run.scanId, Effect.change (.transition args at_))]) ∧
      world.mine session = run.rows session ∨
    (∀ args at_, (run.scanId, Effect.change (.transition args at_)) ∈
        world.scans.ledger.effects session → args.target ≠ .completed) ∧
      world.mine session = []

theorem Cleanup.Asks.target {which : Cleanup} {args : Transition} (asks : which.Asks args) :
    args.target ∈ terminalStatuses ∧ args.target ≠ .completed := by
  cases which with
  | fail reason =>
      obtain ⟨failed, _⟩ := asks
      rw [failed]
      decide
  | cancel =>
      have cancelled : args.target = .cancelled := asks
      rw [cancelled]
      decide

theorem Executions.Holding.commits (holding : world.Holding session run run.stage)
    (committing : run.stage = .commit ∨
      ∃ frame which ok cancelled, run.stage = .cleanup frame which (.commit ok) cancelled) :
    world.Commits session run := by
  rcases committing with stage | ⟨frame, which, ok, cancelled, stage⟩
  · rw [stage] at holding
    obtain ⟨⟨args, at_, target, written⟩, rows⟩ := holding
    refine ⟨.inr ⟨args, at_, ?_, written⟩, .inl ⟨⟨args, at_, target, written⟩, rows⟩⟩
    rw [target]
    decide
  · rw [stage] at holding
    cases ok with
    | true =>
        obtain ⟨_, nothing, args, at_, asks, written⟩ := holding
        refine ⟨.inr ⟨args, at_, asks.target.1, written⟩, .inr ⟨?_, nothing⟩⟩
        intro other later member
        rw [written] at member
        cases List.mem_singleton.mp member
        exact asks.target.2
    | false =>
        obtain ⟨_, nothing, untouched, ended⟩ := holding
        refine ⟨.inl ⟨untouched, ended⟩, .inr ⟨?_, nothing⟩⟩
        intro args at_ member
        rw [untouched] at member
        cases member

theorem Executions.Commits.ended (sound : world.scans.ledger.Sound)
    (commits : world.Commits session run)
    (performed : world.perform pipeline session run.scanId .commit = some after) :
    Ended (after.slot run.scanId) := by
  have replayed := (perform_commit sound performed).2.2 run.scanId
  rcases commits.effects with ⟨untouched, ended⟩ | ⟨args, at_, terminal, written⟩
  · exact ended.replay replayed
  · have pending : world.scans.ledger.pending session run.scanId =
        [.change (.transition args at_)] := by
      rw [Ledger.pending, written]
      exact Effect.onKey_snoc_same run.scanId [] _
    rw [pending] at replayed
    obtain ⟨slot, applied, same⟩ := Option.bind_eq_some_iff.mp replayed
    cases same
    obtain ⟨scan, live, status, _⟩ := hit_target applied
    refine .inr ⟨scan, live, ?_⟩
    rw [status]
    exact terminal

/-- The commit of a run publishes its findings with the completion, or none at all. -/
theorem Executions.Atomic.committed {now : Run Finding}
    (reached : (concurrent pipeline.limit).Reachable world.scans)
    (atomic : world.Atomic session run) (commits : world.Commits session run)
    (performed : world.perform pipeline session run.scanId .commit = some after)
    (same_scan : now.scanId = run.scanId) (rows : now.rows session = run.rows session)
    (holding : after.Holding session now now.stage) : after.Atomic session now := by
  have sound := (reachable_tracked reached).sound
  obtain ⟨slots, stored⟩ := perform_onward sound performed
  obtain ⟨effects, replayed⟩ := slots run.scanId
  obtain ⟨published, mine_stored, _⟩ := perform_commit sound performed
  have claimed := atomic.claimed.replay replayed
  have ended := commits.ended sound performed
  refine ⟨?_, holding, ?_, ?_, ?_⟩
  · rw [same_scan]
    exact claimed
  · intro entry member same
    rw [same_scan, rows]
    rw [published] at member
    rcases List.mem_append.mp member with old | new
    · exact atomic.entries entry old same
    · cases List.mem_singleton.mp new
      rcases commits.rows with ⟨⟨args, at_, target, written⟩, mine⟩ | ⟨other, mine⟩
      · refine .inl ⟨⟨args, at_, target, ?_⟩, mine⟩
        rw [written]
        exact List.mem_singleton_self _
      · refine .inr ⟨?_, mine⟩
        rintro ⟨args, at_, target, member⟩
        exact other args at_ member target
  · intro entry member same row inside
    rw [same_scan]
    rw [published] at member
    rcases List.mem_append.mp member with old | new
    · exact atomic.kept_onward slots stored entry old same row inside
    · cases List.mem_singleton.mp new
      exact .inl (mine_stored row inside)
  · intro _
    rw [same_scan]
    exact ended

theorem Awaited.commits {reply : Reply Finding} {from_ stage : Stage Finding}
    (awaited : Awaited pipeline world session run reply from_ stage .commit) :
    from_ = .commit ∨
      ∃ frame which ok cancelled, from_ = .cleanup frame which (.commit ok) cancelled := by
  cases awaited with
  | commit => exact .inl rfl
  | close frame which ok cancelled => exact .inr ⟨frame, which, ok, cancelled, rfl⟩

theorem Awaited.flushes {reply : Reply Finding} {from_ stage : Stage Finding}
    {rows : List Finding}
    (awaited : Awaited pipeline world session run reply from_ stage (.insert rows)) :
    ∃ state, from_ = .flush state rows := by
  cases awaited with
  | flush state => exact ⟨state, rfl⟩

theorem after_written {stage : Stage Finding} (kept : ∀ rows, action ≠ .insert rows) :
    (run.after action stage).written = run.written := by
  cases action with
  | insert rows => exact absurd rfl (kept rows)
  | _ => rfl

theorem after_cleaned {stage : Stage Finding} (uncommitted : action ≠ .commit) :
    (run.after action stage).cleaned = run.cleaned := by
  cases action with
  | commit => exact absurd rfl uncommitted
  | _ => rfl

/-- The action of an await, whatever stage it ends in, once that stage is sound. -/
theorem Executions.Atomic.awaited {reply : Reply Finding} {planned : Stage Finding}
    {now : Run Finding} (reached : (concurrent pipeline.limit).Reachable world.scans)
    (atomic : world.Atomic session run)
    (awaited : Awaited pipeline world session run reply run.stage planned action)
    (performed : world.perform pipeline session run.scanId action = some after)
    (same_scan : now.scanId = run.scanId)
    (written : now.written = (run.after action run.stage).written)
    (cleaned : now.cleaned = (run.after action run.stage).cleaned)
    (holding : after.Holding session now now.stage) : after.Atomic session now := by
  have rows (kept : now.written = run.written) : now.rows session = run.rows session := by
    rw [Run.rows, Run.rows, kept, same_scan]
  by_cases commits : action = .commit
  · subst commits
    have commits := atomic.holding.commits awaited.commits
    exact atomic.committed reached commits performed same_scan (rows written) holding
  · have same_cleaned := cleaned.trans (after_cleaned commits)
    by_cases inserts : ∃ rows, action = .insert rows
    · obtain ⟨inserted, rfl⟩ := inserts
      obtain ⟨state, flush⟩ := awaited.flushes
      have untouched := atomic.holding
      rw [flush] at untouched
      exact atomic.uncommitted reached commits performed same_scan
        (.inr untouched.1.unpublished) same_cleaned holding
    · have same_written := written.trans
        (after_written fun inserted same => inserts ⟨inserted, same⟩)
      exact atomic.uncommitted reached commits performed same_scan
        (.inl (rows same_written)) same_cleaned holding

/-- What an interrupted run awaits next asks nothing of the world. -/
theorem holding_shielded {now : Run Finding} (frame : Frame) (which : Cleanup)
    (given : which = .cancel ∨ which = .fail "internal_error") :
    world.Holding session now (.shielded frame which) := by
  rcases given with rfl | rfl
  · trivial
  · exact .inr (.inl rfl)

theorem holding_onRaise {stage from_ : Stage Finding} {now : Run Finding}
    (raises : from_.onRaise = some stage) : world.Holding session now stage := by
  have failed (frame : Frame) : world.Holding session now (frame.failed : Stage Finding) := by
    cases frame with
    | body => exact holding_shielded _ _ (.inr rfl)
    | onCancelled => trivial
    | onException => trivial
  cases from_ with
  | node node state => cases raises; exact holding_shielded _ _ (.inr rfl)
  | flush state rows => cases raises; exact holding_shielded _ _ (.inr rfl)
  | cleanup frame which stage cancelled => cases raises; exact failed frame
  | returned outcome => cases raises
  | raised cancelled => cases raises
  | crashed => cases raises
  | _ => cases raises; exact holding_shielded _ _ (.inr rfl)

theorem holding_onCancel {stage from_ : Stage Finding} {now : Run Finding}
    (cancels : from_.onCancel = some stage) (outside : from_.cleaning = false) :
    world.Holding session now stage := by
  cases from_ with
  | cleanup frame which stage cancelled => cases outside
  | returned outcome => cases cancels
  | raised cancelled => cases cancels
  | crashed => cases cancels
  | _ => cases cancels; exact holding_shielded _ _ (.inl rfl)

/-- A cancellation that a shielded cleanup notes for later. -/
theorem Executions.Holding.noted {stage from_ : Stage Finding} {now : Run Finding}
    (holding : world.Holding session run from_) (cancels : from_.onCancel = some stage)
    (inside : from_.cleaning = true) (same_scan : now.scanId = run.scanId)
    (errors : now.nodeErrors = run.nodeErrors) : world.Holding session now stage := by
  cases from_ with
  | cleanup frame which step cancelled =>
      cases cancels
      have cleans (before : run.Cleans which) : now.Cleans which := by
        cases which with
        | cancel => trivial
        | fail reason =>
            rw [Run.Cleans, Run.Reason, errors]
            exact before
      cases step with
      | rollback => exact cleans holding
      | context => exact ⟨cleans holding.1, holding.2⟩
      | update => exact ⟨cleans holding.1, holding.2⟩
      | commit ok =>
          cases ok with
          | true =>
              rw [Holding, same_scan]
              exact ⟨cleans holding.1, holding.2⟩
          | false =>
              rw [Holding, same_scan]
              exact ⟨cleans holding.1, holding.2⟩
  | _ => cases inside

/-- A node leads on, to the persisting of what it left, or to the failure it reported. -/
theorem Node.after_cases (node : Node) (state : ScanState Finding) :
    (∃ reason, state.failure = some reason ∧ node.after state = .shielded .body (.fail reason)) ∨
      state.failure = none ∧ ((∃ following, node.after state = .node following state) ∨
        node = .persist ∧ node.after state = .completion state) := by
  cases failure : state.failure with
  | some reason =>
      left
      refine ⟨reason, rfl, ?_⟩
      simp [Node.after, Stage.afterGraph, failure]
  | none =>
      refine .inr ⟨rfl, ?_⟩
      cases node with
      | scan => exact .inl ⟨.parse, by simp [Node.after, failure]⟩
      | parse => exact .inl ⟨.dedup, by simp [Node.after, failure]⟩
      | dedup => exact .inl ⟨.persist, by simp [Node.after, failure]⟩
      | persist => exact .inr ⟨rfl, by simp [Node.after, Stage.afterGraph, failure]⟩

theorem Run.Cleans.onward {which : Cleanup} {now : Run Finding} (cleans : run.Cleans which)
    (errors : ∀ reason ∈ run.nodeErrors, reason ∈ now.nodeErrors) : now.Cleans which := by
  cases which with
  | cancel => trivial
  | fail reason =>
      rcases cleans with missing | internal | reported
      · exact .inl missing
      · exact .inr (.inl internal)
      · exact .inr (.inr (errors reason reported))

/-- A commit of a cleanup leaves what its result says. -/
theorem finished_holding (sound : world.scans.ledger.Sound) {now : Run Finding} {frame : Frame}
    {which : Cleanup} {ok cancelled : Bool}
    (holding : world.Holding session run (.cleanup frame which (.commit ok) cancelled))
    (performed : world.perform pipeline session run.scanId .commit = some after)
    (commits : world.Commits session run) (same_scan : now.scanId = run.scanId)
    (cleans : run.Cleans which → now.Cleans which) :
    after.Holding session now (frame.finished which ok cancelled) := by
  cases cancelled with
  | true =>
      cases frame with
      | body => exact holding_shielded _ _ (.inl rfl)
      | onCancelled => trivial
      | onException => trivial
  | false =>
      cases which with
      | cancel => trivial
      | fail reason =>
          have replayed := (perform_commit sound performed).2.2 run.scanId
          cases ok with
          | true =>
              obtain ⟨given, _, args, at_, ⟨failed, asked⟩, written⟩ := holding
              refine ⟨reason, cleans given, ?_⟩
              have pending : world.scans.ledger.pending session run.scanId =
                  [.change (.transition args at_)] := by
                rw [Ledger.pending, written]
                exact Effect.onKey_snoc_same run.scanId [] _
              rw [pending] at replayed
              obtain ⟨slot, applied, same⟩ := Option.bind_eq_some_iff.mp replayed
              cases same
              obtain ⟨scan, live, status, kept⟩ := hit_target applied
              rw [same_scan]
              exact .inr ⟨scan, live, status.trans failed, (kept failed).trans asked⟩
          | false =>
              change Ended (after.slot now.scanId)
              rw [same_scan]
              exact commits.ended sound performed

/-- Every await of a run leaves what its next one relies on. -/
theorem Awaited.holding {reply : Reply Finding} {stage : Stage Finding} {now : Run Finding}
    (reached : (concurrent pipeline.limit).Reachable world.scans)
    (atomic : world.Atomic session run)
    (awaited : Awaited pipeline world session run reply run.stage stage action)
    (performed : world.perform pipeline session run.scanId action = some after)
    (same_scan : now.scanId = run.scanId)
    (written : now.written = (run.after action stage).written)
    (errors : now.nodeErrors = run.nodeErrors ++ reply.error.toList) :
    after.Holding session now stage := by
  have sound := (reachable_tracked reached).sound
  have holding := atomic.holding
  have claimed := atomic.claimed
  have onward (reason : String) (before : reason ∈ run.nodeErrors) : reason ∈ now.nodeErrors := by
    rw [errors]
    exact List.mem_append_left _ before
  obtain ⟨scanId, from_, flushed, nodeErrors, cleaned⟩ := run
  cases awaited with
  | begin_ =>
      obtain ⟨scans, taken, rfl⟩ := Option.map_eq_some_iff.mp performed
      have same := step_begin_ taken
      refine ⟨?_, holding.mine, holding.unpublished⟩
      change scans.ledger.effects session = []
      rw [same]
      exact holding.effects
  | loaded => cases performed; exact holding
  | missing => cases performed; exact .inl rfl
  | graph => cases performed; exact ⟨holding, rfl⟩
  | node node state left inner reported =>
      cases performed
      rcases node.after_cases left with ⟨reason, failure, same⟩ | ⟨none_failed, same⟩
      · rw [same]
        right
        right
        obtain ⟨failed, _⟩ := Option.filter_eq_some_iff.mp failure
        rcases reported with before | ⟨error, given, replied⟩
        · have unfailed : state.failure = none := holding.2
          rw [ScanState.failure, before] at failure
          rw [ScanState.failure, failure] at unfailed
          cases unfailed
        · rw [given] at failed
          cases failed
          rw [errors, replied]
          exact List.mem_append_right _ (List.mem_singleton_self _)
      · rcases same with ⟨following, same⟩ | ⟨last, _⟩
        · rw [same]
          exact ⟨holding.1, none_failed⟩
        · exact absurd last inner
  | upsert state rows => cases performed; exact holding
  | flush state rows =>
      cases performed
      rcases Node.persist.after_cases state with ⟨reason, failure, _⟩ | ⟨_, same⟩
      · have unfailed := holding.2
        rw [unfailed] at failure
        cases failure
      · rcases same with ⟨following, same⟩ | ⟨_, same⟩
        · simp [Node.after, Stage.afterGraph, holding.2] at same
        · rw [same]
          refine ⟨holding.1.effects, ?_, holding.1.unpublished⟩
          have nothing : world.mine session = [] := holding.1.mine
          change (world.pending ++ rows.map _).filter _ = now.written.map _
          rw [List.filter_append, written, same_scan]
          rw [mine] at nothing
          rw [nothing, List.nil_append]
          apply List.filter_eq_self.mpr
          intro row member
          obtain ⟨finding, _, rfl⟩ := List.mem_map.mp member
          simp
  | complete state args target =>
      obtain ⟨untouched, rows, _⟩ := holding
      obtain ⟨mine, _, slots, ⟨missed, effects, unmatched⟩ | ⟨hit, effects⟩⟩ :=
        perform_transition sound untouched performed
      · have ended := claimed.missed (by rw [target]; decide) unmatched
        rw [missed]
        change Ended (after.slot now.scanId)
        rw [same_scan, slots]
        exact ended
      · rw [hit]
        refine ⟨⟨args, world.scans.clock, target, ?_⟩, ?_⟩
        · rw [same_scan]
          exact effects
        · rw [mine, rows, Run.rows, Run.rows, written, same_scan]
          rfl
  | uncompletable state => exact holding_shielded _ _ (.inr rfl)
  | discard =>
      obtain ⟨slots, _⟩ := perform_onward sound performed
      obtain ⟨effects, replayed⟩ := slots scanId
      have ended : Ended (world.slot scanId) := holding
      change Ended (after.slot now.scanId)
      rw [same_scan]
      exact ended.replay replayed
  | commit =>
      have commits := atomic.holding.commits (.inl rfl)
      have ended := commits.ended sound performed
      obtain ⟨published, _, _⟩ := perform_commit sound performed
      obtain ⟨⟨args, at_, target, effects⟩, _⟩ := holding
      refine ⟨?_, ⟨session, world.scans.ledger.effects session, world.mine session⟩, ?_, rfl,
        args, at_, target, ?_⟩
      · rw [same_scan]
        exact ended
      · rw [published]
        exact List.mem_append_right _ (List.mem_singleton_self _)
      · rw [same_scan]
        change _ ∈ world.scans.ledger.effects session
        rw [effects]
        exact List.mem_singleton_self _
  | rollback frame which cancelled =>
      obtain ⟨effects, mine, _⟩ := perform_rollback reached performed
      exact ⟨Run.Cleans.onward holding onward, mine, effects⟩
  | reconnect frame which cancelled =>
      obtain ⟨scans, taken, rfl⟩ := Option.map_eq_some_iff.mp performed
      obtain ⟨cleans, mine, effects⟩ := holding
      refine ⟨cleans.onward onward, mine, ?_⟩
      change scans.ledger.effects session = []
      rw [step_begin_ taken]
      exact effects
  | refused frame which cancelled =>
      cases frame with
      | body => exact holding_shielded _ _ (.inr rfl)
      | onCancelled => trivial
      | onException => trivial
  | update frame which cancelled args asks =>
      obtain ⟨cleans, rows, untouched⟩ := holding
      obtain ⟨mine, _, slots, ⟨missed, effects, unmatched⟩ | ⟨hit, effects⟩⟩ :=
        perform_transition sound untouched performed
      · rw [missed]
        refine ⟨cleans.onward onward, mine.trans rows, effects, ?_⟩
        have ended := claimed.missed asks.target.1 unmatched
        rw [same_scan, slots]
        exact ended
      · rw [hit]
        refine ⟨cleans.onward onward, mine.trans rows, args, world.scans.clock, asks, ?_⟩
        rw [same_scan]
        exact effects
  | close frame which ok cancelled =>
      have commits := atomic.holding.commits (.inr ⟨frame, which, ok, cancelled, rfl⟩)
      exact finished_holding sound holding performed commits same_scan
        fun cleans => cleans.onward onward

theorem perform_runs (performed : world.perform pipeline session scanId action = some after) :
    after.runs = world.runs := by
  cases action with
  | skip => cases performed; rfl
  | begin_ => obtain ⟨_, _, rfl⟩ := Option.map_eq_some_iff.mp performed; rfl
  | insert rows => cases performed; rfl
  | transition args => obtain ⟨_, _, rfl⟩ := Option.map_eq_some_iff.mp performed; rfl
  | rollback => cases performed; rfl
  | commit => obtain ⟨_, _, rfl⟩ := Option.map_eq_some_iff.mp performed; rfl

/-- A row that an action leaves pending was pending before, or the session writes it. -/
theorem perform_pending (performed : world.perform pipeline session scanId action = some after)
    {row : Vulnerability Finding} (member : row ∈ after.pending) :
    row ∈ world.pending ∨ row.session = session := by
  cases action with
  | skip => cases performed; exact .inl member
  | begin_ => obtain ⟨_, _, rfl⟩ := Option.map_eq_some_iff.mp performed; exact .inl member
  | insert rows =>
      cases performed
      rcases List.mem_append.mp member with old | new
      · exact .inl old
      · obtain ⟨finding, _, rfl⟩ := List.mem_map.mp new
        exact .inr rfl
  | transition args =>
      obtain ⟨_, _, rfl⟩ := Option.map_eq_some_iff.mp performed
      exact .inl member
  | rollback => cases performed; exact .inl (List.mem_of_mem_filter member)
  | commit =>
      obtain ⟨_, _, rfl⟩ := Option.map_eq_some_iff.mp performed
      exact .inl (List.mem_of_mem_filter member)

/-- Every commit an action publishes is the session's, and every row it stores is of one. -/
theorem perform_stored (performed : world.perform pipeline session scanId action = some after)
    (stored : ∀ row ∈ world.stored, ∃ entry ∈ world.published,
      entry.session = row.session ∧ row ∈ entry.rows) :
    (∀ entry ∈ after.published, entry ∈ world.published ∨ entry.session = session) ∧
      ∀ row ∈ after.stored, ∃ entry ∈ after.published,
        entry.session = row.session ∧ row ∈ entry.rows := by
  cases action with
  | skip => cases performed; exact ⟨fun _ member => .inl member, stored⟩
  | begin_ =>
      obtain ⟨_, _, rfl⟩ := Option.map_eq_some_iff.mp performed
      exact ⟨fun _ member => .inl member, stored⟩
  | insert rows => cases performed; exact ⟨fun _ member => .inl member, stored⟩
  | transition args =>
      obtain ⟨_, _, rfl⟩ := Option.map_eq_some_iff.mp performed
      exact ⟨fun _ member => .inl member, stored⟩
  | rollback => cases performed; exact ⟨fun _ member => .inl member, stored⟩
  | commit =>
      obtain ⟨_, _, rfl⟩ := Option.map_eq_some_iff.mp performed
      refine ⟨?_, ?_⟩
      · intro entry member
        rcases List.mem_append.mp member with old | new
        · exact .inl old
        · rw [List.mem_singleton.mp new]
          exact .inr rfl
      · intro row member
        rcases List.mem_append.mp member with old | new
        · obtain ⟨entry, known, same, inside⟩ := stored row (List.mem_of_mem_filter old)
          exact ⟨entry, List.mem_append_left _ known, same, inside⟩
        · obtain ⟨_, same⟩ := List.mem_filter.mp new
          refine ⟨_, List.mem_append_right _ (List.mem_singleton_self _), ?_, new⟩
          exact (of_decide_eq_true same).symm

/-- A run takes a step: the others go on beside it. -/
theorem Executions.Sound.moves {now : Run Finding} (sound : world.Sound pipeline)
    (known : (world.runs session).isSome = true)
    (performed : world.perform pipeline session scanId action = some after)
    (atomic : after.Atomic session now) : (after.record session now).Sound pipeline := by
  have ledger := (reachable_tracked sound.reached).sound
  obtain ⟨published, stored⟩ := perform_stored performed sound.stored
  have still (other : Txn) (before : (world.runs other).isSome = true) :
      ((after.record session now).runs other).isSome = true := by
    change (Function.update after.runs session (some now) other).isSome = true
    by_cases mine : other = session
    · rw [mine, Function.update_self]
      rfl
    · rw [Function.update_of_ne mine, perform_runs performed]
      exact before
  have reached : (concurrent pipeline.limit).Reachable after.scans :=
    perform_reached sound.reached performed
  refine ⟨reached, ?_, ?_, stored, ?_⟩
  · intro row member
    rcases perform_pending performed member with before | mine
    · exact still row.session (sound.pending row before)
    · rw [mine]
      exact still session known
  · intro entry member
    rcases published entry member with before | mine
    · exact still entry.session (sound.published entry before)
    · rw [mine]
      exact still session known
  · intro other run running
    change Function.update after.runs session (some now) other = some run at running
    by_cases mine : other = session
    · subst mine
      rw [Function.update_self] at running
      cases running
      exact atomic.recorded
    · rw [Function.update_of_ne mine, perform_runs performed] at running
      have beside := perform_beside ledger mine performed
      have carried : after.Atomic other run := (sound.atomic other run running).beside beside
      exact carried.recorded

theorem Executions.Sound.initial : (initial : Executions Finding).Sound pipeline where
  reached := .start rfl
  pending := fun _ member => absurd member List.not_mem_nil
  published := fun _ member => absurd member List.not_mem_nil
  stored := fun _ member => absurd member List.not_mem_nil
  atomic := by
    intro session run known
    cases known

/-- A claim that returned the scan has moved it past `pending`. -/
theorem returned_claimed {limit : TenantId → Int} {scans : World}
    (reached : (concurrent limit).Reachable scans) (returned : scanId ∈ scans.returned) :
    Claimed (scans.ledger.table.slot scanId) := by
  have tracked := reachable_tracked reached
  have lived := tracked.lived scanId
  rw [tracked.returned, ← List.count_pos_iff, count_entries, List.countP_pos_iff] at returned
  obtain ⟨effect, member, enters⟩ := returned
  have moves := entersRunning_iff.mp enters
  refine ⟨?_, ?_⟩
  · intro fresh
    rw [lived.still (.inl fresh) effect member] at moves
    cases moves
  · intro scan live pending
    rw [lived.still (.inr ⟨scan, live, pending⟩) effect member] at moves
    cases moves

theorem Executions.Sound.start (sound : world.Sound pipeline)
    (new : world.runs session = none) (closed : world.scans.opened session = none)
    (returned : scanId ∈ world.scans.returned) :
    (world.record session ⟨scanId, .context, [], [], false⟩).Sound pipeline := by
  have performed : world.perform pipeline session scanId .skip = some world := rfl
  have unpublished (entry : Published Finding) (member : entry ∈ world.published) :
      entry.session ≠ session := by
    rintro rfl
    have known := sound.published entry member
    rw [new] at known
    cases known
  have nothing : world.mine session = [] := by
    rw [mine, List.filter_eq_nil_iff]
    intro row member same
    have known := sound.pending row member
    rw [of_decide_eq_true same, new] at known
    cases known
  have still (other : Txn) (before : (world.runs other).isSome = true) :
      ((world.record session ⟨scanId, .context, [], [], false⟩).runs other).isSome = true := by
    have differ : other ≠ session := by
      rintro rfl
      rw [new] at before
      cases before
    change (Function.update world.runs session _ other).isSome = true
    rw [Function.update_of_ne differ]
    exact before
  refine ⟨sound.reached, ?_, ?_, sound.stored, ?_⟩
  · intro row member
    exact still row.session (sound.pending row member)
  · intro entry member
    exact still entry.session (sound.published entry member)
  · intro other run running
    change Function.update world.runs session _ other = some run at running
    by_cases mine : other = session
    · subst mine
      rw [Function.update_self] at running
      cases running
      refine ⟨returned_claimed sound.reached returned, ?_, ?_, ?_, ?_⟩
      · exact ⟨closed_effects sound.reached closed, nothing, unpublished⟩
      · intro entry member same
        exact absurd same (unpublished entry member)
      · intro entry member same
        exact absurd same (unpublished entry member)
      · intro cleaned
        cases cleaned
    · rw [Function.update_of_ne mine] at running
      exact (sound.atomic other run running).recorded

theorem Executions.Sound.interrupted {stage : Stage Finding} {lost : Option (Reply Finding)}
    (sound : world.Sound pipeline) (known : world.runs session = some run)
    (holding : ∀ state : Executions Finding, ∀ now : Run Finding,
      state.Holding session now stage)
    (taken : world.interrupt pipeline session run stage lost = some next) :
    next.Sound pipeline := by
  have present : (world.runs session).isSome = true := by
    rw [known]
    rfl
  have atomic := sound.atomic session run known
  cases lost with
  | none =>
      cases taken
      have performed : world.perform pipeline session run.scanId .skip = some world := rfl
      apply sound.moves present performed
      exact atomic.uncommitted sound.reached (by simp) performed rfl (.inl rfl) rfl (holding _ _)
  | some reply =>
      obtain ⟨⟨planned, action⟩, plan, taken⟩ := Option.bind_eq_some_iff.mp taken
      obtain ⟨after, performed, rfl⟩ := Option.map_eq_some_iff.mp taken
      apply sound.moves present performed
      exact atomic.awaited sound.reached (plan_awaited plan) performed rfl rfl rfl
        (holding _ _)

/-- A label of a transaction that belongs to no run. -/
theorem Executions.Sound.foreign {label : Label} {scans : World} (sound : world.Sound pipeline)
    (unowned : (label.session.bind world.runs).isSome = false)
    (taken : world.scans.step pipeline.limit label = some scans) :
    (world.cascade scans).Sound pipeline := by
  have ledger := (reachable_tracked sound.reached).sound
  have reached : (concurrent pipeline.limit).Reachable scans :=
    .step sound.reached trivial taken
  refine ⟨reached, sound.pending, sound.published, ?_, ?_⟩
  · intro row member
    exact sound.stored row (List.mem_of_mem_filter member)
  · intro session run known
    have differ : label.session ≠ some session := by
      intro same
      have found : world.runs session = some run := known
      rw [same, Option.bind_some, found] at unowned
      cases unowned
    exact (sound.atomic session run known).beside (cascade_beside ledger taken differ)

/-- A session rolls back while its run is in a stage that relies on nothing pending. -/
theorem Executions.Sound.rolled_back {now : Run Finding} (sound : world.Sound pipeline)
    (known : world.runs session = some run)
    (performed : world.perform pipeline session run.scanId .rollback = some after)
    (same_scan : now.scanId = run.scanId) (written : now.written = run.written)
    (cleaned : now.cleaned = run.cleaned) (holding : after.Holding session now now.stage) :
    (after.record session now).Sound pipeline := by
  have present : (world.runs session).isSome = true := by
    rw [known]
    rfl
  have rows : now.rows session = run.rows session := by
    rw [Run.rows, Run.rows, written, same_scan]
  apply sound.moves present performed
  exact (sound.atomic session run known).uncommitted sound.reached (by simp) performed same_scan
    (.inl rows) cleaned holding

/-- The session of an ended run closes. -/
theorem Executions.Holding.closed {stage : Stage Finding} (sound : world.scans.ledger.Sound)
    (holding : world.Holding session run stage) (ended : stage.ended = true)
    (performed : world.perform pipeline session scanId .rollback = some after) :
    after.Holding session run stage := by
  obtain ⟨slots, _⟩ := perform_onward sound performed
  obtain ⟨effects, replayed⟩ := slots run.scanId
  have published : after.published = world.published :=
    perform_published (by simp) performed
  cases stage with
  | returned outcome =>
      cases outcome with
      | completed =>
          obtain ⟨landed, entry, member, same, completes⟩ := holding
          refine ⟨landed.replay replayed, entry, ?_, same, completes⟩
          rw [published]
          exact member
      | failed =>
          obtain ⟨reason, given, failed⟩ := holding
          exact ⟨reason, given, failed.replay replayed⟩
      | cancelled => exact Ended.replay holding replayed
      | skipped => exact holding
  | raised cancelled => trivial
  | crashed => trivial
  | _ => cases ended

theorem Executions.record_same (known : world.runs session = some run) :
    world.record session run = world := by
  have same : Function.update world.runs session (some run) = world.runs := by
    rw [← known, Function.update_eq_self]
  rw [record, same]

/-- One step of the executors and of everything beside them. -/
theorem Executions.Sound.step {label : ExecutorLabel Finding} (sound : world.Sound pipeline)
    (taken : world.step pipeline label = some next) : next.Sound pipeline := by
  cases label with
  | other label =>
      simp only [Executions.step] at taken
      split at taken
      next => cases taken
      next free =>
        obtain ⟨scans, stepped, rfl⟩ := Option.map_eq_some_iff.mp taken
        apply sound.foreign _ stepped
        simp only [Bool.or_eq_true, not_or, Bool.not_eq_true] at free
        exact free.1
  | start session scanId =>
      simp only [Executions.step] at taken
      split at taken
      next ready =>
        cases taken
        simp only [Bool.and_eq_true, Option.isNone_iff_eq_none, List.contains_iff_mem] at ready
        exact sound.start ready.1.1 ready.1.2 ready.2
      next => cases taken
  | proceed session reply =>
      obtain ⟨run, known, taken⟩ := Option.bind_eq_some_iff.mp taken
      obtain ⟨⟨stage, action⟩, planned, taken⟩ := Option.bind_eq_some_iff.mp taken
      obtain ⟨after, performed, rfl⟩ := Option.map_eq_some_iff.mp taken
      have present : (world.runs session).isSome = true := by
        rw [known]
        rfl
      have atomic := sound.atomic session run known
      have awaited := plan_awaited planned
      have holding : after.Holding session { run.after action stage with
          nodeErrors := run.nodeErrors ++ reply.error.toList } stage :=
        awaited.holding sound.reached atomic performed rfl rfl rfl
      apply sound.moves present performed
      exact atomic.awaited sound.reached awaited performed rfl rfl rfl holding
  | raise session lost =>
      obtain ⟨run, known, taken⟩ := Option.bind_eq_some_iff.mp taken
      obtain ⟨stage, raises, taken⟩ := Option.bind_eq_some_iff.mp taken
      exact sound.interrupted known (fun _ _ => holding_onRaise raises) taken
  | cancel session lost =>
      obtain ⟨run, known, taken⟩ := Option.bind_eq_some_iff.mp taken
      obtain ⟨stage, cancels, taken⟩ := Option.bind_eq_some_iff.mp taken
      split at taken
      next inside =>
        cases taken
        have present : (world.runs session).isSome = true := by
          rw [known]
          rfl
        have performed : world.perform pipeline session run.scanId .skip = some world := rfl
        have atomic := sound.atomic session run known
        have holding : world.Holding session { run with stage := stage } stage :=
          atomic.holding.noted cancels inside rfl rfl
        apply sound.moves present performed
        exact atomic.uncommitted sound.reached (by simp) performed rfl (.inl rfl) rfl holding
      next outside =>
        have outside : run.stage.cleaning = false := by simpa using outside
        exact sound.interrupted known (fun _ _ => holding_onCancel cancels outside) taken
  | crash session =>
      obtain ⟨run, known, taken⟩ := Option.bind_eq_some_iff.mp taken
      split at taken
      next => cases taken
      next =>
        obtain ⟨after, performed, rfl⟩ := Option.map_eq_some_iff.mp taken
        exact sound.rolled_back known performed rfl rfl rfl trivial
  | close session =>
      obtain ⟨run, known, taken⟩ := Option.bind_eq_some_iff.mp taken
      split at taken
      next ended =>
        have ledger := (reachable_tracked sound.reached).sound
        have holding := (sound.atomic session run known).holding.closed ledger ended taken
        have kept : next.runs session = some run := by
          rw [perform_runs taken]
          exact known
        rw [← record_same kept]
        exact sound.rolled_back known taken rfl rfl rfl holding
      next => cases taken

theorem executions_sound (reached : (executions pipeline).Reachable world) :
    world.Sound pipeline := by
  induction reached with
  | start begins =>
      cases begins
      exact .initial
  | step _ _ taken sound => exact sound.step taken

/-- The findings of a run are committed with the completion of its scan or not at all, and
what the run returns, or has cleaned up, holds of the scan. -/
theorem findings_atomic (pipeline : Pipeline Finding) {world : Executions Finding}
    (reached : (executions pipeline).Reachable world) {session : Txn} {run : Run Finding}
    (known : world.runs session = some run) :
    (∀ entry ∈ world.published, entry.session = session →
      (entry.Completes run.scanId ∧ entry.rows = run.rows session ∧
        ∀ row ∈ entry.rows, row ∈ world.stored ∨ world.slot run.scanId = .gone) ∨
      (¬ entry.Completes run.scanId ∧ entry.rows = [])) ∧
    ((∀ entry ∈ world.published, entry.session = session → ¬ entry.Completes run.scanId) →
      ∀ row ∈ world.stored, row.session ≠ session) ∧
    (run.stage = .returned .completed →
      ∃ entry ∈ world.published, entry.session = session ∧ entry.Completes run.scanId) ∧
    (run.stage = .returned .failed →
      ∃ reason, run.Reason reason ∧ FailedWith reason (world.slot run.scanId)) ∧
    (run.cleaned = true ∨ (∃ outcome, run.stage = .returned outcome) →
      isRunning (world.slot run.scanId) = false) := by
  have sound := executions_sound reached
  have atomic := sound.atomic session run known
  refine ⟨?_, ?_, ?_, ?_, ?_⟩
  · intro entry member same
    rcases atomic.entries entry member same with ⟨completes, rows⟩ | nothing
    · exact .inl ⟨completes, rows, atomic.kept entry member same⟩
    · exact .inr nothing
  · intro uncompleted row member mine
    obtain ⟨entry, published, same, inside⟩ := sound.stored row member
    have own : entry.session = session := same.trans mine
    rcases atomic.entries entry published own with ⟨completes, _⟩ | ⟨_, rows⟩
    · exact uncompleted entry published own completes
    · rw [rows] at inside
      cases inside
  · intro returned
    have holding := atomic.holding
    rw [returned] at holding
    exact holding.2
  · intro returned
    have holding := atomic.holding
    rw [returned] at holding
    exact holding
  · rintro (cleaned | ⟨outcome, returned⟩)
    · exact (atomic.cleaned cleaned).not_running
    · have holding := atomic.holding
      rw [returned] at holding
      cases outcome with
      | completed => exact Ended.not_running holding.1
      | failed =>
          obtain ⟨reason, _, failed⟩ := holding
          exact failed.ended.not_running
      | cancelled => exact Ended.not_running holding
      | skipped => exact absurd holding id

end

/-- A scan is created, dispatched, claimed and executed to the end with one finding. -/
def completingRun : List (ExecutorLabel String) :=
  (createLabels 0 0 "a" ++ dispatchLabels 1 0 ++ [Label.commit 1] ++ claimLabels 2 0).map .other ++
    [.start 3 0, .proceed 3 .done, .proceed 3 (.asset true), .proceed 3 .done,
      .proceed 3 (.documents ""), .proceed 3 (.findings ["open port", "open port"]),
      .proceed 3 .done, .proceed 3 .done, .proceed 3 .done, .proceed 3 .done,
      .proceed 3 .done]

theorem findings_atomic_completing :
    ∃ world run, (executions ⟨fun _ => 1, id, id, fun _ => true⟩).exec .initial completingRun =
        some world ∧ world.runs 3 = some run ∧ run.stage = .returned .completed ∧
      world.stored.map (·.finding) = ["open port"] ∧
      ∃ entry ∈ world.published, entry.session = 3 ∧ entry.Completes run.scanId := by
  have run : ∃ world, (executions ⟨fun _ => 1, id, id, fun _ => true⟩).exec .initial
        completingRun = some world ∧
      (∃ run, world.runs 3 = some run ∧ run.stage = .returned .completed) ∧
      world.stored.map (·.finding) = ["open port"] := ⟨_, rfl, ⟨_, rfl, rfl⟩, rfl⟩
  obtain ⟨world, taken, ⟨run, known, returned⟩, stored⟩ := run
  refine ⟨world, run, taken, known, returned, stored, ?_⟩
  exact (findings_atomic _ (Machine.Reachable.exec (.start rfl) taken) known).2.2.1 returned

end Scans
