import Mathlib.Data.List.Induction
import Soc360.Scans.Transactions

set_option autoImplicit false

namespace Scans

theorem Wrote.sound {ledger next : ScanLedger} {txn : Txn}
    {added : List (ScanId × ScanEffect)} (wrote : Wrote ledger txn next added)
    (sound : ledger.Sound) : next.Sound := by
  have seen {scanId : ScanId} {effect : ScanEffect} {scan : Scan}
      (live : ledger.view txn scanId = .live scan) : scanId ∈ ledger.table.keys :=
    sound.known txn scanId (by simp [live])
  cases wrote with
  | nothing => exact sound
  | lock scanId next locked => exact sound.lock locked
  | insert scanId data tenantId config next inserted => exact sound.insert inserted
  | change scanId how next written =>
      obtain ⟨_, _, applied, _⟩ := Ledger.write_some written
      obtain ⟨scan, _, live, _, _⟩ := Effect.apply_change_some.mp applied
      exact sound.write written (sound.known txn scanId (by simp [live]))
  | delete scanId next written =>
      obtain ⟨_, _, applied, _⟩ := Ledger.write_some written
      obtain ⟨⟨scan, live⟩, _⟩ := Effect.apply_delete_some.mp applied
      exact sound.write written (sound.known txn scanId (by simp [live]))

/-- A statement adds to the pending effects of its own transaction only. -/
theorem Wrote.recorded {ledger next : ScanLedger} {txn : Txn}
    {added : List (ScanId × ScanEffect)} (wrote : Wrote ledger txn next added) :
    next.effects = Function.update ledger.effects txn (ledger.effects txn ++ added) ∧
      next.published = ledger.published ∧ next.table.slot = ledger.table.slot := by
  cases wrote with
  | nothing => exact ⟨by simp, rfl, rfl⟩
  | lock scanId next locked =>
      obtain ⟨_, rfl⟩ := Ledger.lock_some locked
      exact ⟨by simp, rfl, rfl⟩
  | insert scanId data tenantId config next inserted =>
      unfold Ledger.insert at inserted
      split at inserted
      next => cases inserted
      next =>
        obtain ⟨_, _, _, rfl⟩ := Ledger.write_some inserted
        exact ⟨rfl, rfl, rfl⟩
  | change scanId how next written =>
      obtain ⟨_, _, _, rfl⟩ := Ledger.write_some written
      exact ⟨rfl, rfl, rfl⟩
  | delete scanId next written =>
      obtain ⟨_, _, _, rfl⟩ := Ledger.write_some written
      exact ⟨rfl, rfl, rfl⟩

/-- The status an effect moves a scan to. -/
def movesTo : ScanEffect → Option ScanStatus
  | .change (.claim _) => some .running
  | .change (.transition args _) => some args.target
  | .change (.reap _ _) => some .failed
  | _ => none

/-- Scans are created pending. -/
def StartsPending (effect : ScanEffect) : Prop :=
  ∀ scan, effect = .insert scan → ∃ data tenantId config, scan = ScanCreate.row data tenantId config

def isRunning (slot : Slot Scan) : Bool := slot.satisfies fun scan => scan.status == .running

/-- How often a history takes its scan into status running. -/
def runningEntries : List ScanEffect → Slot Scan → Nat
  | [], _ => 0
  | effect :: rest, slot =>
      match effect.apply slot with
      | some next =>
          (if isRunning next && !isRunning slot then 1 else 0) + runningEntries rest next
      | none => 0

theorem runningEntries_snoc {history : List ScanEffect} {effect : ScanEffect}
    {slot last next : Slot Scan} (replayed : Effect.replay history slot = some last)
    (applied : effect.apply last = some next) :
    runningEntries (history ++ [effect]) slot =
      runningEntries history slot + if isRunning next && !isRunning last then 1 else 0 := by
  induction history generalizing slot with
  | nil =>
      cases replayed
      simp [runningEntries, applied]
  | cons first rest ih =>
      obtain ⟨middle, stepped, replayed⟩ := Option.bind_eq_some_iff.mp replayed
      have step := ih replayed
      simp only [List.cons_append, runningEntries, stepped]
      omega

theorem entersRunning_iff {effect : ScanEffect} :
    entersRunning effect = true ↔ movesTo effect = some .running := by
  cases effect with
  | insert scan => simp [entersRunning, movesTo]
  | delete => simp [entersRunning, movesTo]
  | change how => cases how <;> simp [entersRunning, movesTo]

/-- An effect that moves no scan leaves the status as it is. -/
theorem movesTo_none_apply {effect : ScanEffect} {scan : Scan} {next : Slot Scan}
    (still : movesTo effect = none) (applied : effect.apply (.live scan) = some next) :
    next = .gone ∨ ∃ after, next = .live after ∧ after.status = scan.status ∧
      after.startedAt = scan.startedAt := by
  cases effect with
  | insert row => cases applied
  | delete =>
      cases applied
      exact .inl rfl
  | change how =>
      obtain ⟨_, after, live, acted, reached⟩ := Effect.apply_change_some.mp applied
      cases live
      obtain ⟨_, rfl⟩ := act_some.mp acted
      refine .inr ⟨_, reached, ?_⟩
      cases how with
      | dispatch now => exact ⟨rfl, rfl⟩
      | edit columns => exact ⟨rfl, rfl⟩
      | claim now => cases still
      | transition args now => cases still
      | reap older now => cases still

/-- A move takes an edge of the map, and only a dispatched scan moves to running. -/
theorem movesTo_some_apply {effect : ScanEffect} {slot next : Slot Scan} {target : ScanStatus}
    (moves : movesTo effect = some target) (applied : effect.apply slot = some next) :
    ∃ scan after, slot = .live scan ∧ next = .live after ∧ after.status = target ∧
      Edge scan.status target ∧ (target = .running → scan.dispatchedAt.isSome = true) := by
  cases effect with
  | insert row => cases moves
  | delete => cases moves
  | change how =>
      obtain ⟨scan, after, live, acted, reached⟩ := Effect.apply_change_some.mp applied
      obtain ⟨matching, rfl⟩ := act_some.mp acted
      refine ⟨scan, _, live, reached, ?_⟩
      cases how with
      | dispatch now => cases moves
      | edit columns => cases moves
      | claim now =>
          cases moves
          simp only [ScanChange.matching, Scan.ready, Bool.and_eq_true, beq_iff_eq] at matching
          refine ⟨rfl, ?_, fun _ => matching.2⟩
          rw [matching.1]
          decide
      | transition args now =>
          cases moves
          simp only [ScanChange.matching, Bool.and_eq_true, decide_eq_true_eq, Bool.or_eq_true,
            bne_iff_ne] at matching
          refine ⟨rfl, mem_allowedFrom.mp matching.1, ?_⟩
          intro running
          exact matching.2.resolve_left fun differ => differ running
      | reap older now =>
          cases moves
          simp only [ScanChange.matching, Scan.stale, Bool.and_eq_true, beq_iff_eq] at matching
          refine ⟨rfl, ?_, ?_⟩
          · rw [matching.1]
            decide
          · intro same
            cases same

theorem edge_running {source : ScanStatus} (edge : Edge source .running) :
    source = .pending := by
  cases source <;> revert edge <;> decide

theorem edge_pending {source : ScanStatus} : ¬ Edge source .pending := by
  cases source <;> decide

/-- What a history from the empty slot says about the row it leaves. -/
structure Lived (history : List ScanEffect) (slot : Slot Scan) : Prop where
  once : runningEntries history .fresh ≤ 1
  counted : runningEntries history .fresh = history.countP entersRunning
  ran : ∀ scan, slot = .live scan → 1 ≤ runningEntries history .fresh →
    scan.status ≠ .pending ∧ scan.startedAt.isSome = true
  still : slot = .fresh ∨ (∃ scan, slot = .live scan ∧ scan.status = .pending) →
    ∀ effect ∈ history, movesTo effect = none
  dispatched : ∀ scan, slot = .live scan → scan.dispatchedAt.isSome = true →
    ∃ now, Effect.change (.dispatch now) ∈ history

theorem act_started {how : ScanChange} {scan after : Scan}
    (acted : RowAction.act how scan = some after)
    (started : scan.startedAt.isSome = true ∨
      movesTo (.change how) = some .running) : after.startedAt.isSome = true := by
  obtain ⟨_, rfl⟩ := act_some.mp acted
  cases how with
  | claim now => rfl
  | transition args now =>
      by_cases running : args.target = .running
      · simp [ScanChange.values, running]
      · have kept : scan.startedAt.isSome = true :=
          started.resolve_right fun same => running (Option.some.inj same)
        simpa [ScanChange.values, running] using kept
  | dispatch now =>
      rcases started with kept | moves
      · exact kept
      · cases moves
  | reap older now =>
      rcases started with kept | moves
      · exact kept
      · cases moves
  | edit columns =>
      rcases started with kept | moves
      · exact kept
      · cases moves

theorem act_undispatched {how : ScanChange} {scan after : Scan}
    (acted : RowAction.act how scan = some after)
    (other : isDispatch (.change how) = false) : after.dispatchedAt = scan.dispatchedAt := by
  obtain ⟨_, rfl⟩ := act_some.mp acted
  cases how with
  | dispatch now => cases other
  | claim now => rfl
  | transition args now => rfl
  | reap older now => rfl
  | edit columns => rfl

theorem Lived.nil : Lived [] .fresh where
  once := by simp [runningEntries]
  counted := rfl
  ran := by
    intro scan live
    cases live
  still := fun _ _ member => absurd member List.not_mem_nil
  dispatched := by
    intro scan live
    cases live

theorem Lived.unmoved {history : List ScanEffect} {slot : Slot Scan} (lived : Lived history slot)
    (waiting : slot = .fresh ∨ ∃ scan, slot = .live scan ∧ scan.status = .pending) :
    runningEntries history .fresh = 0 := by
  rw [lived.counted, List.countP_eq_zero]
  intro effect member enters
  rw [entersRunning_iff, lived.still waiting effect member] at enters
  cases enters

/-- Entering running, as an effect and as a change of the row. -/
theorem enters_apply {effect : ScanEffect} {slot next : Slot Scan}
    (created : StartsPending effect) (applied : effect.apply slot = some next) :
    (isRunning next && !isRunning slot) = entersRunning effect := by
  cases moves : movesTo effect with
  | some target =>
      obtain ⟨scan, after, rfl, rfl, reached, edge, -⟩ := movesTo_some_apply moves applied
      by_cases running : target = .running
      · subst running
        have enters := entersRunning_iff.mpr moves
        have pending := edge_running edge
        simp [isRunning, reached, enters, pending]
      · have stays : entersRunning effect = false := by
          rw [Bool.eq_false_iff, ne_eq, entersRunning_iff, moves]
          simpa using running
        simp [isRunning, reached, stays, running]
  | none =>
      have stays : entersRunning effect = false := by
        rw [Bool.eq_false_iff, ne_eq, entersRunning_iff, moves]
        exact nofun
      rw [stays]
      cases slot with
      | gone => cases effect <;> cases applied
      | fresh =>
          cases effect with
          | insert scan =>
              obtain ⟨data, tenantId, config, rfl⟩ := created scan rfl
              cases applied
              rfl
          | change how => cases applied
          | delete => cases applied
      | live scan =>
          rcases movesTo_none_apply moves applied with rfl | ⟨after, rfl, same, -⟩
          · rfl
          · simp [isRunning, same]

theorem Lived.snoc {history : List ScanEffect} {effect : ScanEffect} {slot next : Slot Scan}
    (lived : Lived history slot) (replayed : Effect.replay history .fresh = some slot)
    (created : StartsPending effect) (applied : effect.apply slot = some next) :
    Lived (history ++ [effect]) next := by
  have total := runningEntries_snoc replayed applied
  rw [enters_apply created applied] at total
  have before_enter : entersRunning effect = true → runningEntries history .fresh = 0 := by
    intro enters
    obtain ⟨scan, _, live, _, _, edge, _⟩ :=
      movesTo_some_apply (entersRunning_iff.mp enters) applied
    exact lived.unmoved (.inr ⟨scan, live, edge_running edge⟩)
  refine ⟨?_, ?_, ?_, ?_, ?_⟩
  · have once := lived.once
    by_cases enters : entersRunning effect = true
    · have none_before := before_enter enters
      rw [if_pos enters] at total
      omega
    · rw [if_neg enters] at total
      omega
  · have counted := lived.counted
    rw [List.countP_append, List.countP_singleton, total, counted]
  · intro after live ran
    subst live
    cases moves : movesTo effect with
    | some target =>
        obtain ⟨scan, _, before, same, reached, edge, _⟩ := movesTo_some_apply moves applied
        cases same
        subst before
        have not_pending : target ≠ .pending := fun same => edge_pending (same ▸ edge)
        refine ⟨by rw [reached]; exact not_pending, ?_⟩
        cases effect with
        | insert row => cases moves
        | delete => cases moves
        | change how =>
            obtain ⟨_, _, same, acted, reached⟩ := Effect.apply_change_some.mp applied
            cases same
            cases reached
            refine act_started acted ?_
            by_cases running : target = .running
            · exact .inr (running ▸ moves)
            · left
              have stays : ¬ entersRunning (.change how) = true := by
                rw [entersRunning_iff, moves]
                simpa using running
              rw [if_neg stays] at total
              exact (lived.ran scan rfl (by omega)).2
    | none =>
        have stays : ¬ entersRunning effect = true := by
          rw [entersRunning_iff, moves]
          exact nofun
        rw [if_neg stays] at total
        cases slot with
        | gone => cases effect <;> cases applied
        | fresh =>
            have none_before := lived.unmoved (.inl rfl)
            omega
        | live scan =>
            have before := lived.ran scan rfl (by omega)
            rcases movesTo_none_apply moves applied with gone | ⟨_, same, status, started⟩
            · cases gone
            · cases same
              rw [status, started]
              exact before
  · intro waiting
    rcases waiting with fresh | ⟨after, rfl, pending⟩
    · exact absurd fresh (Effect.apply_ne_fresh applied)
    · have quiet : movesTo effect = none := by
        cases moves : movesTo effect with
        | none => rfl
        | some target =>
            obtain ⟨_, _, _, same, reached, edge, _⟩ := movesTo_some_apply moves applied
            cases same
            rw [← reached, pending] at edge
            exact absurd edge edge_pending
      intro other member
      rcases List.mem_append.mp member with old | new
      · refine lived.still ?_ other old
        cases slot with
        | fresh => exact .inl rfl
        | gone => cases effect <;> cases applied
        | live scan =>
            rcases movesTo_none_apply quiet applied with gone | ⟨_, same, status, _⟩
            · cases gone
            · cases same
              exact .inr ⟨scan, rfl, status ▸ pending⟩
      · rw [List.mem_singleton.mp new]
        exact quiet
  · intro after live dispatched
    subst live
    cases effect with
    | delete => cases slot <;> cases applied
    | insert row =>
        obtain ⟨_, same⟩ := Effect.apply_insert_some.mp applied
        obtain ⟨data, tenantId, config, rfl⟩ := created row rfl
        cases same
        cases dispatched
    | change how =>
        obtain ⟨scan, _, before, acted, same⟩ := Effect.apply_change_some.mp applied
        cases same
        cases kind : isDispatch (.change how : ScanEffect) with
        | true =>
            cases how with
            | dispatch now => exact ⟨now, by simp⟩
            | claim now => cases kind
            | transition args now => cases kind
            | reap older now => cases kind
            | edit columns => cases kind
        | false =>
            rw [act_undispatched acted kind] at dispatched
            obtain ⟨now, member⟩ := lived.dispatched scan before dispatched
            exact ⟨now, List.mem_append_left _ member⟩

theorem lived {history : List ScanEffect} {slot : Slot Scan}
    (created : ∀ effect ∈ history, StartsPending effect)
    (replayed : Effect.replay history .fresh = some slot) : Lived history slot := by
  induction history using List.reverseRec generalizing slot with
  | nil =>
      cases replayed
      exact .nil
  | append_singleton history effect ih =>
      rw [Effect.replay_snoc] at replayed
      obtain ⟨middle, replayed, applied⟩ := Option.bind_eq_some_iff.mp replayed
      have earlier : ∀ other ∈ history, StartsPending other :=
        fun other member => created other (List.mem_append_left _ member)
      exact (ih earlier replayed).snoc replayed (created effect (by simp)) applied

theorem entries_append (first second : List (ScanId × ScanEffect)) :
    entries (first ++ second) = entries first ++ entries second :=
  List.filterMap_append ..

theorem count_entries (scanId : ScanId) (effects : List (ScanId × ScanEffect)) :
    (entries effects).count scanId = (Effect.onKey scanId effects).countP entersRunning := by
  induction effects with
  | nil => rfl
  | cons entry rest ih =>
      obtain ⟨key, effect⟩ := entry
      have split : entries ((key, effect) :: rest) = entries [(key, effect)] ++ entries rest :=
        entries_append [(key, effect)] rest
      have split_key : Effect.onKey scanId ((key, effect) :: rest) =
          Effect.onKey scanId [(key, effect)] ++ Effect.onKey scanId rest :=
        Effect.onKey_append scanId [(key, effect)] rest
      rw [split, split_key, List.count_append, List.countP_append, ih]
      congr 1
      by_cases same : key = scanId <;> by_cases enters : entersRunning effect = true <;>
        simp [entries, Effect.onKey, same, enters]

/-- Once its `UPDATE` has matched, `dispatch_scan` commits, or rolls everything back. -/
def DispatchStage.wrote : DispatchStage → Bool
  | .tenantLock | .update => false
  | .count | .commit | .rollback => true

/-- The records of a world agree with the effects in its ledger. -/
structure Tracked (world : World) : Prop where
  sound : world.ledger.Sound
  pending_created : ∀ txn, ∀ entry ∈ world.ledger.effects txn, StartsPending entry.2
  created : ∀ entry ∈ world.ledger.published, StartsPending entry.2
  moved : ∀ txn, entries (world.ledger.effects txn) = (world.opened txn).elim [] (·.moved)
  returned : world.returned = entries world.ledger.published
  dispatching : ∀ txn scanId now, (scanId, Effect.change (.dispatch now)) ∈
      world.ledger.effects txn → ∃ transaction tenantId stage,
        world.opened txn = some transaction ∧
          transaction.task = .dispatching scanId tenantId stage ∧ stage.wrote = true
  dispatched : ∀ scanId now, (scanId, Effect.change (.dispatch now)) ∈ world.ledger.published →
    ∃ tenantId time, (scanId, tenantId, time) ∈ world.dispatches

theorem Wrote.created {ledger next : ScanLedger} {txn : Txn}
    {added : List (ScanId × ScanEffect)} (wrote : Wrote ledger txn next added) :
    ∀ entry ∈ added, StartsPending entry.2 := by
  cases wrote with
  | nothing => simp
  | lock scanId next locked => simp
  | insert scanId data tenantId config next inserted =>
      intro entry member
      rw [List.mem_singleton.mp member]
      intro scan same
      cases same
      exact ⟨data, tenantId, config, rfl⟩
  | change scanId how next written =>
      intro entry member
      rw [List.mem_singleton.mp member]
      intro scan same
      cases same
  | delete scanId next written =>
      intro entry member
      rw [List.mem_singleton.mp member]
      intro scan same
      cases same

/-- A transaction with a dispatch pending is in `dispatch_scan`, past its `UPDATE`. -/
def Dispatching (effects : List (ScanId × ScanEffect)) (task : Task) : Prop :=
  ∀ scanId now, (scanId, Effect.change (.dispatch now)) ∈ effects →
    ∃ tenantId stage, task = .dispatching scanId tenantId stage ∧ stage.wrote = true

theorem Ran.wrote {limit : TenantId → Int} {world : World} {txn : Txn} {before : Transaction}
    {after : Effected} (ran : Ran limit world txn before after)
    (dispatching : Dispatching (world.ledger.effects txn) before.task) :
    ∃ added, Wrote world.ledger txn after.ledger added ∧
      after.moved = before.moved ++ entries added ∧
      Dispatching (world.ledger.effects txn ++ added) after.task := by
  cases ran with
  | plain added from_plain to_plain wrote undispatched moved locks =>
      refine ⟨added, wrote, moved, ?_⟩
      intro scanId now member
      rcases List.mem_append.mp member with old | new
      · obtain ⟨_, _, task, _⟩ := dispatching scanId now old
        rw [task] at from_plain
        cases from_plain
      · cases undispatched _ new
  | started scanId scan from_plain task seen ledger moved locks =>
      refine ⟨[], ledger ▸ .nothing, by simp [moved, entries], ?_⟩
      intro other now member
      rw [List.append_nil] at member
      obtain ⟨_, _, task, _⟩ := dispatching other now member
      rw [task] at from_plain
      cases from_plain
  | tenantLocked scanId tenantId stage task ledger moved unlocked locks =>
      refine ⟨[], ledger ▸ .nothing, by simp [moved, entries], ?_⟩
      intro other now member
      rw [List.append_nil] at member
      obtain ⟨_, _, same, wrote⟩ := dispatching other now member
      rw [stage] at same
      cases same
      cases wrote
  | dispatched scanId tenantId stage task written moved locks =>
      refine ⟨_, .change scanId (.dispatch before.now) _ written, ?_, ?_⟩
      · simp [moved, entries, entersRunning]
      intro other now member
      rcases List.mem_append.mp member with old | new
      · obtain ⟨_, _, same, wrote⟩ := dispatching other now old
        rw [stage] at same
        cases same
        cases wrote
      · cases List.mem_singleton.mp new
        exact ⟨tenantId, .count, task, rfl⟩
  | missed scanId tenantId stage task ledger moved locks =>
      refine ⟨[], ledger ▸ .nothing, by simp [moved, entries], ?_⟩
      intro other now member
      rw [List.append_nil] at member
      obtain ⟨_, _, same, wrote⟩ := dispatching other now member
      rw [stage] at same
      cases same
      cases wrote
  | counted scanId tenantId verdict stage task quota ledger moved locks =>
      refine ⟨[], ledger ▸ .nothing, by simp [moved, entries], ?_⟩
      intro other now member
      rw [List.append_nil] at member
      obtain ⟨_, _, same, _⟩ := dispatching other now member
      rw [stage] at same
      cases same
      refine ⟨tenantId, verdict, task, ?_⟩
      rcases quota with rfl | ⟨rfl, _⟩ <;> rfl

theorem Tracked.initial : Tracked .initial where
  sound := .empty
  pending_created := fun _ _ member => absurd member List.not_mem_nil
  created := fun _ member => absurd member List.not_mem_nil
  moved := fun _ => rfl
  returned := rfl
  dispatching := fun _ _ _ member => absurd member List.not_mem_nil
  dispatched := fun _ _ member => absurd member List.not_mem_nil

theorem Tracked.run {limit : TenantId → Int} {world : World} {txn : Txn} {before : Transaction}
    {after : Effected} (tracked : Tracked world) (opened : world.opened txn = some before)
    (ran : Ran limit world txn before after) :
    Tracked { world with
      ledger := after.ledger
      tenantLock := after.tenantLock
      opened := Function.update world.opened txn
        (some ⟨before.now, after.task, after.moved⟩) } := by
  have dispatching : Dispatching (world.ledger.effects txn) before.task := by
    intro scanId now member
    obtain ⟨_, tenantId, stage, same, task, wrote⟩ := tracked.dispatching txn scanId now member
    rw [opened] at same
    cases same
    exact ⟨tenantId, stage, task, wrote⟩
  obtain ⟨added, wrote, moved, still⟩ := ran.wrote dispatching
  obtain ⟨effects, published, _⟩ := wrote.recorded
  refine ⟨wrote.sound tracked.sound, ?_, ?_, ?_, ?_, ?_, ?_⟩
  · intro other entry member
    rw [effects] at member
    by_cases mine : other = txn
    · subst mine
      rw [Function.update_self] at member
      rcases List.mem_append.mp member with old | new
      · exact tracked.pending_created other entry old
      · exact wrote.created entry new
    · rw [Function.update_of_ne mine] at member
      exact tracked.pending_created other entry member
  · rw [published]
    exact tracked.created
  · intro other
    rw [effects]
    by_cases mine : other = txn
    · subst mine
      have until_now := tracked.moved other
      rw [opened] at until_now
      simp only [Function.update_self, entries_append, until_now]
      exact moved.symm
    · simp only [Function.update_of_ne mine]
      exact tracked.moved other
  · rw [published]
    exact tracked.returned
  · intro other scanId now member
    rw [effects] at member
    by_cases mine : other = txn
    · subst mine
      rw [Function.update_self] at member
      obtain ⟨tenantId, stage, task, past⟩ := still scanId now member
      exact ⟨_, tenantId, stage, Function.update_self .., task, past⟩
    · rw [Function.update_of_ne mine] at member
      obtain ⟨transaction, found⟩ := tracked.dispatching other scanId now member
      refine ⟨transaction, ?_⟩
      simpa only [Function.update_of_ne mine] using found
  · rw [published]
    exact tracked.dispatched

theorem Tracked.commit {world : World} {txn : Txn} {transaction : Transaction}
    (tracked : Tracked world) (opened : world.opened txn = some transaction)
    (committable : transaction.task.committable = true) :
    Tracked { world with
      ledger := world.ledger.commit txn
      tenantLock := releaseTenants world.tenantLock txn
      opened := Function.update world.opened txn none
      returned := world.returned ++ transaction.moved
      dispatches := world.dispatches ++ transaction.task.dispatched world.clock } := by
  have published := Ledger.published_commit world.ledger txn
  refine ⟨tracked.sound.commit txn, ?_, ?_, ?_, ?_, ?_, ?_⟩
  · intro other entry member
    by_cases mine : other = txn
    · subst mine
      simp [Ledger.commit] at member
    · simp only [Ledger.commit, Function.update_of_ne mine] at member
      exact tracked.pending_created other entry member
  · intro entry member
    simp only [published] at member
    rcases List.mem_append.mp member with old | new
    · exact tracked.created entry old
    · exact tracked.pending_created txn entry new
  · intro other
    by_cases mine : other = txn
    · subst mine
      simp [Ledger.commit, entries]
    · simp only [Ledger.commit, Function.update_of_ne mine]
      exact tracked.moved other
  · have moved := tracked.moved txn
    rw [opened] at moved
    simp only [published, entries_append, moved, tracked.returned]
    rfl
  · intro other scanId now member
    by_cases mine : other = txn
    · subst mine
      simp [Ledger.commit] at member
    · simp only [Ledger.commit, Function.update_of_ne mine] at member ⊢
      exact tracked.dispatching other scanId now member
  · intro scanId now member
    simp only [published] at member
    rcases List.mem_append.mp member with old | new
    · obtain ⟨tenantId, time, found⟩ := tracked.dispatched scanId now old
      exact ⟨tenantId, time, List.mem_append_left _ found⟩
    · obtain ⟨_, tenantId, stage, same, task, _⟩ := tracked.dispatching txn scanId now new
      rw [opened] at same
      cases same
      have final : stage = .commit := by
        rw [task] at committable
        cases stage <;> first | rfl | cases committable
      subst final
      refine ⟨tenantId, world.clock, List.mem_append_right _ ?_⟩
      simp [task, Task.dispatched]

theorem Tracked.rollback {world : World} {txn : Txn} (tracked : Tracked world) :
    Tracked { world with
      ledger := world.ledger.rollback txn
      tenantLock := releaseTenants world.tenantLock txn
      opened := Function.update world.opened txn none } := by
  refine ⟨tracked.sound.rollback txn, ?_, tracked.created, ?_, tracked.returned, ?_,
    tracked.dispatched⟩
  · intro other entry member
    by_cases mine : other = txn
    · subst mine
      simp [Ledger.rollback] at member
    · simp only [Ledger.rollback, Function.update_of_ne mine] at member
      exact tracked.pending_created other entry member
  · intro other
    by_cases mine : other = txn
    · subst mine
      simp [Ledger.rollback, entries]
    · simp only [Ledger.rollback, Function.update_of_ne mine]
      exact tracked.moved other
  · intro other scanId now member
    by_cases mine : other = txn
    · subst mine
      simp [Ledger.rollback] at member
    · simp only [Ledger.rollback, Function.update_of_ne mine] at member ⊢
      exact tracked.dispatching other scanId now member

theorem Tracked.begin_ {world : World} {txn : Txn} (tracked : Tracked world)
    (closed : world.opened txn = none) (now : Timestamp) :
    Tracked { world with
      opened := Function.update world.opened txn (some ⟨now, .idle, []⟩) } := by
  refine ⟨tracked.sound, tracked.pending_created, tracked.created, ?_, tracked.returned, ?_,
    tracked.dispatched⟩
  · intro other
    by_cases mine : other = txn
    · subst mine
      have nothing := tracked.moved other
      rw [closed] at nothing
      simpa using nothing
    · simp only [Function.update_of_ne mine]
      exact tracked.moved other
  · intro other scanId now member
    obtain ⟨transaction, tenantId, stage, same, found⟩ :=
      tracked.dispatching other scanId now member
    have mine : other ≠ txn := by
      rintro rfl
      rw [closed] at same
      cases same
    refine ⟨transaction, tenantId, stage, ?_, found⟩
    simp only [Function.update_of_ne mine]
    exact same

theorem Tracked.step {limit : TenantId → Int} {world next : World} {label : Label}
    (tracked : Tracked world) (taken : world.step limit label = some next) : Tracked next := by
  cases step_moved taken with
  | tick later _ => exact { tracked with }
  | begin_ txn closed => exact tracked.begin_ closed world.clock
  | run txn statement before after opened executed => exact tracked.run opened (execute_ran executed)
  | commit txn before opened committable => exact tracked.commit opened committable
  | rollback txn before opened => exact tracked.rollback

theorem reachable_tracked {limit : TenantId → Int} {world : World}
    (reached : (concurrent limit).Reachable world) : Tracked world := by
  refine reached.invariant ?_ ?_
  · rintro _ rfl
    exact .initial
  · intro world next label _ tracked _ taken
    exact tracked.step taken

theorem Tracked.lived {world : World} (tracked : Tracked world) (scanId : ScanId) :
    Lived (world.ledger.history scanId) (world.ledger.table.slot scanId) := by
  refine Scans.lived ?_ (tracked.sound.committed scanId)
  intro effect member
  exact tracked.created _ (Effect.mem_onKey.mp member)

/-- In a history the scan is dispatched, and not moved otherwise, before it enters running. -/
theorem entered_after_dispatch {history : List ScanEffect} {slot : Slot Scan}
    (created : ∀ effect ∈ history, StartsPending effect)
    (replayed : Effect.replay history .fresh = some slot)
    (entered : ∃ effect ∈ history, entersRunning effect = true) :
    ∃ before enter after, history = before ++ enter :: after ∧ entersRunning enter = true ∧
      (∃ now, Effect.change (.dispatch now) ∈ before) ∧
      ∀ effect ∈ before, movesTo effect = none := by
  obtain ⟨enter, member, enters⟩ := entered
  obtain ⟨before, after, rfl⟩ := List.append_of_mem member
  rw [Effect.replay_append] at replayed
  obtain ⟨middle, earlier, later⟩ := Option.bind_eq_some_iff.mp replayed
  obtain ⟨next, applied, _⟩ := Option.bind_eq_some_iff.mp later
  have lived_before : Lived before middle :=
    Scans.lived (fun effect inside => created effect (List.mem_append_left _ inside)) earlier
  obtain ⟨scan, _, live, _, _, edge, ready⟩ :=
    movesTo_some_apply (entersRunning_iff.mp enters) applied
  refine ⟨before, enter, after, rfl, enters, ?_, ?_⟩
  · exact lived_before.dispatched scan live (ready rfl)
  · exact lived_before.still (.inr ⟨scan, live, edge_running edge⟩)

/-- A scan is executed at most once, whatever the interleaving, and only after a
committed dispatch and no other move. -/
theorem at_most_one_execution (limit : TenantId → Int) {world : World}
    (reached : (concurrent limit).Reachable world) :
    (∀ scanId, runningEntries (world.ledger.history scanId) .fresh ≤ 1) ∧
      world.returned.Nodup ∧
      ∀ scanId ∈ world.returned,
        (∃ tenantId time, (scanId, tenantId, time) ∈ world.dispatches) ∧
        ∃ before enter after, world.ledger.history scanId = before ++ enter :: after ∧
          entersRunning enter = true ∧ (∃ now, Effect.change (.dispatch now) ∈ before) ∧
          ∀ effect ∈ before, movesTo effect = none := by
  have tracked := reachable_tracked reached
  have once := fun scanId => (tracked.lived scanId).once
  have count (scanId : ScanId) : world.returned.count scanId =
      (world.ledger.history scanId).countP entersRunning := by
    rw [tracked.returned, count_entries]
    rfl
  refine ⟨once, ?_, ?_⟩
  · rw [List.nodup_iff_count_le_one]
    intro scanId
    rw [count, ← (tracked.lived scanId).counted]
    exact once scanId
  · intro scanId member
    have some_entry : ∃ effect ∈ world.ledger.history scanId, entersRunning effect = true := by
      rw [← List.countP_pos_iff, ← count]
      exact List.count_pos_iff.mpr member
    have created : ∀ effect ∈ world.ledger.history scanId, StartsPending effect :=
      fun effect inside => tracked.created _ (Effect.mem_onKey.mp inside)
    obtain ⟨before, enter, after, split, enters, ⟨now, dispatched⟩, still⟩ :=
      entered_after_dispatch created (tracked.sound.committed scanId) some_entry
    have inside : Effect.change (.dispatch now) ∈ world.ledger.history scanId := by
      rw [split]
      exact List.mem_append_left _ dispatched
    exact ⟨tracked.dispatched scanId now (Effect.mem_onKey.mp inside),
      before, enter, after, split, enters, ⟨now, dispatched⟩, still⟩

/-- Create, dispatch, then a claim and a direct transition that compete for the scan. -/
def competingRun : List Label :=
  [.begin_ 0, .run 0 (.createScan firstScan 1 0), .commit 0,
    .begin_ 1, .run 1 (.dispatchRead 0), .run 1 .dispatchNext, .run 1 .dispatchNext,
    .run 1 .dispatchNext, .commit 1,
    .begin_ 2, .run 2 (.claimSelect (some 0)), .begin_ 3, .run 2 .claimUpdate, .commit 2,
    .run 3 (.transitionScan 0 ⟨.running, none, none, by decide, by decide, nofun, nofun⟩ 9),
    .commit 3]

theorem at_most_one_execution_competing :
    ∃ world, (concurrent fun _ => 1).exec .initial competingRun = some world ∧
      world.returned = [0] ∧ world.returned.Nodup := by
  have run : ∃ world, (concurrent fun _ => 1).exec .initial competingRun = some world ∧
      world.returned = [0] := ⟨_, rfl, by decide⟩
  obtain ⟨world, run, returned⟩ := run
  refine ⟨world, run, returned, ?_⟩
  exact (at_most_one_execution _ (Machine.Reachable.exec (.start rfl) run)).2.1

end Scans
