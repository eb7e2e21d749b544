import Mathlib.Logic.Relation
import Soc360.Scans.Service
import Soc360.Store.Machine

set_option autoImplicit false

namespace Scans

/-- An edge of `SCAN_TRANSITIONS`. -/
def Edge (source target : ScanStatus) : Prop := target ∈ scanTransitions source

instance (source target : ScanStatus) : Decidable (Edge source target) :=
  inferInstanceAs (Decidable (_ ∈ _))

theorem mem_allowedFrom {source target : ScanStatus} :
    source ∈ allowedFrom target ↔ Edge source target := by
  cases source <;> cases target <;> decide

theorem terminal_no_edge {source target : ScanStatus} (terminal : source ∈ terminalStatuses) :
    ¬ Edge source target := by
  cases source <;> cases target <;> revert terminal <;> decide

/-- The five lifecycle columns agree with the status. -/
structure Coherent (scan : Scan) : Prop where
  started : scan.status = .running ∨ scan.status = .completed →
    scan.startedAt.isSome = true ∧ scan.dispatchedAt.isSome = true
  unstarted : scan.status = .pending → scan.startedAt = none
  completed : scan.completedAt.isSome = true ↔ scan.status ∈ terminalStatuses
  reason : scan.failureReason.isSome = true ↔ scan.status = .failed
  reason_length : ∀ reason ∈ scan.failureReason, 1 ≤ reason.length ∧ reason.length ≤ 64
  output : scan.rawOutput.isSome = true → scan.status = .completed ∨ scan.status = .failed

/-- The columns an outcome fixes for good. -/
structure Frozen (before after : Scan) : Prop where
  status : after.status = before.status
  startedAt : after.startedAt = before.startedAt
  completedAt : after.completedAt = before.completedAt
  failureReason : after.failureReason = before.failureReason
  rawOutput : after.rawOutput = before.rawOutput

theorem Frozen.refl (scan : Scan) : Frozen scan scan := ⟨rfl, rfl, rfl, rfl, rfl⟩

theorem Frozen.trans {first second third : Scan} (before : Frozen first second)
    (after : Frozen second third) : Frozen first third where
  status := after.status.trans before.status
  startedAt := after.startedAt.trans before.startedAt
  completedAt := after.completedAt.trans before.completedAt
  failureReason := after.failureReason.trans before.failureReason
  rawOutput := after.rawOutput.trans before.rawOutput

/-- What one statement may do to a row that survives it. -/
structure Follows (before after : Scan) : Prop where
  edge : after.status = before.status ∨ Edge before.status after.status
  frozen : before.status ∈ terminalStatuses → Frozen before after

theorem matching_status {change : ScanChange} {scan : Scan}
    (matching : change.matching scan = true) :
    (change.values scan).status = scan.status ∨
      Edge scan.status (change.values scan).status := by
  cases change with
  | dispatch now => exact .inl rfl
  | claim now =>
      simp only [ScanChange.matching, Scan.ready, Bool.and_eq_true, beq_iff_eq] at matching
      right
      rw [matching.1]
      change Edge .pending .running
      decide
  | transition args now =>
      simp only [ScanChange.matching, Bool.and_eq_true, decide_eq_true_eq] at matching
      exact .inr (mem_allowedFrom.mp matching.1)
  | reap older now =>
      simp only [ScanChange.matching, Scan.stale, Bool.and_eq_true, beq_iff_eq] at matching
      right
      rw [matching.1]
      change Edge .running .failed
      decide
  | edit columns => exact .inl rfl

theorem matching_terminal {change : ScanChange} {scan : Scan}
    (matching : change.matching scan = true) (terminal : scan.status ∈ terminalStatuses) :
    ∃ columns, change = .edit columns := by
  have open_status : scan.status ≠ .pending ∧ scan.status ≠ .running := by
    constructor <;> intro same <;> rw [same] at terminal <;> revert terminal <;> decide
  cases change with
  | dispatch now => simp [ScanChange.matching, open_status.1] at matching
  | claim now => simp [ScanChange.matching, Scan.ready, open_status.1] at matching
  | transition args now =>
      simp only [ScanChange.matching, Bool.and_eq_true, decide_eq_true_eq] at matching
      exact absurd (mem_allowedFrom.mp matching.1) (terminal_no_edge terminal)
  | reap older now => simp [ScanChange.matching, Scan.stale, open_status.2] at matching
  | edit columns => exact ⟨columns, rfl⟩

theorem act_follows {change : ScanChange} {scan next : Scan}
    (acted : RowAction.act change scan = some next) : Follows scan next := by
  obtain ⟨matching, rfl⟩ := act_some.mp acted
  refine ⟨matching_status matching, ?_⟩
  intro terminal
  obtain ⟨columns, rfl⟩ := matching_terminal matching terminal
  exact ⟨rfl, rfl, rfl, rfl, rfl⟩

theorem claim_coherent {scan : Scan} {now : Timestamp} (coherent : Coherent scan)
    (ready : scan.ready = true) : Coherent ((ScanChange.claim now).values scan) := by
  simp only [Scan.ready, Bool.and_eq_true, beq_iff_eq] at ready
  have completed := coherent.completed
  have reason := coherent.reason
  have output := coherent.output
  rw [ready.1] at completed reason output
  refine ⟨fun _ => ⟨rfl, ready.2⟩, nofun, ?_, ?_, coherent.reason_length, ?_⟩
  · have both_open : ScanStatus.pending ∈ terminalStatuses ↔ .running ∈ terminalStatuses := by
      decide
    exact completed.trans both_open
  · have both_other : ScanStatus.pending = .failed ↔ ScanStatus.running = .failed := by decide
    exact reason.trans both_other
  · intro given
    rcases output given with same | same <;> cases same

theorem reap_coherent (scan : Scan) (older now : Nat) :
    Coherent ((ScanChange.reap older now).values scan) := by
  refine ⟨?_, nofun, ?_, ?_, ?_, fun _ => .inr rfl⟩
  · rintro (same | same) <;> cases same
  · have terminal : ScanStatus.failed ∈ terminalStatuses := by decide
    exact iff_of_true rfl terminal
  · exact iff_of_true rfl rfl
  · intro reason given
    cases given
    decide

theorem transition_coherent {scan : Scan} {args : Transition} {now : Timestamp}
    (coherent : Coherent scan)
    (matching : (ScanChange.transition args now).matching scan = true) :
    Coherent ((ScanChange.transition args now).values scan) := by
  simp only [ScanChange.matching, Bool.and_eq_true, decide_eq_true_eq, Bool.or_eq_true,
    bne_iff_ne] at matching
  obtain ⟨source, dispatched⟩ := matching
  have edge : Edge scan.status args.target := mem_allowedFrom.mp source
  have open_source : scan.status ∉ terminalStatuses := fun terminal => terminal_no_edge terminal edge
  have no_completion : scan.completedAt = none := by
    have absent := mt coherent.completed.mp open_source
    simpa using absent
  have no_reason : scan.failureReason = none := by
    have absent : ¬ scan.failureReason.isSome = true := by
      intro given
      rw [coherent.reason.mp given] at open_source
      exact open_source (by decide)
    simpa using absent
  have no_output : scan.rawOutput = none := by
    have absent : ¬ scan.rawOutput.isSome = true := by
      intro given
      rcases coherent.output given with same | same <;> rw [same] at open_source <;>
        exact open_source (by decide)
    simpa using absent
  refine ⟨?_, ?_, ?_, ?_, ?_, ?_⟩
  · rintro (running | completed)
    · change args.target = .running at running
      refine ⟨by simp [ScanChange.values, running], ?_⟩
      exact dispatched.resolve_left (fun differ => differ running)
    · change args.target = .completed at completed
      have from_running : scan.status = .running := by
        rw [completed] at edge
        cases same : scan.status <;> rw [same] at edge <;> revert edge <;> decide
      simpa [ScanChange.values, completed] using coherent.started (.inl from_running)
  · intro pending
    change args.target = .pending at pending
    exact absurd (by rw [pending]; decide) args.entered
  · simp [ScanChange.values, no_completion]
  · by_cases failed : args.target = .failed
    · simpa [ScanChange.values, failed] using args.reason_failed
    · simp [ScanChange.values, failed, no_reason]
  · intro reason given
    by_cases failed : args.target = .failed
    · simp only [ScanChange.values, failed, if_true] at given
      exact args.reason_length reason given
    · simp [ScanChange.values, failed, no_reason] at given
  · intro given
    refine args.raw_outcome ?_
    simpa [ScanChange.values, no_output] using given

theorem act_coherent {change : ScanChange} {scan next : Scan} (coherent : Coherent scan)
    (acted : RowAction.act change scan = some next) : Coherent next := by
  obtain ⟨matching, rfl⟩ := act_some.mp acted
  cases change with
  | dispatch now =>
      simp only [ScanChange.matching, Bool.and_eq_true, beq_iff_eq] at matching
      refine ⟨?_, coherent.unstarted, coherent.completed, coherent.reason,
        coherent.reason_length, coherent.output⟩
      exact fun running => ⟨(coherent.started running).1, rfl⟩
  | claim now => exact claim_coherent coherent matching
  | transition args now => exact transition_coherent coherent matching
  | reap older now => exact reap_coherent scan older now
  | edit columns =>
      exact ⟨coherent.started, coherent.unstarted, coherent.completed, coherent.reason,
        coherent.reason_length, coherent.output⟩

theorem row_coherent (data : ScanCreate) (tenantId : TenantId) (config : JsonObject) :
    Coherent (data.row tenantId config) := by
  refine ⟨?_, fun _ => rfl, ?_, ?_, ?_, ?_⟩
  · rintro (same | same) <;> cases same
  · change false = true ↔ ScanStatus.pending ∈ terminalStatuses
    decide
  · change false = true ↔ ScanStatus.pending = .failed
    decide
  · intro reason given
    cases given
  · intro given
    cases given

/-- What one statement may do under one key. -/
inductive SlotStep : Slot Scan → Slot Scan → Prop
  | same (slot : Slot Scan) : SlotStep slot slot
  | created (scan : Scan) (coherent : Coherent scan) : SlotStep .fresh (.live scan)
  | changed (scan after : Scan) (follows : Follows scan after)
      (coherent : Coherent scan → Coherent after) : SlotStep (.live scan) (.live after)
  | removed (scan : Scan) : SlotStep (.live scan) .gone

abbrev Evolves : Slot Scan → Slot Scan → Prop := Relation.ReflTransGen SlotStep

theorem evolves_coherent {slot : Slot Scan} (evolved : Evolves .fresh slot) :
    ∀ scan, slot = .live scan → Coherent scan := by
  induction evolved with
  | refl =>
      intro scan live
      cases live
  | tail before step ih =>
      intro scan live
      cases step with
      | same => exact ih scan live
      | created created coherent =>
          cases live
          exact coherent
      | changed old new follows coherent =>
          cases live
          exact coherent (ih old rfl)
      | removed => cases live

/-- From a live row: the row is still there, along edges and frozen once terminal,
or it was deleted. -/
theorem evolves_live {scan : Scan} {slot : Slot Scan} (evolved : Evolves (.live scan) slot) :
    slot = .gone ∨ ∃ after, slot = .live after ∧
      Relation.ReflTransGen Edge scan.status after.status ∧
      (scan.status ∈ terminalStatuses → Frozen scan after) := by
  induction evolved with
  | refl => exact .inr ⟨scan, rfl, .refl, fun _ => .refl scan⟩
  | tail before step ih =>
      rcases ih with gone | ⟨middle, live, path, frozen⟩
      · subst gone
        cases step
        exact .inl rfl
      · subst live
        cases step with
        | same => exact .inr ⟨middle, rfl, path, frozen⟩
        | changed _ after follows coherent =>
            refine .inr ⟨after, rfl, ?_, ?_⟩
            · rcases follows.edge with same | edge
              · rw [same]
                exact path
              · exact path.tail edge
            · intro terminal
              have until_now := frozen terminal
              have still : middle.status ∈ terminalStatuses := by
                rw [until_now.status]
                exact terminal
              exact until_now.trans (follows.frozen still)
        | removed => exact .inl rfl

/-- The write statements of the scan module. -/
inductive Written (before : Table ScanId Scan) : Table ScanId Scan → Prop
  | nothing : Written before before
  | update (change : ScanChange) (selected : ScanId → Bool) :
      Written before (before.update (change.onKeys selected))
  | insert (scanId : ScanId) (scan : Scan) (new : scanId ∉ before.keys)
      (coherent : Coherent scan) : Written before (before.insert scanId scan)
  | delete (scanId : ScanId) (scan : Scan) (found : before.slot scanId = .live scan) :
      Written before (before.delete scanId)

theorem Written.listed {before after : Table ScanId Scan} (written : Written before after)
    (listed : before.Listed) : after.Listed := by
  cases written with
  | nothing => exact listed
  | update change selected => exact listed.update _
  | insert scanId scan new coherent => exact listed.insert new
  | delete scanId scan found => exact listed.delete (listed.known scanId (by simp [found]))

theorem Written.step {before after : Table ScanId Scan} (written : Written before after)
    (listed : before.Listed) (key : ScanId) : SlotStep (before.slot key) (after.slot key) := by
  cases written with
  | nothing => exact .same _
  | update change selected =>
      rw [Table.slot_update]
      cases slot : before.slot key with
      | fresh => exact .same _
      | gone => exact .same _
      | live scan =>
          cases acted : change.onKeys selected key scan with
          | none =>
              simp only [acted, Option.getD_none]
              exact .same _
          | some next =>
              have applied : RowAction.act change scan = some next := by
                unfold ScanChange.onKeys at acted
                split at acted
                · exact acted
                · cases acted
              simp only [acted, Option.getD_some]
              exact .changed scan next (act_follows applied)
                fun coherent => act_coherent coherent applied
  | insert scanId scan new coherent =>
      by_cases same : key = scanId
      · subst same
        have unused : before.slot key = .fresh := by
          by_contra used
          exact new (listed.known key used)
        rw [unused]
        simpa [Table.insert] using SlotStep.created scan coherent
      · simpa [Table.insert, same] using SlotStep.same (before.slot key)
  | delete scanId scan found =>
      by_cases same : key = scanId
      · subst same
        rw [found]
        simpa [Table.delete] using SlotStep.removed scan
      · simpa [Table.delete, same] using SlotStep.same (before.slot key)

/-- One call of the scan module, or the caller closing its transaction. -/
inductive Call where
  | createScan (data : ScanCreate) (tenantId : TenantId) (assetExists : Bool) (scanId : ScanId)
  | updateScan (scanId : ScanId) (tenantId : Option TenantId) (data : ScanUpdate)
  | dispatchScan (scanId : ScanId) (tenantId : Option TenantId) (limit : Int) (now : Timestamp)
  | claimNextScan (now : Timestamp)
  | transitionScan (now : Timestamp) (scanId : ScanId) (target : String)
      (failureReason rawOutput : Option String) (commit : Bool)
  | cancelScanState (now : Timestamp) (scanId : ScanId)
  | cancelScan (scanId : ScanId) (tenantId : Option TenantId) (now : Timestamp)
  | reapStaleScans (olderThanSeconds : Int) (now : Timestamp)
  | deleteScan (scanId : ScanId) (tenantId : Option TenantId)
  | commit
  | rollback

def Call.run (repr : String → String) (session : Session ScanId Scan) :
    Call → Session ScanId Scan
  | createScan data tenantId assetExists scanId =>
      (Scans.createScan repr data tenantId assetExists scanId session).2
  | updateScan scanId tenantId data => (Scans.updateScan scanId tenantId data session).2
  | dispatchScan scanId tenantId limit now =>
      (Scans.dispatchScan scanId tenantId limit now session).2
  | claimNextScan now => (Scans.claimNextScan now session).2
  | transitionScan now scanId target failureReason rawOutput commits =>
      (Scans.transitionScan repr now session scanId target failureReason rawOutput commits).2
  | cancelScanState now scanId => (Scans.cancelScanState repr now session scanId).2
  | cancelScan scanId tenantId now => (Scans.cancelScan repr scanId tenantId now session).2
  | reapStaleScans olderThanSeconds now => (Scans.reapStaleScans olderThanSeconds now session).2
  | deleteScan scanId tenantId => (Scans.deleteScan scanId tenantId session).2
  | commit => session.commit
  | rollback => session.rollback

/-- A `uuid4` repeats no identifier of the table. -/
def Call.fresh (session : Session ScanId Scan) : Call → Bool
  | createScan _ _ _ scanId => decide (scanId ∉ session.working.keys)
  | _ => true

/-- The scan module called in any order, starting from the empty table. -/
def lifecycle (repr : String → String) : Machine (Session ScanId Scan) Call where
  start session := session = .start .empty
  step session call := if call.fresh session then some (call.run repr session) else none

/-- A call is one write statement, kept or committed, or it rolls back. -/
def Outcome (session next : Session ScanId Scan) : Prop :=
  next = session.rollback ∨ ∃ table, Written session.working table ∧
    (next = { session with working := table } ∨ next = .start table)

theorem Outcome.unchanged (session : Session ScanId Scan) : Outcome session session :=
  .inr ⟨session.working, .nothing, .inl rfl⟩

theorem Outcome.committed (session : Session ScanId Scan) (change : ScanChange)
    (selected : ScanId → Bool) :
    Outcome session (session.update (change.onKeys selected)).commit :=
  .inr ⟨_, .update change selected, .inr rfl⟩

theorem Outcome.kept (session : Session ScanId Scan) (change : ScanChange)
    (selected : ScanId → Bool) : Outcome session (session.update (change.onKeys selected)) :=
  .inr ⟨_, .update change selected, .inl rfl⟩

theorem Outcome.commit {session next : Session ScanId Scan} (outcome : Outcome session next) :
    Outcome session next.commit := by
  rcases outcome with rfl | ⟨table, written, rfl | rfl⟩
  · exact .inl rfl
  · exact .inr ⟨table, written, .inr rfl⟩
  · exact .inr ⟨table, written, .inr rfl⟩

theorem Outcome.rollback {session next : Session ScanId Scan} (outcome : Outcome session next) :
    Outcome session next.rollback := by
  rcases outcome with rfl | ⟨table, written, rfl | rfl⟩
  · exact .inl rfl
  · exact .inl rfl
  · exact .inr ⟨table, written, .inr rfl⟩

theorem getScan_some {scanId : ScanId} {tenantId : Option TenantId}
    {table : Table ScanId Scan} {scan : Scan}
    (found : getScan scanId tenantId table = some scan) : table.slot scanId = .live scan := by
  have stored := (Option.filter_eq_some_iff.mp found).1
  exact Slot.row?_eq_some.mp stored

theorem transitionScan_outcome (repr : String → String) (now : Timestamp)
    (session : Session ScanId Scan) (scanId : ScanId) (target : String)
    (failureReason rawOutput : Option String) (commits : Bool) :
    Outcome session
      (transitionScan repr now session scanId target failureReason rawOutput commits).2 := by
  unfold transitionScan
  split
  next => exact .unchanged session
  next args _ =>
    cases commits
    · exact .kept session (.transition args now) (· == scanId)
    · exact .committed session (.transition args now) (· == scanId)

theorem createScan_outcome (repr : String → String) (data : ScanCreate) (tenantId : TenantId)
    (assetExists : Bool) {scanId : ScanId} {session : Session ScanId Scan}
    (new : scanId ∉ session.working.keys) :
    Outcome session (createScan repr data tenantId assetExists scanId session).2 := by
  unfold createScan
  split
  next => exact .unchanged session
  next normalised _ =>
    split
    next => exact .inl rfl
    next =>
      split
      next => exact .inr ⟨_, .insert scanId _ new (row_coherent data tenantId normalised), .inr rfl⟩
      next => exact .inl rfl

theorem updateScan_outcome (scanId : ScanId) (tenantId : Option TenantId) (data : ScanUpdate)
    (session : Session ScanId Scan) :
    Outcome session (updateScan scanId tenantId data session).2 := by
  unfold updateScan
  split
  next => exact .unchanged session
  next scan _ =>
    simp only
    split
    next => exact .unchanged session
    next normalised _ =>
      split
      next => exact .inl rfl
      next name _ =>
        split
        next => exact .inl rfl
        next => exact .committed session _ (· == scanId)

theorem dispatchScan_outcome (scanId : ScanId) (tenantId : Option TenantId) (limit : Int)
    (now : Timestamp) (session : Session ScanId Scan) :
    Outcome session (dispatchScan scanId tenantId limit now session).2 := by
  unfold dispatchScan
  split
  next => exact .unchanged session
  next scan _ =>
    simp only
    split
    next => exact .inl rfl
    next =>
      split
      next => exact .inl rfl
      next => exact .committed session (.dispatch now) (· == scanId)

theorem claimNextScan_outcome (now : Timestamp) (session : Session ScanId Scan) :
    Outcome session (claimNextScan now session).2 := by
  unfold claimNextScan
  split
  next => exact .inr ⟨session.working, .nothing, .inr rfl⟩
  next oldest _ => exact .committed session (.claim now) (· == oldest)

theorem reapStaleScans_outcome (olderThanSeconds : Int) (now : Timestamp)
    (session : Session ScanId Scan) :
    Outcome session (reapStaleScans olderThanSeconds now session).2 := by
  unfold reapStaleScans
  split
  next => exact .unchanged session
  next => exact .committed session (.reap olderThanSeconds.toNat now) fun _ => true

theorem cancelScan_outcome (repr : String → String) (scanId : ScanId)
    (tenantId : Option TenantId) (now : Timestamp) (session : Session ScanId Scan) :
    Outcome session (cancelScan repr scanId tenantId now session).2 := by
  unfold cancelScan
  split
  next => exact .unchanged session
  next =>
    have moved := transitionScan_outcome repr now session scanId "cancelled" none none false
    split
    next updated same =>
      rw [same] at moved
      exact moved.commit
    next updated _ same =>
      rw [same] at moved
      exact moved.rollback

theorem deleteScan_outcome (scanId : ScanId) (tenantId : Option TenantId)
    (session : Session ScanId Scan) :
    Outcome session (deleteScan scanId tenantId session).2 := by
  unfold deleteScan
  split
  next => exact .unchanged session
  next scan found => exact .inr ⟨_, .delete scanId scan (getScan_some found), .inr rfl⟩

theorem run_outcome (repr : String → String) {session : Session ScanId Scan} {call : Call}
    (fresh : call.fresh session = true) : Outcome session (call.run repr session) := by
  cases call with
  | createScan data tenantId assetExists scanId =>
      exact createScan_outcome repr data tenantId assetExists (of_decide_eq_true fresh)
  | updateScan scanId tenantId data => exact updateScan_outcome scanId tenantId data session
  | dispatchScan scanId tenantId limit now =>
      exact dispatchScan_outcome scanId tenantId limit now session
  | claimNextScan now => exact claimNextScan_outcome now session
  | transitionScan now scanId target failureReason rawOutput commits =>
      exact transitionScan_outcome repr now session scanId target failureReason rawOutput commits
  | cancelScanState now scanId =>
      exact transitionScan_outcome repr now session scanId "cancelled" none none true
  | cancelScan scanId tenantId now =>
      exact cancelScan_outcome repr scanId tenantId now session
  | reapStaleScans olderThanSeconds now =>
      exact reapStaleScans_outcome olderThanSeconds now session
  | deleteScan scanId tenantId => exact deleteScan_outcome scanId tenantId session
  | commit => exact (Outcome.unchanged session).commit
  | rollback => exact .inl rfl

/-- Every key has a history of write statements, and the open transaction adds to it. -/
structure Recorded (session : Session ScanId Scan) : Prop where
  listed : session.committed.Listed
  working_listed : session.working.Listed
  committed : ∀ key, Evolves .fresh (session.committed.slot key)
  working : ∀ key, Evolves (session.committed.slot key) (session.working.slot key)

theorem Recorded.start {table : Table ScanId Scan} (listed : table.Listed)
    (evolved : ∀ key, Evolves .fresh (table.slot key)) : Recorded (.start table) :=
  ⟨listed, listed, evolved, fun _ => .refl⟩

theorem Recorded.outcome {session next : Session ScanId Scan} (recorded : Recorded session)
    (outcome : Outcome session next) : Recorded next := by
  rcases outcome with rfl | ⟨table, written, rfl | rfl⟩
  · exact .start recorded.listed recorded.committed
  · refine ⟨recorded.listed, written.listed recorded.working_listed, recorded.committed, ?_⟩
    intro key
    exact (recorded.working key).tail (written.step recorded.working_listed key)
  · refine .start (written.listed recorded.working_listed) ?_
    intro key
    have evolved := (recorded.committed key).trans (recorded.working key)
    exact evolved.tail (written.step recorded.working_listed key)

theorem lifecycle_step {repr : String → String} {session next : Session ScanId Scan}
    {call : Call} (taken : (lifecycle repr).step session call = some next) :
    Outcome session next := by
  change (if call.fresh session then some (call.run repr session) else none) = some next at taken
  split at taken
  next fresh =>
    cases taken
    exact run_outcome repr fresh
  next => cases taken

theorem lifecycle_recorded {repr : String → String} {session : Session ScanId Scan}
    (reached : (lifecycle repr).Reachable session) : Recorded session := by
  refine reached.invariant ?_ ?_
  · rintro _ rfl
    exact .start .empty fun _ => .refl
  · intro session next call _ recorded _ taken
    exact recorded.outcome (lifecycle_step taken)

/-- A run only ever adds statements to what was committed. -/
theorem lifecycle_extends {repr : String → String} {session last : Session ScanId Scan}
    {calls : List Call} (recorded : Recorded session)
    (run : (lifecycle repr).exec session calls = some last) (key : ScanId) :
    Evolves (session.committed.slot key) (last.committed.slot key) := by
  have kept := Machine.exec_preserves
    (fun state => Recorded state ∧
      Evolves (session.committed.slot key) (state.committed.slot key))
    ?_ ⟨recorded, .refl⟩ run
  · exact kept.2
  · intro state next call ⟨recorded, evolved⟩ taken
    have outcome := lifecycle_step taken
    refine ⟨recorded.outcome outcome, ?_⟩
    rcases outcome with rfl | ⟨table, written, rfl | rfl⟩
    · exact evolved
    · exact evolved
    · have added := (recorded.working key).tail (written.step recorded.working_listed key)
      exact evolved.trans added

/-- The lifecycle of scans over whole runs: every row is coherent, every statement
moves along an edge, outcomes are final, and rejected arguments change nothing. -/
theorem scan_lifecycle (repr : String → String) {session : Session ScanId Scan}
    (reached : (lifecycle repr).Reachable session) :
    (∀ scanId scan, session.committed.find scanId = some scan ∨
        session.working.find scanId = some scan → Coherent scan) ∧
      (∀ call next, (lifecycle repr).step session call = some next →
        next = session.rollback ∨ ∀ scanId scan after,
          session.working.find scanId = some scan → next.working.find scanId = some after →
            Follows scan after) ∧
      (∀ calls last, (lifecycle repr).exec session calls = some last →
        ∀ scanId scan after, session.committed.find scanId = some scan →
          last.committed.find scanId = some after →
            Relation.ReflTransGen Edge scan.status after.status ∧
              (scan.status ∈ terminalStatuses → Frozen scan after)) ∧
      ∀ now scanId target failureReason rawOutput commits message,
        (transitionScan repr now session scanId target failureReason rawOutput commits).1 =
            .error message →
          (lifecycle repr).step session
            (.transitionScan now scanId target failureReason rawOutput commits) =
              some session := by
  have recorded := lifecycle_recorded reached
  refine ⟨?_, ?_, ?_, ?_⟩
  · rintro scanId scan (found | found)
    · have live := Slot.row?_eq_some.mp found
      exact evolves_coherent (recorded.committed scanId) scan live
    · have live := Slot.row?_eq_some.mp found
      have evolved := (recorded.committed scanId).trans (recorded.working scanId)
      exact evolves_coherent evolved scan live
  · intro call next taken
    rcases lifecycle_step taken with rolled | ⟨table, written, kept⟩
    · exact .inl rolled
    · right
      intro scanId scan after found found_after
      have step := written.step recorded.working_listed scanId
      have working : next.working = table := by rcases kept with rfl | rfl <;> rfl
      rw [Slot.row?_eq_some.mp found] at step
      rw [working] at found_after
      rw [Slot.row?_eq_some.mp found_after] at step
      cases step with
      | same => exact ⟨.inl rfl, fun _ => .refl scan⟩
      | changed _ _ follows _ => exact follows
  · intro calls last run scanId scan after found found_after
    have evolved := lifecycle_extends recorded run scanId
    rw [Slot.row?_eq_some.mp found] at evolved
    rcases evolves_live evolved with gone | ⟨row, live, path, frozen⟩
    · rw [Table.find, gone] at found_after
      cases found_after
    · rw [Table.find, live] at found_after
      cases found_after
      exact ⟨path, frozen⟩
  · intro now scanId target failureReason rawOutput commits message rejected
    change some (transitionScan repr now session scanId target failureReason rawOutput
      commits).2 = some session
    unfold transitionScan at rejected ⊢
    split at rejected
    next => rfl
    next => cases rejected

def firstScan : ScanCreate := ⟨7, "nightly", .discovery, [("host_discovery", .bool true)]⟩

def firstRun : List Call :=
  [.createScan firstScan 1 true 0, .dispatchScan 0 (some 1) 5 100, .claimNextScan 200,
    .transitionScan 300 0 "completed" none (some "<nmaprun/>") false, .commit]

theorem scan_lifecycle_completed :
    ∃ session, (lifecycle id).exec (.start .empty) firstRun = some session ∧
      (session.committed.find 0).map Scan.status = some .completed ∧
      ∀ scanId scan, session.committed.find scanId = some scan ∨
        session.working.find scanId = some scan → Coherent scan := by
  have run : (lifecycle id).exec (.start .empty) firstRun =
      some (firstRun.foldl (Call.run id) (.start .empty)) := rfl
  refine ⟨_, run, by decide, ?_⟩
  exact (scan_lifecycle id (Machine.Reachable.exec (.start rfl) run)).1

end Scans
