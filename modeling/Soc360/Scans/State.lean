import Soc360.Scans.Config
import Soc360.Store.Ledger

set_option autoImplicit false

namespace Scans

abbrev ScanId := Nat
abbrev TenantId := Nat
abbrev AssetId := Nat

/-- Microseconds since the epoch. -/
abbrev Timestamp := Nat

inductive ScanStatus where
  | pending
  | running
  | completed
  | failed
  | cancelled
  deriving DecidableEq, Repr

def ScanStatus.value : ScanStatus → String
  | pending => "pending"
  | running => "running"
  | completed => "completed"
  | failed => "failed"
  | cancelled => "cancelled"

/-- The keys of `SCAN_TRANSITIONS`. -/
def scanStatuses : List ScanStatus := [.pending, .running, .completed, .failed, .cancelled]

/-- `SCAN_TRANSITIONS`: allowed outgoing edges per status. -/
def scanTransitions : ScanStatus → List ScanStatus
  | .pending => [.running, .cancelled, .failed]
  | .running => [.completed, .failed, .cancelled]
  | .completed => []
  | .failed => []
  | .cancelled => []

def terminalStatuses : List ScanStatus := [.completed, .failed, .cancelled]

/-- `_ALLOWED_FROM`: the reverse index of `scanTransitions`. -/
def allowedFrom (target : ScanStatus) : List ScanStatus :=
  scanStatuses.filter fun source => decide (target ∈ scanTransitions source)

def ScanStatus.ofString? (target : String) : Option ScanStatus :=
  scanStatuses.find? fun status => status.value == target

/-- A row of `scans`. -/
structure Scan where
  tenantId : TenantId
  assetId : AssetId
  name : String
  scanType : ScanType
  status : ScanStatus
  config : Option JsonObject
  dispatchedAt : Option Timestamp
  startedAt : Option Timestamp
  completedAt : Option Timestamp
  failureReason : Option String
  rawOutput : Option String

/-- Arguments that pass the checks of `transition_scan`. -/
structure Transition where
  target : ScanStatus
  failureReason : Option String
  rawOutput : Option String
  entered : allowedFrom target ≠ []
  reason_failed : failureReason.isSome = true ↔ target = .failed
  reason_length : ∀ reason ∈ failureReason, 1 ≤ reason.length ∧ reason.length ≤ 64
  raw_outcome : rawOutput.isSome = true → target = .completed ∨ target = .failed

/-- The message of a `ValueError` raised before any statement reaches the database. -/
abbrev ValueError := String

/-- The checks at the head of `transition_scan`. `repr` is Python's rendering of a string. -/
def checkTransition (repr : String → String) (target : String)
    (failureReason rawOutput : Option String) : Except ValueError Transition :=
  match ScanStatus.ofString? target with
  | none => .error ("unknown scan status " ++ repr target)
  | some status =>
      if entered : allowedFrom status = [] then
        .error ("scan status " ++ repr target ++ " cannot be reached by any transition")
      else if missing : status = .failed ∧ (failureReason = none ∨ failureReason = some "") then
        .error "failure_reason is required when transitioning to 'failed'"
      else if forbidden : status ≠ .failed ∧ failureReason.isSome = true then
        .error "failure_reason is only allowed when transitioning to 'failed'"
      else if long : (failureReason.any fun reason => decide (64 < reason.length)) = true then
        .error "failure_reason must not exceed 64 characters"
      else if raw : rawOutput.isSome = true ∧ status ∉ [ScanStatus.completed, .failed] then
        .error "raw_output is only allowed for completed or failed scans"
      else .ok {
        target := status
        failureReason := failureReason
        rawOutput := rawOutput
        entered := entered
        reason_failed := by
          by_cases failed : status = .failed
          · cases failureReason <;> simp_all
          · cases failureReason <;> simp_all
        reason_length := by
          intro reason given
          cases given
          refine ⟨?_, by simpa using long⟩
          have failed : status = .failed := by
            by_contra other
            exact forbidden ⟨other, rfl⟩
          have nonempty : reason ≠ "" := by
            rintro rfl
            exact missing ⟨failed, .inr rfl⟩
          exact Nat.one_le_iff_ne_zero.mpr fun zero => nonempty (String.length_eq_zero_iff.mp zero)
        raw_outcome := by
          intro given
          by_contra other
          exact raw ⟨given, by simpa using other⟩ }

/-- The columns a `PATCH` writes: those whose value changed. -/
structure ScanEdit where
  name : Option String
  scanType : Option ScanType
  config : Option JsonObject

/-- The conditional `UPDATE` statements on `scans`. -/
inductive ScanChange where
  | dispatch (now : Timestamp)
  | claim (now : Timestamp)
  | transition (args : Transition) (now : Timestamp)
  | reap (olderThanSeconds : Nat) (now : Timestamp)
  | edit (columns : ScanEdit)

/-- `_READY`. -/
def Scan.ready (scan : Scan) : Bool :=
  scan.status == .pending && scan.dispatchedAt.isSome

def microseconds (seconds : Nat) : Nat := seconds * 1000000

def Scan.stale (scan : Scan) (olderThanSeconds : Nat) (now : Timestamp) : Bool :=
  scan.status == .running &&
    scan.startedAt.any fun started => decide (started + microseconds olderThanSeconds ≤ now)

/-- The `WHERE` clause of the statement. -/
def ScanChange.matching : ScanChange → Scan → Bool
  | dispatch _, scan => scan.status == .pending && scan.dispatchedAt.isNone
  | claim _, scan => scan.ready
  | transition args _, scan =>
      decide (scan.status ∈ allowedFrom args.target) &&
        (args.target != .running || scan.dispatchedAt.isSome)
  | reap olderThanSeconds now, scan => scan.stale olderThanSeconds now
  | edit _, _ => true

/-- The `SET` clause of the statement. -/
def ScanChange.values : ScanChange → Scan → Scan
  | dispatch now, scan => { scan with dispatchedAt := some now }
  | claim now, scan => { scan with status := .running, startedAt := some now }
  | transition args now, scan => { scan with
      status := args.target
      rawOutput := args.rawOutput.or scan.rawOutput
      startedAt := if args.target = .running then some now else scan.startedAt
      completedAt := if args.target ∈ terminalStatuses then some now else scan.completedAt
      failureReason := if args.target = .failed then args.failureReason else scan.failureReason }
  | reap _ now, scan => { scan with
      status := .failed, failureReason := some "worker_lost", completedAt := some now }
  | edit columns, scan => { scan with
      name := columns.name.getD scan.name
      scanType := columns.scanType.getD scan.scanType
      config := columns.config.or scan.config }

instance : RowAction ScanChange Scan where
  act change scan := if change.matching scan then some (change.values scan) else none

theorem act_some {change : ScanChange} {scan next : Scan} :
    RowAction.act change scan = some next ↔
      change.matching scan = true ∧ next = change.values scan := by
  change (if change.matching scan then some (change.values scan) else none) = some next ↔ _
  split
  next matching => simp [matching, eq_comm]
  next missing => simp [missing]

/-- A statement with a further predicate on the key. -/
def ScanChange.onKeys (change : ScanChange) (selected : ScanId → Bool) (key : ScanId)
    (scan : Scan) : Option Scan :=
  if selected key then RowAction.act change scan else none

/-- `ORDER BY dispatched_at, id LIMIT 1` over the ready rows. -/
def oldestReady (table : Table ScanId Scan) : Option ScanId :=
  let candidates := table.keys.filterMap fun key =>
    match table.find key with
    | some scan => if scan.ready then scan.dispatchedAt.map (·, key) else none
    | none => none
  let sorted := candidates.insertionSort fun first second =>
    first.1 < second.1 ∨ first.1 = second.1 ∧ first.2 ≤ second.2
  sorted.head?.map Prod.snd

/-- `claim_next_scan`. -/
def claimNextScan (now : Timestamp) (session : Session ScanId Scan) :
    Option (ScanId × TenantId) × Session ScanId Scan :=
  match oldestReady session.working with
  | none => (none, session.commit)
  | some oldest =>
      let updated := session.update ((ScanChange.claim now).onKeys (· == oldest))
      ((updated.working.find oldest).map fun scan => (oldest, scan.tenantId), updated.commit)

/-- `reap_stale_scans`. -/
def reapStaleScans (olderThanSeconds : Int) (now : Timestamp) (session : Session ScanId Scan) :
    Except ValueError Nat × Session ScanId Scan :=
  if olderThanSeconds ≤ 0 then (.error "older_than_seconds must be positive", session)
  else
    let change := (ScanChange.reap olderThanSeconds.toNat now).onKeys fun _ => true
    (.ok (session.working.rowcount change), (session.update change).commit)

/-- `transition_scan`. With `commit` false the caller owns the transaction. -/
def transitionScan (repr : String → String) (now : Timestamp) (session : Session ScanId Scan)
    (scanId : ScanId) (target : String) (failureReason rawOutput : Option String)
    (commit : Bool) : Except ValueError Bool × Session ScanId Scan :=
  match checkTransition repr target failureReason rawOutput with
  | .error message => (.error message, session)
  | .ok args =>
      let change := (ScanChange.transition args now).onKeys (· == scanId)
      let updated := session.update change
      (.ok (session.working.rowcount change == 1), if commit then updated.commit else updated)

/-- `state.cancel_scan`. -/
def cancelScanState (repr : String → String) (now : Timestamp) (session : Session ScanId Scan)
    (scanId : ScanId) : Except ValueError Bool × Session ScanId Scan :=
  transitionScan repr now session scanId "cancelled" none none true

end Scans
