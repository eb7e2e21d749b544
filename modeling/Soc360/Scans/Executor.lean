import Soc360.Scans.AtMostOnce

set_option autoImplicit false

namespace Scans

/-- `ScanOutcome`. -/
inductive ScanOutcome where
  | completed
  | failed
  | cancelled
  | skipped
  deriving DecidableEq, Repr

/-- The keys of `ScanState` that a later node or the executor reads. -/
structure ScanState (Finding : Type) where
  error : Option String
  nmapRawXml : String
  rawFindings : List Finding

/-- The truth of `state.get("error")`. -/
def ScanState.failure {Finding : Type} (state : ScanState Finding) : Option String :=
  state.error.filter (· ≠ "")

/-- The nodes of `build_scan_graph`. -/
inductive Node where
  | scan
  | parse
  | dedup
  | persist
  deriving DecidableEq, Repr

/-- The two cleanups of `execute_scan`. -/
inductive Cleanup where
  | fail (reason : String)
  | cancel
  deriving DecidableEq, Repr

/-- Where `_shielded` awaits a cleanup: in the `try`, or in one of the two handlers. -/
inductive Frame where
  | body
  | onCancelled
  | onException
  deriving DecidableEq, Repr

/-- The next statement of a cleanup. `ok` is the rowcount test of its UPDATE. -/
inductive CleanupStage where
  | rollback
  | context
  | update
  | commit (ok : Bool)
  deriving DecidableEq, Repr

/-- The next await of `execute_scan(claimed=True)`. `cancelled` is the flag of `_shielded`. -/
inductive Stage (Finding : Type) where
  | context
  | load
  | graphContext
  | node (node : Node) (state : ScanState Finding)
  | flush (state : ScanState Finding) (rows : List Finding)
  | completion (state : ScanState Finding)
  | discard
  | commit
  | cleanup (frame : Frame) (cleanup : Cleanup) (stage : CleanupStage) (cancelled : Bool)
  | returned (outcome : ScanOutcome)
  | raised (cancelled : Bool)
  | crashed

/-- What an await returns where the environment decides it: the join of `_load_scan`, the
Nmap documents, their findings, or the reason a node reports as its `error`. -/
inductive Reply (Finding : Type) where
  | done
  | asset (found : Bool)
  | reason (error : String)
  | documents (nmapRawXml : String)
  | findings (drafts : List Finding)

/-- What an await does to the database. -/
inductive Action (Finding : Type) where
  | skip
  | begin_
  | insert (rows : List Finding)
  | transition (args : Transition)
  | rollback
  | commit

/-- A row of `vulnerabilities` with the session that wrote it. -/
structure Vulnerability (Finding : Type) where
  session : Txn
  scanId : ScanId
  finding : Finding

/-- A run of `execute_scan` in its session. `written` is what its `persist_node` flushed,
`nodeErrors` what its nodes reported, and `cleaned` that a cleanup was committed. -/
structure Run (Finding : Type) where
  scanId : ScanId
  stage : Stage Finding
  written : List Finding
  nodeErrors : List String
  cleaned : Bool

/-- What one commit of a run published. -/
structure Published (Finding : Type) where
  session : Txn
  effects : List (ScanId × ScanEffect)
  rows : List (Vulnerability Finding)

/-- The runs over the concurrent transactions on `scans`. A `pending` row of
`vulnerabilities` holds FOR KEY SHARE on its scan. -/
structure Executions (Finding : Type) where
  scans : World
  pending : List (Vulnerability Finding)
  stored : List (Vulnerability Finding)
  published : List (Published Finding)
  runs : Txn → Option (Run Finding)

def Executions.initial {Finding : Type} : Executions Finding :=
  ⟨.initial, [], [], [], fun _ => none⟩

/-- The parts of the pipeline that these modules do not define: the quota of each tenant,
Python's rendering of a string, `finding_identity` and the check on `VALID_SEVERITIES`. -/
structure Pipeline (Finding : Type) where
  limit : TenantId → Int
  repr : String → String
  findingIdentity : Finding → String
  canonical : Finding → Bool

section

variable {Finding : Type}

/-- The findings whose identity is new, the first of each. -/
def keepFirst (identity : Finding → String) : List String → List Finding → List Finding
  | _, [] => []
  | seen, finding :: rest =>
      if identity finding ∈ seen then keepFirst identity seen rest
      else finding :: keepFirst identity (identity finding :: seen) rest

/-- `dedup_node`. -/
def Pipeline.dedupNode (pipeline : Pipeline Finding) (findings : List Finding) : List Finding :=
  keepFirst pipeline.findingIdentity [] findings

/-- The rows that `upsert_findings` adds to the session. -/
def Pipeline.upsertFindings (pipeline : Pipeline Finding) (existing drafts : List Finding) :
    List Finding :=
  keepFirst pipeline.findingIdentity (existing.map pipeline.findingIdentity)
    (drafts.filter pipeline.canonical)

/-- A cleanup starts with the rollback of the session. -/
def Stage.shielded (frame : Frame) (cleanup : Cleanup) : Stage Finding :=
  .cleanup frame cleanup .rollback false

/-- The end of the graph: `if state.get("error")`. -/
def Stage.afterGraph (state : ScanState Finding) : Stage Finding :=
  match state.failure with
  | some reason => .shielded .body (.fail reason)
  | none => .completion state

/-- `next_step` after a node, along the edges of the graph. -/
def Node.after (node : Node) (state : ScanState Finding) : Stage Finding :=
  if state.failure.isSome then .afterGraph state
  else match node with
    | .scan => .node .parse state
    | .parse => .node .dedup state
    | .dedup => .node .persist state
    | .persist => .afterGraph state

/-- A CancelledError leaves `_shielded`: the handler of the `try`, or the caller. -/
def Frame.interrupted : Frame → Stage Finding
  | body => .shielded .onCancelled .cancel
  | onCancelled => .raised true
  | onException => .raised true

/-- An exception leaves `_shielded`. -/
def Frame.failed : Frame → Stage Finding
  | body => .shielded .onException (.fail "internal_error")
  | onCancelled => .raised false
  | onException => .raised false

/-- A cleanup is done: `_shielded` raises a cancellation that came meanwhile. -/
def Frame.finished (frame : Frame) (cleanup : Cleanup) (ok cancelled : Bool) : Stage Finding :=
  if cancelled then frame.interrupted
  else match cleanup with
    | .fail _ => .returned (if ok then .failed else .cancelled)
    | .cancel => .raised true

/-- An await raises. `run_agent_safely` turns an exception of the graph into its state. -/
def Stage.onRaise : Stage Finding → Option (Stage Finding)
  | .node _ state => some (.afterGraph { state with error := some "internal_error" })
  | .flush state _ => some (.afterGraph { state with error := some "internal_error" })
  | .cleanup frame _ _ _ => some frame.failed
  | .returned _ => none
  | .raised _ => none
  | .crashed => none
  | _ => some (.shielded .onException (.fail "internal_error"))

/-- A cancellation arrives at an await: a shielded cleanup goes on. -/
def Stage.onCancel : Stage Finding → Option (Stage Finding)
  | .cleanup frame which stage _ => some (.cleanup frame which stage true)
  | .returned _ => none
  | .raised _ => none
  | .crashed => none
  | _ => some (.shielded .onCancelled .cancel)

def Stage.ended : Stage Finding → Bool
  | .returned _ => true
  | .raised _ => true
  | .crashed => true
  | _ => false

def Stage.cleaning : Stage Finding → Bool
  | .cleanup _ _ _ _ => true
  | _ => false

/-- The checks of the `transition_scan` call of a cleanup. -/
def Cleanup.check (repr : String → String) : Cleanup → Except ValueError Transition
  | fail reason => checkTransition repr "failed" (some reason) none
  | cancel => checkTransition repr "cancelled" none none

namespace Executions

variable (pipeline : Pipeline Finding) (world : Executions Finding) (session : Txn)

/-- The rowcount of a transition is one. -/
def hits (scanId : ScanId) (args : Transition) : Bool :=
  ((Effect.change (.transition args world.scans.clock) : ScanEffect).apply
    (world.scans.ledger.view session scanId)).isSome

/-- The rows of `vulnerabilities` of the scan that the session sees. -/
def existing (scanId : ScanId) : List Finding :=
  ((world.stored ++ world.pending.filter (·.session = session)).filter
    (·.scanId = scanId)).map (·.finding)

/-- The foreign key finds the scan, and no other transaction is deleting it. -/
def referable (scanId : ScanId) : Bool :=
  (world.scans.ledger.table.slot scanId).satisfies (fun _ => true) &&
    (decide (world.scans.ledger.Unblocked session scanId) ||
      (world.scans.ledger.draft scanId).satisfies fun _ => true)

/-- The next await of a run: the stage it leads to and what it does. -/
def plan (run : Run Finding) (reply : Reply Finding) :
    Option (Stage Finding × Action Finding) :=
  match run.stage, reply with
  | .context, .done => some (.load, .begin_)
  | .load, .asset true =>
      if (world.scans.ledger.view session run.scanId).satisfies (fun _ => true) then
        some (.graphContext, .skip)
      else none
  | .load, .asset false => some (.shielded .body (.fail "asset_missing"), .skip)
  | .graphContext, .done => some (.node .scan ⟨none, "", []⟩, .skip)
  | .node .scan state, .reason error =>
      some (Node.scan.after { state with error := some error }, .skip)
  | .node .scan state, .documents nmapRawXml =>
      some (Node.scan.after { state with nmapRawXml := nmapRawXml }, .skip)
  | .node .parse state, .reason error =>
      some (Node.parse.after { state with error := some error }, .skip)
  | .node .parse state, .findings drafts =>
      some (Node.parse.after { state with rawFindings := drafts }, .skip)
  | .node .dedup state, .done =>
      some (Node.dedup.after { state with rawFindings := pipeline.dedupNode state.rawFindings },
        .skip)
  | .node .persist state, .done =>
      some (.flush state
        (pipeline.upsertFindings (world.existing session run.scanId) state.rawFindings), .skip)
  | .flush state rows, .done =>
      if rows.isEmpty || world.referable session run.scanId then
        some (Node.persist.after state, .insert rows)
      else none
  | .completion state, .done =>
      match checkTransition pipeline.repr "completed" none (some state.nmapRawXml) with
      | .error _ => some (.shielded .onException (.fail "internal_error"), .skip)
      | .ok args =>
          some (if world.hits session run.scanId args then .commit else .discard,
            .transition args)
  | .discard, .done => some (.returned .cancelled, .rollback)
  | .commit, .done => some (.returned .completed, .commit)
  | .cleanup frame cleanup .rollback cancelled, .done =>
      some (.cleanup frame cleanup .context cancelled, .rollback)
  | .cleanup frame cleanup .context cancelled, .done =>
      some (.cleanup frame cleanup .update cancelled, .begin_)
  | .cleanup frame cleanup .update cancelled, .done =>
      match cleanup.check pipeline.repr with
      | .error _ => some (frame.failed, .skip)
      | .ok args =>
          some (.cleanup frame cleanup (.commit (world.hits session run.scanId args)) cancelled,
            .transition args)
  | .cleanup frame cleanup (.commit ok) cancelled, .done =>
      some (frame.finished cleanup ok cancelled, .commit)
  | _, _ => none

/-- The rows of deleted scans go with them. -/
def cascade (scans : World) : Executions Finding :=
  { world with
    scans := scans
    stored := world.stored.filter fun row =>
      (scans.ledger.table.slot row.scanId).satisfies fun _ => true }

def perform (scanId : ScanId) : Action Finding → Option (Executions Finding)
  | .skip => some world
  | .begin_ =>
      (world.scans.step pipeline.limit (.begin_ session)).map fun scans =>
        { world with scans := scans }
  | .insert rows =>
      some { world with pending := world.pending ++ rows.map (⟨session, scanId, ·⟩) }
  | .transition args =>
      (world.scans.step pipeline.limit
        (.run session (.transitionScan scanId args world.scans.clock))).map fun scans =>
          { world with scans := scans }
  | .rollback =>
      some { world with
        scans := (world.scans.step pipeline.limit (.rollback session)).getD world.scans
        pending := world.pending.filter (·.session ≠ session) }
  | .commit =>
      (world.scans.step pipeline.limit (.commit session)).map fun scans =>
        let rows := world.pending.filter (·.session = session)
        let after := world.cascade scans
        { after with
          pending := world.pending.filter (·.session ≠ session)
          stored := after.stored ++ rows
          published := world.published ++
            [⟨session, world.scans.ledger.effects session, rows⟩] }

def record (run : Run Finding) : Executions Finding :=
  { world with runs := Function.update world.runs session (some run) }

end Executions

def Reply.error : Reply Finding → Option String
  | .reason error => some error
  | _ => none

/-- A run after an await that has done its action. -/
def Run.after (run : Run Finding) (action : Action Finding) (stage : Stage Finding) :
    Run Finding :=
  { run with
    stage := stage
    written := match action with
      | .insert rows => rows
      | _ => run.written
    cleaned := match action with
      | .commit => run.cleaned || run.stage.cleaning
      | _ => run.cleaned }

/-- `other` is a label of a transaction that belongs to no run. An await that raises or is
cancelled may have done its action all the same. A `crash` is the end of the process,
`close` the end of the session after the run. -/
inductive ExecutorLabel (Finding : Type) where
  | other (label : Label)
  | start (session : Txn) (scanId : ScanId)
  | proceed (session : Txn) (reply : Reply Finding)
  | raise (session : Txn) (lost : Option (Reply Finding))
  | cancel (session : Txn) (lost : Option (Reply Finding))
  | crash (session : Txn)
  | close (session : Txn)

def Label.session : Label → Option Txn
  | .tick _ => none
  | .begin_ txn => some txn
  | .run txn _ => some txn
  | .commit txn => some txn
  | .rollback txn => some txn

namespace Executions

variable (pipeline : Pipeline Finding) (world : Executions Finding)

/-- A DELETE waits for the FOR KEY SHARE locks on its scan. -/
def waits : Label → Bool
  | .run _ (.deleteScan scanId) => world.pending.any fun row => row.scanId == scanId
  | _ => false

/-- An await of a run ends in `stage`; its action may be lost on the way. -/
def interrupt (session : Txn) (run : Run Finding) (stage : Stage Finding)
    (lost : Option (Reply Finding)) : Option (Executions Finding) :=
  match lost with
  | none => some (world.record session { run with stage := stage })
  | some reply =>
      (world.plan pipeline session run reply).bind fun (_, action) =>
        (world.perform pipeline session run.scanId action).map fun after =>
          after.record session (run.after action stage)

def step : ExecutorLabel Finding → Option (Executions Finding)
  | .other label =>
      if (label.session.bind world.runs).isSome || world.waits label then none
      else (world.scans.step pipeline.limit label).map world.cascade
  | .start session scanId =>
      -- The worker hands over what its claim returned.
      if (world.runs session).isNone && (world.scans.opened session).isNone &&
          world.scans.returned.contains scanId then
        some (world.record session ⟨scanId, .context, [], [], false⟩)
      else none
  | .proceed session reply =>
      (world.runs session).bind fun run =>
        (world.plan pipeline session run reply).bind fun (stage, action) =>
          (world.perform pipeline session run.scanId action).map fun after =>
            after.record session
              { run.after action stage with nodeErrors := run.nodeErrors ++ reply.error.toList }
  | .raise session lost =>
      (world.runs session).bind fun run =>
        run.stage.onRaise.bind fun stage => world.interrupt pipeline session run stage lost
  | .cancel session lost =>
      (world.runs session).bind fun run =>
        run.stage.onCancel.bind fun stage =>
          if run.stage.cleaning then
            some (world.record session { run with stage := stage })
          else world.interrupt pipeline session run stage lost
  | .crash session =>
      (world.runs session).bind fun run =>
        if run.stage.ended then none
        else (world.perform pipeline session run.scanId .rollback).map fun after =>
          after.record session { run with stage := .crashed }
  | .close session =>
      (world.runs session).bind fun run =>
        if run.stage.ended then world.perform pipeline session run.scanId .rollback else none

end Executions

/-- Any number of runs of the executor beside any other transactions on `scans`. -/
def executions (pipeline : Pipeline Finding) :
    Machine (Executions Finding) (ExecutorLabel Finding) where
  start world := world = .initial
  step world label := world.step pipeline label

theorem checkTransition_ok {repr : String → String} {target : String}
    {failureReason rawOutput : Option String} {args : Transition}
    (checked : checkTransition repr target failureReason rawOutput = .ok args) :
    ScanStatus.ofString? target = some args.target ∧ args.failureReason = failureReason := by
  unfold checkTransition at checked
  split at checked
  next => cases checked
  next status found =>
    split at checked
    next => cases checked
    next =>
      split at checked
      next => cases checked
      next =>
        split at checked
        next => cases checked
        next =>
          split at checked
          next => cases checked
          next =>
            split at checked
            next => cases checked
            next =>
              cases checked
              exact ⟨found, rfl⟩

/-- The target of the UPDATE of a cleanup, with its reason. -/
def Cleanup.Asks (args : Transition) : Cleanup → Prop
  | fail reason => args.target = .failed ∧ args.failureReason = some reason
  | cancel => args.target = .cancelled

theorem Cleanup.check_asks {repr : String → String} {which : Cleanup} {args : Transition}
    (checked : which.check repr = .ok args) : which.Asks args := by
  cases which with
  | fail reason =>
      change checkTransition repr "failed" (some reason) none = .ok args at checked
      obtain ⟨found, reason_kept⟩ := checkTransition_ok checked
      have same : some ScanStatus.failed = some args.target := found
      exact ⟨(Option.some.inj same).symm, reason_kept⟩
  | cancel =>
      change checkTransition repr "cancelled" none none = .ok args at checked
      obtain ⟨found, _⟩ := checkTransition_ok checked
      have same : some ScanStatus.cancelled = some args.target := found
      exact (Option.some.inj same).symm

/-- Everything the next await of a run can be: its stage, the stage after it and what it
does. -/
inductive Awaited (pipeline : Pipeline Finding) (world : Executions Finding) (session : Txn)
    (run : Run Finding) (reply : Reply Finding) :
    Stage Finding → Stage Finding → Action Finding → Prop
  | begin_ : Awaited pipeline world session run reply .context .load .begin_
  | loaded : Awaited pipeline world session run reply .load .graphContext .skip
  | missing :
      Awaited pipeline world session run reply .load (.shielded .body (.fail "asset_missing"))
        .skip
  | graph :
      Awaited pipeline world session run reply .graphContext (.node .scan ⟨none, "", []⟩) .skip
  | node (node : Node) (state after : ScanState Finding) (inner : node ≠ .persist)
      (reported : after.error = state.error ∨
        ∃ error, after.error = some error ∧ reply.error = some error) :
      Awaited pipeline world session run reply (.node node state) (node.after after) .skip
  | upsert (state : ScanState Finding) (rows : List Finding) :
      Awaited pipeline world session run reply (.node .persist state) (.flush state rows) .skip
  | flush (state : ScanState Finding) (rows : List Finding) :
      Awaited pipeline world session run reply (.flush state rows) (Node.persist.after state)
        (.insert rows)
  | complete (state : ScanState Finding) (args : Transition) (target : args.target = .completed) :
      Awaited pipeline world session run reply (.completion state)
        (if world.hits session run.scanId args then .commit else .discard) (.transition args)
  | uncompletable (state : ScanState Finding) :
      Awaited pipeline world session run reply (.completion state)
        (.shielded .onException (.fail "internal_error")) .skip
  | discard : Awaited pipeline world session run reply .discard (.returned .cancelled) .rollback
  | commit : Awaited pipeline world session run reply .commit (.returned .completed) .commit
  | rollback (frame : Frame) (which : Cleanup) (cancelled : Bool) :
      Awaited pipeline world session run reply (.cleanup frame which .rollback cancelled)
        (.cleanup frame which .context cancelled) .rollback
  | reconnect (frame : Frame) (which : Cleanup) (cancelled : Bool) :
      Awaited pipeline world session run reply (.cleanup frame which .context cancelled)
        (.cleanup frame which .update cancelled) .begin_
  | refused (frame : Frame) (which : Cleanup) (cancelled : Bool) :
      Awaited pipeline world session run reply (.cleanup frame which .update cancelled)
        frame.failed .skip
  | update (frame : Frame) (which : Cleanup) (cancelled : Bool) (args : Transition)
      (asks : which.Asks args) :
      Awaited pipeline world session run reply (.cleanup frame which .update cancelled)
        (.cleanup frame which (.commit (world.hits session run.scanId args)) cancelled)
        (.transition args)
  | close (frame : Frame) (which : Cleanup) (ok cancelled : Bool) :
      Awaited pipeline world session run reply (.cleanup frame which (.commit ok) cancelled)
        (frame.finished which ok cancelled) .commit

theorem plan_awaited {pipeline : Pipeline Finding} {world : Executions Finding} {session : Txn}
    {run : Run Finding} {reply : Reply Finding} {stage : Stage Finding}
    {action : Action Finding}
    (planned : world.plan pipeline session run reply = some (stage, action)) :
    Awaited pipeline world session run reply run.stage stage action := by
  unfold Executions.plan at planned
  split at planned
  next same => rw [same]; cases planned; exact .begin_
  next same =>
    rw [same]
    split at planned
    next => cases planned; exact .loaded
    next => cases planned
  next same => rw [same]; cases planned; exact .missing
  next same => rw [same]; cases planned; exact .graph
  next state error same =>
    rw [same]
    cases planned
    exact .node .scan state _ (by decide) (.inr ⟨error, rfl, rfl⟩)
  next state xml same =>
    rw [same]
    cases planned
    exact .node .scan state _ (by decide) (.inl rfl)
  next state error same =>
    rw [same]
    cases planned
    exact .node .parse state _ (by decide) (.inr ⟨error, rfl, rfl⟩)
  next state drafts same =>
    rw [same]
    cases planned
    exact .node .parse state _ (by decide) (.inl rfl)
  next state same =>
    rw [same]
    cases planned
    exact .node .dedup state _ (by decide) (.inl rfl)
  next state same => rw [same]; cases planned; exact .upsert ..
  next state rows same =>
    rw [same]
    split at planned
    next => cases planned; exact .flush ..
    next => cases planned
  next state same =>
    rw [same]
    split at planned
    next => cases planned; exact .uncompletable _
    next args checked =>
      cases planned
      have same : some ScanStatus.completed = some args.target := (checkTransition_ok checked).1
      exact .complete state args (Option.some.inj same).symm
  next same => rw [same]; cases planned; exact .discard
  next same => rw [same]; cases planned; exact .commit
  next frame which cancelled same => rw [same]; cases planned; exact .rollback ..
  next frame which cancelled same => rw [same]; cases planned; exact .reconnect ..
  next frame which cancelled same =>
    rw [same]
    split at planned
    next => cases planned; exact .refused ..
    next args checked =>
      cases planned
      exact .update frame which cancelled args (Cleanup.check_asks checked)
  next frame which ok cancelled same => rw [same]; cases planned; exact .close ..
  next => cases planned

end

end Scans
