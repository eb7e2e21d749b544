import Soc360.Store.Pipes
import Soc360.Nmap.Runner

set_option autoImplicit false

/-! `run_nmap` from the start of the subprocess on: its readers, its deadline, the cancellations of
its caller and `_cleanup`, with whatever the subprocess does meanwhile. -/

namespace Nmap.Run

open Chunks (Loop)
open Pipes (Pipe Task)

inductive Source where
  | stdout
  | stderr
  deriving DecidableEq

structure Settings where
  maxOutputBytes : Nat
  supervised : Bool
  decode : Bytes → String

inductive Signal where
  | term
  | kill
  deriving DecidableEq

/-- An exception that the body may leave by; `other` is one of the start or of a pipe. -/
inductive Failure where
  | failed (error : NmapRunError)
  | timeoutError
  | cancelledError
  | other
  deriving DecidableEq

inductive Leader where
  | alive
  | killed
  | exited (returncode : Int)
  deriving DecidableEq

/-- The process group: its leader, and how many others no KILL has met. -/
structure Group where
  leader : Leader
  descendants : Nat

/-- Where `_cleanup` is: before its signal, in one of its two waits, or at its last `gather`. -/
inductive Stage where
  | starting
  | terminating
  | killing
  | finishing

inductive Phase where
  | spawning
  | gathering
  | waiting
  | settling (exc : Failure)
  | cleaning (exc : Failure) (stage : Stage)
  | returned (result : NmapRunResult)
  | raised (exc : Failure)

/-- `stopping` is a cancellation on its way to the call. The last three fields are a record of what
has happened: that the deadline passed, that the caller cancelled, and that a cancellation met the
handler at its `gather`. -/
structure World where
  phase : Phase
  stopping : Option Failure
  process : Option Group
  pipe : Source → Pipe UInt8
  reader : Source → Task Bytes NmapRunError
  drain : Source → Task Unit NmapRunError
  signals : List Signal
  expired : Bool
  cancelRequested : Bool
  interrupted : Bool

inductive SpawnError where
  | permission
  | fileNotFound
  | other

inductive Label where
  | spawned
  | spawnFails (error : SpawnError)
  | read (source : Source) (chunk : Bytes)
  | readFails (source : Source)
  | stopped (source : Source)
  | gathered
  | waited
  | cancel
  | deadline
  | deliver
  | settled
  | begins
  | exited
  | graceEnds
  | discard (source : Source) (chunk : Bytes)
  | discardFails (source : Source)
  | discardStopped (source : Source)
  | drained
  | fork
  | dies
  | exits (returncode : Int)
  | write (source : Source) (bytes : Bytes)
  | close (source : Source)

def notPermitted : NmapRunError := ⟨"nmap_not_permitted", none⟩

def notFound : NmapRunError := ⟨"nmap_not_found", none⟩

def timedOut : NmapRunError := ⟨"timeout", none⟩

def SpawnError.failure : SpawnError → Failure
  | .permission => .failed notPermitted
  | .fileNotFound => .failed notFound
  | .other => .other

/-- What the handler raises for what it caught. -/
def Failure.propagated : Failure → Failure
  | .timeoutError => .failed timedOut
  | exc => exc

/-- The loop of `_discard`. -/
def discardLoop : Loop UInt8 Unit NmapRunError where
  request _ := readSize
  handle _ _ := .ok ()

/-- `killpg(pid, SIGKILL)`. -/
def Group.kill (group : Group) : Group :=
  ⟨match group.leader with
    | .alive => .killed
    | leader => leader, 0⟩

/-- Some process of the group still runs. -/
def Group.runs (group : Group) : Bool := group.leader = .alive || 0 < group.descendants

namespace World

variable (settings : Settings) (world : World)

def initial : World where
  phase := .spawning
  stopping := none
  process := none
  pipe _ := .empty
  reader _ := .idle
  drain _ := .idle
  signals := []
  expired := false
  cancelRequested := false
  interrupted := false

def readerLoop : Source → Loop UInt8 Bytes NmapRunError
  | .stdout => stdoutLoop settings.maxOutputBytes
  | .stderr => stderrLoop

/-- What `gather(*readers)` gives, once it does: the first error, and none follows one of a loop. -/
def gather : Option (Except Failure (Bytes × Bytes)) :=
  match world.reader .stdout, world.reader .stderr with
  | .returned output, .returned tail => some (.ok (output, tail))
  | .broken, _ => some (.error .other)
  | _, .broken => some (.error .other)
  | .raised error, _ => some (.error (.failed error))
  | _, .raised error => some (.error (.failed error))
  | .cancelled, _ => some (.error .cancelledError)
  | _, .cancelled => some (.error .cancelledError)
  | _, _ => none

def cancelReaders : World := { world with reader := fun source => (world.reader source).cancel }

def cancelDrains : World := { world with drain := fun source => (world.drain source).cancel }

/-- The start of the handler of `BaseException`: with no subprocess there is nothing to wait for. -/
def caught (exc : Failure) : World :=
  match world.process with
  | none => { world with phase := .raised exc.propagated, stopping := none }
  | some _ => { world.cancelReaders with phase := .settling exc, stopping := none }

/-- `task.cancel()` on the body, by the caller or by the deadline: the caller's wins. A `gather`
that still waits passes it on to the readers. -/
def halt (exc : Failure) : World :=
  let stopped :=
    { world with stopping := if world.stopping = some .cancelledError then world.stopping
        else some exc }
  match world.phase with
  | .gathering => if world.gather.isSome then stopped else stopped.cancelReaders
  | _ => stopped

def kill : World :=
  { world with process := world.process.map Group.kill, signals := world.signals ++ [.kill] }

/-- The `finally` of `_cleanup`. -/
def finish (exc : Failure) : World :=
  { world.kill.cancelDrains with phase := .cleaning exc .finishing }

def onProcess (change : Group → Option Group) : Option World :=
  (world.process.bind change).map fun group => { world with process := some group }

def setPipe (source : Source) (pipe : Pipe UInt8) : World :=
  { world with pipe := Function.update world.pipe source pipe }

def step : Label → Option World
  | .spawned =>
      match world.phase, world.stopping with
      | .spawning, none =>
          some { world with
            process := some ⟨.alive, 0⟩, reader := fun _ => .running [], phase := .gathering }
      | _, _ => none
  | .spawnFails error =>
      match world.phase, world.stopping with
      | .spawning, none => some (world.caught error.failure)
      | _, _ => none
  | .read source chunk =>
      ((world.reader source).read (readerLoop settings source) (world.pipe source) chunk).map
        fun (task, pipe) =>
          { world.setPipe source pipe with reader := Function.update world.reader source task }
  | .readFails source =>
      -- Once `gather` has its error, how the other reader ends is lost.
      if world.gather.isSome then none
      else
        (world.reader source).fail.map fun task =>
          { world with reader := Function.update world.reader source task }
  | .stopped source =>
      (world.reader source).stop.map fun task =>
        { world with reader := Function.update world.reader source task }
  | .gathered =>
      match world.phase, world.stopping, world.gather with
      | .gathering, none, some (.ok _) => some { world with phase := .waiting }
      | .gathering, none, some (.error exc) => some (world.caught exc)
      | _, _, _ => none
  | .waited =>
      match world.phase, world.stopping, world.process.map Group.leader, world.gather with
      | .waiting, none, some (.exited returncode), some (.ok (output, tail)) =>
          match Nmap.finish settings.decode settings.supervised returncode (.ok output) tail with
          | .ok result => some { world with phase := .returned result }
          | .error error => some (world.caught (.failed error))
      | _, _, _, _ => none
  | .cancel =>
      let asked := { world with cancelRequested := true }
      match world.phase with
      | .spawning | .gathering | .waiting => some (asked.halt .cancelledError)
      | .settling _ => some { asked with stopping := some .cancelledError, interrupted := true }
      | _ => some asked
  | .deadline =>
      match world.phase with
      | .spawning | .gathering | .waiting =>
          some ({ world with expired := true }.halt .timeoutError)
      | _ => none
  | .deliver =>
      match world.phase, world.stopping with
      | .spawning, some exc => some (world.caught exc)
      | .gathering, some exc => if world.gather.isSome then some (world.caught exc) else none
      | .waiting, some exc => some (world.caught exc)
      | _, _ => none
  | .settled =>
      match world.phase with
      | .settling exc =>
          if (world.reader .stdout).isOver && (world.reader .stderr).isOver then
            match world.stopping with
            | some stop => some { world with phase := .raised stop, stopping := none }
            | none => some { world with phase := .cleaning exc .starting }
          else none
      | _ => none
  | .begins =>
      match world.phase with
      | .cleaning exc .starting =>
          some { world with
            drain := fun _ => .running (), signals := world.signals ++ [.term],
            phase := .cleaning exc .terminating }
      | _ => none
  | .exited =>
      match world.phase, world.process.map Group.leader with
      | .cleaning exc .terminating, some (.exited _) => some (world.finish exc)
      | .cleaning exc .killing, some (.exited _) => some (world.finish exc)
      | _, _ => none
  | .graceEnds =>
      match world.phase with
      | .cleaning exc .terminating => some { world.kill with phase := .cleaning exc .killing }
      | .cleaning exc .killing => some (world.finish exc)
      | _ => none
  | .discard source chunk =>
      ((world.drain source).read discardLoop (world.pipe source) chunk).map fun (task, pipe) =>
        { world.setPipe source pipe with drain := Function.update world.drain source task }
  | .discardFails source =>
      (world.drain source).fail.map fun task =>
        { world with drain := Function.update world.drain source task }
  | .discardStopped source =>
      (world.drain source).stop.map fun task =>
        { world with drain := Function.update world.drain source task }
  | .drained =>
      match world.phase with
      | .cleaning exc .finishing =>
          if (world.drain .stdout).isOver && (world.drain .stderr).isOver then
            some { world with phase := .raised exc.propagated }
          else none
      | _ => none
  | .fork =>
      world.onProcess fun group =>
        if group.runs then some ⟨group.leader, group.descendants + 1⟩ else none
  | .dies =>
      world.onProcess fun group =>
        if 0 < group.descendants then some ⟨group.leader, group.descendants - 1⟩ else none
  | .exits returncode =>
      world.onProcess fun group =>
        match group.leader with
        | .exited _ => none
        | _ => some ⟨.exited returncode, group.descendants⟩
  | .write source bytes =>
      match world.process with
      | some group =>
          if group.runs then ((world.pipe source).write bytes).map (world.setPipe source) else none
      | none => none
  | .close source => world.process.map fun _ => world.setPipe source (world.pipe source).close

end World

def machine (settings : Settings) : Machine World Label where
  start world := world = .initial
  step := World.step settings

/-- What the loop of a reader keeps. -/
def Kept (settings : Settings) : Source → Bytes → Bytes → Prop
  | .stdout, taken, output => output = taken ∧ taken.length ≤ settings.maxOutputBytes
  | .stderr, taken, tail => tail = lastBytes tailSize taken

namespace World

variable (settings : Settings) (world : World)

/-- Nothing that ran when the last KILL came is left. -/
def Killed : Prop :=
  ∀ group ∈ world.process, group.descendants = 0 ∧ group.leader ≠ .alive

/-- The output that was read to its end within the limit, with the exit of the leader. -/
structure Complete (returncode : Int) : Prop where
  exit : ∃ group, world.process = some group ∧ group.leader = .exited returncode
  closed : ∀ source, (world.pipe source).closed = true
  within : (world.pipe .stdout).written.length ≤ settings.maxOutputBytes

/-- What `run_nmap` makes of all that was written. -/
def conclude (returncode : Int) : Except NmapRunError NmapRunResult :=
  Nmap.finish settings.decode settings.supervised returncode
    (.ok (world.pipe .stdout).written) (lastBytes tailSize (world.pipe .stderr).written)

/-- Why the body may have left by an exception. -/
def Explains : Failure → Prop
  | .failed error =>
      world.process = none ∧ (error = notPermitted ∨ error = notFound) ∨
      error = outputTooLarge ∧ settings.maxOutputBytes < (world.pipe .stdout).written.length ∨
      (∃ returncode, world.Complete settings returncode ∧
        world.conclude settings returncode = .error error) ∨
      error = timedOut ∧ world.expired = true
  | .timeoutError => world.expired = true
  | .cancelledError => world.cancelRequested = true
  | .other => world.process = none ∨ ∃ source, world.reader source = .broken

/-- `_cleanup` ran to its end. -/
structure CleanedUp : Prop where
  readers : ∀ source, (world.reader source).isOver = true
  drains : ∀ source, (world.drain source).isOver = true
  killed : world.Killed
  signals : world.signals = [.term, .kill] ∨ world.signals = [.term, .kill, .kill]

/-- `_cleanup` has not begun. -/
structure Untouched : Prop where
  drains : ∀ source, world.drain source = .idle
  signals : world.signals = []

/-- How the call may have ended by an exception. -/
def Ended (exc : Failure) : Prop :=
  world.interrupted = false ∧ world.CleanedUp ∨
    world.interrupted = true ∧ exc = .cancelledError ∧ world.Untouched ∧
      ∀ source, (world.reader source).isOver = true

/-- What a result says of the subprocess. -/
structure Delivered (result : NmapRunResult) : Prop where
  complete : world.Complete settings 0
  result : result = ⟨(world.pipe .stdout).written,
    settings.decode (lastBytes tailSize (world.pipe .stderr).written), 0⟩

def InStage : Stage → Prop
  | .starting => world.Untouched
  | .terminating => world.signals = [.term] ∧ ∀ source, world.drain source ≠ .idle
  | .killing =>
      world.signals = [.term, .kill] ∧ world.Killed ∧ ∀ source, world.drain source ≠ .idle
  | .finishing =>
      (world.signals = [.term, .kill] ∨ world.signals = [.term, .kill, .kill]) ∧
        world.Killed ∧ ∀ source, world.drain source = .cancelling ∨ (world.drain source).isOver

def InPhase : Phase → Prop
  | .spawning =>
      world.process = none ∧ world.Untouched ∧ world.interrupted = false ∧
        (∀ source, world.reader source = .idle) ∧ ∀ source, world.pipe source = .empty
  | .gathering =>
      world.process ≠ none ∧ world.Untouched ∧ world.interrupted = false ∧
        (∀ source, world.reader source ≠ .idle) ∧
        (world.stopping = none → ∀ source, world.reader source ≠ .cancelling ∧
          world.reader source ≠ .cancelled)
  | .waiting =>
      world.process ≠ none ∧ world.Untouched ∧ world.interrupted = false ∧
        ∀ source, ∃ state, world.reader source = .returned state
  | .settling exc =>
      world.process ≠ none ∧ world.Untouched ∧ world.interrupted = world.stopping.isSome ∧
        (∀ source, world.reader source = .cancelling ∨ (world.reader source).isOver = true) ∧
        world.Explains settings exc ∧ ∀ stop ∈ world.stopping, stop = .cancelledError
  | .cleaning exc stage =>
      world.process ≠ none ∧ world.interrupted = false ∧
        (∀ source, (world.reader source).isOver = true) ∧ world.Explains settings exc ∧
        world.InStage stage
  | .returned result =>
      world.process ≠ none ∧ world.Untouched ∧ (∀ source, (world.reader source).isOver = true) ∧
        world.Delivered settings result
  | .raised exc =>
      world.Explains settings exc ∧ exc ≠ .timeoutError ∧
        (world.process = none ∧ world.Untouched ∧ (∀ source, world.reader source = .idle) ∨
          world.Ended exc)

structure Sound : Prop where
  tasks : ∀ source, (world.reader source).Follows (readerLoop settings source)
    (Kept settings source) (world.pipe source)
  stops : ∀ stop ∈ world.stopping, (stop = .cancelledError ∧ world.cancelRequested = true) ∨
    (stop = .timeoutError ∧ world.expired = true)
  phase : world.InPhase settings world.phase

/-- What a later world still has of this one. -/
structure Later (next : World) : Prop where
  absent : world.process = none → next.process = none
  exits : ∀ returncode, (∃ group, world.process = some group ∧ group.leader = .exited returncode) →
    ∃ group, next.process = some group ∧ group.leader = .exited returncode
  written : ∀ source, ∃ more, (next.pipe source).written = (world.pipe source).written ++ more ∧
    ((world.pipe source).closed = true → more = [] ∧ (next.pipe source).closed = true)
  expired : world.expired = true → next.expired = true
  cancelRequested : world.cancelRequested = true → next.cancelRequested = true
  broken : ∀ source, world.reader source = .broken → next.reader source = .broken

section

variable {settings world} {next : World} {exc : Failure} {returncode : Int}
  {result : NmapRunResult} {source : Source} {chunk : Bytes}

theorem later_refl (process : next.process = world.process) (pipe : next.pipe = world.pipe)
    (expired : world.expired = true → next.expired = true)
    (cancelRequested : world.cancelRequested = true → next.cancelRequested = true)
    (broken : ∀ source, world.reader source = .broken → next.reader source = .broken) :
    world.Later next where
  absent absent := process.trans absent
  exits returncode exited := process ▸ exited
  written source := by
    rw [pipe]
    exact ⟨[], (List.append_nil _).symm, fun closed => ⟨rfl, closed⟩⟩
  expired := expired
  cancelRequested := cancelRequested
  broken := broken

theorem Later.complete (later : world.Later next) (complete : world.Complete settings returncode) :
    next.Complete settings returncode ∧
      ∀ source, (next.pipe source).written = (world.pipe source).written := by
  have same : ∀ source, (next.pipe source).written = (world.pipe source).written := by
    intro source
    obtain ⟨more, written, closed⟩ := later.written source
    rw [written, (closed (complete.closed source)).1, List.append_nil]
  have closed : ∀ source, (next.pipe source).closed = true := by
    intro source
    obtain ⟨more, _, closed⟩ := later.written source
    exact (closed (complete.closed source)).2
  refine ⟨⟨later.exits returncode complete.exit, closed, ?_⟩, same⟩
  rw [same]
  exact complete.within

theorem Later.explains (later : world.Later next) (explains : world.Explains settings exc) :
    next.Explains settings exc := by
  cases exc with
  | failed error =>
    rcases explains with ⟨absent, spawning⟩ | ⟨large, beyond⟩ | ⟨code, complete, ended⟩ |
      ⟨late, expired⟩
    · exact .inl ⟨later.absent absent, spawning⟩
    · refine .inr (.inl ⟨large, ?_⟩)
      obtain ⟨more, written, _⟩ := later.written .stdout
      rw [written, List.length_append]
      omega
    · obtain ⟨complete, same⟩ := later.complete complete
      refine .inr (.inr (.inl ⟨code, complete, ?_⟩))
      rw [conclude, same, same]
      exact ended
    · exact .inr (.inr (.inr ⟨late, later.expired expired⟩))
  | timeoutError => exact later.expired explains
  | cancelledError => exact later.cancelRequested explains
  | other =>
    rcases explains with absent | ⟨source, broken⟩
    · exact .inl (later.absent absent)
    · exact .inr ⟨source, later.broken source broken⟩

theorem Explains.same (explains : world.Explains settings exc)
    (process : next.process = world.process) (pipe : next.pipe = world.pipe)
    (expired : next.expired = world.expired)
    (cancelRequested : next.cancelRequested = world.cancelRequested)
    (reader : next.reader = world.reader) : next.Explains settings exc := by
  have broken : ∀ source, world.reader source = .broken → next.reader source = .broken := by
    rw [reader]
    exact fun _ => id
  have later := later_refl process pipe expired.trans cancelRequested.trans broken
  exact later.explains explains

theorem Later.delivered (later : world.Later next) (delivered : world.Delivered settings result) :
    next.Delivered settings result := by
  obtain ⟨complete, same⟩ := later.complete delivered.complete
  refine ⟨complete, ?_⟩
  rw [same, same]
  exact delivered.result

theorem Explains.propagated (explains : world.Explains settings exc) :
    world.Explains settings exc.propagated ∧ exc.propagated ≠ .timeoutError := by
  cases exc with
  | failed error => exact ⟨explains, Failure.noConfusion⟩
  | timeoutError => exact ⟨.inr (.inr (.inr ⟨rfl, explains⟩)), Failure.noConfusion⟩
  | cancelledError => exact ⟨explains, Failure.noConfusion⟩
  | other => exact ⟨explains, Failure.noConfusion⟩

theorem killed_kill (world : World) : world.kill.Killed := by
  intro group member
  obtain ⟨before, _, rfl⟩ := Option.map_eq_some_iff.mp member
  refine ⟨rfl, ?_⟩
  cases before with
  | mk leader descendants =>
    cases leader with
    | alive => exact Leader.noConfusion
    | killed => exact Leader.noConfusion
    | exited returncode => exact Leader.noConfusion

theorem later_kill (world : World) : world.Later world.kill where
  absent absent := by
    show world.process.map _ = none
    rw [absent]
    rfl
  exits returncode exited := by
    obtain ⟨group, is, left⟩ := exited
    refine ⟨group.kill, ?_, ?_⟩
    · show world.process.map _ = _
      rw [is]
      rfl
    · rw [Group.kill, left]
  written source := ⟨[], (List.append_nil _).symm, fun closed => ⟨rfl, closed⟩⟩
  expired := id
  cancelRequested := id
  broken _ := id

theorem started_kill (started : world.process ≠ none) : world.kill.process ≠ none := by
  intro none
  exact started (Option.map_eq_none_iff.mp none)

/-- The subprocess moves, or time does: what the call itself holds is as it was. -/
theorem InPhase.outside {process : Option Group} {pipe : Source → Pipe UInt8}
    {expired cancelRequested : Bool} {phase : Phase}
    (absent : world.process = none → process = none ∧ pipe = world.pipe)
    (started : world.process ≠ none → process ≠ none)
    (later : world.Later { world with process, pipe, expired, cancelRequested })
    (killed : world.Killed → { world with process, pipe, expired, cancelRequested }.Killed)
    (inPhase : world.InPhase settings phase) :
    { world with process, pipe, expired, cancelRequested }.InPhase settings phase := by
  cases phase with
  | spawning =>
    obtain ⟨none, untouched, calm, readers, pipes⟩ := inPhase
    obtain ⟨none', rfl⟩ := absent none
    exact ⟨none', ⟨untouched.drains, untouched.signals⟩, calm, readers, pipes⟩
  | gathering =>
    obtain ⟨runs, untouched, rest⟩ := inPhase
    exact ⟨started runs, ⟨untouched.drains, untouched.signals⟩, rest⟩
  | waiting =>
    obtain ⟨runs, untouched, rest⟩ := inPhase
    exact ⟨started runs, ⟨untouched.drains, untouched.signals⟩, rest⟩
  | settling exc =>
    obtain ⟨runs, untouched, interrupted, readers, explains, stop⟩ := inPhase
    exact ⟨started runs, ⟨untouched.drains, untouched.signals⟩, interrupted, readers,
      later.explains explains, stop⟩
  | cleaning exc stage =>
    obtain ⟨runs, interrupted, readers, explains, inStage⟩ := inPhase
    refine ⟨started runs, interrupted, readers, later.explains explains, ?_⟩
    cases stage with
    | starting => exact ⟨inStage.drains, inStage.signals⟩
    | terminating => exact inStage
    | killing => exact ⟨inStage.1, killed inStage.2.1, inStage.2.2⟩
    | finishing => exact ⟨inStage.1, killed inStage.2.1, inStage.2.2⟩
  | returned result =>
    obtain ⟨runs, untouched, readers, delivered⟩ := inPhase
    exact ⟨started runs, ⟨untouched.drains, untouched.signals⟩, readers, later.delivered delivered⟩
  | raised exc =>
    obtain ⟨explains, isFinal, ended⟩ := inPhase
    refine ⟨later.explains explains, isFinal, ?_⟩
    rcases ended with ⟨none, untouched, readers⟩ | ⟨calm, cleaned⟩ |
      ⟨interrupted, is, untouched, readers⟩
    · exact .inl ⟨(absent none).1, ⟨untouched.drains, untouched.signals⟩, readers⟩
    · exact .inr (.inl ⟨calm, cleaned.readers, cleaned.drains, killed cleaned.killed,
        cleaned.signals⟩)
    · exact .inr (.inr ⟨interrupted, is, ⟨untouched.drains, untouched.signals⟩, readers⟩)

theorem Sound.onProcess {change : Group → Option Group} (sound : world.Sound settings)
    (exits : ∀ group group', change group = some group' → ∀ returncode,
      group.leader = .exited returncode → group'.leader = .exited returncode)
    (killed : ∀ group group', change group = some group' →
      group.descendants = 0 ∧ group.leader ≠ .alive →
        group'.descendants = 0 ∧ group'.leader ≠ .alive)
    (taken : world.onProcess change = some next) : next.Sound settings := by
  obtain ⟨group', changed, rfl⟩ := Option.map_eq_some_iff.mp taken
  obtain ⟨group, is, change⟩ := Option.bind_eq_some_iff.mp changed
  have started : world.process ≠ none := by
    rw [is]
    exact Option.some_ne_none group
  have later : world.Later { world with process := some group' } :=
    { absent := fun absent => absurd absent started
      exits := by
        rintro returncode ⟨other, same, left⟩
        rw [is, Option.some.injEq] at same
        exact ⟨group', rfl, exits group group' change returncode (same ▸ left)⟩
      written := fun source => ⟨[], (List.append_nil _).symm, fun closed => ⟨rfl, closed⟩⟩
      expired := id
      cancelRequested := id
      broken := fun _ => id }
  refine ⟨sound.tasks, sound.stops, ?_⟩
  refine InPhase.outside (fun absent => absurd absent started)
    (fun _ => Option.some_ne_none group') later ?_ sound.phase
  intro before other member
  cases member
  exact killed group group' change (before group is)

theorem Sound.setPipe {pipe : Pipe UInt8} (sound : world.Sound settings)
    (started : world.process ≠ none) (grown : (world.pipe source).Grown pipe) :
    (world.setPipe source pipe).Sound settings := by
  have each : ∀ other, (world.pipe other).Grown (Function.update world.pipe source pipe other) := by
    intro other
    by_cases same : other = source
    · rw [same, Function.update_self]
      exact grown
    · rw [Function.update_of_ne same]
      exact Pipe.Grown.refl _
  have later : world.Later (world.setPipe source pipe) :=
    { absent := id
      exits := fun _ => id
      written := by
        intro other
        obtain ⟨more, written, _, nothing⟩ := (each other).more
        exact ⟨more, written, fun closed => ⟨nothing closed, (each other).closed closed⟩⟩
      expired := id
      cancelRequested := id
      broken := fun _ => id }
  refine ⟨fun other => Task.follows_grown (each other) (sound.tasks other), sound.stops, ?_⟩
  exact InPhase.outside (fun absent => absurd absent started) id later id sound.phase

theorem Sound.flagged {expired cancelRequested : Bool} (sound : world.Sound settings)
    (late : world.expired = true → expired = true)
    (asked : world.cancelRequested = true → cancelRequested = true) :
    { world with expired, cancelRequested }.Sound settings := by
  refine ⟨sound.tasks, ?_, ?_⟩
  · intro stop member
    rcases sound.stops stop member with ⟨is, since⟩ | ⟨is, since⟩
    · exact .inl ⟨is, asked since⟩
    · exact .inr ⟨is, late since⟩
  · have later : world.Later { world with expired, cancelRequested } :=
      later_refl rfl rfl late asked fun _ => id
    exact InPhase.outside (fun absent => ⟨absent, rfl⟩) id later id sound.phase

/-- Within the `try`. -/
structure InBody (world : World) : Prop where
  untouched : world.Untouched
  calm : world.interrupted = false
  absent : world.process = none → ∀ source, world.reader source = .idle
  started : world.process ≠ none → ∀ source, world.reader source ≠ .idle

theorem Sound.inBody (sound : world.Sound settings)
    (body : world.phase = .spawning ∨ world.phase = .gathering ∨ world.phase = .waiting) :
    world.InBody := by
  have inPhase := sound.phase
  rcases body with at_phase | at_phase | at_phase
  · rw [at_phase] at inPhase
    obtain ⟨none, untouched, calm, readers, _⟩ := inPhase
    exact ⟨untouched, calm, fun _ => readers, fun runs => absurd none runs⟩
  · rw [at_phase] at inPhase
    obtain ⟨runs, untouched, calm, readers, _⟩ := inPhase
    exact ⟨untouched, calm, fun absent => absurd absent runs, fun _ => readers⟩
  · rw [at_phase] at inPhase
    obtain ⟨runs, untouched, calm, readers⟩ := inPhase
    refine ⟨untouched, calm, fun absent => absurd absent runs, ?_⟩
    intro _ source idle
    obtain ⟨state, is⟩ := readers source
    rw [is] at idle
    cases idle

theorem caught_absent (absent : world.process = none) :
    world.caught exc = { world with phase := .raised exc.propagated, stopping := none } := by
  simp only [World.caught, absent]

theorem caught_started (started : world.process ≠ none) :
    world.caught exc = { world.cancelReaders with phase := .settling exc, stopping := none } := by
  unfold World.caught
  split
  next absent => exact absurd absent started
  next => rfl

theorem Sound.caught (sound : world.Sound settings) (body : world.InBody)
    (explains : world.Explains settings exc) : (world.caught exc).Sound settings := by
  by_cases absent : world.process = none
  · rw [caught_absent absent]
    have later : world.Later { world with phase := .raised exc.propagated, stopping := none } :=
      later_refl rfl rfl id id fun _ => id
    have explained := explains.propagated
    refine ⟨sound.tasks, (fun stop member => nomatch member), later.explains explained.1,
      explained.2, .inl ⟨absent, ?_, body.absent absent⟩⟩
    exact ⟨body.untouched.drains, body.untouched.signals⟩
  · rw [caught_started absent]
    have later : world.Later
        { world.cancelReaders with phase := .settling exc, stopping := none } :=
      later_refl rfl rfl id id fun _ => Task.cancel_broken
    refine ⟨fun source => Task.follows_cancel (sound.tasks source),
      (fun stop member => nomatch member), absent,
      ⟨body.untouched.drains, body.untouched.signals⟩, body.calm, ?_, later.explains explains,
      (fun stop member => nomatch member)⟩
    intro source
    exact Task.cancel_or_over (body.started absent source)

theorem Sound.halt (sound : world.Sound settings)
    (body : world.phase = .spawning ∨ world.phase = .gathering ∨ world.phase = .waiting)
    (asked : (exc = .cancelledError ∧ world.cancelRequested = true) ∨
      (exc = .timeoutError ∧ world.expired = true)) : (world.halt exc).Sound settings := by
  have stops : ∀ stop ∈ (if world.stopping = some .cancelledError then world.stopping
      else some exc), (stop = .cancelledError ∧ world.cancelRequested = true) ∨
        (stop = .timeoutError ∧ world.expired = true) := by
    intro stop member
    split at member
    next => exact sound.stops stop member
    next =>
      cases member
      exact asked
  have pending : (if world.stopping = some .cancelledError then world.stopping
      else some exc) ≠ none := by
    split
    next is =>
      rw [is]
      exact Option.some_ne_none _
    next => exact Option.some_ne_none _
  have inPhase := sound.phase
  unfold World.halt
  rcases body with at_phase | at_phase | at_phase
  · rw [at_phase] at inPhase
    obtain ⟨absent, untouched, calm, readers, pipes⟩ := inPhase
    simp only [at_phase]
    refine ⟨sound.tasks, stops, ?_⟩
    exact ⟨absent, ⟨untouched.drains, untouched.signals⟩, calm, readers, pipes⟩
  · rw [at_phase] at inPhase
    obtain ⟨started, untouched, calm, readers, _⟩ := inPhase
    simp only [at_phase]
    split
    next =>
      refine ⟨sound.tasks, stops, ?_⟩
      exact ⟨started, ⟨untouched.drains, untouched.signals⟩, calm, readers,
        fun none => absurd none pending⟩
    next =>
      refine ⟨fun source => Task.follows_cancel (sound.tasks source), stops, ?_⟩
      refine ⟨started, ⟨untouched.drains, untouched.signals⟩, calm, ?_,
        fun none => absurd none pending⟩
      intro source idle
      exact readers source (Task.cancel_idle.mp idle)
  · rw [at_phase] at inPhase
    obtain ⟨started, untouched, calm, readers⟩ := inPhase
    simp only [at_phase]
    refine ⟨sound.tasks, stops, ?_⟩
    exact ⟨started, ⟨untouched.drains, untouched.signals⟩, calm, readers⟩

theorem kept_invariant (settings : Settings) (source : Source) :
    (readerLoop settings source).Invariant [] (Kept settings source) := by
  cases source with
  | stdout => exact stdout_invariant settings.maxOutputBytes
  | stderr => exact stderr_invariant

/-- A reader runs only while the body gathers it. -/
theorem Sound.gathering_of_running {state : Bytes} (sound : world.Sound settings)
    (running : world.reader source = .running state) : world.phase = .gathering := by
  have inPhase := sound.phase
  cases at_phase : world.phase with
  | spawning =>
    rw [at_phase] at inPhase
    obtain ⟨_, _, _, readers, _⟩ := inPhase
    cases running.symm.trans (readers source)
  | gathering => rfl
  | waiting =>
    rw [at_phase] at inPhase
    obtain ⟨_, _, _, readers⟩ := inPhase
    obtain ⟨output, is⟩ := readers source
    cases running.symm.trans is
  | settling exc =>
    rw [at_phase] at inPhase
    obtain ⟨_, _, _, readers, _⟩ := inPhase
    have stopping := readers source
    rw [running] at stopping
    rcases stopping with is | isOver
    · cases is
    · cases isOver
  | cleaning exc stage =>
    rw [at_phase] at inPhase
    obtain ⟨_, _, readers, _⟩ := inPhase
    have isOver := readers source
    rw [running] at isOver
    cases isOver
  | returned result =>
    rw [at_phase] at inPhase
    obtain ⟨_, _, readers, _⟩ := inPhase
    have isOver := readers source
    rw [running] at isOver
    cases isOver
  | raised exc =>
    rw [at_phase] at inPhase
    obtain ⟨_, _, ⟨_, _, readers⟩ | ⟨_, cleaned⟩ | ⟨_, _, _, readers⟩⟩ := inPhase
    · cases running.symm.trans (readers source)
    · have isOver := cleaned.readers source
      rw [running] at isOver
      cases isOver
    · have isOver := readers source
      rw [running] at isOver
      cases isOver

/-- A drain is under way only while `_cleanup` is past its start. -/
theorem Sound.cleaning_of_reads (sound : world.Sound settings)
    (reads : (world.drain source).reads = true) :
    ∃ exc stage, world.phase = .cleaning exc stage ∧ stage ≠ .starting := by
  have untouched : ¬world.Untouched := by
    intro untouched
    rw [untouched.drains source] at reads
    cases reads
  have inPhase := sound.phase
  cases at_phase : world.phase with
  | spawning =>
    rw [at_phase] at inPhase
    exact absurd inPhase.2.1 untouched
  | gathering =>
    rw [at_phase] at inPhase
    exact absurd inPhase.2.1 untouched
  | waiting =>
    rw [at_phase] at inPhase
    exact absurd inPhase.2.1 untouched
  | settling exc =>
    rw [at_phase] at inPhase
    exact absurd inPhase.2.1 untouched
  | cleaning exc stage =>
    rw [at_phase] at inPhase
    refine ⟨exc, stage, rfl, ?_⟩
    intro starting
    subst starting
    exact untouched inPhase.2.2.2.2
  | returned result =>
    rw [at_phase] at inPhase
    exact absurd inPhase.2.1 untouched
  | raised exc =>
    rw [at_phase] at inPhase
    obtain ⟨_, _, ⟨_, calm, _⟩ | ⟨_, cleaned⟩ | ⟨_, _, calm, _⟩⟩ := inPhase
    · exact absurd calm untouched
    · rw [Task.reads_of_over (cleaned.drains source)] at reads
      cases reads
    · exact absurd calm untouched

/-- All the tasks of the readers, after one of them moved. -/
theorem update_forall {task : Task Bytes NmapRunError} (holds : Task Bytes NmapRunError → Prop)
    (all : ∀ other, holds (world.reader other)) (moved : holds task) (other : Source) :
    holds (Function.update world.reader source task other) := by
  by_cases same : other = source
  · rw [same, Function.update_self]
    exact moved
  · rw [Function.update_of_ne same]
    exact all other

theorem Sound.read (sound : world.Sound settings)
    (taken : world.step settings (.read source chunk) = some next) : next.Sound settings := by
  obtain ⟨⟨task, pipe⟩, moved, rfl⟩ := Option.map_eq_some_iff.mp taken
  obtain ⟨state, running, gives, rfl, _⟩ := Task.read_some moved
  obtain ⟨begun, uncalled⟩ := Task.read_begun moved
  have at_phase := sound.gathering_of_running running
  have inPhase := sound.phase
  rw [at_phase] at inPhase
  obtain ⟨started, untouched, calm, readers, uncancelled⟩ := inPhase
  refine ⟨?_, sound.stops, ?_⟩
  · intro other
    by_cases same : other = source
    · subst same
      simp only [World.setPipe, Function.update_self]
      exact Task.follows_read (kept_invariant settings other) (sound.tasks other) moved
    · simp only [World.setPipe, Function.update_of_ne same]
      exact sound.tasks other
  · show InPhase settings _ world.phase
    rw [at_phase]
    refine ⟨started, ⟨untouched.drains, untouched.signals⟩, calm, ?_, ?_⟩
    · exact update_forall (· ≠ .idle) readers begun
    · intro none
      exact update_forall (fun task => task ≠ .cancelling ∧ task ≠ .cancelled) (uncancelled none)
        uncalled

theorem Sound.readFails (sound : world.Sound settings)
    (taken : world.step settings (.readFails source) = some next) : next.Sound settings := by
  unfold World.step at taken
  dsimp only at taken
  split at taken
  next => cases taken
  next =>
    obtain ⟨task, failed, rfl⟩ := Option.map_eq_some_iff.mp taken
    obtain ⟨state, running, rfl⟩ := Task.fail_some failed
    have at_phase := sound.gathering_of_running running
    have inPhase := sound.phase
    rw [at_phase] at inPhase
    obtain ⟨started, untouched, calm, readers, uncancelled⟩ := inPhase
    refine ⟨?_, sound.stops, ?_⟩
    · intro other
      by_cases same : other = source
      · subst same
        simp only [Function.update_self]
        trivial
      · simp only [Function.update_of_ne same]
        exact sound.tasks other
    · show InPhase settings _ world.phase
      rw [at_phase]
      refine ⟨started, ⟨untouched.drains, untouched.signals⟩, calm, ?_, ?_⟩
      · exact update_forall (· ≠ .idle) readers nofun
      · intro none
        exact update_forall (fun task => task ≠ .cancelling ∧ task ≠ .cancelled) (uncancelled none)
          ⟨nofun, nofun⟩

theorem Sound.stopped (sound : world.Sound settings)
    (taken : world.step settings (.stopped source) = some next) : next.Sound settings := by
  obtain ⟨task, stopped, rfl⟩ := Option.map_eq_some_iff.mp taken
  obtain ⟨isOver, unfinished, rfl⟩ := Task.over_stop stopped
  have broken : ∀ other, world.reader other = .broken →
      Function.update world.reader source .cancelled other = .broken := by
    intro other broken
    have differ : other ≠ source := by
      intro same
      rw [← same, broken] at unfinished
      cases unfinished
    exact (Function.update_of_ne differ _ _).trans broken
  have inPhase := sound.phase
  refine ⟨?_, sound.stops, ?_⟩
  · intro other
    by_cases same : other = source
    · subst same
      simp only [Function.update_self]
      trivial
    · simp only [Function.update_of_ne same]
      exact sound.tasks other
  · show InPhase settings _ world.phase
    cases at_phase : world.phase with
    | spawning =>
      rw [at_phase] at inPhase
      obtain ⟨_, _, _, readers, _⟩ := inPhase
      rw [readers source] at stopped
      cases stopped
    | gathering =>
      rw [at_phase] at inPhase
      obtain ⟨started, untouched, calm, readers, uncancelled⟩ := inPhase
      refine ⟨started, ⟨untouched.drains, untouched.signals⟩, calm,
        update_forall (· ≠ .idle) readers nofun, ?_⟩
      intro none
      have moves := (uncancelled none source).1
      cases is : world.reader source with
      | cancelling => exact absurd is moves
      | _ =>
        rw [is] at stopped
        cases stopped
    | waiting =>
      rw [at_phase] at inPhase
      obtain ⟨_, _, _, readers⟩ := inPhase
      obtain ⟨output, is⟩ := readers source
      rw [is] at stopped
      cases stopped
    | settling exc =>
      rw [at_phase] at inPhase
      obtain ⟨started, untouched, interrupted, readers, explains, stop⟩ := inPhase
      refine ⟨started, ⟨untouched.drains, untouched.signals⟩, interrupted,
        update_forall (fun task => task = .cancelling ∨ task.isOver = true) readers (.inr isOver),
        ?_, stop⟩
      refine Later.explains (later_refl ?_ ?_ ?_ ?_ broken) explains
      · rfl
      · rfl
      · exact id
      · exact id
    | cleaning exc stage =>
      rw [at_phase] at inPhase
      obtain ⟨_, _, readers, _⟩ := inPhase
      rw [readers source] at unfinished
      cases unfinished
    | returned result =>
      rw [at_phase] at inPhase
      obtain ⟨_, _, readers, _⟩ := inPhase
      rw [readers source] at unfinished
      cases unfinished
    | raised exc =>
      rw [at_phase] at inPhase
      obtain ⟨_, _, ⟨_, _, readers⟩ | ⟨_, cleaned⟩ | ⟨_, _, _, readers⟩⟩ := inPhase
      · rw [readers source] at stopped
        cases stopped
      · rw [cleaned.readers source] at unfinished
        cases unfinished
      · rw [readers source] at unfinished
        cases unfinished

/-- A drain moves: its stage keeps what it knows. -/
theorem InStage.update {stage : Stage} {task : Task Unit NmapRunError}
    (inStage : world.InStage stage) (begun : stage ≠ .starting) (moved : task ≠ .idle)
    (ends : stage = .finishing → task = .cancelling ∨ task.isOver = true)
    (signals : next.signals = world.signals) (process : next.process = world.process)
    (drains : next.drain = Function.update world.drain source task) : next.InStage stage := by
  have all : (∀ other, world.drain other ≠ .idle) → ∀ other, next.drain other ≠ .idle := by
    intro begun other
    rw [drains]
    by_cases same : other = source
    · rw [same, Function.update_self]
      exact moved
    · rw [Function.update_of_ne same]
      exact begun other
  have killed : world.Killed → next.Killed := by
    intro killed group member
    rw [process] at member
    exact killed group member
  cases stage with
  | starting => exact absurd rfl begun
  | terminating => exact ⟨signals.trans inStage.1, all inStage.2⟩
  | killing => exact ⟨signals.trans inStage.1, killed inStage.2.1, all inStage.2.2⟩
  | finishing =>
    refine ⟨signals ▸ inStage.1, killed inStage.2.1, ?_⟩
    intro other
    rw [drains]
    by_cases same : other = source
    · rw [same, Function.update_self]
      exact ends rfl
    · rw [Function.update_of_ne same]
      exact inStage.2.2 other

theorem Sound.discard (sound : world.Sound settings)
    (taken : world.step settings (.discard source chunk) = some next) : next.Sound settings := by
  obtain ⟨⟨task, pipe⟩, moved, rfl⟩ := Option.map_eq_some_iff.mp taken
  obtain ⟨state, running, gives, rfl, _⟩ := Task.read_some moved
  have reads : (world.drain source).reads = true := by
    rw [running]
    rfl
  obtain ⟨exc, stage, at_phase, begun⟩ := sound.cleaning_of_reads reads
  have inPhase := sound.phase
  rw [at_phase] at inPhase
  obtain ⟨started, calm, readers, explains, inStage⟩ := inPhase
  have later : world.Later { world.setPipe source ((world.pipe source).take chunk) with
      drain := Function.update world.drain source task } :=
    { absent := id
      exits := fun _ => id
      written := by
        intro other
        refine ⟨[], ?_, ?_⟩
        · rw [List.append_nil]
          by_cases same : other = source
          · simp only [World.setPipe, same, Function.update_self]
            rfl
          · simp only [World.setPipe, Function.update_of_ne same]
        · intro closed
          refine ⟨rfl, ?_⟩
          by_cases same : other = source
          · rw [same] at closed
            simp only [World.setPipe, same, Function.update_self]
            exact closed
          · simp only [World.setPipe, Function.update_of_ne same]
            exact closed
      expired := id
      cancelRequested := id
      broken := fun _ => id }
  refine ⟨?_, sound.stops, ?_⟩
  · intro other
    by_cases same : other = source
    · subst same
      simp only [World.setPipe, Function.update_self]
      exact Task.follows_take (Task.reads_of_over (readers other)) gives (sound.tasks other)
    · simp only [World.setPipe, Function.update_of_ne same]
      exact sound.tasks other
  · show InPhase settings _ world.phase
    rw [at_phase]
    refine ⟨started, calm, readers, later.explains explains, ?_⟩
    refine inStage.update begun (Task.read_begun moved).1 ?_ rfl rfl rfl
    intro finishing
    subst finishing
    have stopped := inStage.2.2 source
    rw [running] at stopped
    rcases stopped with is | is
    · cases is
    · cases is

theorem Sound.discardStopped (sound : world.Sound settings)
    (taken : world.step settings (.discardStopped source) = some next) : next.Sound settings := by
  obtain ⟨task, stopped, rfl⟩ := Option.map_eq_some_iff.mp taken
  obtain ⟨isOver, unfinished, rfl⟩ := Task.over_stop stopped
  have reads : (world.drain source).reads = true := by
    cases is : world.drain source with
    | cancelling => rfl
    | _ =>
      rw [is] at stopped
      cases stopped
  obtain ⟨exc, stage, at_phase, begun⟩ := sound.cleaning_of_reads reads
  have inPhase := sound.phase
  rw [at_phase] at inPhase
  obtain ⟨started, calm, readers, explains, inStage⟩ := inPhase
  refine ⟨sound.tasks, sound.stops, ?_⟩
  show InPhase settings _ world.phase
  rw [at_phase]
  have moved : (Task.cancelled : Task Unit NmapRunError) ≠ .idle := nofun
  exact ⟨started, calm, readers, explains.same rfl rfl rfl rfl rfl,
    inStage.update begun moved (fun _ => .inr isOver) rfl rfl rfl⟩

theorem Sound.discardFails (sound : world.Sound settings)
    (taken : world.step settings (.discardFails source) = some next) : next.Sound settings := by
  obtain ⟨task, failed, rfl⟩ := Option.map_eq_some_iff.mp taken
  obtain ⟨state, running, rfl⟩ := Task.fail_some failed
  have reads : (world.drain source).reads = true := by
    rw [running]
    rfl
  obtain ⟨exc, stage, at_phase, begun⟩ := sound.cleaning_of_reads reads
  have inPhase := sound.phase
  rw [at_phase] at inPhase
  obtain ⟨started, calm, readers, explains, inStage⟩ := inPhase
  refine ⟨sound.tasks, sound.stops, ?_⟩
  show InPhase settings _ world.phase
  rw [at_phase]
  have moved : (Task.broken : Task Unit NmapRunError) ≠ .idle := nofun
  have isOver : (Task.broken : Task Unit NmapRunError).isOver = true := rfl
  exact ⟨started, calm, readers, explains.same rfl rfl rfl rfl rfl,
    inStage.update begun moved (fun _ => .inr isOver) rfl rfl rfl⟩

theorem Sound.explains_stop (sound : world.Sound settings) (stop : world.stopping = some exc) :
    world.Explains settings exc := by
  rcases sound.stops exc stop with ⟨rfl, asked⟩ | ⟨rfl, late⟩
  · exact asked
  · exact late

/-- Only `_stdout` raises, and only for its limit. -/
theorem Sound.explains_raised {error : NmapRunError} (sound : world.Sound settings)
    (raised : world.reader source = .raised error) : world.Explains settings (.failed error) := by
  have follows := sound.tasks source
  rw [raised] at follows
  obtain ⟨taken, chunk, rest, output, written, kept, handled⟩ := follows
  cases source with
  | stdout =>
    obtain ⟨rfl, _⟩ := kept
    change (if settings.maxOutputBytes < _ then _ else _) = _ at handled
    split at handled
    next larger =>
      cases handled
      refine .inr (.inl ⟨rfl, ?_⟩)
      rw [written, List.length_append, List.length_append]
      omega
    next => cases handled
  | stderr => cases handled

theorem gather_ok {output tail : Bytes} (gathered : world.gather = some (.ok (output, tail))) :
    world.reader .stdout = .returned output ∧ world.reader .stderr = .returned tail := by
  unfold World.gather at gathered
  split at gathered
  next stdout stderr =>
    cases gathered
    exact ⟨stdout, stderr⟩
  all_goals cases gathered

theorem gather_error (gathered : world.gather = some (.error exc)) :
    ∃ source, (world.reader source = .broken ∧ exc = .other) ∨
      (∃ error, world.reader source = .raised error ∧ exc = .failed error) ∨
      world.reader source = .cancelled := by
  unfold World.gather at gathered
  split at gathered
  next => cases gathered
  next broken =>
    cases gathered
    exact ⟨.stdout, .inl ⟨broken, rfl⟩⟩
  next broken _ =>
    cases gathered
    exact ⟨.stderr, .inl ⟨broken, rfl⟩⟩
  next error raised _ =>
    cases gathered
    exact ⟨.stdout, .inr (.inl ⟨error, raised, rfl⟩)⟩
  next error raised _ _ =>
    cases gathered
    exact ⟨.stderr, .inr (.inl ⟨error, raised, rfl⟩)⟩
  next stopped _ _ => exact ⟨.stdout, .inr (.inr stopped)⟩
  next stopped _ _ _ => exact ⟨.stderr, .inr (.inr stopped)⟩
  next => cases gathered

theorem Sound.spawned (sound : world.Sound settings)
    (taken : world.step settings .spawned = some next) : next.Sound settings := by
  have inPhase := sound.phase
  unfold World.step at taken
  dsimp only at taken
  split at taken
  next at_phase _ =>
    cases taken
    rw [at_phase] at inPhase
    obtain ⟨_, untouched, calm, _, pipes⟩ := inPhase
    refine ⟨?_, sound.stops, Option.some_ne_none _, ⟨untouched.drains, untouched.signals⟩, calm,
      fun _ => nofun, fun _ _ => ⟨nofun, nofun⟩⟩
    intro source
    show Task.Follows _ _ (world.pipe source) _
    rw [pipes source]
    exact Task.follows_start (kept_invariant settings source)
  next => cases taken

theorem Sound.spawnFails {error : SpawnError} (sound : world.Sound settings)
    (taken : world.step settings (.spawnFails error) = some next) : next.Sound settings := by
  unfold World.step at taken
  dsimp only at taken
  split at taken
  next at_phase _ =>
    cases taken
    have inPhase := sound.phase
    rw [at_phase] at inPhase
    refine sound.caught (sound.inBody (.inl at_phase)) ?_
    cases error with
    | permission => exact .inl ⟨inPhase.1, .inl rfl⟩
    | fileNotFound => exact .inl ⟨inPhase.1, .inr rfl⟩
    | other => exact .inl inPhase.1
  next => cases taken

theorem Sound.gathered (sound : world.Sound settings)
    (taken : world.step settings .gathered = some next) : next.Sound settings := by
  have inPhase := sound.phase
  unfold World.step at taken
  dsimp only at taken
  split at taken
  next result at_phase _ gathered =>
    cases taken
    rw [at_phase] at inPhase
    obtain ⟨started, untouched, calm, _⟩ := inPhase
    obtain ⟨stdout, stderr⟩ := gather_ok gathered
    refine ⟨sound.tasks, sound.stops, started, ⟨untouched.drains, untouched.signals⟩, calm, ?_⟩
    intro source
    cases source with
    | stdout => exact ⟨_, stdout⟩
    | stderr => exact ⟨_, stderr⟩
  next exc at_phase none gathered =>
    cases taken
    rw [at_phase] at inPhase
    obtain ⟨_, _, _, _, uncancelled⟩ := inPhase
    refine sound.caught (sound.inBody (.inr (.inl at_phase))) ?_
    obtain ⟨source, ⟨broken, rfl⟩ | ⟨error, raised, rfl⟩ | cancelled⟩ := gather_error gathered
    · exact .inr ⟨source, broken⟩
    · exact sound.explains_raised raised
    · exact absurd cancelled (uncancelled none source).2
  next => cases taken

/-- The readers have both read their pipes to the end. -/
theorem Sound.complete {output tail : Bytes} (sound : world.Sound settings)
    (exit : ∃ group, world.process = some group ∧ group.leader = .exited returncode)
    (stdout : world.reader .stdout = .returned output)
    (stderr : world.reader .stderr = .returned tail) :
    world.Complete settings returncode ∧ output = (world.pipe .stdout).written ∧
      tail = lastBytes tailSize (world.pipe .stderr).written := by
  have first := sound.tasks .stdout
  rw [stdout] at first
  obtain ⟨_, closed, whole, within⟩ := first
  have second := sound.tasks .stderr
  rw [stderr] at second
  obtain ⟨_, closed', kept⟩ := second
  refine ⟨⟨exit, ?_, within⟩, whole, kept⟩
  intro source
  cases source with
  | stdout => exact closed
  | stderr => exact closed'

theorem finish_returncode {decode : Bytes → String} {supervised : Bool}
    {stdout : Except NmapRunError Bytes} {tail : Bytes}
    (finished : Nmap.finish decode supervised returncode stdout tail = .ok result) :
    stdout = .ok result.stdout ∧ result.stderrTail = decode tail ∧ result.returncode = 0 ∧
      returncode = 0 := by
  cases stdout with
  | error error => cases finished
  | ok output =>
    simp only [Nmap.finish, bind, Except.bind] at finished
    split at finished
    next => cases finished
    next =>
      split at finished
      next => cases finished
      next zero =>
        have is : returncode = 0 := Decidable.not_not.mp zero
        have same := Except.ok.inj finished
        subst same
        exact ⟨rfl, rfl, is, is⟩

theorem Sound.waited (sound : world.Sound settings)
    (taken : world.step settings .waited = some next) : next.Sound settings := by
  have inPhase := sound.phase
  unfold World.step at taken
  dsimp only at taken
  split at taken
  next code output tail at_phase _ exit gathered =>
    rw [at_phase] at inPhase
    obtain ⟨started, untouched, calm, readers⟩ := inPhase
    obtain ⟨stdout, stderr⟩ := gather_ok gathered
    have exit : ∃ group, world.process = some group ∧ group.leader = .exited code :=
      Option.map_eq_some_iff.mp exit
    obtain ⟨complete, read, kept⟩ := sound.complete exit stdout stderr
    split at taken
    next result finished =>
      cases taken
      obtain ⟨whole, decoded, zero, rfl⟩ := finish_returncode finished
      refine ⟨sound.tasks, sound.stops, started, ⟨untouched.drains, untouched.signals⟩, ?_,
        ⟨complete.exit, complete.closed, complete.within⟩, ?_⟩
      · intro source
        obtain ⟨state, is⟩ := readers source
        show (world.reader source).isOver = true
        rw [is]
        rfl
      · cases result
        simp only at whole decoded zero
        rw [decoded, zero, kept, ← read, Except.ok.inj whole]
    next error finished =>
      cases taken
      refine sound.caught (sound.inBody (.inr (.inr at_phase))) ?_
      rw [read, kept] at finished
      exact .inr (.inr (.inl ⟨code, complete, finished⟩))
  next => cases taken

theorem Sound.cancel (sound : world.Sound settings)
    (taken : world.step settings .cancel = some next) : next.Sound settings := by
  have asked : { world with cancelRequested := true }.Sound settings :=
    sound.flagged id fun _ => rfl
  unfold World.step at taken
  dsimp only at taken
  split at taken
  next at_phase =>
    cases taken
    exact asked.halt (.inl at_phase) (.inl ⟨rfl, rfl⟩)
  next at_phase =>
    cases taken
    exact asked.halt (.inr (.inl at_phase)) (.inl ⟨rfl, rfl⟩)
  next at_phase =>
    cases taken
    exact asked.halt (.inr (.inr at_phase)) (.inl ⟨rfl, rfl⟩)
  next exc at_phase =>
    cases taken
    have inPhase := asked.phase
    change InPhase settings _ world.phase at inPhase
    rw [at_phase] at inPhase
    obtain ⟨started, untouched, _, readers, explains, _⟩ := inPhase
    refine ⟨asked.tasks, ?_, ?_⟩
    · intro stop member
      cases member
      exact .inl ⟨rfl, rfl⟩
    · show InPhase settings _ world.phase
      rw [at_phase]
      refine ⟨started, ⟨untouched.drains, untouched.signals⟩, rfl, readers,
        explains.same rfl rfl rfl rfl rfl, ?_⟩
      intro stop member
      cases member
      rfl
  next =>
    cases taken
    exact asked

theorem Sound.deadline (sound : world.Sound settings)
    (taken : world.step settings .deadline = some next) : next.Sound settings := by
  have late : { world with expired := true }.Sound settings := sound.flagged (fun _ => rfl) id
  unfold World.step at taken
  dsimp only at taken
  split at taken
  next at_phase =>
    cases taken
    exact late.halt (.inl at_phase) (.inr ⟨rfl, rfl⟩)
  next at_phase =>
    cases taken
    exact late.halt (.inr (.inl at_phase)) (.inr ⟨rfl, rfl⟩)
  next at_phase =>
    cases taken
    exact late.halt (.inr (.inr at_phase)) (.inr ⟨rfl, rfl⟩)
  next => cases taken

theorem Sound.deliver (sound : world.Sound settings)
    (taken : world.step settings .deliver = some next) : next.Sound settings := by
  unfold World.step at taken
  dsimp only at taken
  split at taken
  next exc at_phase stop =>
    cases taken
    exact sound.caught (sound.inBody (.inl at_phase)) (sound.explains_stop stop)
  next exc at_phase stop =>
    split at taken
    next =>
      cases taken
      exact sound.caught (sound.inBody (.inr (.inl at_phase))) (sound.explains_stop stop)
    next => cases taken
  next exc at_phase stop =>
    cases taken
    exact sound.caught (sound.inBody (.inr (.inr at_phase))) (sound.explains_stop stop)
  next => cases taken

theorem Sound.settled (sound : world.Sound settings)
    (taken : world.step settings .settled = some next) : next.Sound settings := by
  have inPhase := sound.phase
  unfold World.step at taken
  dsimp only at taken
  split at taken
  next exc at_phase =>
    rw [at_phase] at inPhase
    obtain ⟨started, untouched, interrupted, _, explains, cancelled⟩ := inPhase
    split at taken
    next both =>
      have isOver : ∀ source, (world.reader source).isOver = true := by
        rw [Bool.and_eq_true] at both
        intro source
        cases source with
        | stdout => exact both.1
        | stderr => exact both.2
      split at taken
      next stop pending =>
        cases taken
        have is := cancelled stop pending
        subst is
        have later := sound.explains_stop pending
        rw [pending] at interrupted
        exact ⟨sound.tasks, (fun stop member => nomatch member), later.same rfl rfl rfl rfl rfl,
          nofun, .inr (.inr ⟨interrupted, rfl, ⟨untouched.drains, untouched.signals⟩, isOver⟩)⟩
      next pending =>
        cases taken
        rw [pending] at interrupted
        exact ⟨sound.tasks, sound.stops, started, interrupted, isOver,
          explains.same rfl rfl rfl rfl rfl, ⟨untouched.drains, untouched.signals⟩⟩
    next => cases taken
  next => cases taken

theorem Sound.begins (sound : world.Sound settings)
    (taken : world.step settings .begins = some next) : next.Sound settings := by
  have inPhase := sound.phase
  unfold World.step at taken
  dsimp only at taken
  split at taken
  next exc at_phase =>
    cases taken
    rw [at_phase] at inPhase
    obtain ⟨started, calm, readers, explains, untouched⟩ := inPhase
    refine ⟨sound.tasks, sound.stops, started, calm, readers, explains.same rfl rfl rfl rfl rfl, ?_,
      fun source => nofun⟩
    show world.signals ++ [.term] = _
    rw [untouched.signals]
    rfl
  next => cases taken

theorem later_finish (world : World) (exc : Failure) : world.Later (world.finish exc) :=
  { later_kill world with }

/-- The `finally` of `_cleanup`, after either of its waits. -/
theorem Sound.finish (sound : world.Sound settings)
    (at_phase : world.phase = .cleaning exc .terminating ∨ world.phase = .cleaning exc .killing) :
    (world.finish exc).Sound settings := by
  have inPhase := sound.phase
  refine ⟨sound.tasks, sound.stops, ?_⟩
  show InPhase settings _ (.cleaning exc .finishing)
  have cancelled : (∀ source, world.drain source ≠ .idle) → ∀ source,
      (world.drain source).cancel = .cancelling ∨ (world.drain source).cancel.isOver = true :=
    fun begun source => Task.cancel_or_over (begun source)
  rcases at_phase with at_phase | at_phase
  · rw [at_phase] at inPhase
    obtain ⟨started, calm, readers, explains, signals, begun⟩ := inPhase
    refine ⟨started_kill started, calm, readers, (later_finish world exc).explains explains,
      .inl ?_, killed_kill world, cancelled begun⟩
    show world.signals ++ [.kill] = _
    rw [signals]
    rfl
  · rw [at_phase] at inPhase
    obtain ⟨started, calm, readers, explains, signals, _, begun⟩ := inPhase
    refine ⟨started_kill started, calm, readers, (later_finish world exc).explains explains,
      .inr ?_, killed_kill world, cancelled begun⟩
    show world.signals ++ [.kill] = _
    rw [signals]
    rfl

theorem Sound.exited (sound : world.Sound settings)
    (taken : world.step settings .exited = some next) : next.Sound settings := by
  unfold World.step at taken
  dsimp only at taken
  split at taken
  next exc code at_phase _ =>
    cases taken
    exact sound.finish (.inl at_phase)
  next exc code at_phase _ =>
    cases taken
    exact sound.finish (.inr at_phase)
  next => cases taken

theorem Sound.graceEnds (sound : world.Sound settings)
    (taken : world.step settings .graceEnds = some next) : next.Sound settings := by
  unfold World.step at taken
  dsimp only at taken
  split at taken
  next exc at_phase =>
    cases taken
    have inPhase := sound.phase
    rw [at_phase] at inPhase
    obtain ⟨started, calm, readers, explains, signals, begun⟩ := inPhase
    refine ⟨sound.tasks, sound.stops, ?_⟩
    have explained := (later_kill world).explains explains
    refine ⟨started_kill started, calm, readers, explained.same rfl rfl rfl rfl rfl, ?_,
      killed_kill world, begun⟩
    show world.signals ++ [.kill] = _
    rw [signals]
    rfl
  next exc at_phase =>
    cases taken
    exact sound.finish (.inr at_phase)
  next => cases taken

theorem Sound.drained (sound : world.Sound settings)
    (taken : world.step settings .drained = some next) : next.Sound settings := by
  have inPhase := sound.phase
  unfold World.step at taken
  dsimp only at taken
  split at taken
  next exc at_phase =>
    rw [at_phase] at inPhase
    obtain ⟨_, calm, readers, explains, signals, killed, _⟩ := inPhase
    split at taken
    next both =>
      cases taken
      have isOver : ∀ source, (world.drain source).isOver = true := by
        rw [Bool.and_eq_true] at both
        intro source
        cases source with
        | stdout => exact both.1
        | stderr => exact both.2
      obtain ⟨explained, isFinal⟩ := explains.propagated
      exact ⟨sound.tasks, sound.stops, explained.same rfl rfl rfl rfl rfl, isFinal,
        .inr (.inl ⟨calm, readers, isOver, killed, signals⟩)⟩
    next => cases taken
  next => cases taken

theorem Sound.write {bytes : Bytes} (sound : world.Sound settings)
    (taken : world.step settings (.write source bytes) = some next) : next.Sound settings := by
  unfold World.step at taken
  dsimp only at taken
  split at taken
  next group running =>
    split at taken
    next =>
      obtain ⟨pipe, wrote, rfl⟩ := Option.map_eq_some_iff.mp taken
      have started : world.process ≠ none := by
        rw [running]
        exact Option.some_ne_none _
      exact sound.setPipe started (Pipe.grown_write wrote)
    next => cases taken
  next => cases taken

theorem Sound.close (sound : world.Sound settings)
    (taken : world.step settings (.close source) = some next) : next.Sound settings := by
  obtain ⟨group, running, rfl⟩ := Option.map_eq_some_iff.mp taken
  have started : world.process ≠ none := by
    rw [running]
    exact Option.some_ne_none _
  exact sound.setPipe started (Pipe.grown_close _)

theorem Sound.fork (sound : world.Sound settings)
    (taken : world.step settings .fork = some next) : next.Sound settings := by
  refine sound.onProcess ?_ ?_ taken
  · intro group group' changed returncode left
    split at changed
    next =>
      cases changed
      exact left
    next => cases changed
  · rintro group group' changed ⟨none, dead⟩
    split at changed
    next runs =>
      -- A group that KILL has met does not fork.
      simp only [Group.runs, Bool.or_eq_true, decide_eq_true_eq] at runs
      rcases runs with alive | more
      · exact absurd alive dead
      · omega
    next => cases changed

theorem Sound.dies (sound : world.Sound settings)
    (taken : world.step settings .dies = some next) : next.Sound settings := by
  refine sound.onProcess ?_ ?_ taken
  · intro group group' changed returncode left
    split at changed
    next =>
      cases changed
      exact left
    next => cases changed
  · rintro group group' changed ⟨none, dead⟩
    split at changed
    next more => omega
    next => cases changed

theorem Sound.exits (sound : world.Sound settings)
    (taken : world.step settings (.exits returncode) = some next) : next.Sound settings := by
  refine sound.onProcess ?_ ?_ taken
  · intro group group' changed code left
    rw [left] at changed
    cases changed
  · rintro group group' changed ⟨none, dead⟩
    split at changed
    next => cases changed
    next =>
      cases changed
      exact ⟨none, nofun⟩

theorem Sound.step {label : Label} (sound : world.Sound settings)
    (taken : world.step settings label = some next) : next.Sound settings := by
  cases label with
  | spawned => exact sound.spawned taken
  | spawnFails error => exact sound.spawnFails taken
  | read source chunk => exact sound.read taken
  | readFails source => exact sound.readFails taken
  | stopped source => exact sound.stopped taken
  | gathered => exact sound.gathered taken
  | waited => exact sound.waited taken
  | cancel => exact sound.cancel taken
  | deadline => exact sound.deadline taken
  | deliver => exact sound.deliver taken
  | settled => exact sound.settled taken
  | begins => exact sound.begins taken
  | exited => exact sound.exited taken
  | graceEnds => exact sound.graceEnds taken
  | discard source chunk => exact sound.discard taken
  | discardFails source => exact sound.discardFails taken
  | discardStopped source => exact sound.discardStopped taken
  | drained => exact sound.drained taken
  | fork => exact sound.fork taken
  | dies => exact sound.dies taken
  | exits returncode => exact sound.exits taken
  | write source bytes => exact sound.write taken
  | close source => exact sound.close taken

theorem sound_initial : initial.Sound settings where
  tasks _ := trivial
  stops _ member := nomatch member
  phase := ⟨rfl, ⟨fun _ => rfl, rfl⟩, rfl, fun _ => rfl, fun _ => rfl⟩

theorem sound_reachable (reached : (machine settings).Reachable world) : world.Sound settings := by
  apply reached.invariant
  · intro world begins
    rw [show world = initial from begins]
    exact sound_initial
  · intro world next label _ sound _ taken
    exact sound.step taken

/-- At most one task waits on a stream. -/
theorem Sound.exclusive (sound : world.Sound settings) (source : Source) :
    (world.reader source).reads = false ∨ (world.drain source).reads = false := by
  cases reads : (world.drain source).reads with
  | false => exact .inr rfl
  | true =>
    obtain ⟨exc, stage, at_phase, _⟩ := sound.cleaning_of_reads reads
    have inPhase := sound.phase
    rw [at_phase] at inPhase
    obtain ⟨_, _, readers, _⟩ := inPhase
    exact .inl (Task.reads_of_over (readers source))

end

end World

/-- The steps that wait neither for the subprocess nor for the caller. -/
def Label.own : Label → Bool
  | .stopped _ | .settled | .begins | .graceEnds | .discardStopped _ | .drained => true
  | _ => false

/-- The call can end by an exception within a number of steps of its own. -/
def Finishes (settings : Settings) (world : World) (count : Nat) : Prop :=
  ∃ labels last exc, labels.length ≤ count ∧ (∀ label ∈ labels, label.own = true) ∧
    (machine settings).exec world labels = some last ∧ last.phase = .raised exc

/-- The handler is at work. -/
def Handling (world : World) : Prop :=
  ∃ exc, world.phase = .settling exc ∨ ∃ stage, world.phase = .cleaning exc stage

section

variable {settings : Settings} {world next : World} {exc : Failure} {count : Nat} {label : Label}

theorem Finishes.step (own : label.own = true)
    (taken : (machine settings).step world label = some next)
    (finishes : Finishes settings next count) : Finishes settings world (count + 1) := by
  obtain ⟨labels, last, exc, within, all, run, ended⟩ := finishes
  refine ⟨label :: labels, last, exc, Nat.succ_le_succ within, ?_, ?_, ended⟩
  · intro other member
    rcases List.mem_cons.mp member with rfl | member
    · exact own
    · exact all other member
  · exact Machine.exec_cons_some.mpr ⟨next, taken, run⟩

theorem Finishes.weaken {more : Nat} (finishes : Finishes settings world count)
    (within : count ≤ more) : Finishes settings world more := by
  obtain ⟨labels, last, exc, short, rest⟩ := finishes
  exact ⟨labels, last, exc, le_trans short within, rest⟩

theorem Finishes.ended (ended : world.phase = .raised exc) : Finishes settings world 0 :=
  ⟨[], world, exc, Nat.le_refl 0, (fun _ member => nomatch member), rfl, ended⟩

theorem finishes_drained (at_phase : world.phase = .cleaning exc .finishing)
    (isOver : ∀ source, (world.drain source).isOver = true) : Finishes settings world 1 := by
  have taken : (machine settings).step world .drained =
      some { world with phase := .raised exc.propagated } := by
    show World.step settings world .drained = _
    unfold World.step
    simp only [at_phase, isOver, Bool.and_self, if_true]
  exact Finishes.step rfl taken (Finishes.ended rfl)

/-- A drain that is still being cancelled comes to its end first. -/
theorem Finishes.discardStopped (source : Source)
    (unfinished : world.drain source = .cancelling ∨ (world.drain source).isOver = true)
    (finishes : ∀ drain, (drain source).isOver = true → (∀ other, other ≠ source →
      drain other = world.drain other) → Finishes settings { world with drain } count) :
    Finishes settings world (count + 1) := by
  rcases unfinished with is | isOver
  · have taken : (machine settings).step world (.discardStopped source) =
        some { world with drain := Function.update world.drain source .cancelled } := by
      show World.step settings world (.discardStopped source) = _
      unfold World.step
      dsimp only
      rw [is]
      rfl
    refine Finishes.step rfl taken (finishes _ ?_ ?_)
    · rw [Function.update_self]
      rfl
    · intro other differ
      exact Function.update_of_ne differ _ _
  · exact (finishes world.drain isOver fun _ _ => rfl).weaken (Nat.le_succ count)

theorem Finishes.stopped (source : Source)
    (unfinished : world.reader source = .cancelling ∨ (world.reader source).isOver = true)
    (finishes : ∀ reader, (reader source).isOver = true → (∀ other, other ≠ source →
      reader other = world.reader other) → Finishes settings { world with reader } count) :
    Finishes settings world (count + 1) := by
  rcases unfinished with is | isOver
  · have taken : (machine settings).step world (.stopped source) =
        some { world with reader := Function.update world.reader source .cancelled } := by
      show World.step settings world (.stopped source) = _
      unfold World.step
      dsimp only
      rw [is]
      rfl
    refine Finishes.step rfl taken (finishes _ ?_ ?_)
    · rw [Function.update_self]
      rfl
    · intro other differ
      exact Function.update_of_ne differ _ _
  · exact (finishes world.reader isOver fun _ _ => rfl).weaken (Nat.le_succ count)

theorem finishes_finishing (at_phase : world.phase = .cleaning exc .finishing)
    (drains : ∀ source, world.drain source = .cancelling ∨ (world.drain source).isOver = true) :
    Finishes settings world 3 := by
  refine Finishes.discardStopped .stdout (drains .stdout) ?_
  intro first stdout others
  refine Finishes.discardStopped .stderr ?_ ?_
  · show first .stderr = _ ∨ (first .stderr).isOver = true
    rw [others .stderr nofun]
    exact drains .stderr
  · intro second stderr others
    refine finishes_drained at_phase ?_
    intro source
    cases source with
    | stdout =>
      show (second .stdout).isOver = true
      rw [others .stdout nofun]
      exact stdout
    | stderr => exact stderr

theorem finishes_killing (at_phase : world.phase = .cleaning exc .killing)
    (begun : ∀ source, world.drain source ≠ .idle) : Finishes settings world 4 := by
  have taken : (machine settings).step world .graceEnds = some (world.finish exc) := by
    show World.step settings world .graceEnds = _
    unfold World.step
    dsimp only
    rw [at_phase]
  refine Finishes.step rfl taken (finishes_finishing rfl ?_)
  intro source
  exact Task.cancel_or_over (begun source)

theorem finishes_terminating (at_phase : world.phase = .cleaning exc .terminating)
    (begun : ∀ source, world.drain source ≠ .idle) : Finishes settings world 5 := by
  have taken : (machine settings).step world .graceEnds =
      some { world.kill with phase := .cleaning exc .killing } := by
    show World.step settings world .graceEnds = _
    unfold World.step
    dsimp only
    rw [at_phase]
  exact Finishes.step rfl taken (finishes_killing rfl begun)

theorem finishes_starting (at_phase : world.phase = .cleaning exc .starting) :
    Finishes settings world 6 := by
  have taken : (machine settings).step world .begins = some
      { world with
        drain := fun _ => .running (), signals := world.signals ++ [.term],
        phase := .cleaning exc .terminating } := by
    show World.step settings world .begins = _
    unfold World.step
    dsimp only
    rw [at_phase]
  exact Finishes.step rfl taken (finishes_terminating rfl fun source => nofun)

theorem finishes_settled (at_phase : world.phase = .settling exc)
    (isOver : ∀ source, (world.reader source).isOver = true) : Finishes settings world 7 := by
  cases pending : world.stopping with
  | some stop =>
    have taken : (machine settings).step world .settled =
        some { world with phase := .raised stop, stopping := none } := by
      show World.step settings world .settled = _
      unfold World.step
      simp only [at_phase, isOver, Bool.and_self, if_true, pending]
    exact (Finishes.step rfl taken (Finishes.ended rfl)).weaken (by omega)
  | none =>
    have taken : (machine settings).step world .settled =
        some { world with phase := .cleaning exc .starting } := by
      show World.step settings world .settled = _
      unfold World.step
      simp only [at_phase, isOver, Bool.and_self, if_true, pending]
    exact Finishes.step rfl taken (finishes_starting rfl)

theorem finishes_settling (at_phase : world.phase = .settling exc)
    (readers : ∀ source, world.reader source = .cancelling ∨ (world.reader source).isOver = true) :
    Finishes settings world 9 := by
  refine Finishes.stopped .stdout (readers .stdout) ?_
  intro first stdout others
  refine Finishes.stopped .stderr ?_ ?_
  · show first .stderr = _ ∨ (first .stderr).isOver = true
    rw [others .stderr nofun]
    exact readers .stderr
  · intro second stderr others
    refine finishes_settled at_phase ?_
    intro source
    cases source with
    | stdout =>
      show (second .stdout).isOver = true
      rw [others .stdout nofun]
      exact stdout
    | stderr => exact stderr

theorem finishes_handling (sound : world.Sound settings) (handling : Handling world) :
    Finishes settings world 9 := by
  have inPhase := sound.phase
  obtain ⟨exc, at_phase | ⟨stage, at_phase⟩⟩ := handling
  · rw [at_phase] at inPhase
    obtain ⟨_, _, _, readers, _⟩ := inPhase
    exact finishes_settling at_phase readers
  · rw [at_phase] at inPhase
    obtain ⟨_, _, _, _, inStage⟩ := inPhase
    cases stage with
    | starting => exact (finishes_starting at_phase).weaken (by omega)
    | terminating => exact (finishes_terminating at_phase inStage.2).weaken (by omega)
    | killing => exact (finishes_killing at_phase inStage.2.2).weaken (by omega)
    | finishing => exact (finishes_finishing at_phase inStage.2.2).weaken (by omega)

/-- An exception leaves nothing of the subprocess behind, unless a second cancellation met the
handler while it waited for its readers: then no signal was ever sent. -/
theorem leaves_nothing (reached : (machine settings).Reachable world) :
    (∀ exc, world.phase = .raised exc → world.Explains settings exc ∧ exc ≠ .timeoutError ∧
      (world.process ≠ none → world.Ended exc)) ∧
    (∀ result, world.phase = .returned result → world.Delivered settings result ∧
      world.signals = []) ∧
    (∀ source, (world.reader source).reads = false ∨ (world.drain source).reads = false) ∧
    (Handling world → Finishes settings world 9) := by
  have sound := World.sound_reachable reached
  have inPhase := sound.phase
  refine ⟨?_, ?_, sound.exclusive, finishes_handling sound⟩
  · intro exc at_phase
    rw [at_phase] at inPhase
    obtain ⟨explains, isFinal, ended⟩ := inPhase
    exact ⟨explains, isFinal, fun started => ended.resolve_left fun absent => started absent.1⟩
  · intro result at_phase
    rw [at_phase] at inPhase
    obtain ⟨_, untouched, _, delivered⟩ := inPhase
    exact ⟨delivered, untouched.signals⟩

end

/-- A caller gives up on a subprocess that ignores TERM. -/
theorem leaves_nothing_stubborn : ∃ world : World,
    world.phase = .raised .cancelledError ∧ world.process ≠ none ∧
      world.interrupted = false ∧ world.CleanedUp := by
  have run : ((machine ⟨3, true, fun _ => ""⟩).exec .initial
      [.spawned, .write .stdout [1, 2], .read .stdout [1, 2], .fork, .cancel, .stopped .stdout,
        .deliver, .stopped .stderr, .settled, .begins, .graceEnds, .cancel, .graceEnds,
        .discardStopped .stdout, .discardStopped .stderr, .drained]).map
      (fun world => (world.phase, world.process.isSome, world.interrupted)) =
      some (.raised .cancelledError, true, false) := rfl
  obtain ⟨world, run, facts⟩ := Option.map_eq_some_iff.mp run
  obtain ⟨at_phase, started, calm⟩ : world.phase = .raised .cancelledError ∧
      world.process.isSome = true ∧ world.interrupted = false := by
    simpa only [Prod.mk.injEq] using facts
  have ended := ((leaves_nothing (.exec (.start rfl) run)).1 _ at_phase).2.2
    (Option.ne_none_iff_isSome.mpr started)
  rcases ended with ⟨_, cleaned⟩ | ⟨interrupted, _⟩
  · exact ⟨world, at_phase, Option.ne_none_iff_isSome.mpr started, calm, cleaned⟩
  · rw [calm] at interrupted
    cases interrupted

end Nmap.Run
