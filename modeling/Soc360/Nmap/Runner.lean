import Soc360.Store.Chunks

set_option autoImplicit false

namespace Nmap

open Chunks (Loop Phase)

abbrev Bytes := List UInt8

/-- `NmapRunError`. -/
structure NmapRunError where
  reason : String
  detail : Option String
  deriving DecidableEq, Repr

structure NmapRunResult where
  stdout : Bytes
  stderrTail : String
  returncode : Int

/-- The size of a read. -/
def readSize : Nat := 65536

def tailSize : Nat := 4096

def outputTooLarge : NmapRunError := ⟨"output_too_large", none⟩

/-- `chunk[-count:]`. -/
def lastBytes (count : Nat) (bytes : Bytes) : Bytes := bytes.drop (bytes.length - count)

/-- The loop of `_stdout`; its state is `output`. -/
def stdoutLoop (cap : Nat) : Loop UInt8 Bytes NmapRunError where
  request output := min readSize (cap - output.length + 1)
  handle output chunk :=
    if cap < output.length + chunk.length then .error outputTooLarge else .ok (output ++ chunk)

/-- The loop of `_stderr`; its state is `tail`. -/
def stderrLoop : Loop UInt8 Bytes NmapRunError where
  request _ := readSize
  handle tail chunk := .ok (lastBytes tailSize (tail ++ chunk))

/-- The runs of `_stdout` on a stream. -/
def stdout (cap : Nat) (stream : Bytes) := (stdoutLoop cap).machine [] stream

/-- The runs of `_stderr` on a stream, up to the decoding of the tail. -/
def stderr (stream : Bytes) := stderrLoop.machine [] stream

/-- The bytes of the stream that a phase holds: those that are kept and the chunk at hand. -/
def held : Phase UInt8 Bytes NmapRunError → Bytes
  | .awaiting kept _ => kept
  | .received kept chunk _ => kept ++ chunk
  | .returned kept => kept
  | .raised _ => []

/-- The size that a phase asks for. -/
def requested (loop : Loop UInt8 Bytes NmapRunError) :
    Phase UInt8 Bytes NmapRunError → Option Nat
  | .awaiting kept _ => some (loop.request kept)
  | _ => none

/-- `_SUPERVISOR_EXITS`. -/
def supervisorExits (returncode : Int) : Option String :=
  if returncode = 126 then some "nmap_not_permitted"
  else if returncode = 124 then some "timeout" else none

/-- What `run_nmap` makes of what its readers give and of the exit code. -/
def finish (decode : Bytes → String) (supervised : Bool) (returncode : Int)
    (stdout : Except NmapRunError Bytes) (tail : Bytes) : Except NmapRunError NmapRunResult := do
  let output ← stdout
  match (supervisorExits returncode).filter fun _ => supervised with
  | some reason => .error ⟨reason, some (decode tail)⟩
  | none =>
      if returncode ≠ 0 then .error ⟨"nonzero_exit", some (decode tail)⟩
      else .ok ⟨output, decode tail, returncode⟩

section

variable {cap : Nat} {stream : Bytes} {phase : Phase UInt8 Bytes NmapRunError}

theorem length_lastBytes (count : Nat) (bytes : Bytes) :
    (lastBytes count bytes).length = min count bytes.length := by
  rw [lastBytes, List.length_drop]
  omega

theorem lastBytes_append (count : Nat) (front bytes : Bytes) :
    lastBytes count (lastBytes count front ++ bytes) = lastBytes count (front ++ bytes) := by
  have length := length_lastBytes count front
  unfold lastBytes at length ⊢
  rw [List.length_append, List.length_append, length, List.drop_append, List.drop_append, length,
    List.drop_drop]
  congr 2
  · omega
  · omega

/-- What `_stdout` keeps is what it has taken. -/
theorem stdout_invariant (cap : Nat) : (stdoutLoop cap).Invariant []
    fun taken output => output = taken ∧ taken.length ≤ cap where
  start := ⟨rfl, Nat.zero_le _⟩
  handle := by
    rintro taken chunk state next ⟨rfl, _⟩ _ _ handled
    change (if cap < _ then _ else _) = _ at handled
    split at handled
    next => cases handled
    next within =>
      cases handled
      rw [List.length_append]
      exact ⟨rfl, Nat.not_lt.mp within⟩

theorem stderr_invariant : stderrLoop.Invariant []
    fun taken tail => tail = lastBytes tailSize taken where
  start := rfl
  handle := by
    intro taken chunk tail next kept _ _ handled
    have grown : lastBytes tailSize (tail ++ chunk) = next := Except.ok.inj handled
    rw [← grown, kept, lastBytes_append]

theorem readSize_pos : 0 < readSize := by
  unfold readSize
  omega

theorem stdout_requests (output : Bytes) : 0 < (stdoutLoop cap).request output := by
  change 0 < min readSize _
  rw [Nat.lt_min]
  exact ⟨readSize_pos, Nat.succ_pos _⟩

theorem stdout_held (reached : (stdout cap stream).Reachable phase) :
    (held phase).length ≤ cap + 1 := by
  have follows := (stdout_invariant cap).reachable reached
  cases phase with
  | awaiting output rest =>
    obtain ⟨taken, _, rfl, within⟩ := follows
    exact Nat.le_succ_of_le within
  | received output chunk rest =>
    obtain ⟨taken, _, ⟨rfl, within⟩, _, asked⟩ := follows
    have allowance : chunk.length ≤ cap - output.length + 1 := le_trans asked (Nat.min_le_right _ _)
    rw [held, List.length_append]
    omega
  | returned output =>
    obtain ⟨taken, rest, _, ⟨rfl, within⟩, _⟩ := follows
    exact Nat.le_succ_of_le within
  | raised error => exact Nat.zero_le _

theorem stdout_outcome (reached : (stdout cap stream).Reachable phase) :
    ∀ outcome ∈ phase.outcome,
      outcome = if stream.length ≤ cap then .ok stream else .error outputTooLarge := by
  have follows := (stdout_invariant cap).reachable reached
  intro outcome ended
  cases phase with
  | awaiting output rest => cases ended
  | received output chunk rest => cases ended
  | returned output =>
    cases ended
    obtain ⟨taken, rest, shape, ⟨rfl, within⟩, stopped⟩ := follows
    have nothing : rest = [] := stopped.resolve_right (Nat.ne_of_gt (stdout_requests output))
    rw [nothing, List.append_nil] at shape
    rw [shape, if_pos within]
  | raised error =>
    cases ended
    obtain ⟨taken, chunk, rest, output, shape, ⟨rfl, _⟩, handled⟩ := follows
    change (if cap < _ then _ else _) = _ at handled
    split at handled
    next larger =>
      cases handled
      have longer : ¬stream.length ≤ cap := by
        rw [shape, List.length_append, List.length_append]
        omega
      rw [if_neg longer]
    next => cases handled

theorem stderr_outcome (reached : (stderr stream).Reachable phase) :
    ∀ outcome ∈ phase.outcome, outcome = .ok (lastBytes tailSize stream) := by
  have follows := stderr_invariant.reachable reached
  intro outcome ended
  cases phase with
  | awaiting output rest => cases ended
  | received output chunk rest => cases ended
  | returned tail =>
    cases ended
    obtain ⟨taken, rest, shape, kept, stopped⟩ := follows
    have nothing : rest = [] := stopped.resolve_right (Nat.ne_of_gt readSize_pos)
    rw [nothing, List.append_nil] at shape
    rw [kept, shape]
  | raised error =>
    obtain ⟨taken, chunk, rest, tail, _, _, handled⟩ := follows
    cases handled

/-- Whatever the chunks, `_stdout` returns the stream or refuses it by its length, and `_stderr`
returns its end. -/
theorem bounded_capture (cap : Nat) (stream : Bytes) (decode : Bytes → String) :
    ((stdoutLoop cap).Ends [] stream ∧ ∀ phase, (stdout cap stream).Reachable phase →
      (held phase).length ≤ cap + 1 ∧
        (∀ size ∈ requested (stdoutLoop cap) phase, 0 < size) ∧
        ∀ outcome ∈ phase.outcome,
          outcome = if stream.length ≤ cap then .ok stream else .error outputTooLarge) ∧
    (stderrLoop.Ends [] stream ∧ ∀ phase, (stderr stream).Reachable phase →
      ∀ outcome ∈ phase.outcome, ∃ front tail, stream = front ++ tail ∧
        tail.length = min 4096 stream.length ∧ outcome.map decode = .ok (decode tail)) := by
  refine ⟨⟨Loop.ends, ?_⟩, Loop.ends, ?_⟩
  · intro phase reached
    refine ⟨stdout_held reached, ?_, stdout_outcome reached⟩
    intro size asked
    cases phase with
    | awaiting output rest =>
      cases asked
      exact stdout_requests output
    | received output chunk rest => cases asked
    | returned output => cases asked
    | raised error => cases asked
  · intro phase reached outcome ended
    refine ⟨stream.take (stream.length - 4096), lastBytes tailSize stream,
      (List.take_append_drop _ _).symm, length_lastBytes _ _, ?_⟩
    rw [stderr_outcome reached outcome ended]
    rfl

/-- A run that succeeds gives back the whole of the output, and what it says of its end. -/
theorem finish_ok {decode : Bytes → String} {supervised : Bool} {returncode : Int}
    {output : Except NmapRunError Bytes} {tail : Bytes} {result : NmapRunResult}
    (reached : (stdout cap stream).Reachable phase) (ended : phase.outcome = some output)
    (finished : finish decode supervised returncode output tail = .ok result) :
    stream.length ≤ cap ∧ result = ⟨stream, decode tail, 0⟩ := by
  have captured := stdout_outcome reached output ended
  split at captured
  next within =>
    refine ⟨within, ?_⟩
    rw [captured, finish] at finished
    change (match (supervisorExits returncode).filter fun _ => supervised with
      | some reason => _
      | none => _) = _ at finished
    split at finished
    next => cases finished
    next =>
      split at finished
      next => cases finished
      next zero =>
        rw [Decidable.not_not.mp zero] at finished
        exact (Except.ok.inj finished).symm
  next =>
    rw [captured] at finished
    cases finished

end

end Nmap
