import Soc360.Store.Machine
import Mathlib.Data.List.Infix
import Mathlib.Tactic.Common

set_option autoImplicit false

/-! A stream that a loop reads until a read gives nothing. Each read gives what there is by then,
up to the size that is asked for. -/

namespace Chunks

variable {Byte State Error : Type}

/-- What a read of a size may give of the rest of a stream: no bytes at its end only, and where
none are asked for. -/
def Answers (size : Nat) (rest chunk : List Byte) : Prop :=
  chunk <+: rest ∧ chunk.length ≤ size ∧ (chunk = [] → rest = [] ∨ size = 0)

instance [DecidableEq Byte] (size : Nat) (rest chunk : List Byte) :
    Decidable (Answers size rest chunk) :=
  inferInstanceAs (Decidable (_ ∧ _ ∧ _))

/-- The loop: the size that it asks for, and what it makes of a chunk. -/
structure Loop (Byte State Error : Type) where
  request : State → Nat
  handle : State → List Byte → Except Error State

/-- Where the loop is, with the rest of the stream. -/
inductive Phase (Byte State Error : Type) where
  | awaiting (state : State) (rest : List Byte)
  | received (state : State) (chunk rest : List Byte)
  | returned (state : State)
  | raised (error : Error)

inductive Label (Byte : Type) where
  | read (chunk : List Byte)
  | handle

/-- What came of the loop, once it has ended. -/
def Phase.outcome : Phase Byte State Error → Option (Except Error State)
  | awaiting _ _ => none
  | received _ _ _ => none
  | returned state => some (.ok state)
  | raised error => some (.error error)

/-- No run is longer than that from here. -/
def Phase.left : Phase Byte State Error → Nat
  | awaiting _ rest => 2 * rest.length + 1
  | received _ _ rest => 2 * rest.length + 2
  | returned _ => 0
  | raised _ => 0

namespace Loop

variable [DecidableEq Byte] (loop : Loop Byte State Error) (begin : State) (stream : List Byte)

def step : Phase Byte State Error → Label Byte → Option (Phase Byte State Error)
  | .awaiting state rest, .read chunk =>
      if Answers (loop.request state) rest chunk then
        if chunk = [] then some (.returned state)
        else some (.received state chunk (rest.drop chunk.length))
      else none
  | .received state chunk rest, .handle =>
      match loop.handle state chunk with
      | .ok state => some (.awaiting state rest)
      | .error error => some (.raised error)
  | _, _ => none

def machine : Machine (Phase Byte State Error) (Label Byte) where
  start phase := phase = .awaiting begin stream
  step := loop.step

/-- A loop that has not ended goes on, and every run comes to an end. -/
structure Ends : Prop where
  goes_on : ∀ {phase}, (loop.machine begin stream).Reachable phase → phase.outcome = none →
    ∃ label next, (loop.machine begin stream).step phase label = some next
  bounded : ∀ {labels last}, (loop.machine begin stream).exec (.awaiting begin stream) labels =
    some last → labels.length ≤ 2 * stream.length + 1

/-- What holds of the bytes taken so far and of the state, while chunks are handled. -/
structure Invariant (holds : List Byte → State → Prop) : Prop where
  start : holds [] begin
  handle : ∀ {taken chunk : List Byte} {state next : State}, holds taken state → chunk ≠ [] →
    chunk.length ≤ loop.request state → loop.handle state chunk = .ok next →
    holds (taken ++ chunk) next

/-- What is known of a phase: the bytes that were taken, the chunk at hand and the rest are the
stream. -/
def Follows (holds : List Byte → State → Prop) : Phase Byte State Error → Prop
  | .awaiting state rest => ∃ taken, stream = taken ++ rest ∧ holds taken state
  | .received state chunk rest => ∃ taken, stream = taken ++ chunk ++ rest ∧ holds taken state ∧
      chunk ≠ [] ∧ chunk.length ≤ loop.request state
  | .returned state => ∃ taken rest, stream = taken ++ rest ∧ holds taken state ∧
      (rest = [] ∨ loop.request state = 0)
  | .raised error => ∃ taken chunk rest state, stream = taken ++ chunk ++ rest ∧
      holds taken state ∧ loop.handle state chunk = .error error

variable {loop begin stream} {holds : List Byte → State → Prop} {phase next : Phase Byte State Error}
  {label : Label Byte}

theorem Invariant.step (invariant : loop.Invariant begin holds)
    (follows : loop.Follows stream holds phase) (taken : loop.step phase label = some next) :
    loop.Follows stream holds next := by
  cases phase with
  | awaiting state rest =>
    cases label with
    | handle => cases taken
    | read chunk =>
      obtain ⟨before, shape, held⟩ := follows
      rw [Loop.step] at taken
      split at taken
      next answers =>
        obtain ⟨⟨after, rfl⟩, within, ended⟩ := answers
        split at taken
        next empty =>
          cases taken
          exact ⟨before, chunk ++ after, shape, held, ended empty⟩
        next nonempty =>
          cases taken
          refine ⟨before, ?_, held, nonempty, within⟩
          rw [List.drop_left, List.append_assoc]
          exact shape
      next => cases taken
  | received state chunk rest =>
    cases label with
    | read other => cases taken
    | handle =>
      obtain ⟨before, shape, held, nonempty, within⟩ := follows
      rw [Loop.step] at taken
      cases handled : loop.handle state chunk with
      | ok state' =>
        rw [handled] at taken
        cases taken
        exact ⟨before ++ chunk, shape, invariant.handle held nonempty within handled⟩
      | error error =>
        rw [handled] at taken
        cases taken
        exact ⟨before, chunk, rest, state, shape, held, handled⟩
  | returned state => cases taken
  | raised error => cases taken

theorem Invariant.reachable (invariant : loop.Invariant begin holds)
    (reached : (loop.machine begin stream).Reachable phase) : loop.Follows stream holds phase := by
  apply reached.invariant
  · intro state begins
    cases begins
    exact ⟨[], rfl, invariant.start⟩
  · intro state next label _ follows _ taken
    exact invariant.step follows taken

/-- A loop that has not ended goes on, whatever the reader gives. -/
theorem exists_step (running : phase.outcome = none) :
    ∃ label next, loop.step phase label = some next := by
  cases phase with
  | awaiting state rest =>
    have answers : Answers (loop.request state) rest (rest.take (loop.request state)) := by
      refine ⟨List.take_prefix _ _, List.length_take_le _ _, ?_⟩
      intro empty
      exact (List.take_eq_nil_iff.mp empty).symm
    refine ⟨.read (rest.take (loop.request state)), ?_⟩
    rw [Loop.step, if_pos answers]
    split
    next => exact ⟨_, rfl⟩
    next => exact ⟨_, rfl⟩
  | received state chunk rest =>
    refine ⟨.handle, ?_⟩
    rw [Loop.step]
    split
    next => exact ⟨_, rfl⟩
    next => exact ⟨_, rfl⟩
  | returned state => cases running
  | raised error => cases running

theorem left_step (taken : loop.step phase label = some next) : next.left < phase.left := by
  cases phase with
  | awaiting state rest =>
    cases label with
    | handle => cases taken
    | read chunk =>
      rw [Loop.step] at taken
      split at taken
      next answers =>
        split at taken
        next empty =>
          cases taken
          exact Nat.succ_pos _
        next nonempty =>
          cases taken
          have positive := List.length_pos_iff.mpr nonempty
          have within := answers.1.length_le
          rw [Phase.left, Phase.left, List.length_drop]
          omega
      next => cases taken
  | received state chunk rest =>
    cases label with
    | read other => cases taken
    | handle =>
      rw [Loop.step] at taken
      split at taken
      next =>
        cases taken
        exact Nat.lt_succ_self _
      next =>
        cases taken
        exact Nat.succ_pos _
  | returned state => cases taken
  | raised error => cases taken

/-- Every run ends. -/
theorem exec_bounded {last : Phase Byte State Error} {labels : List (Label Byte)}
    (run : (loop.machine begin stream).exec phase labels = some last) :
    labels.length + last.left ≤ phase.left := by
  induction labels generalizing phase with
  | nil =>
    cases run
    exact Nat.le_of_eq (Nat.zero_add _)
  | cons label labels ih =>
    obtain ⟨next, taken, run⟩ := Machine.exec_cons_some.mp run
    have shorter := left_step taken
    have within := ih run
    rw [List.length_cons]
    omega

theorem ends : loop.Ends begin stream where
  goes_on _ running := exists_step running
  bounded run := le_trans (Nat.le_add_right _ _) (exec_bounded run)

end Loop

end Chunks
