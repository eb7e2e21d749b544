import Soc360.Store.Chunks

set_option autoImplicit false

/-! Tasks that read a pipe while it is still written, and that may be cancelled. -/

namespace Pipes

open Chunks (Loop)

variable {Byte State Error : Type}

/-- A pipe, with all that was ever written to it. Closed, nobody holds its other end. -/
structure Pipe (Byte : Type) where
  written : List Byte
  unread : List Byte
  closed : Bool
  deriving DecidableEq

/-- A task that runs a loop over a pipe. A task that is being cancelled takes nothing more, and one
whose pipe fails under it is broken. -/
inductive Task (State Error : Type) where
  | idle
  | running (state : State)
  | cancelling
  | returned (state : State)
  | raised (error : Error)
  | cancelled
  | broken

namespace Pipe

def empty : Pipe Byte := ⟨[], [], false⟩

def write (pipe : Pipe Byte) (bytes : List Byte) : Option (Pipe Byte) :=
  if pipe.closed then none
  else some ⟨pipe.written ++ bytes, pipe.unread ++ bytes, false⟩

def close (pipe : Pipe Byte) : Pipe Byte := { pipe with closed := true }

/-- What a read of a size may give: nothing at the end of the file only, and some of what is
there otherwise. -/
def Gives (pipe : Pipe Byte) (size : Nat) (chunk : List Byte) : Prop :=
  chunk <+: pipe.unread ∧ chunk.length ≤ size ∧
    (chunk = [] → pipe.unread = [] ∧ pipe.closed = true)

instance [DecidableEq Byte] (pipe : Pipe Byte) (size : Nat) (chunk : List Byte) :
    Decidable (pipe.Gives size chunk) :=
  inferInstanceAs (Decidable (_ ∧ _ ∧ _))

def take (pipe : Pipe Byte) (chunk : List Byte) : Pipe Byte :=
  { pipe with unread := pipe.unread.drop chunk.length }

/-- One pipe is the other later on, with nothing taken from it. -/
structure Grown (pipe later : Pipe Byte) : Prop where
  more : ∃ bytes, later.written = pipe.written ++ bytes ∧ later.unread = pipe.unread ++ bytes ∧
    (pipe.closed = true → bytes = [])
  closed : pipe.closed = true → later.closed = true

end Pipe

namespace Task

/-- The task has come to an end. -/
def isOver : Task State Error → Bool
  | .returned _ => true
  | .raised _ => true
  | .cancelled => true
  | .broken => true
  | _ => false

/-- The task may still wait for its stream. -/
def reads : Task State Error → Bool
  | .running _ => true
  | .cancelling => true
  | _ => false

/-- `task.cancel()`. -/
def cancel : Task State Error → Task State Error
  | .running _ => .cancelling
  | task => task

/-- The cancellation gets to the task. -/
def stop : Task State Error → Option (Task State Error)
  | .cancelling => some .cancelled
  | _ => none

/-- A read fails. -/
def fail : Task State Error → Option (Task State Error)
  | .running _ => some .broken
  | _ => none

/-- One round of the loop: a read, and what is made of its chunk before the next. -/
def read [DecidableEq Byte] (loop : Loop Byte State Error) (pipe : Pipe Byte)
    (chunk : List Byte) : Task State Error → Option (Task State Error × Pipe Byte)
  | .running state =>
      if pipe.Gives (loop.request state) chunk then
        if chunk = [] then some (.returned state, pipe)
        else
          match loop.handle state chunk with
          | .ok next => some (.running next, pipe.take chunk)
          | .error error => some (.raised error, pipe.take chunk)
      else none
  | _ => none

/-- What the task knows of its pipe, where `holds` is kept by its loop. -/
def Follows (loop : Loop Byte State Error) (holds : List Byte → State → Prop)
    (pipe : Pipe Byte) : Task State Error → Prop
  | .running state => ∃ taken, pipe.written = taken ++ pipe.unread ∧ holds taken state
  | .returned state => pipe.unread = [] ∧ pipe.closed = true ∧ holds pipe.written state
  | .raised error => ∃ taken chunk rest state, pipe.written = taken ++ chunk ++ rest ∧
      holds taken state ∧ loop.handle state chunk = .error error
  | _ => True

end Task

section

variable {loop : Loop Byte State Error} {holds : List Byte → State → Prop} {begin : State}
  {pipe later : Pipe Byte} {task next : Task State Error} {chunk bytes : List Byte} {size : Nat}

namespace Pipe

theorem Grown.refl (pipe : Pipe Byte) : pipe.Grown pipe where
  more := ⟨[], (List.append_nil _).symm, (List.append_nil _).symm, fun _ => rfl⟩
  closed := id

theorem grown_write (wrote : pipe.write bytes = some later) : pipe.Grown later := by
  unfold write at wrote
  split at wrote
  next => cases wrote
  next isOpen =>
    cases wrote
    exact ⟨⟨bytes, rfl, rfl, fun closed => absurd closed isOpen⟩, fun closed => absurd closed isOpen⟩

theorem grown_close (pipe : Pipe Byte) : pipe.Grown pipe.close where
  more := (Grown.refl pipe).more
  closed _ := rfl

/-- A closed pipe stays as it is. -/
theorem Grown.eq (grown : pipe.Grown later) (closed : pipe.closed = true) : later = pipe := by
  obtain ⟨bytes, written, unread, nothing⟩ := grown.more
  rw [nothing closed, List.append_nil] at written unread
  have kept := grown.closed closed
  cases pipe
  cases later
  simp only at closed kept written unread
  rw [closed, kept, written, unread]

theorem take_nil (pipe : Pipe Byte) : pipe.take [] = pipe := rfl

theorem unread_take (gives : pipe.Gives size chunk) :
    pipe.unread = chunk ++ (pipe.take chunk).unread := by
  obtain ⟨rest, shape⟩ := gives.1
  show pipe.unread = chunk ++ pipe.unread.drop chunk.length
  rw [← shape, List.drop_left]

end Pipe

namespace Task

theorem cancel_idle : task.cancel = .idle ↔ task = .idle := by
  cases task with
  | running state => exact ⟨(fun idle => nomatch idle), (fun idle => nomatch idle)⟩
  | _ => exact Iff.rfl

theorem cancel_broken (broken : task = .broken) : task.cancel = .broken := by
  rw [broken]
  rfl

theorem cancel_or_over (begun : task ≠ .idle) : task.cancel = .cancelling ∨ task.cancel.isOver := by
  cases task with
  | idle => exact absurd rfl begun
  | running state => exact .inl rfl
  | cancelling => exact .inl rfl
  | _ => exact .inr rfl

theorem over_stop (stopped : task.stop = some next) :
    next.isOver = true ∧ task.isOver = false ∧ next = .cancelled := by
  cases task with
  | cancelling =>
    cases stopped
    exact ⟨rfl, rfl, rfl⟩
  | _ => cases stopped

theorem fail_some (failed : task.fail = some next) :
    ∃ state, task = .running state ∧ next = .broken := by
  cases task with
  | running state =>
    cases failed
    exact ⟨state, rfl, rfl⟩
  | _ => cases failed

theorem reads_of_over (isOver : task.isOver = true) : task.reads = false := by
  cases task with
  | running state => cases isOver
  | cancelling => cases isOver
  | _ => rfl

theorem follows_cancel (follows : task.Follows loop holds pipe) :
    task.cancel.Follows loop holds pipe := by
  cases task with
  | running state => trivial
  | _ => exact follows

/-- What a task knows stays true while the pipe is written and closed. -/
theorem follows_grown (grown : pipe.Grown later) (follows : task.Follows loop holds pipe) :
    task.Follows loop holds later := by
  cases task with
  | running state =>
    obtain ⟨taken, shape, held⟩ := follows
    obtain ⟨bytes, written, unread, _⟩ := grown.more
    refine ⟨taken, ?_, held⟩
    rw [written, unread, shape, List.append_assoc]
  | returned state =>
    rw [grown.eq follows.2.1]
    exact follows
  | raised error =>
    obtain ⟨taken, chunk, rest, state, shape, held, handled⟩ := follows
    obtain ⟨bytes, written, _⟩ := grown.more
    refine ⟨taken, chunk, rest ++ bytes, state, ?_, held, handled⟩
    rw [written, shape, List.append_assoc]
  | _ => trivial

/-- What a task that is over knows stays true while another one reads the pipe. -/
theorem follows_take (idle : task.reads = false) (gives : pipe.Gives size chunk)
    (follows : task.Follows loop holds pipe) : task.Follows loop holds (pipe.take chunk) := by
  cases task with
  | running state => cases idle
  | returned state =>
    have nothing : chunk = [] := List.prefix_nil.mp (follows.1 ▸ gives.1)
    rw [nothing, Pipe.take_nil]
    exact follows
  | raised error => exact follows
  | _ => trivial

theorem follows_start (invariant : loop.Invariant begin holds) :
    (Task.running begin).Follows loop holds (Pipe.empty : Pipe Byte) :=
  ⟨[], rfl, invariant.start⟩

variable [DecidableEq Byte]

theorem read_some (taken : task.read loop pipe chunk = some (next, later)) :
    ∃ state, task = .running state ∧ pipe.Gives (loop.request state) chunk ∧
      later = pipe.take chunk ∧
      (chunk = [] ∧ next = .returned state ∨
        chunk ≠ [] ∧ (∃ state', loop.handle state chunk = .ok state' ∧ next = .running state') ∨
        chunk ≠ [] ∧ ∃ error, loop.handle state chunk = .error error ∧ next = .raised error) := by
  cases task with
  | running state =>
    simp only [read] at taken
    split at taken
    next gives =>
      refine ⟨state, rfl, gives, ?_⟩
      split at taken
      next nothing =>
        cases taken
        rw [nothing]
        exact ⟨rfl, .inl ⟨rfl, rfl⟩⟩
      next something =>
        split at taken
        next state' handled =>
          cases taken
          exact ⟨rfl, .inr (.inl ⟨something, state', handled, rfl⟩)⟩
        next error handled =>
          cases taken
          exact ⟨rfl, .inr (.inr ⟨something, error, handled, rfl⟩)⟩
    next => cases taken
  | _ => cases taken

theorem read_begun (taken : task.read loop pipe chunk = some (next, later)) :
    next ≠ .idle ∧ next ≠ .cancelling ∧ next ≠ .cancelled := by
  obtain ⟨state, _, _, _, ⟨_, rfl⟩ | ⟨_, _, _, rfl⟩ | ⟨_, _, _, rfl⟩⟩ := read_some taken
  · exact ⟨nofun, nofun, nofun⟩
  · exact ⟨nofun, nofun, nofun⟩
  · exact ⟨nofun, nofun, nofun⟩

theorem follows_read (invariant : loop.Invariant begin holds)
    (follows : task.Follows loop holds pipe)
    (taken : task.read loop pipe chunk = some (next, later)) : next.Follows loop holds later := by
  obtain ⟨state, rfl, gives, rfl, outcome⟩ := read_some taken
  obtain ⟨before, shape, held⟩ := follows
  have split := Pipe.unread_take gives
  rcases outcome with ⟨nothing, rfl⟩ | ⟨something, state', handled, rfl⟩ | ⟨_, error, handled, rfl⟩
  · obtain ⟨empty, closed⟩ := gives.2.2 nothing
    rw [empty, List.append_nil] at shape
    rw [nothing, Pipe.take_nil]
    exact ⟨empty, closed, shape ▸ held⟩
  · refine ⟨before ++ chunk, ?_, invariant.handle held something gives.2.1 handled⟩
    show pipe.written = _
    rw [List.append_assoc, ← split, shape]
  · refine ⟨before, chunk, (pipe.take chunk).unread, state, ?_, held, handled⟩
    show pipe.written = _
    rw [List.append_assoc, ← split, shape]

end Task

end

end Pipes
