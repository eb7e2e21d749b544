import Mathlib.Data.List.Basic
import Mathlib.Data.String.Basic
import Mathlib.Logic.Function.Basic

set_option autoImplicit false

namespace Events

/-- The position of an entry in its stream. -/
abbrev MessageId := Nat
abbrev ConsumerName := Nat

/-- The fields of an event as Redis stores them. -/
abbrev Payload := List (String × String)

/-- The counter hash of one message and whether it carries an expiry. -/
structure Retry where
  count : Nat
  expiring : Bool

/-- A stream with its one consumer group, the retry counters and the dead-letter stream.
Entries below `delivered` have been read by the group. A dead letter is kept with the
message it records. -/
structure Broker where
  stream : List Payload
  group : Bool
  delivered : Nat
  pending : MessageId → Option ConsumerName
  retries : MessageId → Option Retry
  deadLetters : List (MessageId × Payload)

namespace Broker

def empty : Broker := ⟨[], false, 0, fun _ => none, fun _ => none, []⟩

def xadd (payload : Payload) (broker : Broker) : Broker :=
  { broker with stream := broker.stream ++ [payload] }

/-- `XGROUP CREATE … 0 MKSTREAM`. The BUSYGROUP error of an existing group counts as success. -/
def xgroupCreate (broker : Broker) : Broker := { broker with group := true }

/-- `XPENDING … 0 + count`, over all consumers. -/
def xpendingRange (count : Nat) (broker : Broker) : List MessageId :=
  ((List.range broker.delivered).filter fun id => (broker.pending id).isSome).take count

/-- `XCLAIM` with no minimal idle time takes over what is still pending. -/
def xclaim (consumer : ConsumerName) (ids : List MessageId) (broker : Broker) : Broker :=
  { broker with pending := fun id =>
      if id ∈ ids then (broker.pending id).map fun _ => consumer else broker.pending id }

def claimed (ids : List MessageId) (broker : Broker) : List MessageId :=
  ids.filter fun id => (broker.pending id).isSome

/-- The entries `XREADGROUP … >` reads. -/
def unread (count : Nat) (broker : Broker) : List MessageId :=
  List.range' broker.delivered (min count (broker.stream.length - broker.delivered))

def xreadgroup (consumer : ConsumerName) (count : Nat) (broker : Broker) : Broker :=
  { broker with
    delivered := broker.delivered + min count (broker.stream.length - broker.delivered)
    pending := fun id =>
      if id ∈ broker.unread count then some consumer else broker.pending id }

def xack (id : MessageId) (broker : Broker) : Broker :=
  { broker with pending := Function.update broker.pending id none }

def hget (id : MessageId) (broker : Broker) : Option Nat := (broker.retries id).map (·.count)

def hincrby (id : MessageId) (broker : Broker) : Broker :=
  let counted := match broker.retries id with
    | some retry => { retry with count := retry.count + 1 }
    | none => ⟨1, false⟩
  { broker with retries := Function.update broker.retries id (some counted) }

def expire (id : MessageId) (broker : Broker) : Broker :=
  let refreshed := (broker.retries id).map fun retry => { retry with expiring := true }
  { broker with retries := Function.update broker.retries id refreshed }

def delete (id : MessageId) (broker : Broker) : Broker :=
  { broker with retries := Function.update broker.retries id none }

/-- `XADD` on the dead-letter stream. -/
def deadLetter (id : MessageId) (record : Payload) (broker : Broker) : Broker :=
  { broker with deadLetters := broker.deadLetters ++ [(id, record)] }

theorem mem_unread {broker : Broker} {count : Nat} {id : MessageId} :
    id ∈ broker.unread count ↔ broker.delivered ≤ id ∧
      id < broker.delivered + min count (broker.stream.length - broker.delivered) := by
  simp [unread, List.mem_range'_1]

end Broker

end Events
