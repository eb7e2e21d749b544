import Soc360.Events.Consumer

set_option autoImplicit false

namespace Events

/-- The handler calls for a message. -/
def World.calls (world : World) (id : MessageId) : Nat :=
  world.handlerRuns.countP (·.1 == id)

/-- The dead-letter records of a message. -/
def World.letters (world : World) (id : MessageId) : Nat :=
  world.broker.deadLetters.countP (·.1 == id)

/-- The stored counter of a message. -/
def Broker.retryCount (broker : Broker) (id : MessageId) : Nat := (broker.hget id).getD 0

/-- The message was read by the group and acknowledged. -/
def Broker.Done (broker : Broker) (id : MessageId) : Prop :=
  id < broker.delivered ∧ broker.pending id = none

/-- The messages a phase still works on. -/
def Phase.ids : Phase → List MessageId
  | .xclaim ids => ids
  | .deliver batch => batch.map (·.messageId)
  | .handler message _ rest => message.messageId :: rest.map (·.messageId)
  | .hincrby message => [message.messageId]
  | .expire message => [message.messageId]
  | .deadLetter message _ rest => message.messageId :: rest.map (·.messageId)
  | .cleanup message rest => message.messageId :: rest.map (·.messageId)
  | .ack message rest => message.messageId :: rest.map (·.messageId)
  | _ => []

/-- The message whose handler call a phase has yet to account for. -/
def Phase.owes : Phase → Option MessageId
  | .hincrby message => some message.messageId
  | .deadLetter message _ _ => some message.messageId
  | .cleanup message _ => some message.messageId
  | .ack message _ => some message.messageId
  | _ => none

/-- A turn in which no bookkeeping is lost: a failed call that asks for a retry has its
counter below the limit, the increment and the acknowledgement take effect, and the dead
letter is appended and answered. -/
def Phase.Counted (maxRetries : Int) (broker : Broker) (turn : Turn) : Phase → Prop
  | .handler message retryCount _ => turn.error.isSome = true → retryCount < maxRetries →
      (broker.retryCount message.messageId : Int) < maxRetries
  | .hincrby _ => turn.fate ≠ .failed
  | .deadLetter _ _ _ => turn.fate = .ok
  | .ack _ _ => turn.fate ≠ .failed
  | _ => True

/-- A step of the life of one consumer process in which no bookkeeping is lost. A counter
expires only once its message is acknowledged. -/
def World.Counted (maxRetries : Int) (name : ConsumerName) (world : World) : Label → Prop
  | .publish _ => True
  | .start _ => False
  | .crash _ => False
  | .expireRetry id => world.broker.Done id
  | .turn consumer turn =>
      consumer = name ∧ (world.consumers name).Counted maxRetries world.broker turn

instance (broker : Broker) (id : MessageId) : Decidable (broker.Done id) :=
  inferInstanceAs (Decidable (_ ∧ _))

instance (maxRetries : Int) (broker : Broker) (turn : Turn) :
    ∀ phase : Phase, Decidable (phase.Counted maxRetries broker turn)
  | .handler message retryCount _ => inferInstanceAs (Decidable (turn.error.isSome = true →
      retryCount < maxRetries → (broker.retryCount message.messageId : Int) < maxRetries))
  | .hincrby _ => inferInstanceAs (Decidable (turn.fate ≠ .failed))
  | .deadLetter _ _ _ => inferInstanceAs (Decidable (turn.fate = .ok))
  | .ack _ _ => inferInstanceAs (Decidable (turn.fate ≠ .failed))
  | .stopped => .isTrue trivial
  | .ensurePending => .isTrue trivial
  | .xpending => .isTrue trivial
  | .xclaim _ => .isTrue trivial
  | .ensureNew => .isTrue trivial
  | .xreadgroup => .isTrue trivial
  | .deliver _ => .isTrue trivial
  | .expire _ => .isTrue trivial
  | .cleanup _ _ => .isTrue trivial

instance (maxRetries : Int) (name : ConsumerName) (world : World) :
    ∀ label : Label, Decidable (world.Counted maxRetries name label)
  | .publish _ => .isTrue trivial
  | .start _ => .isFalse id
  | .crash _ => .isFalse id
  | .expireRetry id => inferInstanceAs (Decidable (world.broker.Done id))
  | .turn _ _ => inferInstanceAs (Decidable (_ ∧ _))

/-- What a message has used up since `origin`, by where its consumer stands. -/
inductive World.Standing (maxRetries : Int) (world origin : World) (name : ConsumerName)
    (id : MessageId) : Prop
  | waiting (free : (world.consumers name).owes ≠ some id)
      (letters : world.letters id = origin.letters id)
      (counted : world.calls id ≤ origin.calls id + world.broker.retryCount id)
      (few : (world.calls id : Int) ≤ origin.calls id + maxRetries)
  | counting (message : Delivery) (same : message.messageId = id)
      (phase : world.consumers name = .hincrby message)
      (letters : world.letters id = origin.letters id)
      (counted : world.calls id ≤ origin.calls id + world.broker.retryCount id + 1)
      (few : (world.calls id : Int) ≤ origin.calls id + maxRetries)
  | exhausted (message : Delivery) (reason : String) (rest : List Delivery)
      (same : message.messageId = id)
      (phase : world.consumers name = .deadLetter message reason rest)
      (letters : world.letters id = origin.letters id)
      (few : (world.calls id : Int) ≤ origin.calls id + maxRetries + 1)
  | decided (phase : (world.consumers name).Decided id)
      (letters : world.letters id ≤ origin.letters id + 1)
      (few : (world.calls id : Int) ≤ origin.calls id + maxRetries + 1)
  | done (acked : world.broker.Done id)
      (letters : world.letters id ≤ origin.letters id + 1)
      (few : (world.calls id : Int) ≤ origin.calls id + maxRetries + 1)

/-- What every world of the life of one consumer process keeps. -/
structure World.Bounded (maxRetries : Int) (world origin : World) (name : ConsumerName) :
    Prop where
  nodup : (world.consumers name).ids.Nodup
  held : ∀ id ∈ (world.consumers name).ids,
    id < world.broker.delivered ∧ (world.broker.pending id).isSome = true
  standing : ∀ id, world.Standing maxRetries origin name id

/-- A command that is about other messages. -/
structure Broker.Leaves (before after : Broker) (id : MessageId) : Prop where
  letters : after.deadLetters.countP (·.1 == id) = before.deadLetters.countP (·.1 == id)
  retryCount : after.retryCount id = before.retryCount id
  done : before.Done id → after.Done id

/-- A step that is about other messages. -/
structure World.Spares (world next : World) (id : MessageId) : Prop where
  calls : next.calls id = world.calls id
  letters : next.letters id = world.letters id
  retryCount : next.broker.retryCount id = world.broker.retryCount id
  done : world.broker.Done id → next.broker.Done id

section

variable {toInt : String → Option Int} {maxRetries : Int} {origin world next : World}
  {name : ConsumerName} {id : MessageId}

theorem Phase.Decided.owes {phase : Phase} (decided : phase.Decided id) :
    phase.owes = some id := by
  obtain ⟨message, rest, same, rfl | rfl⟩ := decided
  · exact congrArg some same
  · exact congrArg some same

/-- A message that owes nothing is waiting or done. -/
theorem World.Standing.settled (standing : world.Standing maxRetries origin name id)
    (free : (world.consumers name).owes ≠ some id) (spares : world.Spares next id)
    (still : (next.consumers name).owes ≠ some id) :
    next.Standing maxRetries origin name id := by
  cases standing with
  | waiting _ letters counted few =>
      apply World.Standing.waiting still
      · rw [spares.letters, letters]
      · rw [spares.calls, spares.retryCount]
        exact counted
      · rw [spares.calls]
        exact few
  | counting message same phase =>
      rw [phase, Phase.owes, same] at free
      exact absurd rfl free
  | exhausted message reason rest same phase =>
      rw [phase, Phase.owes, same] at free
      exact absurd rfl free
  | decided phase => exact absurd phase.owes free
  | done acked letters few =>
      apply World.Standing.done (spares.done acked)
      · rw [spares.letters]
        exact letters
      · rw [spares.calls]
        exact few

/-- A step that leaves the consumer where it stands. -/
theorem World.Standing.kept (standing : world.Standing maxRetries origin name id)
    (spares : world.Spares next id) (same : next.consumers name = world.consumers name) :
    next.Standing maxRetries origin name id := by
  obtain ⟨calls, letters, retryCount, done⟩ := spares
  cases standing with
  | waiting free silent counted few =>
      rw [← same] at free
      rw [← letters] at silent
      rw [← calls, ← retryCount] at counted
      rw [← calls] at few
      exact .waiting free silent counted few
  | counting message own phase silent counted few =>
      rw [← same] at phase
      rw [← letters] at silent
      rw [← calls, ← retryCount] at counted
      rw [← calls] at few
      exact .counting message own phase silent counted few
  | exhausted message reason rest own phase silent few =>
      rw [← same] at phase
      rw [← letters] at silent
      rw [← calls] at few
      exact .exhausted message reason rest own phase silent few
  | decided phase silent few =>
      rw [← same] at phase
      rw [← letters] at silent
      rw [← calls] at few
      exact .decided phase silent few
  | done acked silent few =>
      rw [← letters] at silent
      rw [← calls] at few
      exact .done (done acked) silent few

/-- Wherever it stands, a message has used up no more than it may. -/
theorem World.Standing.spent (standing : world.Standing maxRetries origin name id) :
    world.letters id ≤ origin.letters id + 1 ∧
      (world.calls id : Int) ≤ origin.calls id + maxRetries + 1 := by
  cases standing with
  | waiting _ letters _ few => exact ⟨by omega, by omega⟩
  | counting _ _ _ letters _ few => exact ⟨by omega, by omega⟩
  | exhausted _ _ _ _ _ letters few => exact ⟨by omega, few⟩
  | decided _ letters few => exact ⟨letters, few⟩
  | done _ letters few => exact ⟨letters, few⟩

theorem Broker.Done.not_pending {broker : Broker} (done : broker.Done id)
    (pending : (broker.pending id).isSome = true) : False := by
  rw [done.2] at pending
  cases pending

namespace Broker.Leaves

variable {broker : Broker} {other : MessageId}

theorem refl : broker.Leaves broker id := ⟨rfl, rfl, fun done => done⟩

theorem settle {command : Broker → Broker} (fate : Fate)
    (leaves : broker.Leaves (command broker) id) :
    broker.Leaves (fate.settle command broker) id :=
  Fate.settle_preserves (broker.Leaves · id) fate refl leaves

theorem xgroupCreate : broker.Leaves broker.xgroupCreate id :=
  ⟨rfl, rfl, fun done => done⟩

theorem xclaim (consumer : ConsumerName) (ids : List MessageId) :
    broker.Leaves (broker.xclaim consumer ids) id := by
  refine ⟨rfl, rfl, ?_⟩
  intro done
  refine ⟨done.1, ?_⟩
  simp [Broker.xclaim, done.2]

theorem xreadgroup (consumer : ConsumerName) (count : Nat) :
    broker.Leaves (broker.xreadgroup consumer count) id := by
  refine ⟨rfl, rfl, ?_⟩
  intro done
  have old : id ∉ broker.unread count := by
    intro read
    have late : broker.delivered ≤ id := (mem_unread.mp read).1
    exact Nat.not_lt.mpr late done.1
  refine ⟨Nat.lt_of_lt_of_le done.1 (Nat.le_add_right _ _), ?_⟩
  change (if id ∈ broker.unread count then _ else broker.pending id) = none
  rw [if_neg old]
  exact done.2

theorem expire : broker.Leaves (broker.expire other) id := by
  refine ⟨rfl, ?_, fun done => done⟩
  by_cases same : id = other
  · subst same
    simp [Broker.retryCount, Broker.hget, Broker.expire, Option.map_map, Function.comp_def]
  · simp [Broker.retryCount, Broker.hget, Broker.expire, same]

theorem hincrby (differ : id ≠ other) : broker.Leaves (broker.hincrby other) id := by
  refine ⟨rfl, ?_, fun done => done⟩
  simp [Broker.retryCount, Broker.hget, Broker.hincrby, differ]

theorem delete (differ : id ≠ other) : broker.Leaves (broker.delete other) id := by
  refine ⟨rfl, ?_, fun done => done⟩
  simp [Broker.retryCount, Broker.hget, Broker.delete, differ]

theorem deadLetter (differ : id ≠ other) (record : Payload) :
    broker.Leaves (broker.deadLetter other record) id := by
  refine ⟨?_, rfl, fun done => done⟩
  have foreign : ((other, record).1 == id) = false := by simpa using Ne.symm differ
  rw [Broker.deadLetter, List.countP_append, List.countP_singleton, foreign]
  rfl

theorem xack : broker.Leaves (broker.xack other) id := by
  refine ⟨rfl, rfl, ?_⟩
  intro done
  refine ⟨done.1, ?_⟩
  by_cases same : id = other
  · subst same
    exact Function.update_self ..
  · change Function.update broker.pending other none id = none
    rw [Function.update_of_ne same]
    exact done.2

end Broker.Leaves

theorem World.Spares.goto {phase : Phase} : world.Spares (world.goto name phase) id :=
  ⟨rfl, rfl, rfl, fun done => done⟩

theorem World.Spares.send {fate : Fate} {command : Broker → Broker} {proceed : Phase}
    (leaves : world.broker.Leaves (command world.broker) id) :
    world.Spares (world.send name fate command proceed) id := by
  have settled := leaves.settle fate
  exact ⟨rfl, settled.letters, settled.retryCount, settled.done⟩

theorem retryCount_hincrby {broker : Broker} :
    (broker.hincrby id).retryCount id = broker.retryCount id + 1 := by
  cases counter : broker.retries id with
  | none => simp [Broker.retryCount, Broker.hget, Broker.hincrby, counter]
  | some retry => simp [Broker.retryCount, Broker.hget, Broker.hincrby, counter]

theorem consumers_goto {phase : Phase} : (world.goto name phase).consumers name = phase :=
  Function.update_self ..

theorem consumers_send {fate : Fate} {command : Broker → Broker} {proceed : Phase} :
    (world.send name fate command proceed).consumers name =
      fate.branch proceed .ensurePending :=
  Function.update_self ..

theorem calls_ran {ok : Bool} (called : next.handlerRuns = world.handlerRuns ++ [(id, ok)]) :
    next.calls id = world.calls id + 1 := by
  rw [World.calls, World.calls, called, List.countP_append, List.countP_singleton]
  simp

theorem calls_ran_other {ok : Bool} {other : MessageId}
    (called : next.handlerRuns = world.handlerRuns ++ [(other, ok)]) (differ : id ≠ other) :
    next.calls id = world.calls id := by
  have foreign : ((other, ok).1 == id) = false := by simpa using Ne.symm differ
  rw [World.calls, World.calls, called, List.countP_append, List.countP_singleton, foreign]
  rfl

/-- A turn that calls no handler and settles no message. -/
theorem World.Bounded.quiet (bounded : world.Bounded maxRetries origin name)
    (before : (world.consumers name).owes = none) (after : (next.consumers name).owes = none)
    (nodup : (next.consumers name).ids.Nodup)
    (held : ∀ id ∈ (next.consumers name).ids,
      id < next.broker.delivered ∧ (next.broker.pending id).isSome = true)
    (spares : ∀ id, world.Spares next id) : next.Bounded maxRetries origin name := by
  refine ⟨nodup, held, ?_⟩
  intro id
  apply (bounded.standing id).settled _ (spares id)
  · rw [after]
    simp
  · rw [before]
    simp

/-- A command of a phase that owes nothing, whether its reply comes or not. -/
theorem World.Bounded.command (bounded : world.Bounded maxRetries origin name)
    {fate : Fate} {command : Broker → Broker} {proceed : Phase}
    (before : (world.consumers name).owes = none) (owes : proceed.owes = none)
    (nodup : proceed.ids.Nodup)
    (held : ∀ id ∈ proceed.ids, id < (command world.broker).delivered ∧
      ((command world.broker).pending id).isSome = true)
    (leaves : ∀ id, world.broker.Leaves (command world.broker) id) :
    (world.send name fate command proceed).Bounded maxRetries origin name := by
  have after : (world.send name fate command proceed).consumers name =
      fate.branch proceed .ensurePending := consumers_send
  apply bounded.quiet before
  · rw [after]
    cases fate with
    | ok => exact owes
    | failed => rfl
    | lost => rfl
  · rw [after]
    cases fate with
    | ok => exact nodup
    | failed => exact List.nodup_nil
    | lost => exact List.nodup_nil
  · rw [after]
    cases fate with
    | ok => exact held
    | failed => exact fun _ member => absurd member List.not_mem_nil
    | lost => exact fun _ member => absurd member List.not_mem_nil
  · intro id
    exact .send (leaves id)

theorem nodup_unread {broker : Broker} {count : Nat} : (broker.unread count).Nodup :=
  List.nodup_range'

theorem ids_deliver {broker : Broker} {ids : List MessageId} :
    (Phase.deliver (broker.deliveries ids)).ids = ids := by
  simp [Phase.ids, Broker.deliveries, Function.comp_def]

theorem ids_pending {broker : Broker} {ids : List MessageId} :
    (Phase.pending (broker.deliveries ids)).ids = ids := by
  cases ids with
  | nil => rfl
  | cons id rest => exact ids_deliver

theorem owes_pending {batch : List Delivery} : (Phase.pending batch).owes = none := by
  cases batch <;> rfl

/-- A turn that is about the message of the phase: the others stand where they stood. -/
theorem World.Bounded.about {message : Delivery} {after : Phase}
    (bounded : world.Bounded maxRetries origin name)
    (before : ∀ other, other ≠ message.messageId → (world.consumers name).owes ≠ some other)
    (stays : next.consumers name = after)
    (owes : ∀ other, other ≠ message.messageId → after.owes ≠ some other)
    (nodup : after.ids.Nodup)
    (held : ∀ id ∈ after.ids,
      id < next.broker.delivered ∧ (next.broker.pending id).isSome = true)
    (spares : ∀ other, other ≠ message.messageId → world.Spares next other)
    (own : next.Standing maxRetries origin name message.messageId) :
    next.Bounded maxRetries origin name := by
  subst stays
  refine ⟨nodup, held, ?_⟩
  intro id
  by_cases same : id = message.messageId
  · rw [same]
    exact own
  · exact (bounded.standing id).settled (before id same) (spares id same) (owes id same)

theorem owes_other {message : Delivery} {phase : Phase}
    (owes : phase.owes = some message.messageId ∨ phase.owes = none) :
    ∀ other, other ≠ message.messageId → phase.owes ≠ some other := by
  intro other differ same
  rcases owes with owes | owes
  · rw [owes] at same
    exact differ (Option.some.inj same).symm
  · rw [owes] at same
    cases same

/-- What a message that waits has used up. -/
theorem World.Bounded.waiting {message : Delivery} {retryCount : Int} {rest : List Delivery}
    (bounded : world.Bounded maxRetries origin name)
    (phase : world.consumers name = .handler message retryCount rest) :
    world.letters message.messageId = origin.letters message.messageId ∧
      world.calls message.messageId ≤
        origin.calls message.messageId + world.broker.retryCount message.messageId ∧
      (world.calls message.messageId : Int) ≤ origin.calls message.messageId + maxRetries := by
  have held := bounded.held message.messageId (by rw [phase]; exact List.mem_cons_self)
  cases bounded.standing message.messageId with
  | waiting _ letters counted few => exact ⟨letters, counted, few⟩
  | counting _ _ other => rw [phase] at other; cases other
  | exhausted _ _ _ _ other => rw [phase] at other; cases other
  | decided other =>
      rw [phase] at other
      obtain ⟨_, _, _, same | same⟩ := other <;> cases same
  | done acked => exact (acked.not_pending held.2).elim

/-- The handler is called: a failed call asks for a retry, or has used up the last one. -/
theorem World.Bounded.handler {turn : Turn} {message : Delivery} {retryCount : Int}
    {rest : List Delivery} (bounded : world.Bounded maxRetries origin name)
    (phase : world.consumers name = .handler message retryCount rest)
    (met : turn.error.isSome = true → retryCount < maxRetries →
      (world.broker.retryCount message.messageId : Int) < maxRetries)
    (taken : world.turn toInt maxRetries name turn (.handler message retryCount rest) =
      some next) : next.Bounded maxRetries origin name := by
  obtain ⟨letters, counted, few⟩ := bounded.waiting phase
  have nodup := bounded.nodup
  have held := bounded.held
  rw [phase] at nodup held
  have handles : hasHandler loopEventType = true := by decide
  simp only [World.turn] at taken
  rw [if_pos handles] at taken
  have free : ∀ other, other ≠ message.messageId →
      (world.consumers name).owes ≠ some other := by
    rw [phase]
    exact owes_other (.inr rfl)
  -- The call is recorded, and the consumer goes on to `after` with the same broker.
  have called (ok : Bool) (after : Phase) (owes : after.owes = some message.messageId)
      (distinct : after.ids.Nodup)
      (inside : ∀ id ∈ after.ids, id ∈ (Phase.handler message retryCount rest).ids)
      (same : next = World.goto { world with
        handlerRuns := world.handlerRuns ++ [(message.messageId, ok)] } name after)
      (own : next.calls message.messageId = world.calls message.messageId + 1 →
        next.Standing maxRetries origin name message.messageId) :
      next.Bounded maxRetries origin name := by
    have runs : next.handlerRuns = world.handlerRuns ++ [(message.messageId, ok)] := by
      rw [same]
      rfl
    have broker : next.broker = world.broker := by
      rw [same]
      rfl
    have stays : next.consumers name = after := by
      rw [same]
      exact consumers_goto
    apply bounded.about free stays (owes_other (.inl owes)) distinct
    · intro id member
      rw [broker]
      exact held id (inside id member)
    · intro other differ
      refine ⟨calls_ran_other runs differ, ?_, ?_, ?_⟩
      · rw [World.letters, broker, World.letters]
      · rw [broker]
      · rw [broker]
        exact fun done => done
    · exact own (calls_ran runs)
  cases error : turn.error with
  | none =>
      rw [error] at taken
      cases taken
      apply called true (.cleanup message rest) rfl nodup (fun _ member => member) rfl
      intro once
      apply World.Standing.decided
      · rw [consumers_goto]
        exact ⟨message, rest, rfl, .inl rfl⟩
      · exact letters.le.trans (Nat.le_succ _)
      · rw [once]
        push_cast
        omega
  | some reason =>
      rw [error] at taken met
      simp only at taken
      split at taken
      next again =>
        cases taken
        have below := met rfl again
        have one : (Phase.hincrby message).ids.Nodup :=
          List.nodup_cons.mpr ⟨List.not_mem_nil, List.nodup_nil⟩
        have inside (id : MessageId) (member : id ∈ (Phase.hincrby message).ids) :
            id ∈ (Phase.handler message retryCount rest).ids := by
          rw [List.mem_singleton.mp member]
          exact List.mem_cons_self
        apply called false (.hincrby message) rfl one inside rfl
        intro once
        apply World.Standing.counting message rfl consumers_goto
        · exact letters
        · rw [once]
          exact Nat.succ_le_succ counted
        · rw [once]
          push_cast
          omega
      next =>
        cases taken
        apply called false (.deadLetter message reason rest) rfl nodup (fun _ member => member) rfl
        intro once
        apply World.Standing.exhausted message reason rest rfl consumers_goto
        · exact letters
        · rw [once]
          push_cast
          omega

/-- The increment accounts for the call, also when its reply is lost. -/
theorem World.Bounded.hincrby {fate : Fate} {message : Delivery}
    (bounded : world.Bounded maxRetries origin name)
    (phase : world.consumers name = .hincrby message) (met : fate ≠ .failed) :
    (world.send name fate (Broker.hincrby message.messageId) (.expire message)).Bounded
      maxRetries origin name := by
  have held := bounded.held
  have nodup := bounded.nodup
  rw [phase] at held nodup
  have settled : fate.settle (Broker.hincrby message.messageId) world.broker =
      world.broker.hincrby message.messageId := by
    cases fate with
    | ok => rfl
    | failed => exact absurd rfl met
    | lost => rfl
  have free : ∀ other, other ≠ message.messageId →
      (world.consumers name).owes ≠ some other := by
    rw [phase]
    exact owes_other (.inl rfl)
  apply bounded.about free consumers_send
  · apply owes_other
    right
    cases fate <;> rfl
  · cases fate with
    | ok => exact nodup
    | failed => exact List.nodup_nil
    | lost => exact List.nodup_nil
  · intro id member
    have inside : id ∈ (Phase.hincrby message).ids := by
      cases fate with
      | ok => exact member
      | failed => cases member
      | lost => cases member
    change id < (fate.settle _ world.broker).delivered ∧
      ((fate.settle _ world.broker).pending id).isSome = true
    rw [settled]
    exact held id inside
  · intro other differ
    exact .send (.hincrby differ)
  · cases bounded.standing message.messageId with
    | waiting owed =>
        rw [phase] at owed
        exact absurd rfl owed
    | counting _ _ _ letters counted few =>
        have broker : (world.send name fate (Broker.hincrby message.messageId)
            (.expire message)).broker = world.broker.hincrby message.messageId := settled
        apply World.Standing.waiting
        · rw [consumers_send]
          cases fate <;> simp [Fate.branch, Phase.owes]
        · rw [World.letters, broker]
          exact letters
        · rw [broker, retryCount_hincrby, ← Nat.add_assoc]
          exact counted
        · exact few
    | exhausted _ _ _ _ other => rw [phase] at other; cases other
    | decided other =>
        rw [phase] at other
        obtain ⟨_, _, _, same | same⟩ := other <;> cases same
    | done acked =>
        have waits := (held message.messageId List.mem_cons_self).2
        exact (acked.not_pending waits).elim

theorem letters_deadLetter {record : Payload}
    (broker : next.broker = world.broker.deadLetter id record) :
    next.letters id = world.letters id + 1 := by
  rw [World.letters, World.letters, broker, Broker.deadLetter, List.countP_append,
    List.countP_singleton]
  simp

/-- The answered append of the record decides for the acknowledgement. -/
theorem World.Bounded.deadLetter {message : Delivery} {reason : String} {rest : List Delivery}
    {record : Payload} (bounded : world.Bounded maxRetries origin name)
    (phase : world.consumers name = .deadLetter message reason rest) :
    (world.send name .ok (Broker.deadLetter message.messageId record)
      (.cleanup message rest)).Bounded maxRetries origin name := by
  have held := bounded.held
  have nodup := bounded.nodup
  rw [phase] at held nodup
  have free : ∀ other, other ≠ message.messageId →
      (world.consumers name).owes ≠ some other := by
    rw [phase]
    exact owes_other (.inl rfl)
  have stays : (world.send name .ok (Broker.deadLetter message.messageId record)
      (.cleanup message rest)).consumers name = .cleanup message rest := consumers_send
  apply bounded.about free stays (owes_other (.inl rfl)) nodup
  · exact held
  · intro other differ
    exact .send (.deadLetter differ record)
  · cases bounded.standing message.messageId with
    | waiting owed =>
        rw [phase] at owed
        exact absurd rfl owed
    | counting _ _ other => rw [phase] at other; cases other
    | exhausted _ _ _ _ _ letters few =>
        have appended : (world.send name .ok (Broker.deadLetter message.messageId record)
            (.cleanup message rest)).letters message.messageId =
              world.letters message.messageId + 1 := letters_deadLetter rfl
        apply World.Standing.decided
        · rw [consumers_send]
          exact ⟨message, rest, rfl, .inl rfl⟩
        · rw [appended, letters]
        · exact few
    | decided other =>
        rw [phase] at other
        obtain ⟨_, _, _, same | same⟩ := other <;> cases same
    | done acked =>
        have waits := (held message.messageId List.mem_cons_self).2
        exact (acked.not_pending waits).elim

theorem World.Bounded.cleanup {fate : Fate} {message : Delivery} {rest : List Delivery}
    (bounded : world.Bounded maxRetries origin name)
    (phase : world.consumers name = .cleanup message rest)
    (broker : next.broker = fate.settle (Broker.delete message.messageId) world.broker)
    (runs : next.handlerRuns = world.handlerRuns)
    (stays : next.consumers name = .ack message rest) :
    next.Bounded maxRetries origin name := by
  have held := bounded.held
  have nodup := bounded.nodup
  rw [phase] at held nodup
  have free : ∀ other, other ≠ message.messageId →
      (world.consumers name).owes ≠ some other := by
    rw [phase]
    exact owes_other (.inl rfl)
  obtain ⟨letters, few⟩ := (bounded.standing message.messageId).spent
  have kept : next.broker.delivered = world.broker.delivered ∧
      next.broker.pending = world.broker.pending ∧
      next.broker.deadLetters = world.broker.deadLetters := by
    rw [broker]
    cases fate <;> exact ⟨rfl, rfl, rfl⟩
  obtain ⟨delivered, pending, deadLetters⟩ := kept
  apply bounded.about free stays (owes_other (.inl rfl)) nodup
  · intro id member
    rw [delivered, pending]
    exact held id member
  · intro other differ
    have deleted : world.broker.Leaves (world.broker.delete message.messageId) other :=
      .delete differ
    have leaves := deleted.settle fate
    rw [← broker] at leaves
    refine ⟨?_, leaves.letters, leaves.retryCount, leaves.done⟩
    rw [World.calls, runs, World.calls]
  · apply World.Standing.decided
    · rw [stays]
      exact ⟨message, rest, rfl, .inr rfl⟩
    · rw [World.letters, deadLetters]
      exact letters
    · rw [World.calls, runs]
      exact few

/-- An acknowledgement that takes effect is the last of its message. -/
theorem World.Bounded.ack {fate : Fate} {message : Delivery} {rest : List Delivery}
    (bounded : world.Bounded maxRetries origin name)
    (phase : world.consumers name = .ack message rest) (met : fate ≠ .failed)
    (broker : next.broker = fate.settle (Broker.xack message.messageId) world.broker)
    (runs : next.handlerRuns = world.handlerRuns)
    (stays : next.consumers name = fate.branch (.deliver rest) .ensurePending) :
    next.Bounded maxRetries origin name := by
  have held := bounded.held
  have nodup := bounded.nodup
  rw [phase] at held nodup
  obtain ⟨apart, distinct⟩ := List.nodup_cons.mp nodup
  have settled : next.broker = world.broker.xack message.messageId := by
    rw [broker]
    cases fate with
    | ok => rfl
    | failed => exact absurd rfl met
    | lost => rfl
  have free : ∀ other, other ≠ message.messageId →
      (world.consumers name).owes ≠ some other := by
    rw [phase]
    exact owes_other (.inl rfl)
  obtain ⟨letters, few⟩ := (bounded.standing message.messageId).spent
  apply bounded.about free stays
  · apply owes_other
    right
    cases fate <;> rfl
  · cases fate with
    | ok => exact distinct
    | failed => exact List.nodup_nil
    | lost => exact List.nodup_nil
  · intro id member
    have inside : id ∈ rest.map (·.messageId) := by
      cases fate with
      | ok => exact member
      | failed => cases member
      | lost => cases member
    have differ : id ≠ message.messageId := by
      rintro rfl
      exact apart inside
    have before := held id (List.mem_cons_of_mem _ inside)
    rw [settled]
    refine ⟨before.1, ?_⟩
    change (Function.update world.broker.pending message.messageId none id).isSome = true
    rw [Function.update_of_ne differ]
    exact before.2
  · intro other _
    have leaves : world.broker.Leaves (world.broker.xack message.messageId) other := .xack
    rw [← settled] at leaves
    refine ⟨?_, leaves.letters, leaves.retryCount, leaves.done⟩
    rw [World.calls, runs, World.calls]
  · have deadLetters : next.broker.deadLetters = world.broker.deadLetters := by
      rw [settled]
      rfl
    apply World.Standing.done
    · rw [settled]
      refine ⟨(held message.messageId List.mem_cons_self).1, ?_⟩
      exact Function.update_self ..
    · rw [World.letters, deadLetters]
      exact letters
    · rw [World.calls, runs]
      exact few

theorem World.Bounded.turn {turn : Turn} (bounded : world.Bounded maxRetries origin name)
    (met : world.Counted maxRetries name (.turn name turn))
    (taken : world.turn toInt maxRetries name turn (world.consumers name) = some next) :
    next.Bounded maxRetries origin name := by
  have counted := met.2
  have held := bounded.held
  have nodup := bounded.nodup
  have idle {phase : Phase} (reached : phase.ids = []) : phase.ids.Nodup ∧
      ∀ id ∈ phase.ids, id < world.broker.delivered ∧
        (world.broker.pending id).isSome = true := by
    rw [reached]
    exact ⟨List.nodup_nil, fun _ member => absurd member List.not_mem_nil⟩
  cases phase : world.consumers name with
  | stopped => rw [phase] at taken; cases taken
  | ensurePending =>
      rw [phase] at taken
      cases taken
      exact bounded.command (by rw [phase]; rfl) rfl (idle rfl).1 (idle rfl).2
        fun _ => .xgroupCreate
  | xpending =>
      rw [phase] at taken
      simp only [World.turn] at taken
      split at taken
      next =>
        cases taken
        exact bounded.command (by rw [phase]; rfl) rfl (idle rfl).1 (idle rfl).2 fun _ => .refl
      next ids _ =>
        cases taken
        apply bounded.command (by rw [phase]; rfl) rfl
        · exact (List.nodup_range.filter _).sublist (List.take_sublist _ _)
        · intro id member
          obtain ⟨inside, pending⟩ := List.mem_filter.mp (List.mem_of_mem_take member)
          exact ⟨List.mem_range.mp inside, pending⟩
        · exact fun _ => .refl
  | xclaim ids =>
      rw [phase] at taken held nodup
      cases taken
      apply bounded.command (by rw [phase]; rfl) owes_pending
      · rw [ids_pending]
        exact nodup.filter _
      · intro id member
        rw [ids_pending] at member
        obtain ⟨inside, pending⟩ := List.mem_filter.mp member
        refine ⟨(held id inside).1, ?_⟩
        simp only [Broker.xclaim]
        rw [if_pos inside, Option.isSome_map]
        exact pending
      · exact fun _ => .xclaim name ids
  | ensureNew =>
      rw [phase] at taken
      cases taken
      exact bounded.command (by rw [phase]; rfl) rfl (idle rfl).1 (idle rfl).2
        fun _ => .xgroupCreate
  | xreadgroup =>
      rw [phase] at taken
      cases taken
      apply bounded.command (by rw [phase]; rfl) rfl
      · rw [ids_deliver]
        exact nodup_unread
      · intro id member
        rw [ids_deliver] at member
        refine ⟨(Broker.mem_unread.mp member).2, ?_⟩
        simp [Broker.xreadgroup, member]
      · exact fun _ => .xreadgroup name 10
  | deliver batch =>
      rw [phase] at taken held nodup
      have goes {after : Phase} (owes : after.owes = none) (distinct : after.ids.Nodup)
          (inside : ∀ id ∈ after.ids, id ∈ (Phase.deliver batch).ids) :
          (world.goto name after).Bounded maxRetries origin name := by
        apply bounded.quiet
        · rw [phase]
          rfl
        · rw [consumers_goto]
          exact owes
        · rw [consumers_goto]
          exact distinct
        · rw [consumers_goto]
          intro id member
          exact held id (inside id member)
        · exact fun _ => .goto
      have restart : (world.goto name .ensurePending).Bounded maxRetries origin name :=
        goes rfl List.nodup_nil fun _ member => absurd member List.not_mem_nil
      cases batch with
      | nil =>
          cases taken
          exact restart
      | cons message rest =>
          simp only [World.turn] at taken
          split at taken
          next =>
            cases taken
            exact goes rfl nodup fun _ member => member
          next =>
            split at taken
            next =>
              cases taken
              exact goes rfl nodup fun _ member => member
            next =>
              cases taken
              exact restart
  | handler message retryCount rest =>
      rw [phase] at taken counted
      exact bounded.handler phase counted taken
  | hincrby message =>
      rw [phase] at taken counted
      cases taken
      exact bounded.hincrby phase counted
  | expire message =>
      rw [phase] at taken
      cases taken
      exact bounded.command (by rw [phase]; rfl) rfl (idle rfl).1 (idle rfl).2 fun _ => .expire
  | deadLetter message reason rest =>
      rw [phase] at taken counted
      have answered : turn.fate = .ok := counted
      cases taken
      rw [answered]
      exact bounded.deadLetter phase
  | cleanup message rest =>
      rw [phase] at taken
      cases taken
      exact bounded.cleanup phase rfl rfl (Function.update_self ..)
  | ack message rest =>
      rw [phase] at taken counted
      cases taken
      exact bounded.ack phase counted rfl rfl (Function.update_self ..)

theorem World.Bounded.step {label : Label} (bounded : world.Bounded maxRetries origin name)
    (met : world.Counted maxRetries name label)
    (taken : world.step toInt maxRetries label = some next) :
    next.Bounded maxRetries origin name := by
  cases label with
  | publish payload =>
      cases taken
      refine ⟨bounded.nodup, bounded.held, ?_⟩
      intro id
      exact (bounded.standing id).kept ⟨rfl, rfl, rfl, fun done => done⟩ rfl
  | start consumer => exact met.elim
  | crash consumer => exact met.elim
  | expireRetry expired =>
      have acked : world.broker.Done expired := met
      simp only [World.step] at taken
      split at taken
      next =>
        cases taken
        refine ⟨bounded.nodup, bounded.held, ?_⟩
        intro id
        by_cases same : id = expired
        · subst same
          obtain ⟨letters, few⟩ := (bounded.standing id).spent
          exact .done acked letters few
        · have leaves : world.broker.Leaves (world.broker.delete expired) id := .delete same
          exact (bounded.standing id).kept
            ⟨rfl, leaves.letters, leaves.retryCount, leaves.done⟩ rfl
      next => cases taken
  | turn consumer turn =>
      have same : consumer = name := met.1
      subst same
      exact bounded.turn met taken

/-- Only a handler phase calls the handler. -/
theorem turn_calls {turn : Turn} {phase : Phase} (id : MessageId)
    (taken : world.turn toInt maxRetries name turn phase = some next) :
    next.calls id = world.calls id ∨
      ∃ message retryCount rest, phase = .handler message retryCount rest ∧
        message.messageId = id := by
  cases phase with
  | stopped => cases taken
  | xpending =>
      simp only [World.turn] at taken
      split at taken <;> cases taken <;> exact .inl rfl
  | deliver batch =>
      cases batch with
      | nil => cases taken; exact .inl rfl
      | cons message rest =>
          simp only [World.turn] at taken
          split at taken
          next => cases taken; exact .inl rfl
          next => split at taken <;> cases taken <;> exact .inl rfl
  | handler message retryCount rest =>
      by_cases same : message.messageId = id
      · exact .inr ⟨message, retryCount, rest, rfl, same⟩
      · left
        have handles : hasHandler loopEventType = true := by decide
        simp only [World.turn] at taken
        rw [if_pos handles] at taken
        have runs : next.handlerRuns =
            world.handlerRuns ++ [(message.messageId, turn.error.isNone)] := by
          split at taken
          next => cases taken; rfl
          next => split at taken <;> cases taken <;> rfl
        exact calls_ran_other runs (Ne.symm same)
  | _ => cases taken; exact .inl rfl

theorem letters_settle {fate : Fate} {command : Broker → Broker}
    (grows : world.broker.deadLetters.countP (·.1 == id) ≤
      (command world.broker).deadLetters.countP (·.1 == id)) :
    world.letters id ≤ (fate.settle command world.broker).deadLetters.countP (·.1 == id) :=
  Fate.settle_preserves
    (fun broker : Broker => world.letters id ≤ broker.deadLetters.countP (·.1 == id))
    fate (Nat.le_refl _) grows

/-- No dead letter is ever removed. -/
theorem turn_letters {turn : Turn} {phase : Phase} (id : MessageId)
    (taken : world.turn toInt maxRetries name turn phase = some next) :
    world.letters id ≤ next.letters id := by
  have still : world.broker.deadLetters.countP (·.1 == id) ≤
      world.broker.deadLetters.countP (·.1 == id) := Nat.le_refl _
  cases phase with
  | stopped => cases taken
  | xpending =>
      simp only [World.turn] at taken
      split at taken <;> cases taken <;> exact letters_settle still
  | deliver batch =>
      cases batch with
      | nil => cases taken; exact still
      | cons message rest =>
          simp only [World.turn] at taken
          split at taken
          next => cases taken; exact still
          next => split at taken <;> cases taken <;> exact still
  | handler message retryCount rest =>
      simp only [World.turn] at taken
      split at taken
      next =>
        split at taken
        next => cases taken; exact still
        next => split at taken <;> cases taken <;> exact still
      next => cases taken; exact still
  | deadLetter message reason rest =>
      cases taken
      apply letters_settle
      rw [Broker.deadLetter, List.countP_append]
      exact Nat.le_add_right _ _
  | _ => cases taken; exact letters_settle still

/-- Once a message has its dead letter, a step neither calls its handler nor appends. -/
theorem World.Bounded.frozen {label : Label} (bounded : world.Bounded maxRetries origin name)
    (met : world.Counted maxRetries name label)
    (taken : world.step toInt maxRetries label = some next)
    (dead : origin.letters id < world.letters id) :
    next.calls id = world.calls id ∧ next.letters id = world.letters id := by
  have after := (bounded.step met taken).standing id
  have most := after.spent.1
  cases label with
  | publish payload => cases taken; exact ⟨rfl, rfl⟩
  | start consumer => exact met.elim
  | crash consumer => exact met.elim
  | expireRetry expired =>
      simp only [World.step] at taken
      split at taken
      next => cases taken; exact ⟨rfl, rfl⟩
      next => cases taken
  | turn consumer turn =>
      have same : consumer = name := met.1
      subst same
      have grows := turn_letters id taken
      refine ⟨?_, by omega⟩
      rcases turn_calls id taken with kept | ⟨message, retryCount, rest, phase, same⟩
      · exact kept
      · have waiting := (bounded.waiting phase).1
        rw [same] at waiting
        omega

/-- The retries of a message are bounded in the life of a consumer: from `origin` on, with `mid` and
then `last` on the way. -/
structure World.WithinRetries (maxRetries : Int) (origin mid last : World) (id : MessageId) :
    Prop where
  calls : (last.calls id : Int) ≤ origin.calls id + maxRetries + 1
  letters : last.letters id ≤ origin.letters id + 1
  frozen : origin.letters id < mid.letters id →
    last.calls id = mid.calls id ∧ last.letters id = mid.letters id

theorem World.Bounded.begins (enough : 0 ≤ maxRetries)
    (started : origin.consumers name = .ensurePending) :
    origin.Bounded maxRetries origin name := by
  refine ⟨?_, ?_, ?_⟩
  · rw [started]
    exact List.nodup_nil
  · rw [started]
    exact fun _ member => absurd member List.not_mem_nil
  · intro id
    apply World.Standing.waiting
    · rw [started]
      simp [Phase.owes]
    · rfl
    · exact Nat.le_add_right _ _
    · omega

theorem World.Bounded.exec {labels : List Label} (id : MessageId)
    (bounded : world.Bounded maxRetries origin name)
    (met : (eventBus toInt maxRetries).Allows (World.Counted maxRetries name) world labels)
    (run : (eventBus toInt maxRetries).exec world labels = some next) :
    next.Bounded maxRetries origin name ∧ (origin.letters id < world.letters id →
      next.calls id = world.calls id ∧ next.letters id = world.letters id) := by
  induction labels generalizing world with
  | nil =>
      cases run
      exact ⟨bounded, fun _ => ⟨rfl, rfl⟩⟩
  | cons label rest ih =>
      obtain ⟨after, taken, run⟩ := Machine.exec_cons_some.mp run
      obtain ⟨last, still⟩ := ih (bounded.step met.1 taken) (met.2 after taken) run
      refine ⟨last, ?_⟩
      intro dead
      obtain ⟨calls, letters⟩ := bounded.frozen met.1 taken dead
      rw [← letters] at dead
      obtain ⟨last_calls, last_letters⟩ := still dead
      exact ⟨last_calls.trans calls, last_letters.trans letters⟩

/-- In the life of a consumer process that loses none of its bookkeeping, a message has at
most one handler call more than its retries, and nothing after its one dead letter. -/
theorem bounded_retries (toInt : String → Option Int) {maxRetries : Int}
    (enough : 0 ≤ maxRetries) {origin mid last : World} {name : ConsumerName}
    (started : origin.consumers name = .ensurePending) {first second : List Label}
    (met_first : (eventBus toInt maxRetries).Allows (World.Counted maxRetries name) origin first)
    (run_first : (eventBus toInt maxRetries).exec origin first = some mid)
    (met_second : (eventBus toInt maxRetries).Allows (World.Counted maxRetries name) mid second)
    (run_second : (eventBus toInt maxRetries).exec mid second = some last) (id : MessageId) :
    World.WithinRetries maxRetries origin mid last id := by
  have begins := World.Bounded.begins enough started
  obtain ⟨at_mid, _⟩ := begins.exec id met_first run_first
  obtain ⟨at_last, frozen⟩ := at_mid.exec id met_second run_second
  obtain ⟨letters, calls⟩ := (at_last.standing id).spent
  exact ⟨calls, letters, frozen⟩

end

def failingTurn (name : ConsumerName) : Label := .turn name ⟨.ok, some "unavailable", "now"⟩

/-- One call of the handler that fails, until its message comes back for the next one. -/
def failedCall (name : ConsumerName) : List Label :=
  [failingTurn name, quietTurn name, quietTurn name, quietTurn name, quietTurn name,
    quietTurn name, quietTurn name]

/-- A message is read, and its handler fails until it has its dead letter. -/
def deadLettered (name : ConsumerName) : List Label :=
  List.replicate 5 (quietTurn name) ++ failedCall name ++ failedCall name ++ failedCall name ++
    [failingTurn name, quietTurn name, quietTurn name]

/-- The acknowledgement fails; the message comes back, and the handler fails for it again. -/
def redelivered (name : ConsumerName) : List Label :=
  [.turn name ⟨.failed, none, "now"⟩] ++ List.replicate 4 (quietTurn name) ++
    failedCall name ++ failedCall name ++ failedCall name ++
    [failingTurn name, quietTurn name, quietTurn name]

/-- The handler fails again and again, and no increment of the counter gets through. -/
def uncounted (name : ConsumerName) : List Label :=
  [failingTurn name, .turn name ⟨.failed, none, "now"⟩, quietTurn name, quietTurn name,
    quietTurn name, quietTurn name]

/-- A published event and a consumer that has just started. -/
def freshConsumer : World :=
  { World.initial with
    broker := Broker.empty.xadd [("user_id", "7")]
    consumers := Function.update (fun _ => .stopped) 0 .ensurePending }

theorem bounded_retries_acknowledged :
    ∃ mid last, (eventBus String.toInt? 3).exec freshConsumer (deadLettered 0) = some mid ∧
      (eventBus String.toInt? 3).exec mid [quietTurn 0] = some last ∧
      last.calls 0 = 4 ∧ World.WithinRetries 3 freshConsumer mid last 0 := by
  have first : ∃ mid, (eventBus String.toInt? 3).exec freshConsumer (deadLettered 0) = some mid ∧
      (eventBus String.toInt? 3).Allows (World.Counted 3 0) freshConsumer (deadLettered 0) ∧
      (eventBus String.toInt? 3).Allows (World.Counted 3 0) mid [quietTurn 0] ∧
      ∃ last, (eventBus String.toInt? 3).exec mid [quietTurn 0] = some last ∧
        last.calls 0 = 4 :=
    ⟨_, rfl, by decide +kernel, by decide +kernel, _, rfl, by decide +kernel⟩
  obtain ⟨mid, run_mid, met_mid, met_last, last, run_last, calls⟩ := first
  refine ⟨mid, last, run_mid, run_last, calls, ?_⟩
  exact bounded_retries String.toInt? (by decide) rfl met_mid run_mid met_last run_last 0

/-- Within the life of one consumer a failed acknowledgement brings a second dead letter,
and lost increments more handler calls than the retries allow. -/
theorem retries_unbounded :
    (∃ mid last, (eventBus String.toInt? 3).exec freshConsumer (deadLettered 0) = some mid ∧
      (eventBus String.toInt? 3).exec mid (redelivered 0) = some last ∧
      mid.letters 0 = 1 ∧ last.letters 0 = 2 ∧
      ¬ World.WithinRetries 3 freshConsumer mid last 0) ∧
    ∃ last, (eventBus String.toInt? 3).exec freshConsumer
        (List.replicate 5 (quietTurn 0) ++ (List.replicate 5 (uncounted 0)).flatten) = some last ∧
      last.calls 0 = 5 ∧ last.letters 0 = 0 ∧
      ¬ World.WithinRetries 3 freshConsumer last last 0 := by
  have resurrected : ∃ mid last,
      (eventBus String.toInt? 3).exec freshConsumer (deadLettered 0) = some mid ∧
      (eventBus String.toInt? 3).exec mid (redelivered 0) = some last ∧
      mid.letters 0 = 1 ∧ last.letters 0 = 2 :=
    ⟨_, _, rfl, rfl, by decide +kernel, by decide +kernel⟩
  have forgotten : ∃ last, (eventBus String.toInt? 3).exec freshConsumer
        (List.replicate 5 (quietTurn 0) ++ (List.replicate 5 (uncounted 0)).flatten) = some last ∧
      last.calls 0 = 5 ∧ last.letters 0 = 0 := ⟨_, rfl, by decide +kernel, by decide +kernel⟩
  obtain ⟨mid, last, run_mid, run_last, once, twice⟩ := resurrected
  obtain ⟨other, run_other, calls, letters⟩ := forgotten
  refine ⟨⟨mid, last, run_mid, run_last, once, twice, ?_⟩, other, run_other, calls, letters, ?_⟩
  · intro within
    have most := within.letters
    have none_before : freshConsumer.letters 0 = 0 := rfl
    omega
  · intro within
    have most := within.calls
    have none_before : freshConsumer.calls 0 = 0 := rfl
    omega

end Events
