import Soc360.Events.Stream
import Soc360.Store.Fault
import Soc360.Store.Machine

set_option autoImplicit false

namespace Events

/-- A message as `read_pending` and `read_new` return it. -/
structure Delivery where
  messageId : MessageId
  data : Payload

/-- Where a consumer stands: the Redis command, or the handler call, that comes next. -/
inductive Phase where
  | stopped
  | ensurePending
  | xpending
  | xclaim (ids : List MessageId)
  | ensureNew
  | xreadgroup
  | deliver (batch : List Delivery)
  | handler (message : Delivery) (retryCount : Int) (rest : List Delivery)
  | hincrby (message : Delivery)
  | expire (message : Delivery)
  | deadLetter (message : Delivery) (reason : String) (rest : List Delivery)
  | cleanup (message : Delivery) (rest : List Delivery)
  | ack (message : Delivery) (rest : List Delivery)

/-- `handlerRuns` records each handler call and whether it returned, `acked` the effect
of each `XACK`. -/
structure World where
  broker : Broker
  consumers : ConsumerName → Phase
  handlerRuns : List (MessageId × Bool)
  acked : List MessageId

def World.initial : World := ⟨.empty, fun _ => .stopped, [], []⟩

/-- What the environment decides at one turn of a consumer: the fate of its command, the
error of the handler if it raises one, and the time of a dead letter. -/
structure Turn where
  fate : Fate
  error : Option String
  time : String

/-- The event types `_dispatch_event` has a handler for. -/
def hasHandler (eventType : String) : Bool :=
  eventType == "auth.login" || eventType == "system.auth.login"

/-- The type `_consumer_loop` dispatches every message as. -/
def loopEventType : String := "auth.login"

/-- `{**data, "_dlq_reason": …, "_dlq_timestamp": …}`. -/
def dlqPayload (data : Payload) (reason time : String) : Payload :=
  data.filter (fun field => field.1 != "_dlq_reason" && field.1 != "_dlq_timestamp") ++
    [("_dlq_reason", reason), ("_dlq_timestamp", time)]

section

-- `toInt` is Python's `int` on a string, with `none` for a `ValueError`.
variable (toInt : String → Option Int) (maxRetries : Int)

/-- `int(data.get("_retry_count", 0))`. -/
def inMemoryRetryCount (data : Payload) : Option Int :=
  match data.lookup "_retry_count" with
  | some text => toInt text
  | none => some 0

/-- One command: an error raises to the consumer loop, which starts over. -/
def World.send (world : World) (name : ConsumerName) (fate : Fate) (command : Broker → Broker)
    (proceed : Phase) : World :=
  { world with
    broker := fate.settle command world.broker
    consumers := Function.update world.consumers name (fate.branch proceed .ensurePending) }

def World.goto (world : World) (name : ConsumerName) (phase : Phase) : World :=
  { world with consumers := Function.update world.consumers name phase }

def Broker.deliveries (broker : Broker) (ids : List MessageId) : List Delivery :=
  ids.map fun id => ⟨id, broker.stream.getD id []⟩

/-- The messages that `read_pending` returns, or `read_new` where there are none. -/
def Phase.pending : List Delivery → Phase
  | [] => .ensureNew
  | batch => .deliver batch

/-- One turn of `_consumer_loop`, `EventConsumer` and `_dispatch_event`. -/
def World.turn (world : World) (name : ConsumerName) (turn : Turn) : Phase → Option World
  | .stopped => none
  | .ensurePending => some (world.send name turn.fate Broker.xgroupCreate .xpending)
  | .xpending =>
      match world.broker.xpendingRange 100 with
      | [] => some (world.send name turn.fate id .ensureNew)
      | ids => some (world.send name turn.fate id (.xclaim ids))
  | .xclaim ids =>
      some (world.send name turn.fate (Broker.xclaim name ids)
        (.pending (world.broker.deliveries (world.broker.claimed ids))))
  | .ensureNew => some (world.send name turn.fate Broker.xgroupCreate .xreadgroup)
  | .xreadgroup =>
      some (world.send name turn.fate (Broker.xreadgroup name 10)
        (.deliver (world.broker.deliveries (world.broker.unread 10))))
  | .deliver [] => some (world.goto name .ensurePending)
  | .deliver (message :: rest) =>
      match turn.fate with
      | .ok => some (world.goto name
          (.handler message ((world.broker.hget message.messageId).getD 0) rest))
      | _ =>
          -- The fallback to the payload is outside the inner try: it may raise.
          match inMemoryRetryCount toInt message.data with
          | some retryCount => some (world.goto name (.handler message retryCount rest))
          | none => some (world.goto name .ensurePending)
  | .handler message retryCount rest =>
      if hasHandler loopEventType then
        let ran := { world with
          handlerRuns := world.handlerRuns ++ [(message.messageId, turn.error.isNone)] }
        match turn.error with
        | none => some (ran.goto name (.cleanup message rest))
        | some reason =>
            if retryCount < maxRetries then some (ran.goto name (.hincrby message))
            else some (ran.goto name (.deadLetter message reason rest))
      else some (world.goto name (.cleanup message rest))
  | .hincrby message =>
      some (world.send name turn.fate (Broker.hincrby message.messageId) (.expire message))
  | .expire message =>
      -- The handler's error is raised again, whatever becomes of the counter.
      some (world.send name turn.fate (Broker.expire message.messageId) .ensurePending)
  | .deadLetter message reason rest =>
      some (world.send name turn.fate
        (Broker.deadLetter message.messageId (dlqPayload message.data reason turn.time))
        (.cleanup message rest))
  | .cleanup message rest =>
      some { world with
        broker := turn.fate.settle (Broker.delete message.messageId) world.broker
        consumers := Function.update world.consumers name (.ack message rest) }
  | .ack message rest =>
      some { world.send name turn.fate (Broker.xack message.messageId) (.deliver rest) with
        acked := turn.fate.settle (message.messageId :: ·) world.acked }

/-- Any number of publishers and consumers. `crash` stops a consumer anywhere, `start`
starts or restarts it; an expiring counter may go at any time. -/
inductive Label where
  | publish (payload : Payload)
  | start (name : ConsumerName)
  | turn (name : ConsumerName) (turn : Turn)
  | crash (name : ConsumerName)
  | expireRetry (id : MessageId)

def World.step (world : World) : Label → Option World
  | .publish payload => some { world with broker := world.broker.xadd payload }
  | .start name =>
      match world.consumers name with
      | .stopped => some (world.goto name .ensurePending)
      | _ => none
  | .turn name turn => world.turn toInt maxRetries name turn (world.consumers name)
  | .crash name => some (world.goto name .stopped)
  | .expireRetry id =>
      if (world.broker.retries id).any (·.expiring) then
        some { world with broker := world.broker.delete id }
      else none

def eventBus : Machine World Label where
  start world := world = .initial
  step := World.step toInt maxRetries

end

/-- The message was handled, or a record of it is in the dead-letter stream. -/
def World.Settled (world : World) (id : MessageId) : Prop :=
  (id, true) ∈ world.handlerRuns ∨ ∃ record, (id, record) ∈ world.broker.deadLetters

/-- A phase in which the dispatcher has decided for the acknowledgement. -/
def Phase.Decided (phase : Phase) (id : MessageId) : Prop :=
  ∃ message rest, message.messageId = id ∧
    (phase = .cleanup message rest ∨ phase = .ack message rest)

/-- The delivery invariant. -/
structure Durable (world : World) : Prop where
  unlost : ∀ id < world.broker.delivered,
    (world.broker.pending id).isSome = true ∨ world.Settled id
  decided : ∀ name id, (world.consumers name).Decided id → world.Settled id
  acked : ∀ id ∈ world.acked, world.Settled id

/-- A command that acknowledges nothing. -/
structure Keeps (before after : Broker) : Prop where
  pending : ∀ id < after.delivered, (after.pending id).isSome = true ∨
    id < before.delivered ∧ (before.pending id).isSome = false
  deadLetters : ∀ entry ∈ before.deadLetters, entry ∈ after.deadLetters

theorem Keeps.same {before after : Broker} (delivered : after.delivered = before.delivered)
    (pending : after.pending = before.pending)
    (deadLetters : ∀ entry ∈ before.deadLetters, entry ∈ after.deadLetters) :
    Keeps before after := by
  refine ⟨?_, deadLetters⟩
  intro id below
  rw [delivered] at below
  rw [pending]
  cases held : (before.pending id).isSome
  · exact .inr ⟨below, rfl⟩
  · exact .inl rfl

theorem Keeps.refl (broker : Broker) : Keeps broker broker :=
  .same rfl rfl fun _ member => member

theorem Keeps.xclaim (consumer : ConsumerName) (ids : List MessageId) (broker : Broker) :
    Keeps broker (broker.xclaim consumer ids) := by
  refine ⟨?_, fun _ member => member⟩
  intro id below
  have claimed : ((broker.xclaim consumer ids).pending id).isSome = (broker.pending id).isSome := by
    simp only [Broker.xclaim]
    split
    · exact Option.isSome_map ..
    · rfl
  rw [claimed]
  cases held : (broker.pending id).isSome
  · exact .inr ⟨below, rfl⟩
  · exact .inl rfl

theorem Keeps.xreadgroup (consumer : ConsumerName) (count : Nat) (broker : Broker) :
    Keeps broker (broker.xreadgroup consumer count) := by
  refine ⟨?_, fun _ member => member⟩
  intro id below
  have inside : id < broker.delivered + min count (broker.stream.length - broker.delivered) :=
    below
  simp only [Broker.xreadgroup]
  by_cases read : id ∈ broker.unread count
  · simp [read]
  · have old : id < broker.delivered := by
      by_contra late
      exact read (Broker.mem_unread.mpr ⟨not_lt.mp late, inside⟩)
    rw [if_neg read]
    cases held : (broker.pending id).isSome
    · exact .inr ⟨old, rfl⟩
    · exact .inl rfl

theorem Keeps.deadLetter (id : MessageId) (record : Payload) (broker : Broker) :
    Keeps broker (broker.deadLetter id record) :=
  .same rfl rfl fun _ member => List.mem_append_left _ member

theorem Keeps.settle {broker : Broker} {command : Broker → Broker} (fate : Fate)
    (keeps : Keeps broker (command broker)) : Keeps broker (fate.settle command broker) :=
  Fate.settle_preserves (Keeps broker) fate (.refl broker) keeps

section

variable {toInt : String → Option Int} {maxRetries : Int} {world next : World}

theorem World.Settled.mono {id : MessageId} (settled : world.Settled id)
    (runs : ∀ run ∈ world.handlerRuns, run ∈ next.handlerRuns)
    (deadLetters : ∀ entry ∈ world.broker.deadLetters, entry ∈ next.broker.deadLetters) :
    next.Settled id := by
  rcases settled with handled | ⟨record, dead⟩
  · exact .inl (runs _ handled)
  · exact .inr ⟨record, deadLetters _ dead⟩

/-- A step that acknowledges nothing keeps the invariant, if each new decision is settled. -/
theorem Durable.keeps (durable : Durable world) (broker : Keeps world.broker next.broker)
    (runs : ∀ run ∈ world.handlerRuns, run ∈ next.handlerRuns)
    (acked : next.acked = world.acked)
    (decided : ∀ name id, (next.consumers name).Decided id →
      (world.consumers name).Decided id ∨ next.Settled id) : Durable next := by
  have mono {id : MessageId} (settled : world.Settled id) : next.Settled id :=
    settled.mono runs broker.deadLetters
  refine ⟨?_, ?_, ?_⟩
  · intro id below
    rcases broker.pending id below with pending | ⟨old, settled⟩
    · exact .inl pending
    · rcases durable.unlost id old with pending | handled
      · rw [settled] at pending
        cases pending
      · exact .inr (mono handled)
  · intro name id phase
    rcases decided name id phase with old | settled
    · exact mono (durable.decided name id old)
    · exact settled
  · intro id member
    rw [acked] at member
    exact mono (durable.acked id member)

theorem decided_update {consumers : ConsumerName → Phase} {name other : ConsumerName}
    {phase : Phase} {id : MessageId} {settled : Prop}
    (decided : (Function.update consumers name phase other).Decided id)
    (new : phase.Decided id → settled) : (consumers other).Decided id ∨ settled := by
  by_cases same : other = name
  · subst same
    rw [Function.update_self] at decided
    exact .inr (new decided)
  · rw [Function.update_of_ne same] at decided
    exact .inl decided

/-- Phases in which nothing is decided yet. -/
def Phase.undecided : Phase → Bool
  | .cleanup _ _ => false
  | .ack _ _ => false
  | _ => true

theorem Phase.undecided_not {phase : Phase} (undecided : phase.undecided = true)
    {id : MessageId} : ¬ phase.Decided id := by
  rintro ⟨message, rest, _, rfl | rfl⟩ <;> cases undecided

theorem Phase.undecided_pending {batch : List Delivery} :
    (Phase.pending batch).undecided = true := by
  cases batch <;> rfl

theorem Durable.goto (durable : Durable world) {name : ConsumerName} {phase : Phase}
    (undecided : phase.undecided = true) : Durable (world.goto name phase) := by
  refine durable.keeps (.refl _) (fun _ member => member) rfl ?_
  intro other id decided
  exact decided_update decided fun new => absurd new (Phase.undecided_not undecided)

theorem Durable.send (durable : Durable world) {name : ConsumerName} {fate : Fate}
    {command : Broker → Broker} {proceed : Phase}
    (keeps : Keeps world.broker (command world.broker)) (undecided : proceed.undecided = true) :
    Durable (world.send name fate command proceed) := by
  refine durable.keeps (keeps.settle fate) (fun _ member => member) rfl ?_
  intro other id decided
  refine decided_update decided fun new => absurd new (Phase.undecided_not ?_)
  rcases fate.branch_cases proceed .ensurePending with ⟨_, same⟩ | ⟨_, same⟩ <;> rw [same]
  · exact undecided
  · rfl

theorem Durable.handler (durable : Durable world) {name : ConsumerName} {turn : Turn}
    {message : Delivery} {retryCount : Int} {rest : List Delivery}
    (taken : world.turn toInt maxRetries name turn (.handler message retryCount rest) =
      some next) : Durable next := by
  have handles : hasHandler loopEventType = true := by decide
  simp only [World.turn] at taken
  rw [if_pos handles] at taken
  have runs (run : MessageId × Bool) (member : run ∈ world.handlerRuns) :
      run ∈ world.handlerRuns ++ [(message.messageId, turn.error.isNone)] :=
    List.mem_append_left _ member
  cases error : turn.error with
  | none =>
      rw [error] at taken
      cases taken
      refine durable.keeps (.refl _) (by simpa [error, World.goto] using runs) rfl ?_
      intro other id decided
      refine decided_update decided ?_
      rintro ⟨_, _, rfl, same | same⟩ <;> cases same
      exact .inl (by simp [World.goto])
  | some reason =>
      rw [error] at taken
      simp only at taken
      split at taken <;> cases taken <;>
        refine durable.keeps (.refl _) (by simpa [error, World.goto] using runs) rfl ?_ <;>
        intro other id decided <;>
        exact decided_update decided fun new => absurd new (Phase.undecided_not rfl)

/-- A dead letter settles its message. -/
theorem Durable.deadLetter (durable : Durable world) {name : ConsumerName} {turn : Turn}
    {message : Delivery} {reason : String} {rest : List Delivery} :
    Durable (world.send name turn.fate
      (Broker.deadLetter message.messageId (dlqPayload message.data reason turn.time))
      (.cleanup message rest)) := by
  have keeps := Keeps.deadLetter message.messageId
    (dlqPayload message.data reason turn.time) world.broker
  refine durable.keeps (keeps.settle turn.fate) (fun _ member => member) rfl ?_
  intro other id decided
  refine decided_update decided ?_
  rcases turn.fate.branch_cases (Phase.cleanup message rest) .ensurePending with
    ⟨done, same⟩ | ⟨_, same⟩ <;> rw [same]
  · rintro ⟨_, _, rfl, same | same⟩ <;> cases same
    refine .inr ⟨dlqPayload message.data reason turn.time, ?_⟩
    simp [World.send, done, Broker.deadLetter]
  · exact fun new => absurd new (Phase.undecided_not rfl)

theorem Durable.cleanup (durable : Durable world) {name : ConsumerName} {turn : Turn}
    {message : Delivery} {rest : List Delivery}
    (phase : world.consumers name = .cleanup message rest) :
    Durable { world with
      broker := turn.fate.settle (Broker.delete message.messageId) world.broker
      consumers := Function.update world.consumers name (.ack message rest) } := by
  have keeps : Keeps world.broker (world.broker.delete message.messageId) :=
    .same rfl rfl fun _ member => member
  refine durable.keeps (keeps.settle turn.fate) (fun _ member => member) rfl ?_
  intro other id decided
  by_cases mine : other = name
  · subst mine
    left
    simp only [Function.update_self] at decided
    obtain ⟨_, _, rfl, same | same⟩ := decided <;> cases same
    exact ⟨message, rest, rfl, .inl phase⟩
  · simp only [Function.update_of_ne mine] at decided
    exact .inl decided

/-- Only a settled message is acknowledged. -/
theorem Durable.ack (durable : Durable world) {name : ConsumerName} {turn : Turn}
    {message : Delivery} {rest : List Delivery}
    (phase : world.consumers name = .ack message rest) :
    Durable { world.send name turn.fate (Broker.xack message.messageId) (.deliver rest) with
      acked := turn.fate.settle (message.messageId :: ·) world.acked } := by
  have settled : world.Settled message.messageId :=
    durable.decided name message.messageId (by rw [phase]; exact ⟨message, rest, rfl, .inr rfl⟩)
  have letters : (turn.fate.settle (Broker.xack message.messageId) world.broker).deadLetters =
      world.broker.deadLetters :=
    Fate.settle_preserves (fun broker : Broker => broker.deadLetters = _) _ rfl rfl
  have mono {id : MessageId} (old : world.Settled id) :
      World.Settled { world.send name turn.fate (Broker.xack message.messageId)
        (.deliver rest) with
          acked := turn.fate.settle (message.messageId :: ·) world.acked } id := by
    refine old.mono (fun _ member => member) ?_
    intro entry member
    change entry ∈ (turn.fate.settle (Broker.xack message.messageId) world.broker).deadLetters
    rw [letters]
    exact member
  refine ⟨?_, ?_, ?_⟩
  · intro id below
    have counts : (turn.fate.settle (Broker.xack message.messageId) world.broker).delivered =
        world.broker.delivered :=
      Fate.settle_preserves (fun broker : Broker => broker.delivered = _) _ rfl rfl
    change id < (turn.fate.settle _ world.broker).delivered at below
    rw [counts] at below
    by_cases same : id = message.messageId
    · subst same
      exact .inr (mono settled)
    · rcases durable.unlost id below with pending | old
      · left
        refine Fate.settle_preserves
          (fun broker : Broker => (broker.pending id).isSome = true) _ pending ?_
        simpa [Broker.xack, same] using pending
      · exact .inr (mono old)
  · intro other id decided
    have undecided : (turn.fate.branch (Phase.deliver rest) .ensurePending).undecided =
        true := by
      rcases turn.fate.branch_cases (Phase.deliver rest) .ensurePending with
        ⟨_, same⟩ | ⟨_, same⟩ <;> rw [same] <;> rfl
    rcases decided_update decided (Phase.undecided_not undecided) with old | impossible
    · exact mono (durable.decided other id old)
    · exact impossible.elim
  · intro id member
    have inside : id = message.messageId ∨ id ∈ world.acked := by
      rcases turn.fate.settle_cases (message.messageId :: ·) world.acked with same | same
      · exact .inr (same ▸ member)
      · exact List.mem_cons.mp (same ▸ member)
    rcases inside with rfl | old
    · exact mono settled
    · exact mono (durable.acked id old)

theorem Durable.turn (durable : Durable world) {name : ConsumerName} {turn : Turn}
    (taken : world.turn toInt maxRetries name turn (world.consumers name) = some next) :
    Durable next := by
  cases phase : world.consumers name with
  | stopped => rw [phase] at taken; cases taken
  | ensurePending =>
      rw [phase] at taken
      cases taken
      exact durable.send (.same rfl rfl fun _ member => member) rfl
  | xpending =>
      rw [phase] at taken
      simp only [World.turn] at taken
      split at taken <;> cases taken <;> exact durable.send (.refl _) rfl
  | xclaim ids =>
      rw [phase] at taken
      cases taken
      exact durable.send (.xclaim name ids _) Phase.undecided_pending
  | ensureNew =>
      rw [phase] at taken
      cases taken
      exact durable.send (.same rfl rfl fun _ member => member) rfl
  | xreadgroup =>
      rw [phase] at taken
      cases taken
      exact durable.send (.xreadgroup name 10 _) rfl
  | deliver batch =>
      rw [phase] at taken
      cases batch with
      | nil =>
          cases taken
          exact durable.goto rfl
      | cons message rest =>
          simp only [World.turn] at taken
          split at taken
          next =>
            cases taken
            exact durable.goto rfl
          next =>
            split at taken <;> cases taken <;> exact durable.goto rfl
  | handler message retryCount rest =>
      rw [phase] at taken
      exact durable.handler taken
  | hincrby message =>
      rw [phase] at taken
      cases taken
      exact durable.send (.same rfl rfl fun _ member => member) rfl
  | expire message =>
      rw [phase] at taken
      cases taken
      exact durable.send (.same rfl rfl fun _ member => member) rfl
  | deadLetter message reason rest =>
      rw [phase] at taken
      cases taken
      exact durable.deadLetter
  | cleanup message rest =>
      rw [phase] at taken
      cases taken
      exact durable.cleanup phase
  | ack message rest =>
      rw [phase] at taken
      cases taken
      exact durable.ack phase

theorem Durable.step (durable : Durable world) {label : Label}
    (taken : world.step toInt maxRetries label = some next) : Durable next := by
  cases label with
  | publish payload =>
      cases taken
      exact durable.keeps (.same rfl rfl fun _ member => member) (fun _ member => member) rfl
        fun _ _ decided => .inl decided
  | start name =>
      simp only [World.step] at taken
      split at taken <;> cases taken
      exact durable.goto rfl
  | turn name turn => exact durable.turn taken
  | crash name =>
      cases taken
      exact durable.goto rfl
  | expireRetry id =>
      simp only [World.step] at taken
      split at taken <;> cases taken
      exact durable.keeps (.same rfl rfl fun _ member => member) (fun _ member => member) rfl
        fun _ _ decided => .inl decided

theorem Durable.initial : Durable .initial where
  unlost := by
    intro id below
    cases below
  decided := by
    rintro name id ⟨message, rest, _, same | same⟩ <;> cases same
  acked := by
    intro id member
    cases member

theorem reachable_durable (reached : (eventBus toInt maxRetries).Reachable world) :
    Durable world := by
  refine reached.invariant ?_ ?_
  · rintro _ rfl
    exact .initial
  · intro before next label _ durable _ taken
    exact durable.step taken

/-- Outside its `XACK` phase a consumer acknowledges nothing. -/
theorem turn_acked {name : ConsumerName} {turn : Turn} {phase : Phase}
    (taken : world.turn toInt maxRetries name turn phase = some next) :
    next.acked = world.acked ∨ ∃ message rest, phase = .ack message rest ∧
      next.acked = turn.fate.settle (message.messageId :: ·) world.acked := by
  cases phase with
  | stopped => cases taken
  | ensurePending => cases taken; exact .inl rfl
  | xpending =>
      simp only [World.turn] at taken
      split at taken <;> cases taken <;> exact .inl rfl
  | xclaim ids => cases taken; exact .inl rfl
  | ensureNew => cases taken; exact .inl rfl
  | xreadgroup => cases taken; exact .inl rfl
  | deliver batch =>
      cases batch with
      | nil => cases taken; exact .inl rfl
      | cons message rest =>
          simp only [World.turn] at taken
          split at taken
          next => cases taken; exact .inl rfl
          next => split at taken <;> cases taken <;> exact .inl rfl
  | handler message retryCount rest =>
      simp only [World.turn] at taken
      split at taken
      next =>
        split at taken
        next => cases taken; exact .inl rfl
        next => split at taken <;> cases taken <;> exact .inl rfl
      next => cases taken; exact .inl rfl
  | hincrby message => cases taken; exact .inl rfl
  | expire message => cases taken; exact .inl rfl
  | deadLetter message reason rest => cases taken; exact .inl rfl
  | cleanup message rest => cases taken; exact .inl rfl
  | ack message rest =>
      cases taken
      exact .inr ⟨message, rest, rfl, rfl⟩

/-- A step acknowledges only a message that is settled before it. -/
theorem Durable.acked_step (durable : Durable world) {label : Label}
    (taken : world.step toInt maxRetries label = some next) {id : MessageId}
    (member : id ∈ next.acked) : id ∈ world.acked ∨ world.Settled id := by
  have unchanged (same : next.acked = world.acked) : id ∈ world.acked ∨ world.Settled id :=
    .inl (same ▸ member)
  cases label with
  | publish payload => cases taken; exact unchanged rfl
  | start name =>
      simp only [World.step] at taken
      split at taken <;> cases taken
      exact unchanged rfl
  | crash name => cases taken; exact unchanged rfl
  | expireRetry retry =>
      simp only [World.step] at taken
      split at taken <;> cases taken
      exact unchanged rfl
  | turn name turn =>
      rcases turn_acked taken with same | ⟨message, rest, phase, same⟩
      · exact unchanged same
      · rcases turn.fate.settle_cases (message.messageId :: ·) world.acked with kept | added
        · exact unchanged (same.trans kept)
        · rw [same, added] at member
          rcases List.mem_cons.mp member with rfl | old
          · right
            refine durable.decided name message.messageId ?_
            rw [phase]
            exact ⟨message, rest, rfl, .inr rfl⟩
          · exact .inl old

/-- Delivery is at least once: a message is acknowledged only when it is already handled
or dead-lettered, and none is lost. -/
theorem at_least_once (toInt : String → Option Int) (maxRetries : Int) {world : World}
    (reached : (eventBus toInt maxRetries).Reachable world) :
    (∀ id ∈ world.acked, world.Settled id) ∧
      (∀ label next, (eventBus toInt maxRetries).step world label = some next →
        ∀ id ∈ next.acked, id ∈ world.acked ∨ world.Settled id) ∧
      ∀ id < world.broker.stream.length, world.broker.delivered ≤ id ∨
        (world.broker.pending id).isSome = true ∨ world.Settled id := by
  have durable := reachable_durable reached
  refine ⟨durable.acked, ?_, ?_⟩
  · intro label next taken id member
    exact durable.acked_step taken member
  · intro id _
    by_cases read : id < world.broker.delivered
    · exact .inr (durable.unlost id read)
    · exact .inl (not_lt.mp read)

end

def quietTurn (name : ConsumerName) : Label := .turn name ⟨.ok, none, "now"⟩

/-- One login event is read, handled and acknowledged, after a crash in between. -/
def crashedDelivery : List Label :=
  [.publish [("user_id", "7")], .start 0, quietTurn 0, quietTurn 0, quietTurn 0, quietTurn 0,
    .crash 0, .start 1, quietTurn 1, quietTurn 1, quietTurn 1, quietTurn 1, quietTurn 1,
    quietTurn 1, quietTurn 1]

theorem at_least_once_crashed :
    ∃ world, (eventBus String.toInt? 3).exec .initial crashedDelivery = some world ∧
      world.acked = [0] ∧ world.Settled 0 := by
  have run : ∃ world, (eventBus String.toInt? 3).exec .initial crashedDelivery = some world ∧
      world.acked = [0] := ⟨_, rfl, by decide⟩
  obtain ⟨world, run, acked⟩ := run
  refine ⟨world, run, acked, ?_⟩
  refine (at_least_once String.toInt? 3 (Machine.Reachable.exec (.start rfl) run)).1 0 ?_
  rw [acked]
  exact List.mem_singleton_self 0

end Events
