import Mathlib.Data.List.Basic

set_option autoImplicit false

/-! Parties with inboxes. What one of them posts is on its way to each other party that listens,
which receives its messages one at a time and in any order. -/

structure Party (State Message : Type) where
  state : State
  inbox : List Message
  deriving DecidableEq, Repr

abbrev Network (State Message : Type) := List (Party State Message)

namespace Network

variable {State Message : Type}

def update (network : Network State Message) (index : Nat) (change : State → State) :
    Network State Message :=
  network.modify index fun party => { party with state := change party.state }

/-- A message to every other party that listens. -/
def post (network : Network State Message) (sender : Nat) (listens : State → Bool)
    (message : Message) : Network State Message :=
  network.mapIdx fun index party =>
    if index ≠ sender ∧ listens party.state then
      { party with inbox := party.inbox ++ [message] }
    else party

/-- The messages on their way, each replaced by what `change` makes of it. -/
def relabel (network : Network State Message) (change : Message → Message) :
    Network State Message :=
  network.map fun party => { party with inbox := party.inbox.map change }

/-- A party handles the message at a position of its inbox. -/
def deliver (network : Network State Message) (index position : Nat)
    (handle : Message → State → State) : Option (Network State Message) := do
  let party ← network[index]?
  let message ← party.inbox[position]?
  pure (network.set index ⟨handle message party.state, party.inbox.eraseIdx position⟩)

/-- What holds of each party. -/
def Each (holds : Nat → Party State Message → Prop) (network : Network State Message) : Prop :=
  ∀ index party, network[index]? = some party → holds index party

variable {network next : Network State Message} {holds : Nat → Party State Message → Prop}
  {index position sender : Nat} {change : State → State} {handle : Message → State → State}
  {listens : State → Bool} {message : Message}

@[simp] theorem update_self : (network.update index change)[index]? =
    network[index]?.map fun party => { party with state := change party.state } := by
  simp only [update, List.getElem?_modify, if_true, Option.map_eq_map]

@[simp] theorem update_other {other : Nat} (differ : index ≠ other) :
    (network.update index change)[other]? = network[other]? := by
  simp only [update, List.getElem?_modify, if_neg differ, Option.map_eq_map, Option.map_id']

theorem update_update {change' : State → State} :
    (network.update index change).update index change' =
      network.update index (change' ∘ change) := by
  rw [update, update, List.modify_modify_eq]
  rfl

theorem post_get : (network.post sender listens message)[index]? =
    network[index]?.map fun party =>
      if index ≠ sender ∧ listens party.state then
        { party with inbox := party.inbox ++ [message] }
      else party := by
  rw [post, List.getElem?_mapIdx]

theorem relabel_get {change : Message → Message} : (network.relabel change)[index]? =
    network[index]?.map fun party => { party with inbox := party.inbox.map change } := by
  rw [relabel, List.getElem?_map]

/-- What a delivery consists of. -/
theorem deliver_some : network.deliver index position handle = some next ↔
    ∃ party message, network[index]? = some party ∧ party.inbox[position]? = some message ∧
      next = network.set index ⟨handle message party.state, party.inbox.eraseIdx position⟩ := by
  simp only [deliver, Option.bind_eq_bind, Option.bind_eq_some_iff, Option.pure_def,
    Option.some.injEq]
  constructor
  · rintro ⟨party, found, message, there, rfl⟩
    exact ⟨party, message, found, there, rfl⟩
  · rintro ⟨party, message, found, there, rfl⟩
    exact ⟨party, found, message, there, rfl⟩

theorem Each.update (each : network.Each holds)
    (moved : ∀ party, network[index]? = some party → holds index party →
      holds index { party with state := change party.state }) :
    (network.update index change).Each holds := by
  intro other party found
  by_cases same : index = other
  · subst same
    rw [update_self] at found
    obtain ⟨before, there, rfl⟩ := Option.map_eq_some_iff.mp found
    exact moved before there (each index before there)
  · rw [update_other same] at found
    exact each other party found

/-- A post changes no state and only adds to the inboxes. -/
theorem Each.post (each : network.Each holds)
    (added : ∀ other party, other ≠ sender → listens party.state = true → holds other party →
      holds other { party with inbox := party.inbox ++ [message] }) :
    (network.post sender listens message).Each holds := by
  intro other party found
  rw [post_get] at found
  obtain ⟨before, there, rfl⟩ := Option.map_eq_some_iff.mp found
  have holding := each other before there
  split
  next reached => exact added other before reached.1 reached.2 holding
  next => exact holding

theorem Each.relabel {change : Message → Message} (each : network.Each holds)
    (kept : ∀ other party, holds other party →
      holds other { party with inbox := party.inbox.map change }) :
    (network.relabel change).Each holds := by
  intro other party found
  rw [relabel_get] at found
  obtain ⟨before, there, rfl⟩ := Option.map_eq_some_iff.mp found
  exact kept other before (each other before there)

theorem Each.deliver (each : network.Each holds)
    (taken : network.deliver index position handle = some next)
    (handled : ∀ party message, network[index]? = some party →
      party.inbox[position]? = some message → holds index party →
      holds index ⟨handle message party.state, party.inbox.eraseIdx position⟩) :
    next.Each holds := by
  obtain ⟨before, message, there, waiting, rfl⟩ := deliver_some.mp taken
  intro other party found
  by_cases same : index = other
  · subst same
    have inside := (List.getElem?_eq_some_iff.mp there).1
    rw [List.getElem?_set_self inside] at found
    cases found
    exact handled before message there waiting (each index before there)
  · rw [List.getElem?_set_ne same] at found
    exact each other party found

/-- A party that joins. -/
theorem Each.append (each : network.Each holds) {party : Party State Message}
    (joins : ∀ index, holds index party) : Network.Each holds (network ++ [party]) := by
  intro other found there
  rcases Nat.lt_or_ge other network.length with inside | outside
  · rw [List.getElem?_append_left inside] at there
    exact each other found there
  · rw [List.getElem?_append_right outside] at there
    have only := List.mem_of_getElem? there
    rw [List.mem_singleton.mp only]
    exact joins other

theorem Each.mono {weaker : Nat → Party State Message → Prop} (each : network.Each holds)
    (implies : ∀ index party, holds index party → weaker index party) : network.Each weaker := by
  intro other party found
  exact implies other party (each other party found)

/-- What holds of one party. -/
def At (holds : Party State Message → Prop) (index : Nat) (network : Network State Message) :
    Prop :=
  ∃ party, network[index]? = some party ∧ holds party

section

variable {holds : Party State Message → Prop} {other : Nat}

theorem At.mono {weaker : Party State Message → Prop} (at_ : network.At holds other)
    (implies : ∀ party, holds party → weaker party) : network.At weaker other := by
  obtain ⟨party, there, holding⟩ := at_
  exact ⟨party, there, implies party holding⟩

theorem At.update (at_ : network.At holds other)
    (moved : index = other → ∀ party, network[other]? = some party → holds party →
      holds { party with state := change party.state }) :
    (network.update index change).At holds other := by
  obtain ⟨party, there, holding⟩ := at_
  by_cases same : index = other
  · subst same
    refine ⟨{ party with state := change party.state }, ?_, moved rfl party there holding⟩
    rw [update_self, there]
    rfl
  · exact ⟨party, (update_other same).trans there, holding⟩

theorem At.post (at_ : network.At holds other)
    (added : ∀ party, holds party → holds { party with inbox := party.inbox ++ [message] }) :
    (network.post sender listens message).At holds other := by
  obtain ⟨party, there, holding⟩ := at_
  by_cases reached : other ≠ sender ∧ listens party.state = true
  · refine ⟨{ party with inbox := party.inbox ++ [message] }, ?_, added party holding⟩
    rw [post_get, there, Option.map_some, if_pos reached]
  · refine ⟨party, ?_, holding⟩
    rw [post_get, there, Option.map_some, if_neg reached]

/-- The party learns of a message that is posted to it. -/
theorem At.posted (at_ : network.At holds other) (differ : other ≠ sender)
    (hears : ∀ party, holds party → listens party.state = true) :
    (network.post sender listens message).At (message ∈ ·.inbox) other := by
  obtain ⟨party, there, holding⟩ := at_
  refine ⟨{ party with inbox := party.inbox ++ [message] }, ?_, ?_⟩
  · rw [post_get, there, Option.map_some, if_pos ⟨differ, hears party holding⟩]
  · exact List.mem_append_right _ (List.mem_singleton.mpr rfl)

theorem At.relabel {weaker : Party State Message → Prop} {change : Message → Message}
    (at_ : network.At holds other)
    (kept : ∀ party, holds party → weaker { party with inbox := party.inbox.map change }) :
    (network.relabel change).At weaker other := by
  obtain ⟨party, there, holding⟩ := at_
  refine ⟨{ party with inbox := party.inbox.map change }, ?_, kept party holding⟩
  rw [relabel_get, there]
  rfl

theorem At.deliver (at_ : network.At holds other)
    (taken : network.deliver index position handle = some next) (differ : index ≠ other) :
    next.At holds other := by
  obtain ⟨party, there, holding⟩ := at_
  obtain ⟨_, _, _, _, rfl⟩ := deliver_some.mp taken
  exact ⟨party, (List.getElem?_set_ne differ).trans there, holding⟩

theorem At.append (at_ : network.At holds other) (party : Party State Message) :
    Network.At holds other (network ++ [party]) := by
  obtain ⟨found, there, holding⟩ := at_
  have inside := (List.getElem?_eq_some_iff.mp there).1
  exact ⟨found, (List.getElem?_append_left inside).trans there, holding⟩

end

/-- The messages that are left when one is taken out. -/
theorem mem_eraseIdx_of_ne {inbox : List Message} {other : Message} (member : other ∈ inbox)
    (there : inbox[position]? = some message) (differ : other ≠ message) :
    other ∈ inbox.eraseIdx position := by
  obtain ⟨place, found⟩ := List.mem_iff_getElem?.mp member
  apply List.mem_eraseIdx_iff_getElem?.mpr
  refine ⟨place, ?_, found⟩
  rintro rfl
  exact differ (Option.some.inj (found.symm.trans there))

end Network
