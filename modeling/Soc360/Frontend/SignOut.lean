import Soc360.Frontend.Session

set_option autoImplicit false

/-! What a sign-out leaves in the tabs. -/

namespace Frontend

/-- `acceptTokenResponse` adopts the body. -/
def Body.issues : Body → Bool
  | json (some value) => value ≠ ""
  | _ => false

def Response.issues : Response → Bool
  | failed => false
  | answer status body => (answer status body).ok && body.issues

/-- `cleared` is on its way. -/
def Clearing (inbox : List Envelope) : Prop := ∃ envelope ∈ inbox, envelope.message = .cleared

instance (inbox : List Envelope) : Decidable (Clearing inbox) :=
  inferInstanceAs (Decidable (∃ envelope ∈ inbox, _))

namespace World

variable (world : World)

def signedOut : Bool := world.calls.any Call.signedOut

/-- The tab to which a step gives a bearer, from a response or from another tab. -/
def gives : Label → Option Nat
  | .deliver tab position =>
      match world.tabs[tab]?.bind (·.inbox[position]?) with
      | some ⟨_, .token _, _⟩ => some tab
      | _ => none
  | .readRefresh tab =>
      match world.flight tab with
      | some (.performing (.reading body)) => if body.issues then some tab else none
      | _ => none
  | .receive call =>
      match world.calls[call]? with
      | some ⟨tab, .login, .answered reply _⟩ => if reply.response.issues then some tab else none
      | _ => none
  | _ => none

end World

/-- Once a sign-out has resolved, a bearer comes only to a tab to which `cleared` is on its way. -/
def Fits (world : World) (label : Label) : Prop :=
  world.signedOut = true → ∀ tab ∈ world.gives label, ∀ party ∈ world.tabs[tab]?,
    Clearing party.inbox

instance (world : World) (label : Label) : Decidable (Fits world label) :=
  inferInstanceAs (Decidable (_ → ∀ _ ∈ world.gives label, _))

/-- A tab with a bearer or with messages listens, and after a sign-out one with a bearer is about to
learn of it. -/
structure Covered (signedOut : Prop) (party : Party Tab Envelope) : Prop where
  listens : party.state.bearer ≠ none → party.state.channel = true
  reached : party.inbox ≠ [] → party.state.channel = true
  clearing : signedOut → party.state.bearer ≠ none → Clearing party.inbox

abbrev AllCovered (signedOut : Prop) (tabs : Tabs) : Prop := tabs.Each fun _ => Covered signedOut

section

variable {signedOut : Prop} {tabs tabs' : Tabs} {tab position : Nat} {party : Party Tab Envelope}
  {change : Tab → Tab} {message : Message}

theorem Clearing.append {inbox : List Envelope} (clearing : Clearing inbox) (envelope : Envelope) :
    Clearing (inbox ++ [envelope]) := by
  obtain ⟨found, member, cleared⟩ := clearing
  exact ⟨found, List.mem_append_left _ member, cleared⟩

theorem Covered.mono {weaker : Prop} (covered : Covered signedOut party)
    (implies : weaker → signedOut) : Covered weaker party :=
  ⟨covered.listens, covered.reached, fun holds => covered.clearing (implies holds)⟩

/-- A tab that a message is sent to. -/
theorem Covered.append (covered : Covered signedOut party) (listens : party.state.channel = true)
    (envelope : Envelope) :
    Covered signedOut { party with inbox := party.inbox ++ [envelope] } :=
  ⟨covered.listens, fun _ => listens, fun out held => (covered.clearing out held).append envelope⟩

theorem AllCovered.mono {weaker : Prop} (covered : AllCovered signedOut tabs)
    (implies : weaker → signedOut) : AllCovered weaker tabs :=
  Network.Each.mono covered fun _ _ holds => holds.mono implies

/-- A tab whose bearer and channel stay. -/
theorem AllCovered.keep (covered : AllCovered signedOut tabs)
    (bearer : ∀ state, (change state).bearer = state.bearer)
    (channel : ∀ state, (change state).channel = state.channel) :
    AllCovered signedOut (tabs.update tab change) := by
  apply covered.update
  intro party _ before
  refine ⟨?_, ?_, ?_⟩
  · intro held
    rw [bearer] at held
    rw [channel]
    exact before.listens held
  · intro some
    rw [channel]
    exact before.reached some
  · intro out held
    rw [bearer] at held
    exact before.clearing out held

theorem AllCovered.perform (covered : AllCovered signedOut tabs) (refresh : Refresh) :
    AllCovered signedOut (tabs.update tab (Tab.perform refresh)) :=
  covered.keep (fun _ => rfl) (fun _ => rfl)

theorem refreshSession_keeps (locks : Bool) (cookie : Option Nat) (state : Tab) :
    (state.refreshSession locks cookie).bearer = state.bearer ∧
      (state.refreshSession locks cookie).channel = state.channel := by
  unfold Tab.refreshSession Tab.startRefresh
  split
  next => exact ⟨rfl, rfl⟩
  next =>
    split
    next => exact ⟨rfl, rfl⟩
    next => exact ⟨rfl, rfl⟩

theorem AllCovered.refreshSession (covered : AllCovered signedOut tabs) (locks : Bool)
    (cookie : Option Nat) :
    AllCovered signedOut (tabs.update tab (Tab.refreshSession locks cookie)) :=
  covered.keep (fun state => (refreshSession_keeps locks cookie state).1)
    (fun state => (refreshSession_keeps locks cookie state).2)

/-- The tab that adopts a bearer opens its channel, and is covered if it is about to drop it. -/
theorem AllCovered.setBearer (covered : AllCovered signedOut tabs) (value : String)
    (fits : signedOut → ∀ party ∈ tabs[tab]?, Clearing party.inbox) :
    AllCovered signedOut (Tabs.setBearer tab tabs value) := by
  rw [Tabs.setBearer, Tabs.publish, Network.update_update]
  apply Network.Each.post
  · apply covered.update
    intro party there before
    exact ⟨fun _ => rfl, fun _ => rfl, fun out _ => fits out party there⟩
  · intro other party _ listens before
    exact before.append listens _

/-- After `clearSession` every tab with a bearer is about to learn of it. -/
theorem AllCovered.clearSession (covered : AllCovered signedOut tabs) :
    AllCovered True (Tabs.clearSession tab tabs) := by
  rw [Tabs.clearSession, Tabs.publish, Network.update_update]
  intro other party found
  rw [Network.post_get] at found
  obtain ⟨opened, there, rfl⟩ := Option.map_eq_some_iff.mp found
  by_cases same : tab = other
  · subst same
    rw [Network.update_self] at there
    obtain ⟨before, _, rfl⟩ := Option.map_eq_some_iff.mp there
    rw [if_neg fun reached => reached.1 rfl]
    exact ⟨fun held => absurd rfl held, fun _ => rfl, fun _ held => absurd rfl held⟩
  · rw [Network.update_other same] at there
    have before := covered other opened there
    split
    next reached =>
      refine ⟨before.listens, fun _ => reached.2, ?_⟩
      intro _ _
      exact ⟨_, List.mem_append_right _ (List.mem_singleton.mpr rfl), rfl⟩
    next unreached =>
      refine ⟨before.listens, before.reached, ?_⟩
      intro _ held
      exact absurd ⟨Ne.symm same, before.listens held⟩ unreached

theorem AllCovered.accept (covered : AllCovered signedOut tabs) (issued : Option String)
    (fits : (Body.json issued).issues = true → signedOut → ∀ party ∈ tabs[tab]?,
      Clearing party.inbox) :
    AllCovered signedOut (Tabs.acceptTokenResponse tab tabs issued).2 := by
  cases issued with
  | none => exact covered
  | some value =>
      by_cases empty : value = ""
      · simp only [Tabs.acceptTokenResponse, if_pos empty]
        exact covered
      · simp only [Tabs.acceptTokenResponse, if_neg empty]
        exact covered.setBearer value (fits (decide_eq_true empty))

theorem AllCovered.readBody (covered : AllCovered signedOut tabs) (body : Body)
    (fits : body.issues = true → signedOut → ∀ party ∈ tabs[tab]?, Clearing party.inbox) :
    AllCovered signedOut (Tabs.readBody tab tabs body).2 := by
  cases body with
  | notJson => exact covered
  | json issued => exact covered.accept issued fits

theorem AllCovered.refreshed (covered : AllCovered signedOut tabs) (response : Response) :
    AllCovered signedOut (Tabs.refreshed tab tabs response).2 := by
  unfold Tabs.refreshed
  split
  next => exact covered
  next status body =>
    split
    next => exact covered.clearSession.mono fun _ => trivial
    next =>
      split
      next => exact covered
      next => exact covered

/-- A tab that handles a message. The `cleared` that covers it is not a token. -/
theorem AllCovered.deliver (covered : AllCovered signedOut tabs)
    (taken : tabs.deliver tab position Tab.onMessage = some tabs')
    (fits : ∀ party envelope token, tabs[tab]? = some party →
      party.inbox[position]? = some envelope → envelope.message = .token token →
      signedOut → Clearing party.inbox) :
    AllCovered signedOut tabs' := by
  apply Network.Each.deliver covered taken
  intro party envelope there waiting before
  have listens : party.state.channel = true := by
    apply before.reached
    intro empty
    rw [empty] at waiting
    cases waiting
  unfold Tab.onMessage
  split
  next token message =>
    refine ⟨fun _ => listens, fun _ => listens, ?_⟩
    intro out _
    obtain ⟨found, member, cleared⟩ := fits party envelope token there waiting message out
    refine ⟨found, Network.mem_eraseIdx_of_ne member waiting ?_, cleared⟩
    rintro rfl
    rw [cleared] at message
    cases message
  next => exact ⟨fun held => absurd rfl held, fun _ => listens, fun _ held => absurd rfl held⟩

theorem AllCovered.relabel (covered : AllCovered signedOut tabs) {change : Envelope → Envelope}
    (same : ∀ envelope, (change envelope).message = envelope.message) :
    AllCovered signedOut (tabs.relabel change) := by
  apply Network.Each.relabel covered
  intro other party before
  refine ⟨before.listens, ?_, ?_⟩
  · intro some
    exact before.reached fun empty => some (by rw [empty]; rfl)
  · intro out held
    obtain ⟨envelope, member, cleared⟩ := before.clearing out held
    exact ⟨change envelope, List.mem_map_of_mem member, (same envelope).trans cleared⟩

/-- A call that goes on with a response. It ends a sign-out only with `clearSession`. -/
theorem received_covered {locks retry : Bool} {cookie : Option Nat} {call : Call}
    {response : Response} (covered : AllCovered signedOut tabs)
    (fits : call.purpose = .login → response.issues = true → signedOut →
      ∀ party ∈ tabs[call.tab]?, Clearing party.inbox) :
    let gone := call.received locks cookie response retry tabs
    AllCovered (signedOut ∨ { call with stage := gone.1 }.signedOut = true) gone.2 := by
  cases purpose : call.purpose with
  | refreshSession =>
      simp only [Call.received, purpose, Call.signedOut, Bool.false_eq_true, or_false]
      exact covered
  | restoreSession =>
      simp only [Call.received, purpose, Call.signedOut, Bool.false_eq_true, or_false]
      exact covered
  | apiFetch auth =>
      simp only [Call.received, purpose, Call.signedOut, Bool.false_eq_true, or_false]
      split
      next => exact covered.refreshSession locks cookie
      next => exact covered
  | login =>
      simp only [Call.received, purpose, Call.signedOut, Bool.false_eq_true, or_false]
      split
      next status issued =>
        split
        next ok =>
          apply covered.accept issued
          intro issues
          exact fits purpose (by rw [Response.issues, ok, issues]; rfl)
        next => exact covered
      next => exact covered
  | signOut =>
      simp only [Call.received, purpose]
      split
      next =>
        simp only [Call.signedOut, Bool.false_eq_true, or_false]
        exact covered.refreshSession locks cookie
      next => exact covered.clearSession.mono fun _ => trivial

theorem resumed_covered {cookie : Option Nat} {call : Call} {bearer result : Option String}
    (covered : AllCovered signedOut tabs) :
    let gone := call.resumed cookie bearer result tabs
    AllCovered (signedOut ∨ { call with stage := gone.1 }.signedOut = true) gone.2 := by
  cases purpose : call.purpose with
  | refreshSession =>
      simp only [Call.resumed, purpose, Call.signedOut, Bool.false_eq_true, or_false]
      exact covered
  | restoreSession =>
      simp only [Call.resumed, purpose, Call.signedOut, Bool.false_eq_true, or_false]
      exact covered
  | apiFetch auth =>
      cases result with
      | none =>
          simp only [Call.resumed, purpose, Call.signedOut, Bool.false_eq_true, or_false]
          exact covered
      | some fresh =>
          simp only [Call.resumed, purpose, Call.signedOut, Bool.false_eq_true, or_false]
          exact covered
  | login =>
      simp only [Call.resumed, purpose, Call.signedOut, Bool.false_eq_true, or_false]
      exact covered
  | signOut =>
      cases result with
      | none =>
          simp only [Call.resumed, purpose]
          exact covered.clearSession.mono fun _ => trivial
      | some fresh =>
          simp only [Call.resumed, purpose, Call.signedOut, Bool.false_eq_true, or_false]
          exact covered

end

section

variable {locks : Bool} {world next : World} {label : Label}

theorem signedOut_set {calls : List Call} {index : Nat} {call : Call}
    (out : (calls.set index call).any Call.signedOut = true) :
    calls.any Call.signedOut = true ∨ call.signedOut = true := by
  obtain ⟨found, member, settled⟩ := List.any_eq_true.mp out
  rcases List.mem_or_eq_of_mem_set member with member | rfl
  · exact .inl (List.any_eq_true.mpr ⟨found, member, settled⟩)
  · exact .inr settled

theorem signedOut_resolve {calls : List Call} {tab : Nat} {result : Option String}
    (out : (calls.map (Call.resolve · tab result)).any Call.signedOut = true) :
    calls.any Call.signedOut = true := by
  obtain ⟨found, member, settled⟩ := List.any_eq_true.mp out
  obtain ⟨call, before, rfl⟩ := List.mem_map.mp member
  refine List.any_eq_true.mpr ⟨call, before, ?_⟩
  unfold Call.resolve at settled
  split at settled
  next =>
    simp only [Call.signedOut] at settled
    split at settled
    next resolved => cases resolved
    next => cases settled
  next => exact settled

/-- A call that begins is not over. -/
theorem signedOut_begin {tab : Nat} {purpose : Purpose}
    (out : (world.begin locks tab purpose).signedOut = true) : world.signedOut = true := by
  have appended (call : Call) (live : call.signedOut = false)
      (out : (world.calls ++ [call]).any Call.signedOut = true) : world.signedOut = true := by
    rw [List.any_append, List.any_cons, live, List.any_nil, Bool.or_false, Bool.or_false] at out
    exact out
  cases purpose with
  | refreshSession => exact appended _ rfl out
  | restoreSession =>
      simp only [World.begin] at out
      split at out
      next => exact appended _ rfl out
      next => exact appended _ rfl out
  | apiFetch auth => exact appended _ rfl out
  | login => exact appended _ rfl out
  | signOut => exact appended _ rfl out

theorem begin_covered {signedOut : Prop} {tab : Nat} {purpose : Purpose}
    (covered : AllCovered signedOut world.tabs) :
    AllCovered signedOut (world.begin locks tab purpose).tabs := by
  cases purpose with
  | refreshSession => exact covered.refreshSession locks world.cookie
  | restoreSession =>
      simp only [World.begin]
      split
      next => exact covered
      next => exact covered.refreshSession locks world.cookie
  | apiFetch auth => exact covered
  | login => exact covered
  | signOut => exact covered

def Sound (world : World) : Prop := AllCovered (world.signedOut = true) world.tabs

theorem Sound.step (sound : Sound world) (fits : Fits world label)
    (taken : Frontend.step locks world label = some next) : Sound next := by
  cases step_moved taken with
  | load =>
      apply Network.Each.append sound
      intro index
      exact ⟨fun held => absurd rfl held, fun some => absurd rfl some,
        fun _ held => absurd rfl held⟩
  | clearSession tab _ => exact (AllCovered.clearSession sound).mono fun _ => trivial
  | begin tab purpose _ => exact (begin_covered sound).mono signedOut_begin
  | serve index commits response tab purpose request retry reply backend =>
      apply AllCovered.mono sound
      intro out
      rcases signedOut_set out with before | settled
      · exact before
      · cases purpose <;> cases settled
  | receive index tab purpose reply retry there =>
      refine AllCovered.mono (received_covered sound ?_) signedOut_set
      rintro rfl issues out
      refine fits out tab ?_
      simp only [World.gives, there, issues, if_true]
      rfl
  | resume index tab purpose result =>
      exact AllCovered.mono (resumed_covered sound) signedOut_set
  | deliver tab position tabs delivered =>
      refine AllCovered.deliver sound delivered ?_
      rintro party ⟨sender, message, due⟩ token there waiting rfl out
      refine fits out tab ?_ party there
      simp only [World.gives, there, Option.bind_some, waiting]
      rfl
  | grant tab revisionAtStart party => exact AllCovered.perform sound _
  | serveRefresh tab commits response request reply backend => exact AllCovered.perform sound _
  | receiveRefresh tab reply => exact (AllCovered.refreshed sound reply.response).perform _
  | readRefresh tab body performing =>
      refine (AllCovered.readBody sound body ?_).perform _
      intro issues out
      refine fits out tab ?_
      simp only [World.gives, performing, issues, if_true]
      rfl
  | release tab result =>
      have landed : AllCovered (world.signedOut = true) (world.tabs.update tab Tab.land) :=
        AllCovered.keep sound (fun _ => rfl) (fun _ => rfl)
      refine (landed.relabel ?_).mono signedOut_resolve
      intro envelope
      unfold Envelope.released
      split
      next => rfl
      next => rfl

/-- Once a sign-out has resolved, a tab that has no message on its way has no bearer, in every run
that gives none to a tab without `cleared` on its way. -/
theorem sign_out_wins (reached : (machine locks).ReachableBy Fits world)
    (out : ∃ call ∈ world.calls, call.signedOut = true) :
    ∀ party ∈ world.tabs, party.inbox = [] → party.state.bearer = none := by
  have sound : Sound world := by
    apply reached.invariant
    · rintro state ⟨backend, cookie, rfl⟩ index party found
      cases found
    · intro state next label _ before fits taken
      exact before.step fits taken
  intro party member processed
  obtain ⟨index, found⟩ := List.mem_iff_getElem?.mp member
  have covered := sound index party found
  by_contra held
  obtain ⟨envelope, waiting, _⟩ := covered.clearing (List.any_eq_true.mpr out) held
  rw [processed] at waiting
  cases waiting

end

/-! Two tabs, the second of which restores the session. -/

/-- A login in the first tab, and a refresh of the second one that is answered. -/
def restoring : List Label :=
  [.load, .load, .begin 0 .login, .serve 0 true (.answer 200 (.json (some "first"))), .receive 0,
    .begin 1 .restoreSession, .grant 1, .serveRefresh 1 true (.answer 200 (.json (some "second")))]

/-- The answer arrives, and the first tab hears of it. -/
def restored : List Label :=
  [.receiveRefresh 1, .readRefresh 1, .release 1, .resume 1, .deliver 0 0]

def leaving : List Label :=
  [.begin 0 .signOut, .serve 2 true (.answer 200 (.json none)), .receive 2]

/-- The sign-out overtakes the answer. -/
theorem refresh_outlives_sign_out :
    ∃ world, (machine true).exec (.initial ⟨[], 0⟩ none) (restoring ++ leaving ++ restored) =
        some world ∧
      world.calls = [⟨0, .login, .returned (some "first")⟩,
        ⟨1, .restoreSession, .returned (some "second")⟩, ⟨0, .signOut, .returned none⟩] ∧
      world.tabs.length = 2 ∧ ∀ party ∈ world.tabs,
        party.inbox = [] ∧ party.state.inFlight = none ∧ party.state.bearer = some "second" := by
  have run : ((machine true).exec (.initial ⟨[], 0⟩ none) (restoring ++ leaving ++ restored)).map
      (fun world => (world.calls, world.tabs.length, decide (∀ party ∈ world.tabs,
        party.inbox = [] ∧ party.state.inFlight = none ∧ party.state.bearer = some "second"))) =
        some ([⟨0, .login, .returned (some "first")⟩, ⟨1, .restoreSession, .returned (some "second")⟩,
          ⟨0, .signOut, .returned none⟩], 2, true) := by
    decide +kernel
  obtain ⟨world, run, after⟩ := Option.map_eq_some_iff.mp run
  obtain ⟨calls, after⟩ := Prod.mk.inj after
  obtain ⟨two, tabs⟩ := Prod.mk.inj after
  exact ⟨world, run, calls, two, of_decide_eq_true tabs⟩

/-- The sign-out comes after it, and the second tab hears of that. -/
theorem sign_out_wins_after_refresh :
    ∃ world, (machine true).exec (.initial ⟨[], 0⟩ none)
        (restoring ++ restored ++ leaving ++ [.deliver 1 0]) = some world ∧
      world.tabs.length = 2 ∧ ∀ party ∈ world.tabs, party.state.bearer = none := by
  have run : ((machine true).exec (.initial ⟨[], 0⟩ none)
      (restoring ++ restored ++ leaving ++ [.deliver 1 0])).map (fun world =>
        (world.tabs.length, decide (∃ call ∈ world.calls, call.signedOut = true),
          decide (∀ party ∈ world.tabs, party.inbox = []))) = some (2, true, true) := by
    decide +kernel
  obtain ⟨world, run, after⟩ := Option.map_eq_some_iff.mp run
  obtain ⟨two, after⟩ := Prod.mk.inj after
  obtain ⟨out, processed⟩ := Prod.mk.inj after
  have allows : (machine true).Allows Fits (.initial ⟨[], 0⟩ none)
      (restoring ++ restored ++ leaving ++ [.deliver 1 0]) := by
    decide +kernel
  have reached : (machine true).ReachableBy Fits world :=
    Machine.ReachableBy.exec (.start ⟨_, _, rfl⟩) allows run
  refine ⟨world, run, two, ?_⟩
  intro party member
  exact sign_out_wins reached (of_decide_eq_true out) party member
    (of_decide_eq_true processed party member)

end Frontend
