import Soc360.Frontend.SignOut

set_option autoImplicit false

/-! The tabs that wait for the lock while one of them refreshes the session. -/

namespace Frontend

/-- What a tab posted before it released the lock is delivered before the next one gets it. -/
def Delivered (world : World) : Label → Prop
  | .grant _ => ∀ party ∈ world.tabs, ∀ envelope ∈ party.inbox, envelope.due = false
  | _ => True

/-- The token of the holder is on its way, posted before the holder released the lock. -/
def Owed (holder : Nat) (token : String) (held : Prop) (inbox : List Envelope) : Prop :=
  ∃ envelope ∈ inbox, envelope.sender = holder ∧ envelope.message = .token token ∧
    (envelope.due = true ∨ held)

instance (holder : Nat) (token : String) (held : Prop) [Decidable held] (inbox : List Envelope) :
    Decidable (Owed holder token held inbox) :=
  inferInstanceAs (Decidable (∃ envelope ∈ inbox, _))

/-- A tab that waits for the lock, has learned a bearer since it began to, and has this one. -/
def Tab.Adopted (token : String) (tab : Tab) : Prop :=
  ∃ revisionAtStart, tab.inFlight = some (.waiting revisionAtStart) ∧
    revisionAtStart < tab.revision ∧ tab.bearer = some token

def Tab.isWaiting (tab : Tab) : Bool :=
  match tab.inFlight with
  | some (.waiting _) => true
  | _ => false

/-- The next step of the call clears the session of its tab, or gives it a bearer. -/
def Call.settles (call : Call) : Bool :=
  match call.purpose, call.stage with
  | .signOut, .answered reply retry => !(reply.response.unauthorized && !retry)
  | .signOut, .resumed none => true
  | .login, .answered reply _ => reply.response.issues
  | _, _ => false

/-- The token of the holder is still on its way to the tab. -/
def World.owes (world : World) (holder tab : Nat) (token : String) : Prop :=
  ∀ party ∈ world.tabs[tab]?, Owed holder token (world.holder = some holder) party.inbox

instance (world : World) (holder tab : Nat) (token : String) :
    Decidable (world.owes holder tab token) :=
  inferInstanceAs (Decidable (∀ party ∈ world.tabs[tab]?, Owed _ _ _ _))

/-- Until it has the lock, the tab learns the token of the holder while it waits, and after that
nothing else. -/
def Undisturbed (holder tab : Nat) (token : String) (world : World) : Label → Prop
  | .grant other => other ≠ tab
  | .clearSession other => other = tab → world.owes holder tab token
  | .receive index => ∀ call ∈ world.calls[index]?, call.tab = tab → call.settles = true →
      world.owes holder tab token
  | .resume index => ∀ call ∈ world.calls[index]?, call.tab = tab → call.settles = true →
      world.owes holder tab token
  | .deliver other position => other = tab → ∀ party ∈ world.tabs[tab]?,
      Owed holder token (world.holder = some holder) (party.inbox.eraseIdx position) ∨
        party.state.isWaiting = true ∧
          ∀ envelope ∈ party.inbox[position]?, envelope.message = .token token
  | _ => True

instance (holder tab : Nat) (token : String) (world : World) :
    (label : Label) → Decidable (Undisturbed holder tab token world label)
  | .grant other => inferInstanceAs (Decidable (other ≠ tab))
  | .clearSession other => inferInstanceAs (Decidable (other = tab → world.owes holder tab token))
  | .receive index => inferInstanceAs (Decidable (∀ call ∈ world.calls[index]?, call.tab = tab →
      call.settles = true → world.owes holder tab token))
  | .resume index => inferInstanceAs (Decidable (∀ call ∈ world.calls[index]?, call.tab = tab →
      call.settles = true → world.owes holder tab token))
  | .deliver other position => inferInstanceAs (Decidable (other = tab →
      ∀ party ∈ world.tabs[tab]?,
        Owed holder token (world.holder = some holder) (party.inbox.eraseIdx position) ∨
          party.state.isWaiting = true ∧
            ∀ envelope ∈ party.inbox[position]?, envelope.message = .token token))
  | .load => .isTrue trivial
  | .begin _ _ => .isTrue trivial
  | .serve _ _ _ => .isTrue trivial
  | .serveRefresh _ _ _ => .isTrue trivial
  | .receiveRefresh _ => .isTrue trivial
  | .readRefresh _ => .isTrue trivial
  | .release _ => .isTrue trivial

instance (world : World) : (label : Label) → Decidable (Delivered world label)
  | .grant _ => inferInstanceAs
      (Decidable (∀ party ∈ world.tabs, ∀ envelope ∈ party.inbox, envelope.due = false))
  | .load => .isTrue trivial
  | .clearSession _ => .isTrue trivial
  | .begin _ _ => .isTrue trivial
  | .serve _ _ _ => .isTrue trivial
  | .receive _ => .isTrue trivial
  | .resume _ => .isTrue trivial
  | .deliver _ _ => .isTrue trivial
  | .serveRefresh _ _ _ => .isTrue trivial
  | .receiveRefresh _ => .isTrue trivial
  | .readRefresh _ => .isTrue trivial
  | .release _ => .isTrue trivial

/-- The step is one of the tab itself that sets its state, whatever it was. -/
def World.moves (world : World) (tab : Nat) : Label → Prop
  | .clearSession other => other = tab
  | .receive index => ∃ call ∈ world.calls[index]?, call.tab = tab ∧ call.settles = true
  | .resume index => ∃ call ∈ world.calls[index]?, call.tab = tab ∧ call.settles = true
  | .grant other => other = tab
  | .serveRefresh other _ _ => other = tab
  | .receiveRefresh other => other = tab
  | .readRefresh other => other = tab
  | .release other => other = tab
  | _ => False

/-- The step begins or ends a stage of the refresh of the tab. -/
def Label.refreshes (tab : Nat) : Label → Prop
  | grant other => other = tab
  | serveRefresh other _ _ => other = tab
  | receiveRefresh other => other = tab
  | readRefresh other => other = tab
  | release other => other = tab
  | _ => False

/-- A fact about a tab that its calls to `refreshSession` and further messages leave, if `free`
holds any change of its bearer, and if `lands` holds any change of its state. -/
structure Kept (holds : Party Tab Envelope → Prop) (free lands : Prop) : Prop where
  posted : ∀ party envelope, holds party → holds { party with inbox := party.inbox ++ [envelope] }
  released : ∀ sender party, holds party →
    holds { party with inbox := party.inbox.map (Envelope.released sender) }
  refreshed : ∀ locks cookie party, holds party →
    holds { party with state := party.state.refreshSession locks cookie }
  changed : free → ∀ party state, state.inFlight = party.state.inFlight → holds party →
    holds { party with state := state }
  landed : lands → ∀ party state, holds party → holds { party with state := state }

section

variable {holds : Party Tab Envelope → Prop} {free lands : Prop} {tabs : Tabs} {tab other : Nat}
  {holder : Nat} {token : String} {held : Prop}

theorem released_same (sender : Nat) (envelope : Envelope) :
    (envelope.released sender).sender = envelope.sender ∧
      (envelope.released sender).message = envelope.message ∧
      (envelope.due = true → (envelope.released sender).due = true) := by
  unfold Envelope.released
  split
  next => exact ⟨rfl, rfl, fun _ => rfl⟩
  next => exact ⟨rfl, rfl, id⟩

theorem Owed.released {inbox : List Envelope} (owed : Owed holder token held inbox)
    (sender : Nat) : Owed holder token held (inbox.map (Envelope.released sender)) := by
  obtain ⟨envelope, member, sent, message, due⟩ := owed
  obtain ⟨sameSender, sameMessage, dueStays⟩ := released_same sender envelope
  exact ⟨_, List.mem_map_of_mem member, sameSender.trans sent, sameMessage.trans message,
    due.imp dueStays id⟩

/-- When the holder releases the lock, its token becomes due. -/
theorem Owed.due {inbox : List Envelope} (owed : Owed holder token held inbox) (later : Prop) :
    Owed holder token later (inbox.map (Envelope.released holder)) := by
  obtain ⟨envelope, member, sent, message, _⟩ := owed
  obtain ⟨sameSender, sameMessage, _⟩ := released_same holder envelope
  refine ⟨_, List.mem_map_of_mem member, sameSender.trans sent, sameMessage.trans message, .inl ?_⟩
  rw [Envelope.released, if_pos sent]

theorem Owed.mono {inbox : List Envelope} {later : Prop} (owed : Owed holder token held inbox)
    (implies : held → later) : Owed holder token later inbox := by
  obtain ⟨envelope, member, sent, message, due⟩ := owed
  exact ⟨envelope, member, sent, message, due.imp id implies⟩

theorem Owed.kept : Kept (fun party => Owed holder token held party.inbox) True True where
  posted := by
    rintro party envelope ⟨found, member, owed⟩
    exact ⟨found, List.mem_append_left _ member, owed⟩
  released := fun sender _ owed => owed.released sender
  refreshed := fun _ _ _ owed => owed
  changed := fun _ _ _ _ owed => owed
  landed := fun _ _ _ owed => owed

/-- A tab that waits calls `refreshSession` to no effect. -/
theorem Tab.Adopted.kept : Kept (fun party => party.state.Adopted token) False False where
  posted := fun _ _ adopted => adopted
  released := fun _ _ adopted => adopted
  refreshed := by
    rintro locks cookie party ⟨start, waiting, later, bearer⟩
    have same : party.state.refreshSession locks cookie = party.state := by
      rw [Tab.refreshSession, waiting]
    rw [same]
    exact ⟨start, waiting, later, bearer⟩
  changed := fun free => free.elim
  landed := fun lands => lands.elim

theorem settled_kept (result : Option String) :
    Kept (fun party => party.state.inFlight = some (.performing (.settled result))) True False where
  posted := fun _ _ settled => settled
  released := fun _ _ settled => settled
  refreshed := by
    intro locks cookie party settled
    have same : party.state.refreshSession locks cookie = party.state := by
      rw [Tab.refreshSession, settled]
    change (party.state.refreshSession locks cookie).inFlight = _
    rw [same]
    exact settled
  changed := fun _ _ _ same settled => same.trans settled
  landed := fun lands => lands.elim

theorem Kept.update (kept : Kept holds free lands) (change : Tab → Tab)
    (refreshes : other = tab → lands) (at_ : tabs.At holds tab) :
    (tabs.update other change).At holds tab := by
  apply at_.update
  intro same party _ holding
  exact kept.landed (refreshes same) party _ holding

theorem Kept.refreshSession (kept : Kept holds free lands) (locks : Bool) (cookie : Option Nat)
    (at_ : tabs.At holds tab) :
    (tabs.update other (Tab.refreshSession locks cookie)).At holds tab := by
  apply at_.update
  intro _ party _ holding
  exact kept.refreshed locks cookie party holding

/-- What a tab posts changes no state but its own. -/
theorem Kept.publish (kept : Kept holds free lands) (change : Tab → Tab) (message : Message)
    (flight : ∀ state, (change state).inFlight = state.inFlight) (moves : other = tab → free)
    (at_ : tabs.At holds tab) :
    (Tabs.publish other (tabs.update other change) message).At holds tab := by
  rw [Tabs.publish, Network.update_update]
  have changed : (tabs.update other (Tab.channelOrNull ∘ change)).At holds tab := by
    apply at_.update
    intro same party _ holding
    exact kept.changed (moves same) party _ (flight party.state) holding
  apply changed.post
  intro party holding
  exact kept.posted party _ holding

theorem Kept.clearSession (kept : Kept holds free lands) (moves : other = tab → free)
    (at_ : tabs.At holds tab) : (Tabs.clearSession other tabs).At holds tab :=
  kept.publish Tab.drop .cleared (fun _ => rfl) moves at_

theorem Kept.accept (kept : Kept holds free lands) (issued : Option String)
    (moves : (Body.json issued).issues = true → other = tab → free)
    (at_ : tabs.At holds tab) : (Tabs.acceptTokenResponse other tabs issued).2.At holds tab := by
  cases issued with
  | none => exact at_
  | some value =>
      by_cases empty : value = ""
      · simp only [Tabs.acceptTokenResponse, if_pos empty]
        exact at_
      · simp only [Tabs.acceptTokenResponse, if_neg empty]
        exact kept.publish (Tab.adopt value) (.token value) (fun _ => rfl)
          (moves (decide_eq_true empty)) at_

theorem Kept.readBody (kept : Kept holds free lands) (body : Body) (moves : other = tab → free)
    (at_ : tabs.At holds tab) : (Tabs.readBody other tabs body).2.At holds tab := by
  cases body with
  | notJson => exact at_
  | json issued => exact kept.accept issued (fun _ => moves) at_

theorem Kept.performed (kept : Kept holds free lands) (response : Response)
    (moves : other = tab → free)
    (at_ : tabs.At holds tab) : (Tabs.refreshed other tabs response).2.At holds tab := by
  unfold Tabs.refreshed
  split
  next => exact at_
  next status body =>
    split
    next => exact kept.clearSession moves at_
    next =>
      split
      next => exact at_
      next => exact at_

theorem Kept.received (kept : Kept holds free lands) {locks retry : Bool} {cookie : Option Nat}
    {purpose : Purpose} {reply : Reply}
    (moves : other = tab → Call.settles ⟨other, purpose, .answered reply retry⟩ = true → free)
    (at_ : tabs.At holds tab) :
    (Call.received locks cookie ⟨other, purpose, .answered reply retry⟩ reply.response retry
      tabs).2.At holds tab := by
  cases purpose with
  | refreshSession => exact at_
  | restoreSession => exact at_
  | apiFetch auth =>
      simp only [Call.received]
      split
      next => exact kept.refreshSession locks cookie at_
      next => exact at_
  | login =>
      simp only [Call.received]
      split
      next status issued responded =>
        split
        next ok =>
          apply kept.accept issued _ at_
          intro issues same
          apply moves same
          change reply.response.issues = true
          rw [responded] at ok ⊢
          rw [Response.issues, ok, issues]
          rfl
        next => exact at_
      next => exact at_
  | signOut =>
      simp only [Call.received]
      split
      next => exact kept.refreshSession locks cookie at_
      next failed =>
        apply kept.clearSession _ at_
        intro same
        apply moves same
        cases unauthorized : reply.response.unauthorized with
        | false => simp [Call.settles, unauthorized]
        | true =>
            cases retry with
            | false => exact absurd ⟨unauthorized, rfl⟩ failed
            | true => simp [Call.settles]

theorem Kept.resumed (kept : Kept holds free lands) {cookie : Option Nat} {purpose : Purpose}
    {bearer result : Option String}
    (moves : other = tab → Call.settles ⟨other, purpose, .resumed result⟩ = true → free)
    (at_ : tabs.At holds tab) :
    (Call.resumed cookie ⟨other, purpose, .resumed result⟩ bearer result tabs).2.At holds tab := by
  cases purpose with
  | refreshSession => exact at_
  | restoreSession => exact at_
  | apiFetch auth =>
      cases result with
      | none => exact at_
      | some fresh => exact at_
  | login => exact at_
  | signOut =>
      cases result with
      | none => exact kept.clearSession (fun same => moves same rfl) at_
      | some fresh => exact at_

theorem Kept.begin (kept : Kept holds free lands) {locks : Bool} {world : World} {purpose : Purpose}
    (at_ : world.tabs.At holds tab) : (world.begin locks other purpose).tabs.At holds tab := by
  cases purpose with
  | refreshSession => exact kept.refreshSession locks world.cookie at_
  | restoreSession =>
      simp only [World.begin]
      split
      next => exact at_
      next => exact kept.refreshSession locks world.cookie at_
  | apiFetch auth => exact at_
  | login => exact at_
  | signOut => exact at_

theorem Kept.step (kept : Kept holds free lands) {locks : Bool} {world next : World} {label : Label}
    (moves : world.moves tab label → free) (refreshes : label.refreshes tab → lands)
    (delivers : ∀ position, label ≠ .deliver tab position)
    (at_ : world.tabs.At holds tab) (taken : step locks world label = some next) :
    next.tabs.At holds tab := by
  cases step_moved taken with
  | load => exact at_.append _
  | clearSession other _ => exact kept.clearSession moves at_
  | begin other purpose _ => exact kept.begin at_
  | serve index commits response other purpose request retry reply backend => exact at_
  | receive index other purpose reply retry there =>
      apply kept.received _ at_
      intro same settles
      exact moves ⟨_, there, same, settles⟩
  | resume index other purpose result there =>
      apply kept.resumed _ at_
      intro same settles
      exact moves ⟨_, there, same, settles⟩
  | deliver other position tabs' delivered =>
      apply at_.deliver delivered
      rintro rfl
      exact delivers position rfl
  | grant other revisionAtStart party => exact kept.update _ refreshes at_
  | serveRefresh other commits response request reply backend =>
      exact kept.update _ refreshes at_
  | receiveRefresh other reply =>
      exact kept.update _ refreshes (kept.performed reply.response moves at_)
  | readRefresh other body => exact kept.update _ refreshes (kept.readBody body moves at_)
  | release other result =>
      exact (kept.update Tab.land refreshes at_).relabel fun party => kept.released other party

end

/-- The promise of the tab has come to a result. -/
def Settled (tab : Nat) (result : Option String) (world : World) : Prop :=
  world.flight tab = some (.performing (.settled result))

/-- The token of the holder is on its way to the tab, or the tab waits with it. -/
def Told (holder tab : Nat) (token : String) (world : World) : Prop :=
  world.tabs.At (fun party => Owed holder token (world.holder = some holder) party.inbox) tab ∨
    world.tabs.At (fun party => party.state.Adopted token) tab

section

variable {locks : Bool} {world next last final : World} {label : Label} {holder tab : Nat}
  {token : String}

theorem moves_of_refreshes (refreshes : label.refreshes tab) : world.moves tab label := by
  cases label <;> first | exact refreshes | exact refreshes.elim

theorem begin_holder (purpose : Purpose) :
    (world.begin locks tab purpose).holder = world.holder := by
  cases purpose with
  | restoreSession =>
      simp only [World.begin]
      split
      next => rfl
      next => rfl
  | refreshSession => rfl
  | apiFetch auth => rfl
  | login => rfl
  | signOut => rfl

/-- The lock is held until it is released. -/
theorem holder_step (keeps : label ≠ .release holder) (held : world.holder = some holder)
    (taken : step locks world label = some next) : next.holder = some holder := by
  cases step_moved taken with
  | begin other purpose _ => exact (begin_holder purpose).trans held
  | grant other revisionAtStart party free =>
      rw [held] at free
      cases free
  | release other result =>
      have differ : world.holder ≠ some other := by
        intro same
        apply keeps
        rw [Option.some.inj (held.symm.trans same)]
      change (if world.holder = some other then none else world.holder) = some holder
      rw [if_neg differ]
      exact held
  | load => exact held
  | clearSession other _ => exact held
  | serve index commits response other purpose request retry reply backend => exact held
  | receive index other purpose reply retry => exact held
  | resume index other purpose result => exact held
  | deliver other position tabs => exact held
  | serveRefresh other commits response request reply backend => exact held
  | receiveRefresh other reply => exact held
  | readRefresh other body => exact held

/-- A tab whose refresh goes on does not wait. -/
theorem not_adopted {refresh : Refresh} (performing : world.flight tab = some (.performing refresh)) :
    ¬world.tabs.At (fun party => party.state.Adopted token) tab := by
  rintro ⟨party, there, start, waiting, _⟩
  rw [World.flight, there, Option.bind_some, waiting] at performing
  cases performing

/-- A message that reaches the tab. -/
theorem told_deliver {position : Nat}
    (fits : Undisturbed holder tab token world (.deliver tab position))
    (taken : step locks world (.deliver tab position) = some next) : Told holder tab token next := by
  obtain ⟨tabs, delivered, rfl⟩ := Option.map_eq_some_iff.mp taken
  obtain ⟨party, envelope, there, arrives, rfl⟩ := Network.deliver_some.mp delivered
  have inside := (List.getElem?_eq_some_iff.mp there).1
  have after := List.getElem?_set_self (a := (⟨Tab.onMessage envelope party.state,
    party.inbox.eraseIdx position⟩ : Party Tab Envelope)) inside
  rcases fits rfl party there with owed | ⟨waits, only⟩
  · exact .inl ⟨_, after, owed⟩
  · refine .inr ⟨_, after, ?_⟩
    have message : envelope.message = .token token := only envelope arrives
    unfold Tab.isWaiting at waits
    split at waits
    next start waiting =>
      have paced := party.state.paced start waiting
      simp only [Tab.onMessage, message]
      exact ⟨start, waiting, by change start < party.state.revision + 1; omega, rfl⟩
    next => cases waits

/-- While the token is on its way nothing but its delivery takes it away. -/
theorem owed_step (delivers : ∀ position, label ≠ .deliver tab position)
    (owed : world.tabs.At
      (fun party => Owed holder token (world.holder = some holder) party.inbox) tab)
    (taken : step locks world label = some next) :
    next.tabs.At (fun party => Owed holder token (next.holder = some holder) party.inbox) tab := by
  by_cases released : label = .release holder
  · subst released
    cases step_moved taken with
    | release _ result =>
        have landed : Network.At (fun party => Owed holder token (world.holder = some holder)
            party.inbox) tab (world.tabs.update holder Tab.land) :=
          Owed.kept.update Tab.land (fun _ => trivial) owed
        exact landed.relabel fun party owed => owed.due _
  · have stays := Owed.kept.step (fun _ => trivial) (fun _ => trivial) delivers owed taken
    refine stays.mono ?_
    intro party owed
    exact owed.mono fun held => holder_step released held taken

/-- The condition keeps everything else away from a tab that has learned the token. -/
theorem moves_owed (fits : Undisturbed holder tab token world label)
    (adopted : world.tabs.At (fun party => party.state.Adopted token) tab)
    (taken : step locks world label = some next) (moves : world.moves tab label) :
    world.tabs.At (fun party => Owed holder token (world.holder = some holder) party.inbox) tab := by
  obtain ⟨party, there, has⟩ := adopted
  have owes (on : world.owes holder tab token) :
      world.tabs.At (fun party => Owed holder token (world.holder = some holder) party.inbox) tab :=
    ⟨party, there, on party there⟩
  have refuted {refresh : Refresh} (performing : world.flight tab = some (.performing refresh)) :
      world.tabs.At (fun party => Owed holder token (world.holder = some holder) party.inbox) tab :=
    absurd ⟨party, there, has⟩ (not_adopted performing)
  cases step_moved taken with
  | load => cases moves
  | begin other purpose => cases moves
  | serve index commits response => cases moves
  | deliver other position => cases moves
  | clearSession other => exact owes (fits moves)
  | receive index =>
      obtain ⟨call, found, same, settles⟩ := moves
      exact owes (fits call found same settles)
  | resume index =>
      obtain ⟨call, found, same, settles⟩ := moves
      exact owes (fits call found same settles)
  | grant other => exact absurd moves fits
  | serveRefresh other commits response request reply backend performing =>
      cases moves
      exact refuted performing
  | receiveRefresh other reply performing =>
      cases moves
      exact refuted performing
  | readRefresh other body performing =>
      cases moves
      exact refuted performing
  | release other result performing =>
      cases moves
      exact refuted performing

theorem Told.step (told : Told holder tab token world)
    (fits : Undisturbed holder tab token world label)
    (taken : Frontend.step locks world label = some next) : Told holder tab token next := by
  by_cases delivers : ∃ position, label = .deliver tab position
  · obtain ⟨position, rfl⟩ := delivers
    exact told_deliver fits taken
  · have elsewhere (position : Nat) : label ≠ .deliver tab position :=
      fun same => delivers ⟨position, same⟩
    by_cases owed : world.tabs.At
        (fun party => Owed holder token (world.holder = some holder) party.inbox) tab
    · exact .inl (owed_step elsewhere owed taken)
    · have adopted := told.resolve_left owed
      have moves (moves : world.moves tab label) : False :=
        owed (moves_owed fits adopted taken moves)
      exact .inr (Tab.Adopted.kept.step moves (fun refreshes => moves (moves_of_refreshes refreshes))
        elsewhere adopted taken)

theorem Told.run {labels : List Label} (told : Told holder tab token world)
    (allows : (machine locks).Allows (Undisturbed holder tab token) world labels)
    (run : (machine locks).exec world labels = some last) : Told holder tab token last := by
  refine allows.preserves ?_ told run
  intro state next label before fits taken
  exact before.step fits taken

/-- The holder adopts its token and posts it, which a tab that listens is to learn. -/
theorem told_post (holds : world.holder = some holder)
    (reads : world.flight holder = some (.performing (.reading (.json (some token)))))
    (nonempty : token ≠ "") (differ : tab ≠ holder)
    (listens : world.tabs.At (fun party => party.state.channel = true) tab)
    (posts : step locks world (.readRefresh holder) = some next) : Told holder tab token next := by
  simp only [step, reads, Option.some.injEq] at posts
  subst posts
  refine .inl ?_
  simp only [World.performed, Tabs.readBody, Tabs.acceptTokenResponse, if_neg nonempty,
    Tabs.setBearer, Tabs.publish, Network.update_update]
  have opened : Network.At (fun party => party.state.channel = true) tab
      (world.tabs.update holder (Tab.channelOrNull ∘ Tab.adopt token)) := by
    apply listens.update
    intro same
    exact absurd same.symm differ
  apply Network.At.update
  · refine (opened.posted differ fun party listens => listens).mono ?_
    intro party member
    exact ⟨_, member, rfl, rfl, .inr holds⟩
  · intro _ party _ owed
    exact owed

/-- The tab gets the lock when nothing that is due is on its way. -/
theorem Told.grant (told : Told holder tab token world) (delivered : Delivered world (.grant tab))
    (granted : Frontend.step locks world (.grant tab) = some next) :
    next.flight tab = some (.performing (.settled (some token))) := by
  cases step_moved granted with
  | grant _ start party free there waits =>
      rcases told with ⟨found, same, envelope, member, _, _, due⟩ | ⟨found, same, adopted⟩
      · rcases due with due | held
        · rw [delivered found (List.mem_of_getElem? same) envelope member] at due
          cases due
        · rw [free] at held
          cases held
      · obtain rfl := Option.some.inj (there.symm.trans same)
        obtain ⟨start', waiting, later, bearer⟩ := adopted
        rw [World.flight, there, Option.bind_some, waiting] at waits
        cases waits
        have changed : party.state.revision ≠ start := by omega
        have result : party.state.granted start world.cookie = .settled (some token) := by
          rw [Tab.granted, if_pos changed, bearer]
        simp only [World.performed, World.flight, Network.update_self, there, result]
        rfl

theorem onMessage_inFlight (envelope : Envelope) (state : Tab) :
    (state.onMessage envelope).inFlight = state.inFlight := by
  unfold Tab.onMessage
  split
  next => rfl
  next => rfl

/-- A promise keeps its result until the lock is free again. -/
theorem Settled.step {result : Option String} (settled : Settled tab result world)
    (keeps : label ≠ .release tab)
    (taken : Frontend.step locks world label = some next) :
    Settled tab result next := by
  have at_ : world.tabs.At
      (fun party => party.state.inFlight = some (.performing (.settled result))) tab :=
    Option.bind_eq_some_iff.mp settled
  apply Option.bind_eq_some_iff.mpr
  by_cases delivers : ∃ position, label = .deliver tab position
  · obtain ⟨position, rfl⟩ := delivers
    obtain ⟨tabs, delivered, rfl⟩ := Option.map_eq_some_iff.mp taken
    obtain ⟨party, envelope, there, _, rfl⟩ := Network.deliver_some.mp delivered
    obtain ⟨found, same, settled⟩ := at_
    obtain rfl := Option.some.inj (there.symm.trans same)
    have inside := (List.getElem?_eq_some_iff.mp there).1
    exact ⟨_, List.getElem?_set_self inside,
      (onMessage_inFlight envelope party.state).trans settled⟩
  · have elsewhere (position : Nat) : label ≠ .deliver tab position :=
      fun same => delivers ⟨position, same⟩
    refine (settled_kept result).step (fun _ => trivial) ?_ elsewhere at_ taken
    have flight : world.flight tab = some (.performing (.settled result)) := settled
    intro refreshes
    have settles (refresh : Flight) (performing : world.flight tab = some refresh) :
        refresh = .performing (.settled result) :=
      Option.some.inj (performing.symm.trans flight)
    cases step_moved taken with
    | grant other revisionAtStart party free there waits =>
        cases refreshes
        cases settles _ waits
    | serveRefresh other commits response request reply backend performing =>
        cases refreshes
        cases settles _ performing
    | receiveRefresh other reply performing =>
        cases refreshes
        cases settles _ performing
    | readRefresh other body performing =>
        cases refreshes
        cases settles _ performing
    | release other =>
        cases refreshes
        exact keeps rfl
    | load => cases refreshes
    | clearSession other => cases refreshes
    | begin other purpose => cases refreshes
    | serve index commits response => cases refreshes
    | receive index => cases refreshes
    | resume index => cases refreshes
    | deliver other position => cases refreshes

theorem Settled.run {labels : List Label} {result : Option String}
    (settled : Settled tab result world) (keeps : .release tab ∉ labels)
    (run : (machine locks).exec world labels = some last) : Settled tab result last := by
  have allows : (machine locks).Allows (fun _ label => label ≠ .release tab) world labels := by
    apply Machine.allows_of_forall
    rintro label member _ rfl
    exact keeps member
  refine allows.preserves ?_ settled run
  intro state next label before fits taken
  exact before.step fits taken

/-- Once the holder of the lock has read its token, each tab that listens and stays undisturbed
returns that token to all its callers and sends no request of its own. -/
theorem one_rotation_per_round {labels : List Label}
    (holds : world.holder = some holder)
    (reads : world.flight holder = some (.performing (.reading (.json (some token)))))
    (nonempty : token ≠ "") (posts : step true world (.readRefresh holder) = some next)
    (differ : tab ≠ holder)
    (listens : ∃ party, world.tabs[tab]? = some party ∧ party.state.channel = true)
    (undisturbed : (machine true).Allows (Undisturbed holder tab token) next labels)
    (run : (machine true).exec next labels = some last)
    (delivered : Delivered last (.grant tab))
    (granted : step true last (.grant tab) = some final) :
    ∀ rest later, .release tab ∉ rest → (machine true).exec final rest = some later →
      later.flight tab = some (.performing (.settled (some token))) ∧
      ∀ after, step true later (.release tab) = some after →
        ∀ call ∈ later.calls, call.tab = tab → call.stage = .awaiting →
          { call with stage := .resumed (some token) } ∈ after.calls := by
  have told := (told_post holds reads nonempty differ listens posts).run undisturbed run
  have settled := told.grant delivered granted
  intro rest later keeps run
  have flight : later.flight tab = some (.performing (.settled (some token))) :=
    Settled.run settled keeps run
  refine ⟨flight, ?_⟩
  intro after released call member same awaiting
  simp only [step, flight, Option.some.injEq] at released
  subst released
  refine List.mem_map.mpr ⟨call, member, ?_⟩
  rw [Call.resolve, if_pos ⟨same, awaiting⟩]

end

/-! The first tab refreshes the session while the second one waits. -/

/-- The first tab has the lock and reads its token, and the second one, which listens, waits. -/
def rotating : List Label :=
  restoring ++ restored ++
    [.begin 0 .refreshSession, .grant 0, .begin 1 .refreshSession,
      .serveRefresh 0 true (.answer 200 (.json (some "third"))), .receiveRefresh 0]

theorem one_rotation_of_two :
    ∃ world final, (machine true).exec (.initial ⟨[], 0⟩ none) rotating = some world ∧
      (machine true).exec world [.readRefresh 0, .release 0, .deliver 1 0, .grant 1] =
        some final ∧
      final.flight 1 = some (.performing (.settled (some "third"))) := by
  have run : ((machine true).exec (.initial ⟨[], 0⟩ none) rotating).map (fun world =>
      (decide (world.holder = some 0 ∧
          world.flight 0 = some (.performing (.reading (.json (some "third")))) ∧
          world.tabs[1]?.map (·.state.channel) = some true),
        (step true world (.readRefresh 0)).map fun next =>
          (decide ((machine true).Allows (Undisturbed 0 1 "third") next [.release 0, .deliver 1 0]),
            ((machine true).exec next [.release 0, .deliver 1 0]).map fun last =>
              (decide (Delivered last (.grant 1)), (step true last (.grant 1)).isSome)))) =
      some (true, some (true, some (true, true))) := by
    decide +kernel
  obtain ⟨world, run, after⟩ := Option.map_eq_some_iff.mp run
  obtain ⟨holding, after⟩ := Prod.mk.inj after
  obtain ⟨holds, reads, listens⟩ := of_decide_eq_true holding
  obtain ⟨next, posts, after⟩ := Option.map_eq_some_iff.mp after
  obtain ⟨undisturbed, after⟩ := Prod.mk.inj after
  obtain ⟨last, later, after⟩ := Option.map_eq_some_iff.mp after
  obtain ⟨delivered, granted⟩ := Prod.mk.inj after
  obtain ⟨final, granted⟩ := Option.isSome_iff_exists.mp granted
  have flight := one_rotation_per_round holds reads (by decide) posts (by decide)
    (Option.map_eq_some_iff.mp listens) (of_decide_eq_true undisturbed) later
    (of_decide_eq_true delivered) granted [] final List.not_mem_nil rfl
  refine ⟨world, final, run, ?_, flight.1⟩
  apply Machine.exec_cons_some.mpr
  refine ⟨next, posts, ?_⟩
  change (machine true).exec next ([.release 0, .deliver 1 0] ++ [.grant 1]) = some final
  rw [Machine.exec_append, later, Option.bind_some]
  exact Machine.exec_cons_some.mpr ⟨final, granted, rfl⟩

/-- As above, with a second tab that has just been loaded. -/
def rotatingLoaded : List Label :=
  [.load, .load, .begin 0 .login, .serve 0 true (.answer 200 (.json (some "first"))), .receive 0,
    .begin 0 .refreshSession, .grant 0, .begin 1 .restoreSession,
    .serveRefresh 0 true (.answer 200 (.json (some "second"))), .receiveRefresh 0,
    .readRefresh 0, .release 0, .grant 1]

/-- It does not listen yet, and sends a request of its own. -/
theorem loaded_tab_refreshes_again :
    ∃ world, (machine true).exec (.initial ⟨[], 0⟩ none) rotatingLoaded = some world ∧
      (machine true).Allows Delivered (.initial ⟨[], 0⟩ none) rotatingLoaded ∧
      world.bearer 0 = some "second" ∧
      world.flight 1 = some (.performing (.sent ⟨none, some 1⟩)) := by
  have run : ((machine true).exec (.initial ⟨[], 0⟩ none) rotatingLoaded).map (fun world =>
      (world.bearer 0, world.flight 1)) =
        some (some "second", some (.performing (.sent ⟨none, some 1⟩))) := by
    decide +kernel
  obtain ⟨world, run, after⟩ := Option.map_eq_some_iff.mp run
  obtain ⟨bearer, flight⟩ := Prod.mk.inj after
  exact ⟨world, run, by decide +kernel, bearer, flight⟩

end Frontend
