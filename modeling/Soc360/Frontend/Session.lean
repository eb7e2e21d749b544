import Soc360.Store.Machine
import Soc360.Store.Network

set_option autoImplicit false

/-! The session of the browser tabs: `session.ts`, and what `client.ts` does with it. -/

namespace Frontend

/-- `issued` is the text under `access_token`, where the body is an object with one. -/
inductive Body where
  | notJson
  | json (issued : Option String)
  deriving DecidableEq, Repr

/-- What `fetch` comes to. -/
inductive Response where
  | failed
  | answer (status : Nat) (body : Body)
  deriving DecidableEq, Repr

def Response.ok : Response → Bool
  | failed => false
  | answer status _ => 200 ≤ status && status < 300

def Response.unauthorized : Response → Bool
  | failed => false
  | answer status _ => status == 401

/-- The bearer and the cookie that a request carries. -/
structure Request where
  bearer : Option String
  cookie : Option Nat
  deriving DecidableEq, Repr

/-- A response with its Set-Cookie, which may delete the cookie. -/
structure Reply where
  response : Response
  setCookie : Option (Option Nat)
  deriving DecidableEq, Repr

/-- The refresh tokens that are not revoked. -/
structure Backend where
  live : List Nat
  issued : Nat
  deriving DecidableEq, Repr

inductive Path where
  | refresh
  | logout
  | login
  | other
  deriving DecidableEq, Repr

/-- What a request does to the refresh tokens and to the cookie, if it is served. -/
def Backend.commit (path : Path) (request : Request) (backend : Backend) :
    Option (Option (Option Nat) × Backend) :=
  match path with
  | .refresh => do
      let cookie ← request.cookie
      if cookie ∈ backend.live then
        some (some (some backend.issued),
          ⟨backend.issued :: backend.live.erase cookie, backend.issued + 1⟩)
      else none
  | .logout =>
      some (some none, { backend with live := backend.live.filter (some · ≠ request.cookie) })
  | .login =>
      some (some (some backend.issued), ⟨backend.issued :: backend.live, backend.issued + 1⟩)
  | .other => some (none, backend)

/-- A response that is ok tells of a request that took effect. Any other one may, too. -/
def Backend.serve (path : Path) (request : Request) (commits : Bool) (response : Response)
    (backend : Backend) : Option (Reply × Backend) :=
  if commits then
    (backend.commit path request).map fun (setCookie, backend) =>
      (⟨response, if response.ok then setCookie else none⟩, backend)
  else if response.ok then none
  else some (⟨response, none⟩, backend)

/-- `ChannelMessage`. -/
inductive Message where
  | token (token : String)
  | cleared
  deriving DecidableEq, Repr

/-- A message on its way. It is `due` when its sender has released the lock since. -/
structure Envelope where
  sender : Nat
  message : Message
  due : Bool
  deriving DecidableEq, Repr

/-- The tab has released the lock. -/
def Envelope.released (tab : Nat) (envelope : Envelope) : Envelope :=
  if envelope.sender = tab then { envelope with due := true } else envelope

/-- `performRefresh` between two steps. It is `settled` when it has returned, or what has the lock
has returned in its place, and the lock is not free again yet. -/
inductive Refresh where
  | sent (request : Request)
  | answered (reply : Reply)
  | reading (body : Body)
  | settled (result : Option String)
  deriving DecidableEq, Repr

/-- The promise of `startRefresh`. -/
inductive Flight where
  | waiting (revisionAtStart : Nat)
  | performing (refresh : Refresh)
  deriving DecidableEq, Repr

/-- The state of the module in a tab. -/
structure Tab where
  bearer : Option String
  revision : Nat
  inFlight : Option Flight
  channel : Bool
  paced : ∀ revisionAtStart, inFlight = some (.waiting revisionAtStart) → revisionAtStart ≤ revision
  deriving DecidableEq, Repr

abbrev Tabs := Network Tab Envelope

namespace Tab

/-- A tab that has just been loaded. -/
def loaded : Tab := ⟨none, 0, none, false, nofun⟩

def adopt (value : String) (tab : Tab) : Tab :=
  { tab with
    bearer := some value
    revision := tab.revision + 1
    paced := fun start waiting => Nat.le_succ_of_le (tab.paced start waiting) }

def drop (tab : Tab) : Tab :=
  { tab with
    bearer := none
    revision := tab.revision + 1
    paced := fun start waiting => Nat.le_succ_of_le (tab.paced start waiting) }

def channelOrNull (tab : Tab) : Tab := { tab with channel := true }

/-- The listener of the channel. -/
def onMessage (envelope : Envelope) (tab : Tab) : Tab :=
  match envelope.message with
  | .token token => tab.adopt token
  | .cleared => tab.drop

/-- The request of `performRefresh`. -/
def performRefresh (cookie : Option Nat) : Refresh := .sent ⟨none, cookie⟩

def perform (refresh : Refresh) (tab : Tab) : Tab :=
  { tab with inFlight := some (.performing refresh), paced := nofun }

/-- The refresh is over. -/
def land (tab : Tab) : Tab := { tab with inFlight := none, paced := nofun }

/-- `locks` says whether the browser has the Web Locks API. -/
def startRefresh (locks : Bool) (cookie : Option Nat) (tab : Tab) : Tab :=
  if locks then
    { tab with
      inFlight := some (.waiting tab.revision)
      paced := fun start waiting => Nat.le_of_eq (by cases waiting; rfl) }
  else tab.perform (performRefresh cookie)

def refreshSession (locks : Bool) (cookie : Option Nat) (tab : Tab) : Tab :=
  match tab.inFlight with
  | some _ => tab
  | none => tab.startRefresh locks cookie

/-- `startRefresh` with the lock. -/
def granted (revisionAtStart : Nat) (cookie : Option Nat) (tab : Tab) : Refresh :=
  if tab.revision ≠ revisionAtStart then .settled tab.bearer else performRefresh cookie

end Tab

namespace Tabs

variable (tab : Nat) (tabs : Tabs)

def publish (message : Message) : Tabs :=
  (tabs.update tab Tab.channelOrNull).post tab Tab.channel ⟨tab, message, false⟩

def setBearer (value : String) : Tabs :=
  publish tab (tabs.update tab (Tab.adopt value)) (.token value)

def clearSession : Tabs := publish tab (tabs.update tab Tab.drop) .cleared

def acceptTokenResponse (issued : Option String) : Option String × Tabs :=
  match issued with
  | none => (none, tabs)
  | some value => if value = "" then (none, tabs) else (some value, setBearer tab tabs value)

/-- `performRefresh` with its response. -/
def refreshed (response : Response) : Refresh × Tabs :=
  match response with
  | .failed => (.settled none, tabs)
  | .answer status body =>
      if status = 401 ∨ status = 403 then (.settled none, clearSession tab tabs)
      else if response.ok then (.reading body, tabs)
      else (.settled none, tabs)

/-- `performRefresh` with its body. -/
def readBody (body : Body) : Refresh × Tabs :=
  match body with
  | .notJson => (.settled none, tabs)
  | .json issued =>
      let (result, tabs) := acceptTokenResponse tab tabs issued
      (.settled result, tabs)

end Tabs

/-- The functions that await a request or a refresh. `login` is the request and its
`acceptTokenResponse`. -/
inductive Purpose where
  | refreshSession
  | restoreSession
  | apiFetch (auth : Bool)
  | login
  | signOut
  deriving DecidableEq, Repr

def Purpose.path : Purpose → Path
  | login => .login
  | signOut => .logout
  | _ => .other

/-- `retry` marks a request after a refresh. -/
inductive Stage where
  | sent (request : Request) (retry : Bool)
  | answered (reply : Reply) (retry : Bool)
  | awaiting
  | resumed (result : Option String)
  | returned (result : Option String)
  deriving DecidableEq, Repr

structure Call where
  tab : Nat
  purpose : Purpose
  stage : Stage
  deriving DecidableEq, Repr

namespace Call

variable (locks : Bool) (cookie : Option Nat) (call : Call)

/-- The call goes on with the response to its request. -/
def received (response : Response) (retry : Bool) (tabs : Tabs) : Stage × Tabs :=
  let refresh : Stage × Tabs :=
    (.awaiting, tabs.update call.tab (Tab.refreshSession locks cookie))
  match call.purpose with
  | .signOut =>
      if response.unauthorized ∧ retry = false then refresh
      else (.returned none, Tabs.clearSession call.tab tabs)
  | .apiFetch auth =>
      if response.unauthorized ∧ retry = false ∧ auth then refresh else (.returned none, tabs)
  | .login =>
      match response with
      | .answer _ (.json issued) =>
          if response.ok then
            let (result, tabs) := Tabs.acceptTokenResponse call.tab tabs issued
            (.returned result, tabs)
          else (.returned none, tabs)
      | _ => (.returned none, tabs)
  | .refreshSession => (.returned none, tabs)
  | .restoreSession => (.returned none, tabs)

/-- The call goes on with what `refreshSession` came to. `bearer` is the one in memory. -/
def resumed (bearer result : Option String) (tabs : Tabs) : Stage × Tabs :=
  match call.purpose, result with
  | .apiFetch auth, some _ => (.sent ⟨if auth then bearer else none, cookie⟩ true, tabs)
  | .signOut, some fresh => (.sent ⟨some fresh, cookie⟩ true, tabs)
  | .signOut, none => (.returned none, Tabs.clearSession call.tab tabs)
  | _, _ => (.returned result, tabs)

/-- The promise in `inFlight` has resolved. -/
def resolve (tab : Nat) (result : Option String) : Call :=
  if call.tab = tab ∧ call.stage = .awaiting then { call with stage := .resumed result } else call

/-- A `signOut` that has resolved. -/
def signedOut : Bool :=
  match call.purpose, call.stage with
  | .signOut, .returned _ => true
  | _, _ => false

end Call

/-- `holder` is the tab with the lock, and `calls` are all calls so far. -/
structure World where
  tabs : Tabs
  holder : Option Nat
  calls : List Call
  cookie : Option Nat
  backend : Backend

/-- The last five are about the refresh of a tab, and `grant` about its lock. -/
inductive Label where
  | load
  | clearSession (tab : Nat)
  | begin (tab : Nat) (purpose : Purpose)
  | serve (call : Nat) (commits : Bool) (response : Response)
  | receive (call : Nat)
  | resume (call : Nat)
  | deliver (tab position : Nat)
  | grant (tab : Nat)
  | serveRefresh (tab : Nat) (commits : Bool) (response : Response)
  | receiveRefresh (tab : Nat)
  | readRefresh (tab : Nat)
  | release (tab : Nat)
  deriving DecidableEq, Repr

namespace World

variable (locks : Bool) (world : World)

def initial (backend : Backend) (cookie : Option Nat) : World := ⟨[], none, [], cookie, backend⟩

def flight (tab : Nat) : Option Flight := world.tabs[tab]?.bind (·.state.inFlight)

def bearer (tab : Nat) : Option String := world.tabs[tab]?.bind (·.state.bearer)

/-- A call after it has gone on. -/
def went (index : Nat) (call : Call) (gone : Stage × Tabs) : World :=
  { world with
    tabs := gone.2
    calls := world.calls.set index { call with stage := gone.1 } }

/-- The refresh of a tab after it has gone on. -/
def performed (tab : Nat) (gone : Refresh × Tabs) : World :=
  { world with tabs := gone.2.update tab (Tab.perform gone.1) }

def begin (tab : Nat) (purpose : Purpose) : World :=
  let add (stage : Stage) (tabs : Tabs) : World :=
    { world with tabs := tabs, calls := world.calls ++ [⟨tab, purpose, stage⟩] }
  let refresh := add .awaiting (world.tabs.update tab (Tab.refreshSession locks world.cookie))
  match purpose with
  | .refreshSession => refresh
  | .restoreSession =>
      match world.bearer tab with
      | some value => add (.returned (some value)) world.tabs
      | none => refresh
  | .apiFetch auth =>
      add (.sent ⟨if auth then world.bearer tab else none, world.cookie⟩ false) world.tabs
  | .login => add (.sent ⟨none, world.cookie⟩ false) world.tabs
  | .signOut => add (.sent ⟨world.bearer tab, world.cookie⟩ false) world.tabs

/-- The lock of a tab is free again, and those who await the refresh learn its result. -/
def release (tab : Nat) (result : Option String) : World :=
  { world with
    tabs := (world.tabs.update tab Tab.land).relabel (Envelope.released tab)
    holder := if world.holder = some tab then none else world.holder
    calls := world.calls.map (Call.resolve · tab result) }

end World

section

variable (locks : Bool)

def step (world : World) : Label → Option World
  | .load => some { world with tabs := world.tabs ++ [⟨.loaded, []⟩] }
  | .clearSession tab =>
      if tab < world.tabs.length then
        some { world with tabs := Tabs.clearSession tab world.tabs }
      else none
  | .begin tab purpose =>
      if tab < world.tabs.length then some (world.begin locks tab purpose) else none
  | .serve index commits response =>
      match world.calls[index]? with
      | some ⟨tab, purpose, .sent request retry⟩ =>
          (world.backend.serve purpose.path request commits response).map fun (reply, backend) =>
            { world with
              backend := backend
              calls := world.calls.set index ⟨tab, purpose, .answered reply retry⟩ }
      | _ => none
  | .receive index =>
      match world.calls[index]? with
      | some ⟨tab, purpose, .answered reply retry⟩ =>
          let call : Call := ⟨tab, purpose, .answered reply retry⟩
          let cookie := reply.setCookie.getD world.cookie
          some ({ world with cookie := cookie }.went index call
            (call.received locks cookie reply.response retry world.tabs))
      | _ => none
  | .resume index =>
      match world.calls[index]? with
      | some ⟨tab, purpose, .resumed result⟩ =>
          let call : Call := ⟨tab, purpose, .resumed result⟩
          some (world.went index call
            (call.resumed world.cookie (world.bearer tab) result world.tabs))
      | _ => none
  | .deliver tab position =>
      (world.tabs.deliver tab position Tab.onMessage).map fun tabs => { world with tabs := tabs }
  | .grant tab =>
      match world.holder, world.tabs[tab]?, world.flight tab with
      | none, some party, some (.waiting revisionAtStart) =>
          some ({ world with holder := some tab }.performed tab
            (party.state.granted revisionAtStart world.cookie, world.tabs))
      | _, _, _ => none
  | .serveRefresh tab commits response =>
      match world.flight tab with
      | some (.performing (.sent request)) =>
          (world.backend.serve .refresh request commits response).map fun (reply, backend) =>
            { world with backend := backend }.performed tab (.answered reply, world.tabs)
      | _ => none
  | .receiveRefresh tab =>
      match world.flight tab with
      | some (.performing (.answered reply)) =>
          some ({ world with cookie := reply.setCookie.getD world.cookie }.performed tab
            (Tabs.refreshed tab world.tabs reply.response))
      | _ => none
  | .readRefresh tab =>
      match world.flight tab with
      | some (.performing (.reading body)) =>
          some (world.performed tab (Tabs.readBody tab world.tabs body))
      | _ => none
  | .release tab =>
      match world.flight tab with
      | some (.performing (.settled result)) => some (world.release tab result)
      | _ => none

def machine : Machine World Label where
  start := fun world => ∃ backend cookie, world = .initial backend cookie
  step := step locks

end

variable {locks : Bool} {world next : World} {label : Label}

/-- Everything a step can be. -/
inductive Moved (locks : Bool) (world : World) : Label → World → Prop where
  | load : Moved locks world .load { world with tabs := world.tabs ++ [⟨.loaded, []⟩] }
  | clearSession (tab : Nat) (loaded : tab < world.tabs.length) :
      Moved locks world (.clearSession tab)
        { world with tabs := Tabs.clearSession tab world.tabs }
  | begin (tab : Nat) (purpose : Purpose) (loaded : tab < world.tabs.length) :
      Moved locks world (.begin tab purpose) (world.begin locks tab purpose)
  | serve (index : Nat) (commits : Bool) (response : Response) (tab : Nat) (purpose : Purpose)
      (request : Request) (retry : Bool) (reply : Reply) (backend : Backend)
      (there : world.calls[index]? = some ⟨tab, purpose, .sent request retry⟩)
      (served : world.backend.serve purpose.path request commits response =
        some (reply, backend)) :
      Moved locks world (.serve index commits response)
        { world with
          backend := backend
          calls := world.calls.set index ⟨tab, purpose, .answered reply retry⟩ }
  | receive (index tab : Nat) (purpose : Purpose) (reply : Reply) (retry : Bool)
      (there : world.calls[index]? = some ⟨tab, purpose, .answered reply retry⟩) :
      Moved locks world (.receive index)
        ({ world with cookie := reply.setCookie.getD world.cookie }.went index
          ⟨tab, purpose, .answered reply retry⟩
          (Call.received locks (reply.setCookie.getD world.cookie)
            ⟨tab, purpose, .answered reply retry⟩ reply.response retry world.tabs))
  | resume (index tab : Nat) (purpose : Purpose) (result : Option String)
      (there : world.calls[index]? = some ⟨tab, purpose, .resumed result⟩) :
      Moved locks world (.resume index)
        (world.went index ⟨tab, purpose, .resumed result⟩
          (Call.resumed world.cookie ⟨tab, purpose, .resumed result⟩ (world.bearer tab) result
            world.tabs))
  | deliver (tab position : Nat) (tabs : Tabs)
      (delivered : world.tabs.deliver tab position Tab.onMessage = some tabs) :
      Moved locks world (.deliver tab position) { world with tabs := tabs }
  | grant (tab revisionAtStart : Nat) (party : Party Tab Envelope)
      (free : world.holder = none) (there : world.tabs[tab]? = some party)
      (waits : world.flight tab = some (.waiting revisionAtStart)) :
      Moved locks world (.grant tab)
        ({ world with holder := some tab }.performed tab
          (party.state.granted revisionAtStart world.cookie, world.tabs))
  | serveRefresh (tab : Nat) (commits : Bool) (response : Response) (request : Request)
      (reply : Reply) (backend : Backend)
      (performing : world.flight tab = some (.performing (.sent request)))
      (served : world.backend.serve .refresh request commits response = some (reply, backend)) :
      Moved locks world (.serveRefresh tab commits response)
        ({ world with backend := backend }.performed tab (.answered reply, world.tabs))
  | receiveRefresh (tab : Nat) (reply : Reply)
      (performing : world.flight tab = some (.performing (.answered reply))) :
      Moved locks world (.receiveRefresh tab)
        ({ world with cookie := reply.setCookie.getD world.cookie }.performed tab
          (Tabs.refreshed tab world.tabs reply.response))
  | readRefresh (tab : Nat) (body : Body)
      (performing : world.flight tab = some (.performing (.reading body))) :
      Moved locks world (.readRefresh tab)
        (world.performed tab (Tabs.readBody tab world.tabs body))
  | release (tab : Nat) (result : Option String)
      (performing : world.flight tab = some (.performing (.settled result))) :
      Moved locks world (.release tab) (world.release tab result)

theorem step_moved (taken : step locks world label = some next) :
    Moved locks world label next := by
  cases label with
  | load =>
      cases taken
      exact .load
  | clearSession tab =>
      simp only [step] at taken
      split at taken
      next loaded =>
        cases taken
        exact .clearSession tab loaded
      next => cases taken
  | begin tab purpose =>
      simp only [step] at taken
      split at taken
      next loaded =>
        cases taken
        exact .begin tab purpose loaded
      next => cases taken
  | serve index commits response =>
      simp only [step] at taken
      split at taken
      next tab purpose request retry there =>
        obtain ⟨⟨reply, backend⟩, served, rfl⟩ := Option.map_eq_some_iff.mp taken
        exact .serve index commits response tab purpose request retry reply backend there served
      next => cases taken
  | receive index =>
      simp only [step] at taken
      split at taken
      next tab purpose reply retry there =>
        cases taken
        exact .receive index tab purpose reply retry there
      next => cases taken
  | resume index =>
      simp only [step] at taken
      split at taken
      next tab purpose result there =>
        cases taken
        exact .resume index tab purpose result there
      next => cases taken
  | deliver tab position =>
      obtain ⟨tabs, delivered, rfl⟩ := Option.map_eq_some_iff.mp taken
      exact .deliver tab position tabs delivered
  | grant tab =>
      simp only [step] at taken
      split at taken
      next party revisionAtStart free there waits =>
        cases taken
        exact .grant tab revisionAtStart party free there waits
      next => cases taken
  | serveRefresh tab commits response =>
      simp only [step] at taken
      split at taken
      next request performing =>
        obtain ⟨⟨reply, backend⟩, served, rfl⟩ := Option.map_eq_some_iff.mp taken
        exact .serveRefresh tab commits response request reply backend performing served
      next => cases taken
  | receiveRefresh tab =>
      simp only [step] at taken
      split at taken
      next reply performing =>
        cases taken
        exact .receiveRefresh tab reply performing
      next => cases taken
  | readRefresh tab =>
      simp only [step] at taken
      split at taken
      next body performing =>
        cases taken
        exact .readRefresh tab body performing
      next => cases taken
  | release tab =>
      simp only [step] at taken
      split at taken
      next result performing =>
        cases taken
        exact .release tab result performing
      next => cases taken

end Frontend
