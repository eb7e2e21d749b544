import Soc360.Store.Fault
import Mathlib.Data.List.Basic

set_option autoImplicit false

/-! One call on a session of a database and on a stream of events, any statement of which may
fail. -/

namespace UnitOfWork

/-- A statement with what becomes of it. `rows` are those that the transaction would leave. -/
inductive Act (Rows Event : Type) where
  | flush (fate : Fate)
  | refresh (fate : Fate)
  | commit (fate : Fate) (rows : Rows)
  | publish (event : Event) (fate : Fate)

/-- The committed rows, those of the open transaction, and the statements issued so far. -/
structure Desk (Rows Event : Type) where
  committed : Rows
  working : Rows
  acts : List (Act Rows Event)

/-- What becomes of the statements of one call. -/
structure Weather where
  flush : Fate
  refresh : Fate
  commit : Fate
  publish : Fate
  deriving DecidableEq, Repr

/-- A coroutine on the session: it returns or raises. -/
def Work (Rows Event Error Value : Type) : Type :=
  Desk Rows Event → Except Error Value × Desk Rows Event

variable {Rows Event Error Value Next : Type}

def Desk.start (rows : Rows) : Desk Rows Event := ⟨rows, rows, []⟩

def Desk.record (desk : Desk Rows Event) (act : Act Rows Event) : Desk Rows Event :=
  { desk with acts := desk.acts ++ [act] }

/-- The transaction ends without its rows. -/
def Desk.abandon (desk : Desk Rows Event) : Desk Rows Event :=
  { desk with working := desk.committed }

namespace Work

def lift (result : Except Error Value) : Work Rows Event Error Value := fun desk => (result, desk)

def andThen (first : Work Rows Event Error Value) (next : Value → Work Rows Event Error Next) :
    Work Rows Event Error Next := fun desk =>
  match first desk with
  | (.ok value, after) => next value after
  | (.error error, after) => (.error error, after)

instance : Monad (Work Rows Event Error) where
  pure value := lift (.ok value)
  bind := andThen

/-- The rows as the transaction sees them. -/
def read : Work Rows Event Error Rows := fun desk => (.ok desk.working, desk)

/-- A change that the next statement sends. -/
def stage (change : Rows → Rows) : Work Rows Event Error Unit := fun desk =>
  (.ok (), { desk with working := change desk.working })

/-- The pending changes are sent, and `write` says what the constraints make of them. A session
whose flush has failed is of no further use. -/
def flush (fate : Fate) (broken : Error) (write : Rows → Except Error Rows) :
    Work Rows Event Error Unit := fun desk =>
  match fate with
  | .ok =>
      match write desk.working with
      | .ok rows => (.ok (), { desk.record (.flush .ok) with working := rows })
      | .error error => (.error error, (desk.record (.flush .failed)).abandon)
  | fate => (.error broken, (desk.record (.flush fate)).abandon)

def refresh (fate : Fate) (broken : Error) : Work Rows Event Error Unit := fun desk =>
  match fate with
  | .ok => (.ok (), desk.record (.refresh .ok))
  | fate => (.error broken, (desk.record (.refresh fate)).abandon)

/-- A commit whose reply is lost has taken effect all the same. -/
def commit (fate : Fate) (broken : Error) : Work Rows Event Error Unit := fun desk =>
  (fate.branch (.ok ()) (.error broken),
    { desk.record (.commit fate desk.working) with
      committed := fate.settle (fun _ => desk.working) desk.committed })

def publish (fate : Fate) (unpublished : Error) (event : Event) : Work Rows Event Error Unit :=
  fun desk => (fate.branch (.ok ()) (.error unpublished), desk.record (.publish event fate))

/-- `try … except`: the handler sees what the body raises. -/
def handle (body : Work Rows Event Error Value) (handler : Error → Work Rows Event Error Value) :
    Work Rows Event Error Value := fun desk =>
  match body desk with
  | (.ok value, after) => (.ok value, after)
  | (.error error, after) => handler error after

end Work

theorem Work.bind_of_ok {first : Work Rows Event Error Value}
    {next : Value → Work Rows Event Error Next} {desk after : Desk Rows Event} {value : Value}
    (returned : first desk = (.ok value, after)) : (first >>= next) desk = next value after := by
  change Work.andThen first next desk = _
  simp only [Work.andThen, returned]

theorem Work.bind_of_error {first : Work Rows Event Error Value}
    {next : Value → Work Rows Event Error Next} {desk after : Desk Rows Event} {error : Error}
    (raised : first desk = (.error error, after)) :
    (first >>= next) desk = (.error error, after) := by
  change Work.andThen first next desk = _
  simp only [Work.andThen, raised]

theorem Work.bind_read {next : Rows → Work Rows Event Error Next} {desk : Desk Rows Event} :
    (Work.read >>= next) desk = next desk.working desk := rfl

theorem Work.bind_pure_desk {first : Work Rows Event Error Value} {value : Next}
    {desk : Desk Rows Event} :
    ((do let _ ← first; return value : Work Rows Event Error Next) desk).2 = (first desk).2 := by
  change (Work.andThen first (fun _ => Work.lift (.ok value)) desk).2 = _
  rw [Work.andThen]
  split
  next returned => rw [returned]; rfl
  next raised => rw [raised]

theorem Work.flush_ok {broken : Error} {write : Rows → Except Error Rows} {rows : Rows}
    {desk : Desk Rows Event} (written : write desk.working = .ok rows) :
    Work.flush .ok broken write desk =
      (.ok (), { desk.record (.flush .ok) with working := rows }) := by
  simp only [Work.flush, written]

theorem Work.flush_refused {broken error : Error} {write : Rows → Except Error Rows}
    {desk : Desk Rows Event} (written : write desk.working = .error error) :
    Work.flush .ok broken write desk = (.error error, (desk.record (.flush .failed)).abandon) := by
  simp only [Work.flush, written]

theorem Work.flush_failed {fate : Fate} {broken : Error} {write : Rows → Except Error Rows}
    {desk : Desk Rows Event} (failed : fate ≠ .ok) :
    Work.flush fate broken write desk = (.error broken, (desk.record (.flush fate)).abandon) := by
  cases fate with
  | ok => exact absurd rfl failed
  | failed => rfl
  | lost => rfl

theorem Work.refresh_failed {fate : Fate} {broken : Error} {desk : Desk Rows Event}
    (failed : fate ≠ .ok) :
    Work.refresh fate broken desk = (.error broken, (desk.record (.refresh fate)).abandon) := by
  cases fate with
  | ok => exact absurd rfl failed
  | failed => rfl
  | lost => rfl

theorem Work.commit_failed {fate : Fate} {broken : Error} {desk : Desk Rows Event}
    (failed : fate ≠ .ok) :
    Work.commit fate broken desk = (.error broken,
      { desk.record (.commit fate desk.working) with
        committed := fate.settle (fun _ => desk.working) desk.committed }) := by
  cases fate with
  | ok => exact absurd rfl failed
  | failed => rfl
  | lost => rfl

/-- The events that the statements have put on the stream. -/
def appended (acts : List (Act Rows Event)) : List Event :=
  acts.flatMap fun act =>
    match act with
    | .publish event fate => fate.settle (event :: ·) []
    | _ => []

@[simp] theorem appended_nil : appended ([] : List (Act Rows Event)) = [] := rfl

theorem appended_append (first second : List (Act Rows Event)) :
    appended (first ++ second) = appended first ++ appended second := List.flatMap_append

/-- A call is a transaction followed by one event at the most: it stops before any statement, or
its flush is refused, or it writes `rows` in a transaction and gives `value` after the event. -/
inductive Plan (Rows Event Error Value : Type) where
  | stop (result : Except Error Value)
  | refused (error : Error)
  | transact (flushes refreshes : Bool) (rows : Rows) (event : Option Event) (value : Value)

namespace Plan

variable (weather : Weather) (broken unpublished : Error)

def send (flushes : Bool) (rows : Rows) : Work Rows Event Error Unit :=
  if flushes then .flush weather.flush broken fun _ => .ok rows else .stage fun _ => rows

def reread (refreshes : Bool) : Work Rows Event Error Unit :=
  if refreshes then .refresh weather.refresh broken else pure ()

def announce : Option Event → Work Rows Event Error Unit
  | none => pure ()
  | some event => .publish weather.publish unpublished event

def execute : Plan Rows Event Error Value → Work Rows Event Error Value
  | stop result => .lift result
  | refused error => do
      Work.flush weather.flush broken fun _ => .error error
      Work.lift (.error error)
  | transact flushes refreshes rows event value => do
      send weather broken flushes rows
      reread weather broken refreshes
      Work.commit weather.commit broken
      announce weather unpublished event
      return value

/-- The plan of a call whose flush sends what `written` makes of the rows. -/
def ofWrite (refreshes : Bool) (event : Option Event) (value : Rows → Value) :
    Except Error Rows → Plan Rows Event Error Value
  | .error error => refused error
  | .ok rows => transact true refreshes rows event (value rows)

end Plan

/-- Whether the transaction of the call failed at the statement. -/
def Act.fails : Act Rows Event → Prop
  | .flush fate => fate ≠ .ok
  | .refresh fate => fate ≠ .ok
  | .commit fate _ => fate ≠ .ok
  | .publish _ _ => False

/-- The statements before the commit that have gone well. -/
def Act.Prepares : Act Rows Event → Prop
  | .flush fate => fate = .ok
  | .refresh fate => fate = .ok
  | _ => False

/-- The statements of a call whose transaction does not end well: none puts an event on the
stream, and none is a commit that returns. -/
def Act.Fruitless : Act Rows Event → Prop
  | .commit fate _ => fate ≠ .ok
  | .publish _ _ => False
  | _ => True

theorem Act.Prepares.fruitless {act : Act Rows Event} (prepares : act.Prepares) :
    act.Fruitless := by
  cases act with
  | flush fate => trivial
  | refresh fate => trivial
  | commit fate rows => cases prepares
  | publish event fate => cases prepares

theorem Act.Prepares.not_fails {act : Act Rows Event} (prepares : act.Prepares) :
    ¬ act.fails := by
  cases act with
  | flush fate => exact fun fails => fails prepares
  | refresh fate => exact fun fails => fails prepares
  | commit fate rows => cases prepares
  | publish event fate => cases prepares

theorem appended_fruitless {acts : List (Act Rows Event)} (all : ∀ act ∈ acts, act.Fruitless) :
    appended acts = [] := by
  refine List.flatMap_eq_nil_iff.mpr ?_
  intro act member
  cases act with
  | publish event fate => exact (all _ member).elim
  | _ => rfl

/-- The statements of a call whose commit has returned. -/
structure Delivered (weather : Weather) (rows : Rows) (event : Option Event)
    (desk : Desk Rows Event) : Prop where
  committed : desk.committed = rows
  acts : ∃ before, (∀ act ∈ before, act.Prepares) ∧
    desk.acts = before ++ .commit .ok rows ::
      (event.toList.map fun event => .publish event weather.publish)

namespace Work

/-- A coroutine that commits nothing and puts nothing on the stream. -/
def Quiet (work : Work Rows Event Error Value) : Prop :=
  ∀ desk, (work desk).2.committed = desk.committed ∧
    ∃ more, (work desk).2.acts = desk.acts ++ more ∧ ∀ act ∈ more, act.Fruitless

variable {fate : Fate} {broken : Error} {first : Work Rows Event Error Value}
  {next : Value → Work Rows Event Error Next} {value : Next} {desk after : Desk Rows Event}

theorem bind_eq_ok : (first >>= next) desk = (.ok value, after) ↔
    ∃ given middle, first desk = (.ok given, middle) ∧ next given middle = (.ok value, after) := by
  cases outcome : first desk with
  | mk result middle =>
      cases result with
      | error error =>
          rw [bind_of_error outcome]
          simp
      | ok given =>
          rw [bind_of_ok outcome]
          simp

theorem read_eq_ok {rows : Rows} {desk after : Desk Rows Event} :
    (Work.read : Work Rows Event Error Rows) desk = (.ok rows, after) ↔
      desk.working = rows ∧ desk = after := by
  simp [Work.read]

theorem pure_eq_ok {given : Value} {desk after : Desk Rows Event} {value : Value} :
    (pure given : Work Rows Event Error Value) desk = (.ok value, after) ↔
      given = value ∧ desk = after := by
  simp [pure, Work.lift]

theorem flush_eq_ok {given : Unit} {write : Rows → Except Error Rows}
    {desk after : Desk Rows Event} :
    Work.flush fate broken write desk = (.ok given, after) ↔
      fate = .ok ∧ ∃ rows, write desk.working = .ok rows ∧
        { desk.record (.flush .ok) with working := rows } = after := by
  by_cases went : fate = .ok
  · subst went
    cases written : write desk.working with
    | ok rows =>
        rw [flush_ok written]
        simp
    | error error =>
        rw [flush_refused written]
        simp
  · simp [flush_failed went, went]

theorem refresh_eq_ok {given : Unit} {desk after : Desk Rows Event} :
    Work.refresh fate broken desk = (.ok given, after) ↔
      fate = .ok ∧ desk.record (.refresh .ok) = after := by
  by_cases went : fate = .ok
  · subst went
    simp [Work.refresh]
  · simp [refresh_failed went, went]

theorem Quiet.lift {result : Except Error Value} :
    (Work.lift result : Work Rows Event Error Value).Quiet :=
  fun _ => ⟨rfl, [], (List.append_nil _).symm, nofun⟩

theorem Quiet.read : (Work.read : Work Rows Event Error Rows).Quiet :=
  fun _ => ⟨rfl, [], (List.append_nil _).symm, nofun⟩

theorem Quiet.refresh : (Work.refresh fate broken : Work Rows Event Error Unit).Quiet := by
  intro desk
  by_cases went : fate = .ok
  · subst went
    refine ⟨rfl, [.refresh .ok], rfl, ?_⟩
    simp [Act.Fruitless]
  · rw [refresh_failed went]
    refine ⟨rfl, [.refresh fate], rfl, ?_⟩
    simp [Act.Fruitless]

theorem Quiet.flush {write : Rows → Except Error Rows} :
    (Work.flush fate broken write : Work Rows Event Error Unit).Quiet := by
  intro desk
  by_cases went : fate = .ok
  · subst went
    cases written : write desk.working with
    | ok rows =>
        rw [flush_ok written]
        refine ⟨rfl, [.flush .ok], rfl, ?_⟩
        simp [Act.Fruitless]
    | error error =>
        rw [flush_refused written]
        refine ⟨rfl, [.flush .failed], rfl, ?_⟩
        simp [Act.Fruitless]
  · rw [flush_failed went]
    refine ⟨rfl, [.flush fate], rfl, ?_⟩
    simp [Act.Fruitless]

theorem Quiet.bind (before : first.Quiet) (later : ∀ given, (next given).Quiet) :
    (first >>= next).Quiet := by
  intro desk
  obtain ⟨kept, more, acts, fruitless⟩ := before desk
  cases outcome : first desk with
  | mk result middle =>
      rw [outcome] at kept acts
      cases result with
      | error error =>
          rw [bind_of_error outcome]
          exact ⟨kept, more, acts, fruitless⟩
      | ok given =>
          rw [bind_of_ok outcome]
          obtain ⟨kept', more', acts', fruitless'⟩ := later given middle
          refine ⟨kept'.trans kept, more ++ more', ?_, ?_⟩
          · rw [acts', acts, List.append_assoc]
          · intro act member
            rcases List.mem_append.mp member with member | member
            · exact fruitless act member
            · exact fruitless' act member

end Work

namespace Delivered

variable {weather : Weather} {rows other : Rows} {event : Option Event} {desk : Desk Rows Event}

theorem not_fails (delivered : Delivered weather rows event desk) :
    ∀ act ∈ desk.acts, ¬ act.fails := by
  obtain ⟨before, prepares, acts⟩ := delivered.acts
  rw [acts]
  intro act member
  rcases List.mem_append.mp member with member | member
  · exact (prepares act member).not_fails
  · rcases List.mem_cons.mp member with rfl | member
    · exact fun fails => fails rfl
    · obtain ⟨sent, _, rfl⟩ := List.mem_map.mp member
      exact id

theorem appended_eq (delivered : Delivered weather rows event desk) :
    appended desk.acts = event.toList.flatMap fun sent => weather.publish.settle (sent :: ·) [] := by
  obtain ⟨before, prepares, acts⟩ := delivered.acts
  rw [acts, appended_append, appended_fruitless fun act member => (prepares act member).fruitless]
  cases event with
  | none => rfl
  | some sent => rfl

/-- Nothing else than the event of the call is on the stream. -/
theorem appended_cases (delivered : Delivered weather rows event desk) :
    appended desk.acts = [] ∨ ∃ sent, event = some sent ∧ appended desk.acts = [sent] := by
  rw [delivered.appended_eq]
  cases event with
  | none => exact .inl rfl
  | some sent =>
      rcases weather.publish.settle_cases (sent :: ·) [] with same | same
      · refine .inl ?_
        simp only [Option.toList_some, List.flatMap_singleton, same]
      · refine .inr ⟨sent, rfl, ?_⟩
        simp only [Option.toList_some, List.flatMap_singleton, same]

theorem published {sent : Event} (delivered : Delivered weather rows (some sent) desk) :
    .publish sent weather.publish ∈ desk.acts := by
  obtain ⟨before, _, acts⟩ := delivered.acts
  rw [acts]
  exact List.mem_append_right _ (List.mem_cons_of_mem _ List.mem_cons_self)

/-- The event is on the stream, or its publish has failed. -/
theorem appended_or_failed {sent : Event} (delivered : Delivered weather rows (some sent) desk) :
    appended desk.acts = [sent] ∨ weather.publish ≠ .ok := by
  by_cases fate : weather.publish = .ok
  · refine .inl ?_
    rw [delivered.appended_eq, fate]
    rfl
  · exact .inr fate

/-- The transaction of a call commits once. -/
theorem commits_iff (delivered : Delivered weather rows event desk) :
    .commit .ok other ∈ desk.acts ↔ other = rows := by
  obtain ⟨before, prepares, acts⟩ := delivered.acts
  rw [acts]
  constructor
  · intro member
    rcases List.mem_append.mp member with member | member
    · cases prepares _ member
    · rcases List.mem_cons.mp member with same | member
      · cases same
        rfl
      · obtain ⟨sent, _, same⟩ := List.mem_map.mp member
        cases same
  · rintro rfl
    exact List.mem_append_right _ List.mem_cons_self

/-- The commit comes before the event. -/
theorem ordered (delivered : Delivered weather rows event desk) {first rest : List (Act Rows Event)}
    {sent : Event} {fate : Fate} (acts' : desk.acts = first ++ .publish sent fate :: rest) :
    .commit .ok rows ∈ first := by
  obtain ⟨before, prepares, acts⟩ := delivered.acts
  rw [acts] at acts'
  rcases List.append_eq_append_iff.mp acts' with ⟨middle, rfl, tail⟩ | ⟨middle, rfl, tail⟩
  · cases middle with
    | nil => cases tail
    | cons act middle =>
        rw [(List.cons.inj tail).1]
        exact List.mem_append_right _ List.mem_cons_self
  · cases middle with
    | nil => cases tail
    | cons act middle =>
        cases tail
        cases prepares _ (List.mem_append_right _ List.mem_cons_self)

end Delivered

namespace Plan

variable {weather : Weather} {broken unpublished : Error} {rows after : Rows}
  {event : Option Event} {value : Value} {flushes refreshes : Bool}
  {plan : Plan Rows Event Error Value}

/-- The transaction of a plan that reaches its commit, with every statement going well. -/
def Reaches (weather : Weather) (flushes refreshes : Bool) : Prop :=
  (flushes = true → weather.flush = .ok) ∧ (refreshes = true → weather.refresh = .ok) ∧
    weather.commit = .ok

/-- What holds of the rows and of the event, where the plan has a transaction. -/
def Delivers (holds : Rows → Option Event → Prop) : Plan Rows Event Error Value → Prop
  | transact _ _ rows event _ => holds rows event
  | _ => True

theorem Delivers.ofWrite {holds : Rows → Option Event → Prop} {written : Except Error Rows}
    {give : Rows → Value} (held : ∀ after, written = .ok after → holds after event) :
    (ofWrite refreshes event give written).Delivers holds := by
  cases written with
  | error error => trivial
  | ok after => exact held after rfl

theorem send_ok {desk : Desk Rows Event} (sent : flushes = true → weather.flush = .ok) :
    send weather broken flushes after desk = (.ok (),
      { desk with working := after, acts := desk.acts ++ if flushes then [.flush .ok] else [] }) := by
  cases flushes with
  | false => simp [send, Work.stage]
  | true => simp [send, Work.flush, sent rfl, Desk.record]

theorem reread_ok {desk : Desk Rows Event} (read : refreshes = true → weather.refresh = .ok) :
    reread weather broken refreshes desk = (.ok (),
      { desk with acts := desk.acts ++ if refreshes then [.refresh .ok] else [] }) := by
  cases refreshes with
  | false => simp [reread, pure, Work.lift]
  | true => simp [reread, Work.refresh, read rfl, Desk.record]

theorem send_failed {desk : Desk Rows Event} (unsent : weather.flush ≠ .ok) :
    send weather broken true after desk =
      (.error broken, (desk.record (.flush weather.flush)).abandon) := by
  rw [send, if_pos rfl]
  exact Work.flush_failed unsent

theorem reread_failed {desk : Desk Rows Event} (unread : weather.refresh ≠ .ok) :
    reread weather broken true desk =
      (.error broken, (desk.record (.refresh weather.refresh)).abandon) := by
  rw [reread, if_pos rfl]
  exact Work.refresh_failed unread

theorem announce_acts {desk : Desk Rows Event} :
    (announce weather unpublished event desk).2 =
      { desk with acts := desk.acts ++
          event.toList.map fun event => .publish event weather.publish } := by
  cases event with
  | none => simp [announce, pure, Work.lift]
  | some event => rfl

/-- The statements before the commit. -/
def prepared (flushes refreshes : Bool) : List (Act Rows Event) :=
  (if flushes then [.flush .ok] else []) ++ if refreshes then [.refresh .ok] else []

theorem prepares_of_mem {act : Act Rows Event} (member : act ∈ prepared flushes refreshes) :
    act.Prepares := by
  rcases List.mem_append.mp member with member | member
  · cases flushes with
    | false => cases member
    | true => cases List.mem_singleton.mp member; rfl
  · cases refreshes with
    | false => cases member
    | true => cases List.mem_singleton.mp member; rfl

/-- The desk of a transaction that has come to its commit. -/
theorem execute_reaching (sent : flushes = true → weather.flush = .ok)
    (read : refreshes = true → weather.refresh = .ok) :
    (transact flushes refreshes after event value).execute weather broken unpublished
        (.start rows) =
      (do
        Work.commit weather.commit broken
        announce weather unpublished event
        return value) ⟨rows, after, prepared flushes refreshes⟩ := by
  have sending : send weather broken flushes after (Desk.start rows : Desk Rows Event) =
      (.ok (), ⟨rows, after, if flushes then [.flush .ok] else []⟩) := send_ok sent
  have reading : reread weather broken refreshes
      (⟨rows, after, if flushes then [.flush .ok] else []⟩ : Desk Rows Event) =
        (.ok (), ⟨rows, after, prepared flushes refreshes⟩) := reread_ok read
  refine (Work.bind_of_ok sending).trans ?_
  exact Work.bind_of_ok reading

theorem execute_delivered (reaches : Reaches weather flushes refreshes) :
    Delivered weather after event
      ((transact flushes refreshes after event value).execute weather broken unpublished
        (.start rows)).2 := by
  obtain ⟨sent, read, done⟩ := reaches
  rw [execute_reaching sent read, done]
  have committing : Work.commit .ok broken
      (⟨rows, after, prepared flushes refreshes⟩ : Desk Rows Event) =
        (.ok (), ⟨after, after, prepared flushes refreshes ++ [.commit .ok after]⟩) := rfl
  rw [Work.bind_of_ok committing, Work.bind_pure_desk, announce_acts]
  refine ⟨rfl, prepared flushes refreshes, fun act => prepares_of_mem, ?_⟩
  simp only [List.append_assoc, List.cons_append, List.nil_append]

theorem execute_fruitless (stuck : ¬ Reaches weather flushes refreshes) :
    ∀ act ∈ ((transact flushes refreshes after event value).execute weather broken unpublished
      (.start rows)).2.acts, act.Fruitless := by
  intro act member
  by_cases sent : flushes = true → weather.flush = .ok
  · by_cases read : refreshes = true → weather.refresh = .ok
    · have undone : weather.commit ≠ .ok := fun done => stuck ⟨sent, read, done⟩
      rw [execute_reaching sent read, Work.bind_of_error (Work.commit_failed undone)] at member
      rcases List.mem_append.mp member with member | member
      · exact (prepares_of_mem member).fruitless
      · cases List.mem_singleton.mp member
        exact undone
    · push Not at read
      obtain ⟨rfl, unread⟩ := read
      change act ∈ ((send weather broken flushes after >>= _) (Desk.start rows)).2.acts at member
      rw [Work.bind_of_ok (send_ok sent), Work.bind_of_error (reread_failed unread)] at member
      rcases List.mem_append.mp member with member | member
      · have before : act ∈ prepared flushes false := by
          rw [prepared]
          exact List.mem_append_left _ member
        exact (prepares_of_mem before).fruitless
      · cases List.mem_singleton.mp member
        trivial
  · push Not at sent
    obtain ⟨rfl, unsent⟩ := sent
    change act ∈ ((send weather broken true after >>= _) (Desk.start rows)).2.acts at member
    rw [Work.bind_of_error (send_failed unsent)] at member
    cases List.mem_singleton.mp member
    trivial

theorem refused_fruitless {error : Error} :
    ∀ act ∈ ((refused error : Plan Rows Event Error Value).execute weather broken unpublished
      (.start rows)).2.acts, act.Fruitless := by
  intro act member
  by_cases sent : weather.flush = .ok
  · have refusing : Work.flush weather.flush broken (fun _ => .error error)
        (Desk.start rows : Desk Rows Event) =
          (.error error, (Desk.record (.start rows) (.flush .failed)).abandon) := by
      rw [sent]
      rfl
    change act ∈ ((Work.flush weather.flush broken (fun _ => .error error) >>= _)
      (Desk.start rows)).2.acts at member
    rw [Work.bind_of_error refusing] at member
    cases List.mem_singleton.mp member
    trivial
  · change act ∈ ((Work.flush weather.flush broken (fun _ => .error error) >>= _)
      (Desk.start rows)).2.acts at member
    rw [Work.bind_of_error (Work.flush_failed sent)] at member
    cases List.mem_singleton.mp member
    trivial

/-- A coroutine that flushes, reads its rows back, commits and publishes executes the plan of its
write. -/
theorem execute_ofWrite (refreshes : Bool) (event : Option Event)
    (write : Rows → Except Error Rows) (give : Rows → Value) :
    (do
      Work.flush weather.flush broken write
      let written ← Work.read
      reread weather broken refreshes
      Work.commit weather.commit broken
      announce weather unpublished event
      return give written) (.start rows) =
    (ofWrite refreshes event give (write rows)).execute weather broken unpublished
      (.start rows) := by
  by_cases sent : weather.flush = .ok
  · cases written : write rows with
    | error error =>
        have refusing (refused : Rows → Except Error Rows) (gives : refused rows = .error error) :
            Work.flush weather.flush broken refused (Desk.start rows : Desk Rows Event) =
              (.error error, (Desk.record (.start rows) (.flush .failed)).abandon) := by
          rw [sent]
          exact Work.flush_refused gives
        rw [Work.bind_of_error (refusing write written)]
        exact (Work.bind_of_error (refusing (fun _ => .error error) rfl)).symm
    | ok after =>
        have sending : Work.flush weather.flush broken write (Desk.start rows : Desk Rows Event) =
            (.ok (), { Desk.record (.start rows) (.flush .ok) with working := after }) := by
          rw [sent]
          exact Work.flush_ok written
        rw [Work.bind_of_ok sending]
        change (Work.read >>= _) (⟨rows, after, [.flush .ok]⟩ : Desk Rows Event) = _
        rw [Work.bind_read]
        have sending' : send weather broken true after (Desk.start rows : Desk Rows Event) =
            (.ok (), ⟨rows, after, [.flush .ok]⟩) := send_ok fun _ => sent
        change _ = (send weather broken true after >>= fun _ => do
          reread weather broken refreshes
          Work.commit weather.commit broken
          announce weather unpublished event
          return give after) (Desk.start rows)
        rw [Work.bind_of_ok sending']
  · rw [Work.bind_of_error (Work.flush_failed sent)]
    cases write rows with
    | error error => exact (Work.bind_of_error (Work.flush_failed sent)).symm
    | ok after => exact (Work.bind_of_error (send_failed sent)).symm

/-- The coroutines that read nothing back and always publish. -/
theorem execute_ofWrite_always (write : Rows → Except Error Rows) (sent : Event) (value : Value) :
    (do
      Work.flush weather.flush broken write
      Work.commit weather.commit broken
      Work.publish weather.publish unpublished sent
      return value) (.start rows) =
    (ofWrite false (some sent) (fun _ => value) (write rows)).execute weather broken unpublished
      (.start rows) :=
  execute_ofWrite false (some sent) write fun _ => value

/-- A call delivers the rows and the event of its plan, or it puts nothing on the stream. -/
theorem execute_cases (plan : Plan Rows Event Error Value) :
    (∀ act ∈ (plan.execute weather broken unpublished (.start rows)).2.acts, act.Fruitless) ∨
      ∃ flushes refreshes after event value, plan = .transact flushes refreshes after event value ∧
        Reaches weather flushes refreshes ∧
        Delivered weather after event
          (plan.execute weather broken unpublished (.start rows)).2 := by
  cases plan with
  | stop result =>
      refine .inl ?_
      intro act member
      cases member
  | refused error => exact .inl refused_fruitless
  | transact flushes refreshes after event value =>
      by_cases reaches : Reaches weather flushes refreshes
      · exact .inr ⟨_, _, _, _, _, rfl, reaches, execute_delivered reaches⟩
      · exact .inl (execute_fruitless reaches)

end Plan

end UnitOfWork
