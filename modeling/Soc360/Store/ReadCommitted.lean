import Soc360.Store.Machine
import Soc360.Store.Table

set_option autoImplicit false

/-! Transactions at READ COMMITTED on one table. One inserts rows, or it reads a row without a
lock, works out from it the columns to change, and writes those columns to the row as it then
is. -/

namespace ReadCommitted

/-- The requests on a table. `create` and `edit` give nothing where a request is refused, `write`
is the SET of an UPDATE, and `admits` are the constraints on a row beside the others. -/
structure Service (Key Row Columns Create Edit : Type) where
  create : Create → Table Key Row → Option (List (Key × Row))
  edit : Edit → Row → Option Columns
  write : Columns → Row → Row
  admits : Table Key Row → Key → Row → Bool

/-- An attribute is written where its value is no longer the one that was read. -/
def changed {Value : Type} [DecidableEq Value] (before after : Value) : Option Value :=
  if after = before then none else some after

theorem changed_none {Value : Type} [DecidableEq Value] {before after : Value} :
    changed before after = none ↔ after = before := by
  rw [changed]
  split
  next same => simp [same]
  next other => simp [other]

/-- What is stored after the write, where an attribute that is not written is as it was read. -/
theorem changed_written {Value : Type} [DecidableEq Value] {before after current : Value}
    (kept : changed before after = none → current = before) :
    (changed before after).getD current = after := by
  by_cases same : after = before
  · have unwritten : changed before after = none := changed_none.mpr same
    rw [unwritten, Option.getD_none, kept unwritten, same]
  · rw [changed, if_neg same, Option.getD_some]

/-- How far a transaction is. `flushed` holds the new version of its row, and the lock on it. -/
inductive Stage (Key Row Columns Edit : Type) where
  | idle
  | inserting (rows : List (Key × Row))
  | inserted (rows : List (Key × Row))
  | loaded (key : Key) (before : Row) (edit : Edit)
  | validated (key : Key) (before : Row) (columns : Columns)
  | flushed (key : Key) (row : Row)

inductive Label (Key Create Edit : Type) where
  | create (task : Nat) (data : Create)
  | read (task : Nat) (key : Key) (edit : Edit)
  | validate (task : Nat)
  | flush (task : Nat)
  | commit (task : Nat)
  | rollback (task : Nat)

structure World (Key Row Columns Edit : Type) where
  committed : Table Key Row
  locks : Key → Option Nat
  stage : Nat → Stage Key Row Columns Edit

variable {Key Row Columns Create Edit : Type}

def World.empty : World Key Row Columns Edit := ⟨.empty, fun _ => none, fun _ => .idle⟩

def World.goto (world : World Key Row Columns Edit) (task : Nat)
    (stage : Stage Key Row Columns Edit) : World Key Row Columns Edit :=
  { world with stage := Function.update world.stage task stage }

section

variable [DecidableEq Key]

def World.lock (world : World Key Row Columns Edit) (key : Key) (holder : Option Nat) :
    World Key Row Columns Edit :=
  { world with locks := Function.update world.locks key holder }

namespace Service

variable (service : Service Key Row Columns Create Edit)

/-- The rows become visible together. A new key is one that no row ever had. -/
def insertAll : List (Key × Row) → Table Key Row → Option (Table Key Row)
  | [], table => some table
  | (key, row) :: rest, table =>
      match table.slot key with
      | .fresh => if service.admits table key row then insertAll rest (table.insert key row) else none
      | _ => none

/-- An UPDATE waits for the lock on its row. A constraint is decided against committed rows, for
the statement waits for the end of a transaction with a row that is in its way. -/
def step (world : World Key Row Columns Edit) :
    Label Key Create Edit → Option (World Key Row Columns Edit)
  | .create task data =>
      match world.stage task with
      | .idle =>
          match service.create data world.committed with
          | none => some world
          | some rows => some (world.goto task (.inserting rows))
      | _ => none
  | .read task key edit =>
      match world.stage task, world.committed.find key with
      | .idle, none => some world
      | .idle, some before => some (world.goto task (.loaded key before edit))
      | _, _ => none
  | .validate task =>
      match world.stage task with
      | .loaded key before edit =>
          match service.edit edit before with
          | none => some (world.goto task .idle)
          | some columns => some (world.goto task (.validated key before columns))
      | _ => none
  | .flush task =>
      match world.stage task with
      | .inserting rows => some (world.goto task (.inserted rows))
      | .validated key _ columns =>
          match world.locks key, world.committed.find key with
          | none, some current =>
              some ((world.lock key (some task)).goto task
                (.flushed key (service.write columns current)))
          | _, _ => none
      | _ => none
  | .commit task =>
      match world.stage task with
      | .inserted rows =>
          (service.insertAll rows world.committed).map fun committed =>
            { world.goto task .idle with committed := committed }
      | .flushed key row =>
          if service.admits world.committed key row then
            some { (world.lock key none).goto task .idle with
              committed := world.committed.update fun id _ => if id = key then some row else none }
          else none
      | _ => none
  | .rollback task =>
      match world.stage task with
      | .flushed key _ => some ((world.lock key none).goto task .idle)
      | _ => some (world.goto task .idle)

def machine : Machine (World Key Row Columns Edit) (Label Key Create Edit) where
  start := fun world => world = .empty
  step := service.step

end Service

end

/-- What a transaction has in hand when its rows and those of the table are valid. -/
def Stage.Sound (service : Service Key Row Columns Create Edit) (valid : Row → Prop) :
    Stage Key Row Columns Edit → Prop
  | idle => True
  | inserting rows => ∀ entry ∈ rows, valid entry.2
  | inserted rows => ∀ entry ∈ rows, valid entry.2
  | loaded _ before _ => valid before
  | validated _ before columns =>
      valid before ∧ ∃ edit, service.edit edit before = some columns
  | flushed _ row => valid row

structure Sound (service : Service Key Row Columns Create Edit) (valid : Row → Prop)
    (world : World Key Row Columns Edit) : Prop where
  stored : ∀ key row, world.committed.find key = some row → valid row
  staged : ∀ task, (world.stage task).Sound service valid

/-- Each UPDATE finds a row that its columns fit, given the row that they were worked out from. -/
def Fitting (fits : Row → Columns → Row → Prop) (world : World Key Row Columns Edit) :
    Label Key Create Edit → Prop
  | .flush task =>
      match world.stage task with
      | .validated key before columns =>
          ∀ current ∈ world.committed.find key, fits before columns current
      | _ => True
  | _ => True

instance (fits : Row → Columns → Row → Prop)
    [∀ before columns current, Decidable (fits before columns current)]
    (world : World Key Row Columns Edit) :
    ∀ label : Label Key Create Edit, Decidable (Fitting fits world label)
  | .flush task =>
      match staged : world.stage task with
      | .validated key before columns =>
          decidable_of_iff (∀ current ∈ world.committed.find key, fits before columns current)
            (by rw [Fitting, staged])
      | .idle => .isTrue (by rw [Fitting, staged]; trivial)
      | .inserting _ => .isTrue (by rw [Fitting, staged]; trivial)
      | .inserted _ => .isTrue (by rw [Fitting, staged]; trivial)
      | .loaded _ _ _ => .isTrue (by rw [Fitting, staged]; trivial)
      | .flushed _ _ => .isTrue (by rw [Fitting, staged]; trivial)
  | .create _ _ => .isTrue trivial
  | .read _ _ _ => .isTrue trivial
  | .validate _ => .isTrue trivial
  | .commit _ => .isTrue trivial
  | .rollback _ => .isTrue trivial

/-- The data of each INSERT is permitted. -/
def Creating (permitted : Create → Prop) : Label Key Create Edit → Prop
  | .create _ data => permitted data
  | _ => True

section

variable [DecidableEq Key] {service : Service Key Row Columns Create Edit} {valid : Row → Prop}
  {fits : Row → Columns → Row → Prop} {permitted : Create → Prop}
  {world next : World Key Row Columns Edit}

omit [DecidableEq Key] in
theorem Sound.goto (sound : Sound service valid world) (task : Nat)
    {stage : Stage Key Row Columns Edit} (staged : stage.Sound service valid) :
    Sound service valid (world.goto task stage) := by
  refine ⟨sound.stored, ?_⟩
  intro other
  by_cases same : other = task
  · subst same
    simpa only [World.goto, Function.update_self] using staged
  · simpa only [World.goto, Function.update_of_ne same] using sound.staged other

theorem Sound.lock (sound : Sound service valid world) (key : Key) (holder : Option Nat) :
    Sound service valid (world.lock key holder) :=
  ⟨sound.stored, sound.staged⟩

omit [DecidableEq Key] in
/-- A commit replaces the table by one of valid rows. -/
theorem Sound.publish (sound : Sound service valid world) {committed : Table Key Row}
    (stored : ∀ key row, committed.find key = some row → valid row) :
    Sound service valid { world with committed := committed } :=
  ⟨stored, sound.staged⟩

theorem insertAll_valid {rows : List (Key × Row)} {table after : Table Key Row}
    (inserted : service.insertAll rows table = some after)
    (given : ∀ entry ∈ rows, valid entry.2)
    (stored : ∀ key row, table.find key = some row → valid row) :
    ∀ key row, after.find key = some row → valid row := by
  induction rows generalizing table with
  | nil =>
      cases inserted
      exact stored
  | cons entry rest ih =>
      obtain ⟨key, row⟩ := entry
      simp only [Service.insertAll] at inserted
      split at inserted
      next =>
        split at inserted
        next =>
          apply ih inserted
          · intro other member
            exact given other (List.mem_cons_of_mem _ member)
          · intro id found there
            rw [Table.find_insert] at there
            by_cases same : id = key
            · rw [if_pos same] at there
              cases there
              exact given _ List.mem_cons_self
            · rw [if_neg same] at there
              exact stored id found there
        next => cases inserted
      next => cases inserted

theorem update_valid {table : Table Key Row} {key : Key} {after : Row} (holds : valid after)
    (stored : ∀ key row, table.find key = some row → valid row) :
    ∀ id row, (table.update fun id _ => if id = key then some after else none).find id = some row →
      valid row := by
  intro id row there
  rw [Table.find_update] at there
  obtain ⟨before, found, written⟩ := Option.map_eq_some_iff.mp there
  by_cases same : id = key
  · simp only [same, ↓reduceIte, Option.getD_some] at written
    exact written ▸ holds
  · simp only [same, ↓reduceIte, Option.getD_none] at written
    exact written ▸ stored id before found

/-- One step keeps every row valid, where an UPDATE fits the row that it finds. -/
theorem Sound.step
    (created : ∀ data table rows, permitted data → service.create data table = some rows →
      ∀ entry ∈ rows, valid entry.2)
    (edited : ∀ edit before columns current, valid before → valid current →
      service.edit edit before = some columns → fits before columns current →
      valid (service.write columns current))
    (sound : Sound service valid world) {label : Label Key Create Edit}
    (fitting : Fitting fits world label) (creating : Creating permitted label)
    (taken : service.step world label = some next) : Sound service valid next := by
  cases label with
  | create task data =>
      simp only [Service.step] at taken
      split at taken
      next =>
        split at taken
        next =>
          cases taken
          exact sound
        next rows accepted =>
          cases taken
          exact sound.goto task (created data _ rows creating accepted)
      next => cases taken
  | read task key edit =>
      simp only [Service.step] at taken
      split at taken
      next =>
        cases taken
        exact sound
      next before _ found =>
        cases taken
        exact sound.goto task (sound.stored key before found)
      next => cases taken
  | validate task =>
      simp only [Service.step] at taken
      split at taken
      next key before edit stage =>
        have read : valid before := by
          have staged := sound.staged task
          rw [stage] at staged
          exact staged
        split at taken
        next =>
          cases taken
          exact sound.goto task trivial
        next columns accepted =>
          cases taken
          exact sound.goto task ⟨read, edit, accepted⟩
      next => cases taken
  | flush task =>
      have staged := sound.staged task
      simp only [Service.step] at taken
      split at taken
      next rows stage =>
        cases taken
        rw [stage] at staged
        exact sound.goto task staged
      next key before columns stage =>
        rw [stage] at staged
        obtain ⟨read, edit, accepted⟩ := staged
        simp only [Fitting, stage] at fitting
        split at taken
        next current _ found =>
          cases taken
          refine (sound.lock key _).goto task ?_
          exact edited edit before columns current read (sound.stored key current found) accepted
            (fitting current found)
        next => cases taken
      next => cases taken
  | commit task =>
      have staged := sound.staged task
      simp only [Service.step] at taken
      split at taken
      next rows stage =>
        rw [stage] at staged
        obtain ⟨committed, inserted, rfl⟩ := Option.map_eq_some_iff.mp taken
        have ended : Sound service valid (world.goto task .idle) := sound.goto task trivial
        exact ended.publish (insertAll_valid inserted staged sound.stored)
      next key row stage =>
        rw [stage] at staged
        split at taken
        next =>
          cases taken
          have ended : Sound service valid ((world.lock key none).goto task .idle) :=
            (sound.lock key none).goto task trivial
          exact ended.publish (update_valid staged sound.stored)
        next => cases taken
      next => cases taken
  | rollback task =>
      simp only [Service.step] at taken
      split at taken
      next key row _ =>
        cases taken
        exact (sound.lock key none).goto task trivial
      next =>
        cases taken
        exact sound.goto task trivial

/-- Where permitted requests give valid rows and every UPDATE fits the row that it finds, no run of
permitted requests leaves a row that is not valid. -/
theorem stored_valid_where (valid : Row → Prop)
    (created : ∀ data table rows, permitted data → service.create data table = some rows →
      ∀ entry ∈ rows, valid entry.2)
    (edited : ∀ edit before columns current, valid before → valid current →
      service.edit edit before = some columns → fits before columns current →
      valid (service.write columns current))
    (reached : service.machine.ReachableBy
      (fun world label => Fitting fits world label ∧ Creating permitted label) world) :
    ∀ key row, world.committed.find key = some row → valid row := by
  have sound : Sound service valid world := by
    apply reached.invariant
    · rintro state rfl
      refine ⟨?_, fun _ => trivial⟩
      intro key row found
      cases found
    · intro state next label _ before meets taken
      exact before.step created edited meets.1 meets.2 taken
  exact sound.stored

theorem stored_valid (valid : Row → Prop)
    (created : ∀ data table rows, service.create data table = some rows →
      ∀ entry ∈ rows, valid entry.2)
    (edited : ∀ edit before columns current, valid before → valid current →
      service.edit edit before = some columns → fits before columns current →
      valid (service.write columns current))
    (reached : service.machine.ReachableBy (Fitting fits) world) :
    ∀ key row, world.committed.find key = some row → valid row := by
  apply stored_valid_where valid (fun data table rows (_ : True) => created data table rows) edited
  apply reached.mono
  intro state label fitting
  refine ⟨fitting, ?_⟩
  cases label with
  | create => trivial
  | _ => trivial

/-! Rows that a constraint keeps apart. -/

/-- What a step does to the table. -/
theorem step_committed {label : Label Key Create Edit}
    (taken : service.step world label = some next) :
    next.committed = world.committed ∨
      (∃ rows, service.insertAll rows world.committed = some next.committed) ∨
      ∃ key row, service.admits world.committed key row = true ∧
        next.committed =
          world.committed.update fun id _ => if id = key then some row else none := by
  cases label with
  | create task data =>
      left
      simp only [Service.step] at taken
      split at taken
      next =>
        split at taken
        next => cases taken; rfl
        next => cases taken; rfl
      next => cases taken
  | read task key edit =>
      left
      simp only [Service.step] at taken
      split at taken
      next => cases taken; rfl
      next => cases taken; rfl
      next => cases taken
  | validate task =>
      left
      simp only [Service.step] at taken
      split at taken
      next =>
        split at taken
        next => cases taken; rfl
        next => cases taken; rfl
      next => cases taken
  | flush task =>
      left
      simp only [Service.step] at taken
      split at taken
      next => cases taken; rfl
      next =>
        split at taken
        next => cases taken; rfl
        next => cases taken
      next => cases taken
  | commit task =>
      right
      simp only [Service.step] at taken
      split at taken
      next rows _ =>
        obtain ⟨committed, inserted, rfl⟩ := Option.map_eq_some_iff.mp taken
        exact .inl ⟨rows, inserted⟩
      next key row _ =>
        split at taken
        next admitted =>
          cases taken
          exact .inr ⟨key, row, admitted, rfl⟩
        next => cases taken
      next => cases taken
  | rollback task =>
      left
      simp only [Service.step] at taken
      split at taken
      next => cases taken; rfl
      next => cases taken; rfl

/-- The keys of the rows are listed, and the rows of two keys are apart. -/
structure Apart (apart : Row → Row → Prop) (table : Table Key Row) : Prop where
  listed : ∀ key row, table.find key = some row → key ∈ table.keys
  differ : ∀ first second row other, table.find first = some row → table.find second = some other →
    first ≠ second → apart row other

/-- A table with a row of its own at one key. -/
theorem Apart.put {apart : Row → Row → Prop} {table after : Table Key Row} {key : Key} {row : Row}
    (symmetric : ∀ row other, apart row other → apart other row) (before : Apart apart table)
    (beside : ∀ id other, table.find id = some other → id ≠ key → apart other row)
    (known : ∀ id, id ∈ table.keys → id ∈ after.keys)
    (own : ∀ other, after.find key = some other → other = row ∧ key ∈ after.keys)
    (others : ∀ id, id ≠ key → after.find id = table.find id) : Apart apart after := by
  constructor
  · intro id other found
    by_cases same : id = key
    · subst same
      exact (own other found).2
    · rw [others id same] at found
      exact known id (before.listed id other found)
  · intro first second one other found found' differ
    by_cases same : first = key
    · subst same
      rw [others second differ.symm] at found'
      rw [(own one found).1]
      exact symmetric _ _ (beside second other found' differ.symm)
    · rw [others first same] at found
      by_cases same' : second = key
      · subst same'
        rw [(own other found').1]
        exact beside first one found same
      · rw [others second same'] at found'
        exact before.differ first second one other found found' differ

theorem insertAll_apart {apart : Row → Row → Prop}
    (symmetric : ∀ row other, apart row other → apart other row)
    (admitted : ∀ table key row, (∀ id other, table.find id = some other → id ∈ table.keys) →
      service.admits table key row = true →
      ∀ id other, table.find id = some other → id ≠ key → apart other row)
    {rows : List (Key × Row)} {table after : Table Key Row}
    (inserted : service.insertAll rows table = some after) (before : Apart apart table) :
    Apart apart after := by
  induction rows generalizing table with
  | nil =>
      cases inserted
      exact before
  | cons entry rest ih =>
      obtain ⟨key, row⟩ := entry
      simp only [Service.insertAll] at inserted
      split at inserted
      next =>
        split at inserted
        next admits =>
          apply ih inserted
          apply before.put symmetric (admitted table key row before.listed admits)
          · intro id member
            exact List.mem_cons_of_mem _ member
          · intro other found
            rw [Table.find_insert, if_pos rfl] at found
            exact ⟨(Option.some.inj found).symm, List.mem_cons_self⟩
          · intro id other
            rw [Table.find_insert, if_neg other]
        next => cases inserted
      next => cases inserted

/-- A constraint that keeps a new row apart from the others keeps all rows apart. -/
theorem stored_apart {apart : Row → Row → Prop} {allowed : World Key Row Columns Edit →
      Label Key Create Edit → Prop}
    (symmetric : ∀ row other, apart row other → apart other row)
    (admitted : ∀ table key row, (∀ id other, table.find id = some other → id ∈ table.keys) →
      service.admits table key row = true →
      ∀ id other, table.find id = some other → id ≠ key → apart other row)
    (reached : service.machine.ReachableBy allowed world) : Apart apart world.committed := by
  apply reached.invariant
  · rintro state rfl
    constructor
    · intro key row found
      cases found
    · intro first second row other found
      cases found
  · intro state next label _ before _ taken
    rcases step_committed taken with same | ⟨rows, inserted⟩ | ⟨key, row, admits, written⟩
    · rw [same]
      exact before
    · exact insertAll_apart symmetric admitted inserted before
    · rw [written]
      apply before.put symmetric (admitted _ key row before.listed admits)
      · exact fun id member => member
      · intro other found
        rw [Table.find_update, if_pos rfl, Option.map_eq_some_iff] at found
        obtain ⟨current, found, rfl⟩ := found
        exact ⟨rfl, before.listed key current found⟩
      · intro id other
        rw [Table.find_update, if_neg other]
        exact Option.map_id'

/-- A transaction of its own that inserts one row. -/
theorem reachable_insert (task : Nat) {data : Create} {key : Key} {row : Row}
    (reached : service.machine.ReachableBy
      (fun world label => Fitting fits world label ∧ Creating permitted label) world)
    (idle : world.stage task = .idle) (allowed : permitted data)
    (created : service.create data world.committed = some [(key, row)])
    (free : world.committed.slot key = .fresh)
    (admits : service.admits world.committed key row = true) :
    service.machine.ReachableBy
      (fun world label => Fitting fits world label ∧ Creating permitted label)
      { world with committed := world.committed.insert key row } := by
  have inserting : service.step world (.create task data) =
      some (world.goto task (.inserting [(key, row)])) := by
    simp only [Service.step, idle, created]
  have flushed : service.step (world.goto task (.inserting [(key, row)])) (.flush task) =
      some ((world.goto task (.inserting [(key, row)])).goto task (.inserted [(key, row)])) := by
    simp only [Service.step, World.goto, Function.update_self]
  have committed : service.step ((world.goto task (.inserting [(key, row)])).goto task
      (.inserted [(key, row)])) (.commit task) =
        some { world with committed := world.committed.insert key row } := by
    simp only [Service.step, World.goto, Function.update_self, Function.update_idem,
      Service.insertAll, free, admits, ↓reduceIte, Option.map_some]
    rw [← idle, Function.update_eq_self]
  have fitting : Fitting fits (world.goto task (.inserting [(key, row)]))
      (.flush task : Label Key Create Edit) := by
    simp only [Fitting, World.goto, Function.update_self]
  have fits' : ∀ state, Fitting fits state (.create task data : Label Key Create Edit) ∧
      Fitting fits state (.commit task : Label Key Create Edit) := fun _ => ⟨trivial, trivial⟩
  have permits : Creating permitted (.create task data : Label Key Create Edit) ∧
      Creating permitted (.flush task : Label Key Create Edit) ∧
      Creating permitted (.commit task : Label Key Create Edit) := ⟨allowed, trivial, trivial⟩
  have first := Machine.ReachableBy.step reached ⟨(fits' _).1, permits.1⟩ inserting
  have second := Machine.ReachableBy.step first ⟨fitting, permits.2.1⟩ flushed
  exact Machine.ReachableBy.step second ⟨(fits' _).2, permits.2.2⟩ committed

end

end ReadCommitted
