import Mathlib.Data.List.Nodup
import Mathlib.Logic.Function.Basic
import Soc360.Store.Checks

set_option autoImplicit false

/-! Relations whose rows a policy guards. A statement sees and touches the rows that pass it. Keys
and cascades look at all of them. -/

namespace RowSecurity

/-- A foreign key with `ON DELETE CASCADE`. The key of a row with a null column is `none`. -/
structure Reference (Relation Id Row : Type) where
  parent : Relation
  key : Row → Option (List Id)
  target : Id × Row → List Id

/-- The constraints of the relations. The primary key is the identifier of a row. -/
structure Schema (Relation Id Row : Type) where
  relations : List Relation
  references : Relation → List (Reference Relation Id Row)
  valid : Relation → Id × Row → Bool
  clashes : Relation → Row → Row → Bool
  rank : Relation → Nat
  depth : Nat
  listed : ∀ relation, relation ∈ relations
  descends : ∀ relation, ∀ reference ∈ references relation, rank reference.parent < rank relation
  bounded : ∀ relation, rank relation ≤ depth
  identifies : ∀ relation, ∀ reference ∈ references relation, ∀ first second : Id × Row,
    reference.target first = reference.target second → first.1 = second.1

/-- The rows of each relation, in the order of a scan. -/
abbrev Rows (Relation Id Row : Type) := Relation → List (Id × Row)

abbrev Policy (Relation Id Row : Type) := Rows Relation Id Row → Relation → Id × Row → Bool

inductive SqlError where
  | policy
  | check
  | unique
  | foreignKey
  deriving DecidableEq, Repr

/-- A statement computes what it reads and writes from the rows that it sees. -/
inductive Statement (Relation Id Row Answer : Type) where
  | select (query : Rows Relation Id Row → Answer)
  | insert (relation : Relation) (entries : Rows Relation Id Row → List (Id × Row))
  | update (relation : Relation) (change : Rows Relation Id Row → Id × Row → Option Row)
  | delete (relation : Relation) (matching : Rows Relation Id Row → Id × Row → Bool)

/-- What a statement returns: an answer, or the rows that it wrote. -/
inductive Result (Id Row Answer : Type) where
  | selected (answer : Answer)
  | touched (entries : List (Id × Row))
  deriving DecidableEq, Repr

variable {Relation Id Row Answer : Type}

/-- The rows that pass the policy. -/
def visible (policy : Policy Relation Id Row) (rows : Rows Relation Id Row) :
    Rows Relation Id Row :=
  fun relation => (rows relation).filter (policy rows relation)

variable [DecidableEq Id]

def Reference.refers (reference : Reference Relation Id Row) (child : Row) (parent : Id × Row) :
    Bool :=
  reference.key child == some (reference.target parent)

namespace Schema

variable (schema : Schema Relation Id Row) (rows : Rows Relation Id Row)

/-- Every foreign key of a row finds its row. -/
def anchored (relation : Relation) (entry : Id × Row) : Bool :=
  (schema.references relation).all fun reference =>
    (reference.key entry.2).isNone || (rows reference.parent).any (reference.refers entry.2)

/-- The checks of a new row, against the rows that are there. -/
def checkRow (accepts : Id × Row → Bool) (relation : Relation) (others : List (Id × Row))
    (entry : Id × Row) : Except SqlError Unit := do
  Except.refuse (!accepts entry) .policy
  Except.refuse (!schema.valid relation entry) .check
  Except.refuse (others.any fun other => other.1 == entry.1 ||
    schema.clashes relation other.2 entry.2) .unique

def checkInserts (accepts : Id × Row → Bool) (relation : Relation) :
    List (Id × Row) → List (Id × Row) → Except SqlError Unit
  | _, [] => .ok ()
  | table, entry :: rest => do
      schema.checkRow accepts relation table entry
      checkInserts accepts relation (table ++ [entry]) rest

/-- The rows are written one after another. -/
def checkUpdates (accepts : Id × Row → Bool) (relation : Relation)
    (change : Id × Row → Option Row) : List (Id × Row) → List (Id × Row) → Except SqlError Unit
  | _, [] => .ok ()
  | before, entry :: after =>
      match change entry with
      | none => checkUpdates accepts relation change (before ++ [entry]) after
      | some row => do
          schema.checkRow accepts relation (before ++ after) (entry.1, row)
          checkUpdates accepts relation change (before ++ [(entry.1, row)]) after

/-- A row refers to the former version of a row, and to none that is left. -/
def strands [DecidableEq Relation] (after : Rows Relation Id Row) (relation : Relation)
    (former : Id × Row) : Bool :=
  schema.relations.any fun child => (schema.references child).any fun reference =>
    reference.parent == relation && (after child).any fun entry =>
      reference.refers entry.2 former && !(after relation).any (reference.refers entry.2)

/-- What is deleted after some rounds of cascading. -/
def cascade (gone : Relation → Id × Row → Bool) : Nat → Relation → Id × Row → Bool
  | 0 => gone
  | rounds + 1 => fun relation entry =>
      cascade gone rounds relation entry || (schema.references relation).any fun reference =>
        (rows reference.parent).any fun parent =>
          cascade gone rounds reference.parent parent && reference.refers entry.2 parent

end Schema

/-- The change of the rows that are seen. -/
def guarded (policy : Policy Relation Id Row) (rows : Rows Relation Id Row) (relation : Relation)
    (change : Rows Relation Id Row → Id × Row → Option Row) (entry : Id × Row) : Option Row :=
  if policy rows relation entry then change (visible policy rows) entry else none

/-- The rows that a change writes. -/
def written (change : Id × Row → Option Row) (table : List (Id × Row)) : List (Id × Row) :=
  table.filter fun entry => (change entry).isSome

def changed (change : Id × Row → Option Row) (entry : Id × Row) : Id × Row :=
  (entry.1, (change entry).getD entry.2)

variable [DecidableEq Relation]

/-- One statement. The policy guards the rows that it reads and the rows that it writes. -/
def execute (schema : Schema Relation Id Row) (policy : Policy Relation Id Row)
    (rows : Rows Relation Id Row) (statement : Statement Relation Id Row Answer) :
    Except SqlError (Result Id Row Answer × Rows Relation Id Row) :=
  match statement with
  | .select query => .ok (.selected (query (visible policy rows)), rows)
  | .insert relation entries => do
      let entries := entries (visible policy rows)
      schema.checkInserts (policy rows relation) relation (rows relation) entries
      let after := Function.update rows relation (rows relation ++ entries)
      Except.refuse (!entries.all (schema.anchored after relation)) .foreignKey
      return (.touched entries, after)
  | .update relation change => do
      let change := guarded policy rows relation change
      schema.checkUpdates (policy rows relation) relation change [] (rows relation)
      let after := Function.update rows relation ((rows relation).map (changed change))
      let touched := written change (rows relation)
      Except.refuse (!(touched.map (changed change)).all (schema.anchored after relation))
        .foreignKey
      Except.refuse (touched.any (schema.strands after relation)) .foreignKey
      return (.touched (touched.map (changed change)), after)
  | .delete relation matching =>
      let matched := fun entry =>
        policy rows relation entry && matching (visible policy rows) entry
      let gone := schema.cascade rows (fun other entry => other == relation && matched entry)
        schema.depth
      .ok (.touched ((rows relation).filter matched),
        fun other => (rows other).filter fun entry => !gone other entry)

/-- The identifiers of a relation are distinct, and no reference dangles. -/
structure Schema.Consistent (schema : Schema Relation Id Row) (rows : Rows Relation Id Row) :
    Prop where
  keyed : ∀ relation, ((rows relation).map Prod.fst).Nodup
  anchored : ∀ relation, ∀ entry ∈ rows relation, schema.anchored rows relation entry = true

/-- Whose the rows are. A row is owned by itself, or `through` the row that it refers to. A row
and the row that it refers to have one owner. -/
structure Scope (schema : Schema Relation Id Row) where
  own : Relation → Id × Row → Bool
  through : Relation → Option (Reference Relation Id Row)
  direct : ∀ relation, ∀ reference ∈ schema.references relation, through reference.parent = none
  only : ∀ relation reference, through relation = some reference →
    schema.references relation = [reference]
  together : ∀ relation, ∀ reference ∈ schema.references relation, through relation = none →
    ∀ child parent, reference.refers child.2 parent = true →
      own relation child = own reference.parent parent

namespace Scope

variable {schema : Schema Relation Id Row} (scope : Scope schema)

/-- The policy of an owner: only its rows pass. -/
def owns : Policy Relation Id Row := fun rows relation entry =>
  match scope.through relation with
  | none => scope.own relation entry
  | some reference => (rows reference.parent).any fun parent =>
      scope.own reference.parent parent && reference.refers entry.2 parent

end Scope

section

variable {schema : Schema Relation Id Row} {scope : Scope schema} {rows after : Rows Relation Id Row}
  {relation : Relation} {reference : Reference Relation Id Row} {entry parent : Id × Row}

omit [DecidableEq Relation] in
theorem Reference.refers_iff {child : Row} : reference.refers child parent = true ↔
    reference.key child = some (reference.target parent) := by
  rw [refers, beq_iff_eq]

omit [DecidableEq Relation] in
/-- A reference finds one row at most. -/
theorem Schema.Consistent.parent_eq (consistent : schema.Consistent rows)
    (listed : reference ∈ schema.references relation) {other : Id × Row} {child : Row}
    (member : parent ∈ rows reference.parent) (member' : other ∈ rows reference.parent)
    (refers : reference.refers child parent = true) (refers' : reference.refers child other = true) :
    parent = other := by
  rw [Reference.refers_iff] at refers refers'
  have target : reference.target parent = reference.target other :=
    Option.some.inj (refers.symm.trans refers')
  exact List.inj_on_of_nodup_map (consistent.keyed reference.parent) member member'
    (schema.identifies relation reference listed parent other target)

omit [DecidableEq Relation] in
theorem Scope.owns_parent (listed : reference ∈ schema.references relation) :
    scope.owns rows reference.parent parent = scope.own reference.parent parent := by
  rw [owns, scope.direct relation reference listed]

omit [DecidableEq Relation] in
/-- A row has the owner of the row that it refers to. -/
theorem Scope.owns_refers (consistent : schema.Consistent rows)
    (listed : reference ∈ schema.references relation) (member : parent ∈ rows reference.parent)
    (refers : reference.refers entry.2 parent = true) :
    scope.owns rows relation entry = scope.own reference.parent parent := by
  rw [owns]
  cases through : scope.through relation with
  | none => exact scope.together relation reference listed through entry parent refers
  | some given =>
    have same : reference = given := by
      rw [scope.only relation given through] at listed
      exact List.mem_singleton.mp listed
    subst same
    change (rows reference.parent).any _ = _
    rw [Bool.eq_iff_iff, List.any_eq_true]
    constructor
    · intro ⟨other, member', both⟩
      rw [Bool.and_eq_true] at both
      rw [consistent.parent_eq listed member member' refers both.2]
      exact both.1
    · intro own
      exact ⟨parent, member, by rw [own, refers]; rfl⟩

omit [DecidableEq Relation] in
theorem Scope.owns_congr (same : ∀ relation, ∀ reference ∈ schema.references relation,
    (rows reference.parent).filter (scope.own reference.parent) =
      (after reference.parent).filter (scope.own reference.parent)) :
    scope.owns rows = scope.owns after := by
  funext relation entry
  rw [owns, owns]
  cases through : scope.through relation with
  | none => rfl
  | some reference =>
    have listed : reference ∈ schema.references relation := by
      rw [scope.only relation reference through]
      exact List.mem_singleton_self reference
    change (rows reference.parent).any _ = (after reference.parent).any _
    rw [← List.any_filter, ← List.any_filter, same relation reference listed]

omit [DecidableEq Relation] in
/-- The rows of an owner tell which they are. -/
theorem Scope.owns_visible : scope.owns (visible scope.owns rows) = scope.owns rows := by
  refine owns_congr fun relation reference listed => ?_
  have part : visible scope.owns rows reference.parent =
      (rows reference.parent).filter (scope.own reference.parent) := by
    refine List.filter_congr fun entry _ => ?_
    exact owns_parent listed
  rw [part, List.filter_filter]
  simp

omit [DecidableEq Relation] in
theorem visible_visible : visible scope.owns (visible scope.owns rows) = visible scope.owns rows := by
  funext relation
  rw [visible, Scope.owns_visible, visible, List.filter_filter]
  simp

variable {accepts : Id × Row → Bool} {change change' : Id × Row → Option Row}

omit [DecidableEq Relation] in
/-- The rows that are not seen only matter where a key is taken. -/
theorem Schema.checkRow_filter (schema : Schema Relation Id Row) (relation : Relation)
    (accepts : Id × Row → Bool) (entry : Id × Row) (others : List (Id × Row)) :
    schema.checkRow accepts relation others entry = .error .unique ∨
      schema.checkRow accepts relation others entry =
        schema.checkRow accepts relation (others.filter accepts) entry := by
  simp only [checkRow]
  cases accepts entry with
  | false => exact .inr rfl
  | true =>
    cases schema.valid relation entry with
    | false => exact .inr rfl
    | true =>
      cases taken : others.any fun other => other.1 == entry.1 ||
          schema.clashes relation other.2 entry.2 with
      | true => exact .inl rfl
      | false =>
        right
        have free : (others.filter accepts).any (fun other => other.1 == entry.1 ||
            schema.clashes relation other.2 entry.2) = false := by
          rw [List.any_eq_false] at taken ⊢
          exact fun other member => taken other (List.mem_of_mem_filter member)
        rw [free]

omit [DecidableEq Relation] in
theorem Schema.checkRow_ok {others : List (Id × Row)} {done : Unit}
    (passes : schema.checkRow accepts relation others entry = .ok done) :
    accepts entry = true ∧ ∀ other ∈ others, other.1 ≠ entry.1 := by
  obtain ⟨_, passed, rest⟩ := Except.bind_eq_ok.mp passes
  obtain ⟨_, _, free⟩ := Except.bind_eq_ok.mp rest
  rw [Except.refuse_ok] at passed free
  refine ⟨by rwa [Bool.not_eq_false'] at passed, fun other member same => ?_⟩
  rw [List.any_eq_false] at free
  exact free other member (by simp [same])

omit [DecidableEq Relation] in
theorem Schema.checkInserts_filter (schema : Schema Relation Id Row) (relation : Relation)
    (accepts : Id × Row → Bool) (entries : List (Id × Row)) (table : List (Id × Row)) :
    schema.checkInserts accepts relation table entries = .error .unique ∨
      schema.checkInserts accepts relation table entries =
        schema.checkInserts accepts relation (table.filter accepts) entries := by
  induction entries generalizing table with
  | nil => exact .inr rfl
  | cons entry rest ih =>
    rw [checkInserts, checkInserts]
    rcases schema.checkRow_filter relation accepts entry table with taken | same
    · left
      rw [taken]
      rfl
    · rw [← same]
      cases passes : schema.checkRow accepts relation table entry with
      | error error => exact .inr rfl
      | ok =>
        have kept : (table ++ [entry]).filter accepts = table.filter accepts ++ [entry] := by
          rw [List.filter_append, List.filter_cons_of_pos (checkRow_ok passes).1, List.filter_nil]
        rw [Except.ok_bind, Except.ok_bind, ← kept]
        exact ih (table ++ [entry])

omit [DecidableEq Relation] in
theorem Schema.checkInserts_ok {entries table : List (Id × Row)} {done : Unit}
    (checked : schema.checkInserts accepts relation table entries = .ok done)
    (distinct : (table.map Prod.fst).Nodup) :
    (∀ entry ∈ entries, accepts entry = true) ∧ ((table ++ entries).map Prod.fst).Nodup := by
  induction entries generalizing table with
  | nil => exact ⟨nofun, by rwa [List.append_nil]⟩
  | cons entry rest ih =>
    rw [checkInserts] at checked
    obtain ⟨_, passes, others⟩ := Except.bind_eq_ok.mp checked
    obtain ⟨accepted, apart⟩ := checkRow_ok passes
    have longer : ((table ++ [entry]).map Prod.fst).Nodup := by
      rw [List.map_append, List.nodup_append]
      refine ⟨distinct, List.nodup_singleton _, ?_⟩
      intro first member second single same
      obtain ⟨other, inside, rfl⟩ := List.mem_map.mp member
      rw [List.map_singleton, List.mem_singleton] at single
      exact apart other inside (same.trans single)
    obtain ⟨accepts', distinct'⟩ := ih others longer
    rw [List.append_assoc, List.singleton_append] at distinct'
    refine ⟨fun other member => ?_, distinct'⟩
    rcases List.mem_cons.mp member with same | member
    · rw [same]
      exact accepted
    · exact accepts' other member

omit [DecidableEq Relation] in
theorem Schema.checkUpdates_filter (schema : Schema Relation Id Row) (relation : Relation)
    (hidden : ∀ entry, accepts entry = false → change entry = none)
    (after before : List (Id × Row)) :
    schema.checkUpdates accepts relation change before after = .error .unique ∨
      schema.checkUpdates accepts relation change before after =
        schema.checkUpdates accepts relation change (before.filter accepts)
          (after.filter accepts) := by
  induction after generalizing before with
  | nil => exact .inr rfl
  | cons entry after ih =>
    cases seen : accepts entry with
    | false =>
      have unseen : ¬ accepts entry = true := Bool.eq_false_iff.mp seen
      have dropped : (before ++ [entry]).filter accepts = before.filter accepts := by
        rw [List.filter_append, List.filter_cons_of_neg unseen, List.filter_nil, List.append_nil]
      rw [checkUpdates, hidden entry seen, List.filter_cons_of_neg unseen, ← dropped]
      exact ih (before ++ [entry])
    | true =>
      rw [List.filter_cons_of_pos seen, checkUpdates, checkUpdates]
      cases changes : change entry with
      | none =>
        have kept : (before ++ [entry]).filter accepts = before.filter accepts ++ [entry] := by
          rw [List.filter_append, List.filter_cons_of_pos seen, List.filter_nil]
        dsimp only
        rw [← kept]
        exact ih (before ++ [entry])
      | some row =>
        dsimp only
        rw [← List.filter_append]
        rcases schema.checkRow_filter relation accepts (entry.1, row) (before ++ after) with
          taken | same
        · left
          rw [taken]
          rfl
        · rw [← same]
          cases passes : schema.checkRow accepts relation (before ++ after) (entry.1, row) with
          | error error => exact .inr rfl
          | ok =>
            have kept : (before ++ [(entry.1, row)]).filter accepts =
                before.filter accepts ++ [(entry.1, row)] := by
              rw [List.filter_append, List.filter_cons_of_pos (checkRow_ok passes).1, List.filter_nil]
            rw [Except.ok_bind, Except.ok_bind, ← kept]
            exact ih (before ++ [(entry.1, row)])

omit [DecidableEq Relation] in
theorem Schema.checkUpdates_ok {before after : List (Id × Row)} {done : Unit}
    (checked : schema.checkUpdates accepts relation change before after = .ok done) :
    ∀ entry ∈ after, ∀ row, change entry = some row → accepts (entry.1, row) = true := by
  induction after generalizing before with
  | nil => exact nofun
  | cons entry after ih =>
    rw [checkUpdates] at checked
    cases changes : change entry with
    | none =>
      rw [changes] at checked
      intro other member row given
      rcases List.mem_cons.mp member with same | member
      · rw [same, changes] at given
        cases given
      · exact ih checked other member row given
    | some row =>
      rw [changes] at checked
      obtain ⟨_, passes, others⟩ := Except.bind_eq_ok.mp checked
      intro other member row' given
      rcases List.mem_cons.mp member with same | member
      · rw [same, changes] at given
        cases given
        rw [same]
        exact (checkRow_ok passes).1
      · exact ih others other member row' given

variable {gone : Relation → Id × Row → Bool} {rounds : Nat}

omit [DecidableEq Relation] in
theorem Schema.cascade_succ : schema.cascade rows gone (rounds + 1) relation entry = true ↔
    schema.cascade rows gone rounds relation entry = true ∨
      ∃ reference ∈ schema.references relation, ∃ parent ∈ rows reference.parent,
        schema.cascade rows gone rounds reference.parent parent = true ∧
          reference.refers entry.2 parent = true := by
  rw [cascade, Bool.or_eq_true, List.any_eq_true]
  simp only [List.any_eq_true, Bool.and_eq_true]

omit [DecidableEq Relation] in
/-- As many rounds as a relation has ranks below it reach all of its rows. -/
theorem Schema.cascade_stable (enough : schema.rank relation ≤ rounds) :
    schema.cascade rows gone (rounds + 1) relation entry =
      schema.cascade rows gone rounds relation entry := by
  induction rounds generalizing relation entry with
  | zero =>
    rw [Bool.eq_iff_iff, cascade_succ]
    constructor
    · rintro (same | ⟨reference, listed, _⟩)
      · exact same
      · have below := schema.descends relation reference listed
        omega
    · exact .inl
  | succ rounds ih =>
    rw [Bool.eq_iff_iff, cascade_succ]
    constructor
    · rintro (same | ⟨reference, listed, parent, member, parentGone, refers⟩)
      · exact same
      · have below := schema.descends relation reference listed
        rw [ih (by omega)] at parentGone
        exact cascade_succ.mpr (.inr ⟨reference, listed, parent, member, parentGone, refers⟩)
    · exact .inl

omit [DecidableEq Relation] in
/-- A row goes with the row that it refers to. -/
theorem Schema.cascade_closed (listed : reference ∈ schema.references relation)
    (member : parent ∈ rows reference.parent)
    (parentGone : schema.cascade rows gone schema.depth reference.parent parent = true)
    (refers : reference.refers entry.2 parent = true) :
    schema.cascade rows gone schema.depth relation entry = true := by
  rw [← cascade_stable (schema.bounded relation)]
  exact cascade_succ.mpr (.inr ⟨reference, listed, parent, member, parentGone, refers⟩)

omit [DecidableEq Relation] in
/-- What goes with rows of an owner is the owner's. -/
theorem Schema.cascade_owned (consistent : schema.Consistent rows)
    (owned : ∀ relation entry, gone relation entry = true → scope.owns rows relation entry = true)
    (cascaded : schema.cascade rows gone rounds relation entry = true) :
    scope.owns rows relation entry = true := by
  induction rounds generalizing relation entry with
  | zero => exact owned relation entry cascaded
  | succ rounds ih =>
    rcases cascade_succ.mp cascaded with before | ⟨reference, listed, parent, member, before, refers⟩
    · exact ih before
    · rw [Scope.owns_refers consistent listed member refers, ← Scope.owns_parent listed]
      exact ih before

omit [DecidableEq Relation] in
theorem Schema.cascade_visible (consistent : schema.Consistent rows)
    (owned : scope.owns rows relation entry = true) :
    schema.cascade (visible scope.owns rows) gone rounds relation entry =
      schema.cascade rows gone rounds relation entry := by
  induction rounds generalizing relation entry with
  | zero => rfl
  | succ rounds ih =>
    rw [Bool.eq_iff_iff, cascade_succ, cascade_succ, ih owned]
    refine or_congr_right ⟨?_, ?_⟩
    · intro ⟨reference, listed, parent, member, parentGone, refers⟩
      obtain ⟨inside, own⟩ := List.mem_filter.mp member
      rw [ih own] at parentGone
      exact ⟨reference, listed, parent, inside, parentGone, refers⟩
    · intro ⟨reference, listed, parent, member, parentGone, refers⟩
      have own : scope.owns rows reference.parent parent = true := by
        rw [Scope.owns_parent listed, ← Scope.owns_refers consistent listed member refers]
        exact owned
      refine ⟨reference, listed, parent, List.mem_filter.mpr ⟨member, own⟩, ?_, refers⟩
      rw [ih own]
      exact parentGone

omit [DecidableEq Relation] in
theorem Schema.anchored_iff : schema.anchored rows relation entry = true ↔
    ∀ reference ∈ schema.references relation, reference.key entry.2 = none ∨
      ∃ parent ∈ rows reference.parent, reference.refers entry.2 parent = true := by
  rw [anchored, List.all_eq_true]
  simp only [Bool.or_eq_true, Option.isNone_iff_eq_none, List.any_eq_true]

theorem Schema.strands_eq_false : schema.strands after relation entry = false ↔
    ∀ child, ∀ reference ∈ schema.references child, reference.parent = relation →
      ∀ other ∈ after child, reference.refers other.2 entry = true →
        ∃ parent ∈ after relation, reference.refers other.2 parent = true := by
  simp only [strands, List.any_eq_false, Bool.not_eq_true, Bool.and_eq_true, beq_iff_eq,
    Bool.not_eq_true', not_and]
  constructor
  · intro each child reference listed same other member refers
    by_contra nobody
    refine each child (schema.listed child) reference listed same other member refers ?_
    intro parent inside
    exact Bool.eq_false_iff.mpr fun found => nobody ⟨parent, inside, found⟩
  · intro each child _ reference listed same other member refers nobody
    obtain ⟨parent, inside, found⟩ := each child reference listed same other member refers
    rw [nobody parent inside] at found
    cases found

/-- What an INSERT that succeeds has done. -/
theorem execute_insert {policy : Policy Relation Id Row}
    {entries : Rows Relation Id Row → List (Id × Row)} {result : Result Id Row Answer}
    (executed : execute schema policy rows (.insert relation entries) = .ok (result, after)) :
    schema.checkInserts (policy rows relation) relation (rows relation)
        (entries (visible policy rows)) = .ok () ∧
      after = Function.update rows relation (rows relation ++ entries (visible policy rows)) ∧
      ∀ entry ∈ entries (visible policy rows), schema.anchored after relation entry = true := by
  obtain ⟨_, checked, rest⟩ := Except.bind_eq_ok.mp executed
  obtain ⟨_, referred, rest⟩ := Except.bind_eq_ok.mp rest
  cases rest
  rw [Except.refuse_ok, Bool.not_eq_false', List.all_eq_true] at referred
  exact ⟨checked, rfl, referred⟩

theorem execute_update {policy : Policy Relation Id Row}
    {change : Rows Relation Id Row → Id × Row → Option Row} {result : Result Id Row Answer}
    (executed : execute schema policy rows (.update relation change) = .ok (result, after)) :
    schema.checkUpdates (policy rows relation) relation (guarded policy rows relation change) []
        (rows relation) = .ok () ∧
      after = Function.update rows relation
        ((rows relation).map (changed (guarded policy rows relation change))) ∧
      (∀ entry ∈ rows relation, (guarded policy rows relation change entry).isSome = true →
        schema.anchored after relation (changed (guarded policy rows relation change) entry) = true ∧
          schema.strands after relation entry = false) := by
  obtain ⟨_, checked, rest⟩ := Except.bind_eq_ok.mp executed
  obtain ⟨_, referred, rest⟩ := Except.bind_eq_ok.mp rest
  obtain ⟨_, kept, rest⟩ := Except.bind_eq_ok.mp rest
  cases rest
  rw [Except.refuse_ok, Bool.not_eq_false', List.all_eq_true] at referred
  rw [Except.refuse_ok, List.any_eq_false] at kept
  refine ⟨checked, rfl, fun entry member touched => ?_⟩
  have inside : entry ∈ written (guarded policy rows relation change) (rows relation) :=
    List.mem_filter.mpr ⟨member, touched⟩
  exact ⟨referred _ (List.mem_map_of_mem inside), Bool.eq_false_iff.mpr (kept entry inside)⟩

/-- New rows with new keys that refer to rows. -/
theorem Schema.Consistent.inserted (consistent : schema.Consistent rows) {new : List (Id × Row)}
    (checked : schema.checkInserts accepts relation (rows relation) new = .ok ())
    (referred : ∀ entry ∈ new, schema.anchored
      (Function.update rows relation (rows relation ++ new)) relation entry = true) :
    schema.Consistent (Function.update rows relation (rows relation ++ new)) := by
  generalize same : Function.update rows relation (rows relation ++ new) = after at referred ⊢
  have same := same.symm
  have stays : ∀ other, ∀ row ∈ rows other, row ∈ after other := by
    intro other row member
    rw [same]
    by_cases here : other = relation
    · subst here
      rw [Function.update_self]
      exact List.mem_append_left _ member
    · rwa [Function.update_of_ne here]
  refine ⟨fun other => ?_, fun other row member => ?_⟩
  · rw [same]
    by_cases here : other = relation
    · subst here
      rw [Function.update_self]
      exact (checkInserts_ok checked (consistent.keyed other)).2
    · rw [Function.update_of_ne here]
      exact consistent.keyed other
  · have old : row ∈ rows other → schema.anchored after other row = true := by
      intro before
      rw [anchored_iff]
      intro reference listed
      rcases anchored_iff.mp (consistent.anchored other row before) reference listed with
        null | ⟨parent, inside, refers⟩
      · exact .inl null
      · exact .inr ⟨parent, stays _ parent inside, refers⟩
    rw [same] at member
    by_cases here : other = relation
    · subst here
      rw [Function.update_self] at member
      rcases List.mem_append.mp member with before | new
      · exact old before
      · exact referred row new
    · rw [Function.update_of_ne here] at member
      exact old member

/-- Rows that are written refer to rows, and what refers to them does so still. -/
theorem Schema.Consistent.rewritten (consistent : schema.Consistent rows)
    (each : ∀ entry ∈ rows relation, (change entry).isSome = true →
      schema.anchored (Function.update rows relation ((rows relation).map (changed change)))
          relation (changed change entry) = true ∧
        schema.strands (Function.update rows relation ((rows relation).map (changed change)))
          relation entry = false) :
    schema.Consistent (Function.update rows relation ((rows relation).map (changed change))) := by
  generalize same : Function.update rows relation ((rows relation).map (changed change)) = after
    at each ⊢
  have same := same.symm
  have here : after relation = (rows relation).map (changed change) := by
    rw [same, Function.update_self]
  have elsewhere : ∀ other, other ≠ relation → after other = rows other := by
    intro other apart
    rw [same, Function.update_of_ne apart]
  refine ⟨fun other => ?_, fun other row member => ?_⟩
  · by_cases at' : other = relation
    · rw [at', here, List.map_map]
      exact consistent.keyed relation
    · rw [elsewhere other at']
      exact consistent.keyed other
  · -- A row that is as it was still finds the rows that it refers to.
    have old : row ∈ rows other → schema.anchored after other row = true := by
      intro before
      rw [anchored_iff]
      intro reference listed
      rcases anchored_iff.mp (consistent.anchored other row before) reference listed with
        null | ⟨parent, inside, refers⟩
      · exact .inl null
      · right
        by_cases at' : reference.parent = relation
        · rw [at'] at inside ⊢
          cases changes : change parent with
          | none =>
            refine ⟨parent, ?_, refers⟩
            rw [here]
            refine List.mem_map.mpr ⟨parent, inside, ?_⟩
            rw [changed, changes]
            rfl
          | some given =>
            have kept := (each parent inside (by rw [changes]; rfl)).2
            have apart : other ≠ relation := by
              intro equal
              have below := schema.descends other reference listed
              rw [at', equal] at below
              exact Nat.lt_irrefl _ below
            refine strands_eq_false.mp kept other reference listed at' row ?_ refers
            rw [elsewhere other apart]
            exact before
        · rw [elsewhere _ at']
          exact ⟨parent, inside, refers⟩
    by_cases at' : other = relation
    · subst at'
      rw [here] at member
      obtain ⟨entry, before, rfl⟩ := List.mem_map.mp member
      cases changes : change entry with
      | none =>
        have unchanged : changed change entry = entry := by
          rw [changed, changes]
          rfl
        rw [unchanged] at old ⊢
        exact old before
      | some given => exact (each entry before (by rw [changes]; rfl)).1
    · rw [elsewhere other at'] at member
      exact old member

omit [DecidableEq Relation] in
theorem Schema.Consistent.delete (consistent : schema.Consistent rows)
    (gone : Relation → Id × Row → Bool) :
    schema.Consistent fun other =>
      (rows other).filter fun entry => !schema.cascade rows gone schema.depth other entry := by
  refine ⟨fun other => ?_, fun other row member => ?_⟩
  · exact (consistent.keyed other).sublist ((List.filter_sublist).map _)
  · obtain ⟨before, left⟩ := List.mem_filter.mp member
    rw [anchored_iff]
    intro reference listed
    rcases anchored_iff.mp (consistent.anchored other row before) reference listed with
      null | ⟨parent, inside, refers⟩
    · exact .inl null
    · refine .inr ⟨parent, List.mem_filter.mpr ⟨inside, ?_⟩, refers⟩
      rw [Bool.not_eq_true', Bool.eq_false_iff] at left ⊢
      exact fun parentGone => left (cascade_closed listed inside parentGone refers)

/-- Every statement keeps the keys and the references, whatever the policy. -/
theorem Schema.Consistent.execute {policy : Policy Relation Id Row}
    {statement : Statement Relation Id Row Answer} {result : Result Id Row Answer}
    (consistent : schema.Consistent rows)
    (executed : execute schema policy rows statement = .ok (result, after)) :
    schema.Consistent after := by
  cases statement with
  | select query =>
    cases executed
    exact consistent
  | insert relation entries =>
    obtain ⟨checked, rfl, referred⟩ := execute_insert executed
    exact consistent.inserted checked referred
  | update relation change =>
    obtain ⟨_, rfl, each⟩ := execute_update executed
    exact consistent.rewritten each
  | delete relation matching =>
    cases executed
    exact consistent.delete _

omit [DecidableEq Relation] in
/-- A row that stays has the owner that it had, when the row that it refers to has. -/
theorem Scope.owns_stable (consistent : schema.Consistent rows) (left : schema.Consistent after)
    (before : entry ∈ rows relation) (member : entry ∈ after relation)
    (same : ∀ reference ∈ schema.references relation, ∀ parent ∈ rows reference.parent,
      ∀ parent' ∈ after reference.parent, reference.refers entry.2 parent = true →
        reference.refers entry.2 parent' = true →
          scope.own reference.parent parent' = scope.own reference.parent parent) :
    scope.owns after relation entry = scope.owns rows relation entry := by
  cases through : scope.through relation with
  | none => rw [owns, owns, through]
  | some reference =>
    have listed : reference ∈ schema.references relation := by
      rw [scope.only relation reference through]
      exact List.mem_singleton_self reference
    rcases Schema.anchored_iff.mp (consistent.anchored relation entry before) reference listed with
      null | ⟨parent, inside, refers⟩
    · have nothing : ∀ table : List (Id × Row), (table.any fun parent =>
          scope.own reference.parent parent && reference.refers entry.2 parent) = false := by
        intro table
        rw [List.any_eq_false]
        intro parent _ both
        rw [Bool.and_eq_true, Reference.refers_iff, null] at both
        cases both.2
      rw [owns, owns, through]
      exact (nothing _).trans (nothing _).symm
    · rcases Schema.anchored_iff.mp (left.anchored relation entry member) reference listed with
        null | ⟨parent', inside', refers'⟩
      · rw [Reference.refers_iff, null] at refers
        cases refers
      · rw [owns_refers left listed inside' refers', owns_refers consistent listed inside refers]
        exact same reference listed parent inside parent' inside' refers refers'

/-- A statement on one relation leaves the owners of the rows, when it leaves those of this one. -/
theorem Scope.owns_update (consistent : schema.Consistent rows) {table : List (Id × Row)}
    (left : schema.Consistent (Function.update rows relation table))
    (same : ∀ child, ∀ reference ∈ schema.references child, reference.parent = relation →
      ∀ entry, ∀ parent ∈ rows relation, ∀ parent' ∈ table,
        reference.refers entry parent = true → reference.refers entry parent' = true →
          scope.own relation parent' = scope.own relation parent) {other : Relation}
    (member : entry ∈ Function.update rows relation table other) :
    scope.owns (Function.update rows relation table) other entry =
      scope.owns rows other entry := by
  by_cases here : other = relation
  · subst here
    rw [owns, owns]
    cases through : scope.through other with
    | none => rfl
    | some reference =>
      have listed : reference ∈ schema.references other := by
        rw [scope.only other reference through]
        exact List.mem_singleton_self reference
      have apart : reference.parent ≠ other := by
        intro equal
        have below := schema.descends other reference listed
        rw [equal] at below
        exact Nat.lt_irrefl _ below
      change (Function.update rows other table reference.parent).any _ = (rows _).any _
      rw [Function.update_of_ne apart]
  · have before : entry ∈ rows other := by
      rwa [Function.update_of_ne here] at member
    refine owns_stable consistent left before member ?_
    intro reference listed parent inside parent' inside' refers refers'
    by_cases at' : reference.parent = relation
    · rw [at'] at inside inside' ⊢
      rw [Function.update_self] at inside'
      exact same other reference listed at' entry.2 parent inside parent' inside' refers refers'
    · rw [Function.update_of_ne at'] at inside'
      rw [consistent.parent_eq listed inside inside' refers refers']

omit [DecidableEq Relation] in
theorem Schema.anchored_visible (consistent : schema.Consistent rows)
    (owned : scope.owns rows relation entry = true) :
    schema.anchored (visible scope.owns rows) relation entry =
      schema.anchored rows relation entry := by
  rw [Bool.eq_iff_iff, anchored_iff, anchored_iff]
  refine forall₂_congr fun reference listed => or_congr_right ⟨?_, ?_⟩
  · intro ⟨parent, member, refers⟩
    exact ⟨parent, List.mem_of_mem_filter member, refers⟩
  · intro ⟨parent, member, refers⟩
    refine ⟨parent, List.mem_filter.mpr ⟨member, ?_⟩, refers⟩
    rw [Scope.owns_parent listed, ← Scope.owns_refers consistent listed member refers]
    exact owned

/-- No relation refers to itself. -/
theorem Schema.anchored_update {table : List (Id × Row)} :
    schema.anchored (Function.update rows relation table) relation entry =
      schema.anchored rows relation entry := by
  rw [Bool.eq_iff_iff, anchored_iff, anchored_iff]
  refine forall₂_congr fun reference listed => or_congr_right ?_
  have apart : reference.parent ≠ relation := by
    intro equal
    have below := schema.descends relation reference listed
    rw [equal] at below
    exact Nat.lt_irrefl _ below
  rw [Function.update_of_ne apart]

/-- The visible part, after rows of one relation have been written. -/
theorem visible_update {table : List (Id × Row)}
    (same : ∀ other, ∀ entry ∈ Function.update rows relation table other,
      scope.owns (Function.update rows relation table) other entry = scope.owns rows other entry) :
    visible scope.owns (Function.update rows relation table) =
      Function.update (visible scope.owns rows) relation
        (table.filter (scope.owns rows relation)) := by
  funext other
  rw [visible, List.filter_congr (same other)]
  by_cases here : other = relation
  · subst here
    rw [Function.update_self, Function.update_self]
  · rw [Function.update_of_ne here, Function.update_of_ne here]
    rfl

theorem Scope.inserted_stable (consistent : schema.Consistent rows) {new : List (Id × Row)}
    (left : schema.Consistent (Function.update rows relation (rows relation ++ new)))
    {other : Relation} (member : entry ∈ Function.update rows relation (rows relation ++ new) other) :
    scope.owns (Function.update rows relation (rows relation ++ new)) other entry =
      scope.owns rows other entry := by
  refine owns_update consistent left ?_ member
  intro child reference listed at' entry parent inside parent' inside' refers refers'
  subst at'
  have distinct := left.keyed reference.parent
  rw [Function.update_self] at distinct
  have target : reference.target parent' = reference.target parent := by
    rw [Reference.refers_iff] at refers refers'
    exact Option.some.inj (refers'.symm.trans refers)
  rw [List.inj_on_of_nodup_map distinct inside' (List.mem_append_left _ inside)
    (schema.identifies child reference listed parent' parent target)]

/-- What an owner gets: the result, and the visible part of what is left. -/
def part (scope : Scope schema) (outcome : Except SqlError (Result Id Row Answer × Rows Relation Id Row)) :
    Except SqlError (Result Id Row Answer × Rows Relation Id Row) :=
  outcome.map fun done => (done.1, visible scope.owns done.2)

theorem insert_private (consistent : schema.Consistent rows)
    (entries : Rows Relation Id Row → List (Id × Row)) :
    let statement : Statement Relation Id Row Answer := .insert relation entries
    execute schema scope.owns rows statement = .error .unique ∨
      part scope (execute schema scope.owns rows statement) =
        execute schema scope.owns (visible scope.owns rows) statement := by
  dsimp only
  simp only [execute]
  rw [Scope.owns_visible, visible_visible]
  generalize given : entries (visible scope.owns rows) = new
  rcases schema.checkInserts_filter relation (scope.owns rows relation) new
    (rows relation) with taken | same
  · left
    rw [taken]
    rfl
  right
  have table : visible scope.owns rows relation = (rows relation).filter (scope.owns rows relation) :=
    rfl
  rw [table, ← same]
  cases checked : schema.checkInserts (scope.owns rows relation) relation (rows relation) new with
  | error error => rfl
  | ok =>
    obtain ⟨accepted, _⟩ := Schema.checkInserts_ok checked (consistent.keyed relation)
    have referred : new.all (schema.anchored (Function.update (visible scope.owns rows) relation
          ((rows relation).filter (scope.owns rows relation) ++ new)) relation) =
        new.all (schema.anchored (Function.update rows relation (rows relation ++ new))
          relation) := by
      rw [Bool.eq_iff_iff, List.all_eq_true, List.all_eq_true]
      refine forall₂_congr fun entry member => ?_
      rw [Schema.anchored_update, Schema.anchored_update,
        Schema.anchored_visible consistent (accepted entry member)]
    rw [Except.ok_bind, Except.ok_bind, referred]
    cases complete : new.all (schema.anchored (Function.update rows relation
        (rows relation ++ new)) relation) with
    | false => rfl
    | true =>
      have left := consistent.inserted checked (List.all_eq_true.mp complete)
      have kept : (rows relation ++ new).filter (scope.owns rows relation) =
          (rows relation).filter (scope.owns rows relation) ++ new := by
        rw [List.filter_append, List.filter_eq_self.mpr accepted]
      rw [← kept, ← visible_update fun other entry => Scope.inserted_stable consistent left]
      rfl

omit [DecidableEq Id] [DecidableEq Relation] in
theorem guarded_isSome {policy : Policy Relation Id Row}
    {change : Rows Relation Id Row → Id × Row → Option Row}
    (touched : (guarded policy rows relation change entry).isSome = true) :
    policy rows relation entry = true := by
  rw [guarded] at touched
  split at touched
  case isTrue seen => exact seen
  case isFalse => cases touched

omit [DecidableEq Relation] in
/-- A row that has been written passes the policy like the row that it was. -/
theorem accepts_changed (seen : ∀ entry, (change entry).isSome = true → accepts entry = true)
    {table : List (Id × Row)}
    (checked : schema.checkUpdates accepts relation change [] table = .ok ())
    (member : entry ∈ table) : accepts (changed change entry) = accepts entry := by
  cases changes : change entry with
  | none =>
    rw [changed, changes]
    rfl
  | some row =>
    have touched : (change entry).isSome = true := by
      rw [changes]
      rfl
    have accepted := Schema.checkUpdates_ok checked entry member row changes
    rw [seen entry touched, changed, changes]
    exact accepted

omit [DecidableEq Relation] in
/-- A new version of a row that stands for another row is a version of that row. -/
theorem Schema.Consistent.version (consistent : schema.Consistent rows) {child : Relation}
    (listed : reference ∈ schema.references child) {former later : Id × Row} {row : Row}
    (inside : former ∈ rows relation) (member : later ∈ (rows relation).map (changed change))
    (refers : reference.refers row former = true) (refers' : reference.refers row later = true) :
    later = changed change former := by
  obtain ⟨before, found, rfl⟩ := List.mem_map.mp member
  rw [Reference.refers_iff] at refers refers'
  have target : reference.target (changed change before) = reference.target former :=
    Option.some.inj (refers'.symm.trans refers)
  have same := schema.identifies child reference listed _ _ target
  rw [List.inj_on_of_nodup_map (consistent.keyed relation) found inside same]

theorem Scope.rewritten_stable (consistent : schema.Consistent rows)
    (left : schema.Consistent (Function.update rows relation ((rows relation).map (changed change))))
    (owner : ∀ entry ∈ rows relation, scope.owns rows relation (changed change entry) =
      scope.owns rows relation entry) {other : Relation}
    (member : entry ∈ Function.update rows relation ((rows relation).map (changed change)) other) :
    scope.owns (Function.update rows relation ((rows relation).map (changed change))) other entry =
      scope.owns rows other entry := by
  refine owns_update consistent left ?_ member
  intro child reference listed at' entry parent inside parent' inside' refers refers'
  subst at'
  rw [consistent.version listed inside inside' refers refers', ← owns_parent listed,
    owner parent inside, owns_parent listed]

omit [DecidableEq Relation] in
theorem Scope.deleted_stable (consistent : schema.Consistent rows) {other : Relation}
    (member : entry ∈ (rows other).filter fun entry =>
      !schema.cascade rows gone schema.depth other entry) :
    scope.owns (fun other => (rows other).filter fun entry =>
        !schema.cascade rows gone schema.depth other entry) other entry =
      scope.owns rows other entry := by
  refine owns_stable consistent (consistent.delete gone) (List.mem_of_mem_filter member) member ?_
  intro reference listed parent inside parent' inside' refers refers'
  rw [consistent.parent_eq listed inside (List.mem_of_mem_filter inside') refers refers']

theorem strands_visible (consistent : schema.Consistent rows)
    (inside : entry ∈ rows relation) (owned : scope.owns rows relation entry = true) :
    schema.strands (Function.update (visible scope.owns rows) relation
        ((visible scope.owns rows relation).map (changed change))) relation entry =
      schema.strands (Function.update rows relation ((rows relation).map (changed change)))
        relation entry := by
  have apart {child : Relation} {reference : Reference Relation Id Row}
      (listed : reference ∈ schema.references child) (at' : reference.parent = relation) :
      child ≠ relation := by
    intro equal
    have below := schema.descends child reference listed
    rw [at', equal] at below
    exact Nat.lt_irrefl _ below
  rw [← Bool.not_inj_iff, Bool.eq_iff_iff, Bool.not_eq_true', Bool.not_eq_true',
    Schema.strands_eq_false, Schema.strands_eq_false]
  refine forall₄_congr fun child reference listed at' => ?_
  rw [Function.update_self, Function.update_self, Function.update_of_ne (apart listed at'),
    Function.update_of_ne (apart listed at')]
  have belongs {other : Id × Row} (refers : reference.refers other.2 entry = true) :
      scope.owns rows child other = true := by
    subst at'
    rw [Scope.owns_refers consistent listed inside refers, ← Scope.owns_parent listed]
    exact owned
  constructor
  · intro each other member refers
    obtain ⟨parent, found, refers'⟩ :=
      each other (List.mem_filter.mpr ⟨member, belongs refers⟩) refers
    refine ⟨parent, ?_, refers'⟩
    exact List.map_subset _ (List.filter_subset_self _) found
  · intro each other member refers
    obtain ⟨parent, found, refers'⟩ := each other (List.mem_of_mem_filter member) refers
    refine ⟨parent, ?_, refers'⟩
    rw [consistent.version listed inside found refers refers']
    exact List.mem_map_of_mem (List.mem_filter.mpr ⟨inside, owned⟩)

theorem update_private (consistent : schema.Consistent rows)
    (change : Rows Relation Id Row → Id × Row → Option Row) :
    let statement : Statement Relation Id Row Answer := .update relation change
    execute schema scope.owns rows statement = .error .unique ∨
      part scope (execute schema scope.owns rows statement) =
        execute schema scope.owns (visible scope.owns rows) statement := by
  dsimp only
  have view : guarded scope.owns (visible scope.owns rows) relation change =
      guarded scope.owns rows relation change := by
    funext entry
    rw [guarded, guarded, Scope.owns_visible, visible_visible]
  have seen : ∀ entry, (guarded scope.owns rows relation change entry).isSome = true →
      scope.owns rows relation entry = true := fun entry => guarded_isSome
  simp only [execute]
  rw [view, Scope.owns_visible]
  generalize guarded scope.owns rows relation change = change at seen
  have hidden : ∀ entry, scope.owns rows relation entry = false → change entry = none := by
    intro entry foreign
    rw [← Option.not_isSome_iff_eq_none]
    intro touched
    rw [seen entry touched] at foreign
    cases foreign
  rcases schema.checkUpdates_filter relation hidden (rows relation) [] with taken | same
  · left
    rw [taken]
    rfl
  right
  have table : visible scope.owns rows relation = (rows relation).filter (scope.owns rows relation) :=
    rfl
  have touched : written change (visible scope.owns rows relation) =
      written change (rows relation) := by
    rw [table, written, List.filter_filter]
    refine List.filter_congr fun entry _ => ?_
    rw [Bool.and_eq_left_iff_imp]
    exact seen entry
  have own : ∀ entry ∈ written change (rows relation),
      entry ∈ rows relation ∧ scope.owns rows relation entry = true := by
    intro entry member
    obtain ⟨inside, writes⟩ := List.mem_filter.mp member
    exact ⟨inside, seen entry writes⟩
  rw [List.filter_nil, ← table] at same
  rw [← same, touched]
  cases checked : schema.checkUpdates (scope.owns rows relation) relation change []
      (rows relation) with
  | error error => rfl
  | ok =>
    have owner : ∀ entry ∈ rows relation, scope.owns rows relation (changed change entry) =
        scope.owns rows relation entry := fun entry => accepts_changed seen checked
    have referred : ((written change (rows relation)).map (changed change)).all
        (schema.anchored (Function.update (visible scope.owns rows) relation
          ((visible scope.owns rows relation).map (changed change))) relation) =
        ((written change (rows relation)).map (changed change)).all
          (schema.anchored (Function.update rows relation
            ((rows relation).map (changed change))) relation) := by
      rw [Bool.eq_iff_iff, List.all_eq_true, List.all_eq_true, List.forall_mem_map,
        List.forall_mem_map]
      refine forall₂_congr fun entry member => ?_
      obtain ⟨inside, owned⟩ := own entry member
      rw [Schema.anchored_update, Schema.anchored_update, Schema.anchored_visible consistent]
      rw [owner entry inside]
      exact owned
    have stranded : (written change (rows relation)).any
        (schema.strands (Function.update (visible scope.owns rows) relation
          ((visible scope.owns rows relation).map (changed change))) relation) =
        (written change (rows relation)).any (schema.strands (Function.update rows relation
          ((rows relation).map (changed change))) relation) := by
      rw [Bool.eq_iff_iff, List.any_eq_true, List.any_eq_true]
      refine exists_congr fun entry => and_congr_right fun member => ?_
      obtain ⟨inside, owned⟩ := own entry member
      rw [strands_visible consistent inside owned]
    rw [Except.ok_bind, Except.ok_bind, referred, stranded]
    cases complete : ((written change (rows relation)).map (changed change)).all
        (schema.anchored (Function.update rows relation ((rows relation).map (changed change)))
          relation) with
    | false => rfl
    | true =>
      cases breaks : (written change (rows relation)).any (schema.strands
          (Function.update rows relation ((rows relation).map (changed change))) relation) with
      | true => rfl
      | false =>
        rw [List.all_eq_true] at complete
        rw [List.any_eq_false] at breaks
        have left : schema.Consistent (Function.update rows relation
            ((rows relation).map (changed change))) := by
          refine consistent.rewritten fun entry member touched => ?_
          have inside : entry ∈ written change (rows relation) :=
            List.mem_filter.mpr ⟨member, touched⟩
          exact ⟨complete _ (List.mem_map_of_mem inside),
            Bool.eq_false_iff.mpr (breaks entry inside)⟩
        have kept : ((rows relation).map (changed change)).filter (scope.owns rows relation) =
            (visible scope.owns rows relation).map (changed change) := by
          rw [List.filter_map, table]
          exact congrArg _ (List.filter_congr owner)
        rw [← kept, ← visible_update fun other entry =>
          Scope.rewritten_stable consistent left owner]
        rfl

/-- Deleted rows are those of the owner. -/
theorem deleted_owned (consistent : schema.Consistent rows)
    {matching : Rows Relation Id Row → Id × Row → Bool} {other : Relation}
    (cascaded : schema.cascade rows (fun other entry => other == relation &&
      (scope.owns rows relation entry && matching (visible scope.owns rows) entry)) rounds other
        entry = true) : scope.owns rows other entry = true := by
  refine Schema.cascade_owned consistent ?_ cascaded
  intro other entry matched
  rw [Bool.and_eq_true, Bool.and_eq_true, beq_iff_eq] at matched
  rw [matched.1]
  exact matched.2.1

theorem delete_private (consistent : schema.Consistent rows)
    (matching : Rows Relation Id Row → Id × Row → Bool) :
    let statement : Statement Relation Id Row Answer := .delete relation matching
    part scope (execute schema scope.owns rows statement) =
      execute schema scope.owns (visible scope.owns rows) statement := by
  dsimp only
  simp only [execute]
  rw [Scope.owns_visible, visible_visible]
  have table (other : Relation) : visible scope.owns rows other =
      (rows other).filter (scope.owns rows other) := rfl
  have touched : ((visible scope.owns rows relation).filter fun entry =>
      scope.owns rows relation entry && matching (visible scope.owns rows) entry) =
        (rows relation).filter fun entry =>
          scope.owns rows relation entry && matching (visible scope.owns rows) entry := by
    rw [table, List.filter_filter]
    refine List.filter_congr fun entry _ => ?_
    rw [Bool.and_right_comm, Bool.and_self]
  rw [touched]
  change Except.ok (_, _) = Except.ok (_, _)
  congr 2
  funext other
  change List.filter _ (List.filter _ _) = _
  rw [List.filter_congr fun entry member => Scope.deleted_stable consistent member, table,
    List.filter_filter, List.filter_filter]
  refine List.filter_congr fun entry _ => ?_
  cases owned : scope.owns rows other entry with
  | false => rw [Bool.false_and, Bool.and_false]
  | true => rw [Schema.cascade_visible consistent owned, Bool.true_and, Bool.and_true]

/-- For its owner a statement does what it would do if there were no other rows, unless a key that
it takes is one of a row that it does not see. -/
theorem execute_private (consistent : schema.Consistent rows)
    (statement : Statement Relation Id Row Answer) :
    execute schema scope.owns rows statement = .error .unique ∨
      part scope (execute schema scope.owns rows statement) =
        execute schema scope.owns (visible scope.owns rows) statement := by
  cases statement with
  | select query =>
    right
    simp only [execute]
    rw [visible_visible]
    rfl
  | insert relation entries => exact insert_private consistent entries
  | update relation change => exact update_private consistent change
  | delete relation matching => exact .inr (delete_private consistent matching)

/-- The rows of the others. -/
def others (scope : Scope schema) (rows : Rows Relation Id Row) : Rows Relation Id Row :=
  fun relation => (rows relation).filter fun entry => !scope.owns rows relation entry

/-- A statement on one relation that leaves the owners of all rows, and the rows of others in it. -/
theorem others_update {table : List (Id × Row)}
    (stable : ∀ other, ∀ entry ∈ Function.update rows relation table other,
      scope.owns (Function.update rows relation table) other entry = scope.owns rows other entry)
    (same : (table.filter fun entry => !scope.owns rows relation entry) =
      (rows relation).filter fun entry => !scope.owns rows relation entry) :
    others scope (Function.update rows relation table) = others scope rows := by
  funext other
  rw [others, List.filter_congr fun entry member => by rw [stable other entry member]]
  by_cases here : other = relation
  · subst here
    rw [Function.update_self, same]
    rfl
  · rw [Function.update_of_ne here]
    rfl

/-- A statement leaves the rows of the others alone. -/
theorem execute_others {statement : Statement Relation Id Row Answer}
    {result : Result Id Row Answer} (consistent : schema.Consistent rows)
    (executed : execute schema scope.owns rows statement = .ok (result, after)) :
    others scope after = others scope rows := by
  cases statement with
  | select query =>
    cases executed
    rfl
  | insert relation entries =>
    obtain ⟨checked, rfl, referred⟩ := execute_insert executed
    have left := consistent.inserted checked referred
    refine others_update (fun other entry => Scope.inserted_stable consistent left) ?_
    obtain ⟨accepted, _⟩ := Schema.checkInserts_ok checked (consistent.keyed relation)
    have none' : ((entries (visible scope.owns rows)).filter fun entry =>
        !scope.owns rows relation entry) = [] := by
      rw [List.filter_eq_nil_iff]
      intro entry member
      rw [accepted entry member]
      decide
    rw [List.filter_append, none', List.append_nil]
  | update relation change =>
    obtain ⟨checked, rfl, each⟩ := execute_update executed
    have left := consistent.rewritten each
    have owner : ∀ entry ∈ rows relation, scope.owns rows relation
        (changed (guarded scope.owns rows relation change) entry) =
          scope.owns rows relation entry :=
      fun entry => accepts_changed (fun entry => guarded_isSome) checked
    refine others_update (fun other entry => Scope.rewritten_stable consistent left owner) ?_
    have unseen : ∀ entry ∈ (rows relation).filter fun entry => !scope.owns rows relation entry,
        changed (guarded scope.owns rows relation change) entry = entry := by
      intro entry member
      have foreign := (List.mem_filter.mp member).2
      rw [Bool.not_eq_true'] at foreign
      rw [changed, guarded, foreign]
      rfl
    rw [List.filter_map, List.filter_congr fun entry member => by
      rw [Function.comp_apply, owner entry member], List.map_congr_left unseen, List.map_id']
  | delete relation matching =>
    cases executed
    funext other
    rw [others, List.filter_congr fun entry member => by
      rw [Scope.deleted_stable consistent member], List.filter_filter]
    refine List.filter_congr fun entry _ => ?_
    cases gone : schema.cascade rows (fun other entry => other == relation &&
      (scope.owns rows relation entry && matching (visible scope.owns rows) entry)) schema.depth
        other entry with
    | false => rw [Bool.not_false, Bool.and_true]
    | true => rw [deleted_owned consistent gone, Bool.not_true, Bool.false_and]

/-- What a transaction does next, after the results so far. -/
abbrev Program (Relation Id Row Answer : Type) :=
  List (Result Id Row Answer) → Option (Statement Relation Id Row Answer)

/-- A transaction of so many statements at most. It ends with the first that fails. -/
def run (schema : Schema Relation Id Row) (policy : Policy Relation Id Row)
    (program : Program Relation Id Row Answer) :
    Nat → List (Result Id Row Answer) → Rows Relation Id Row →
      List (Result Id Row Answer) × Except SqlError (Rows Relation Id Row)
  | 0, results, rows => (results, .ok rows)
  | steps + 1, results, rows =>
      match program results with
      | none => (results, .ok rows)
      | some statement =>
          match execute schema policy rows statement with
          | .error error => (results, .error error)
          | .ok (result, after) => run schema policy program steps (results ++ [result]) after

theorem run_extends (schema : Schema Relation Id Row) (policy : Policy Relation Id Row)
    (program : Program Relation Id Row Answer) (steps : Nat)
    (results : List (Result Id Row Answer)) (rows : Rows Relation Id Row) :
    results <+: (run schema policy program steps results rows).1 := by
  induction steps generalizing results rows with
  | zero => exact List.prefix_refl results
  | succ steps ih =>
    rw [run]
    split
    · exact List.prefix_refl results
    · split
      · exact List.prefix_refl results
      · exact (List.prefix_append results _).trans (ih _ _)

/-- A transaction leaves the rows of the others alone. -/
theorem run_others (program : Program Relation Id Row Answer) (steps : Nat)
    (results : List (Result Id Row Answer)) (consistent : schema.Consistent rows)
    (finished : (run schema scope.owns program steps results rows).2 = .ok after) :
    schema.Consistent after ∧ others scope after = others scope rows := by
  induction steps generalizing results rows with
  | zero =>
    cases finished
    exact ⟨consistent, rfl⟩
  | succ steps ih =>
    rw [run] at finished
    split at finished
    · cases finished
      exact ⟨consistent, rfl⟩
    · split at finished
      · cases finished
      case h_2 result next executed =>
        obtain ⟨kept, same⟩ := ih _ (consistent.execute executed) finished
        exact ⟨kept, same.trans (execute_others consistent executed)⟩

/-- A transaction of an owner is the transaction on its rows alone, or it ends with a key that is
taken, having got the same results until then. -/
theorem run_private (program : Program Relation Id Row Answer) (steps : Nat)
    (results : List (Result Id Row Answer)) (consistent : schema.Consistent rows) :
    let among := run schema scope.owns program steps results rows
    let alone := run schema scope.owns program steps results (visible scope.owns rows)
    among.2 = .error .unique ∧ among.1 <+: alone.1 ∨
      among.1 = alone.1 ∧ among.2.map (visible scope.owns) = alone.2 := by
  dsimp only
  induction steps generalizing results rows with
  | zero => exact .inr ⟨rfl, rfl⟩
  | succ steps ih =>
    have here := run_extends schema scope.owns program (steps + 1) results
      (visible scope.owns rows)
    rw [run, run] at *
    cases next : program results with
    | none => exact .inr ⟨rfl, rfl⟩
    | some statement =>
      rw [next] at here
      dsimp only at here ⊢
      rcases execute_private consistent statement with taken | same
      · rw [taken]
        exact .inl ⟨rfl, here⟩
      · rw [← same]
        cases executed : execute schema scope.owns rows statement with
        | error error => exact .inr ⟨rfl, rfl⟩
        | ok done => exact ih _ (consistent.execute executed)

end

end RowSecurity
