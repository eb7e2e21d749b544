import Mathlib.Data.List.Basic
import Mathlib.Tactic.Common

set_option autoImplicit false

/-! Records of fields that commas separate, one a line. A field with a mark in it is quoted. -/

namespace Csv

/-- The marks of the format. -/
def isMark (char : Char) : Bool := char == ',' || char == '"' || char == '\r' || char == '\n'

/-- A quote within a quoted field is doubled. -/
def escape (char : Char) : List Char := if char == '"' then ['"', '"'] else [char]

def writeField (field : List Char) : List Char :=
  if field.any isMark then '"' :: field.flatMap escape ++ ['"'] else field

/-- A record of one empty field is not an empty line. -/
def write (record : List (List Char)) : List Char :=
  if record = [[]] then ['"', '"', '\r', '\n']
  else [','].intercalate (record.map writeField) ++ ['\r', '\n']

/-- Where a reader is: before a field, in one, in a quoted one, after a quote in that, or after a
carriage return. -/
inductive Mode where
  | before
  | bare
  | quoted
  | closing
  | returned
  deriving DecidableEq, Repr

structure Reader where
  mode : Mode
  field : List Char
  record : List (List Char)
  records : List (List (List Char))
  deriving DecidableEq, Repr

namespace Reader

def start : Reader := ⟨.before, [], [], []⟩

variable (reader : Reader)

def put (mode : Mode) (char : Char) : Reader :=
  { reader with mode, field := reader.field ++ [char] }

/-- A field ends. -/
def endField (mode : Mode) : Reader :=
  { reader with mode, field := [], record := reader.record ++ [reader.field] }

/-- A comma or a carriage return after a field. -/
def separate (char : Char) : Option Reader :=
  if char == ',' then some (reader.endField .before)
  else if char == '\r' then some (reader.endField .returned)
  else none

def step (char : Char) : Option Reader :=
  match reader.mode with
  | .before =>
      if char == '"' then some { reader with mode := .quoted }
      else if isMark char then reader.separate char
      else some (reader.put .bare char)
  | .bare => if isMark char then reader.separate char else some (reader.put .bare char)
  | .quoted =>
      if char == '"' then some { reader with mode := .closing } else some (reader.put .quoted char)
  | .closing => if char == '"' then some (reader.put .quoted char) else reader.separate char
  | .returned =>
      if char == '\n' then
        some { reader with mode := .before, record := [], records := reader.records ++ [reader.record] }
      else none

def run (text : List Char) : Option Reader := text.foldlM step reader

/-- Nothing is left unfinished. -/
def finish : Option (List (List (List Char))) :=
  if reader.mode = .before ∧ reader.record = [] then some reader.records else none

/-- A field has been read, and its end has not. -/
structure Done (field : List Char) (record : List (List Char)) (records : List (List (List Char)))
    (reader : Reader) : Prop where
  mode : reader.mode = .before ∨ reader.mode = .bare ∨ reader.mode = .closing
  field : reader.field = field
  record : reader.record = record
  records : reader.records = records

end Reader

/-- The records of a text, if it is well formed. -/
def read (text : List Char) : Option (List (List (List Char))) :=
  (Reader.start.run text).bind Reader.finish

section

variable {reader : Reader} {field : List Char} {record : List (List Char)}
  {records : List (List (List Char))} {char : Char}

theorem run_append (first second : List Char) :
    reader.run (first ++ second) = (reader.run first).bind fun next => next.run second :=
  List.foldlM_append ..

theorem run_cons (text : List Char) :
    reader.run (char :: text) = (reader.step char).bind fun next => next.run text :=
  rfl

/-- The text of a bare field. -/
theorem run_bare (plain : ∀ char ∈ field, isMark char = false)
    (mode : reader.mode = .before ∨ reader.mode = .bare) :
    ∃ next, reader.run field = some next ∧
      next.Done (reader.field ++ field) reader.record reader.records := by
  induction field generalizing reader with
  | nil =>
    refine ⟨reader, rfl, ?_, (List.append_nil _).symm, rfl, rfl⟩
    rcases mode with mode | mode
    · exact .inl mode
    · exact .inr (.inl mode)
  | cons char field ih =>
    have unmarked := plain char List.mem_cons_self
    have quote : (char == '"') = false := by
      rw [beq_eq_false_iff_ne]
      rintro rfl
      exact absurd unmarked (by decide)
    have taken : reader.step char = some (reader.put .bare char) := by
      rw [Reader.step]
      rcases mode with mode | mode
      · rw [mode]
        simp only [quote, unmarked, Bool.false_eq_true, if_false]
      · rw [mode]
        simp only [unmarked, Bool.false_eq_true, if_false]
    obtain ⟨next, run, done⟩ := @ih (reader.put .bare char)
      (fun other member => plain other (List.mem_cons_of_mem _ member)) (.inr rfl)
    refine ⟨next, ?_, ?_⟩
    · rw [run_cons, taken]
      exact run
    · rw [Reader.put, List.append_assoc] at done
      exact done

/-- The text between the quotes of a field. -/
theorem run_escape (field : List Char) (mode : reader.mode = .quoted) :
    reader.run (field.flatMap escape) = some { reader with field := reader.field ++ field } := by
  induction field generalizing reader with
  | nil => rw [List.append_nil]; rfl
  | cons char field ih =>
    have taken : reader.run (escape char) = some (reader.put .quoted char) := by
      by_cases quote : char = '"'
      · subst quote
        change (reader.step '"').bind _ = _
        rw [Reader.step, mode]
        rfl
      · have other : (char == '"') = false := beq_eq_false_iff_ne.mpr quote
        have same : escape char = [char] := by
          rw [escape, other]
          rfl
        rw [same, run_cons, Reader.step, mode]
        simp only [other, Bool.false_eq_true, if_false]
        rfl
    rw [List.flatMap_cons, run_append, taken]
    change (reader.put .quoted char).run _ = _
    rw [@ih (reader.put .quoted char) rfl, Reader.put, List.append_assoc, mode]
    rfl

/-- The text of a field. -/
theorem run_writeField (field : List Char) (mode : reader.mode = .before)
    (fresh : reader.field = []) :
    ∃ next, reader.run (writeField field) = some next ∧
      next.Done field reader.record reader.records := by
  rw [writeField]
  cases marked : field.any isMark with
  | false =>
    rw [List.any_eq_false] at marked
    have plain : ∀ char ∈ field, isMark char = false :=
      fun char member => Bool.eq_false_iff.mpr (marked char member)
    obtain ⟨next, run, done⟩ := @run_bare reader field plain (.inl mode)
    rw [fresh] at done
    exact ⟨next, run, done⟩
  | true =>
    have opened : reader.step '"' = some { reader with mode := .quoted } := by
      rw [Reader.step, mode]
      rfl
    refine ⟨{ reader with mode := .closing, field }, ?_, .inr (.inr rfl), rfl, rfl, rfl⟩
    change reader.run ('"' :: field.flatMap escape ++ ['"']) = _
    rw [List.cons_append, run_cons, opened]
    change Reader.run { reader with mode := .quoted } _ = _
    rw [run_append, @run_escape { reader with mode := .quoted } field rfl, fresh]
    rfl

/-- The end of a field. -/
theorem step_done (done : reader.Done field record records) {mode : Mode}
    (ends : char = ',' ∧ mode = .before ∨ char = '\r' ∧ mode = .returned) :
    reader.step char = some ⟨mode, [], record ++ [field], records⟩ := by
  have separated : reader.separate char = some ⟨mode, [], record ++ [field], records⟩ := by
    rw [Reader.separate, Reader.endField, Reader.endField, done.field, done.record, done.records]
    rcases ends with ⟨rfl, rfl⟩ | ⟨rfl, rfl⟩
    · rfl
    · rfl
  have marked : isMark char = true ∧ (char == '"') = false := by
    rcases ends with ⟨rfl, _⟩ | ⟨rfl, _⟩
    · decide
    · decide
  rw [Reader.step, ← separated]
  rcases done.mode with mode | mode | mode
  · rw [mode]
    simp only [marked, Bool.false_eq_true, if_false, if_true]
  · rw [mode]
    simp only [marked, if_true]
  · rw [mode]
    simp only [marked, Bool.false_eq_true, if_false]

/-- The line of some fields after those that have been read. -/
theorem run_fields (fields : List (List Char)) (some' : fields ≠ [])
    (record : List (List Char)) (records : List (List (List Char))) :
    Reader.run ⟨.before, [], record, records⟩
        ([','].intercalate (fields.map writeField) ++ ['\r', '\n']) =
      some ⟨.before, [], [], records ++ [record ++ fields]⟩ := by
  induction fields generalizing record with
  | nil => exact absurd rfl some'
  | cons field rest ih =>
    obtain ⟨next, run, done⟩ := @run_writeField ⟨.before, [], record, records⟩ field rfl rfl
    cases rest with
    | nil =>
      rw [List.map_cons, List.map_nil, List.intercalate_singleton, run_append, run]
      change next.run ['\r', '\n'] = _
      rw [run_cons, step_done done (.inr ⟨rfl, rfl⟩)]
      rfl
    | cons second rest =>
      have more := ih (List.cons_ne_nil second rest) (record ++ [field])
      rw [List.append_assoc, List.singleton_append] at more
      rw [List.map_cons, List.map_cons, List.intercalate_cons_cons, List.append_assoc,
        List.append_assoc, run_append, run]
      change next.run (',' :: _) = _
      rw [run_cons, step_done done (.inl ⟨rfl, rfl⟩), ← more]
      rfl

theorem run_write (some' : record ≠ []) (records : List (List (List Char))) :
    Reader.run ⟨.before, [], [], records⟩ (write record) =
      some ⟨.before, [], [], records ++ [record]⟩ := by
  rw [write]
  split
  case isTrue empty =>
    rw [empty]
    rfl
  case isFalse => exact run_fields record some' [] records

/-- What was written is read. -/
theorem read_write (some' : ∀ record ∈ records, record ≠ []) :
    read (records.flatMap write) = some records := by
  have run : ∀ before, Reader.run ⟨.before, [], [], before⟩ (records.flatMap write) =
      some ⟨.before, [], [], before ++ records⟩ := by
    induction records with
    | nil =>
      intro before
      rw [List.append_nil]
      rfl
    | cons record rest ih =>
      intro before
      rw [List.flatMap_cons, run_append, run_write (some' record List.mem_cons_self)]
      change Reader.run _ _ = _
      rw [ih (fun other member => some' other (List.mem_cons_of_mem _ member)), List.append_assoc]
      rfl
  rw [read, Reader.start, run]
  rfl

end

end Csv
