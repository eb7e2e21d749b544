import Mathlib.Data.List.Basic
import Mathlib.Data.List.Forall2
import Mathlib.Tactic.Common

set_option autoImplicit false

/-! Backtracking patterns: the matches at a place in the order in which they are tried, with word
boundaries and one capture. -/

/-- `boundary` is `\b`, for the given word characters. A repetition is greedy. -/
inductive Pattern where
  | chars (accepts : Char → Bool)
  | boundary (isWord : Char → Bool)
  | empty
  | seq (first second : Pattern)
  | alt (first second : Pattern)
  | star (body : Pattern)
  | group (body : Pattern)

/-- A match: what it takes, what it captures, and what it leaves. -/
structure Found where
  taken : List Char
  captured : Option (List Char)
  left : List Char
  deriving DecidableEq, Repr

namespace Found

/-- A match that takes nothing. -/
def nothing (text : List Char) : Found := ⟨[], none, text⟩

def append (first second : Found) : Found :=
  ⟨first.taken ++ second.taken, second.captured.or first.captured, second.left⟩

/-- The character before what is left. -/
def last (found : Found) (before : Option Char) : Option Char := found.taken.getLast?.or before

theorem nothing_append (text : List Char) : (nothing text).append = id := by
  funext found
  unfold nothing append
  simp

theorem append_assoc (first second third : Found) :
    (first.append second).append third = first.append (second.append third) := by
  unfold append
  simp only [List.append_assoc, Option.or_assoc]

theorem append_last (first second : Found) (before : Option Char) :
    (first.append second).last before = second.last (first.last before) := by
  unfold append last
  simp only [List.getLast?_append, Option.or_assoc]

theorem append_nothing (found : Found) : found.append (nothing found.left) = found := by
  unfold nothing append
  simp

@[simp] theorem nothing_last (text : List Char) (before : Option Char) :
    (nothing text).last before = before := by
  unfold nothing last
  simp

end Found

namespace Pattern

/-- Greedy turns. A turn that takes nothing ends the repetition. -/
def greedy (step : Option Char → List Char → List Found) :
    Nat → Option Char → List Char → List Found
  | 0, _, text => [.nothing text]
  | fuel + 1, before, text =>
      (((step before text).filter fun found => found.left.length < text.length).flatMap
        fun found => (greedy step fuel (found.last before) found.left).map found.append) ++
        [.nothing text]

/-- The matches at the start of a text, given the character before it. -/
def runs : Pattern → Option Char → List Char → List Found
  | chars accepts, _, text =>
      match text with
      | [] => []
      | char :: rest => if accepts char then [⟨[char], none, rest⟩] else []
  | boundary isWord, before, text =>
      if before.any isWord = text.head?.any isWord then [] else [.nothing text]
  | empty, _, text => [.nothing text]
  | seq first second, before, text =>
      (first.runs before text).flatMap fun found =>
        (second.runs (found.last before) found.left).map found.append
  | alt first second, before, text => first.runs before text ++ second.runs before text
  | star body, before, text => greedy body.runs text.length before text
  | group body, before, text =>
      (body.runs before text).map fun found => { found with captured := some found.taken }

def opt (body : Pattern) : Pattern := alt body empty

def plus (body : Pattern) : Pattern := seq body (star body)

def times (body : Pattern) : Nat → Pattern
  | 0 => empty
  | count + 1 => seq body (times body count)

/-- One character after the other. -/
def word (letters : List (Char → Bool)) : Pattern :=
  letters.foldr (fun accepts rest => seq (chars accepts) rest) empty

/-- `re.search`: the first match at the first place that has one. -/
def search (pattern : Pattern) : Option Char → List Char → Option Found
  | before, [] => (pattern.runs before []).head?
  | before, char :: rest =>
      (pattern.runs before (char :: rest)).head?.or (search pattern (some char) rest)

/-- `re.sub` with nothing. No match may be empty, so a turn for every character is enough. -/
def delete (pattern : Pattern) : Nat → Option Char → List Char → List Char
  | 0, _, _ => []
  | _ + 1, _, [] => []
  | fuel + 1, before, char :: rest =>
      match (pattern.runs before (char :: rest)).head? with
      | none => char :: delete pattern fuel (some char) rest
      | some found => delete pattern fuel (found.last before) found.left

section

variable {accepts isWord : Char → Bool} {first second body pattern : Pattern}
  {before : Option Char} {text rest : List Char} {char : Char} {found : Found}

theorem getLast?_cons_or : (char :: text).getLast?.or before = text.getLast?.or (some char) := by
  rw [List.getLast?_cons]
  cases text.getLast? with
  | none => rfl
  | some last => rfl

theorem getLast?_append_or : (text ++ rest).getLast?.or before =
    rest.getLast?.or (text.getLast?.or before) := by
  rw [List.getLast?_append, Option.or_assoc]

@[simp] theorem runs_chars_nil : (chars accepts).runs before [] = [] := rfl

@[simp] theorem runs_chars_cons : (chars accepts).runs before (char :: rest) =
    if accepts char then [⟨[char], none, rest⟩] else [] := rfl

@[simp] theorem runs_empty : empty.runs before text = [.nothing text] := rfl

theorem runs_seq : (seq first second).runs before text =
    (first.runs before text).flatMap fun found =>
      (second.runs (found.last before) found.left).map found.append := rfl

theorem runs_alt :
    (alt first second).runs before text = first.runs before text ++ second.runs before text := rfl

theorem runs_boundary (apart : before.any isWord ≠ text.head?.any isWord) :
    (boundary isWord).runs before text = [.nothing text] := if_neg apart

theorem mem_seq : found ∈ (seq first second).runs before text ↔
    ∃ front ∈ first.runs before text, ∃ back ∈ second.runs (front.last before) front.left,
      front.append back = found := by
  rw [runs_seq, List.mem_flatMap]
  simp only [List.mem_map]

theorem mem_boundary : found ∈ (boundary isWord).runs before text ↔
    before.any isWord ≠ text.head?.any isWord ∧ found = .nothing text := by
  rw [runs]
  split
  next same => simp [same]
  next apart => simp [apart]

theorem runs_seq_nil (none : first.runs before text = []) :
    (seq first second).runs before text = [] := by
  rw [runs_seq, none, List.flatMap_nil]

theorem runs_seq_single (one : first.runs before text = [found]) :
    (seq first second).runs before text =
      (second.runs (found.last before) found.left).map found.append := by
  rw [runs_seq, one, List.flatMap_singleton]

theorem runs_seq_nothing (one : first.runs before text = [.nothing text]) :
    (seq first second).runs before text = second.runs before text := by
  rw [runs_seq_single one, Found.nothing_last, Found.nothing_append, List.map_id]
  rfl

theorem mem_boundary_seq : found ∈ (seq (boundary isWord) second).runs before text ↔
    before.any isWord ≠ text.head?.any isWord ∧ found ∈ second.runs before text := by
  constructor
  · intro given
    obtain ⟨front, member, back, member', rfl⟩ := mem_seq.mp given
    obtain ⟨apart, rfl⟩ := mem_boundary.mp member
    rw [Found.nothing_append]
    rw [Found.nothing_last] at member'
    exact ⟨apart, member'⟩
  · rintro ⟨apart, member⟩
    rwa [runs_seq_nothing (runs_boundary apart)]

theorem mem_seq_boundary : found ∈ (seq first (boundary isWord)).runs before text ↔
    found ∈ first.runs before text ∧
      (found.last before).any isWord ≠ found.left.head?.any isWord := by
  constructor
  · intro given
    obtain ⟨front, member, back, member', rfl⟩ := mem_seq.mp given
    obtain ⟨apart, rfl⟩ := mem_boundary.mp member'
    rw [Found.append_nothing]
    exact ⟨member, apart⟩
  · rintro ⟨member, apart⟩
    exact mem_seq.mpr ⟨found, member, _, mem_boundary.mpr ⟨apart, rfl⟩, Found.append_nothing found⟩

theorem mem_chars : found ∈ (chars accepts).runs before text ↔
    ∃ char rest, accepts char = true ∧ text = char :: rest ∧ found = ⟨[char], none, rest⟩ := by
  cases text with
  | nil => simp
  | cons first others =>
      rw [runs_chars_cons]
      split
      next accepted =>
        rw [List.mem_singleton]
        constructor
        · rintro rfl
          exact ⟨first, others, accepted, rfl, rfl⟩
        · rintro ⟨char, rest, _, same, rfl⟩
          cases same
          rfl
      next refused =>
        simp only [List.not_mem_nil, false_iff]
        rintro ⟨char, rest, accepted, same, _⟩
        cases same
        exact refused accepted

theorem mem_word {letters : List (Char → Bool)} : found ∈ (word letters).runs before text ↔
    found.captured = none ∧ text = found.taken ++ found.left ∧
      List.Forall₂ (fun accepts char => accepts char = true) letters found.taken := by
  induction letters generalizing before text found with
  | nil =>
      obtain ⟨taken, captured, left⟩ := found
      rw [word, List.foldr_nil, runs_empty, List.mem_singleton, List.forall₂_nil_left_iff]
      constructor
      · intro same
        cases same
        exact ⟨rfl, rfl, rfl⟩
      · rintro ⟨rfl, rfl, rfl⟩
        rfl
  | cons accepts letters ih =>
      have step : (word (accepts :: letters)) = seq (chars accepts) (word letters) := rfl
      rw [step, mem_seq]
      constructor
      · rintro ⟨front, member, back, member', rfl⟩
        obtain ⟨char, rest, accepted, rfl, rfl⟩ := mem_chars.mp member
        obtain ⟨captured, shape, spelled⟩ := ih.mp member'
        have shape : rest = back.taken ++ back.left := shape
        refine ⟨by simp [Found.append, captured], by simp [Found.append, shape], ?_⟩
        exact .cons accepted spelled
      · rintro ⟨captured, shape, spelled⟩
        obtain ⟨taken, captured', left⟩ := found
        cases spelled with
        | @cons _ char _ taken accepted spelled =>
            subst captured shape
            refine ⟨⟨[char], none, taken ++ left⟩, ?_, ⟨taken, none, left⟩, ?_, rfl⟩
            · exact mem_chars.mpr ⟨char, _, accepted, rfl, rfl⟩
            · exact ih.mpr ⟨rfl, rfl, spelled⟩

/-! Searching and deleting, one character at a time. -/

theorem search_cons_isSome : (pattern.search before (char :: rest)).isSome = true ↔
    (∃ found, found ∈ pattern.runs before (char :: rest)) ∨
      (pattern.search (some char) rest).isSome = true := by
  show ((pattern.runs before (char :: rest)).head?.or (pattern.search (some char) rest)).isSome =
    true ↔ _
  rw [Option.isSome_or, Bool.or_eq_true, List.isSome_head?]
  apply or_congr_left
  constructor
  · exact List.exists_mem_of_ne_nil _
  · rintro ⟨found, member⟩
    exact List.ne_nil_of_mem member

theorem delete_cons_none {fuel : Nat} (none : pattern.runs before (char :: rest) = []) :
    pattern.delete (fuel + 1) before (char :: rest) =
      char :: pattern.delete fuel (some char) rest := by
  rw [delete, none, List.head?_nil]

theorem delete_cons_some {fuel : Nat}
    (first : (pattern.runs before (char :: rest)).head? = some found) :
    pattern.delete (fuel + 1) before (char :: rest) =
      pattern.delete fuel (found.last before) found.left := by
  rw [delete, first]

/-! A repeated class of characters. -/

theorem runs_star_chars_nil : (star (chars accepts)).runs before [] = [.nothing []] := rfl

theorem runs_star_chars_pos (accepted : accepts char = true) :
    (star (chars accepts)).runs before (char :: rest) =
      ((star (chars accepts)).runs (some char) rest).map (Found.append ⟨[char], none, rest⟩) ++
        [.nothing (char :: rest)] := by
  simp only [runs, List.length_cons, greedy, accepted, ↓reduceIte]
  simp [Found.last]

theorem runs_star_chars_neg (refused : accepts char = false) :
    (star (chars accepts)).runs before (char :: rest) = [.nothing (char :: rest)] := by
  simp [runs, greedy, refused]

/-- A repeated class takes any number of its characters. -/
theorem mem_star_chars : found ∈ (star (chars accepts)).runs before text ↔
    found.captured = none ∧ text = found.taken ++ found.left ∧
      ∀ char ∈ found.taken, accepts char = true := by
  induction text generalizing before found with
  | nil =>
      rw [runs_star_chars_nil, List.mem_singleton]
      constructor
      · rintro rfl
        simp [Found.nothing]
      · rintro ⟨captured, shape, _⟩
        obtain ⟨taken, captured', left⟩ := found
        obtain ⟨rfl, rfl⟩ := List.append_eq_nil_iff.mp shape.symm
        cases captured
        rfl
  | cons char rest ih =>
      obtain ⟨taken, captured, left⟩ := found
      by_cases accepted : accepts char = true
      · rw [runs_star_chars_pos accepted, List.mem_append, List.mem_map, List.mem_singleton]
        constructor
        · rintro (⟨later, member, same⟩ | same)
          · obtain ⟨captured', rfl, inside⟩ := ih.mp member
            cases same
            refine ⟨by simp [captured'], by simp, ?_⟩
            intro other member
            rcases List.mem_cons.mp member with rfl | member
            · exact accepted
            · exact inside other member
          · cases same
            simp
        · rintro ⟨rfl, shape, inside⟩
          cases taken with
          | nil => exact .inr (by rw [Found.nothing, shape]; rfl)
          | cons other taken =>
              obtain ⟨rfl, rfl⟩ := List.cons.inj shape
              refine .inl ⟨⟨taken, none, left⟩, ?_, rfl⟩
              exact ih.mpr ⟨rfl, rfl, fun char member => inside char (List.mem_cons_of_mem _ member)⟩
      · rw [runs_star_chars_neg (Bool.not_eq_true _ ▸ accepted), List.mem_singleton]
        constructor
        · intro same
          cases same
          simp
        · rintro ⟨rfl, shape, inside⟩
          cases taken with
          | nil => rw [Found.nothing, shape]; rfl
          | cons other taken =>
              obtain ⟨rfl, rfl⟩ := List.cons.inj shape
              exact absurd (inside char List.mem_cons_self) accepted

theorem mem_plus_chars : found ∈ (plus (chars accepts)).runs before text ↔
    found.captured = none ∧ text = found.taken ++ found.left ∧ found.taken ≠ [] ∧
      ∀ char ∈ found.taken, accepts char = true := by
  rw [plus, mem_seq]
  constructor
  · rintro ⟨front, member, back, member', rfl⟩
    obtain ⟨char, rest, accepted, rfl, rfl⟩ := mem_chars.mp member
    obtain ⟨captured, shape, inside⟩ := mem_star_chars.mp member'
    have shape : rest = back.taken ++ back.left := shape
    refine ⟨by simp [Found.append, captured], by simp [Found.append, shape],
      by simp [Found.append], ?_⟩
    intro other member
    rcases List.mem_cons.mp member with rfl | member
    · exact accepted
    · exact inside other member
  · obtain ⟨taken, captured, left⟩ := found
    rintro ⟨rfl, rfl, nonempty, inside⟩
    cases taken with
    | nil => exact absurd rfl nonempty
    | cons char taken =>
        refine ⟨⟨[char], none, taken ++ left⟩, ?_, ⟨taken, none, left⟩, ?_, rfl⟩
        · exact mem_chars.mpr ⟨char, _, inside char List.mem_cons_self, rfl, rfl⟩
        · exact mem_star_chars.mpr ⟨rfl, rfl, fun other member =>
            inside other (List.mem_cons_of_mem _ member)⟩

/-- What cannot start inside a repeated class starts after all of it. -/
theorem runs_seq_star_chars
    (apart : ∀ before char rest, accepts char = true → second.runs before (char :: rest) = []) :
    (seq (star (chars accepts)) second).runs before text =
      (second.runs ((text.takeWhile accepts).getLast?.or before) (text.dropWhile accepts)).map
        (Found.append ⟨text.takeWhile accepts, none, text.dropWhile accepts⟩) := by
  induction text generalizing before with
  | nil =>
      rw [runs_seq_nothing runs_star_chars_nil]
      change _ = (second.runs before []).map (Found.nothing []).append
      rw [Found.nothing_append, List.map_id]
  | cons char rest ih =>
      by_cases accepted : accepts char = true
      · have later := @ih (some char)
        rw [runs_seq] at later
        rw [runs_seq, runs_star_chars_pos accepted, List.flatMap_append, List.flatMap_singleton,
          List.flatMap_map]
        have here : second.runs ((Found.nothing (char :: rest)).last before)
            (Found.nothing (char :: rest)).left = [] := apart _ _ _ accepted
        rw [here, List.map_nil, List.append_nil, List.takeWhile_cons_of_pos accepted,
          List.dropWhile_cons_of_pos accepted]
        have step : ∀ found : Found,
            (second.runs ((Found.append ⟨[char], none, rest⟩ found).last before)
              (Found.append ⟨[char], none, rest⟩ found).left).map
                (Found.append ⟨[char], none, rest⟩ found).append =
              ((second.runs (found.last (some char)) found.left).map found.append).map
                (Found.append ⟨[char], none, rest⟩) := by
          intro found
          rw [Found.append_last, List.map_map]
          apply List.map_congr_left
          intro back _
          exact Found.append_assoc _ _ _
        simp only [step]
        rw [← List.map_flatMap, later, List.map_map]
        rw [getLast?_cons_or]
        apply List.map_congr_left
        intro back _
        exact (Found.append_assoc _ _ _).symm
      · have refused : accepts char = false := Bool.not_eq_true _ ▸ accepted
        rw [runs_seq_nothing (runs_star_chars_neg refused), List.takeWhile_cons_of_neg accepted,
          List.dropWhile_cons_of_neg accepted]
        change _ = (second.runs before (char :: rest)).map (Found.nothing _).append
        rw [Found.nothing_append, List.map_id]

/-! What a match takes and leaves is the text. -/

theorem mem_greedy_shape {step : Option Char → List Char → List Found}
    (shape : ∀ before text found, found ∈ step before text → text = found.taken ++ found.left)
    {fuel : Nat} (member : found ∈ greedy step fuel before text) :
    text = found.taken ++ found.left := by
  induction fuel generalizing before text found with
  | zero =>
      rw [List.mem_singleton.mp member]
      rfl
  | succ fuel ih =>
      rw [greedy, List.mem_append, List.mem_singleton] at member
      rcases member with member | rfl
      · obtain ⟨turn, taken, later⟩ := List.mem_flatMap.mp member
        obtain ⟨others, left, rfl⟩ := List.mem_map.mp later
        rw [shape before text turn (List.mem_filter.mp taken).1, ih left]
        simp [Found.append]
      · rfl

theorem mem_shape (member : found ∈ pattern.runs before text) :
    text = found.taken ++ found.left := by
  induction pattern generalizing before text found with
  | chars accepts =>
      obtain ⟨char, rest, _, rfl, rfl⟩ := mem_chars.mp member
      rfl
  | boundary isWord =>
      rw [(mem_boundary.mp member).2]
      rfl
  | empty =>
      rw [List.mem_singleton.mp member]
      rfl
  | seq first second ihFirst ihSecond =>
      obtain ⟨front, taken, back, left, rfl⟩ := mem_seq.mp member
      rw [ihFirst taken, ihSecond left]
      simp [Found.append]
  | alt first second ihFirst ihSecond =>
      rcases List.mem_append.mp member with member | member
      · exact ihFirst member
      · exact ihSecond member
  | star body ih => exact mem_greedy_shape (fun _ _ _ => ih) member
  | group body ih =>
      obtain ⟨inner, taken, rfl⟩ := List.mem_map.mp member
      have shape : text = inner.taken ++ inner.left := ih taken
      exact shape

/-- What a search finds is a match at some place of the text. -/
theorem search_some (given : pattern.search before text = some found) :
    ∃ front, text = front ++ (found.taken ++ found.left) ∧
      found ∈ pattern.runs (front.getLast?.or before) (found.taken ++ found.left) := by
  induction text generalizing before with
  | nil =>
      have member := List.mem_of_head? given
      have shape := mem_shape member
      rw [shape] at member
      exact ⟨[], shape, member⟩
  | cons char rest ih =>
      rw [search, Option.or_eq_some_iff] at given
      rcases given with first | ⟨_, later⟩
      · have member := List.mem_of_head? first
        have shape := mem_shape member
        rw [shape] at member
        exact ⟨[], shape, member⟩
      · obtain ⟨front, shape, member⟩ := ih later
        refine ⟨char :: front, by rw [shape]; rfl, ?_⟩
        rw [getLast?_cons_or]
        exact member

theorem times_chars (count : Nat) :
    times (chars accepts) count = word (List.replicate count accepts) := by
  induction count with
  | zero => rfl
  | succ count ih => rw [times, ih]; rfl

theorem mem_times_chars {count : Nat} : found ∈ (times (chars accepts) count).runs before text ↔
    found.captured = none ∧ text = found.taken ++ found.left ∧ found.taken.length = count ∧
      ∀ char ∈ found.taken, accepts char = true := by
  rw [times_chars, mem_word]
  apply and_congr_right
  intro _
  apply and_congr_right
  intro _
  generalize found.taken = taken
  induction count generalizing taken with
  | zero => rw [List.replicate_zero, List.forall₂_nil_left_iff]; simp +contextual
  | succ count ih =>
      rw [List.replicate_succ, List.forall₂_cons_left_iff]
      constructor
      · rintro ⟨char, rest, accepted, others, rfl⟩
        obtain ⟨length, inside⟩ := (ih rest).mp others
        exact ⟨congrArg (· + 1) length, List.forall_mem_cons.mpr ⟨accepted, inside⟩⟩
      · rintro ⟨length, inside⟩
        cases taken with
        | nil => cases length
        | cons char rest =>
            obtain ⟨accepted, inside⟩ := List.forall_mem_cons.mp inside
            exact ⟨char, rest, accepted, (ih rest).mpr ⟨Nat.succ.inj length, inside⟩, rfl⟩

/-! The first match. -/

theorem head?_seq {front back : Found} (one : (first.runs before text).head? = some front)
    (next : (second.runs (front.last before) front.left).head? = some back) :
    ((seq first second).runs before text).head? = some (front.append back) := by
  rw [runs_seq]
  cases shape : first.runs before text with
  | nil =>
      rw [shape] at one
      cases one
  | cons found others =>
      rw [shape] at one
      cases one
      rw [List.flatMap_cons, List.head?_append, List.head?_map, next]
      rfl

theorem head?_seq_char {back : Found} (accepted : accepts char = true)
    (next : (second.runs (some char) rest).head? = some back) :
    ((seq (chars accepts) second).runs before (char :: rest)).head? =
      some (Found.append ⟨[char], none, rest⟩ back) := by
  have one : ((chars accepts).runs before (char :: rest)).head? = some ⟨[char], none, rest⟩ := by
    rw [runs_chars_cons, if_pos accepted, List.head?_cons]
  exact head?_seq one next

theorem head?_alt : ((alt first second).runs before text).head? =
    (first.runs before text).head?.or (second.runs before text).head? := by
  rw [runs_alt, List.head?_append]

theorem head?_opt_some (one : (body.runs before text).head? = some found) :
    ((opt body).runs before text).head? = some found := by
  rw [opt, head?_alt, one, Option.some_or]

theorem runs_opt_nil (none : body.runs before text = []) :
    (opt body).runs before text = [.nothing text] := by
  rw [opt, runs_alt, none, List.nil_append, runs_empty]

theorem head?_star_chars : ((star (chars accepts)).runs before text).head? =
    some ⟨text.takeWhile accepts, none, text.dropWhile accepts⟩ := by
  induction text generalizing before with
  | nil => rfl
  | cons char rest ih =>
      by_cases accepted : accepts char = true
      · rw [runs_star_chars_pos accepted, List.head?_append, List.head?_map, ih,
          List.takeWhile_cons_of_pos accepted, List.dropWhile_cons_of_pos accepted]
        rfl
      · rw [runs_star_chars_neg (Bool.not_eq_true _ ▸ accepted),
          List.takeWhile_cons_of_neg accepted, List.dropWhile_cons_of_neg accepted]
        rfl

theorem head?_plus_chars (some' : text.takeWhile accepts ≠ []) :
    ((plus (chars accepts)).runs before text).head? =
      some ⟨text.takeWhile accepts, none, text.dropWhile accepts⟩ := by
  cases text with
  | nil => exact absurd rfl some'
  | cons char rest =>
      by_cases accepted : accepts char = true
      · rw [plus, head?_seq_char accepted head?_star_chars, List.takeWhile_cons_of_pos accepted,
          List.dropWhile_cons_of_pos accepted]
        rfl
      · rw [List.takeWhile_cons_of_neg accepted] at some'
        exact absurd rfl some'

theorem runs_plus_chars_nil (none : text.takeWhile accepts = []) :
    (plus (chars accepts)).runs before text = [] := by
  apply runs_seq_nil
  cases text with
  | nil => rfl
  | cons char rest =>
      rw [runs_chars_cons, if_neg]
      intro accepted
      rw [List.takeWhile_cons_of_pos accepted] at none
      cases none

/-- A word that is spelled out here is the one match. -/
theorem runs_word {letters : List (Char → Bool)} {taken : List Char}
    (spelled : List.Forall₂ (fun accepts char => accepts char = true) letters taken) :
    (word letters).runs before (taken ++ rest) = [⟨taken, none, rest⟩] := by
  induction spelled generalizing before with
  | nil => rfl
  | @cons accepts char letters taken accepted _ ih =>
      have step : word (accepts :: letters) = seq (chars accepts) (word letters) := rfl
      have one : (chars accepts).runs before (char :: (taken ++ rest)) =
          [⟨[char], none, taken ++ rest⟩] := by
        rw [runs_chars_cons, if_pos accepted]
      rw [step, List.cons_append, runs_seq_single one, ih]
      rfl

/-! A stretch of text where no match starts. -/

/-- No match starts inside the text, with the given text after it. -/
def Misses (pattern : Pattern) (before : Option Char) (text rest : List Char) : Prop :=
  ∀ front char back, text = front ++ char :: back →
    pattern.runs (front.getLast?.or before) (char :: (back ++ rest)) = []

theorem Misses.tail (misses : pattern.Misses before (char :: text) rest) :
    pattern.Misses (some char) text rest := by
  intro front other back shape
  have later := misses (char :: front) other back (by rw [shape]; rfl)
  rw [getLast?_cons_or] at later
  exact later

theorem Misses.cons (here : pattern.runs before (char :: (text ++ rest)) = [])
    (later : pattern.Misses (some char) text rest) : pattern.Misses before (char :: text) rest := by
  intro front other back shape
  cases front with
  | nil =>
      cases shape
      exact here
  | cons first front =>
      obtain ⟨rfl, rfl⟩ := List.cons.inj shape
      rw [getLast?_cons_or]
      exact later front other back rfl

theorem search_misses (misses : pattern.Misses before text rest) :
    pattern.search before (text ++ rest) = pattern.search (text.getLast?.or before) rest := by
  induction text generalizing before with
  | nil => rfl
  | cons char text ih =>
      have here := misses [] char text rfl
      rw [getLast?_cons_or, ← ih misses.tail, List.cons_append, search]
      have nothing : (pattern.runs before (char :: (text ++ rest))).head? = none := by
        rw [List.head?_eq_none_iff]
        exact here
      rw [nothing, Option.none_or]

theorem delete_misses {fuel : Nat} (misses : pattern.Misses before text rest) :
    pattern.delete (text.length + fuel) before (text ++ rest) =
      text ++ pattern.delete fuel (text.getLast?.or before) rest := by
  induction text generalizing before with
  | nil => rw [List.length_nil, Nat.zero_add]; rfl
  | cons char text ih =>
      have here : pattern.runs before (char :: (text ++ rest)) = [] := misses [] char text rfl
      have fuel' : (char :: text).length + fuel = (text.length + fuel) + 1 := by
        rw [List.length_cons]
        omega
      rw [fuel', List.cons_append, delete_cons_none here, ih misses.tail, getLast?_cons_or,
        List.cons_append]

end

end Pattern
