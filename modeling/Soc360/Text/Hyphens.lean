import Soc360.Text.Joined
import Soc360.Text.Python
import Soc360.Text.Regex

set_option autoImplicit false

/-! Groups of characters joined by single marks: how runs of separators become marks, and how a
pattern reads groups that are joined by hyphens. -/

namespace Hyphens

/-- Each group has characters, all of them accepted. -/
def Groups (accepts : Char → Bool) (groups : List (List Char)) : Prop :=
  ∀ group ∈ groups, group ≠ [] ∧ ∀ char ∈ group, accepts char = true

variable {accepts : Char → Bool} {text : List Char} {first group : List Char}
  {groups others : List (List Char)}

theorem Groups.nil : Groups accepts [] := fun _ member => by cases member

theorem Groups.cons (solid : group ≠ []) (accepted : ∀ char ∈ group, accepts char = true)
    (rest : Groups accepts others) : Groups accepts (group :: others) := by
  intro other member
  rcases List.mem_cons.mp member with rfl | later
  · exact ⟨solid, accepted⟩
  · exact rest other later

theorem Groups.tail (all : Groups accepts (group :: others)) : Groups accepts others :=
  fun other member => all other (List.mem_cons_of_mem _ member)

/-! Groups with a mark between two of them. -/

/-- One or more groups joined by single marks. -/
inductive Marked (mark : Char) (accepts : Char → Bool) : List Char → Prop where
  | single {group : List Char} (solid : group ≠ [])
      (accepted : ∀ char ∈ group, accepts char = true) : Marked mark accepts group
  | cons {group text : List Char} (solid : group ≠ [])
      (accepted : ∀ char ∈ group, accepts char = true) (rest : Marked mark accepts text) :
      Marked mark accepts (group ++ mark :: text)

section

variable {mark char : Char}

theorem marked_iff : Marked mark accepts text ↔
    ∃ groups, groups ≠ [] ∧ Groups accepts groups ∧ text = [mark].intercalate groups := by
  constructor
  · intro marked
    induction marked with
    | @single group solid accepted =>
        exact ⟨[group], List.cons_ne_nil _ _, Groups.cons solid accepted Groups.nil,
          List.intercalate_singleton.symm⟩
    | @cons group text solid accepted rest ih =>
        obtain ⟨groups, some', all, rfl⟩ := ih
        exact ⟨group :: groups, List.cons_ne_nil _ _, Groups.cons solid accepted all,
          (Joined.intercalate_cons some').symm⟩
  · rintro ⟨groups, some', all, rfl⟩
    induction groups with
    | nil => exact absurd rfl some'
    | cons first others ih =>
        obtain ⟨solid, accepted⟩ := all first List.mem_cons_self
        by_cases alone : others = []
        · rw [alone, List.intercalate_singleton]
          exact .single solid accepted
        · rw [Joined.intercalate_cons alone]
          exact .cons solid accepted (ih alone all.tail)

theorem Marked.append {text' : List Char} (before : Marked mark accepts text)
    (after : Marked mark accepts text') : Marked mark accepts (text ++ mark :: text') := by
  induction before with
  | single solid accepted => exact .cons solid accepted after
  | cons solid accepted rest ih =>
      rw [List.append_assoc, List.cons_append]
      exact .cons solid accepted ih

theorem Marked.ne_nil (marked : Marked mark accepts text) : text ≠ [] := by
  cases marked with
  | single solid accepted => exact solid
  | cons solid accepted rest => exact List.append_ne_nil_of_left_ne_nil solid _

theorem Marked.mem (marked : Marked mark accepts text) (member : char ∈ text) :
    char = mark ∨ accepts char = true := by
  induction marked with
  | single solid accepted => exact .inr (accepted char member)
  | cons solid accepted rest ih =>
      rcases List.mem_append.mp member with inside | later
      · exact .inr (accepted char inside)
      · rcases List.mem_cons.mp later with same | later
        · exact .inl same
        · exact ih later

/-- The first character is one of a group. -/
theorem Marked.head (marked : Marked mark accepts text) :
    ∃ char, text.head? = some char ∧ accepts char = true := by
  cases marked with
  | single solid accepted =>
      exact ⟨text.head solid, List.head?_eq_some_head solid, accepted _ (List.head_mem solid)⟩
  | @cons group rest solid accepted later =>
      refine ⟨group.head solid, ?_, accepted _ (List.head_mem solid)⟩
      rw [List.head?_append, List.head?_eq_some_head solid]
      rfl

/-- The last character is one of a group. -/
theorem Marked.getLast (marked : Marked mark accepts text) :
    ∃ char, text.getLast? = some char ∧ accepts char = true := by
  induction marked with
  | @single group solid accepted =>
      exact ⟨group.getLast solid, List.getLast?_eq_some_getLast solid,
        accepted _ (List.getLast_mem solid)⟩
  | cons solid accepted rest ih =>
      obtain ⟨char, last, accepted'⟩ := ih
      refine ⟨char, ?_, accepted'⟩
      rw [List.getLast?_append, List.getLast?_cons, last]
      rfl

/-- No two marks are next to each other. -/
theorem Marked.apart {front back : List Char} {next : Char} (marked : Marked mark accepts text)
    (shape : text = front ++ char :: next :: back) :
    accepts char = true ∨ accepts next = true := by
  obtain ⟨groups, _, all, rfl⟩ := marked_iff.mp marked
  rcases Joined.intercalate_eq_append_cons.mp shape with
    ⟨before, after, rfl, _, solid, _, _, later⟩ | ⟨before, head, tail, after, rfl, _, _⟩
  · right
    have groups : Groups accepts after :=
      fun group member => all group (List.mem_append_right _ member)
    obtain ⟨first, head, accepted⟩ := (marked_iff.mpr ⟨after, solid, groups, later⟩).head
    cases head
    exact accepted
  · left
    have within := (all _ (List.mem_append_right _ List.mem_cons_self)).2
    exact within char (List.mem_append_right _ List.mem_cons_self)

/-- Cutting groups short leaves groups, unless a mark is then the last character. -/
theorem Marked.take {count : Nat} (marked : Marked mark accepts text) (positive : 0 < count)
    (solid_end : (text.take count).getLast? ≠ some mark) :
    Marked mark accepts (text.take count) := by
  have within {group : List Char} {count : Nat} (solid : group ≠ [])
      (accepted : ∀ char ∈ group, accepts char = true) (positive : 0 < count) :
      Marked mark accepts (group.take count) := by
    apply Marked.single
    · intro empty
      rcases List.take_eq_nil_iff.mp empty with zero | nil
      · omega
      · exact solid nil
    · exact fun char member => accepted char (List.mem_of_mem_take member)
  induction marked generalizing count with
  | single solid accepted => exact within solid accepted positive
  | @cons group text solid accepted rest ih =>
      by_cases inside : count ≤ group.length
      · rw [List.take_append_of_le_length inside]
        exact within solid accepted positive
      · obtain ⟨more, rfl⟩ : ∃ more, count = group.length + (more + 1) :=
          ⟨count - group.length - 1, by omega⟩
        rw [List.take_length_add_append, List.take_succ_cons] at solid_end ⊢
        cases more with
        | zero => simp at solid_end
        | succ more =>
            apply Marked.cons solid accepted
            apply ih (Nat.succ_pos _)
            intro ended
            apply solid_end
            rw [List.getLast?_append, List.getLast?_cons, ended]
            rfl

end

/-! Hyphens between the groups. -/

/-- Each group after a hyphen. -/
def tailed (groups : List (List Char)) : List Char := groups.flatMap fun group => '-' :: group

/-- The groups with a hyphen between two of them. -/
def joined : List (List Char) → List Char
  | [] => []
  | first :: others => first ++ tailed others

/-- One or more groups joined by single hyphens. -/
def Hyphenated (accepts : Char → Bool) (text : List Char) : Prop :=
  ∃ groups, groups ≠ [] ∧ Groups accepts groups ∧ text = joined groups

theorem joined_eq (groups : List (List Char)) : joined groups = ['-'].intercalate groups := by
  cases groups with
  | nil => rfl
  | cons first others =>
      rw [joined]
      induction others generalizing first with
      | nil => rw [tailed, List.flatMap_nil, List.append_nil, List.intercalate_singleton]
      | cons second others ih =>
          rw [Joined.intercalate_cons (List.cons_ne_nil _ _), ← ih, tailed, List.flatMap_cons,
            List.cons_append]
          rfl

theorem hyphenated_iff : Hyphenated accepts text ↔ Marked '-' accepts text := by
  simp only [Hyphenated, marked_iff, joined_eq]

theorem Hyphenated.single (solid : group ≠ []) (accepted : ∀ char ∈ group, accepts char = true) :
    Hyphenated accepts group :=
  hyphenated_iff.mpr (Marked.single solid accepted)

/-- A text joined to another. -/
theorem Hyphenated.cons (solid : group ≠ []) (accepted : ∀ char ∈ group, accepts char = true)
    (rest : Hyphenated accepts text) : Hyphenated accepts (group ++ '-' :: text) :=
  hyphenated_iff.mpr (Marked.cons solid accepted (hyphenated_iff.mp rest))

theorem Hyphenated.append {text' : List Char} (before : Hyphenated accepts text)
    (after : Hyphenated accepts text') : Hyphenated accepts (text ++ '-' :: text') :=
  hyphenated_iff.mpr ((hyphenated_iff.mp before).append (hyphenated_iff.mp after))

theorem Hyphenated.ne_nil (hyphenated : Hyphenated accepts text) : text ≠ [] :=
  (hyphenated_iff.mp hyphenated).ne_nil

/-- The last character is one of a group. -/
theorem Hyphenated.getLast (hyphenated : Hyphenated accepts text) :
    ∃ char, text.getLast? = some char ∧ accepts char = true :=
  (hyphenated_iff.mp hyphenated).getLast

/-- Cutting groups short leaves groups, unless a hyphen is then the last character. -/
theorem Hyphenated.take {count : Nat} (hyphenated : Hyphenated accepts text) (positive : 0 < count)
    (solid_end : (text.take count).getLast? ≠ some '-') : Hyphenated accepts (text.take count) :=
  hyphenated_iff.mpr ((hyphenated_iff.mp hyphenated).take positive solid_end)

/-! The pattern of groups joined by hyphens. -/

open Regex (chars matches_iff mem_chars mem_plus_chars mem_seq mem_star mem_stop plus seq star stop)

/-- `(?:-[...]+)*`. -/
def tailedPattern (accepts : Char → Bool) : Regex :=
  star (seq (chars (· == '-')) (plus (chars accepts)))

/-- `[...]+(?:-[...]+)*$`. -/
def pattern (accepts : Char → Bool) : Regex :=
  seq (seq (plus (chars accepts)) (tailedPattern accepts)) stop

theorem tailed_cons : tailed (group :: others) = '-' :: group ++ tailed others := by
  rw [tailed, List.flatMap_cons]
  rfl

theorem mem_group {rest : List Char} :
    rest ∈ (seq (chars (· == '-')) (plus (chars accepts))).rests text ↔
      ∃ group, group ≠ [] ∧ text = '-' :: group ++ rest ∧ ∀ char ∈ group, accepts char = true := by
  rw [mem_seq]
  constructor
  · rintro ⟨middle, hyphen, word⟩
    obtain ⟨char, rfl, same⟩ := mem_chars.mp hyphen
    obtain ⟨group, solid, rfl, accepted⟩ := mem_plus_chars.mp word
    exact ⟨group, solid, by rw [eq_of_beq same]; rfl, accepted⟩
  · rintro ⟨group, solid, rfl, accepted⟩
    exact ⟨group ++ rest, mem_chars.mpr ⟨'-', rfl, beq_self_eq_true _⟩,
      mem_plus_chars.mpr ⟨group, solid, rfl, accepted⟩⟩

theorem mem_tailed {rest : List Char} : rest ∈ (tailedPattern accepts).rests text ↔
    ∃ groups, Groups accepts groups ∧ text = tailed groups ++ rest := by
  constructor
  · intro left
    induction length : text.length using Nat.strongRecOn generalizing text with
    | ind size ih =>
        rcases mem_star.mp left with rfl | ⟨middle, taken, shorter, later⟩
        · exact ⟨[], Groups.nil, rfl⟩
        · obtain ⟨group, solid, rfl, accepted⟩ := mem_group.mp taken
          obtain ⟨groups, all, rfl⟩ := ih middle.length (length ▸ shorter) later rfl
          refine ⟨group :: groups, Groups.cons solid accepted all, ?_⟩
          rw [tailed_cons, List.append_assoc]
  · rintro ⟨groups, all, rfl⟩
    induction groups with
    | nil => exact mem_star.mpr (.inl rfl)
    | cons group groups ih =>
        obtain ⟨solid, accepted⟩ := all group List.mem_cons_self
        refine mem_star.mpr (.inr ⟨tailed groups ++ rest, ?_, ?_, ih all.tail⟩)
        · exact mem_group.mpr ⟨group, solid, by rw [tailed_cons, List.append_assoc], accepted⟩
        · rw [tailed_cons, List.append_assoc, List.cons_append]
          simp only [List.length_cons, List.length_append]
          omega

/-- The pattern matches the joined groups, also before a newline that ends the text. -/
theorem matches_pattern : (pattern accepts).matchesStart text = true ↔
    Hyphenated accepts text ∨ ∃ line, text = line ++ ['\n'] ∧ Hyphenated accepts line := by
  have body (rest : List Char) :
      rest ∈ (seq (plus (chars accepts)) (tailedPattern accepts)).rests text ↔
        ∃ line, Hyphenated accepts line ∧ text = line ++ rest := by
    rw [mem_seq]
    constructor
    · rintro ⟨middle, word, groups⟩
      obtain ⟨first, solid, rfl, accepted⟩ := mem_plus_chars.mp word
      obtain ⟨others, all, rfl⟩ := mem_tailed.mp groups
      refine ⟨joined (first :: others), ⟨first :: others, List.cons_ne_nil _ _,
        Groups.cons solid accepted all, rfl⟩, ?_⟩
      rw [joined, List.append_assoc]
    · rintro ⟨line, ⟨groups, some', all, rfl⟩, rfl⟩
      obtain ⟨first, others, rfl⟩ := List.exists_cons_of_ne_nil some'
      obtain ⟨solid, accepted⟩ := all first List.mem_cons_self
      refine ⟨tailed others ++ rest, ?_, ?_⟩
      · exact mem_plus_chars.mpr ⟨first, solid, List.append_assoc _ _ _, accepted⟩
      · exact mem_tailed.mpr ⟨others, all.tail, rfl⟩
  rw [matches_iff]
  constructor
  · rintro ⟨rest, left⟩
    obtain ⟨middle, taken, ended⟩ := mem_seq.mp left
    obtain ⟨rfl, ends⟩ := mem_stop.mp ended
    obtain ⟨line, hyphenated, rfl⟩ := (body rest).mp taken
    rcases ends with rfl | rfl
    · rw [List.append_nil]
      exact .inl hyphenated
    · exact .inr ⟨line, rfl, hyphenated⟩
  · rintro (hyphenated | ⟨line, rfl, hyphenated⟩)
    · refine ⟨[], mem_seq.mpr ⟨[], ?_, mem_stop.mpr ⟨rfl, .inl rfl⟩⟩⟩
      exact (body []).mpr ⟨text, hyphenated, (List.append_nil text).symm⟩
    · refine ⟨['\n'], mem_seq.mpr ⟨['\n'], ?_, mem_stop.mpr ⟨rfl, .inr rfl⟩⟩⟩
      exact (body ['\n']).mpr ⟨line, hyphenated, rfl⟩

/-! Runs of separators that become marks. -/

/-- Each run becomes one mark. -/
def collapseTo (mark : Char) (separates : Char → Bool) : List Char → List Char
  | [] => []
  | char :: rest =>
      if separates char then mark :: collapseTo mark separates (rest.dropWhile separates)
      else char :: collapseTo mark separates rest
termination_by text => text.length
decreasing_by
  · exact Nat.lt_succ_of_le (List.length_dropWhile_le _ _)
  · exact Nat.lt_succ_self _

def stays (separates : Char → Bool) (char : Char) : Bool := !separates char

/-- The runs of the other characters. -/
def words (separates : Char → Bool) (text : List Char) : List (List Char) :=
  match _shape : text.dropWhile separates with
  | [] => []
  | char :: rest =>
      (char :: rest.takeWhile (stays separates)) ::
        words separates (rest.dropWhile (stays separates))
termination_by text.length
decreasing_by
  have shorter := List.length_dropWhile_le (stays separates) rest
  have within := List.length_dropWhile_le separates text
  rw [_shape, List.length_cons] at within
  omega

section

variable {mark : Char} {separates outer : Char → Bool} {rest : List Char} {char : Char}

theorem collapseTo_cons_pos (separated : separates char = true) :
    collapseTo mark separates (char :: rest) =
      mark :: collapseTo mark separates (rest.dropWhile separates) := by
  rw [collapseTo, if_pos separated]

theorem collapseTo_cons_neg (kept : separates char ≠ true) :
    collapseTo mark separates (char :: rest) = char :: collapseTo mark separates rest := by
  rw [collapseTo, if_neg kept]

/-- A piece of the text, with a mark in place of a run. -/
def replaced (mark : Char) : Char ⊕ List Char → List Char
  | .inl char => [char]
  | .inr _ => [mark]

/-- `re.sub` of runs by marks. -/
theorem sub_runOf_eq (text : List Char) :
    Python.sub (Python.runOf separates 1) (fun _ => [mark]) text =
      collapseTo mark separates text := by
  have turns (fuel : Nat) (before : Option Char) (text : List Char) (enough : text.length ≤ fuel) :
      (Python.pieces (Python.runOf separates 1) fuel before text).flatMap (replaced mark) =
        collapseTo mark separates text := by
    induction fuel generalizing before text with
    | zero =>
        rw [List.length_eq_zero_iff.mp (Nat.le_zero.mp enough), collapseTo]
        rfl
    | succ fuel ih =>
        cases text with
        | nil =>
            rw [collapseTo]
            rfl
        | cons char rest =>
            rw [List.length_cons] at enough
            by_cases separated : separates char = true
            · have found : Python.runOf separates 1 before (char :: rest) =
                  some (char :: rest.takeWhile separates, rest.dropWhile separates) := by
                rw [Python.runOf, List.takeWhile_cons_of_pos separated,
                  List.dropWhile_cons_of_pos separated]
                exact if_pos (by simp)
              have shorter := List.length_dropWhile_le separates rest
              rw [Python.pieces, found, collapseTo_cons_pos separated]
              simp only [List.flatMap_cons]
              rw [ih _ _ (by omega)]
              rfl
            · have found : Python.runOf separates 1 before (char :: rest) = none := by
                rw [Python.runOf, List.takeWhile_cons_of_neg separated]
                exact if_neg (by simp)
              rw [Python.pieces, found, collapseTo_cons_neg separated]
              simp only [List.flatMap_cons]
              rw [ih _ _ (by omega)]
              rfl
  have pieces : Python.sub (Python.runOf separates 1) (fun _ => [mark]) text =
      (Python.pieces (Python.runOf separates 1) text.length none text).flatMap (replaced mark) := by
    apply List.flatMap_congr
    intro piece _
    cases piece with
    | inl char => rfl
    | inr taken => rfl
  rw [pieces, turns text.length none text le_rfl]

theorem words_of_nil {text : List Char} (nothing : text.dropWhile separates = []) :
    words separates text = [] := by
  rw [words]
  split
  next => rfl
  next shape =>
    rw [nothing] at shape
    cases shape

theorem words_of_cons {text : List Char} (some' : text.dropWhile separates = char :: rest) :
    words separates text = (char :: rest.takeWhile (stays separates)) ::
      words separates (rest.dropWhile (stays separates)) := by
  rw [words]
  split
  next shape =>
    rw [some'] at shape
    cases shape
  next shape =>
    rw [some'] at shape
    cases shape
    rfl

theorem words_groups (text : List Char) : Groups (stays separates)
    (words separates text) := by
  induction length : text.length using Nat.strongRecOn generalizing text with
  | ind size ih =>
      cases shape : text.dropWhile separates with
      | nil =>
          rw [words_of_nil shape]
          exact Groups.nil
      | cons char rest =>
          have within := List.length_dropWhile_le separates text
          have shorter := List.length_dropWhile_le (stays separates) rest
          rw [shape, List.length_cons] at within
          rw [words_of_cons shape]
          apply Groups.cons (List.cons_ne_nil _ _) ?_ (ih _ (by omega) _ rfl)
          intro other member
          rcases List.mem_cons.mp member with rfl | later
          · have first := List.head?_dropWhile_not separates text
            rw [shape] at first
            simpa [stays] using first
          · exact List.mem_takeWhile_imp later

/-- The characters of the words are those of the text. -/
theorem mem_words {text : List Char} {group : List Char} (member : group ∈ words separates text) :
    group ⊆ text := by
  induction length : text.length using Nat.strongRecOn generalizing text with
  | ind size ih =>
      cases shape : text.dropWhile separates with
      | nil =>
          rw [words_of_nil shape] at member
          cases member
      | cons char rest =>
          have within := List.length_dropWhile_le separates text
          have shorter := List.length_dropWhile_le (stays separates) rest
          rw [shape, List.length_cons] at within
          have inside : char :: rest ⊆ text := by
            rw [← shape]
            exact (List.dropWhile_sublist separates).subset
          rw [words_of_cons shape] at member
          intro other inGroup
          apply inside
          rcases List.mem_cons.mp member with rfl | later
          · rcases List.mem_cons.mp inGroup with rfl | taken
            · exact List.mem_cons_self
            · exact List.mem_cons_of_mem _ ((List.takeWhile_sublist _).subset taken)
          · have found := ih _ (by omega) later rfl inGroup
            exact List.mem_cons_of_mem _ ((List.dropWhile_sublist _).subset found)

theorem words_cons_pos (separated : separates char = true) :
    words separates (char :: rest) = words separates rest := by
  have same : (char :: rest).dropWhile separates = rest.dropWhile separates :=
    List.dropWhile_cons_of_pos separated
  cases shape : rest.dropWhile separates with
  | nil => rw [words_of_nil shape, words_of_nil (same.trans shape)]
  | cons first later => rw [words_of_cons shape, words_of_cons (same.trans shape)]

/-- A group up to the end or up to a separator is a word. -/
theorem words_group {group back : List Char} (solid : group ≠ [])
    (kept : ∀ char ∈ group, stays separates char = true)
    (ended : ∀ char ∈ back.head?, stays separates char = false) :
    words separates (group ++ back) = group :: words separates back := by
  obtain ⟨first, others, rfl⟩ := List.exists_cons_of_ne_nil solid
  have starts : separates first ≠ true := by
    have stays_first := kept first List.mem_cons_self
    rw [stays, Bool.not_eq_true'] at stays_first
    exact Bool.eq_false_iff.mp stays_first
  have kept' : ∀ char ∈ others, stays separates char = true := by
    intro char member
    exact kept char (List.mem_cons_of_mem _ member)
  have shape : (first :: others ++ back).dropWhile separates = first :: (others ++ back) :=
    List.dropWhile_cons_of_neg starts
  rw [words_of_cons shape, List.takeWhile_append_of_pos kept', List.dropWhile_append_of_pos kept']
  cases back with
  | nil => rw [List.takeWhile_nil, List.dropWhile_nil, List.append_nil]
  | cons separator more =>
      have stops : stays separates separator ≠ true := Bool.eq_false_iff.mp (ended separator rfl)
      rw [List.takeWhile_cons_of_neg stops, List.dropWhile_cons_of_neg stops, List.append_nil]

/-- The words of joined groups are the groups. -/
theorem words_intercalate {groups : List (List Char)} (marks : separates mark = true)
    (all : Groups (stays separates) groups) :
    words separates ([mark].intercalate groups) = groups := by
  induction groups with
  | nil => exact words_of_nil rfl
  | cons first others ih =>
      obtain ⟨solid, kept⟩ := all first List.mem_cons_self
      by_cases alone : others = []
      · have single := @words_group separates first [] solid kept (fun _ member => by cases member)
        have nothing : words separates [] = [] := words_of_nil rfl
        rw [List.append_nil, nothing] at single
        rw [alone, List.intercalate_singleton, single]
      · have ended : ∀ char ∈ (mark :: [mark].intercalate others).head?,
            stays separates char = false := by
          intro char member
          cases member
          rw [stays, marks]
          rfl
        rw [Joined.intercalate_cons alone, words_group solid kept ended, words_cons_pos marks,
          ih all.tail]

/-- A map that keeps the separators apart and what is no separator as it is keeps the words. -/
theorem words_map {separates' : Char → Bool} {map : Char → Char}
    (same : ∀ char, separates' (map char) = separates char)
    (fixed : ∀ char, stays separates char = true → map char = char) (text : List Char) :
    words separates' (text.map map) = words separates text := by
  have separated : separates' ∘ map = separates := funext same
  have staying : stays separates' ∘ map = stays separates := by
    funext char
    exact congrArg not (same char)
  induction length : text.length using Nat.strongRecOn generalizing text with
  | ind size ih =>
      have mapped : (text.map map).dropWhile separates' = (text.dropWhile separates).map map := by
        rw [List.dropWhile_map, separated]
      cases shape : text.dropWhile separates with
      | nil =>
          rw [shape] at mapped
          rw [words_of_nil shape, words_of_nil mapped]
      | cons char rest =>
          have within := List.length_dropWhile_le separates text
          have shorter := List.length_dropWhile_le (stays separates) rest
          have groups := @words_groups separates text
          rw [words_of_cons shape] at groups
          have kept := (groups _ List.mem_cons_self).2
          have group : (char :: rest.takeWhile (stays separates)).map map =
              char :: rest.takeWhile (stays separates) := by
            conv_rhs => rw [← List.map_id (char :: rest.takeWhile (stays separates))]
            apply List.map_congr_left
            intro other member
            exact fixed other (kept other member)
          rw [shape, List.length_cons] at within
          rw [shape, List.map_cons] at mapped
          rw [words_of_cons shape, words_of_cons mapped, List.takeWhile_map, List.dropWhile_map,
            staying, ih _ (by omega) _ rfl, ← List.map_cons, group]

/-- A word is kept as it is, up to the next separator. -/
theorem collapseTo_word (text : List Char) : collapseTo mark separates text =
    text.takeWhile (stays separates) ++
      collapseTo mark separates (text.dropWhile (stays separates)) := by
  induction text with
  | nil => rfl
  | cons char rest ih =>
      by_cases separated : separates char = true
      · have stops : stays separates char ≠ true := by simp [stays, separated]
        rw [List.takeWhile_cons_of_neg stops, List.dropWhile_cons_of_neg stops, List.nil_append]
      · have goes : stays separates char = true := by simp [stays, separated]
        rw [List.takeWhile_cons_of_pos goes, List.dropWhile_cons_of_pos goes,
          collapseTo_cons_neg separated, ih, List.cons_append]

/-- Marks and separators at the start go together. -/
theorem dropWhile_collapseTo (marks : outer mark = true)
    (separated : ∀ char, outer char = true → separates char = true) (text : List Char) :
    (collapseTo mark separates text).dropWhile outer =
      collapseTo mark separates (text.dropWhile separates) := by
  have solid (text : List Char) (first : ∀ char ∈ text.head?, separates char ≠ true) :
      (collapseTo mark separates text).dropWhile outer = collapseTo mark separates text := by
    cases text with
    | nil =>
        rw [collapseTo]
        rfl
    | cons char rest =>
        have kept := first char rfl
        rw [collapseTo_cons_neg kept, List.dropWhile_cons_of_neg fun hit => kept (separated _ hit)]
  have after (text : List Char) : ∀ char ∈ (text.dropWhile separates).head?,
      separates char ≠ true := by
    intro char member
    have first := List.head?_dropWhile_not separates text
    rw [Option.mem_def.mp member] at first
    exact Bool.eq_false_iff.mp (by simpa using first)
  cases text with
  | nil => exact solid [] (after [])
  | cons char rest =>
      by_cases hit : separates char = true
      · rw [collapseTo_cons_pos hit, List.dropWhile_cons_of_pos marks, solid _ (after rest),
          List.dropWhile_cons_of_pos hit]
      · rw [List.dropWhile_cons_of_neg hit]
        apply solid
        intro other member
        cases member
        exact hit

/-- A group that is joined to what follows loses the mark where nothing else follows. -/
theorem rdropWhile_marked {group back : List Char} (marks : outer mark = true)
    (ends : group.rdropWhile outer = group) :
    (group ++ mark :: back).rdropWhile outer =
      if back.rdropWhile outer = [] then group else group ++ mark :: back.rdropWhile outer := by
  induction back using List.reverseRecOn with
  | nil =>
      rw [List.rdropWhile_concat_pos _ _ _ marks]
      exact ends
  | append_singleton back last ih =>
      rw [← List.cons_append, ← List.append_assoc]
      by_cases hit : outer last = true
      · rw [List.rdropWhile_concat_pos _ _ _ hit, List.rdropWhile_concat_pos _ _ _ hit, ih]
      · rw [List.rdropWhile_concat_neg _ _ _ hit, List.rdropWhile_concat_neg _ _ _ hit,
          if_neg (by simp), List.append_assoc, List.cons_append]

/-- Without the marks at both ends, the collapsed text is its words joined. -/
theorem trim_collapseTo (marks : outer mark = true)
    (separated : ∀ char, outer char = true → separates char = true) (text : List Char) :
    (collapseTo mark separates text).trim outer = [mark].intercalate (words separates text) := by
  rw [List.trim, dropWhile_collapseTo marks separated]
  induction length : text.length using Nat.strongRecOn generalizing text with
  | ind size ih =>
      have within := List.length_dropWhile_le separates text
      cases shape : text.dropWhile separates with
      | nil =>
          rw [words_of_nil shape, collapseTo]
          rfl
      | cons char rest =>
          have shorter := List.length_dropWhile_le (stays separates) rest
          rw [shape, List.length_cons] at within
          have groups := @words_groups separates text
          rw [words_of_cons shape] at groups ⊢
          obtain ⟨solid, kept⟩ := groups _ List.mem_cons_self
          have ends : (char :: rest.takeWhile (stays separates)).rdropWhile outer =
              char :: rest.takeWhile (stays separates) := by
            apply List.rdropWhile_of_last
            intro last member
            have inside := kept last (List.mem_of_getLast? member)
            apply Bool.eq_false_iff.mpr
            intro hit
            rw [stays, separated last hit] at inside
            cases inside
          have starts : stays separates char = true := kept char List.mem_cons_self
          rw [collapseTo_word, List.takeWhile_cons_of_pos starts, List.dropWhile_cons_of_pos starts]
          have later := ih _ (by omega) (rest.dropWhile (stays separates)) rfl
          cases left : rest.dropWhile (stays separates) with
          | nil =>
              rw [collapseTo, List.append_nil, words_of_nil rfl, List.intercalate_singleton]
              exact ends
          | cons separator more =>
              have hit : separates separator = true := by
                have first := List.head?_dropWhile_not (stays separates) rest
                rw [left] at first
                simpa [stays] using first
              rw [left, List.dropWhile_cons_of_pos hit] at later
              rw [left] at groups
              rw [collapseTo_cons_pos hit, rdropWhile_marked marks ends, later]
              by_cases nobody : words separates (separator :: more) = []
              · have nothing : [mark].intercalate ([] : List (List Char)) = [] := rfl
                rw [nobody, nothing, if_pos rfl, List.intercalate_singleton]
              · have some' : [mark].intercalate (words separates (separator :: more)) ≠ [] :=
                  (marked_iff.mpr ⟨_, nobody, groups.tail, rfl⟩).ne_nil
                rw [if_neg some', Joined.intercalate_cons nobody]

end

/-! Runs of separators that become hyphens. -/

/-- Each run becomes one hyphen. -/
def collapse (separates : Char → Bool) : List Char → List Char
  | [] => []
  | char :: rest =>
      if separates char then '-' :: collapse separates (rest.dropWhile separates)
      else char :: collapse separates rest
termination_by text => text.length
decreasing_by
  · exact Nat.lt_succ_of_le (List.length_dropWhile_le _ _)
  · exact Nat.lt_succ_self _

section

variable {separates spaces : Char → Bool} {rest : List Char} {char : Char}

theorem collapse_cons_pos (separated : separates char = true) :
    collapse separates (char :: rest) = '-' :: collapse separates (rest.dropWhile separates) := by
  rw [collapse, if_pos separated]

theorem collapse_cons_neg (kept : separates char ≠ true) :
    collapse separates (char :: rest) = char :: collapse separates rest := by
  rw [collapse, if_neg kept]

theorem collapse_eq (text : List Char) :
    collapse separates text = collapseTo '-' separates text := by
  induction text using collapse.induct separates with
  | case1 => rw [collapse, collapseTo]
  | case2 char rest separated ih =>
      rw [collapse_cons_pos separated, collapseTo_cons_pos separated, ih]
  | case3 char rest kept ih => rw [collapse_cons_neg kept, collapseTo_cons_neg kept, ih]

/-- `re.sub` of runs by hyphens. -/
theorem sub_runOf (text : List Char) :
    Python.sub (Python.runOf separates 1) (fun _ => ['-']) text = collapse separates text := by
  rw [sub_runOf_eq, collapse_eq]

theorem dropWhile_dropWhile (implies : ∀ char, spaces char = true → separates char = true)
    (text : List Char) : (text.dropWhile spaces).dropWhile separates = text.dropWhile separates := by
  induction text with
  | nil => rfl
  | cons char rest ih =>
      by_cases space : spaces char = true
      · rw [List.dropWhile_cons_of_pos space, ih, List.dropWhile_cons_of_pos (implies char space)]
      · rw [List.dropWhile_cons_of_neg space]

def isHyphen (char : Char) : Bool := char == '-'

/-- Separators, of which some are already hyphens. -/
def orHyphen (spaces : Char → Bool) (char : Char) : Bool := spaces char || isHyphen char

theorem isHyphen_hyphen : isHyphen '-' = true := rfl

theorem orHyphen_of (space : spaces char = true) : orHyphen spaces char = true := by
  rw [orHyphen, space, Bool.true_or]

theorem dropWhile_collapse (text : List Char) :
    (collapse spaces text).dropWhile isHyphen =
      collapse spaces (text.dropWhile (orHyphen spaces)) := by
  induction length : text.length using Nat.strongRecOn generalizing text with
  | ind size ih =>
      cases text with
      | nil => rw [collapse, List.dropWhile_nil, List.dropWhile_nil, collapse]
      | cons char rest =>
          rw [List.length_cons] at length
          by_cases space : spaces char = true
          · have shorter := List.length_dropWhile_le spaces rest
            rw [collapse_cons_pos space, List.dropWhile_cons_of_pos isHyphen_hyphen,
              ih _ (by omega) (rest.dropWhile spaces) rfl,
              @dropWhile_dropWhile (orHyphen spaces) spaces (fun _ => orHyphen_of) rest,
              List.dropWhile_cons_of_pos (orHyphen_of space)]
          · rw [collapse_cons_neg space]
            by_cases hyphen : isHyphen char = true
            · have separated : orHyphen spaces char = true := by
                rw [orHyphen, hyphen, Bool.or_true]
              rw [List.dropWhile_cons_of_pos hyphen, ih _ (by omega) rest rfl,
                List.dropWhile_cons_of_pos separated]
            · have kept : orHyphen spaces char ≠ true := by
                simp [orHyphen, space, hyphen]
              rw [List.dropWhile_cons_of_neg hyphen, List.dropWhile_cons_of_neg kept,
                collapse_cons_neg space]

/-- Collapsing the separators and then the hyphens collapses them all at once. -/
theorem collapse_collapse (text : List Char) :
    collapse isHyphen (collapse spaces text) = collapse (orHyphen spaces) text := by
  induction length : text.length using Nat.strongRecOn generalizing text with
  | ind size ih =>
      cases text with
      | nil => rw [collapse, collapse, collapse]
      | cons char rest =>
          rw [List.length_cons] at length
          have shorter := List.length_dropWhile_le (orHyphen spaces) rest
          by_cases space : spaces char = true
          · rw [collapse_cons_pos space, collapse_cons_pos isHyphen_hyphen,
              dropWhile_collapse,
              @dropWhile_dropWhile (orHyphen spaces) spaces (fun _ => orHyphen_of) rest,
              ih _ (by omega) _ rfl, collapse_cons_pos (orHyphen_of space)]
          · rw [collapse_cons_neg space]
            by_cases hyphen : isHyphen char = true
            · have separated : orHyphen spaces char = true := by
                rw [orHyphen, hyphen, Bool.or_true]
              rw [collapse_cons_pos hyphen, dropWhile_collapse, ih _ (by omega) _ rfl,
                collapse_cons_pos separated]
            · have kept : orHyphen spaces char ≠ true := by
                simp [orHyphen, space, hyphen]
              rw [collapse_cons_neg hyphen, ih _ (by omega) rest rfl, collapse_cons_neg kept]

/-- Without the hyphens at both ends, the collapsed text is its words joined. -/
theorem trim_collapse (hyphen : separates '-' = true) (text : List Char) :
    ((collapse separates text).dropWhile isHyphen).rdropWhile isHyphen =
      joined (words separates text) := by
  have separated (char : Char) (hit : isHyphen char = true) : separates char = true := by
    rw [eq_of_beq hit]
    exact hyphen
  rw [collapse_eq, joined_eq]
  exact trim_collapseTo isHyphen_hyphen separated text

end

end Hyphens
