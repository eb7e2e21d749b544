import Mathlib.Logic.Basic
import Mathlib.Tactic.Common

set_option autoImplicit false

/-! Patterns in the manner of Python's `re`, matched against a list of characters. -/

/-- `stop` is `$`, which also stands before a newline that ends the text, and `ahead` is a
lookahead. -/
inductive Regex where
  | chars (accepts : Char → Bool)
  | empty
  | seq (first second : Regex)
  | alt (first second : Regex)
  | star (body : Regex)
  | stop
  | ahead (body : Regex)

namespace Regex

/-- What may be left after repeated turns. A turn that takes nothing ends the repetition. -/
def turns (step : List Char → List (List Char)) : Nat → List Char → List (List Char)
  | 0, text => [text]
  | fuel + 1, text =>
      text :: ((step text).filter fun rest => rest.length < text.length).flatMap (turns step fuel)

/-- What may be left of a text after a match at its start. -/
def rests : Regex → List Char → List (List Char)
  | chars accepts, text =>
      match text with
      | [] => []
      | char :: rest => if accepts char then [rest] else []
  | empty, text => [text]
  | seq first second, text => (first.rests text).flatMap second.rests
  | alt first second, text => first.rests text ++ second.rests text
  | star body, text => turns body.rests text.length text
  | stop, text => if text = [] ∨ text = ['\n'] then [text] else []
  | ahead body, text => if body.rests text = [] then [] else [text]

/-- `re.match`. -/
def matchesStart (regex : Regex) (text : List Char) : Bool := !(regex.rests text).isEmpty

def plus (body : Regex) : Regex := seq body (star body)

def opt (body : Regex) : Regex := alt body empty

def times (body : Regex) : Nat → Regex
  | 0 => empty
  | count + 1 => seq body (times body count)

def upTo (body : Regex) : Nat → Regex
  | 0 => empty
  | count + 1 => opt (seq body (upTo body count))

/-- `body{least,most}`. -/
def between (body : Regex) (least most : Nat) : Regex :=
  seq (times body least) (upTo body (most - least))

def literal (text : String) : Regex :=
  text.toList.foldr (fun char rest => seq (chars (· == char)) rest) empty

/-- The characters that a match can look at. -/
def alphabet : Regex → Char → Bool
  | chars accepts, char => accepts char
  | empty, _ => false
  | seq first second, char => first.alphabet char || second.alphabet char
  | alt first second, char => first.alphabet char || second.alphabet char
  | star body, char => body.alphabet char
  | stop, _ => false
  | ahead body, char => body.alphabet char

theorem alphabet_times {body : Regex} {char : Char} (count : Nat)
    (seen : (times body count).alphabet char = true) : body.alphabet char = true := by
  induction count with
  | zero => cases seen
  | succ count ih =>
      rcases Bool.or_eq_true_iff.mp seen with seen | seen
      · exact seen
      · exact ih seen

theorem alphabet_upTo {body : Regex} {char : Char} (count : Nat)
    (seen : (upTo body count).alphabet char = true) : body.alphabet char = true := by
  induction count with
  | zero => cases seen
  | succ count ih =>
      rcases Bool.or_eq_true_iff.mp seen with seen | nothing
      · rcases Bool.or_eq_true_iff.mp seen with seen | seen
        · exact seen
        · exact ih seen
      · cases nothing

theorem alphabet_between {body : Regex} {char : Char} {least most : Nat}
    (seen : (between body least most).alphabet char = true) : body.alphabet char = true := by
  rcases Bool.or_eq_true_iff.mp seen with seen | seen
  · exact alphabet_times _ seen
  · exact alphabet_upTo _ seen

theorem matches_iff {regex : Regex} {text : List Char} :
    regex.matchesStart text = true ↔ ∃ rest, rest ∈ regex.rests text := by
  unfold matchesStart
  rw [Bool.not_eq_true', List.isEmpty_eq_false_iff_exists_mem]

theorem mem_seq {first second : Regex} {text rest : List Char} :
    rest ∈ (seq first second).rests text ↔
      ∃ middle, middle ∈ first.rests text ∧ rest ∈ second.rests middle := by
  exact List.mem_flatMap

theorem mem_literal {word : String} {text rest : List Char}
    (left : rest ∈ (literal word).rests text) : text = word.toList ++ rest := by
  unfold literal at left
  generalize word.toList = letters at left ⊢
  induction letters generalizing text with
  | nil => exact (List.mem_singleton.mp left).symm
  | cons letter letters ih =>
      obtain ⟨middle, first, others⟩ := mem_seq.mp left
      cases text with
      | nil => cases first
      | cons char text =>
          rw [rests] at first
          split at first
          next same =>
            rw [← List.mem_singleton.mp first, ih others, eq_of_beq same, List.cons_append]
          next => cases first

theorem mem_stop {text rest : List Char} :
    rest ∈ stop.rests text ↔ rest = text ∧ (text = [] ∨ text = ['\n']) := by
  show rest ∈ (if text = [] ∨ text = ['\n'] then [text] else []) ↔ _
  split
  next ends => simp [ends]
  next goesOn => simp [goesOn]

theorem mem_turns_succ {step : List Char → List (List Char)} {fuel : Nat}
    {text rest : List Char} :
    rest ∈ turns step (fuel + 1) text ↔ rest = text ∨
      ∃ middle ∈ step text, middle.length < text.length ∧ rest ∈ turns step fuel middle := by
  apply List.mem_cons.trans
  rw [List.mem_flatMap]
  simp only [List.mem_filter, decide_eq_true_eq, and_assoc]

/-- More turns than there are characters make no difference. -/
theorem turns_fuel {step : List Char → List (List Char)} (fuel more : Nat) {text : List Char}
    (enough : text.length ≤ fuel) (enough' : text.length ≤ more) {rest : List Char} :
    rest ∈ turns step fuel text ↔ rest ∈ turns step more text := by
  induction fuel generalizing more text with
  | zero =>
      have nothing : text = [] := List.length_eq_zero_iff.mp (Nat.le_zero.mp enough)
      subst nothing
      cases more with
      | zero => rfl
      | succ more => simp [turns]
  | succ fuel ih =>
      cases more with
      | zero =>
          have nothing : text = [] := List.length_eq_zero_iff.mp (Nat.le_zero.mp enough')
          subst nothing
          simp [turns]
      | succ more =>
          rw [mem_turns_succ, mem_turns_succ]
          apply or_congr_right
          apply exists_congr
          intro middle
          apply and_congr_right
          intro _
          apply and_congr_right
          intro shorter
          exact ih more (by omega) (by omega)

/-- A match takes a part of the text, in its own characters. -/
def Takes (accepts : Char → Bool) (text rest : List Char) : Prop :=
  ∃ taken, text = taken ++ rest ∧ ∀ char ∈ taken, accepts char = true

theorem Takes.nothing {accepts : Char → Bool} {text : List Char} : Takes accepts text text :=
  ⟨[], rfl, by simp⟩

theorem Takes.trans {accepts : Char → Bool} {text middle rest : List Char}
    (before : Takes accepts text middle) (after : Takes accepts middle rest) :
    Takes accepts text rest := by
  obtain ⟨first, rfl, inside⟩ := before
  obtain ⟨second, rfl, inside'⟩ := after
  refine ⟨first ++ second, by simp, ?_⟩
  intro char member
  rcases List.mem_append.mp member with member | member
  · exact inside char member
  · exact inside' char member

theorem Takes.mono {accepts wider : Char → Bool} {text rest : List Char}
    (takes : Takes accepts text rest) (implies : ∀ char, accepts char = true → wider char = true) :
    Takes wider text rest := by
  obtain ⟨taken, shape, inside⟩ := takes
  exact ⟨taken, shape, fun char member => implies char (inside char member)⟩

theorem turns_takes {step : List Char → List (List Char)} {accepts : Char → Bool}
    (stepTakes : ∀ {text rest}, rest ∈ step text → Takes accepts text rest) {fuel : Nat}
    {text rest : List Char} (left : rest ∈ turns step fuel text) : Takes accepts text rest := by
  induction fuel generalizing text with
  | zero =>
      rw [List.mem_singleton.mp left]
      exact .nothing
  | succ fuel ih =>
      rcases mem_turns_succ.mp left with rfl | ⟨middle, taken, _, left⟩
      · exact .nothing
      · exact (stepTakes taken).trans (ih left)

theorem rests_takes {regex : Regex} {text rest : List Char} (left : rest ∈ regex.rests text) :
    Takes regex.alphabet text rest := by
  induction regex generalizing text rest with
  | chars accepts =>
      cases text with
      | nil => cases left
      | cons char tail =>
          simp only [rests] at left
          split at left
          next accepted =>
            rw [List.mem_singleton.mp left]
            exact ⟨[char], rfl, by simpa [alphabet] using accepted⟩
          next => cases left
  | empty =>
      rw [List.mem_singleton.mp left]
      exact .nothing
  | seq first second ihFirst ihSecond =>
      obtain ⟨middle, left, left'⟩ := mem_seq.mp left
      apply Takes.trans
      · exact (ihFirst left).mono fun char inside => by simp [alphabet, inside]
      · exact (ihSecond left').mono fun char inside => by simp [alphabet, inside]
  | alt first second ihFirst ihSecond =>
      rcases List.mem_append.mp left with left | left
      · exact (ihFirst left).mono fun char inside => by simp [alphabet, inside]
      · exact (ihSecond left).mono fun char inside => by simp [alphabet, inside]
  | star body ih => exact turns_takes ih left
  | stop =>
      rw [(mem_stop.mp left).1]
      exact .nothing
  | ahead body ih =>
      rw [rests] at left
      split at left
      next => cases left
      next =>
        rw [List.mem_singleton.mp left]
        exact .nothing

section

/-! A newline after a text without one changes no match. -/

variable {accepts : Char → Bool} {text rest : List Char}

theorem Takes.noNewline (takes : Takes accepts text rest) (unended : '\n' ∉ text) :
    '\n' ∉ rest := by
  obtain ⟨taken, rfl, _⟩ := takes
  simp only [List.mem_append, not_or] at unended
  exact unended.2

/-- What is left of an ended text is ended. -/
theorem Takes.ended (takes : Takes accepts (text ++ ['\n']) rest)
    (blind : accepts '\n' = false) : ∃ front, rest = front ++ ['\n'] := by
  obtain ⟨taken, shape, inside⟩ := takes
  rcases List.eq_nil_or_concat rest with rfl | ⟨front, last, rfl⟩
  · have member : '\n' ∈ taken := by
      rw [List.append_nil] at shape
      rw [← shape]
      simp
    rw [inside '\n' member] at blind
    cases blind
  · rw [List.concat_eq_append, ← List.append_assoc] at shape
    obtain ⟨_, same⟩ := List.append_inj' shape rfl
    exact ⟨front, by rw [List.concat_eq_append, same]⟩

/-- A step that behaves alike on a text and on the text ended by a newline. -/
def Blind (step : List Char → List (List Char)) : Prop :=
  ∀ text rest, '\n' ∉ text → (rest ∈ step text ↔ rest ++ ['\n'] ∈ step (text ++ ['\n']))

theorem turns_blind {step : List Char → List (List Char)} {accepts : Char → Bool}
    (stepTakes : ∀ {text rest}, rest ∈ step text → Takes accepts text rest)
    (newline : accepts '\n' = false) (blind : Blind step) (fuel : Nat) :
    Blind (turns step fuel) := by
  induction fuel with
  | zero =>
      intro text rest _
      simp [turns]
  | succ fuel ih =>
      intro text rest unended
      rw [mem_turns_succ, mem_turns_succ]
      apply or_congr
      · exact (List.append_left_inj ['\n']).symm
      · constructor
        · rintro ⟨middle, taken, shorter, left⟩
          refine ⟨middle ++ ['\n'], (blind _ _ unended).mp taken, ?_, ?_⟩
          · simpa using shorter
          · exact (ih _ _ ((stepTakes taken).noNewline unended)).mp left
        · rintro ⟨middle, taken, shorter, left⟩
          obtain ⟨front, rfl⟩ := (stepTakes taken).ended newline
          have taken' := (blind _ _ unended).mpr taken
          refine ⟨front, taken', ?_, ?_⟩
          · simpa using shorter
          · exact (ih _ _ ((stepTakes taken').noNewline unended)).mpr left

theorem rests_blind {regex : Regex} (newline : regex.alphabet '\n' = false) :
    Blind regex.rests := by
  induction regex with
  | chars accepts =>
      intro text rest unended
      cases text with
      | nil =>
          simp only [rests, List.nil_append]
          simp only [alphabet] at newline
          simp [newline]
      | cons char tail =>
          simp only [rests, List.cons_append]
          split
          next => simp
          next => simp
  | empty =>
      intro text rest _
      simp [rests]
  | seq first second ihFirst ihSecond =>
      simp only [alphabet, Bool.or_eq_false_iff] at newline
      intro text rest unended
      rw [mem_seq, mem_seq]
      constructor
      · rintro ⟨middle, left, left'⟩
        refine ⟨middle ++ ['\n'], (ihFirst newline.1 _ _ unended).mp left, ?_⟩
        exact (ihSecond newline.2 _ _ ((rests_takes left).noNewline unended)).mp left'
      · rintro ⟨middle, left, left'⟩
        obtain ⟨front, rfl⟩ := (rests_takes left).ended newline.1
        have left := (ihFirst newline.1 _ _ unended).mpr left
        refine ⟨front, left, ?_⟩
        exact (ihSecond newline.2 _ _ ((rests_takes left).noNewline unended)).mpr left'
  | alt first second ihFirst ihSecond =>
      simp only [alphabet, Bool.or_eq_false_iff] at newline
      intro text rest unended
      simp only [rests, List.mem_append]
      exact or_congr (ihFirst newline.1 _ _ unended) (ihSecond newline.2 _ _ unended)
  | star body ih =>
      intro text rest unended
      have newline : body.alphabet '\n' = false := newline
      have same := turns_blind (fun left => rests_takes left) newline (ih newline)
        (text ++ ['\n']).length text rest unended
      simp only [rests]
      rw [← same]
      apply turns_fuel
      · exact Nat.le_refl _
      · simp
  | stop =>
      intro text rest unended
      rw [mem_stop, mem_stop]
      cases text with
      | nil => simp
      | cons char tail =>
          have other : char ≠ '\n' := fun same => unended (same ▸ List.mem_cons_self)
          simp [other]
  | ahead body ih =>
      intro text rest unended
      have same : body.rests text = [] ↔ body.rests (text ++ ['\n']) = [] := by
        simp only [List.eq_nil_iff_forall_not_mem]
        constructor
        · intro none left there
          obtain ⟨front, rfl⟩ := (rests_takes there).ended newline
          exact none front ((ih newline _ _ unended).mpr there)
        · intro none left there
          exact none _ ((ih newline _ _ unended).mp there)
      simp only [rests, ← same]
      split
      next => simp
      next => simp

end

theorem mem_ahead {body : Regex} {text rest : List Char} (left : rest ∈ (ahead body).rests text) :
    rest = text := by
  rw [rests] at left
  split at left
  next => cases left
  next => exact List.mem_singleton.mp left

/-- A text matched up to `$` is a word in the characters of the pattern, and perhaps a newline. -/
theorem seq_stop {body : Regex} {text rest : List Char}
    (left : rest ∈ (seq body stop).rests text) :
    rest ∈ body.rests text ∧ (rest = [] ∨ rest = ['\n']) ∧ Takes body.alphabet text rest := by
  obtain ⟨middle, left, left'⟩ := mem_seq.mp left
  obtain ⟨rfl, ends⟩ := mem_stop.mp left'
  exact ⟨left, ends, rests_takes left⟩

theorem matches_newline {regex : Regex} {text : List Char} (newline : regex.alphabet '\n' = false)
    (unended : '\n' ∉ text) (ended : regex.matchesStart (text ++ ['\n']) = true) :
    regex.matchesStart text = true := by
  obtain ⟨rest, left⟩ := matches_iff.mp ended
  obtain ⟨front, rfl⟩ := (rests_takes left).ended newline
  exact matches_iff.mpr ⟨front, (rests_blind newline text front unended).mpr left⟩

/-! How much bounded repetitions of single characters take. -/

theorem length_chars {accepts : Char → Bool} {text rest : List Char}
    (left : rest ∈ (chars accepts).rests text) : text.length = rest.length + 1 := by
  cases text with
  | nil => cases left
  | cons char text =>
      rw [rests] at left
      split at left
      next => rw [List.mem_singleton.mp left, List.length_cons]
      next => cases left

theorem length_times {accepts : Char → Bool} {text rest : List Char} {count : Nat}
    (left : rest ∈ (times (chars accepts) count).rests text) :
    text.length = rest.length + count := by
  induction count generalizing text with
  | zero => rw [List.mem_singleton.mp left, Nat.add_zero]
  | succ count ih =>
      obtain ⟨middle, first, others⟩ := mem_seq.mp left
      rw [length_chars first, ih others]
      omega

theorem length_upTo {accepts : Char → Bool} {text rest : List Char} {count : Nat}
    (left : rest ∈ (upTo (chars accepts) count).rests text) :
    text.length ≤ rest.length + count := by
  induction count generalizing text with
  | zero =>
      rw [List.mem_singleton.mp left]
      exact Nat.le_add_right _ _
  | succ count ih =>
      rcases List.mem_append.mp left with left | left
      · obtain ⟨middle, first, others⟩ := mem_seq.mp left
        have shorter := ih others
        rw [length_chars first]
        omega
      · rw [List.mem_singleton.mp left]
        exact Nat.le_add_right _ _

theorem length_between {accepts : Char → Bool} {text rest : List Char} {least most : Nat}
    (ordered : least ≤ most) (left : rest ∈ (between (chars accepts) least most).rests text) :
    text.length ≤ rest.length + most := by
  obtain ⟨middle, first, others⟩ := mem_seq.mp left
  have taken := length_times first
  have taken' := length_upTo others
  omega

/-! What characters and their repetitions take. -/

section

variable {accepts : Char → Bool} {body : Regex} {text rest : List Char}

theorem mem_star : rest ∈ (star body).rests text ↔ rest = text ∨
    ∃ middle ∈ body.rests text, middle.length < text.length ∧ rest ∈ (star body).rests middle := by
  have turn : rest ∈ turns body.rests (text.length + 1) text ↔ rest ∈ (star body).rests text :=
    turns_fuel _ _ (Nat.le_succ _) (Nat.le_refl _)
  rw [← turn, mem_turns_succ]
  refine or_congr_right (exists_congr fun middle => and_congr_right fun _ =>
    and_congr_right fun shorter => ?_)
  exact turns_fuel _ _ (Nat.le_of_lt shorter) (Nat.le_refl _)

theorem mem_chars : rest ∈ (chars accepts).rests text ↔
    ∃ char, text = char :: rest ∧ accepts char = true := by
  cases text with
  | nil => simp [rests]
  | cons char text =>
      rw [rests]
      constructor
      · intro left
        split at left
        next accepted => exact ⟨char, by rw [List.mem_singleton.mp left], accepted⟩
        next => cases left
      · rintro ⟨other, same, accepted⟩
        cases same
        rw [if_pos accepted]
        exact List.mem_singleton_self _

theorem mem_star_chars : rest ∈ (star (chars accepts)).rests text ↔
    ∃ word, text = word ++ rest ∧ ∀ char ∈ word, accepts char = true := by
  constructor
  · exact fun left => rests_takes left
  · rintro ⟨word, rfl, accepted⟩
    induction word with
    | nil => exact mem_star.mpr (.inl rfl)
    | cons char word ih =>
        refine mem_star.mpr (.inr ⟨word ++ rest, ?_, ?_, ?_⟩)
        · exact mem_chars.mpr ⟨char, rfl, accepted char List.mem_cons_self⟩
        · simp
        · exact ih fun other member => accepted other (List.mem_cons_of_mem _ member)

theorem mem_plus_chars : rest ∈ (plus (chars accepts)).rests text ↔
    ∃ word, word ≠ [] ∧ text = word ++ rest ∧ ∀ char ∈ word, accepts char = true := by
  rw [plus, mem_seq]
  constructor
  · rintro ⟨middle, first, others⟩
    obtain ⟨char, rfl, accepted⟩ := mem_chars.mp first
    obtain ⟨word, rfl, accepted'⟩ := mem_star_chars.mp others
    refine ⟨char :: word, List.cons_ne_nil _ _, rfl, ?_⟩
    intro other member
    rcases List.mem_cons.mp member with rfl | later
    · exact accepted
    · exact accepted' other later
  · rintro ⟨word, solid, rfl, accepted⟩
    obtain ⟨char, word, rfl⟩ := List.exists_cons_of_ne_nil solid
    refine ⟨word ++ rest, ?_, ?_⟩
    · exact mem_chars.mpr ⟨char, rfl, accepted char List.mem_cons_self⟩
    · exact mem_star_chars.mpr
        ⟨word, rfl, fun other member => accepted other (List.mem_cons_of_mem _ member)⟩

end

end Regex
