import Soc360.Enrichment.Runs
import Soc360.Text.Substitution

set_option autoImplicit false

namespace Enrichment

open Python (Cut Piece spell)

/-- What `\d` and `\w` say of the characters around a citation. -/
structure Texts.Wordly (texts : Texts) : Prop where
  digit : ∀ char : Char, char.isDigit = true → texts.isDigit char = true
  digit_word : ∀ char, texts.isDigit char = true → texts.isWord char = true
  alphanum_word : ∀ char : Char, char.isAlphanum = true → texts.isWord char = true
  letters : ∀ char ∈ ['C', 'c'], texts.isDigit char = false
  brackets : ∀ char ∈ ['[', ']'], texts.isWord char = false

/-- An identifier of the pattern, where `isDigit` tells what `\d` is. -/
inductive Spelled (isDigit : Char → Bool) : List Char → Prop where
  | cve {c v e : Char} {year number : List Char} (initial : letter 'C' 'c' c = true)
      (second : letter 'V' 'v' v = true) (third : letter 'E' 'e' e = true)
      (four : year.length = 4) (years : ∀ char ∈ year, isDigit char = true)
      (enough : 4 ≤ number.length) (numbers : ∀ char ∈ number, isDigit char = true) :
      Spelled isDigit (c :: v :: e :: '-' :: (year ++ '-' :: number))
  | cwe {c w e : Char} {number : List Char} (initial : letter 'C' 'c' c = true)
      (second : letter 'W' 'w' w = true) (third : letter 'E' 'e' e = true)
      (enough : 1 ≤ number.length) (numbers : ∀ char ∈ number, isDigit char = true) :
      Spelled isDigit (c :: w :: e :: '-' :: number)

/-- A match of the pattern with the characters at its sides. It is maximal, since a digit is a word
character. -/
structure IsCitation (texts : Texts) (before : Option Char) (identifier : List Char)
    (after : Option Char) : Prop where
  before : before.any texts.isWord = false
  spelled : Spelled texts.isDigit identifier
  after : after.any texts.isWord = false

section

variable {texts : Texts} {before : Option Char} {text taken left found rest : List Char}
  {isDigit : Char → Bool} {least : Nat} {first : Char}

/-! The matcher. -/

theorem letter_iff {upper lower char : Char} :
    letter upper lower char = true ↔ char = upper ∨ char = lower := by
  simp [letter]

/-- Digits end where no word goes on. -/
theorem takeWhile_digits (wordly : texts.Wordly) {digits : List Char}
    (all : ∀ char ∈ digits, texts.isDigit char = true)
    (ends : left.head?.any texts.isWord = false) :
    (digits ++ left).takeWhile texts.isDigit = digits ∧
      (digits ++ left).dropWhile texts.isDigit = left := by
  have stop : left.takeWhile texts.isDigit = [] ∧ left.dropWhile texts.isDigit = left := by
    cases left with
    | nil => exact ⟨rfl, rfl⟩
    | cons next more =>
        have other : texts.isDigit next = false := by
          apply Bool.eq_false_iff.mpr
          intro digit
          have word := wordly.digit_word next digit
          rw [List.head?_cons, Option.any_some, word] at ends
          cases ends
        exact ⟨List.takeWhile_cons_of_neg (by simp [other]),
          List.dropWhile_cons_of_neg (by simp [other])⟩
  rw [List.takeWhile_append_of_pos all, List.dropWhile_append_of_pos all, stop.1, stop.2,
    List.append_nil]
  exact ⟨rfl, rfl⟩

theorem citationEnd_some (wordly : texts.Wordly) :
    citationEnd texts taken least rest = some (found, left) ↔ ∃ digits, found = taken ++ digits ∧
      digits ++ left = rest ∧ (∀ char ∈ digits, texts.isDigit char = true) ∧
      least ≤ digits.length ∧ left.head?.any texts.isWord = false := by
  constructor
  · intro ended
    rw [citationEnd] at ended
    split at ended
    next accepted =>
      cases ended
      refine ⟨_, rfl, List.takeWhile_append_dropWhile, ?_, accepted.1, ?_⟩
      · intro char member
        exact List.mem_takeWhile_imp member
      · simpa using accepted.2
    next => cases ended
  · rintro ⟨digits, rfl, rfl, all, enough, ends⟩
    obtain ⟨run, left'⟩ := takeWhile_digits wordly all ends
    rw [citationEnd, run, left', if_pos]
    exact ⟨enough, by simp [ends]⟩

theorem citationMatcher_some (wordly : texts.Wordly) :
    citationMatcher texts before text = some (taken, left) ↔
      taken ++ left = text ∧ IsCitation texts before taken left.head? := by
  constructor
  · intro found
    unfold citationMatcher at found
    split at found
    next => cases found
    next plain =>
      rw [Bool.not_eq_true] at plain
      split at found
      next c second e rest =>
        split at found
        next => cases found
        next ends =>
          simp only [Bool.not_eq_true', Bool.and_eq_false_iff, not_or, Bool.not_eq_false] at ends
          split at found
          next v =>
            split at found
            next y₁ y₂ y₃ y₄ number =>
              split at found
              next years =>
                obtain ⟨digits, rfl, rfl, all, enough, after⟩ :=
                  (citationEnd_some wordly).mp found
                refine ⟨rfl, plain, ?_, after⟩
                exact @Spelled.cve _ _ _ _ [y₁, y₂, y₃, y₄] _ ends.1 v ends.2 rfl
                  (List.all_eq_true.mp years) enough all
              next => cases found
            next => cases found
          next =>
            split at found
            next w =>
              obtain ⟨digits, rfl, rfl, all, enough, after⟩ :=
                (citationEnd_some wordly).mp found
              exact ⟨rfl, plain, .cwe ends.1 w ends.2 enough all, after⟩
            next => cases found
      next => cases found
  · rintro ⟨rfl, plain, spelled, after⟩
    cases spelled with
    | @cve c v e year number initial second third four years enough numbers =>
        obtain ⟨y₁, y₂, y₃, y₄, rfl⟩ := List.length_eq_four.mp four
        have all : [y₁, y₂, y₃, y₄].all texts.isDigit = true := List.all_eq_true.mpr years
        have ended : citationEnd texts [c, v, e, '-', y₁, y₂, y₃, y₄, '-'] 4 (number ++ left) =
            some (c :: v :: e :: '-' :: ([y₁, y₂, y₃, y₄] ++ '-' :: number), left) :=
          (citationEnd_some wordly).mpr ⟨number, rfl, rfl, numbers, enough, after⟩
        simp only [citationMatcher, plain, List.cons_append, List.nil_append, initial, second, third,
          all, if_true, Bool.and_self, Bool.not_true, Bool.false_eq_true, if_false]
        exact ended
    | @cwe c w e number initial second third enough numbers =>
        have other : letter 'V' 'v' w = false := by
          rcases letter_iff.mp second with rfl | rfl <;> decide
        have ended : citationEnd texts [c, w, e, '-'] 1 (number ++ left) =
            some (c :: w :: e :: '-' :: number, left) :=
          (citationEnd_some wordly).mpr ⟨number, rfl, rfl, numbers, enough, after⟩
        simp only [citationMatcher, plain, List.cons_append, initial, second, third, other, if_true,
          Bool.and_self, Bool.not_true, Bool.false_eq_true, if_false]
        exact ended

/-! Where no match starts. -/

theorem Spelled.initial {identifier : List Char} (spelled : Spelled isDigit identifier) :
    ∃ c second more, identifier = c :: second :: more ∧ letter 'C' 'c' c = true ∧
      (letter 'V' 'v' second = true ∨ letter 'W' 'w' second = true) := by
  cases spelled with
  | cve initial second => exact ⟨_, _, _, rfl, initial, .inl second⟩
  | cwe initial second => exact ⟨_, _, _, rfl, initial, .inr second⟩

/-- The characters after the first are no `C`. -/
theorem Spelled.inner {identifier more : List Char} (spelled : Spelled isDigit identifier)
    (plain : ∀ char ∈ ['C', 'c'], isDigit char = false) (shape : identifier = first :: more) :
    ∀ char ∈ more, letter 'C' 'c' char = false := by
  have digits {number : List Char} (all : ∀ char ∈ number, isDigit char = true) :
      ∀ char ∈ number, letter 'C' 'c' char = false := by
    intro char member
    apply Bool.eq_false_iff.mpr
    intro same
    have digit := all char member
    rcases letter_iff.mp same with rfl | rfl
    · rw [plain 'C' (by decide)] at digit
      cases digit
    · rw [plain 'c' (by decide)] at digit
      cases digit
  have other {upper lower char : Char} (same : letter upper lower char = true)
      (apart : letter 'C' 'c' upper = false ∧ letter 'C' 'c' lower = false) :
      letter 'C' 'c' char = false := by
    rcases letter_iff.mp same with rfl | rfl
    · exact apart.1
    · exact apart.2
  cases spelled with
  | cve initial second third four years enough numbers =>
      obtain ⟨rfl, rfl⟩ := List.cons.inj shape
      intro char member
      simp only [List.mem_cons, List.mem_append] at member
      rcases member with rfl | rfl | rfl | member | rfl | member
      · exact other second (by decide)
      · exact other third (by decide)
      · decide
      · exact digits years char member
      · decide
      · exact digits numbers char member
  | cwe initial second third enough numbers =>
      obtain ⟨rfl, rfl⟩ := List.cons.inj shape
      intro char member
      simp only [List.mem_cons] at member
      rcases member with rfl | rfl | rfl | member
      · exact other second (by decide)
      · exact other third (by decide)
      · decide
      · exact digits numbers char member

theorem Spelled.chars {identifier : List Char} (spelled : Spelled isDigit identifier) :
    ∀ char ∈ identifier, char ∈ "CcVvEeWw-".toList ∨ isDigit char = true := by
  have small {upper lower char : Char} (same : letter upper lower char = true)
      (listed : upper ∈ "CcVvEeWw-".toList ∧ lower ∈ "CcVvEeWw-".toList) :
      char ∈ "CcVvEeWw-".toList := by
    rcases letter_iff.mp same with rfl | rfl
    · exact listed.1
    · exact listed.2
  cases spelled with
  | cve initial second third four years enough numbers =>
      intro char member
      simp only [List.mem_cons, List.mem_append] at member
      rcases member with rfl | rfl | rfl | rfl | member | rfl | member
      · exact .inl (small initial (by decide))
      · exact .inl (small second (by decide))
      · exact .inl (small third (by decide))
      · exact .inl (by decide)
      · exact .inr (years char member)
      · exact .inl (by decide)
      · exact .inr (numbers char member)
  | cwe initial second third enough numbers =>
      intro char member
      simp only [List.mem_cons] at member
      rcases member with rfl | rfl | rfl | rfl | member
      · exact .inl (small initial (by decide))
      · exact .inl (small second (by decide))
      · exact .inl (small third (by decide))
      · exact .inl (by decide)
      · exact .inr (numbers char member)

/-- The last character is a digit. -/
theorem Spelled.last {identifier : List Char} (spelled : Spelled isDigit identifier) :
    ∃ char, identifier.getLast? = some char ∧ isDigit char = true := by
  have final {front number : List Char} (some' : 1 ≤ number.length)
      (all : ∀ char ∈ number, isDigit char = true) :
      ∃ char, (front ++ number).getLast? = some char ∧ isDigit char = true := by
    have nonempty : number ≠ [] := List.ne_nil_of_length_pos some'
    have last := List.getLast?_eq_some_getLast nonempty
    refine ⟨number.getLast nonempty, ?_, all _ (List.getLast_mem nonempty)⟩
    rw [List.getLast?_append, last, Option.some_or]
  cases spelled with
  | @cve c v e year number initial second third four years enough numbers =>
      have found := @final (c :: v :: e :: '-' :: (year ++ ['-'])) number (by omega) numbers
      rw [List.cons_append, List.cons_append, List.cons_append, List.cons_append,
        List.append_assoc] at found
      exact found
  | @cwe c w e number initial second third enough numbers =>
      exact @final [c, w, e, '-'] number enough numbers

theorem citationMatcher_takes (wordly : texts.Wordly) : Python.Takes (citationMatcher texts) := by
  constructor
  · intro before text taken left found
    exact ((citationMatcher_some wordly).mp found).1
  · intro before text left found
    obtain ⟨_, _, _, shape, _⟩ := ((citationMatcher_some wordly).mp found).2.spelled.initial
    cases shape

theorem initial_word (wordly : texts.Wordly) (initial : letter 'C' 'c' first = true) :
    texts.isWord first = true := by
  apply wordly.alphanum_word
  rcases letter_iff.mp initial with rfl | rfl <;> decide

theorem matcher_none (wordly : texts.Wordly) (other : letter 'C' 'c' first = false) :
    citationMatcher texts before (first :: rest) = none := by
  cases found : citationMatcher texts before (first :: rest) with
  | none => rfl
  | some match' =>
      obtain ⟨split, citation⟩ := (citationMatcher_some wordly).mp found
      obtain ⟨c, second, more, shape, initial, _⟩ := citation.spelled.initial
      rw [shape] at split
      obtain ⟨rfl, _⟩ := List.cons.inj split
      rw [other] at initial
      cases initial

theorem matcher_none_second (wordly : texts.Wordly) {second : Char}
    (other : letter 'V' 'v' second = false ∧ letter 'W' 'w' second = false) :
    citationMatcher texts before (first :: second :: rest) = none := by
  cases found : citationMatcher texts before (first :: second :: rest) with
  | none => rfl
  | some match' =>
      obtain ⟨split, citation⟩ := (citationMatcher_some wordly).mp found
      obtain ⟨c, second', more, shape, _, next⟩ := citation.spelled.initial
      rw [shape] at split
      obtain ⟨_, split⟩ := List.cons.inj split
      obtain ⟨rfl, _⟩ := List.cons.inj split
      rw [other.1, other.2] at next
      simp at next

/-- No match starts inside another. -/
theorem citationMatcher_isolated (wordly : texts.Wordly) (before : Option Char)
    (head tail left : List Char) (some' : head ≠ []) (more : tail ≠ [])
    (found : citationMatcher texts before (head ++ tail ++ left) = some (head ++ tail, left)) :
    citationMatcher texts head.getLast? (tail ++ left) = none := by
  obtain ⟨_, citation⟩ := (citationMatcher_some wordly).mp found
  obtain ⟨first, others, rfl⟩ := List.exists_cons_of_ne_nil some'
  obtain ⟨next, rest, rfl⟩ := List.exists_cons_of_ne_nil more
  apply matcher_none wordly
  apply citation.spelled.inner wordly.letters rfl
  exact List.mem_append_right _ List.mem_cons_self

end

/-! What is put in a place of a match. -/

/-- The text that replaces a match. -/
def unverified : List Char := "[unverified reference removed]".toList

section

variable (texts : Texts) (finding : EnrichmentInput)

/-- The finding has the identifier, up to case. -/
def Supported (identifier : List Char) : Prop :=
  texts.upper (String.ofList identifier) ∈ allowedCitations texts finding

instance (identifier : List Char) : Decidable (Supported texts finding identifier) :=
  inferInstanceAs (Decidable (_ ∈ _))

/-- The pieces that replace a piece. -/
def redact : Piece → List Piece
  | .inl char => [.inl char]
  | .inr taken => if Supported texts finding taken then [.inr taken] else unverified.map .inl

end

section

variable {texts : Texts} {finding : EnrichmentInput} {before before' : Option Char}
  {taken word : List Char} {prev : Char} {given others : List Piece}

/-- In a text where no citation starts inside, whatever follows. -/
def uncited : List Char → Bool
  | [] => true
  | [char] => !letter 'C' 'c' char
  | char :: next :: rest =>
      (!letter 'C' 'c' char || !(letter 'V' 'v' next || letter 'W' 'w' next)) &&
        uncited (next :: rest)

theorem uncited_cut (wordly : texts.Wordly) (plain : uncited word = true)
    (cut : Cut (citationMatcher texts) (word.getLast?.or before) others) :
    Cut (citationMatcher texts) before (word.map .inl ++ others) := by
  induction word generalizing before with
  | nil => exact cut
  | cons char rest ih =>
      rw [Pattern.getLast?_cons_or] at cut
      cases rest with
      | nil =>
          rw [uncited, Bool.not_eq_true'] at plain
          exact ⟨matcher_none wordly plain, cut⟩
      | cons next rest =>
          rw [uncited, Bool.and_eq_true, Bool.or_eq_true, Bool.not_eq_true',
            Bool.not_eq_true', Bool.or_eq_false_iff] at plain
          refine ⟨?_, ih plain.2 cut⟩
          rcases plain.1 with other | other
          · exact matcher_none wordly other
          · exact matcher_none_second wordly other

/-- The text after a piece stays as it is up to the first match that is replaced, and no word ends
there. -/
theorem diverge (wordly : texts.Wordly) (cut : Cut (citationMatcher texts) (some prev) given) :
    (given.flatMap (redact texts finding)).flatMap spell = given.flatMap spell ∨
      ∃ common initial more more', given.flatMap spell = common ++ initial :: more ∧
        (given.flatMap (redact texts finding)).flatMap spell = common ++ '[' :: more' ∧
        letter 'C' 'c' initial = true ∧
        (common.getLast?.or (some prev)).any texts.isWord = false := by
  induction given generalizing prev with
  | nil => exact .inl rfl
  | cons piece others ih =>
      have after {head : List Char} {last : Char} (final : head.getLast? = some last)
          (same : spell piece = head) (kept : redact texts finding piece = [piece])
          (cut : Cut (citationMatcher texts) (some last) others) :
          ((piece :: others).flatMap (redact texts finding)).flatMap spell =
              (piece :: others).flatMap spell ∨
            ∃ common initial more more',
              (piece :: others).flatMap spell = common ++ initial :: more ∧
              ((piece :: others).flatMap (redact texts finding)).flatMap spell =
                common ++ '[' :: more' ∧
              letter 'C' 'c' initial = true ∧
              (common.getLast?.or (some prev)).any texts.isWord = false := by
        rw [List.flatMap_cons, List.flatMap_cons, kept, List.singleton_append, List.flatMap_cons,
          same]
        rcases ih cut with equal | ⟨common, initial, more, more', shape, shape', starts, plain⟩
        · left
          rw [equal]
        · right
          refine ⟨head ++ common, initial, more, more', by rw [shape, List.append_assoc],
            by rw [shape', List.append_assoc], starts, ?_⟩
          rw [List.getLast?_append, final, Option.or_assoc]
          exact plain
      cases piece with
      | inl char => exact @after [char] char rfl rfl rfl cut.2
      | inr taken =>
          have citation := ((citationMatcher_some wordly).mp cut.1).2
          by_cases supported : Supported texts finding taken
          · obtain ⟨last, final, _⟩ := citation.spelled.last
            have cut' := cut.2
            rw [final] at cut'
            exact after final rfl (if_pos supported) cut'
          · right
            obtain ⟨c, _, _, rfl, initial, _⟩ := citation.spelled.initial
            refine ⟨[], c, _, unverified.tail ++ (others.flatMap (redact texts finding)).flatMap spell,
              rfl, ?_, initial, citation.before⟩
            rw [List.flatMap_cons, redact, if_neg supported, List.flatMap_append,
              Python.spell_plain]
            rfl

/-- An identifier ends before the end of a text that no word ends, if it goes no further there. -/
theorem Spelled.within (wordly : texts.Wordly) {identifier common more left : List Char}
    {stop : Char} (spelled : Spelled texts.isDigit identifier)
    (stops : letter 'C' 'c' stop = true ∨ stop = '[')
    (plain : (common.getLast?.or (some prev)).any texts.isWord = false)
    (shape : prev :: (common ++ stop :: more) = identifier ++ left) :
    ∃ next middle, prev :: common = identifier ++ next :: middle ∧
      left = next :: (middle ++ stop :: more) := by
  obtain ⟨c, second, rest, rfl, _⟩ := spelled.initial
  obtain ⟨rfl, tails⟩ := List.cons.inj shape
  have ends : common ≠ second :: rest := by
    rintro rfl
    obtain ⟨last, final, digit⟩ := spelled.last
    have word := wordly.digit_word last digit
    rw [← @Pattern.getLast?_cons_or none, final, Option.some_or, Option.any_some, word] at plain
    cases plain
  rcases List.append_eq_append_iff.mp tails with ⟨middle, shape', further⟩ | ⟨middle, rfl, rfl⟩
  · cases middle with
    | nil =>
        rw [List.append_nil] at shape'
        exact absurd shape'.symm ends
    | cons first middle =>
        obtain ⟨rfl, _⟩ := List.cons.inj further
        have member : stop ∈ second :: rest := by
          rw [shape']
          exact List.mem_append_right _ List.mem_cons_self
        rcases stops with initial | rfl
        · rw [spelled.inner wordly.letters rfl stop member] at initial
          cases initial
        · rcases spelled.chars '[' (List.mem_cons_of_mem _ member) with listed | digit
          · exact absurd listed (by decide)
          · have word := wordly.digit_word '[' digit
            rw [wordly.brackets '[' (by decide)] at word
            cases word
  · cases middle with
    | nil => exact absurd (List.append_nil _) ends
    | cons next middle => exact ⟨next, middle, rfl, rfl⟩

/-- Where no citation starts, none starts after what follows is replaced. -/
theorem unmatched {left : List Char} (wordly : texts.Wordly)
    (cut : Cut (citationMatcher texts) (some prev) given)
    (none' : citationMatcher texts before (prev :: given.flatMap spell) = none) :
    citationMatcher texts before
      (prev :: (given.flatMap (redact texts finding)).flatMap spell) ≠ some (taken, left) := by
  intro found
  rcases diverge wordly cut with equal | ⟨common, initial, more, more', shape, shape', _, plain⟩
  · rw [equal, none'] at found
    cases found
  · obtain ⟨split, citation⟩ := (citationMatcher_some wordly).mp found
    rw [shape'] at split
    obtain ⟨next, middle, within, rfl⟩ :=
      citation.spelled.within wordly (.inr rfl) plain split.symm
    have found' : citationMatcher texts before (prev :: given.flatMap spell) =
        some (taken, next :: (middle ++ initial :: more)) := by
      apply (citationMatcher_some wordly).mpr
      refine ⟨?_, citation.before, citation.spelled, citation.after⟩
      have whole := congrArg (· ++ initial :: more) within
      rw [shape]
      simpa only [List.append_assoc, List.cons_append] using whole.symm
    rw [none'] at found'
    cases found'

/-- What follows a citation begins as before, or with the bracket of a replacement. -/
theorem head_redact (wordly : texts.Wordly)
    (cut : Cut (citationMatcher texts) (some prev) given)
    (plain : (given.flatMap spell).head?.any texts.isWord = false) :
    ((given.flatMap (redact texts finding)).flatMap spell).head?.any texts.isWord = false := by
  rcases diverge wordly cut with equal | ⟨common, _, more, more', shape, shape', _⟩
  · rw [equal]
    exact plain
  · rw [shape'] at *
    rw [shape] at plain
    cases common with
    | nil => exact wordly.brackets '[' (by decide)
    | cons char rest => exact plain

/-- A text is cut at the same places after a replacement. -/
theorem cut_redact (wordly : texts.Wordly) (cut : Cut (citationMatcher texts) before given)
    (sides : before' = before ∨ (given.flatMap spell).head?.any texts.isWord = false) :
    Cut (citationMatcher texts) before' (given.flatMap (redact texts finding)) := by
  induction given generalizing before before' with
  | nil => trivial
  | cons piece others ih =>
      cases piece with
      | inl char =>
          obtain ⟨none', cut⟩ := cut
          refine ⟨?_, ih cut (.inl rfl)⟩
          rcases sides with rfl | plain
          · cases found : citationMatcher texts before'
                (char :: (others.flatMap (redact texts finding)).flatMap spell) with
            | none => exact found
            | some match' =>
                obtain ⟨taken, left⟩ := match'
                exact absurd found (unmatched wordly cut none')
          · apply matcher_none wordly
            apply Bool.eq_false_iff.mpr
            intro initial
            have word := initial_word wordly initial
            rw [List.flatMap_cons, spell, List.singleton_append, List.head?_cons, Option.any_some,
              word] at plain
            cases plain
      | inr taken =>
          obtain ⟨split, citation⟩ := (citationMatcher_some wordly).mp cut.1
          obtain ⟨last, final, _⟩ := citation.spelled.last
          have cut' := cut.2
          rw [List.flatMap_cons, redact]
          by_cases supported : Supported texts finding taken
          · rw [if_pos supported]
            refine ⟨(citationMatcher_some wordly).mpr ⟨rfl, ?_, citation.spelled, ?_⟩,
              ih cut' (.inl rfl)⟩
            · rcases sides with rfl | plain
              · exact citation.before
              · obtain ⟨c, _, _, rfl, initial, _⟩ := citation.spelled.initial
                have word := initial_word wordly initial
                change Option.any texts.isWord (some c) = false at plain
                rw [Option.any_some, word] at plain
                cases plain
            · rw [final] at cut'
              exact head_redact wordly cut' citation.after
          · rw [if_neg supported]
            apply uncited_cut wordly (by decide)
            exact ih cut' (.inr citation.after)

/-- The citations among the pieces that are replaced, in upper case. -/
def refused (texts : Texts) (finding : EnrichmentInput) (given : List Piece) : List String :=
  given.filterMap fun piece =>
    match piece with
    | .inl _ => none
    | .inr taken =>
        if Supported texts finding taken then none else some (texts.upper (String.ofList taken))

theorem checkCitations_eq (wordly : texts.Wordly) {text : String}
    (cut : Cut (citationMatcher texts) none given) (whole : given.flatMap spell = text.toList) :
    checkCitations texts text finding =
      ⟨String.ofList ((given.flatMap (redact texts finding)).flatMap spell),
        (refused texts finding given).eraseDups⟩ := by
  have found : Python.pieces (citationMatcher texts) text.length none text.toList = given := by
    rw [← whole]
    apply cut.pieces_eq (citationMatcher_takes wordly)
    rw [whole, String.length_toList]
  have unverified_iff (taken : List Char) :
      (!(allowedCitations texts finding).contains (texts.upper (String.ofList taken))) = true ↔
        ¬Supported texts finding taken := by
    rw [Bool.not_eq_true', ← Bool.not_eq_true, List.contains_iff_mem]
    rfl
  rw [checkCitations, found]
  congr 1
  · rw [List.flatMap_assoc]
    congr 2
    funext piece
    cases piece with
    | inl char => rfl
    | inr taken =>
        simp only [unverified_iff, redact]
        by_cases supported : Supported texts finding taken
        · rw [if_neg (not_not.mpr supported), if_pos supported]
          exact (List.append_nil taken).symm
        · rw [if_pos supported, if_neg supported, Python.spell_plain]
          rfl
  · rw [refused]
    congr 2
    funext piece
    cases piece with
    | inl char => rfl
    | inr taken => simp only [unverified_iff, ite_not]

theorem redact_supported (given : List Piece)
    (supported : ∀ taken, .inr taken ∈ given → Supported texts finding taken) :
    given.flatMap (redact texts finding) = given ∧ refused texts finding given = [] := by
  induction given with
  | nil => exact ⟨rfl, rfl⟩
  | cons piece others ih =>
      obtain ⟨kept, nothing⟩ := ih fun taken member => supported taken (List.mem_cons_of_mem _ member)
      rw [List.flatMap_cons, kept]
      cases piece with
      | inl char => exact ⟨rfl, nothing⟩
      | inr taken =>
          have here := supported taken List.mem_cons_self
          refine ⟨by rw [redact, if_pos here, List.singleton_append], ?_⟩
          rw [refused, List.filterMap_cons]
          simp only [here, if_true]
          exact nothing

theorem supported_of_mem_redact {identifier : List Char}
    (member : .inr identifier ∈ given.flatMap (redact texts finding)) :
    Supported texts finding identifier := by
  obtain ⟨piece, _, member⟩ := List.mem_flatMap.mp member
  cases piece with
  | inl char => simp [redact] at member
  | inr taken =>
      rw [redact] at member
      by_cases supported : Supported texts finding taken
      · rw [if_pos supported] at member
        cases List.mem_singleton.mp member
        exact supported
      · rw [if_neg supported] at member
        obtain ⟨_, _, other⟩ := List.mem_map.mp member
        cases other

/-- The result is the text with the citations that the finding does not have replaced, each of them
is named once, and a result stays as it is. -/
theorem checkCitations_exact (wordly : texts.Wordly) (text : String) (finding : EnrichmentInput) :
    ∃ found : List Piece, found.flatMap spell = text.toList ∧
      (∀ front identifier back, text.toList = front ++ (identifier ++ back) →
        (IsCitation texts front.getLast? identifier back.head? ↔
          ∃ earlier later, found = earlier ++ .inr identifier :: later ∧
            earlier.flatMap spell = front ∧ later.flatMap spell = back)) ∧
      checkCitations texts text finding =
        ⟨String.ofList ((found.flatMap (redact texts finding)).flatMap spell),
          (refused texts finding found).eraseDups⟩ ∧
      ((∀ front identifier back, text.toList = front ++ (identifier ++ back) →
          IsCitation texts front.getLast? identifier back.head? →
          Supported texts finding identifier) →
        checkCitations texts text finding = ⟨text, []⟩) ∧
      checkCitations texts (checkCitations texts text finding).text finding =
        ⟨(checkCitations texts text finding).text, []⟩ := by
  have takes := citationMatcher_takes wordly
  obtain ⟨found, whole, cut⟩ : ∃ found : List Piece, found.flatMap spell = text.toList ∧
      Cut (citationMatcher texts) none found :=
    ⟨_, Python.pieces_cut takes (le_refl text.toList.length)⟩
  have places : ∀ front identifier back, text.toList = front ++ (identifier ++ back) →
      (IsCitation texts front.getLast? identifier back.head? ↔
        ∃ earlier later, found = earlier ++ .inr identifier :: later ∧
          earlier.flatMap spell = front ∧ later.flatMap spell = back) := by
    intro front identifier back shape
    have matched := cut.matches_iff takes (citationMatcher_isolated wordly) (whole.trans shape)
    rw [Option.or_none] at matched
    rw [← matched, citationMatcher_some wordly]
    exact (and_iff_right rfl).symm
  have result := @checkCitations_eq _ finding _ wordly _ cut whole
  refine ⟨found, whole, places, result, ?_, ?_⟩
  · intro supported
    have each : ∀ taken, .inr taken ∈ found → Supported texts finding taken := by
      intro taken member
      obtain ⟨earlier, later, rfl⟩ := List.append_of_mem member
      rw [List.flatMap_append, List.flatMap_cons] at whole
      have place := (places _ _ _ whole.symm).mpr ⟨earlier, later, rfl, rfl, rfl⟩
      exact supported _ _ _ whole.symm place
    obtain ⟨kept, nothing⟩ := redact_supported found each
    rw [result, kept, nothing, whole, String.ofList_toList]
    rfl
  · obtain ⟨kept, nothing⟩ := redact_supported (found.flatMap (redact texts finding))
      fun _ => supported_of_mem_redact
    have again := @checkCitations_eq _ finding _ wordly
      (String.ofList ((found.flatMap (redact texts finding)).flatMap spell))
      (cut_redact wordly cut (.inl rfl)) (String.toList_ofList).symm
    rw [kept, nothing] at again
    rw [result]
    exact again

end

theorem plainTexts_wordly : plainTexts.Wordly := by
  constructor
  · intro char digit
    exact digit
  · intro char digit
    have word : char.isAlphanum = true := by
      rw [Char.isAlphanum, Bool.or_eq_true]
      exact .inr digit
    change (char.isAlphanum || char == '_') = true
    rw [word, Bool.true_or]
  · intro char word
    change (char.isAlphanum || char == '_') = true
    rw [word, Bool.true_or]
  · exact Python.each_of_all (by decide)
  · exact Python.each_of_all (by decide)

/-- The finding of a server that is out of date. -/
def oldFinding : EnrichmentInput := .fromVulnerability oldServer

theorem checkCitations_exact_fixed :
    checkCitations plainTexts "Fix CWE-79." oldFinding =
        ⟨"Fix [unverified reference removed].", ["CWE-79"]⟩ ∧
      checkCitations plainTexts (checkCitations plainTexts "Fix CWE-79." oldFinding).text
        oldFinding = ⟨"Fix [unverified reference removed].", []⟩ := by
  have result : checkCitations plainTexts "Fix CWE-79." oldFinding =
      ⟨"Fix [unverified reference removed].", ["CWE-79"]⟩ := by decide +kernel
  obtain ⟨_, _, _, _, _, again⟩ := checkCitations_exact plainTexts_wordly "Fix CWE-79." oldFinding
  refine ⟨result, ?_⟩
  rw [again, result]

end Enrichment
