import Soc360.Nmap.Mentions

set_option autoImplicit false

namespace Nmap

open Pattern (Misses boundary chars getLast?_append_or getLast?_cons_or group mem_boundary mem_chars
  mem_seq mem_star_chars mem_word opt plus seq star times word)

section

variable {unicode : Unicode} {before : Option Char} {text rest : List Char} {char : Char}

/-! The places where no match starts. -/

/-- A pattern whose matches start with the word `CVSS`. -/
def Worded (unicode : Unicode) (pattern : Pattern) : Prop :=
  ∃ body, pattern = seq (boundary unicode.isWord) (seq (wordOf "CVSS") body)

theorem cvss_upper : ∀ letter ∈ "CVSS".toList, Python.isUpper letter = true :=
  List.all_eq_true.mp (by decide)

theorem Spells.cvss_nonempty {found : List Char} (spelled : Spells "CVSS" found) : found ≠ [] :=
  spelled.nonempty (by decide)

theorem Worded.start {pattern : Pattern} (worded : Worded unicode pattern) {run : Found}
    (member : run ∈ pattern.runs before text) :
    before.any unicode.isWord = false ∧ ∃ found back, text = found ++ back ∧ Spells "CVSS" found := by
  obtain ⟨body, rfl⟩ := worded
  rw [Pattern.mem_boundary_seq] at member
  obtain ⟨apart, member⟩ := member
  obtain ⟨name, member', _⟩ := mem_seq.mp member
  obtain ⟨_, shape, spelled⟩ := mem_wordOf.mp member'
  refine ⟨?_, name.taken, name.left, shape, spelled⟩
  rw [shape, any_head? (spelled.isWord unicode cvss_upper) spelled.cvss_nonempty] at apart
  exact Bool.eq_false_iff.mpr apart

/-- No match starts in a quiet text that ends before the next word. -/
theorem Quiet.misses {pattern : Pattern} (worded : Worded unicode pattern)
    (quiet : Quiet unicode before text)
    (ended : rest = [] ∨ (text.getLast?.or before).any unicode.isWord = false) :
    Misses pattern before text rest := by
  intro front char back shape
  apply List.eq_nil_iff_forall_not_mem.mpr
  intro run member
  obtain ⟨starts, found, more, shape', spelled⟩ := worded.start member
  have whole : char :: back ++ rest = found ++ more := shape'
  rcases List.append_eq_append_iff.mp whole with ⟨cut, inside, rest'⟩ | ⟨cut, inside, _⟩
  · have word : (text.getLast?.or before).any unicode.isWord = true := by
      rw [shape, getLast?_append_or]
      apply any_last _ (List.cons_ne_nil _ _)
      intro other member
      exact spelled.isWord unicode cvss_upper other (inside ▸ List.mem_append_left _ member)
    rcases ended with rfl | ended
    · have nothing := (List.append_eq_nil_iff.mp rest'.symm).1
      rw [nothing, List.append_nil] at inside
      have word' := quiet front found [] (by rw [shape, inside, List.append_nil]) spelled
      rw [starts] at word'
      cases word'
    · rw [word] at ended
      cases ended
  · have word' := quiet front found cut (by rw [shape, inside, List.append_assoc]) spelled
    rw [starts] at word'
    cases word'

/-- After its first letter a name is quiet. -/
theorem Quiet.name {name gap : List Char} (solid : ∀ other ∈ char :: name, unicode.isWord other = true)
    (quiet : Quiet unicode ((char :: name).getLast?.or before) gap) :
    Quiet unicode (some char) (name ++ gap) := by
  intro front found back shape spelled
  rw [List.append_assoc] at shape
  rcases List.append_eq_append_iff.mp shape with ⟨more, rfl, shape'⟩ | ⟨more, rfl, _⟩
  · rw [getLast?_append_or]
    rw [getLast?_cons_or] at quiet
    exact quiet more found back (by rw [shape', List.append_assoc]) spelled
  · cases front with
    | nil => exact solid char List.mem_cons_self
    | cons first front =>
        apply any_last _ (List.cons_ne_nil _ _)
        intro other member
        exact solid other (List.mem_cons_of_mem _ (List.mem_append_left _ member))

theorem worded_vector : Worded unicode (vectorPattern unicode) := ⟨_, rfl⟩

theorem worded_cvss : Worded unicode (cvssPattern unicode) := ⟨_, rfl⟩

theorem wordOf_first {letters : String} {name : List Char} (spelled : Spells letters name) :
    (wordOf letters).runs before (name ++ rest) = [⟨name, none, rest⟩] :=
  Pattern.runs_word (List.forall₂_map_left_iff.mpr spelled)

/-- The first match of a minor version takes it. -/
theorem minor_first {minor : Option Char}
    (minor' : ∀ digit ∈ minor, unicode.isDigit digit = true) :
    ((opt (seq (chars (· == '.')) (digit unicode))).runs before
        (minorText minor ++ '/' :: rest)).head? = some ⟨minorText minor, none, '/' :: rest⟩ := by
  cases minor with
  | none =>
      have whole : ¬StartsMinor unicode ('/' :: rest) := by
        rintro ⟨minor, others, shape, _⟩
        exact absurd (List.cons.inj shape).1 (by decide)
      exact congrArg List.head? (Pattern.runs_opt_nil (minor_runs_nil whole))
  | some minor => exact congrArg List.head? (minor_runs (minor' minor rfl))

theorem takeWhile_stop {accepts : Char → Bool} {metrics : List Char}
    (inside : ∀ char ∈ metrics, accepts char = true)
    (stop : ∀ char ∈ rest.head?, accepts char = false) :
    (metrics ++ rest).takeWhile accepts = metrics ∧ (metrics ++ rest).dropWhile accepts = rest := by
  rw [List.takeWhile_append_of_pos inside, List.dropWhile_append_of_pos inside]
  cases rest with
  | nil => simp
  | cons char rest =>
      have refused : ¬accepts char = true := by
        simp [stop char rfl]
      rw [List.takeWhile_cons_of_neg refused, List.dropWhile_cons_of_neg refused, List.append_nil]
      exact ⟨rfl, rfl⟩

/-- A vector string is matched as a whole. -/
theorem vector_first {name metrics : List Char} {major : Char} {minor : Option Char}
    (starts : before.any unicode.isWord = false) (spelled : Spells "CVSS" name)
    (major' : unicode.isDigit major = true)
    (minor' : ∀ digit ∈ minor, unicode.isDigit digit = true)
    (metrics' : ∀ char ∈ metrics, Python.isSpace char = false)
    (ended : ∀ char ∈ rest.head?, Python.isSpace char = true) :
    ((vectorPattern unicode).runs before
        (name ++ ':' :: major :: (minorText minor ++ '/' :: (metrics ++ rest)))).head? =
      some ⟨name ++ ':' :: major :: (minorText minor ++ '/' :: metrics), none, rest⟩ := by
  have apart : before.any unicode.isWord ≠
      (name ++ ':' :: major :: (minorText minor ++ '/' :: (metrics ++ rest))).head?.any
        unicode.isWord := by
    rw [starts, any_head? (spelled.isWord unicode cvss_upper) spelled.cvss_nonempty]
    exact Bool.false_ne_true
  obtain ⟨taken, left⟩ := @takeWhile_stop rest (fun char => !Python.isSpace char) metrics
    (by simpa using metrics') (by simpa using ended)
  rw [vectorPattern, Pattern.runs_seq_nothing (Pattern.runs_boundary apart)]
  have word' := congrArg List.head? (@wordOf_first before
    (':' :: major :: (minorText minor ++ '/' :: (metrics ++ rest))) "CVSS" name spelled)
  have ends : ∀ before', ((seq (chars (· == '/')) (star (chars fun char =>
      !Python.isSpace char))).runs before' ('/' :: (metrics ++ rest))).head? =
        some (Found.append ⟨['/'], none, metrics ++ rest⟩ ⟨metrics, none, rest⟩) := by
    intro before'
    apply Pattern.head?_seq_char rfl
    rw [Pattern.head?_star_chars, taken, left]
  refine Eq.trans (Pattern.head?_seq word' (Pattern.head?_seq_char rfl
    (Pattern.head?_seq_char major' (Pattern.head?_seq (minor_first minor') (ends _))))) ?_
  simp [Found.append]

theorem mem_minor {found : Found}
    (member : found ∈ (opt (seq (chars (· == '.')) (digit unicode))).runs before text) :
    ∃ minor, text = minorText minor ++ found.left ∧
      ∀ char ∈ minor, unicode.isDigit char = true := by
  rcases List.mem_append.mp member with member | member
  · obtain ⟨point, member₁, digit', member₂, rfl⟩ := mem_seq.mp member
    obtain ⟨first, rest, first', rfl, rfl⟩ := mem_chars.mp member₁
    obtain ⟨minor, rest', minor', shape, rfl⟩ := mem_chars.mp member₂
    have shape : rest = minor :: rest' := shape
    refine ⟨some minor, by rw [shape, beq_iff_eq.mp first']; rfl, ?_⟩
    intro other same
    cases same
    exact minor'
  · rw [List.mem_singleton.mp member]
    exact ⟨none, rfl, by simp⟩

/-- What starts no vector string is matched by none. -/
theorem vector_runs_nil {name : List Char} (spelled : Spells "CVSS" name)
    (other : ¬StartsVector unicode rest) :
    (vectorPattern unicode).runs before (name ++ rest) = [] := by
  apply List.eq_nil_iff_forall_not_mem.mpr
  intro run member
  rw [vectorPattern, Pattern.mem_boundary_seq] at member
  have member := member.2
  rw [Pattern.runs_seq_single (wordOf_first spelled)] at member
  obtain ⟨back, member, _⟩ := List.mem_map.mp member
  obtain ⟨colon, member₁, back₁, later₁, _⟩ := mem_seq.mp member
  obtain ⟨major, member₂, back₂, later₂, _⟩ := mem_seq.mp later₁
  obtain ⟨minor, member₃, back₃, later₃, _⟩ := mem_seq.mp later₂
  obtain ⟨slash, member₄, _⟩ := mem_seq.mp later₃
  obtain ⟨first, rest₁, first', shape₁, rfl⟩ := mem_chars.mp member₁
  obtain ⟨second, rest₂, second', shape₂, rfl⟩ := mem_chars.mp member₂
  obtain ⟨third, shape₃, third'⟩ := mem_minor member₃
  obtain ⟨last, rest₄, last', shape₄, _⟩ := mem_chars.mp member₄
  have shape₁ : rest = first :: rest₁ := shape₁
  have shape₂ : rest₁ = second :: rest₂ := shape₂
  have shape₃ : rest₂ = minorText third ++ minor.left := shape₃
  refine other ⟨second, third, rest₄, ?_, second', third'⟩
  rw [shape₁, shape₂, shape₃, shape₄, beq_iff_eq.mp first', beq_iff_eq.mp last']

/-- A text that starts with a mention, or nothing. -/
def Named (text : List Char) : Prop :=
  text = [] ∨ ∃ name rest, text = name ++ rest ∧ Spells "CVSS" name

theorem initial_digit (first : caseless 'C' char = true) : unicode.isDigit char = false := by
  rcases caseless_iff.mp first with rfl | rfl | ⟨other, _⟩
  · exact ascii_digitless (by decide) (by decide)
  · exact ascii_digitless (by decide) (by decide)
  · exact absurd other (by decide)

/-- The start of a vector string has no initial of a mention in it. -/
theorem vector_chars {major : Char} {minor : Option Char} (major' : unicode.isDigit major = true)
    (minor' : ∀ digit ∈ minor, unicode.isDigit digit = true)
    (member : char ∈ ':' :: major :: (minorText minor ++ ['/'])) : ¬caseless 'C' char = true := by
  intro first
  have digitless := @initial_digit unicode char first
  rw [List.mem_cons, List.mem_cons, List.mem_append, List.mem_singleton] at member
  rcases member with rfl | rfl | member | rfl
  · exact absurd first (by decide)
  · rw [digitless] at major'
    cases major'
  · cases minor with
    | none => cases member
    | some minor =>
        rw [minorText, List.mem_cons, List.mem_singleton] at member
        rcases member with rfl | rfl
        · exact absurd first (by decide)
        · rw [minor' char rfl] at digitless
          cases digitless
  · exact absurd first (by decide)

/-- What follows a gap makes no vector string of it. -/
theorem Named.startsVector {gap following : List Char} (named : Named following)
    (other : ¬StartsVector unicode gap) : ¬StartsVector unicode (gap ++ following) := by
  rintro ⟨major, minor, rest, shape, major', minor'⟩
  have cut : gap ++ following = (':' :: major :: (minorText minor ++ ['/'])) ++ rest := by
    rw [shape]
    simp
  rcases List.append_eq_append_iff.mp cut with ⟨more, inside, outside⟩ | ⟨more, inside, _⟩
  · cases more with
    | nil => exact other ⟨major, minor, [], by simpa using inside.symm, major', minor'⟩
    | cons char more =>
        have first : caseless 'C' char = true := by
          rcases named with rfl | ⟨name, others, shape', spelled⟩
          · cases outside
          · cases name with
            | nil => exact absurd rfl spelled.cvss_nonempty
            | cons initial name =>
                rw [shape'] at outside
                obtain ⟨rfl, _⟩ := List.cons.inj outside
                exact (List.forall₂_cons.mp spelled).1
        have member : char ∈ ':' :: major :: (minorText minor ++ ['/']) := by
          rw [inside]
          exact List.mem_append_right _ List.mem_cons_self
        exact vector_chars major' minor' member first
  · exact other ⟨major, minor, more, by rw [inside]; simp, major', minor'⟩

/-! The whole of a text. -/

section

variable {passage : Passage} {passages more : List Passage}

theorem Conforms.named (conforms : Conforms unicode before passages) : Named (textOf passages) := by
  cases passages with
  | nil => exact .inl rfl
  | cons passage more =>
      obtain ⟨mention, after⟩ := passage
      obtain ⟨_, valid, _⟩ := conforms
      cases mention with
      | vector name major minor metrics =>
          refine .inr ⟨name, ':' :: major :: (minorText minor ++ '/' :: metrics) ++ after ++
            textOf more, ?_, valid.1⟩
          simp [textOf, Passage.head, Passage.gap]
      | scored name version filler score =>
          refine .inr ⟨name, Passage.gap ⟨.scored name version filler score, after⟩ ++
            textOf more, ?_, valid.1⟩
          simp [textOf, Passage.head]

/-- Two mentions do not touch. -/
theorem Conforms.apart (conforms : Conforms unicode before passages) :
    passages = [] ∨ before.any unicode.isWord = false := by
  cases passages with
  | nil => exact .inl rfl
  | cons passage more => exact .inr conforms.1

theorem space_mild (space : Python.isSpace char = true) :
    unicode.isDigit char = false ∧ char ≠ '.' ∧ caseless 'V' char = false := by
  have wordless := unicode.isWord_space char space
  refine ⟨?_, ?_, ?_⟩
  · apply Bool.eq_false_iff.mpr
    intro digit'
    rw [unicode.isWord_decimal char digit'] at wordless
    cases wordless
  · rintro rfl
    exact absurd space (by decide)
  · apply Bool.eq_false_iff.mpr
    intro letter'
    rw [caseless_isWord (by decide) letter'] at wordless
    cases wordless

theorem initial_mild (first : caseless 'C' char = true) :
    unicode.isDigit char = false ∧ char ≠ '.' ∧ caseless 'V' char = false := by
  refine ⟨initial_digit first, ?_, ?_⟩
  · rintro rfl
    exact absurd first (by decide)
  · apply Bool.eq_false_iff.mpr
    intro letter'
    exact absurd (caseless_unique (by decide) (by decide) first letter') (by decide)

/-- With the vector strings left out, passages start with a word or with white space. -/
theorem Conforms.mild (conforms : Conforms unicode before passages) :
    Mild unicode (bareText passages) := by
  cases passages with
  | nil =>
      intro char first
      cases first
  | cons passage more =>
      obtain ⟨mention, after⟩ := passage
      obtain ⟨_, valid, _, last, _⟩ := conforms
      cases mention with
      | vector name major minor metrics =>
          obtain ⟨_, _, _, _, ended⟩ := valid
          cases after with
          | nil =>
              rw [last rfl rfl]
              intro char first
              cases first
          | cons space after =>
              intro char first
              cases first
              exact space_mild (ended space rfl)
      | scored name version filler score =>
          obtain ⟨spelled, _⟩ := valid
          cases name with
          | nil => exact absurd rfl spelled.cvss_nonempty
          | cons initial name =>
              intro char first
              cases first
              exact initial_mild (List.forall₂_cons.mp spelled).1

/-- After its first letter no match starts in a mention that is no vector string. -/
theorem scored_misses {pattern : Pattern} {name gap : List Char}
    (worded : Worded unicode pattern) (spelled : Spells "CVSS" (char :: name))
    (quiet : Quiet unicode ((char :: name).getLast?.or before) gap)
    (ended : rest = [] ∨ ((char :: name ++ gap).getLast?.or before).any unicode.isWord = false) :
    Misses pattern (some char) (name ++ gap) rest := by
  apply Quiet.misses worded (quiet.name (spelled.isWord unicode cvss_upper))
  rcases ended with ended | ended
  · exact .inl ended
  · rw [List.cons_append, getLast?_cons_or] at ended
    exact .inr ended

/-- The deletion of the vector strings. -/
theorem delete_passages {fuel : Nat} (enough : (textOf passages).length ≤ fuel)
    (conforms : Conforms unicode before passages) :
    (vectorPattern unicode).delete fuel before (textOf passages) = bareText passages := by
  induction passages generalizing before fuel with
  | nil => cases fuel <;> rfl
  | cons passage more ih =>
      have named : Named (textOf more) := conforms.2.2.2.2.named
      have apart : textOf more = [] ∨
          ((passage.head ++ passage.gap).getLast?.or before).any unicode.isWord = false := by
        rcases conforms.2.2.2.2.apart with rfl | apart
        · exact .inl rfl
        · exact .inr apart
      obtain ⟨starts, valid, quiet, last, conforms⟩ := conforms
      have whole : textOf (passage :: more) =
          passage.head ++ passage.gap ++ textOf more := rfl
      have bare : bareText (passage :: more) = passage.bare ++ bareText more := rfl
      rw [whole, List.length_append] at enough
      rw [whole, bare]
      obtain ⟨mention, after⟩ := passage
      cases mention with
      | vector name major minor metrics =>
          obtain ⟨spelled, major', minor', metrics', ended⟩ := valid
          have ended' : ∀ char ∈ (after ++ textOf more).head?, Python.isSpace char = true := by
            cases after with
            | nil =>
                rw [last rfl rfl]
                intro char first
                cases first
            | cons space after =>
                intro char first
                cases first
                exact ended space rfl
          have found := vector_first starts spelled major' minor' metrics' ended'
          cases name with
          | nil => exact absurd rfl spelled.cvss_nonempty
          | cons initial name =>
              have length : fuel = (fuel - 1) + 1 := by
                simp only [Passage.head, List.length_append, List.length_cons] at enough
                omega
              have left : fuel - 1 = after.length + (fuel - 1 - after.length) := by
                simp only [Passage.head, Passage.gap, List.length_append, List.length_cons] at enough
                omega
              have misses : Misses (vectorPattern unicode)
                  ((Passage.head ⟨.vector (initial :: name) major minor metrics, after⟩).getLast?.or
                    before) after (textOf more) := by
                apply quiet.misses worded_vector
                rw [getLast?_append_or] at apart
                exact apart
              have text : Passage.head ⟨.vector (initial :: name) major minor metrics, after⟩ ++
                  Passage.gap ⟨.vector (initial :: name) major minor metrics, after⟩ ++ textOf more =
                    (initial :: name) ++ ':' :: major ::
                      (minorText minor ++ '/' :: (metrics ++ (after ++ textOf more))) := by
                simp [Passage.head, Passage.gap]
              rw [text, length]
              refine (Pattern.delete_cons_some found).trans ?_
              rw [left]
              refine (Pattern.delete_misses misses).trans ?_
              refine congrArg (after ++ ·) (ih ?_ ?_)
              · simp only [Passage.head, Passage.gap, List.length_append, List.length_cons] at enough
                omega
              · rw [getLast?_append_or] at conforms
                exact conforms
      | scored name version filler score =>
          obtain ⟨spelled, other, _⟩ := valid
          cases name with
          | nil => exact absurd rfl spelled.cvss_nonempty
          | cons initial name =>
              have misses : Misses (vectorPattern unicode) before
                  (initial :: (name ++ Passage.gap
                    ⟨.scored (initial :: name) version filler score, after⟩)) (textOf more) := by
                apply Misses.cons
                · have nothing := @vector_runs_nil unicode before _ _ spelled
                    (named.startsVector other)
                  rw [List.append_assoc]
                  exact nothing
                · exact scored_misses worded_vector spelled quiet apart
              have length : fuel = (initial :: (name ++ Passage.gap
                  ⟨.scored (initial :: name) version filler score, after⟩)).length +
                    (fuel - (initial :: (name ++ Passage.gap
                      ⟨.scored (initial :: name) version filler score, after⟩)).length) := by
                simp only [Passage.head, List.length_append, List.length_cons] at enough ⊢
                omega
              rw [length]
              refine (Pattern.delete_misses misses).trans ?_
              refine congrArg ((initial :: (name ++ Passage.gap
                ⟨.scored (initial :: name) version filler score, after⟩)) ++ ·) (ih ?_ conforms)
              simp only [Passage.head, List.length_append, List.length_cons] at enough ⊢
              omega

/-- The first match of the score, with the vector strings left out. -/
theorem mention_capture {name : List Char} (starts : before.any unicode.isWord = false)
    (spelled : Spells "CVSS" name) :
    capture ((cvssPattern unicode).runs before (name ++ rest)) =
      capture ((tailPattern unicode).runs (name.getLast?.or before) rest) := by
  have apart : before.any unicode.isWord ≠ (name ++ rest).head?.any unicode.isWord := by
    rw [starts, any_head? (spelled.isWord unicode cvss_upper) spelled.cvss_nonempty]
    exact Bool.false_ne_true
  have shape : cvssPattern unicode = seq (boundary unicode.isWord) (seq (wordOf "CVSS")
    (tailPattern unicode)) := rfl
  rw [shape, Pattern.runs_seq_nothing (Pattern.runs_boundary apart),
    Pattern.runs_seq_single (wordOf_first spelled), capture_map]
  · rfl
  · intro found member
    obtain ⟨front, _, back, member', rfl⟩ := mem_seq.mp member
    obtain ⟨captured, same⟩ := Option.isSome_iff_exists.mp (ahead_captures back member')
    simp [Found.append, same]

theorem cvss_captures : ∀ found ∈ (cvssPattern unicode).runs before text,
    found.captured.isSome = true := by
  intro found member
  obtain ⟨_, member⟩ := Pattern.mem_boundary_seq.mp member
  obtain ⟨name, _, later, member', rfl⟩ := mem_seq.mp member
  obtain ⟨version, _, back, member'', rfl⟩ := mem_seq.mp member'
  obtain ⟨captured, same⟩ := Option.isSome_iff_exists.mp (ahead_captures back member'')
  simp [Found.append, same]

theorem Quiet.tail (quiet : Quiet unicode before (char :: text)) :
    Quiet unicode (some char) text := by
  intro front found back shape spelled
  have later := quiet (char :: front) found back (by rw [shape]; rfl) spelled
  rw [getLast?_cons_or] at later
  exact later

/-- White space is quiet after any character. -/
theorem Quiet.space_misses {context : Option Char} (space : Python.isSpace char = true)
    (quiet : Quiet unicode before (char :: text))
    (ended : rest = [] ∨ (text.getLast?.or (some char)).any unicode.isWord = false) :
    Misses (cvssPattern unicode) context (char :: text) rest := by
  apply Misses.cons
  · apply List.eq_nil_iff_forall_not_mem.mpr
    intro run member
    obtain ⟨_, found, back, shape, spelled⟩ := worded_cvss.start member
    cases found with
    | nil => exact spelled.cvss_nonempty rfl
    | cons first found =>
        obtain ⟨rfl, _⟩ := List.cons.inj shape
        have word' := spelled.isWord unicode cvss_upper char List.mem_cons_self
        rw [unicode.isWord_space char space] at word'
        cases word'
  · exact quiet.tail.misses worded_cvss ended

/-- The search for the score finds the first number that a mention leads to. -/
theorem search_passages {context : Option Char} (conforms : Conforms unicode before passages)
    (starts : passages = [] ∨ context.any unicode.isWord = false) :
    ((cvssPattern unicode).search context (bareText passages)).bind Found.captured =
      firstNumber unicode passages := by
  induction passages generalizing before context with
  | nil =>
      have nothing : (cvssPattern unicode).runs context [] = [] := by
        apply List.eq_nil_iff_forall_not_mem.mpr
        intro run member
        obtain ⟨_, found, back, shape, spelled⟩ := worded_cvss.start member
        exact spelled.cvss_nonempty (List.append_eq_nil_iff.mp shape.symm).1
      change ((cvssPattern unicode).runs context []).head?.bind _ = none
      rw [nothing]
      rfl
  | cons passage more ih =>
      obtain ⟨_, valid, quiet, last, conforms⟩ := conforms
      have outside : context.any unicode.isWord = false := by
        rcases starts with nothing | outside
        · cases nothing
        · exact outside
      have apart : bareText more = [] ∨
          ((passage.head ++ passage.gap).getLast?.or before).any unicode.isWord = false := by
        rcases conforms.apart with rfl | apart
        · exact .inl rfl
        · exact .inr apart
      have bare : bareText (passage :: more) = passage.bare ++ bareText more := rfl
      have first : firstNumber unicode (passage :: more) =
          (passage.number? unicode (bareText more)).or (firstNumber unicode more) := rfl
      rw [bare, first]
      obtain ⟨mention, after⟩ := passage
      cases mention with
      | vector name major minor metrics =>
          obtain ⟨_, _, _, _, ended⟩ := valid
          change ((cvssPattern unicode).search context (after ++ bareText more)).bind _ =
            firstNumber unicode more
          cases after with
          | nil =>
              have nothing : more = [] := last rfl rfl
              subst nothing
              exact ih conforms (.inl rfl)
          | cons space after =>
              rw [getLast?_append_or, Passage.gap, getLast?_cons_or] at apart
              have misses : Misses (cvssPattern unicode) context (space :: after) (bareText more) :=
                quiet.space_misses (ended space rfl) apart
              rw [Pattern.search_misses misses, getLast?_cons_or]
              apply ih conforms
              have apart' := conforms.apart
              rw [getLast?_append_or, Passage.gap, getLast?_cons_or] at apart'
              exact apart'
      | scored name version filler score =>
          have number := @tail_number unicode (name.getLast?.or context)
            ⟨.scored name version filler score, after⟩ (bareText more) valid rfl conforms.mild
          obtain ⟨spelled, _⟩ := valid
          have captured := @mention_capture unicode context (Passage.gap
            ⟨.scored name version filler score, after⟩ ++ bareText more) name outside spelled
          rw [number] at captured
          have whole : Passage.bare ⟨.scored name version filler score, after⟩ ++ bareText more =
              name ++ (Passage.gap ⟨.scored name version filler score, after⟩ ++ bareText more) := by
            simp [Passage.bare]
          rw [whole]
          cases name with
          | nil => exact absurd rfl spelled.cvss_nonempty
          | cons initial name =>
              rw [List.cons_append, Pattern.search]
              cases tried : (cvssPattern unicode).runs context (initial :: (name ++
                  (Passage.gap ⟨.scored (initial :: name) version filler score, after⟩ ++
                    bareText more))) with
              | nil =>
                  rw [List.cons_append, tried] at captured
                  rw [← captured, List.head?_nil, Option.none_or, ← List.append_assoc,
                    Pattern.search_misses (scored_misses worded_cvss spelled quiet apart)]
                  have context' : (name ++ Passage.gap
                      ⟨.scored (initial :: name) version filler score, after⟩).getLast?.or
                        (some initial) = (Passage.head
                          ⟨.scored (initial :: name) version filler score, after⟩ ++ Passage.gap
                            ⟨.scored (initial :: name) version filler score, after⟩).getLast?.or
                              before := getLast?_cons_or.symm
                  rw [context']
                  exact ih conforms conforms.apart
              | cons run others =>
                  rw [List.cons_append, tried] at captured
                  obtain ⟨text, same⟩ := Option.isSome_iff_exists.mp
                    (cvss_captures run (tried ▸ List.mem_cons_self))
                  rw [← captured, List.head?_cons, Option.some_or, Option.bind_some, same]
                  simp [capture, same]

/-! Outputs where nothing but a score is read. -/

theorem Mild.head_digitless {following : List Char} (mild : Mild unicode following)
    (ended : ∀ char ∈ text.head?, unicode.isDigit char = false) :
    ∀ char ∈ (text ++ following).head?, unicode.isDigit char = false := by
  intro char first
  cases text with
  | nil => exact (mild char first).1
  | cons other text => exact ended char first

/-- A score is read whole. -/
theorem score_unsigned {score : Score} (whole' : score.whole ≠ [])
    (whole : ∀ char ∈ score.whole, unicode.isDigit char = true)
    (fraction : ∀ digits ∈ score.fraction, digits ≠ [] ∧
      ∀ char ∈ digits, unicode.isDigit char = true)
    (ended : ∀ char ∈ rest.head?, unicode.isDigit char = false)
    (undivided : score.fraction = none → ¬StartsMinor unicode rest) :
    unsignedAt unicode (score.whole ++ (fractionText score.fraction ++ rest)) =
      some (score.whole ++ fractionText score.fraction) := by
  have point : unicode.isDigit '.' = false := (isFiller_iff.mp point_filler).1
  have stop : ∀ char ∈ (fractionText score.fraction ++ rest).head?,
      unicode.isDigit char = false := by
    intro char first
    cases given : score.fraction with
    | none =>
        rw [given] at first
        exact ended char first
    | some digits =>
        rw [given] at first
        cases first
        exact point
  obtain ⟨taken, left⟩ := takeWhile_stop whole stop
  have read : fractionAt unicode (fractionText score.fraction ++ rest) =
      fractionText score.fraction := by
    cases given : score.fraction with
    | none =>
        change fractionAt unicode rest = []
        cases rest with
        | nil => rfl
        | cons char rest =>
            rw [fractionAt, if_neg]
            rintro ⟨rfl, digits⟩
            cases rest with
            | nil => exact digits rfl
            | cons minor rest =>
                by_cases minor' : unicode.isDigit minor = true
                · exact undivided given ⟨minor, rest, rfl, minor'⟩
                · exact digits (List.takeWhile_cons_of_neg minor')
    | some digits =>
        obtain ⟨digits', inside⟩ := fraction digits given
        obtain ⟨taken, _⟩ := takeWhile_stop inside ended
        change fractionAt unicode ('.' :: (digits ++ rest)) = '.' :: digits
        rw [fractionAt, taken, if_pos ⟨rfl, digits'⟩]
  rw [unsignedAt, taken, left, if_neg whole', read]

theorem numberAhead_words {filler : List Char}
    (words : ∀ char ∈ filler, isFiller unicode char = true) :
    numberAhead unicode (filler ++ rest) = numberAhead unicode rest := by
  rw [numberAhead, List.dropWhile_append_of_pos words, numberAhead]

/-- The number after words without a sign is the score. -/
theorem score_ahead {score : Score} {filler after following : List Char}
    (words : ∀ char ∈ filler, isFiller unicode char = true)
    (valid : score.Valid unicode filler after) (mild : Mild unicode following) :
    numberAhead unicode (filler ++ (score.text ++ (after ++ following))) = some score.text := by
  obtain ⟨sign, _, nonempty, whole, fraction, ended, undivided⟩ := valid
  have read := score_unsigned nonempty whole fraction (mild.head_digitless ended)
    fun none' => mild.startsMinor (undivided none')
  rw [numberAhead_words words]
  cases given : score.sign with
  | none =>
      have text : score.text = score.whole ++ fractionText score.fraction := by
        simp [Score.text, given]
      rw [text, List.append_assoc]
      cases digits : score.whole with
      | nil => exact absurd digits nonempty
      | cons first others =>
          have first' : unicode.isDigit first = true := by
            apply whole
            rw [digits]
            exact List.mem_cons_self
          rw [digits] at read
          rw [List.cons_append, numberAhead_stop (digit_stop first'), numberAt,
            if_neg (by simp [digit_signless first'])]
          exact read
  | some char =>
      have sign' : isSign char = true := sign char given
      have text : score.text = char :: (score.whole ++ fractionText score.fraction) := by
        simp [Score.text, given]
      have stop : isFiller unicode char = false := by simp [isFiller, sign']
      rw [text, List.cons_append, numberAhead_stop stop, numberAt, if_pos sign', List.append_assoc,
        read]
      rfl

/-- Up to the first score no version stands apart from the word, a mention without a score leads to
no number, and no sign stands in the words before the score. -/
def Undisturbed (unicode : Unicode) : List Passage → Prop
  | [] => True
  | passage :: more =>
      match passage.mention with
      | .vector _ _ _ _ => Undisturbed unicode more
      | .scored _ version filler score =>
          match score with
          | some _ => (∀ given ∈ version, given.spaces = []) ∧ ∀ char ∈ filler, isSign char = false
          | none => version = none ∧
              numberAhead unicode (filler ++ (passage.after ++ bareText more)) = none ∧
              Undisturbed unicode more

/-- There the first number is the first score. -/
theorem Undisturbed.firstNumber (undisturbed : Undisturbed unicode passages)
    (conforms : Conforms unicode before passages) :
    Nmap.firstNumber unicode passages = (firstScore passages).map Score.text := by
  induction passages generalizing before with
  | nil => rfl
  | cons passage more ih =>
      obtain ⟨_, valid, _, _, conforms⟩ := conforms
      obtain ⟨mention, after⟩ := passage
      cases mention with
      | vector name major minor metrics => exact ih undisturbed conforms
      | scored name version filler score =>
          obtain ⟨_, _, words, _, scored⟩ := valid
          cases score with
          | none =>
              obtain ⟨rfl, unled, undisturbed⟩ := undisturbed
              have nothing : Passage.number? unicode ⟨.scored name none filler none, after⟩
                  (bareText more) = none := unled
              rw [Nmap.firstNumber, nothing, Option.none_or]
              exact ih undisturbed conforms
          | some score =>
              obtain ⟨attached, signless⟩ := undisturbed
              have plain : ∀ char ∈ filler, isFiller unicode char = true := fun char member =>
                isFiller_iff.mpr ⟨(words char member).1, (words char member).2, signless char member⟩
              have read := score_ahead plain scored conforms.mild
              have number : Passage.number? unicode ⟨.scored name version filler (some score), after⟩
                  (bareText more) = some score.text := by
                cases version with
                | none => exact read
                | some version =>
                    refine (if_pos (attached version rfl)).trans ?_
                    exact congrArg (Option.or · _) read
              rw [Nmap.firstNumber, number, Option.some_or]
              rfl

end

end

section

variable {unicode : Unicode}

/-- The text that is read as the score of an output. -/
theorem scoreText_output (output : ScoredOutput unicode) :
    scoreText unicode output.text = firstNumber unicode output.passages := by
  obtain ⟨start, passages, quiet, conforms⟩ := output
  have apart : passages = [] ∨ (start.getLast?.or none).any unicode.isWord = false := by
    rw [Option.or_none]
    exact conforms.apart
  have named : textOf passages = [] ∨ (start.getLast?.or none).any unicode.isWord = false := by
    rcases apart with rfl | apart
    · exact .inl rfl
    · exact .inr apart
  have unnamed : bareText passages = [] ∨ (start.getLast?.or none).any unicode.isWord = false := by
    rcases apart with rfl | apart
    · exact .inl rfl
    · exact .inr apart
  have deleted : (vectorPattern unicode).delete (start ++ textOf passages).length none
      (start ++ textOf passages) = start ++ bareText passages := by
    rw [List.length_append]
    refine (Pattern.delete_misses (quiet.misses worded_vector named)).trans ?_
    rw [Option.or_none]
    exact congrArg (start ++ ·) (delete_passages le_rfl conforms)
  have text : ScoredOutput.text ⟨start, passages, quiet, conforms⟩ = start ++ textOf passages := rfl
  rw [scoreText, text, deleted, Pattern.search_misses (quiet.misses worded_cvss unnamed)]
  exact search_passages conforms apart

/-- Every vulnerable script gets a draft, with the value of the first number that its output leads
to. In an undisturbed output that is the first score. -/
theorem scores_read (output : ScoredOutput unicode) {report : NmapReport} {place : Place}
    (listed : place ∈ report.places) (vulnerable : isVulnerable unicode place.output = true)
    (written : place.output = output.text) :
    let expected := (firstScore output.passages).map fun score => worth unicode score.text
    place.draft unicode ∈ extractFindings unicode report ∧
      (place.draft unicode).cvssScore =
        (firstNumber unicode output.passages).map (worth unicode) ∧
      (Undisturbed unicode output.passages → (place.draft unicode).cvssScore = expected ∧
        (place.draft unicode).severity = severityFromCvss expected) := by
  intro expected
  have read : (place.draft unicode).cvssScore =
      (firstNumber unicode output.passages).map (worth unicode) := by
    have score : (place.draft unicode).cvssScore =
        (scoreText unicode place.output).map (worth unicode) := rfl
    rw [score, written, scoreText_output]
  have graded : (place.draft unicode).severity =
      severityFromCvss (place.draft unicode).cvssScore := rfl
  refine ⟨?_, read, ?_⟩
  · rw [extractFindings_eq]
    exact List.mem_map.mpr ⟨place, List.mem_filter.mpr
      ⟨listed, decide_eq_true (isVulnerable_iff.mp vulnerable)⟩, rfl⟩
  · intro undisturbed
    have same : (place.draft unicode).cvssScore = expected := by
      rw [read, undisturbed.firstNumber output.conforms, Option.map_map]
      rfl
    exact ⟨same, graded.trans (congrArg severityFromCvss same)⟩

end

/-! A version after a space. -/

section

variable {unicode : Unicode} {before : Option Char} {text : List Char}

/-- A text without the initial is quiet. -/
theorem Quiet.of_initial (absent : ∀ char ∈ text, caseless 'C' char = false) :
    Quiet unicode before text := by
  intro front found back shape spelled
  cases found with
  | nil => exact absurd rfl spelled.cvss_nonempty
  | cons initial found =>
      have member : initial ∈ text := by
        rw [shape]
        exact List.mem_append_left _ (List.mem_append_right _ List.mem_cons_self)
      have first : caseless 'C' initial = true := (List.forall₂_cons.mp spelled).1
      rw [absent initial member] at first
      cases first

end

/-- `VULNERABLE CVSS`, spaces, and `v3.1: 9.8`. -/
def versioned (spaces : List Char) (blank : ∀ char ∈ spaces, char = ' ') :
    ScoredOutput plainUnicode where
  start := "VULNERABLE ".toList
  passages := [{
    mention := .scored "CVSS".toList (some ⟨spaces, 'v', '3', some '1'⟩) ": ".toList
      (some ⟨none, ['9'], some ['8']⟩)
    after := [] }]
  quiet := Quiet.of_initial (Python.each_of_all (by decide))
  conforms := by
    refine ⟨rfl, ⟨?_, ?_, ?_, ?_, ?_⟩, Quiet.of_initial ?_, fun _ _ => rfl, trivial⟩
    · simp [Spells, caseless]
    · rintro ⟨major, minor, rest, shape, _⟩
      cases spaces with
      | nil => exact absurd (List.cons.inj shape).1 (by decide)
      | cons first others =>
          have colon := (List.cons.inj shape).1
          rw [blank first List.mem_cons_self] at colon
          exact absurd colon (by decide)
    · have digits : ∀ char ∈ ": ".toList, plainUnicode.isDigit char = false :=
        Python.each_of_all (by decide)
      intro char member
      refine ⟨digits char member, ?_⟩
      rintro rfl
      exact absurd member (by decide)
    · refine ⟨blank, rfl, rfl, ?_, by simp⟩
      intro digit given
      cases given
      decide
    · refine ⟨by simp, ?_, by simp, Python.each_of_all (by decide), ?_, by simp, by simp⟩
      · intro _ char last
        cases last
        decide
      · intro digits given
        cases given
        exact ⟨by decide, Python.each_of_all (by decide)⟩
    · have others : ∀ char ∈ "v3.1: 9.8".toList, caseless 'C' char = false :=
        Python.each_of_all (by decide)
      intro char member
      have inside : char ∈ spaces ++ "v3.1: 9.8".toList := by
        simpa [Passage.gap, versionText, Version.text, minorText, scoreText?, Score.text,
          fractionText] using member
      rcases List.mem_append.mp inside with member | member
      · rw [blank char member]
        decide
      · exact others char member

/-- `VULNERABLE CVSS v3.1: 9.8`. -/
def spacedVersion : ScoredOutput plainUnicode :=
  versioned [' '] fun _ member => List.mem_singleton.mp member

/-- `VULNERABLE CVSSv3.1: 9.8`. -/
def attachedVersion : ScoredOutput plainUnicode :=
  versioned [] fun _ none => absurd none List.not_mem_nil

/-- A report of one script. -/
def singleReport (output : String) : NmapReport :=
  ⟨[], [⟨["10.0.0.1"], [], [⟨some "http-vuln", some output⟩]⟩]⟩

/-- The version is taken for the score, and the severity is low where it is critical. -/
theorem version_read_as_score :
    ∃ draft, extractFindings plainUnicode (singleReport (String.ofList spacedVersion.text)) =
        [draft] ∧ draft.cvssScore = some (31 / 10) ∧ draft.severity = "low" ∧
      (firstScore spacedVersion.passages).map
        (fun score => worth plainUnicode score.text) = some (98 / 10) ∧
      severityFromCvss (some (98 / 10)) = "critical" := by
  refine ⟨_, rfl, ?_, ?_, ?_, ?_⟩ <;> decide +kernel

theorem scores_read_attached :
    let place : Place := ⟨⟨some "http-vuln", some (String.ofList attachedVersion.text)⟩,
      "10.0.0.1", none, none⟩
    let expected := some (worth plainUnicode "9.8".toList)
    (place.draft plainUnicode).cvssScore = expected ∧
      (place.draft plainUnicode).severity = severityFromCvss expected := by
  intro place expected
  have listed : place ∈ (singleReport (String.ofList attachedVersion.text)).places :=
    List.mem_cons_self
  have read := scores_read attachedVersion listed (by decide +kernel)
    (by simp [place, Place.output])
  exact read.2.2 ⟨by simp, Python.each_of_all (by decide)⟩

end Nmap
