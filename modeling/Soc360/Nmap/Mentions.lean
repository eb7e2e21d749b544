import Soc360.Nmap.Markers

set_option autoImplicit false

namespace Nmap

open Pattern (Misses boundary chars getLast?_append_or getLast?_cons_or group mem_boundary mem_chars
  mem_seq mem_star_chars mem_word opt plus seq star times word)

/-! Script outputs as a text with mentions of CVSS. -/

/-- `v3.1`, after spaces. -/
structure Version where
  spaces : List Char
  letter : Char
  major : Char
  minor : Option Char

structure Score where
  sign : Option Char
  whole : List Char
  fraction : Option (List Char)

/-- A vector string, or the word with a version, other words and a score. -/
inductive Mention where
  | vector (name : List Char) (major : Char) (minor : Option Char) (metrics : List Char)
  | scored (name : List Char) (version : Option Version) (filler : List Char)
    (score : Option Score)

/-- A mention and the text up to the next one. -/
structure Passage where
  mention : Mention
  after : List Char

def minorText : Option Char → List Char
  | some minor => ['.', minor]
  | none => []

def Version.text (version : Version) : List Char :=
  version.spaces ++ version.letter :: version.major :: minorText version.minor

def fractionText : Option (List Char) → List Char
  | some digits => '.' :: digits
  | none => []

def Score.text (score : Score) : List Char :=
  score.sign.toList ++ score.whole ++ fractionText score.fraction

def versionText : Option Version → List Char
  | some version => version.text
  | none => []

def scoreText? : Option Score → List Char
  | some score => score.text
  | none => []

def Mention.isVector : Mention → Bool
  | .vector _ _ _ _ => true
  | .scored _ _ _ _ => false

namespace Passage

/-- The vector string, or the word. -/
def head (passage : Passage) : List Char :=
  match passage.mention with
  | .vector name major minor metrics => name ++ ':' :: major :: (minorText minor ++ '/' :: metrics)
  | .scored name _ _ _ => name

/-- What stands between the head and the next passage. -/
def gap (passage : Passage) : List Char :=
  match passage.mention with
  | .vector _ _ _ _ => passage.after
  | .scored _ version filler score =>
      versionText version ++ (filler ++ (scoreText? score ++ passage.after))

def score (passage : Passage) : Option Score :=
  match passage.mention with
  | .vector _ _ _ _ => none
  | .scored _ _ _ score => score

/-- The passage without a vector string. -/
def bare (passage : Passage) : List Char :=
  match passage.mention with
  | .vector _ _ _ _ => passage.gap
  | .scored name _ _ _ => name ++ passage.gap

end Passage

/-- The text of passages. -/
def textOf (passages : List Passage) : List Char :=
  passages.flatMap fun passage => passage.head ++ passage.gap

/-- Their text with the vector strings left out. -/
def bareText (passages : List Passage) : List Char := passages.flatMap Passage.bare

section

variable (unicode : Unicode)

/-- No word `CVSS` starts in the text, which follows the given character. -/
def Quiet (before : Option Char) (text : List Char) : Prop :=
  ∀ front found back, text = front ++ found ++ back → Spells "CVSS" found →
    (front.getLast?.or before).any unicode.isWord = true

/-- A point and a digit. -/
def StartsMinor (text : List Char) : Prop :=
  ∃ minor rest, text = '.' :: minor :: rest ∧ unicode.isDigit minor = true

/-- Spaces, the letter and a digit. -/
def StartsVersion (text : List Char) : Prop :=
  ∃ spaces letter major rest, text = spaces ++ letter :: major :: rest ∧
    (∀ char ∈ spaces, char = ' ') ∧ caseless 'V' letter = true ∧ unicode.isDigit major = true

/-- What follows the word in a vector string. -/
def StartsVector (text : List Char) : Prop :=
  ∃ major minor rest, text = ':' :: major :: (minorText minor ++ '/' :: rest) ∧
    unicode.isDigit major = true ∧ ∀ digit ∈ minor, unicode.isDigit digit = true

structure Version.Valid (version : Version) (rest : List Char) : Prop where
  spaces : ∀ char ∈ version.spaces, char = ' '
  letter : caseless 'V' version.letter = true
  major : unicode.isDigit version.major = true
  minor : ∀ digit ∈ version.minor, unicode.isDigit digit = true
  whole : version.minor = none → ¬StartsMinor unicode rest

structure Score.Valid (score : Score) (filler rest : List Char) : Prop where
  sign : ∀ char ∈ score.sign, isSign char = true
  signed : score.sign = none → ∀ char ∈ filler.getLast?, isSign char = false
  nonempty : score.whole ≠ []
  whole : ∀ char ∈ score.whole, unicode.isDigit char = true
  fraction : ∀ digits ∈ score.fraction, digits ≠ [] ∧
    ∀ char ∈ digits, unicode.isDigit char = true
  ended : ∀ char ∈ rest.head?, unicode.isDigit char = false
  undivided : score.fraction = none → ¬StartsMinor unicode rest

/-- A mention as it is read, with all that belongs to it. -/
def Mention.Valid (mention : Mention) (after : List Char) : Prop :=
  match mention with
  | .vector name major minor metrics =>
      Spells "CVSS" name ∧ unicode.isDigit major = true ∧
        (∀ digit ∈ minor, unicode.isDigit digit = true) ∧
        (∀ char ∈ metrics, Python.isSpace char = false) ∧
        ∀ char ∈ after.head?, Python.isSpace char = true
  | .scored name version filler score =>
      let rest := filler ++ (scoreText? score ++ after)
      Spells "CVSS" name ∧ ¬StartsVector unicode (versionText version ++ rest) ∧
        (∀ char ∈ filler, unicode.isDigit char = false ∧ char ≠ '\n') ∧
        (match version with
          | some version => version.Valid unicode rest
          | none => ¬StartsVersion unicode rest) ∧
        match score with
        | some score => score.Valid unicode filler after
        | none => ∀ char ∈ after.head?, char = '\n'

/-- The passages are all the mentions of their text, which follows the given character. -/
def Conforms : Option Char → List Passage → Prop
  | _, [] => True
  | before, passage :: more =>
      before.any unicode.isWord = false ∧ passage.mention.Valid unicode passage.after ∧
        Quiet unicode (passage.head.getLast?.or before) passage.gap ∧
        (passage.mention.isVector = true → passage.after = [] → more = []) ∧
        Conforms ((passage.head ++ passage.gap).getLast?.or before) more

/-! The number that a text leads to. -/

def fractionAt (text : List Char) : List Char :=
  match text with
  | [] => []
  | char :: rest =>
      if char = '.' ∧ rest.takeWhile unicode.isDigit ≠ [] then '.' :: rest.takeWhile unicode.isDigit
      else []

/-- Digits, and a fraction if there is one. -/
def unsignedAt (text : List Char) : Option (List Char) :=
  let whole := text.takeWhile unicode.isDigit
  if whole = [] then none else some (whole ++ fractionAt unicode (text.dropWhile unicode.isDigit))

def numberAt (text : List Char) : Option (List Char) :=
  match text with
  | [] => none
  | char :: rest =>
      if isSign char then (unsignedAt unicode rest).map (char :: ·) else unsignedAt unicode text

/-- The number after other characters of the line, if no sign stands before it but its own. -/
def numberAhead (text : List Char) : Option (List Char) :=
  numberAt unicode (text.dropWhile (isFiller unicode))

/-- The number that a mention leads to. A version attached to the word counts only where it leads
to no other number. -/
def Passage.number? (passage : Passage) (following : List Char) : Option (List Char) :=
  match passage.mention with
  | .vector _ _ _ _ => none
  | .scored _ version filler score =>
      let rest := filler ++ (scoreText? score ++ (passage.after ++ following))
      match version with
      | some version =>
          if version.spaces = [] then
            (numberAhead unicode rest).or (some [version.minor.getD version.major])
          else numberAhead unicode (version.text ++ rest)
      | none => numberAhead unicode rest

/-- The first number that a mention leads to, with the vector strings left out. -/
def firstNumber : List Passage → Option (List Char)
  | [] => none
  | passage :: more => (passage.number? unicode (bareText more)).or (firstNumber more)

end

/-- The first score. -/
def firstScore (passages : List Passage) : Option Score := passages.findSome? Passage.score

/-- A script output whose mentions of CVSS are the given ones. -/
structure ScoredOutput (unicode : Unicode) where
  start : List Char
  passages : List Passage
  quiet : Quiet unicode none start
  conforms : Conforms unicode start.getLast? passages

def ScoredOutput.text {unicode : Unicode} (output : ScoredOutput unicode) : List Char :=
  output.start ++ textOf output.passages

/-- The value of a score: within bounds, with one decimal. -/
def worth (unicode : Unicode) (text : List Char) : ℚ := roundTenths (clamped unicode text)

section

variable {unicode : Unicode} {before : Option Char} {text rest : List Char} {char : Char}

/-! The number at the start of a text. -/

theorem ascii_digitless (ascii : char.toNat < 128) (other : ¬('0' ≤ char ∧ char ≤ '9')) :
    unicode.isDigit char = false := by
  rw [Unicode.isDigit, unicode.decimal_ascii char ascii, if_neg other]
  rfl

theorem isSign_digit (sign : isSign char = true) : unicode.isDigit char = false := by
  have signs : char = '+' ∨ char = '-' := by simpa [isSign] using sign
  rcases signs with rfl | rfl
  · exact ascii_digitless (by decide) (by decide)
  · exact ascii_digitless (by decide) (by decide)

/-- `(?:\.\d+)?`. -/
def fractionPattern (unicode : Unicode) : Pattern :=
  opt (seq (chars (· == '.')) (plus (digit unicode)))

theorem fraction_first :
    (((fractionPattern unicode).runs before text).head?.map Found.taken) =
      some (fractionAt unicode text) := by
  cases text with
  | nil => rfl
  | cons char rest =>
      by_cases point : char = '.'
      · have dot : (chars (· == '.')).runs before (char :: rest) = [⟨[char], none, rest⟩] := by
          rw [Pattern.runs_chars_cons, if_pos (beq_iff_eq.mpr point)]
        by_cases digits : rest.takeWhile unicode.isDigit = []
        · have nothing : (seq (chars (· == '.')) (plus (digit unicode))).runs before
              (char :: rest) = [] := by
            rw [Pattern.runs_seq_single dot]
            exact congrArg (List.map _) (Pattern.runs_plus_chars_nil digits)
          rw [fractionPattern, Pattern.runs_opt_nil nothing, fractionAt, if_neg (by simp [digits])]
          rfl
        · have more : ((plus (digit unicode)).runs (some char) rest).head? =
              some ⟨rest.takeWhile unicode.isDigit, none, rest.dropWhile unicode.isDigit⟩ :=
            Pattern.head?_plus_chars digits
          have first : ((seq (chars (· == '.')) (plus (digit unicode))).runs before
              (char :: rest)).head? = some (Found.append ⟨[char], none, rest⟩
                ⟨rest.takeWhile unicode.isDigit, none, rest.dropWhile unicode.isDigit⟩) :=
            Pattern.head?_seq_char (beq_iff_eq.mpr point) more
          rw [fractionPattern, Pattern.head?_opt_some first, fractionAt, if_pos ⟨point, digits⟩,
            point]
          rfl
      · have nothing : (seq (chars (· == '.')) (plus (digit unicode))).runs before
            (char :: rest) = [] := by
          apply Pattern.runs_seq_nil
          rw [Pattern.runs_chars_cons, if_neg (by simpa using point)]
        rw [fractionPattern, Pattern.runs_opt_nil nothing, fractionAt, if_neg (by simp [point])]
        rfl

/-- `\d+(?:\.\d+)?`. -/
def unsignedPattern (unicode : Unicode) : Pattern :=
  seq (plus (digit unicode)) (fractionPattern unicode)

theorem unsigned_runs_nil (none : text.takeWhile unicode.isDigit = []) :
    (unsignedPattern unicode).runs before text = [] :=
  Pattern.runs_seq_nil (Pattern.runs_plus_chars_nil none)

/-- The first match is the longest number. -/
theorem unsigned_first : (((unsignedPattern unicode).runs before text).head?.map Found.taken) =
    unsignedAt unicode text := by
  by_cases digitless : text.takeWhile unicode.isDigit = []
  · rw [unsigned_runs_nil digitless, unsignedAt, if_pos digitless]
    rfl
  · have whole : ((plus (digit unicode)).runs before text).head? =
        some ⟨text.takeWhile unicode.isDigit, none, text.dropWhile unicode.isDigit⟩ :=
      Pattern.head?_plus_chars digitless
    have fraction := @fraction_first unicode ((text.takeWhile unicode.isDigit).getLast?.or before)
      (text.dropWhile unicode.isDigit)
    obtain ⟨found, first, taken⟩ := Option.map_eq_some_iff.mp fraction
    rw [unsignedPattern, Pattern.head?_seq whole first, unsignedAt, if_neg digitless, ← taken]
    rfl

theorem number_first : (((numberPattern unicode).runs before text).head?.map Found.taken) =
    numberAt unicode text := by
  have shape : numberPattern unicode = seq (opt (chars isSign)) (unsignedPattern unicode) := rfl
  cases text with
  | nil => rfl
  | cons char rest =>
      by_cases sign : isSign char = true
      · have one : (chars isSign).runs before (char :: rest) = [⟨[char], none, rest⟩] := by
          rw [Pattern.runs_chars_cons, if_pos sign]
        have digitless : (char :: rest).takeWhile unicode.isDigit = [] := by
          rw [List.takeWhile_cons_of_neg]
          simp [isSign_digit sign]
        have signed : (numberPattern unicode).runs before (char :: rest) =
            ((unsignedPattern unicode).runs (some char) rest).map
              (Found.append ⟨[char], none, rest⟩) := by
          rw [shape, Pattern.runs_seq, opt, Pattern.runs_alt, one, Pattern.runs_empty,
            List.flatMap_append, List.flatMap_singleton, List.flatMap_singleton]
          have unsigned : (unsignedPattern unicode).runs
              ((Found.nothing (char :: rest)).last before) (Found.nothing (char :: rest)).left =
                [] := unsigned_runs_nil digitless
          rw [unsigned, List.map_nil, List.append_nil]
          rfl
        have unsigned := @unsigned_first unicode (some char) rest
        rw [signed, List.head?_map, Option.map_map, numberAt, if_pos sign, ← unsigned,
          Option.map_map]
        rfl
      · have nothing : (chars isSign).runs before (char :: rest) = [] := by
          rw [Pattern.runs_chars_cons, if_neg sign]
        rw [shape, Pattern.runs_seq_nothing (Pattern.runs_opt_nil nothing), unsigned_first, numberAt,
          if_neg sign]

/-! A mention, where the vector strings are left out. -/

/-- `[^\d\n+-]*([+-]?\d+(?:\.\d+)?)`. -/
def aheadPattern (unicode : Unicode) : Pattern :=
  seq (star (chars (isFiller unicode))) (group (numberPattern unicode))

/-- What the first match captures. -/
def capture (runs : List Found) : Option (List Char) := runs.head?.bind Found.captured

theorem isFiller_iff : isFiller unicode char = true ↔
    unicode.isDigit char = false ∧ char ≠ '\n' ∧ isSign char = false := by
  simp [isFiller, and_assoc]

theorem number_runs_filler (filler : isFiller unicode char = true) :
    (numberPattern unicode).runs before (char :: rest) = [] := by
  obtain ⟨digitless, _, signless⟩ := isFiller_iff.mp filler
  have first := @number_first unicode before (char :: rest)
  have nothing : numberAt unicode (char :: rest) = none := by
    rw [numberAt, if_neg (by simp [signless]), unsignedAt, if_pos]
    rw [List.takeWhile_cons_of_neg (by simp [digitless])]
  rw [nothing, Option.map_eq_none_iff, List.head?_eq_none_iff] at first
  exact first

theorem ahead_capture :
    capture ((aheadPattern unicode).runs before text) = numberAhead unicode text := by
  have apart : ∀ before char rest, isFiller unicode char = true →
      (group (numberPattern unicode)).runs before (char :: rest) = [] := by
    intro before char rest filler
    rw [Pattern.runs, number_runs_filler filler, List.map_nil]
  rw [aheadPattern, Pattern.runs_seq_star_chars apart, capture, List.head?_map, Pattern.runs,
    List.head?_map, numberAhead,
    ← @number_first unicode ((text.takeWhile (isFiller unicode)).getLast?.or before)]
  cases ((numberPattern unicode).runs ((text.takeWhile (isFiller unicode)).getLast?.or before)
      (text.dropWhile (isFiller unicode))).head? with
  | none => rfl
  | some found => rfl

theorem ahead_captures : ∀ found ∈ (aheadPattern unicode).runs before text,
    found.captured.isSome = true := by
  intro found member
  obtain ⟨front, _, back, member', rfl⟩ := mem_seq.mp member
  obtain ⟨inner, _, rfl⟩ := List.mem_map.mp member'
  rfl

theorem capture_map {runs : List Found} (front : Found)
    (captures : ∀ found ∈ runs, found.captured.isSome = true) :
    capture (runs.map front.append) = capture runs := by
  cases runs with
  | nil => rfl
  | cons found others =>
      obtain ⟨captured, same⟩ := Option.isSome_iff_exists.mp (captures found List.mem_cons_self)
      simp [capture, Found.append, same]

theorem capture_append {first second : List Found}
    (captures : ∀ found ∈ first, found.captured.isSome = true) :
    capture (first ++ second) = (capture first).or (capture second) := by
  cases first with
  | nil => rfl
  | cons found others =>
      obtain ⟨captured, same⟩ := Option.isSome_iff_exists.mp (captures found List.mem_cons_self)
      simp [capture, same]

theorem numberAhead_filler (filler : isFiller unicode char = true) :
    numberAhead unicode (char :: rest) = numberAhead unicode rest := by
  rw [numberAhead, List.dropWhile_cons_of_pos filler, numberAhead]

theorem numberAhead_stop (stop : isFiller unicode char = false) :
    numberAhead unicode (char :: rest) = numberAt unicode (char :: rest) := by
  rw [numberAhead, List.dropWhile_cons_of_neg (by simp [stop])]

theorem digit_signless (digit' : unicode.isDigit char = true) : isSign char = false := by
  apply Bool.eq_false_iff.mpr
  intro sign
  rw [isSign_digit sign] at digit'
  cases digit'

theorem digit_stop (digit' : unicode.isDigit char = true) : isFiller unicode char = false := by
  simp [isFiller, digit']

theorem numberAt_digit (digit' : unicode.isDigit char = true) :
    numberAt unicode (char :: rest) = some (char :: rest.takeWhile unicode.isDigit ++
      fractionAt unicode (rest.dropWhile unicode.isDigit)) := by
  have signless := digit_signless digit'
  rw [numberAt, if_neg (by simp [signless]), unsignedAt, List.takeWhile_cons_of_pos digit',
    List.dropWhile_cons_of_pos digit', if_neg (List.cons_ne_nil _ _)]

theorem point_filler : isFiller unicode '.' = true := by
  apply isFiller_iff.mpr
  exact ⟨ascii_digitless (by decide) (by decide), by decide, by decide⟩

/-- The number that is left to a version which leads to no other. -/
theorem numberAt_last (digit' : unicode.isDigit char = true)
    (none' : numberAhead unicode rest = none) : numberAt unicode (char :: rest) = some [char] := by
  rw [numberAt_digit digit']
  cases rest with
  | nil => rfl
  | cons next rest =>
      have digitless : unicode.isDigit next = false := by
        apply Bool.eq_false_iff.mpr
        intro next'
        rw [numberAhead_stop (digit_stop next'), numberAt_digit next'] at none'
        cases none'
      have undivided : ¬(next = '.' ∧ rest.takeWhile unicode.isDigit ≠ []) := by
        rintro ⟨rfl, fraction⟩
        rw [numberAhead_filler point_filler] at none'
        cases rest with
        | nil => exact fraction rfl
        | cons first rest =>
            by_cases first' : unicode.isDigit first = true
            · rw [numberAhead_stop (digit_stop first'), numberAt_digit first'] at none'
              cases none'
            · exact fraction (List.takeWhile_cons_of_neg first')
      rw [List.takeWhile_cons_of_neg (by simp [digitless]),
        List.dropWhile_cons_of_neg (by simp [digitless]), fractionAt, if_neg undivided]
      rfl

/-- What follows the word, with an attached version. -/
def tailPattern (unicode : Unicode) : Pattern :=
  seq (opt (versionPattern unicode)) (aheadPattern unicode)

theorem tail_capture : capture ((tailPattern unicode).runs before text) =
    (capture ((seq (versionPattern unicode) (aheadPattern unicode)).runs before text)).or
      (numberAhead unicode text) := by
  have split' : (tailPattern unicode).runs before text =
      (seq (versionPattern unicode) (aheadPattern unicode)).runs before text ++
        (aheadPattern unicode).runs before text := by
    rw [tailPattern, Pattern.runs_seq, opt, Pattern.runs_alt, List.flatMap_append,
      Pattern.runs_empty, List.flatMap_singleton, Found.nothing_append, List.map_id,
      Found.nothing_last]
    rfl
  rw [split', capture_append, ahead_capture]
  intro found member
  obtain ⟨front, _, back, member', rfl⟩ := mem_seq.mp member
  obtain ⟨captured, same⟩ := Option.isSome_iff_exists.mp (ahead_captures back member')
  simp [Found.append, same]

theorem version_runs_nil (unattached : ∀ letter major rest, text = letter :: major :: rest →
    caseless 'V' letter = true → unicode.isDigit major = false) :
    (versionPattern unicode).runs before text = [] := by
  apply List.eq_nil_iff_forall_not_mem.mpr
  intro found member
  obtain ⟨front, member₁, back, member₂, _⟩ := mem_seq.mp member
  obtain ⟨letter, rest, letter', rfl, rfl⟩ := mem_chars.mp member₁
  obtain ⟨second, member₃, _, _, _⟩ := mem_seq.mp member₂
  obtain ⟨major, rest', major', same, _⟩ := mem_chars.mp member₃
  have same : rest = major :: rest' := same
  rw [unattached letter major rest' (by rw [same]) letter'] at major'
  cases major'

/-- A letter and a digit, and then a minor version if there is one. -/
theorem version_runs {letter major : Char} (letter' : caseless 'V' letter = true)
    (major' : unicode.isDigit major = true) :
    (versionPattern unicode).runs before (letter :: major :: rest) =
      ((opt (seq (chars (· == '.')) (digit unicode))).runs (some major) rest).map
        (Found.append ⟨[letter, major], none, rest⟩) := by
  have first : (chars (caseless 'V')).runs before (letter :: major :: rest) =
      [⟨[letter], none, major :: rest⟩] := by
    rw [Pattern.runs_chars_cons, if_pos letter']
  have second : (digit unicode).runs (some letter) (major :: rest) =
      [⟨[major], none, rest⟩] := by
    rw [digit, Pattern.runs_chars_cons, if_pos major']
  rw [versionPattern, Pattern.runs_seq_single first]
  refine (congrArg (List.map _) (Pattern.runs_seq_single second)).trans ?_
  rw [List.map_map]
  apply List.map_congr_left
  intro found _
  exact (Found.append_assoc _ _ _).symm

theorem minor_runs {minor : Char} (minor' : unicode.isDigit minor = true) :
    (opt (seq (chars (· == '.')) (digit unicode))).runs before ('.' :: minor :: rest) =
      [⟨['.', minor], none, rest⟩, .nothing ('.' :: minor :: rest)] := by
  have first : (chars (· == '.')).runs before ('.' :: minor :: rest) =
      [⟨['.'], none, minor :: rest⟩] := rfl
  have second : (digit unicode).runs (some '.') (minor :: rest) = [⟨[minor], none, rest⟩] := by
    rw [digit, Pattern.runs_chars_cons, if_pos minor']
  rw [opt, Pattern.runs_alt, Pattern.runs_seq_single first, Pattern.runs_empty]
  refine congrArg (List.map (Found.append ⟨['.'], none, minor :: rest⟩) · ++ _) second

theorem minor_runs_nil (whole : ¬StartsMinor unicode text) :
    (seq (chars (· == '.')) (digit unicode)).runs before text = [] := by
  apply List.eq_nil_iff_forall_not_mem.mpr
  intro found member
  obtain ⟨front, member₁, back, member₂, _⟩ := mem_seq.mp member
  obtain ⟨point, rest, point', rfl, rfl⟩ := mem_chars.mp member₁
  obtain ⟨minor, rest', minor', same, _⟩ := mem_chars.mp member₂
  have same : rest = minor :: rest' := same
  exact whole ⟨minor, rest', by rw [same, beq_iff_eq.mp point'], minor'⟩

theorem version_capture_minor {letter major minor : Char} (letter' : caseless 'V' letter = true)
    (major' : unicode.isDigit major = true) (minor' : unicode.isDigit minor = true) :
    capture ((seq (versionPattern unicode) (aheadPattern unicode)).runs before
        (letter :: major :: '.' :: minor :: rest)) =
      (numberAhead unicode rest).or (numberAhead unicode ('.' :: minor :: rest)) := by
  rw [Pattern.runs_seq, version_runs letter' major', minor_runs minor', List.map_cons,
    List.map_singleton, List.flatMap_cons, List.flatMap_singleton, capture_append,
    capture_map _ ahead_captures, capture_map _ ahead_captures, ahead_capture, ahead_capture]
  · rfl
  · intro found member
    obtain ⟨back, member', rfl⟩ := List.mem_map.mp member
    obtain ⟨captured, same⟩ := Option.isSome_iff_exists.mp (ahead_captures back member')
    simp [Found.append, same]

theorem version_capture_major {letter major : Char} (letter' : caseless 'V' letter = true)
    (major' : unicode.isDigit major = true) (whole : ¬StartsMinor unicode rest) :
    capture ((seq (versionPattern unicode) (aheadPattern unicode)).runs before
        (letter :: major :: rest)) = numberAhead unicode rest := by
  rw [Pattern.runs_seq, version_runs letter' major', Pattern.runs_opt_nil (minor_runs_nil whole),
    List.map_singleton, List.flatMap_singleton, capture_map _ ahead_captures, ahead_capture]
  rfl

theorem letter_filler (letter' : caseless 'V' char = true) : isFiller unicode char = true := by
  apply isFiller_iff.mpr
  rcases caseless_iff.mp letter' with rfl | rfl | ⟨other, _⟩
  · exact ⟨ascii_digitless (by decide) (by decide), by decide, by decide⟩
  · exact ⟨ascii_digitless (by decide) (by decide), by decide, by decide⟩
  · exact absurd other (by decide)

/-- A text that continues no version and no number. -/
def Mild (unicode : Unicode) (text : List Char) : Prop :=
  ∀ char ∈ text.head?, unicode.isDigit char = false ∧ char ≠ '.' ∧ caseless 'V' char = false

theorem Mild.startsMinor {following : List Char} (mild : Mild unicode following)
    (whole : ¬StartsMinor unicode text) : ¬StartsMinor unicode (text ++ following) := by
  rintro ⟨minor, others, shape, minor'⟩
  cases text with
  | nil => exact (mild '.' (by rw [← List.nil_append following, shape]; rfl)).2.1 rfl
  | cons first text =>
      cases text with
      | nil =>
          obtain ⟨rfl, rfl⟩ := List.cons.inj shape
          rw [(mild minor rfl).1] at minor'
          cases minor'
      | cons second text =>
          obtain ⟨rfl, shape'⟩ := List.cons.inj shape
          obtain ⟨rfl, _⟩ := List.cons.inj shape'
          exact whole ⟨second, text, rfl, minor'⟩

theorem Mild.unattached {following : List Char} (mild : Mild unicode following)
    (whole : ¬StartsVersion unicode text) :
    ∀ letter major others, text ++ following = letter :: major :: others →
      caseless 'V' letter = true → unicode.isDigit major = false := by
  intro letter major others shape letter'
  cases text with
  | nil =>
      have first := (mild letter (by rw [← List.nil_append following, shape]; rfl)).2.2
      rw [letter'] at first
      cases first
  | cons first text =>
      cases text with
      | nil =>
          obtain ⟨rfl, rfl⟩ := List.cons.inj shape
          exact (mild major rfl).1
      | cons second text =>
          obtain ⟨rfl, shape'⟩ := List.cons.inj shape
          obtain ⟨rfl, _⟩ := List.cons.inj shape'
          apply Bool.eq_false_iff.mpr
          intro second'
          exact whole ⟨[], first, second, text, rfl, by simp, letter', second'⟩

/-- What the pattern captures at a mention is the number that the mention leads to. -/
theorem tail_number {passage : Passage} {following : List Char}
    (valid : passage.mention.Valid unicode passage.after)
    (scored : passage.mention.isVector = false) (mild : Mild unicode following) :
    capture ((tailPattern unicode).runs before (passage.gap ++ following)) =
      passage.number? unicode following := by
  obtain ⟨mention, after⟩ := passage
  cases mention with
  | vector name major minor metrics => cases scored
  | scored name version filler score =>
      obtain ⟨_, _, _, versioned, _⟩ := valid
      simp only [Passage.gap, Passage.number?, List.append_assoc]
      cases version with
      | none =>
          have unattached := mild.unattached versioned
          simp only [List.append_assoc] at unattached
          rw [tail_capture, versionText, List.nil_append,
            Pattern.runs_seq_nil (version_runs_nil unattached)]
          rfl
      | some version =>
          obtain ⟨spaces, letter, major, minor⟩ := version
          obtain ⟨spaced, letter', major', minor', whole⟩ := versioned
          have rest : filler ++ (scoreText? score ++ (after ++ following)) =
              (filler ++ (scoreText? score ++ after)) ++ following := by
            simp only [List.append_assoc]
          rw [rest]
          cases spaces with
          | nil =>
              change capture ((tailPattern unicode).runs before ((letter :: major ::
                minorText minor) ++ ((filler ++ (scoreText? score ++ after)) ++ following))) =
                  (numberAhead unicode ((filler ++ (scoreText? score ++ after)) ++ following)).or
                    (some [minor.getD major])
              cases minor with
              | none =>
                  have whole := mild.startsMinor (whole rfl)
                  have stop := digit_stop major'
                  rw [minorText, List.cons_append, List.cons_append, List.nil_append, tail_capture,
                    version_capture_major letter' major' whole,
                    numberAhead_filler (letter_filler letter'), numberAhead_stop stop]
                  cases ahead : numberAhead unicode
                      ((filler ++ (scoreText? score ++ after)) ++ following) with
                  | none => rw [numberAt_last major' ahead]; rfl
                  | some number => rfl
              | some minor =>
                  have minor' := minor' minor rfl
                  rw [minorText, List.cons_append, List.cons_append, List.cons_append,
                    List.cons_append, List.nil_append, tail_capture,
                    version_capture_minor letter' major' minor', numberAhead_filler point_filler,
                    numberAhead_stop (digit_stop minor')]
                  cases ahead : numberAhead unicode
                      ((filler ++ (scoreText? score ++ after)) ++ following) with
                  | none => rw [numberAt_last minor' ahead]; rfl
                  | some number => rfl
          | cons space spaces =>
              have unattached : ∀ first major' others, versionText
                    (some ⟨space :: spaces, letter, major, minor⟩) ++
                      ((filler ++ (scoreText? score ++ after)) ++ following) =
                    first :: major' :: others →
                  caseless 'V' first = true → unicode.isDigit major' = false := by
                intro first major' others shape first'
                obtain ⟨rfl, _⟩ := List.cons.inj shape
                rw [spaced space List.mem_cons_self] at first'
                exact absurd first' (by decide)
              rw [tail_capture, Pattern.runs_seq_nil (version_runs_nil unattached)]
              rfl

end

end Nmap
