import Soc360.Enrichment.Citations

set_option autoImplicit false

/-! Identifiers in a text, wherever ASCII letters and digits end. -/

namespace Enrichment

open Python (Cut Piece Somewhere spell)

/-- An identifier with ASCII digits, next to no ASCII letter or digit. -/
structure Occurrence (before : Option Char) (identifier back : List Char) : Prop where
  before : before.any Char.isAlphanum = false
  spelled : Spelled Char.isDigit identifier
  after : back.head?.any Char.isAlphanum = false

/-- The pattern matches the identifier with the digits after it. -/
structure Matched (texts : Texts) (before : Option Char) (back : List Char) : Prop where
  before : before.any texts.isWord = false
  after : (back.dropWhile texts.isDigit).head?.any texts.isWord = false

section

variable (texts : Texts) (finding : EnrichmentInput) (before : Option Char)
  (identifier back : List Char)

/-- An occurrence that the finding does not have. -/
def Stray : Prop := Occurrence before identifier back ∧ ¬Supported texts finding identifier

/-- A stray that is not replaced: the pattern does not match there, or matches more. -/
def Overlooked : Prop :=
  Stray texts finding before identifier back ∧
    ¬(Matched texts before back ∧
      ¬Supported texts finding (identifier ++ back.takeWhile texts.isDigit))

end

section

variable {texts : Texts} {finding : EnrichmentInput} {before before' : Option Char}
  {word back other : List Char} {char : Char} {given : List Piece}
  {good : Option Char → List Char → List Char → Prop} {isDigit isDigit' : Char → Bool}

/-- One of two identifiers at one place goes on with digits after the other. -/
theorem Spelled.compare (spelled : Spelled isDigit word) (spelled' : Spelled isDigit' other)
    {left : List Char} (same : word ++ back = other ++ left) :
    (∃ digits, other = word ++ digits ∧ back = digits ++ left ∧
        ∀ char ∈ digits, isDigit' char = true) ∨
      ∃ digits, word = other ++ digits ∧ left = digits ++ back ∧
        ∀ char ∈ digits, isDigit char = true := by
  have numbers {stem number number' : List Char} (all : ∀ char ∈ number, isDigit char = true)
      (all' : ∀ char ∈ number', isDigit' char = true) (same : number ++ back = number' ++ left) :
      (∃ digits, stem ++ number' = stem ++ number ++ digits ∧ back = digits ++ left ∧
          ∀ char ∈ digits, isDigit' char = true) ∨
        ∃ digits, stem ++ number = stem ++ number' ++ digits ∧ left = digits ++ back ∧
          ∀ char ∈ digits, isDigit char = true := by
    rcases List.append_eq_append_iff.mp same with ⟨digits, rfl, rest⟩ | ⟨digits, rfl, rest⟩
    · left
      exact ⟨digits, (List.append_assoc _ _ _).symm, rest,
        fun char member => all' char (List.mem_append_right _ member)⟩
    · right
      exact ⟨digits, (List.append_assoc _ _ _).symm, rest,
        fun char member => all char (List.mem_append_right _ member)⟩
  have apart {char : Char} (v : letter 'V' 'v' char = true) : letter 'W' 'w' char ≠ true := by
    rcases letter_iff.mp v with rfl | rfl <;> decide
  cases spelled with
  | @cve c v e year number initial second third four years enough all =>
      cases spelled' with
      | @cve c' v' e' year' number' initial' second' third' four' years' enough' all' =>
          simp only [List.cons_append, List.append_assoc, List.cons.injEq] at same
          obtain ⟨rfl, rfl, rfl, -, same⟩ := same
          obtain ⟨rfl, rest⟩ := List.append_inj same (four.trans four'.symm)
          have found := @numbers (c :: v :: e :: '-' :: (year ++ ['-'])) number number' all all'
            (List.cons.inj rest).2
          simpa only [List.cons_append, List.append_assoc, List.nil_append] using found
      | cwe initial' second' =>
          simp only [List.cons_append, List.cons.injEq] at same
          exact absurd (same.2.1 ▸ second') (apart second)
  | @cwe c w e number initial second third enough all =>
      cases spelled' with
      | cve initial' second' =>
          simp only [List.cons_append, List.cons.injEq] at same
          exact absurd (same.2.1 ▸ second) (apart second')
      | @cwe c' w' e' number' initial' second' third' enough' all' =>
          simp only [List.cons_append, List.cons.injEq] at same
          obtain ⟨rfl, rfl, rfl, -, same⟩ := same
          exact @numbers [c, w, e, '-'] number number' all all' same

/-- Identifiers start with a `C` and a `V` or `W`, so none starts in a text without these. -/
theorem somewhere_uncited (spelled : ∀ before word back, good before word back →
      Spelled isDigit word) (plain : uncited other = true) :
    Somewhere good before (other ++ back) ↔ Somewhere good (other.getLast?.or before) back := by
  induction other generalizing before with
  | nil => rfl
  | cons char rest ih =>
      have nowhere : ¬∃ word left, char :: (rest ++ back) = word ++ left ∧
          good before word left := by
        rintro ⟨word, left, shape, held⟩
        obtain ⟨c, second, more, rfl, initial, next⟩ := (spelled _ _ _ held).initial
        obtain ⟨rfl, tails⟩ := List.cons.inj shape
        cases rest with
        | nil =>
            rw [uncited, initial] at plain
            cases plain
        | cons following rest =>
            obtain ⟨rfl, _⟩ := List.cons.inj tails
            rw [uncited, initial, Bool.or_eq_true _ _ |>.mpr next] at plain
            cases plain
      have plain' : uncited rest = true := by
        cases rest with
        | nil => rfl
        | cons following rest =>
            rw [uncited, Bool.and_eq_true] at plain
            exact plain.2
      rw [List.cons_append, Python.somewhere_cons, Pattern.getLast?_cons_or, or_iff_right nowhere]
      exact ih plain'

theorem uncited_of_letter (plain : ∀ char ∈ word, letter 'C' 'c' char = false) :
    uncited word = true := by
  induction word with
  | nil => rfl
  | cons char rest ih =>
      have first := plain char List.mem_cons_self
      have later := ih fun char member => plain char (List.mem_cons_of_mem _ member)
      cases rest with
      | nil =>
          rw [uncited, first]
          rfl
      | cons next rest =>
          rw [uncited, first, later]
          rfl

theorem Stray.spelled (stray : Stray texts finding before word back) :
    Spelled Char.isDigit word := stray.1.spelled

/-- A match has a stray at its start alone. -/
theorem somewhere_match (wordly : texts.Wordly) (spelled : Spelled texts.isDigit other)
    (good_spelled : ∀ before word back, good before word back → Spelled Char.isDigit word) :
    Somewhere good before (other ++ back) ↔
      (∃ word left, other ++ back = word ++ left ∧ good before word left) ∨
        Somewhere good other.getLast? back := by
  obtain ⟨c, second, more, rfl, _⟩ := spelled.initial
  have plain : uncited (second :: more) = true :=
    uncited_of_letter (spelled.inner wordly.letters rfl)
  have later : Somewhere good (some c) (second :: more ++ back) ↔ _ :=
    somewhere_uncited good_spelled plain
  rw [List.cons_append, Python.somewhere_cons, later, ← @Pattern.getLast?_cons_or none,
    Option.or_none]

theorem Spelled.mono (spelled : Spelled isDigit word)
    (digit : ∀ char, isDigit char = true → isDigit' char = true) : Spelled isDigit' word := by
  cases spelled with
  | cve initial second third four years enough all =>
      exact .cve initial second third four (fun char member => digit char (years char member))
        enough fun char member => digit char (all char member)
  | cwe initial second third enough all =>
      exact .cwe initial second third enough fun char member => digit char (all char member)

theorem Spelled.append (spelled : Spelled isDigit word)
    (all : ∀ char ∈ other, isDigit char = true) : Spelled isDigit (word ++ other) := by
  have longer {number : List Char} (digits : ∀ char ∈ number, isDigit char = true) :
      ∀ char ∈ number ++ other, isDigit char = true := by
    intro char member
    rcases List.mem_append.mp member with member | member
    · exact digits char member
    · exact all char member
  cases spelled with
  | @cve c v e year number initial second third four years enough digits =>
      have found := @Spelled.cve isDigit c v e year (number ++ other) initial second third four
        years (by rw [List.length_append]; omega) (longer digits)
      simpa only [List.cons_append, List.append_assoc] using found
  | @cwe c w e number initial second third enough digits =>
      exact @Spelled.cwe isDigit c w e (number ++ other) initial second third
        (by rw [List.length_append]; omega) (longer digits)

/-- Where no match starts a stray is overlooked. -/
theorem Stray.overlooked (wordly : texts.Wordly) (stray : Stray texts finding before word back)
    (none' : citationMatcher texts before (word ++ back) = none) :
    Overlooked texts finding before word back := by
  refine ⟨stray, ?_⟩
  rintro ⟨matched, _⟩
  have all : ∀ char ∈ back.takeWhile texts.isDigit, texts.isDigit char = true := by
    intro char member
    exact List.mem_takeWhile_imp member
  have found : citationMatcher texts before (word ++ back) =
      some (word ++ back.takeWhile texts.isDigit, back.dropWhile texts.isDigit) := by
    apply (citationMatcher_some wordly).mpr
    refine ⟨?_, matched.before, (stray.spelled.mono wordly.digit).append all, matched.after⟩
    rw [List.append_assoc, List.takeWhile_append_dropWhile]
  rw [none'] at found
  cases found

/-- A stray at a character is one whatever is replaced later. -/
theorem stray_first (wordly : texts.Wordly)
    (cut : Cut (citationMatcher texts) (some char) given)
    (none' : citationMatcher texts before (char :: given.flatMap spell) = none) :
    (∃ word back, char :: (given.flatMap (redact texts finding)).flatMap spell = word ++ back ∧
        Stray texts finding before word back) ↔
      ∃ word back, char :: given.flatMap spell = word ++ back ∧
        Overlooked texts finding before word back := by
  have here : (∃ word back, char :: given.flatMap spell = word ++ back ∧
        Stray texts finding before word back) ↔
      ∃ word back, char :: given.flatMap spell = word ++ back ∧
        Overlooked texts finding before word back := by
    constructor
    · rintro ⟨word, back, shape, stray⟩
      rw [shape] at none'
      exact ⟨word, back, shape, stray.overlooked wordly none'⟩
    · rintro ⟨word, back, shape, stray, _⟩
      exact ⟨word, back, shape, stray⟩
  rw [← here]
  rcases @diverge _ finding _ _ wordly cut with
    equal | ⟨common, initial, more, more', shape, shape', starts, plain⟩
  · rw [equal]
  · have exchange {stop stop' : Char} {left left' : List Char}
        (stops : letter 'C' 'c' stop = true ∨ stop = '[') :
        (∃ word back, char :: (common ++ stop :: left) = word ++ back ∧
            Stray texts finding before word back) →
          ∃ word back, char :: (common ++ stop' :: left') = word ++ back ∧
            Stray texts finding before word back := by
      rintro ⟨word, back, split, stray⟩
      obtain ⟨next, middle, within, rfl⟩ :=
        (stray.spelled.mono wordly.digit).within wordly stops plain split
      refine ⟨word, next :: (middle ++ stop' :: left'), ?_, ⟨stray.1.before, stray.spelled,
        stray.1.after⟩, stray.2⟩
      have whole := congrArg (· ++ stop' :: left') within
      simpa only [List.append_assoc, List.cons_append] using whole
    rw [shape, shape']
    exact ⟨exchange (.inr rfl), exchange (.inl starts)⟩

/-- An identifier at the start of a match is the match up to some of its digits. -/
theorem IsCitation.first (wordly : texts.Wordly) {left : List Char}
    (citation : IsCitation texts before other left.head?) (spelled : Spelled Char.isDigit word)
    (same : other ++ left = word ++ back) :
    ∃ digits, other = word ++ digits ∧ back = digits ++ left ∧
      ∀ char ∈ digits, texts.isDigit char = true := by
  rcases spelled.compare citation.spelled same.symm with found | ⟨digits, rfl, rfl, all⟩
  · exact found
  · cases digits with
    | nil => exact ⟨[], by simp, by simp, by simp⟩
    | cons char digits =>
        have word := wordly.digit_word char (wordly.digit char (all char List.mem_cons_self))
        have after := citation.after
        rw [List.cons_append, List.head?_cons, Option.any_some, word] at after
        cases after

/-- The identifiers at the start of a supported match are overlooked. -/
theorem IsCitation.stray_supported (wordly : texts.Wordly) {left left' : List Char}
    (citation : IsCitation texts before other left.head?)
    (supported : Supported texts finding other)
    (plain : left'.head?.any texts.isWord = false) :
    (∃ word back, other ++ left' = word ++ back ∧ Stray texts finding before word back) ↔
      ∃ word back, other ++ left = word ++ back ∧ Overlooked texts finding before word back := by
  have narrow {char : Option Char} (after : char.any texts.isWord = false) :
      char.any Char.isAlphanum = false := by
    cases char with
    | none => rfl
    | some char =>
        rw [Option.any_some] at after ⊢
        apply Bool.eq_false_iff.mpr
        intro alphanum
        rw [wordly.alphanum_word char alphanum] at after
        cases after
  have sides {digits left left' : List Char} (before' : left'.head?.any texts.isWord = false)
      (after : (digits ++ left).head?.any Char.isAlphanum = false) :
      (digits ++ left').head?.any Char.isAlphanum = false := by
    cases digits with
    | nil => exact narrow before'
    | cons char digits => exact after
  constructor
  · rintro ⟨word, back, shape, stray⟩
    have citation' : IsCitation texts before other left'.head? :=
      ⟨citation.before, citation.spelled, plain⟩
    obtain ⟨digits, rfl, rfl, all⟩ := citation'.first wordly stray.spelled shape
    refine ⟨word, digits ++ left, List.append_assoc _ _ _, ⟨⟨stray.1.before, stray.spelled,
      sides citation.after stray.1.after⟩, stray.2⟩, ?_⟩
    rintro ⟨_, unsupported⟩
    rw [(takeWhile_digits wordly all citation.after).1] at unsupported
    exact unsupported supported
  · rintro ⟨word, back, shape, stray, _⟩
    obtain ⟨digits, rfl, rfl, all⟩ := citation.first wordly stray.spelled shape
    exact ⟨word, digits ++ left', List.append_assoc _ _ _, ⟨stray.1.before, stray.spelled,
      sides plain stray.1.after⟩, stray.2⟩

/-- A match that is replaced overlooks nothing. -/
theorem IsCitation.not_overlooked (wordly : texts.Wordly) {left : List Char}
    (citation : IsCitation texts before other left.head?)
    (unsupported : ¬Supported texts finding other) :
    ¬∃ word back, other ++ left = word ++ back ∧ Overlooked texts finding before word back := by
  rintro ⟨word, back, shape, stray, kept⟩
  obtain ⟨digits, rfl, rfl, all⟩ := citation.first wordly stray.spelled shape
  obtain ⟨run, rest⟩ := takeWhile_digits wordly all citation.after
  apply kept
  rw [run]
  refine ⟨⟨citation.before, ?_⟩, unsupported⟩
  rw [rest]
  exact citation.after

/-- The pieces after a match or a character keep the strays that were overlooked. -/
theorem stray_redact_iff (wordly : texts.Wordly) (cut : Cut (citationMatcher texts) before given)
    (sides : before' = before ∨ (given.flatMap spell).head?.any texts.isWord = false) :
    Somewhere (Stray texts finding) before' ((given.flatMap (redact texts finding)).flatMap spell) ↔
      Somewhere (Overlooked texts finding) before (given.flatMap spell) := by
  induction given generalizing before before' with
  | nil =>
      have nothing {texts' : Prop} {held : Option Char → List Char → List Char → Prop}
          (spelled : ∀ before word back, held before word back → Spelled Char.isDigit word)
          {before : Option Char} : Somewhere held before [] → texts' := by
        rintro ⟨front, word, back, shape, found⟩
        obtain ⟨_, _, _, rfl, _⟩ := (spelled _ _ _ found).initial
        cases (List.append_eq_nil_iff.mp shape.symm).2
      exact ⟨nothing fun _ _ _ stray => stray.spelled, nothing fun _ _ _ left => left.1.spelled⟩
  | cons piece others ih =>
      cases piece with
      | inl char =>
          obtain ⟨none', cut⟩ := cut
          change Somewhere _ before' (char :: (others.flatMap (redact texts finding)).flatMap spell) ↔
            Somewhere _ before (char :: others.flatMap spell)
          rw [Python.somewhere_cons, Python.somewhere_cons]
          apply or_congr
          · rcases sides with rfl | plain
            · exact stray_first wordly cut none'
            · have nothing {word back text : List Char} (shape : char :: text = word ++ back)
                  (spelled : Spelled Char.isDigit word) : False := by
                obtain ⟨c, _, _, rfl, initial, _⟩ := spelled.initial
                obtain ⟨rfl, _⟩ := List.cons.inj shape
                change Option.any texts.isWord (some char) = false at plain
                rw [Option.any_some, initial_word wordly initial] at plain
                cases plain
              constructor
              · rintro ⟨word, back, shape, stray⟩
                exact (nothing shape stray.spelled).elim
              · rintro ⟨word, back, shape, stray, _⟩
                exact (nothing shape stray.spelled).elim
          · exact ih cut (.inl rfl)
      | inr taken =>
          obtain ⟨_, citation⟩ := (citationMatcher_some wordly).mp cut.1
          have first : Somewhere (Overlooked texts finding) before
              (taken ++ others.flatMap spell) ↔ _ :=
            somewhere_match wordly citation.spelled fun _ _ _ left => left.1.spelled
          obtain rfl : before' = before := by
            rcases sides with same | plain
            · exact same
            · obtain ⟨c, _, _, rfl, initial, _⟩ := citation.spelled.initial
              change Option.any texts.isWord (some c) = false at plain
              rw [Option.any_some, initial_word wordly initial] at plain
              cases plain
          change Somewhere _ _ (((redact texts finding (.inr taken)) ++
            others.flatMap (redact texts finding)).flatMap spell) ↔
              Somewhere _ _ (taken ++ others.flatMap spell)
          rw [first]
          by_cases supported : Supported texts finding taken
          · have plain : ((others.flatMap (redact texts finding)).flatMap spell).head?.any
                texts.isWord = false := by
              obtain ⟨last, final, _⟩ := citation.spelled.last
              have cut' := cut.2
              rw [final] at cut'
              exact head_redact wordly cut' citation.after
            have first' : Somewhere (Stray texts finding) before'
                (taken ++ (others.flatMap (redact texts finding)).flatMap spell) ↔ _ :=
              somewhere_match wordly citation.spelled fun _ _ _ stray => stray.spelled
            rw [redact, if_pos supported]
            change Somewhere _ _ (taken ++ (others.flatMap (redact texts finding)).flatMap spell) ↔ _
            rw [first']
            exact or_congr (citation.stray_supported wordly supported plain) (ih cut.2 (.inl rfl))
          · rw [redact, if_neg supported, List.flatMap_append, Python.spell_plain,
              somewhere_uncited (fun _ _ _ stray => stray.spelled) (by decide),
              or_iff_right (citation.not_overlooked wordly supported)]
            exact ih cut.2 (.inr citation.after)

/-- No identifier that the finding does not have is left, if and only if the pattern matches each
of them in the text, with its digits and no word beside, and what it matches is not the finding's
either. -/
theorem unsupported_removed_iff (wordly : texts.Wordly) (text : String)
    (finding : EnrichmentInput) :
    (∀ front identifier back,
        (checkCitations texts text finding).text.toList = front ++ (identifier ++ back) →
        Occurrence front.getLast? identifier back → Supported texts finding identifier) ↔
      ∀ front identifier back, text.toList = front ++ (identifier ++ back) →
        Occurrence front.getLast? identifier back → Supported texts finding identifier ∨
          Matched texts front.getLast? back ∧
            ¬Supported texts finding (identifier ++ back.takeWhile texts.isDigit) := by
  have takes := citationMatcher_takes wordly
  obtain ⟨found, whole, cut⟩ : ∃ found : List Piece, found.flatMap spell = text.toList ∧
      Cut (citationMatcher texts) none found :=
    ⟨_, Python.pieces_cut takes (le_refl text.toList.length)⟩
  have strays := @stray_redact_iff _ finding _ none _ wordly cut (.inl rfl)
  rw [checkCitations_eq wordly cut whole, String.toList_ofList]
  rw [whole] at strays
  constructor
  · intro clean front identifier back shape occurrence
    by_contra left
    rw [not_or] at left
    have overlooked : Overlooked texts finding (front.getLast?.or none) identifier back := by
      rw [Option.or_none]
      exact ⟨⟨occurrence, left.1⟩, left.2⟩
    obtain ⟨front', identifier', back', shape', stray⟩ :=
      strays.mpr ⟨front, identifier, back, shape, overlooked⟩
    rw [Option.or_none] at stray
    exact stray.2 (clean front' identifier' back' shape' stray.1)
  · intro clean front identifier back shape occurrence
    by_contra unsupported
    have stray : Stray texts finding (front.getLast?.or none) identifier back := by
      rw [Option.or_none]
      exact ⟨occurrence, unsupported⟩
    obtain ⟨front', identifier', back', shape', stray', kept⟩ :=
      strays.mp ⟨front, identifier, back, shape, stray⟩
    rw [Option.or_none] at stray' kept
    rcases clean front' identifier' back' shape' stray'.1 with supported | replaced
    · exact stray'.2 supported
    · exact kept replaced

end

theorem unsupported_removed_iff_fixed :
    ¬∃ front identifier back, "Fix CWE-79.".toList = front ++ (identifier ++ back) ∧
      Overlooked plainTexts oldFinding front.getLast? identifier back := by
  rintro ⟨front, identifier, back, shape, ⟨occurrence, unsupported⟩, kept⟩
  have clean : ∀ front identifier back,
      (checkCitations plainTexts "Fix CWE-79." oldFinding).text.toList =
        front ++ (identifier ++ back) →
      Occurrence front.getLast? identifier back → Supported plainTexts oldFinding identifier := by
    intro front identifier back shape occurrence
    obtain ⟨_, _, _, rfl, _⟩ := occurrence.spelled.initial
    have result : (checkCitations plainTexts "Fix CWE-79." oldFinding).text.toList =
        "Fix [unverified reference removed].".toList ++ [] := by decide +kernel
    have spelled : ∀ before word back, Occurrence before word back → Spelled Char.isDigit word :=
      fun _ _ _ occurrence => occurrence.spelled
    rw [result] at shape
    rw [← Option.or_none (o := front.getLast?)] at occurrence
    obtain ⟨front', _, back', shape', found⟩ :=
      (somewhere_uncited spelled (by decide)).mp ⟨front, _, back, shape, occurrence⟩
    obtain ⟨_, _, _, rfl, _⟩ := found.spelled.initial
    cases (List.append_eq_nil_iff.mp shape'.symm).2
  rcases (unsupported_removed_iff plainTexts_wordly "Fix CWE-79." oldFinding).mp clean front
      identifier back shape occurrence with supported | replaced
  · exact unsupported supported
  · exact kept replaced

/-- An underscore is a word character. -/
theorem emphasised_survives :
    ∃ front identifier back,
      (checkCitations plainTexts "_CWE-89_" oldFinding).text.toList =
        front ++ (identifier ++ back) ∧
      Occurrence front.getLast? identifier back ∧ ¬Supported plainTexts oldFinding identifier := by
  refine ⟨['_'], "CWE-89".toList, ['_'], by decide +kernel, ⟨rfl, ?_, rfl⟩, by decide +kernel⟩
  exact @Spelled.cwe _ _ _ _ ['8', '9'] rfl rfl rfl (by decide) (Python.each_of_all rfl)

end Enrichment
