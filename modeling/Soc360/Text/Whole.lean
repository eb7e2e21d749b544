import Soc360.Text.Regex

set_option autoImplicit false

/-! Patterns that take the whole of a text, and patterns that are blind to a change of characters. -/

namespace Regex

variable {accepts : Char → Bool} {body other : Regex} {text rest word : List Char}
  {least most count : Nat}

/-- `^body$` where `$` stands at the end of the text only. -/
def matchesWhole (body : Regex) (text : List Char) : Bool := (body.rests text).any List.isEmpty

theorem matchesWhole_iff : body.matchesWhole text = true ↔ [] ∈ body.rests text := by
  simp only [matchesWhole, List.any_eq_true, List.isEmpty_iff, exists_eq_right]

theorem matchesWhole_alphabet (whole : body.matchesWhole text = true) :
    ∀ char ∈ text, body.alphabet char = true := by
  obtain ⟨taken, shape, inside⟩ := rests_takes (matchesWhole_iff.mp whole)
  rw [List.append_nil] at shape
  rw [shape]
  exact inside

/-- A `$` that also stands before a last newline, in a text without one. -/
theorem matchesStart_stop (unended : text.getLast? ≠ some '\n') :
    (seq body stop).matchesStart text = true ↔ body.matchesWhole text = true := by
  rw [matches_iff, matchesWhole_iff]
  constructor
  · rintro ⟨rest, left⟩
    obtain ⟨left, ends, taken, shape, _⟩ := seq_stop left
    rcases ends with rfl | rfl
    · exact left
    · rw [shape, List.getLast?_concat] at unended
      exact absurd rfl unended
  · intro left
    exact ⟨[], mem_seq.mpr ⟨[], left, mem_stop.mpr ⟨rfl, .inl rfl⟩⟩⟩

theorem matchesStart_ahead : (seq (ahead body) other).matchesStart text = true ↔
    body.matchesStart text = true ∧ other.matchesStart text = true := by
  rw [matches_iff, matches_iff, matches_iff]
  constructor
  · rintro ⟨rest, left⟩
    obtain ⟨middle, looked, left⟩ := mem_seq.mp left
    cases mem_ahead looked
    refine ⟨?_, rest, left⟩
    rw [rests] at looked
    split at looked
    next => cases looked
    next some' => exact List.exists_mem_of_ne_nil _ some'
  · rintro ⟨⟨front, found⟩, rest, left⟩
    refine ⟨rest, mem_seq.mpr ⟨text, ?_, left⟩⟩
    rw [rests, if_neg (List.ne_nil_of_mem found)]
    exact List.mem_singleton_self _

theorem mem_literal_iff {word : String} :
    rest ∈ (literal word).rests text ↔ text = word.toList ++ rest := by
  constructor
  · exact fun left => mem_literal left
  · rintro rfl
    unfold literal
    generalize word.toList = letters
    induction letters with
    | nil => exact List.mem_singleton_self _
    | cons letter letters ih =>
        exact mem_seq.mpr ⟨letters ++ rest, mem_chars.mpr ⟨letter, rfl, BEq.rfl⟩, ih⟩

/-! Bounded repetitions of single characters. -/

theorem mem_times_chars : rest ∈ (times (chars accepts) count).rests text ↔
    ∃ word, text = word ++ rest ∧ word.length = count ∧ ∀ char ∈ word, accepts char = true := by
  induction count generalizing text with
  | zero =>
      constructor
      · intro left
        exact ⟨[], (List.mem_singleton.mp left).symm, rfl, by simp⟩
      · rintro ⟨word, rfl, none', _⟩
        rw [List.length_eq_zero_iff.mp none']
        exact List.mem_singleton_self _
  | succ count ih =>
      rw [times, mem_seq]
      constructor
      · rintro ⟨middle, first, others⟩
        obtain ⟨char, rfl, accepted⟩ := mem_chars.mp first
        obtain ⟨word, rfl, long, accepted'⟩ := ih.mp others
        refine ⟨char :: word, rfl, by rw [List.length_cons, long], ?_⟩
        exact List.forall_mem_cons.mpr ⟨accepted, accepted'⟩
      · rintro ⟨word, rfl, long, accepted⟩
        obtain ⟨char, word, rfl⟩ := List.exists_cons_of_length_eq_add_one long
        obtain ⟨accepted, accepted'⟩ := List.forall_mem_cons.mp accepted
        refine ⟨word ++ rest, mem_chars.mpr ⟨char, rfl, accepted⟩, ih.mpr ⟨word, rfl, ?_, accepted'⟩⟩
        exact Nat.succ.inj long

theorem mem_upTo_chars : rest ∈ (upTo (chars accepts) count).rests text ↔
    ∃ word, text = word ++ rest ∧ word.length ≤ count ∧ ∀ char ∈ word, accepts char = true := by
  induction count generalizing text with
  | zero =>
      constructor
      · intro left
        exact ⟨[], (List.mem_singleton.mp left).symm, Nat.le_refl _, by simp⟩
      · rintro ⟨word, rfl, none', _⟩
        rw [List.length_eq_zero_iff.mp (Nat.le_zero.mp none')]
        exact List.mem_singleton_self _
  | succ count ih =>
      constructor
      · intro left
        rcases List.mem_append.mp left with left | left
        · obtain ⟨middle, first, others⟩ := mem_seq.mp left
          obtain ⟨char, rfl, accepted⟩ := mem_chars.mp first
          obtain ⟨word, rfl, short, accepted'⟩ := ih.mp others
          refine ⟨char :: word, rfl, Nat.succ_le_succ short, ?_⟩
          exact List.forall_mem_cons.mpr ⟨accepted, accepted'⟩
        · exact ⟨[], (List.mem_singleton.mp left).symm, Nat.zero_le _, by simp⟩
      · rintro ⟨word, rfl, short, accepted⟩
        cases word with
        | nil => exact List.mem_append_right _ (List.mem_singleton_self _)
        | cons char word =>
            obtain ⟨accepted, accepted'⟩ := List.forall_mem_cons.mp accepted
            refine List.mem_append_left _ (mem_seq.mpr ⟨word ++ rest, ?_, ih.mpr ?_⟩)
            · exact mem_chars.mpr ⟨char, rfl, accepted⟩
            · exact ⟨word, rfl, Nat.le_of_succ_le_succ short, accepted'⟩

theorem mem_between_chars (ordered : least ≤ most) :
    rest ∈ (between (chars accepts) least most).rests text ↔
      ∃ word, text = word ++ rest ∧ (least ≤ word.length ∧ word.length ≤ most) ∧
        ∀ char ∈ word, accepts char = true := by
  rw [between, mem_seq]
  constructor
  · rintro ⟨middle, first, others⟩
    obtain ⟨word, rfl, long, accepted⟩ := mem_times_chars.mp first
    obtain ⟨word', rfl, short, accepted'⟩ := mem_upTo_chars.mp others
    refine ⟨word ++ word', (List.append_assoc _ _ _).symm, ?_, ?_⟩
    · rw [List.length_append]
      omega
    · exact List.forall_mem_append.mpr ⟨accepted, accepted'⟩
  · rintro ⟨word, rfl, ⟨long, short⟩, accepted⟩
    have cut := List.take_append_drop least word
    have inside : ∀ char ∈ word.take least ++ word.drop least, accepts char = true := by
      rw [cut]
      exact accepted
    obtain ⟨before, after⟩ := List.forall_mem_append.mp inside
    refine ⟨word.drop least ++ rest, mem_times_chars.mpr ⟨word.take least, ?_, ?_, before⟩,
      mem_upTo_chars.mpr ⟨word.drop least, rfl, ?_, after⟩⟩
    · rw [← List.append_assoc, cut]
    · rw [List.length_take, Nat.min_eq_left long]
    · rw [List.length_drop]
      omega

theorem matchesWhole_between (ordered : least ≤ most) :
    (between (chars accepts) least most).matchesWhole text = true ↔
      (least ≤ text.length ∧ text.length ≤ most) ∧ ∀ char ∈ text, accepts char = true := by
  rw [matchesWhole_iff, mem_between_chars ordered]
  constructor
  · rintro ⟨word, rfl, held⟩
    rw [List.append_nil]
    exact held
  · intro held
    exact ⟨text, (List.append_nil _).symm, held⟩

/-! A change of characters. -/

/-- What is accepted in place of a character is accepted as that character. -/
def Reflects (image : Char → Char) : Regex → Prop
  | chars accepts => ∀ char, accepts (image char) = true → accepts char = true
  | empty => True
  | seq first second | alt first second => first.Reflects image ∧ second.Reflects image
  | star body | ahead body => body.Reflects image
  | stop => ∀ char, image char = '\n' → char = '\n'

section

variable {image : Char → Char}

theorem Reflects.times (reflects : body.Reflects image) (count : Nat) :
    (times body count).Reflects image := by
  induction count with
  | zero => exact trivial
  | succ count ih => exact ⟨reflects, ih⟩

theorem Reflects.upTo (reflects : body.Reflects image) (count : Nat) :
    (upTo body count).Reflects image := by
  induction count with
  | zero => exact trivial
  | succ count ih => exact ⟨⟨reflects, ih⟩, trivial⟩

theorem Reflects.between (reflects : body.Reflects image) (least most : Nat) :
    (between body least most).Reflects image :=
  ⟨reflects.times least, reflects.upTo (most - least)⟩

theorem turns_image {step : List Char → List (List Char)}
    (back : ∀ {text rest}, rest ∈ step (text.map image) →
      ∃ rest', rest = rest'.map image ∧ rest' ∈ step text)
    {fuel : Nat} (left : rest ∈ turns step fuel (text.map image)) :
    ∃ rest', rest = rest'.map image ∧ rest' ∈ turns step fuel text := by
  induction fuel generalizing text with
  | zero => exact ⟨text, List.mem_singleton.mp left, List.mem_singleton_self _⟩
  | succ fuel ih =>
      rcases mem_turns_succ.mp left with rfl | ⟨middle, taken, shorter, left⟩
      · exact ⟨text, rfl, mem_turns_succ.mpr (.inl rfl)⟩
      · obtain ⟨middle', rfl, taken'⟩ := back taken
        obtain ⟨rest', rfl, left'⟩ := ih left
        rw [List.length_map, List.length_map] at shorter
        exact ⟨rest', rfl, mem_turns_succ.mpr (.inr ⟨middle', taken', shorter, left'⟩)⟩

/-- A match of the changed text comes from a match of the text. -/
theorem rests_image (reflects : body.Reflects image) (left : rest ∈ body.rests (text.map image)) :
    ∃ rest', rest = rest'.map image ∧ rest' ∈ body.rests text := by
  induction body generalizing text rest with
  | chars accepts =>
      obtain ⟨char, shape, accepted⟩ := mem_chars.mp left
      obtain ⟨before, rest', rfl, rfl, rfl⟩ := List.map_eq_cons_iff.mp shape
      exact ⟨rest', rfl, mem_chars.mpr ⟨before, rfl, reflects before accepted⟩⟩
  | empty => exact ⟨text, List.mem_singleton.mp left, List.mem_singleton_self _⟩
  | seq first second ihFirst ihSecond =>
      obtain ⟨middle, taken, left⟩ := mem_seq.mp left
      obtain ⟨middle', rfl, taken'⟩ := ihFirst reflects.1 taken
      obtain ⟨rest', rfl, left'⟩ := ihSecond reflects.2 left
      exact ⟨rest', rfl, mem_seq.mpr ⟨middle', taken', left'⟩⟩
  | alt first second ihFirst ihSecond =>
      rcases List.mem_append.mp left with left | left
      · obtain ⟨rest', same, left⟩ := ihFirst reflects.1 left
        exact ⟨rest', same, List.mem_append_left _ left⟩
      · obtain ⟨rest', same, left⟩ := ihSecond reflects.2 left
        exact ⟨rest', same, List.mem_append_right _ left⟩
  | star body ih =>
      rw [rests, List.length_map] at left
      rw [rests]
      exact turns_image (ih reflects) left
  | stop =>
      obtain ⟨rfl, ends⟩ := mem_stop.mp left
      refine ⟨text, rfl, mem_stop.mpr ⟨rfl, ?_⟩⟩
      rcases ends with ends | ends
      · exact .inl (List.map_eq_nil_iff.mp ends)
      · obtain ⟨before, others, rfl, newline, none'⟩ := List.map_eq_cons_iff.mp ends
        rw [reflects before newline, List.map_eq_nil_iff.mp none']
        exact .inr rfl
  | ahead body ih =>
      rw [rests] at left
      split at left
      next => cases left
      next some' =>
        obtain ⟨front, found⟩ := List.exists_mem_of_ne_nil _ some'
        obtain ⟨front', _, found'⟩ := ih reflects found
        refine ⟨text, List.mem_singleton.mp left, ?_⟩
        rw [rests, if_neg (List.ne_nil_of_mem found')]
        exact List.mem_singleton_self _

theorem matchesWhole_image (reflects : body.Reflects image)
    (whole : body.matchesWhole (text.map image) = true) : body.matchesWhole text = true := by
  obtain ⟨rest, none', left⟩ := rests_image reflects (matchesWhole_iff.mp whole)
  rw [List.map_eq_nil_iff.mp none'.symm] at left
  exact matchesWhole_iff.mpr left

end

end Regex
