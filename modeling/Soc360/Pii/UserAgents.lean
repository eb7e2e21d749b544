import Soc360.Auth.LoginEvents
import Soc360.Text.Hyphens

set_option autoImplicit false

/-! What a login event says of the User-Agent. -/

namespace Pii

open Auth.Logins (isReplaced sanitizeUserAgent)
open Hyphens (Groups Marked collapseTo marked_iff stays words)
open Python (isSpace)

/-- The control characters of Unicode. -/
def isControl (char : Char) : Bool :=
  char.toNat ≤ 0x1f || 0x7f ≤ char.toNat && char.toNat ≤ 0x9f

def clean (char : Char) : Char := if isReplaced char then ' ' else char

def separates (char : Char) : Bool := isReplaced char || isSpace char

/-- The parts of a User-Agent between whitespace and replaced characters. -/
def agentWords (text : List Char) : List (List Char) := words separates text

/-- The parts with a space between two of them. -/
def spaced (words : List (List Char)) : List Char := [' '].intercalate words

/-- A text as it is after sanitising. -/
structure Tidy (text : List Char) : Prop where
  length : 1 ≤ text.length ∧ text.length ≤ 256
  head : ∀ char ∈ text.head?, isSpace char = false
  last : ∀ char ∈ text.getLast?, isSpace char = false
  apart : ∀ front char next back, text = front ++ char :: next :: back →
    isSpace char = false ∨ isSpace next = false
  plain : ∀ char ∈ text, isSpace char = true → char = ' '
  printable : ∀ char ∈ text, isControl char = false

/-- No gap between two parts falls on the last of the characters that are kept, and no control
character on one of them. -/
structure Kept (text : List Char) : Prop where
  uncut : ∀ front back, agentWords text = front ++ back → front ≠ [] → back ≠ [] →
    (spaced front).length ≠ 255
  printable : ∀ front head char tail back,
    agentWords text = front ++ (head ++ char :: tail) :: back → isControl char = true →
      256 ≤ (spaced (front ++ [head])).length

section

variable {char : Char} {text : List Char}

theorem isSpace_clean (char : Char) : isSpace (clean char) = separates char := by
  rw [clean, separates]
  split
  next replaced =>
    rw [replaced, Bool.true_or]
    rfl
  next kept => rw [Bool.eq_false_iff.mpr kept, Bool.false_or]

theorem stays_iff : stays separates char = true ↔ isReplaced char = false ∧ isSpace char = false := by
  rw [stays, separates, Bool.not_eq_true', Bool.or_eq_false_iff]

theorem clean_stays (kept : stays separates char = true) : clean char = char := by
  rw [clean, (stays_iff.mp kept).1]
  rfl

theorem separates_space : separates ' ' = true := rfl

theorem stays_space : stays separates ' ' = false := rfl

theorem agentWords_groups (text : List Char) : Groups (stays separates) (agentWords text) :=
  Hyphens.words_groups text

theorem marked_spaced {text : List Char} (some' : agentWords text ≠ []) :
    Marked ' ' (stays separates) (spaced (agentWords text)) :=
  marked_iff.mpr ⟨_, some', agentWords_groups text, rfl⟩

/-- The parts, with a space between two of them, up to the cut. -/
theorem sanitizeUserAgent_some (userAgent : String) :
    sanitizeUserAgent (some userAgent) =
      if agentWords userAgent.toList = [] then none
      else some (String.ofList ((spaced (agentWords userAgent.toList)).take 256)) := by
  have cleaned : Python.strip (Python.sub (Python.runOf isSpace 1) (fun _ => [' '])
      (userAgent.toList.map clean)) = spaced (agentWords userAgent.toList) := by
    have trimmed : (collapseTo ' ' isSpace (userAgent.toList.map clean)).trim isSpace =
        spaced (words isSpace (userAgent.toList.map clean)) :=
      Hyphens.trim_collapseTo rfl (fun _ hit => hit) _
    rw [Hyphens.words_map isSpace_clean fun _ => clean_stays] at trimmed
    rw [Hyphens.sub_runOf_eq]
    exact trimmed
  change (if Python.strip (Python.sub (Python.runOf isSpace 1) (fun _ => [' '])
      (userAgent.toList.map clean)) = [] then none
    else some (String.ofList ((Python.strip (Python.sub (Python.runOf isSpace 1) (fun _ => [' '])
      (userAgent.toList.map clean))).take 256))) = _
  rw [cleaned]
  by_cases empty : agentWords userAgent.toList = []
  · rw [if_pos empty, empty]
    rfl
  · rw [if_neg empty, if_neg (marked_spaced empty).ne_nil]

/-- What is tidy but for control characters stays as it is. -/
theorem sanitizeUserAgent_marked (marked : Marked ' ' (stays separates) text)
    (short : text.length ≤ 256) :
    sanitizeUserAgent (some (String.ofList text)) = some (String.ofList text) := by
  obtain ⟨groups, solid, all, rfl⟩ := marked_iff.mp marked
  have same : agentWords ([' '].intercalate groups) = groups :=
    Hyphens.words_intercalate separates_space all
  rw [sanitizeUserAgent_some, String.toList_ofList, same, if_neg solid, spaced,
    List.take_of_length_le short]

/-- A cut that ends in a space is a gap between two parts. -/
theorem cut_space (ended : ((spaced (agentWords text)).take 256).getLast? = some ' ') :
    ∃ front back, agentWords text = front ++ back ∧ front ≠ [] ∧ back ≠ [] ∧
      (spaced front).length = 255 := by
  have groups := agentWords_groups text
  obtain ⟨before, shape⟩ := List.getLast?_eq_some_iff.mp ended
  have whole : spaced (agentWords text) =
      before ++ ' ' :: (spaced (agentWords text)).drop 256 := by
    conv_lhs => rw [← List.take_append_drop 256 (spaced (agentWords text)), shape]
    rw [List.append_assoc, List.singleton_append]
  have size : min 256 (spaced (agentWords text)).length = before.length + 1 := by
    rw [← List.length_take, shape, List.length_append, List.length_singleton]
  rcases Joined.intercalate_eq_append_cons.mp whole with
    ⟨front, back, split, solid, solid', _, rfl, after⟩ | ⟨front, head, tail, back, split, _, _⟩
  · refine ⟨front, back, split, solid, solid', ?_⟩
    have later : Groups (stays separates) back := by
      intro group member
      apply groups
      rw [split]
      exact List.mem_append_right _ member
    have more := (marked_iff.mpr ⟨back, solid', later, after⟩).ne_nil
    have longer := List.length_pos_iff.mpr more
    rw [List.length_drop] at longer
    change ([' '].intercalate front).length = 255
    omega
  · rw [split] at groups
    have inside := (groups _ (List.mem_append_right _ List.mem_cons_self)).2 ' '
      (List.mem_append_right _ List.mem_cons_self)
    rw [stays_space] at inside
    cases inside

/-- Where no gap falls on the cut, parts are left. -/
theorem cut_marked (some' : agentWords text ≠ []) (kept : Kept text) :
    Marked ' ' (stays separates) ((spaced (agentWords text)).take 256) := by
  apply (marked_spaced some').take (by decide)
  intro ended
  obtain ⟨front, back, split, solid, solid', size⟩ := cut_space ended
  exact kept.uncut front back split solid solid' size

theorem tidy_iff (some' : agentWords text ≠ []) :
    Tidy ((spaced (agentWords text)).take 256) ↔ Kept text := by
  constructor
  · intro tidy
    refine ⟨?_, ?_⟩
    · intro front back split solid solid' size
      have whole : spaced (agentWords text) = spaced front ++ ' ' :: spaced back := by
        rw [split]
        exact Joined.intercalate_append solid solid'
      have ended : ((spaced (agentWords text)).take 256).getLast? = some ' ' := by
        rw [whole, List.take_append, size, List.take_of_length_le (by omega)]
        exact List.getLast?_concat
      have word := tidy.last ' ' ended
      cases word
    · intro front head char tail back split control
      apply Nat.not_lt.mp
      intro early
      have whole : spaced (agentWords text) =
          spaced (front ++ [head]) ++ char :: spaced (tail :: back) :=
        Joined.intercalate_eq_append_cons.mpr (.inr ⟨front, head, tail, back, split, rfl, rfl⟩)
      have member : char ∈ (spaced (agentWords text)).take 256 := by
        have room : 256 - (spaced (front ++ [head])).length ≠ 0 := by omega
        obtain ⟨more, room⟩ := Nat.exists_eq_succ_of_ne_zero room
        rw [whole, List.take_append, room, List.take_succ_cons]
        exact List.mem_append_right _ List.mem_cons_self
      rw [tidy.printable char member] at control
      cases control
  · intro kept
    have cut := cut_marked some' kept
    refine ⟨⟨List.length_pos_iff.mpr cut.ne_nil, List.length_take_le _ _⟩, ?_, ?_, ?_, ?_, ?_⟩
    · intro char member
      obtain ⟨first, head, stayed⟩ := cut.head
      rw [head] at member
      cases member
      exact (stays_iff.mp stayed).2
    · intro char member
      obtain ⟨last, ended, stayed⟩ := cut.getLast
      rw [ended] at member
      cases member
      exact (stays_iff.mp stayed).2
    · intro front char next back shape
      rcases cut.apart shape with stayed | stayed
      · exact .inl (stays_iff.mp stayed).2
      · exact .inr (stays_iff.mp stayed).2
    · intro char member space
      rcases cut.mem member with same | stayed
      · exact same
      · rw [(stays_iff.mp stayed).2] at space
        cases space
    · intro char member
      apply Bool.eq_false_iff.mpr
      intro control
      obtain ⟨before, after, shape⟩ := List.append_of_mem member
      have whole : spaced (agentWords text) =
          before ++ char :: (after ++ (spaced (agentWords text)).drop 256) := by
        conv_lhs => rw [← List.take_append_drop 256 (spaced (agentWords text)), shape]
        rw [List.append_assoc, List.cons_append]
      have size : before.length < 256 := by
        have within := List.length_take_le 256 (spaced (agentWords text))
        rw [shape, List.length_append, List.length_cons] at within
        omega
      rcases Joined.intercalate_eq_append_cons.mp whole with
        ⟨_, _, _, _, _, same, _, _⟩ | ⟨front, head, tail, back, split, rfl, _⟩
      · rw [same] at control
        cases control
      · exact absurd size (Nat.not_lt.mpr (kept.printable front head char tail back split control))

theorem agentWords_gap {group rest : List Char} (solid : group ≠ [])
    (kept : ∀ char ∈ group, stays separates char = true) :
    agentWords (group ++ ' ' :: rest) = group :: agentWords rest := by
  have ended : ∀ char ∈ (' ' :: rest).head?, stays separates char = false := by
    intro char member
    cases member
    exact stays_space
  rw [agentWords, Hyphens.words_group solid kept ended, Hyphens.words_cons_pos separates_space,
    agentWords]

/-- A part that is one short of the cut keeps the space after it, which a second pass takes away. -/
theorem sanitizeUserAgent_gap {group rest : List Char} (size : group.length = 255)
    (kept : ∀ char ∈ group, stays separates char = true) (more : agentWords rest ≠ []) :
    sanitizeUserAgent (some (String.ofList (group ++ ' ' :: rest))) =
        some (String.ofList (group ++ [' '])) ∧
      sanitizeUserAgent (some (String.ofList (group ++ [' ']))) = some (String.ofList group) := by
  have solid : group ≠ [] := by
    intro empty
    rw [empty] at size
    cases size
  constructor
  · have cut : (spaced (group :: agentWords rest)).take 256 = group ++ [' '] := by
      rw [spaced, Joined.intercalate_cons more, List.take_append, size,
        List.take_of_length_le (by omega)]
      rfl
    rw [sanitizeUserAgent_some, String.toList_ofList, agentWords_gap solid kept,
      if_neg (List.cons_ne_nil _ _), cut]
  · have nothing : agentWords [] = [] := Hyphens.words_of_nil rfl
    rw [sanitizeUserAgent_some, String.toList_ofList, agentWords_gap solid kept, nothing,
      if_neg (List.cons_ne_nil _ _), spaced, List.intercalate_singleton,
      List.take_of_length_le (by omega)]

/-- A User-Agent is sanitised to a tidy text, and only once, if and only if no gap and no control
character is where it is cut. -/
theorem sanitizeUserAgent_projects_iff (userAgent : Option String) :
    ((∀ sanitized ∈ sanitizeUserAgent userAgent, Tidy sanitized.toList) ∧
      sanitizeUserAgent (sanitizeUserAgent userAgent) = sanitizeUserAgent userAgent) ↔
    ∀ text ∈ userAgent, Kept text.toList := by
  cases userAgent with
  | none =>
    constructor
    · intro _ text member
      cases member
    · intro _
      refine ⟨?_, rfl⟩
      intro sanitized member
      cases member
  | some text =>
    by_cases empty : agentWords text.toList = []
    · rw [sanitizeUserAgent_some, if_pos empty]
      constructor
      · rintro _ text' ⟨⟩
        refine ⟨?_, ?_⟩
        · intro front back split solid
          rw [empty] at split
          exact absurd (List.append_eq_nil_iff.mp split.symm).1 solid
        · intro front head char tail back split
          rw [empty] at split
          exact absurd split.symm (by simp)
      · intro _
        refine ⟨?_, rfl⟩
        intro sanitized member
        cases member
    · rw [sanitizeUserAgent_some, if_neg empty]
      constructor
      · rintro ⟨tidy, _⟩ text' ⟨⟩
        have tidy' := tidy _ rfl
        rw [String.toList_ofList] at tidy'
        exact (tidy_iff empty).mp tidy'
      · intro kept
        have kept' := kept text rfl
        refine ⟨?_, sanitizeUserAgent_marked (cut_marked empty kept') (List.length_take_le _ _)⟩
        rintro sanitized ⟨⟩
        rw [String.toList_ofList]
        exact (tidy_iff empty).mpr kept'

end

/-- A gap at the cut, and a control character past the ASCII ones. -/
theorem gap_at_cut :
    (∃ sanitized, sanitizeUserAgent (some (String.ofList (List.replicate 255 'x' ++ [' ', 'y']))) =
        some sanitized ∧ ¬Tidy sanitized.toList ∧
      sanitizeUserAgent (some sanitized) ≠ some sanitized) ∧
    ∃ sanitized, sanitizeUserAgent (some "x\u0099") = some sanitized ∧ ¬Tidy sanitized.toList := by
  have kept : ∀ char ∈ List.replicate 255 'x', stays separates char = true := by
    intro char member
    rw [List.eq_of_mem_replicate member]
    rfl
  have word : agentWords ['y'] ≠ [] := by
    rw [agentWords, Hyphens.words_of_cons rfl]
    exact List.cons_ne_nil _ _
  obtain ⟨once, twice⟩ := sanitizeUserAgent_gap List.length_replicate kept word
  refine ⟨⟨_, once, ?_, ?_⟩, "x\u0099", by decide +kernel, ?_⟩
  · intro tidy
    rw [String.toList_ofList] at tidy
    have solid := tidy.last ' ' List.getLast?_concat
    cases solid
  · rw [twice]
    intro same
    have size := congrArg List.length (String.ofList_inj.mp (Option.some.inj same))
    rw [List.length_append, List.length_singleton] at size
    omega
  · intro tidy
    have printable := tidy.printable '\u0099' (by decide +kernel)
    cases printable

end Pii
