import Soc360.Text.Numerals
import Soc360.Text.Trim

set_option autoImplicit false

/-! The URL parser of a browser for a text that begins with a slash, against a base of a special
scheme that has no path of its own. What it makes of a host and its port is a parameter. -/

namespace Urls

/-- The C0 control percent-encode set. -/
def isControl (char : Char) : Bool := char.toNat ≤ 0x1f || 0x7e < char.toNat

/-- The fragment percent-encode set. -/
def inFragmentSet (char : Char) : Bool := isControl char || char ∈ [' ', '"', '<', '>', '\x60']

/-- The special-query percent-encode set. -/
def inQuerySet (char : Char) : Bool := isControl char || char ∈ [' ', '"', '#', '<', '>', '\'']

/-- The path percent-encode set. -/
def inPathSet (char : Char) : Bool :=
  isControl char || char ∈ [' ', '"', '#', '<', '>', '?', '^', '\x60', '{', '}']

def isSlash (char : Char) : Bool := char = '/' || char = '\\'

/-- A path stops at these, beside its end. -/
def isStop (char : Char) : Bool := char = '?' || char = '#'

/-- A byte, percent-encoded. -/
def percent (byte : UInt8) : List Char := '%' :: (Numerals.padded 16 2 byte.toNat).map Char.toUpper

/-- UTF-8 percent-encode a code point using a set. -/
def encode (inSet : Char → Bool) (char : Char) : List Char :=
  if inSet char then (String.utf8EncodeChar char).flatMap percent else [char]

def isSingleDot (segment : List Char) : Bool :=
  [['.'], ['%', '2', 'e']].contains (segment.map Char.toLower)

def isDoubleDot (segment : List Char) : Bool :=
  [['.', '.'], ['.', '%', '2', 'e'], ['%', '2', 'e', '.'], ['%', '2', 'e', '%', '2', 'e']].contains
    (segment.map Char.toLower)

structure Parts where
  path : List (List Char)
  query : Option (List Char)
  fragment : Option (List Char)
  deriving DecidableEq

/-- The end of a segment, at a slash or not. -/
def close (path : List (List Char)) (segment : List Char) (slash : Bool) : List (List Char) :=
  if isDoubleDot segment then path.dropLast ++ if slash then [] else [[]]
  else if isSingleDot segment then path ++ if slash then [] else [[]]
  else path ++ [segment]

/-- The fragment state, from its mark on. -/
def fragmentOf : List Char → Option (List Char)
  | '#' :: rest => some (rest.flatMap (encode inFragmentSet))
  | _ => none

/-- The query state, from its mark on. -/
def queryOf : List Char → Option (List Char)
  | '?' :: rest => some ((rest.takeWhile (· != '#')).flatMap (encode inQuerySet))
  | _ => none

/-- The path state. -/
def inPath (path : List (List Char)) (buffer : List Char) : List Char → Parts
  | [] => ⟨close path buffer false, none, none⟩
  | char :: rest =>
      if isSlash char then inPath (close path buffer true) [] rest
      else if isStop char then
        ⟨close path buffer false, queryOf (char :: rest),
          fragmentOf ((char :: rest).dropWhile (· != '#'))⟩
      else inPath path (buffer ++ encode inPathSet char) rest

/-- What the parser does to its input before it begins. -/
def clean (input : List Char) : List Char :=
  (input.trim fun char => char.toNat ≤ 0x20).filter fun char =>
    !(char = '\t' || char = '\n' || char = '\r')

/-- The parser, for an input that begins with a slash: a second one makes it name a host. -/
def parse {Origin : Type} (authority : List Char → Option Origin) (base : Origin)
    (input : List Char) : Option (Origin × Parts) :=
  match clean input with
  | '/' :: rest =>
      if (rest.head?.any isSlash) then
        let rest := rest.dropWhile isSlash
        let ends (char : Char) : Bool := isSlash char || isStop char
        let after := rest.dropWhile fun char => !ends char
        let after := if after.head?.any isSlash then after.tail else after
        (authority (rest.takeWhile fun char => !ends char)).map fun origin =>
          (origin, inPath [] [] after)
      else some (base, inPath [] [] rest)
  | _ => none

/-- A segment that the path state leaves as it is. -/
def Kept (segment : List Char) : Prop :=
  (∀ char ∈ segment, inPathSet char = false ∧ isSlash char = false) ∧
    isSingleDot segment = false ∧ isDoubleDot segment = false

namespace Parts

variable (parts : Parts)

def pathname : List Char := parts.path.flatMap fun segment => '/' :: segment

def search : List Char :=
  match parts.query with
  | none | some [] => []
  | some query => '?' :: query

def hash : List Char :=
  match parts.fragment with
  | none | some [] => []
  | some fragment => '#' :: fragment

def href : List Char := parts.pathname ++ parts.search ++ parts.hash

/-- The same text is read back without an empty query or fragment. -/
def normal : Parts :=
  ⟨parts.path, parts.query.filter (· ≠ []), parts.fragment.filter (· ≠ [])⟩

/-- What the parser leaves nothing to encode in. -/
structure Canonical : Prop where
  path : parts.path ≠ []
  segments : ∀ segment ∈ parts.path, Kept segment
  query : ∀ query, parts.query = some query → ∀ char ∈ query, inQuerySet char = false
  fragment : ∀ fragment, parts.fragment = some fragment → ∀ char ∈ fragment,
    inFragmentSet char = false

end Parts

section

variable {char first : Char} {text rest : List Char} {path : List (List Char)} {segment : List Char}
  {inSet : Char → Bool}

/-- What a byte is encoded to is made of these. -/
def marks : List Char :=
  ['%', '0', '1', '2', '3', '4', '5', '6', '7', '8', '9', 'A', 'B', 'C', 'D', 'E', 'F']

theorem mem_percent {byte : UInt8} (member : char ∈ percent byte) : char ∈ marks := by
  have upper : ∀ digit < 16, (Nat.digitChar digit).toUpper ∈ marks := by decide
  rcases List.mem_cons.mp member with rfl | member
  · exact List.mem_cons_self
  · obtain ⟨lower, listed, rfl⟩ := List.mem_map.mp member
    obtain ⟨digit, small, rfl⟩ := Numerals.mem_padded (by decide) listed
    exact upper digit small

/-- A set that spares what it encodes to. -/
def Spares (inSet : Char → Bool) : Prop := (marks.all fun char => !inSet char) = true

theorem Spares.outside (spares : Spares inSet) (member : char ∈ marks) : inSet char = false := by
  have spared := List.all_eq_true.mp spares char member
  rwa [Bool.not_eq_true'] at spared

theorem spares_path : Spares inPathSet ∧ Spares isSlash := ⟨rfl, rfl⟩

theorem spares_query : Spares inQuerySet := rfl

theorem spares_fragment : Spares inFragmentSet := rfl

theorem mem_encode (spares : Spares inSet) (member : char ∈ encode inSet first) :
    inSet char = false := by
  unfold encode at member
  split at member
  next =>
    obtain ⟨byte, _, inside⟩ := List.mem_flatMap.mp member
    exact spares.outside (mem_percent inside)
  next outside =>
    rw [List.mem_singleton.mp member]
    exact Bool.eq_false_iff.mpr outside

/-- What is not a slash is encoded to no slash. -/
theorem slash_encode (apart : isSlash first = false) (member : char ∈ encode inSet first) :
    isSlash char = false := by
  unfold encode at member
  split at member
  next =>
    obtain ⟨byte, _, inside⟩ := List.mem_flatMap.mp member
    exact spares_path.2.outside (mem_percent inside)
  next =>
    rw [List.mem_singleton.mp member]
    exact apart

theorem encode_self (outside : inSet char = false) : encode inSet char = [char] := by
  unfold encode
  rw [outside]
  rfl

theorem encodes_self (outside : ∀ char ∈ text, inSet char = false) :
    text.flatMap (encode inSet) = text := by
  induction text with
  | nil => rfl
  | cons first text ih =>
    rw [List.flatMap_cons, encode_self (outside first List.mem_cons_self),
      ih fun char member => outside char (List.mem_cons_of_mem _ member)]
    rfl

theorem mem_encodes (spares : Spares inSet) (member : char ∈ text.flatMap (encode inSet)) :
    inSet char = false := by
  obtain ⟨first, _, inside⟩ := List.mem_flatMap.mp member
  exact mem_encode spares inside

theorem kept_nil : Kept [] := ⟨nofun, rfl, rfl⟩

theorem kept_close {slash : Bool} (kept : ∀ segment ∈ path, Kept segment)
    (plain : ∀ char ∈ segment, inPathSet char = false ∧ isSlash char = false) :
    ∀ other ∈ close path segment slash, Kept other := by
  intro other member
  unfold close at member
  split at member
  next =>
    rcases List.mem_append.mp member with member | member
    · exact kept other (List.dropLast_subset _ member)
    · split at member
      next => cases member
      next =>
        rw [List.mem_singleton.mp member]
        exact kept_nil
  next double =>
    split at member
    next =>
      rcases List.mem_append.mp member with member | member
      · exact kept other member
      · split at member
        next => cases member
        next =>
          rw [List.mem_singleton.mp member]
          exact kept_nil
    next single =>
      rcases List.mem_append.mp member with member | member
      · exact kept other member
      · rw [List.mem_singleton.mp member]
        exact ⟨plain, Bool.eq_false_iff.mpr single, Bool.eq_false_iff.mpr double⟩

theorem close_ne_nil : close path segment false ≠ [] := by
  unfold close
  split
  next => exact List.append_ne_nil_of_right_ne_nil _ (List.cons_ne_nil _ _)
  next =>
    split
    next => exact List.append_ne_nil_of_right_ne_nil _ (List.cons_ne_nil _ _)
    next => exact List.append_ne_nil_of_right_ne_nil _ (List.cons_ne_nil _ _)

theorem queryOf_kept {query : List Char} (found : queryOf text = some query) :
    ∀ char ∈ query, inQuerySet char = false := by
  unfold queryOf at found
  split at found
  next =>
    cases found
    intro char member
    exact mem_encodes spares_query member
  next => cases found

theorem fragmentOf_kept {fragment : List Char} (found : fragmentOf text = some fragment) :
    ∀ char ∈ fragment, inFragmentSet char = false := by
  unfold fragmentOf at found
  split at found
  next =>
    cases found
    intro char member
    exact mem_encodes spares_fragment member
  next => cases found

/-- The path state leaves nothing to encode. -/
theorem inPath_canonical (kept : ∀ segment ∈ path, Kept segment)
    (plain : ∀ char ∈ segment, inPathSet char = false ∧ isSlash char = false) :
    (inPath path segment text).Canonical := by
  induction text generalizing path segment with
  | nil => exact ⟨close_ne_nil, kept_close kept plain, nofun, nofun⟩
  | cons char text ih =>
    unfold inPath
    split
    next => exact ih (kept_close kept plain) fun char member => nomatch member
    next apart =>
      split
      next =>
        exact ⟨close_ne_nil, kept_close kept plain, fun _ => queryOf_kept,
          fun _ => fragmentOf_kept⟩
      next =>
        refine ih kept ?_
        intro other member
        rcases List.mem_append.mp member with member | member
        · exact plain other member
        · exact ⟨mem_encode spares_path.1 member,
            slash_encode (Bool.eq_false_iff.mpr apart) member⟩

theorem visible {listed : List Char} (outside : (isControl char || char ∈ listed) = false)
    (space : ' ' ∈ listed) : 0x20 < char.toNat := by
  rw [Bool.or_eq_false_iff, decide_eq_false_iff_not] at outside
  obtain ⟨control, outside⟩ := outside
  simp only [isControl, Bool.or_eq_false_iff, decide_eq_false_iff_not] at control
  have differ : char ≠ ' ' := by
    intro same
    rw [same] at outside
    exact outside space
  have other : char.toNat ≠ 0x20 := by
    intro same
    exact differ (Char.toNat_inj.mp same)
  omega

theorem stop_of_outside (outside : inPathSet char = false) : isStop char = false := by
  simp only [inPathSet, Bool.or_eq_false_iff, decide_eq_false_iff_not, List.mem_cons, not_or]
    at outside
  simp only [isStop, Bool.or_eq_false_iff, decide_eq_false_iff_not]
  exact ⟨outside.2.2.2.2.2.2.1, outside.2.2.2.1⟩

theorem inPath_plain (plain : ∀ char ∈ text, inPathSet char = false ∧ isSlash char = false) :
    inPath path segment (text ++ rest) = inPath path (segment ++ text) rest := by
  induction text generalizing segment with
  | nil => rw [List.nil_append, List.append_nil]
  | cons first text ih =>
    obtain ⟨outside, apart⟩ := plain first List.mem_cons_self
    rw [List.cons_append, inPath, apart, stop_of_outside outside, encode_self outside]
    simp only [Bool.false_eq_true, if_false]
    rw [ih fun char member => plain char (List.mem_cons_of_mem _ member), List.append_assoc,
      List.singleton_append]

theorem close_kept {slash : Bool} (kept : Kept segment) :
    close path segment slash = path ++ [segment] := by
  rw [close, kept.2.2, kept.2.1]
  rfl

/-- A path of kept segments is read back. -/
theorem inPath_segments {others : List (List Char)} (kept : Kept segment)
    (all : ∀ other ∈ others, Kept other) (stops : ∀ char ∈ rest.head?, isStop char = true) :
    inPath path [] (segment ++ (others.flatMap (fun segment => '/' :: segment) ++ rest)) =
      ⟨path ++ segment :: others, queryOf rest, fragmentOf (rest.dropWhile (· != '#'))⟩ := by
  induction others generalizing path segment with
  | nil =>
    rw [inPath_plain kept.1, List.nil_append, List.flatMap_nil, List.nil_append]
    cases rest with
    | nil =>
      rw [inPath, close_kept kept]
      rfl
    | cons char rest =>
      have stop := stops char rfl
      have apart : isSlash char = false := by
        simp only [isStop, Bool.or_eq_true, decide_eq_true_eq] at stop
        rcases stop with rfl | rfl
        · rfl
        · rfl
      rw [inPath, apart, stop]
      simp only [Bool.false_eq_true, if_false, if_true, close_kept kept]
  | cons other others ih =>
    rw [inPath_plain kept.1, List.nil_append, List.flatMap_cons, List.cons_append,
      List.cons_append, inPath, List.append_assoc]
    simp only [show isSlash '/' = true from rfl, if_true]
    rw [close_kept kept, ih (all other List.mem_cons_self) fun segment member =>
      all segment (List.mem_cons_of_mem _ member), List.append_assoc, List.singleton_append]

end

namespace Parts

section

variable {parts : Parts} {char : Char}

theorem hash_cases (parts : Parts) :
    parts.hash = [] ∧ parts.fragment.filter (· ≠ []) = none ∨
      ∃ fragment, parts.fragment = some fragment ∧ fragment ≠ [] ∧ parts.hash = '#' :: fragment := by
  unfold hash
  cases parts.fragment with
  | none => exact .inl ⟨rfl, rfl⟩
  | some fragment =>
    cases fragment with
    | nil => exact .inl ⟨rfl, rfl⟩
    | cons first fragment => exact .inr ⟨first :: fragment, rfl, List.cons_ne_nil _ _, rfl⟩

theorem search_cases (parts : Parts) :
    parts.search = [] ∧ parts.query.filter (· ≠ []) = none ∨
      ∃ query, parts.query = some query ∧ query ≠ [] ∧ parts.search = '?' :: query := by
  unfold search
  cases parts.query with
  | none => exact .inl ⟨rfl, rfl⟩
  | some query =>
    cases query with
    | nil => exact .inl ⟨rfl, rfl⟩
    | cons first query => exact .inr ⟨first :: query, rfl, List.cons_ne_nil _ _, rfl⟩

theorem filter_some {text : List Char} (filled : text ≠ []) :
    (some text).filter (· ≠ []) = some text := by
  rw [Option.filter_some, decide_eq_true filled]
  rfl

theorem fragmentOf_hash (canonical : parts.Canonical) :
    fragmentOf parts.hash = parts.fragment.filter (· ≠ []) := by
  rcases parts.hash_cases with ⟨nothing, dropped⟩ | ⟨fragment, found, filled, shape⟩
  · rw [nothing, dropped]
    rfl
  · rw [shape, found, filter_some filled, fragmentOf, encodes_self (canonical.fragment _ found)]

theorem stops_tail (parts : Parts) :
    ∀ char ∈ (parts.search ++ parts.hash).head?, isStop char = true := by
  intro char first
  rcases parts.search_cases with ⟨nothing, _⟩ | ⟨query, _, _, shape⟩
  · rw [nothing, List.nil_append] at first
    rcases parts.hash_cases with ⟨nothing, _⟩ | ⟨fragment, _, _, shape⟩
    · rw [nothing] at first
      cases first
    · rw [shape] at first
      cases first
      rfl
  · rw [shape] at first
    cases first
    rfl

theorem hashless (canonical : parts.Canonical) {query : List Char}
    (found : parts.query = some query) : ∀ char ∈ query, (char != '#') = true := by
  intro char member
  rw [bne_iff_ne]
  intro same
  have outside := canonical.query query found char member
  rw [same] at outside
  cases outside

theorem takeWhile_hash (parts : Parts) : parts.hash.takeWhile (· != '#') = [] ∧
    parts.hash.dropWhile (· != '#') = parts.hash := by
  rcases parts.hash_cases with ⟨nothing, _⟩ | ⟨fragment, _, _, shape⟩
  · rw [nothing]
    exact ⟨rfl, rfl⟩
  · rw [shape]
    exact ⟨rfl, rfl⟩

/-- The query and the fragment are read back. -/
theorem read_tail (canonical : parts.Canonical) :
    queryOf (parts.search ++ parts.hash) = parts.query.filter (· ≠ []) ∧
      fragmentOf ((parts.search ++ parts.hash).dropWhile (· != '#')) =
        parts.fragment.filter (· ≠ []) := by
  obtain ⟨taken, dropped⟩ := parts.takeWhile_hash
  rcases parts.search_cases with ⟨nothing, none⟩ | ⟨query, found, filled, shape⟩
  · rw [nothing, List.nil_append, dropped, fragmentOf_hash canonical, none]
    refine ⟨?_, rfl⟩
    rcases parts.hash_cases with ⟨nothing, _⟩ | ⟨fragment, _, _, shape⟩
    · rw [nothing]
      rfl
    · rw [shape]
      rfl
  · have apart := hashless canonical found
    have skipped : ('?' :: (query ++ parts.hash)).dropWhile (· != '#') = parts.hash := by
      rw [List.dropWhile_cons, if_pos (by decide), List.dropWhile_append_of_pos apart, dropped]
    rw [shape, List.cons_append, queryOf, List.takeWhile_append_of_pos apart, taken,
      List.append_nil, encodes_self (canonical.query query found), found, filter_some filled,
      skipped, fragmentOf_hash canonical]
    exact ⟨rfl, rfl⟩

theorem href_normal (parts : Parts) : parts.normal.href = parts.href := by
  have search : parts.normal.search = parts.search := by
    rcases parts.search_cases with ⟨nothing, dropped⟩ | ⟨query, found, filled, shape⟩
    · rw [nothing, Parts.search, normal, dropped]
    · rw [shape, Parts.search, normal, found, filter_some filled]
      cases query with
      | nil => exact absurd rfl filled
      | cons first query => rfl
  have hash : parts.normal.hash = parts.hash := by
    rcases parts.hash_cases with ⟨nothing, dropped⟩ | ⟨fragment, found, filled, shape⟩
    · rw [nothing, Parts.hash, normal, dropped]
    · rw [shape, Parts.hash, normal, found, filter_some filled]
      cases fragment with
      | nil => exact absurd rfl filled
      | cons first fragment => rfl
  rw [href, search, hash]
  rfl

/-- No space and no control character is left. -/
theorem visible_href (canonical : parts.Canonical) (member : char ∈ parts.href) :
    0x20 < char.toNat := by
  rcases List.mem_append.mp member with member | member
  · rcases List.mem_append.mp member with member | member
    · obtain ⟨segment, listed, inside⟩ := List.mem_flatMap.mp member
      rcases List.mem_cons.mp inside with rfl | inside
      · decide
      · exact visible ((canonical.segments segment listed).1 char inside).1 (by decide)
    · rcases parts.search_cases with ⟨nothing, _⟩ | ⟨query, found, _, shape⟩
      · rw [nothing] at member
        cases member
      · rw [shape] at member
        rcases List.mem_cons.mp member with rfl | inside
        · decide
        · exact visible (canonical.query query found char inside) (by decide)
  · rcases parts.hash_cases with ⟨nothing, _⟩ | ⟨fragment, found, _, shape⟩
    · rw [nothing] at member
      cases member
    · rw [shape] at member
      rcases List.mem_cons.mp member with rfl | inside
      · decide
      · exact visible (canonical.fragment fragment found char inside) (by decide)

theorem clean_visible {text : List Char} (solid : ∀ char ∈ text, 0x20 < char.toNat) :
    clean text = text := by
  have outside : ∀ char ∈ text, decide (char.toNat ≤ 0x20) = false := by
    intro char member
    exact decide_eq_false (Nat.not_le.mpr (solid char member))
  rw [clean, List.trim_solid outside, List.filter_eq_self]
  intro char member
  have high := solid char member
  simp only [Bool.not_eq_true', Bool.or_eq_false_iff, decide_eq_false_iff_not]
  refine ⟨⟨?_, ?_⟩, ?_⟩
  · rintro rfl
    exact absurd high (by decide)
  · rintro rfl
    exact absurd high (by decide)
  · rintro rfl
    exact absurd high (by decide)

/-- What the parser leaves is read back with the base as its origin, unless its path begins with
two slashes. -/
theorem parse_href {Origin : Type} (authority : List Char → Option Origin) (base : Origin)
    (canonical : parts.Canonical) (single : ¬['/', '/'] <+: parts.pathname) :
    parse authority base parts.href = some (base, parts.normal) := by
  unfold parse
  rw [clean_visible fun char => visible_href canonical]
  obtain ⟨path, query, fragment⟩ := parts
  cases path with
  | nil => exact absurd rfl canonical.path
  | cons first others =>
    have shape : href ⟨first :: others, query, fragment⟩ = '/' ::
        (first ++ (others.flatMap (fun segment => '/' :: segment) ++
          (search ⟨first :: others, query, fragment⟩ ++
            hash ⟨first :: others, query, fragment⟩))) := by
      simp only [href, pathname, List.flatMap_cons, List.cons_append, List.append_assoc]
    have apart : (first ++ (others.flatMap (fun segment => '/' :: segment) ++
          (search ⟨first :: others, query, fragment⟩ ++
            hash ⟨first :: others, query, fragment⟩))).head?.any isSlash = false := by
      cases first with
      | nil =>
        cases others with
        | nil =>
          have stops := stops_tail ⟨[[]], query, fragment⟩
          simp only [List.flatMap_nil, List.nil_append]
          cases head : (search ⟨[[]], query, fragment⟩ ++ hash ⟨[[]], query, fragment⟩).head? with
          | none => rfl
          | some char =>
            have stop := stops char head
            simp only [isStop, Bool.or_eq_true, decide_eq_true_eq] at stop
            rcases stop with rfl | rfl
            · rfl
            · rfl
        | cons other others =>
          refine absurd ⟨other ++ others.flatMap (fun segment => '/' :: segment), ?_⟩ single
          rfl
      | cons char segment =>
        exact ((canonical.segments _ List.mem_cons_self).1 char List.mem_cons_self).2
    rw [shape]
    simp only [apart, Bool.false_eq_true, if_false]
    obtain ⟨queries, fragments⟩ := read_tail canonical
    rw [inPath_segments (canonical.segments first List.mem_cons_self)
      (fun other member => canonical.segments other (List.mem_cons_of_mem _ member))
      (stops_tail _), queries, fragments]
    rfl

end

end Parts

section

variable {Origin : Type} {authority : List Char → Option Origin} {base origin : Origin}
  {input : List Char} {parts : Parts}

theorem parse_canonical (parsed : parse authority base input = some (origin, parts)) :
    parts.Canonical := by
  have start (text : List Char) : (inPath [] [] text).Canonical :=
    inPath_canonical (fun segment member => nomatch member) fun char member => nomatch member
  unfold parse at parsed
  split at parsed
  next rest _ =>
    split at parsed
    next =>
      obtain ⟨found, _, same⟩ := Option.map_eq_some_iff.mp parsed
      cases same
      exact start _
    next =>
      cases parsed
      exact start rest
  next => cases parsed

end

end Urls
