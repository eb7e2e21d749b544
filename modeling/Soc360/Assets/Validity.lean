import Soc360.Assets.Service
import Soc360.Store.ReadCommitted
import Soc360.Text.Python
import Soc360.Text.Regex

set_option autoImplicit false

namespace Assets

open Python (isAlnum isLetter isSpace isUpper)
open ReadCommitted (Fitting Label Service World)
open Regex (Takes ahead between chars literal mem_ahead mem_seq opt plus rests_takes seq seq_stop
  star stop)
open Scans (AssetId TenantId Timestamp)

/-! The patterns. -/

def alnum : Regex := chars isAlnum

def alnumDash : Regex := chars fun char => isAlnum char || char == '-'

def letter : Regex := chars isLetter

def dot : Regex := chars (· == '.')

/-- `.`, which is no newline. -/
def anyChar : Regex := chars (· != '\n')

def notColon : Regex := chars (· != ':')

/-- `[a-zA-Z0-9](?:[a-zA-Z0-9-]{0,61}[a-zA-Z0-9])?`. -/
def label : Regex := seq alnum (opt (seq (between alnumDash 0 61) alnum))

/-- `(?=.{1,253}$)`. -/
def shortAhead : Regex := ahead (seq (between anyChar 1 253) stop)

def fqdnLabel : Regex := seq label stop

def fqdnFull : Regex :=
  seq shortAhead (seq (seq (plus (seq label dot)) (between letter 2 63)) stop)

def hostname : Regex := seq shortAhead (seq (seq (star (seq label dot)) label) stop)

def arn : Regex :=
  seq (literal "arn:") (seq (plus notColon) (seq (literal ":") (seq (plus notColon) (seq (literal ":")
    (seq (star notColon) (seq (literal ":") (seq (star notColon) (seq (literal ":")
      (seq (plus anyChar) stop)))))))))

def compiled : List (String × Regex) :=
  [(fqdnLabelRe, fqdnLabel), (fqdnFullRe, fqdnFull), (hostnameRe, hostname), (arnRe, arn)]

/-- Python's own functions, with those of `ipaddress`, `HttpUrl` and `str.lower` given. -/
def pythonTexts (ipAddress ipNetwork : String → Option String)
    (httpUrl : String → Option (String × String)) (lower : String → String) : Texts where
  ipAddress := ipAddress
  ipNetwork := ipNetwork
  httpUrl := httpUrl
  reMatch pattern text := (compiled.lookup pattern).any fun regex => regex.matchesStart text.toList
  strip text := String.ofList (Python.strip text.toList)
  rstripDots text := String.ofList (Python.rstripDots text.toList)
  lower := lower

/-- What the asset table stores at most. -/
def valueWidth : Nat := 255

/-- The text of an address, a network or a URL is read as that address, network or URL. Lower case
has no capitals, and ASCII text without capitals is lower case. -/
structure Lawful (ipAddress ipNetwork : String → Option String)
    (httpUrl : String → Option (String × String)) (lower : String → String) : Prop where
  ipAddress_text : ∀ text canonical, ipAddress text = some canonical →
    ipAddress canonical = some canonical
  ipNetwork_text : ∀ text canonical, ipNetwork text = some canonical →
    ipNetwork canonical = some canonical
  httpUrl_text : ∀ text scheme canonical, httpUrl text = some (scheme, canonical) →
    canonical.length ≤ valueWidth → httpUrl canonical = some (scheme, canonical)
  lower_capital : ∀ text, ∀ char ∈ (lower text).toList, isUpper char = false
  lower_kept : ∀ text, (∀ char ∈ text.toList, char.toNat < 128 ∧ isUpper char = false) →
    lower text = text

section

variable {ipAddress ipNetwork : String → Option String}
  {httpUrl : String → Option (String × String)} {lower : String → String}
  {text value canonical : String} {word : List Char}

theorem reMatch_found {pattern : String} {regex : Regex}
    (found : compiled.lookup pattern = some regex) :
    (pythonTexts ipAddress ipNetwork httpUrl lower).reMatch pattern text =
      regex.matchesStart text.toList := by
  simp only [pythonTexts, found, Option.any_some]

theorem reMatch_fqdnLabel : (pythonTexts ipAddress ipNetwork httpUrl lower).reMatch fqdnLabelRe text =
    fqdnLabel.matchesStart text.toList := reMatch_found rfl

theorem reMatch_fqdnFull : (pythonTexts ipAddress ipNetwork httpUrl lower).reMatch fqdnFullRe text =
    fqdnFull.matchesStart text.toList := reMatch_found rfl

theorem reMatch_hostname : (pythonTexts ipAddress ipNetwork httpUrl lower).reMatch hostnameRe text =
    hostname.matchesStart text.toList := reMatch_found rfl

/-! The characters of a host name. -/

def isHost (char : Char) : Bool := isAlnum char || char == '-' || char == '.'

theorem isHost_iff {char : Char} : isHost char = true ↔
    0x41 ≤ char.toNat ∧ char.toNat ≤ 0x5a ∨ 0x61 ≤ char.toNat ∧ char.toNat ≤ 0x7a ∨
      0x30 ≤ char.toNat ∧ char.toNat ≤ 0x39 ∨ char = '-' ∨ char = '.' := by
  simp [isHost, isAlnum, isLetter, isUpper, or_assoc]

theorem isHost_lt {char : Char} (host : isHost char = true) :
    0x2d ≤ char.toNat ∧ char.toNat < 0x7b := by
  rcases isHost_iff.mp host with range | range | range | rfl | rfl
  · omega
  · omega
  · omega
  · decide
  · decide

theorem isHost_solid {char : Char} (host : isHost char = true) : isSpace char = false := by
  have range := isHost_lt host
  apply Bool.eq_false_iff.mpr
  intro space
  simp only [isSpace, decide_eq_true_eq, List.mem_cons, List.not_mem_nil, or_false] at space
  omega

theorem label_host {char : Char} (seen : label.alphabet char = true) : isHost char = true := by
  simp only [label, opt, Regex.alphabet, Bool.or_eq_true, Bool.or_false] at seen
  have alnum_host : alnum.alphabet char = true → isHost char = true := by
    intro seen
    have seen : isAlnum char = true := seen
    simp [isHost, seen]
  rcases seen with seen | seen | seen
  · exact alnum_host seen
  · have seen : (isAlnum char || char == '-') = true := Regex.alphabet_between seen
    simp only [isHost, seen, Bool.true_or]
  · exact alnum_host seen

theorem dotted_host {char : Char} (seen : (seq label dot).alphabet char = true) :
    isHost char = true := by
  simp only [Regex.alphabet, Bool.or_eq_true] at seen
  rcases seen with seen | seen
  · exact label_host seen
  · have seen : (char == '.') = true := seen
    simp [isHost, seen]

theorem hostname_host {char : Char}
    (seen : (seq (star (seq label dot)) label).alphabet char = true) : isHost char = true := by
  simp only [Regex.alphabet, Bool.or_eq_true] at seen
  rcases seen with seen | seen
  · exact dotted_host (Bool.or_eq_true _ _ |>.mpr seen)
  · exact label_host seen

theorem fqdn_host {char : Char}
    (seen : (seq (plus (seq label dot)) (between letter 2 63)).alphabet char = true) :
    isHost char = true := by
  rw [Regex.alphabet, plus, Regex.alphabet, Bool.or_eq_true, Bool.or_eq_true] at seen
  rcases seen with (seen | seen) | seen
  · exact dotted_host seen
  · exact dotted_host seen
  · have letter : isLetter char = true := Regex.alphabet_between seen
    simp [isHost, isAlnum, letter]

theorem shortAhead_newline : shortAhead.alphabet '\n' = false := by
  apply Bool.eq_false_iff.mpr
  intro seen
  simp only [shortAhead, Regex.alphabet, Bool.or_false] at seen
  cases Regex.alphabet_between seen

/-- A text that `(?=.{1,253}$)` and a body up to `$` match is a word that they match too. -/
theorem matched_word {body : Regex} {text : List Char}
    (host : ∀ char, body.alphabet char = true → isHost char = true)
    (nothing : body.rests [] = []) (newline : body.rests ['\n'] = [])
    (matched : (seq shortAhead (seq body stop)).matchesStart text = true) :
    ∃ word tail, text = word ++ tail ∧ (tail = [] ∨ tail = ['\n']) ∧ tail ∈ body.rests text ∧
      word ≠ [] ∧ (∀ char ∈ word, isHost char = true) ∧
      (seq shortAhead (seq body stop)).matchesStart word = true := by
  obtain ⟨rest, left⟩ := Regex.matches_iff.mp matched
  obtain ⟨middle, short, left⟩ := mem_seq.mp left
  cases mem_ahead short
  obtain ⟨left, ends, word, rfl, inside⟩ := seq_stop left
  have hosts : ∀ char ∈ word, isHost char = true := fun char member => host char (inside char member)
  have blind : (seq shortAhead (seq body stop)).alphabet '\n' = false := by
    have outside : body.alphabet '\n' = false := by
      apply Bool.eq_false_iff.mpr
      intro seen
      have impossible := host _ seen
      revert impossible
      decide
    simp [Regex.alphabet, shortAhead_newline, outside]
  refine ⟨word, rest, rfl, ends, left, ?_, hosts, ?_⟩
  · rintro rfl
    rw [List.nil_append] at left
    rcases ends with rfl | rfl
    · rw [nothing] at left
      cases left
    · rw [newline] at left
      cases left
  · rcases ends with rfl | rfl
    · rw [List.append_nil] at matched
      exact matched
    · apply Regex.matches_newline blind _ matched
      intro member
      have impossible := hosts _ member
      revert impossible
      decide

theorem strip_matched {tail : List Char} (solid : ∀ char ∈ word, isHost char = true)
    (ends : tail = [] ∨ tail = ['\n']) : Python.strip (word ++ tail) = word := by
  rcases ends with rfl | rfl
  · rw [List.append_nil]
    exact Python.strip_word fun char member => isHost_solid (solid char member)
  · exact Python.strip_line fun char member => isHost_solid (solid char member)

/-- A word of a text without capitals is lower case. -/
theorem Lawful.lower_word (lawful : Lawful ipAddress ipNetwork httpUrl lower) {tail : List Char}
    (lowered : ∀ char ∈ text.toList, isUpper char = false) (shape : text.toList = word ++ tail)
    (hosts : ∀ char ∈ word, isHost char = true) :
    lower (String.ofList word) = String.ofList word := by
  apply lawful.lower_kept
  intro char member
  rw [String.toList_ofList] at member
  have range := isHost_lt (hosts char member)
  refine ⟨by omega, ?_⟩
  apply lowered
  rw [shape]
  exact List.mem_append_left _ member

theorem ofList_ne_empty (nonempty : word ≠ []) : (String.ofList word != "") = true := by
  rw [bne_iff_ne]
  intro empty
  apply nonempty
  rw [← String.toList_ofList (l := word), empty]
  rfl

theorem validateText_ok {message : String} {normalise : String → String} {valid : String → Bool} :
    validateText message normalise valid (some value) = .ok canonical ↔
      valid (normalise value) = true ∧ canonical = normalise value := by
  rw [validateText]
  split
  next accepted => simp [accepted, eq_comm]
  next refused => simp [refused]

theorem validateParsed_ok {message : String} {parse : String → Option String} :
    validateParsed message parse (some value) = .ok canonical ↔ parse value = some canonical := by
  rw [validateParsed, Option.bind_some]
  cases parse value with
  | none => simp
  | some found => simp

/-- A host name is a word, with a newline at most, and read again it is that word. -/
theorem hostname_word (lawful : Lawful ipAddress ipNetwork httpUrl lower)
    (accepted : validateAssetValue (pythonTexts ipAddress ipNetwork httpUrl lower) (some .hostname)
      (some value) = .ok canonical) :
    ∃ word tail, canonical.toList = word ++ tail ∧ (tail = [] ∨ tail = ['\n']) ∧
      (∀ char ∈ word, isHost char = true) ∧
      validateAssetValue (pythonTexts ipAddress ipNetwork httpUrl lower) (some .hostname)
        (some canonical) = .ok (String.ofList word) := by
  rw [validateAssetValue, validateText_ok] at accepted
  obtain ⟨valid, written⟩ := accepted
  rw [← written, Bool.and_eq_true, reMatch_hostname] at valid
  have lowered : ∀ char ∈ canonical.toList, isUpper char = false := by
    rw [written]
    exact lawful.lower_capital _
  obtain ⟨word, tail, shape, ends, _, nonempty, hosts, matched⟩ :=
    matched_word (fun _ => hostname_host) (by decide) (by decide) valid.2
  have normal : lower (String.ofList (Python.strip canonical.toList)) = String.ofList word := by
    rw [shape, strip_matched hosts ends]
    exact lawful.lower_word lowered shape hosts
  have again : hostname.matchesStart (String.ofList word).toList = true := by
    rw [String.toList_ofList]
    exact matched
  refine ⟨word, tail, shape, ends, hosts, ?_⟩
  rw [validateAssetValue, validateText_ok]
  simp only [reMatch_hostname]
  simp only [pythonTexts, normal, again, ofList_ne_empty nonempty, Bool.and_self, and_self]

/-- A word of a domain name ends in a letter. -/
theorem domain_last {tail : List Char} (ends : tail = [] ∨ tail = ['\n'])
    (left : tail ∈ (seq (plus (seq label dot)) (between letter 2 63)).rests (word ++ tail)) :
    ∀ char ∈ word.getLast?, (char == '.') = false := by
  obtain ⟨middle, left, left'⟩ := mem_seq.mp left
  obtain ⟨labels, shape, _⟩ := rests_takes left
  obtain ⟨last, rfl, letters⟩ := rests_takes left'
  rw [← List.append_assoc] at shape
  cases List.append_cancel_right shape
  have nothing : (between letter 2 63).rests [] = [] := by decide
  have newline : (between letter 2 63).rests ['\n'] = [] := by decide
  intro char member
  rw [List.getLast?_append] at member
  cases found : last.getLast? with
  | none =>
      rw [List.getLast?_eq_none_iff.mp found, List.nil_append] at left'
      rcases ends with rfl | rfl
      · rw [nothing] at left'
        cases left'
      · rw [newline] at left'
        cases left'
  | some final =>
      rw [found] at member
      cases member
      have seen := letters char (List.mem_of_getLast? found)
      have letter : isLetter char = true := Regex.alphabet_between seen
      rw [beq_eq_false_iff_ne]
      rintro rfl
      revert letter
      decide

theorem fqdnLabel_newline : fqdnLabel.alphabet '\n' = false := by
  apply Bool.eq_false_iff.mpr
  intro seen
  rw [fqdnLabel, Regex.alphabet, Regex.alphabet, Bool.or_false] at seen
  have impossible := label_host seen
  revert impossible
  decide

/-- A newline at the end changes no label. -/
theorem labels_word {tail : List Char} (ends : tail = [] ∨ tail = ['\n'])
    (hosts : ∀ char ∈ word, isHost char = true)
    (matched : ∀ part ∈ (word ++ tail).splitOn '.', fqdnLabel.matchesStart part = true) :
    ∀ part ∈ word.splitOn '.', fqdnLabel.matchesStart part = true := by
  rcases ends with rfl | rfl
  · rw [List.append_nil] at matched
    exact matched
  · obtain ⟨front, last, split, inside, split'⟩ :=
      Python.splitOn_concat '.' '\n' (by decide) word
    rw [split'] at matched
    rw [split]
    intro part member
    rcases List.mem_append.mp member with member | member
    · exact matched part (List.mem_append_left _ member)
    · rw [List.mem_singleton.mp member]
      apply Regex.matches_newline fqdnLabel_newline
      · intro newline
        have impossible := hosts _ (inside newline)
        revert impossible
        decide
      · exact matched _ (List.mem_append_right _ (List.mem_singleton.mpr rfl))

/-- A domain is a word, with a newline at most, and read again it is that word. -/
theorem domain_word (lawful : Lawful ipAddress ipNetwork httpUrl lower)
    (accepted : validateAssetValue (pythonTexts ipAddress ipNetwork httpUrl lower) (some .domain)
      (some value) = .ok canonical) :
    ∃ word tail, canonical.toList = word ++ tail ∧ (tail = [] ∨ tail = ['\n']) ∧
      (∀ char ∈ word, isHost char = true) ∧
      validateAssetValue (pythonTexts ipAddress ipNetwork httpUrl lower) (some .domain)
        (some canonical) = .ok (String.ofList word) := by
  rw [validateAssetValue, validateText_ok] at accepted
  obtain ⟨valid, written⟩ := accepted
  simp only [← written, reMatch_fqdnFull, reMatch_fqdnLabel, Bool.and_eq_true, Python.splitOn_dot,
    List.all_map, List.all_eq_true, Function.comp_apply, String.toList_ofList] at valid
  obtain ⟨⟨_, full⟩, labels⟩ := valid
  have lowered : ∀ char ∈ canonical.toList, isUpper char = false := by
    rw [written]
    exact lawful.lower_capital _
  obtain ⟨word, tail, shape, ends, left, nonempty, hosts, matched⟩ :=
    matched_word (fun _ => fqdn_host) (by decide) (by decide) full
  rw [shape] at left labels
  have parts := labels_word ends hosts labels
  have undotted : Python.rstripDots word = word :=
    List.rdropWhile_of_last (domain_last ends left)
  have normal : lower (String.ofList (Python.rstripDots (Python.strip canonical.toList))) =
      String.ofList word := by
    rw [shape, strip_matched hosts ends, undotted]
    exact lawful.lower_word lowered shape hosts
  refine ⟨word, tail, shape, ends, hosts, ?_⟩
  rw [validateAssetValue, validateText_ok]
  simp only [reMatch_fqdnFull, Python.splitOn_dot]
  simp only [pythonTexts, String.toList_ofList, normal, ofList_ne_empty nonempty, Bool.and_eq_true,
    List.all_map, List.all_eq_true, Function.comp_apply, and_true, true_and]
  exact ⟨matched, parts⟩

/-- The validator accepts what it has returned. -/
theorem validate_again {assetType : AssetType} (lawful : Lawful ipAddress ipNetwork httpUrl lower)
    (accepted : validateAssetValue (pythonTexts ipAddress ipNetwork httpUrl lower) (some assetType)
      (some value) = .ok canonical) (fits : canonical.length ≤ valueWidth) :
    ∃ again, validateAssetValue (pythonTexts ipAddress ipNetwork httpUrl lower) (some assetType)
      (some canonical) = .ok again := by
  cases assetType with
  | hostname =>
      obtain ⟨word, _, _, _, _, again⟩ := hostname_word lawful accepted
      exact ⟨_, again⟩
  | domain =>
      obtain ⟨word, _, _, _, _, again⟩ := domain_word lawful accepted
      exact ⟨_, again⟩
  | ip =>
      rw [validateAssetValue, validateParsed_ok] at accepted
      refine ⟨canonical, ?_⟩
      rw [validateAssetValue, validateParsed_ok]
      exact lawful.ipAddress_text value canonical accepted
  | subnet =>
      rw [validateAssetValue, validateParsed_ok] at accepted
      refine ⟨canonical, ?_⟩
      rw [validateAssetValue, validateParsed_ok]
      exact lawful.ipNetwork_text value canonical accepted
  | webApp =>
      rw [validateAssetValue, validateParsed_ok] at accepted
      obtain ⟨⟨scheme, text⟩, parsed, rfl⟩ := Option.map_eq_some_iff.mp accepted
      obtain ⟨found, web⟩ := Option.filter_eq_some_iff.mp parsed
      refine ⟨text, ?_⟩
      rw [validateAssetValue, validateParsed_ok]
      change ((httpUrl text).filter _).map _ = _
      rw [lawful.httpUrl_text value scheme text found fits]
      simp only [Option.filter, web, ↓reduceIte, Option.map_some]
  | cloudResource =>
      rw [validateAssetValue, validateText_ok] at accepted
      obtain ⟨valid, rfl⟩ := accepted
      have stripped : (pythonTexts ipAddress ipNetwork httpUrl lower).strip
          ((pythonTexts ipAddress ipNetwork httpUrl lower).strip value) =
            (pythonTexts ipAddress ipNetwork httpUrl lower).strip value := by
        simp only [pythonTexts, String.toList_ofList, Python.strip_strip]
      refine ⟨(pythonTexts ipAddress ipNetwork httpUrl lower).strip value, ?_⟩
      rw [validateAssetValue, validateText_ok, stripped]
      exact ⟨valid, rfl⟩

end

/-! The calls that write assets. -/

section

variable (texts : Texts)

/-- `_validate_asset_value(asset_type, value)` succeeds. -/
def Asset.valueValid (asset : Asset) : Bool :=
  match validateAssetValue texts (some asset.assetType) (some asset.value) with
  | .ok _ => true
  | .error _ => false

/-- A call of `create_asset`: `assetId` is the new `uuid4`. -/
structure CreateCall where
  assetId : AssetId
  tenantId : TenantId
  assetType : AssetType
  value : String
  clock : Timestamp

/-- The row of the INSERT, which fails where the value is wider than its column. -/
def CreateCall.rows (call : CreateCall) : Option (List (AssetId × Asset)) :=
  match validateAssetValue texts (some call.assetType) (some call.value) with
  | .error _ => none
  | .ok canonical =>
      if valueWidth < canonical.length then none
      else some [(call.assetId, ⟨call.tenantId, canonical, call.assetType, call.clock, call.clock⟩)]

/-- A call of `update_asset` on the row of its asset. -/
structure UpdateCall where
  tenantId : Option TenantId
  data : AssetUpdate
  clock : Timestamp

structure AssetColumns where
  assetType : Option AssetType
  value : Option String
  updatedAt : Option Timestamp

/-- The columns of the UPDATE. -/
def UpdateCall.columns (call : UpdateCall) (asset : Asset) : Option AssetColumns :=
  if call.tenantId.all (asset.tenantId == ·) then
    match call.data.edit texts call.clock asset with
    | .error _ => none
    | .ok (row, _) =>
        if valueWidth < row.value.length then none
        else some ⟨ReadCommitted.changed asset.assetType row.assetType,
          ReadCommitted.changed asset.value row.value,
          ReadCommitted.changed asset.updatedAt row.updatedAt⟩
  else none

def AssetColumns.write (columns : AssetColumns) (asset : Asset) : Asset :=
  { asset with
    assetType := columns.assetType.getD asset.assetType
    value := columns.value.getD asset.value
    updatedAt := columns.updatedAt.getD asset.updatedAt }

/-- `create_asset` and `update_asset`. -/
def requests : Service AssetId Asset AssetColumns CreateCall UpdateCall where
  create call _ := call.rows texts
  edit := UpdateCall.columns texts
  write := AssetColumns.write
  admits table assetId asset := !valueTaken table assetId asset

end

/-- An UPDATE that writes the type alone finds the value that its transaction read, and one that
writes the value alone finds the type that it read. -/
def AssetColumns.Fits (before : Asset) (columns : AssetColumns) (current : Asset) : Prop :=
  (columns.assetType.isSome = true → columns.value = none → current.value = before.value) ∧
    (columns.value.isSome = true → columns.assetType = none →
      current.assetType = before.assetType)

instance (before : Asset) (columns : AssetColumns) (current : Asset) :
    Decidable (columns.Fits before current) :=
  inferInstanceAs (Decidable ((_ → _ → _) ∧ (_ → _ → _)))

section

variable {texts : Texts} {asset before current row : Asset} {call : UpdateCall}
  {columns : AssetColumns} {data : AssetUpdate} {clock : Timestamp} {changed : List String}

theorem valueValid_iff : asset.valueValid texts = true ↔
    ∃ canonical, validateAssetValue texts (some asset.assetType) (some asset.value) =
      .ok canonical := by
  rw [Asset.valueValid]
  cases validateAssetValue texts (some asset.assetType) (some asset.value) with
  | error message => simp
  | ok canonical => simp

/-- The row that the assignments leave holds what the validator returned for its type. -/
theorem edit_canonical (edited : data.edit texts clock asset = .ok (row, changed)) :
    data.newType asset = some row.assetType ∧ ∃ value, data.newValue texts asset = .ok value ∧
      validateAssetValue texts (some row.assetType) (some value) = .ok row.value := by
  unfold AssetUpdate.edit at edited
  obtain ⟨value, new, edited⟩ := Except.bind_eq_ok.mp edited
  obtain ⟨canonical, accepted, edited⟩ := Except.bind_eq_ok.mp edited
  split at edited
  next => cases edited
  next type named =>
    rw [named] at accepted
    simp only at edited
    split at edited
    next kept =>
      cases edited
      obtain ⟨sameType, sameValue⟩ := kept
      subst sameType sameValue
      exact ⟨named, value, new, accepted⟩
    next =>
      cases edited
      exact ⟨named, value, new, accepted⟩

/-- An UPDATE that fits leaves the pair of the row, or the pair that its transaction has made. -/
theorem write_pair (holds : AssetType → String → Prop)
    (stored : holds current.assetType current.value)
    (given : call.columns texts before = some columns) (fits : columns.Fits before current)
    (edited : ∀ row changed, call.data.edit texts call.clock before = .ok (row, changed) →
      row.value.length ≤ valueWidth → holds row.assetType row.value) :
    holds (columns.write current).assetType (columns.write current).value := by
  unfold UpdateCall.columns at given
  split at given
  next =>
    split at given
    next => cases given
    next row changed made =>
      split at given
      next => cases given
      next narrow =>
        cases given
        have valid := edited row changed made (Nat.le_of_not_lt narrow)
        by_cases same : row.assetType = before.assetType ∧ row.value = before.value
        · have type' := ReadCommitted.changed_none.mpr same.1
          have value' := ReadCommitted.changed_none.mpr same.2
          simpa only [AssetColumns.write, type', value', Option.getD_none] using stored
        · have type' : (ReadCommitted.changed before.assetType row.assetType).getD
              current.assetType = row.assetType := by
            apply ReadCommitted.changed_written
            intro unwritten
            refine fits.2 ?_ unwritten
            apply Option.isSome_iff_ne_none.mpr
            intro other
            exact same ⟨ReadCommitted.changed_none.mp unwritten, ReadCommitted.changed_none.mp other⟩
          have value' : (ReadCommitted.changed before.value row.value).getD current.value =
              row.value := by
            apply ReadCommitted.changed_written
            intro unwritten
            refine fits.1 ?_ unwritten
            apply Option.isSome_iff_ne_none.mpr
            intro other
            exact same ⟨ReadCommitted.changed_none.mp other, ReadCommitted.changed_none.mp unwritten⟩
          simp only [AssetColumns.write, type', value']
          exact valid
  next => cases given

end

section

variable {ipAddress ipNetwork : String → Option String}
  {httpUrl : String → Option (String × String)} {lower : String → String}
  {before current : Asset} {call : UpdateCall} {columns : AssetColumns}

theorem CreateCall.rows_valid (lawful : Lawful ipAddress ipNetwork httpUrl lower)
    {call : CreateCall} {rows : List (AssetId × Asset)}
    (created : call.rows (pythonTexts ipAddress ipNetwork httpUrl lower) = some rows) :
    ∀ entry ∈ rows,
      entry.2.valueValid (pythonTexts ipAddress ipNetwork httpUrl lower) = true := by
  unfold CreateCall.rows at created
  split at created
  next => cases created
  next canonical accepted =>
    split at created
    next => cases created
    next narrow =>
      cases created
      intro entry member
      rw [List.mem_singleton.mp member]
      exact valueValid_iff.mpr (validate_again lawful accepted (Nat.le_of_not_lt narrow))

/-- An UPDATE that fits leaves a pair that its transaction has validated. -/
theorem write_valueValid (lawful : Lawful ipAddress ipNetwork httpUrl lower)
    (stored : current.valueValid (pythonTexts ipAddress ipNetwork httpUrl lower) = true)
    (given : call.columns (pythonTexts ipAddress ipNetwork httpUrl lower) before = some columns)
    (fits : columns.Fits before current) :
    (columns.write current).valueValid (pythonTexts ipAddress ipNetwork httpUrl lower) = true := by
  rw [valueValid_iff] at stored ⊢
  apply write_pair (fun type value => ∃ canonical,
    validateAssetValue (pythonTexts ipAddress ipNetwork httpUrl lower) (some type) (some value) =
      .ok canonical) stored given fits
  intro row changed edited narrow
  obtain ⟨_, value, _, accepted⟩ := edit_canonical edited
  exact validate_again lawful accepted narrow

/-- Stored assets are valid for their type, in every run in which an UPDATE of one of the two
columns finds the other as its transaction read it. -/
theorem stored_assets_valid (lawful : Lawful ipAddress ipNetwork httpUrl lower)
    {world : World AssetId Asset AssetColumns UpdateCall}
    (reached : (requests (pythonTexts ipAddress ipNetwork httpUrl lower)).machine.ReachableBy
      (Fitting fun before columns current => columns.Fits before current) world) :
    ∀ assetId asset, world.committed.find assetId = some asset →
      asset.valueValid (pythonTexts ipAddress ipNetwork httpUrl lower) = true := by
  apply ReadCommitted.stored_valid
    (fun asset => asset.valueValid (pythonTexts ipAddress ipNetwork httpUrl lower) = true) _ _
    reached
  · intro call _ rows created
    exact CreateCall.rows_valid lawful created
  · intro call before columns current _ stored given fits
    exact write_valueValid lawful stored given fits

end

/-! A host that goes by its address: one request makes it an address, another renames it. -/

def lowerChar (char : Char) : Char :=
  if isUpper char then Char.ofNat (char.toNat + 0x20) else char

def lowerAscii (text : String) : String := String.ofList (text.toList.map lowerChar)

def plainTexts : Texts :=
  pythonTexts (fun text => if text = "10.0.0.1" then some text else none) (fun _ => none)
    (fun _ => none) lowerAscii

def host : CreateCall := ⟨7, 1, .hostname, "10.0.0.1", 100⟩

def toAddress : UpdateCall := ⟨some 1, ⟨some (some .ip), none⟩, 200⟩

def rename : UpdateCall := ⟨some 1, ⟨none, some (some "localhost")⟩, 300⟩

/-- Both read the asset before either writes it. -/
def overlapping : List (Label AssetId CreateCall UpdateCall) :=
  [.create 0 host, .flush 0, .commit 0, .read 1 7 toAddress, .read 2 7 rename, .validate 1,
    .validate 2, .flush 1, .commit 1, .flush 2, .commit 2]

theorem overlapping_asset_invalid :
    ∃ world asset, (requests plainTexts).machine.Reachable world ∧
      world.committed.find 7 = some asset ∧ asset.valueValid plainTexts = false := by
  have run : ((requests plainTexts).machine.exec .empty overlapping).map
      (fun world => world.committed.find 7) = some (some ⟨1, "localhost", .ip, 100, 300⟩) := by
    decide +kernel
  obtain ⟨world, run, found⟩ := Option.map_eq_some_iff.mp run
  refine ⟨world, _, Machine.Reachable.exec (.start rfl) run, found, ?_⟩
  decide +kernel

theorem lowerChar_upper {char : Char} (upper : isUpper char = true) :
    (lowerChar char).toNat = char.toNat + 0x20 := by
  simp only [isUpper, Bool.and_eq_true, decide_eq_true_eq] at upper
  have valid : (char.toNat + 0x20).isValidChar := .inl (by omega)
  rw [lowerChar, if_pos (by simp [isUpper, upper]), Char.ofNat, dif_pos valid]
  rfl

theorem lowerChar_small {char : Char} (small : isUpper char = false) : lowerChar char = char := by
  rw [lowerChar, if_neg (by simp [small])]

theorem lowerChar_capital (char : Char) : isUpper (lowerChar char) = false := by
  cases upper : isUpper char with
  | false => rw [lowerChar_small upper, upper]
  | true =>
      have written := lowerChar_upper upper
      simp only [isUpper, Bool.and_eq_true, decide_eq_true_eq] at upper
      simp only [isUpper, written, Bool.and_eq_false_iff, decide_eq_false_iff_not]
      omega

theorem plainTexts_lawful :
    Lawful (fun text => if text = "10.0.0.1" then some text else none) (fun _ => none)
      (fun _ => none) lowerAscii := by
  refine ⟨?_, ?_, ?_, ?_, ?_⟩
  · intro text canonical read
    split at read
    next same =>
      cases read
      exact if_pos same
    next => cases read
  · intro text canonical read
    cases read
  · intro text scheme canonical read
    cases read
  · intro text char member
    rw [lowerAscii, String.toList_ofList] at member
    obtain ⟨before, _, rfl⟩ := List.mem_map.mp member
    exact lowerChar_capital before
  · intro text kept
    have same : text.toList.map lowerChar = text.toList := by
      conv_rhs => rw [← List.map_id text.toList]
      apply List.map_congr_left
      intro char member
      simp [lowerChar, (kept char member).2]
    rw [lowerAscii, same, String.ofList_toList]

/-- One after the other, the second request is refused. -/
theorem stored_assets_valid_in_turn :
    ∃ world, (requests plainTexts).machine.exec .empty
        [.create 0 host, .flush 0, .commit 0, .read 1 7 toAddress, .validate 1, .flush 1, .commit 1,
          .read 2 7 rename, .validate 2] = some world ∧
      world.committed.find 7 = some ⟨1, "10.0.0.1", .ip, 100, 200⟩ ∧
      ∀ assetId asset, world.committed.find assetId = some asset →
        asset.valueValid plainTexts = true := by
  have run : ((requests plainTexts).machine.exec .empty
      [.create 0 host, .flush 0, .commit 0, .read 1 7 toAddress, .validate 1, .flush 1, .commit 1,
        .read 2 7 rename, .validate 2]).map (fun world => world.committed.find 7) =
          some (some ⟨1, "10.0.0.1", .ip, 100, 200⟩) := by
    decide +kernel
  have fitting : (requests plainTexts).machine.Allows (Fitting fun before columns current =>
      AssetColumns.Fits before columns current) .empty
      [.create 0 host, .flush 0, .commit 0, .read 1 7 toAddress, .validate 1, .flush 1, .commit 1,
        .read 2 7 rename, .validate 2] := by
    decide +kernel
  obtain ⟨world, run, found⟩ := Option.map_eq_some_iff.mp run
  exact ⟨world, run, found, stored_assets_valid plainTexts_lawful
    (Machine.ReachableBy.exec (.start rfl) fitting run)⟩

end Assets
