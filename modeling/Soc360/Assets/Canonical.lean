import Soc360.Scans.Schemas
import Soc360.Scans.Targets

set_option autoImplicit false

namespace Assets

open Python (DotsLine isUpper)
open Scans (AssetId addressText addressTexts networkText)

/-- The `max_length` of `HttpUrl`, a bound on the text that it reads. -/
def urlWidth : Nat := 2083

/-- `HttpUrl` reads texts up to its width, and the text of a URL, which names its scheme, as that
URL. Lower case has no capitals, keeps the other characters of ASCII, and ends in a newline where
the text does. -/
structure Conforming (httpUrl : String → Option (String × String)) (lower : String → String) :
    Prop where
  httpUrl_short : ∀ text parsed, httpUrl text = some parsed → text.length ≤ urlWidth
  httpUrl_text : ∀ text scheme canonical, httpUrl text = some (scheme, canonical) →
    canonical.length ≤ urlWidth → httpUrl canonical = some (scheme, canonical)
  httpUrl_colon : ∀ text scheme canonical, httpUrl text = some (scheme, canonical) →
    ':' ∈ canonical.toList
  lower_capital : ∀ text, ∀ char ∈ (lower text).toList, isUpper char = false
  lower_kept : ∀ text, (∀ char ∈ text.toList, char.toNat < 128 ∧ isUpper char = false) →
    lower text = text
  lower_ascii : ∀ text, ∀ char ∈ text.toList, char.toNat < 128 → isUpper char = false →
    char ∈ (lower text).toList
  lower_newline : ∀ text,
    (lower text).toList.getLast? = some '\n' ↔ text.toList.getLast? = some '\n'

theorem addressText_again {text canonical : String} (read : addressText text = some canonical) :
    addressText canonical = some canonical := by
  obtain ⟨address, _, rfl⟩ := Option.map_eq_some_iff.mp read
  rw [addressText, String.toList_ofList, Ip.ipAddress_text, Option.map_some]

theorem networkText_again {text canonical : String} (read : networkText text = some canonical) :
    networkText canonical = some canonical := by
  obtain ⟨network, _, rfl⟩ := Option.map_eq_some_iff.mp read
  rw [networkText, String.toList_ofList, Ip.ipNetwork_text, Option.map_some]

theorem Conforming.lawful {httpUrl : String → Option (String × String)} {lower : String → String}
    (conforming : Conforming httpUrl lower) : Lawful addressText networkText httpUrl lower where
  ipAddress_text _ _ read := addressText_again read
  ipNetwork_text _ _ read := networkText_again read
  httpUrl_text text scheme canonical read fits :=
    conforming.httpUrl_text text scheme canonical read (fits.trans (by decide))
  lower_capital := conforming.lower_capital
  lower_kept := conforming.lower_kept

/-- A domain with a last line of dots, where the newline outlives the dots. -/
def Unstable (assetType : AssetType) (value : String) : Prop :=
  assetType = .domain ∧ DotsLine value.toList

/-- A web address that `HttpUrl` writes, percent-encoded, at greater length than it reads. -/
def Outgrown (httpUrl : String → Option (String × String)) (assetType : AssetType)
    (value : String) : Prop :=
  assetType = .webApp ∧
    ∃ scheme canonical, httpUrl value = some (scheme, canonical) ∧ urlWidth < canonical.length

/-- The two assets have one canonical form. -/
def SameForm (texts : Texts) (asset other : Asset) : Prop :=
  ∃ canonical, validateAssetValue texts (some asset.assetType) (some asset.value) = .ok canonical ∧
    validateAssetValue texts (some other.assetType) (some other.value) = .ok canonical

section

variable {httpUrl : String → Option (String × String)} {lower : String → String}
  {assetType : AssetType} {value canonical again : String} {word : List Char}

/-! What the validator returns, read again. -/

theorem ofList_word {tail : List Char} (shape : canonical.toList = word ++ tail) :
    String.ofList word = canonical ↔ tail = [] := by
  constructor
  · intro same
    rw [← same, String.toList_ofList] at shape
    exact List.self_eq_append_right.mp shape
  · rintro rfl
    rw [List.append_nil] at shape
    rw [← shape, String.ofList_toList]

theorem host_newline : isHost '\n' = false := by decide

/-- A word of a host name, with a newline at most, ends in a newline just where it has one. -/
theorem newline_last {tail : List Char} (ends : tail = [] ∨ tail = ['\n'])
    (hosts : ∀ char ∈ word, isHost char = true) :
    (word ++ tail).getLast? = some '\n' ↔ tail ≠ [] := by
  rcases ends with rfl | rfl
  · simp only [List.append_nil, ne_eq, not_true_eq_false, iff_false]
    intro last
    have host := hosts '\n' (List.mem_of_getLast? last)
    rw [host_newline] at host
    cases host
  · simp

theorem strip_last (text : List Char) : (Python.strip text).getLast? ≠ some '\n' := by
  intro last
  have nonempty : Python.strip text ≠ [] := by
    intro nothing
    rw [nothing] at last
    cases last
  apply List.rdropWhile_last_not Python.isSpace (text.dropWhile Python.isSpace) nonempty
  rw [List.getLast?_eq_some_getLast nonempty] at last
  change Python.isSpace ((Python.strip text).getLast nonempty) = true
  rw [Option.some.inj last]
  decide

theorem hostname_again (conforming : Conforming httpUrl lower)
    (accepted : validateAssetValue (addressTexts httpUrl lower) (some .hostname) (some value) =
      .ok canonical) :
    (∀ char ∈ canonical.toList, isHost char = true) ∧
      validateAssetValue (addressTexts httpUrl lower) (some .hostname) (some canonical) =
        .ok canonical := by
  obtain ⟨word, tail, shape, ends, hosts, again⟩ := hostname_word conforming.lawful accepted
  rw [validateAssetValue, validateText_ok] at accepted
  have nothing : tail = [] := by
    by_contra newline
    rw [← Ne, ← newline_last ends hosts, ← shape, accepted.2] at newline
    have last := (conforming.lower_newline _).mp newline
    simp only [addressTexts, pythonTexts, String.toList_ofList] at last
    exact strip_last _ last
  have same : String.ofList word = canonical := (ofList_word shape).mpr nothing
  rw [shape, nothing, List.append_nil]
  refine ⟨hosts, ?_⟩
  change validateAssetValue (pythonTexts addressText networkText httpUrl lower) _ _ = _
  rw [again, same]

/-- A domain name is stable just where no line of dots was cut off after a newline. -/
theorem domain_again (conforming : Conforming httpUrl lower)
    (accepted : validateAssetValue (addressTexts httpUrl lower) (some .domain) (some value) =
      .ok canonical) :
    validateAssetValue (addressTexts httpUrl lower) (some .domain) (some canonical) =
      .ok canonical ↔ ¬DotsLine value.toList := by
  obtain ⟨word, tail, shape, ends, hosts, again⟩ := domain_word conforming.lawful accepted
  rw [validateAssetValue, validateText_ok] at accepted
  obtain ⟨valid, written⟩ := accepted
  have written' : canonical =
      lower (String.ofList (Python.rstripDots (Python.strip value.toList))) := by
    simpa only [addressTexts, pythonTexts, String.toList_ofList] using written
  have stable : validateAssetValue (addressTexts httpUrl lower) (some .domain) (some canonical) =
      .ok canonical ↔ tail = [] := by
    change validateAssetValue (pythonTexts addressText networkText httpUrl lower) _ _ = _ ↔ _
    rw [again, Except.ok.injEq, ofList_word shape]
  have line : DotsLine value.toList ↔ tail ≠ [] := by
    rw [← newline_last ends hosts, ← shape, written', conforming.lower_newline,
      String.toList_ofList]
    constructor
    · intro line
      rcases Python.rstripDots_of_dotsLine line with nothing | last
      · rw [nothing] at written'
        have empty : canonical = "" := by
          rw [written']
          exact conforming.lower_kept _ (List.forall_mem_nil _)
        rw [← written, empty] at valid
        simp at valid
      · exact last
    · exact Python.dotsLine_of_rstripDots
  rw [stable, line, not_not]

theorem webApp_read (accepted : validateAssetValue (addressTexts httpUrl lower) (some .webApp)
      (some value) = .ok canonical) :
    ∃ scheme, httpUrl value = some (scheme, canonical) ∧ lower scheme ∈ ["http", "https"] := by
  rw [validateAssetValue, validateParsed_ok] at accepted
  obtain ⟨⟨scheme, text⟩, parsed, rfl⟩ := Option.map_eq_some_iff.mp accepted
  obtain ⟨found, web⟩ := Option.filter_eq_some_iff.mp parsed
  exact ⟨scheme, found, of_decide_eq_true web⟩

theorem webApp_of_read {scheme : String} (found : httpUrl value = some (scheme, canonical))
    (web : lower scheme ∈ ["http", "https"]) :
    validateAssetValue (addressTexts httpUrl lower) (some .webApp) (some value) =
      .ok canonical := by
  have web' : decide ((addressTexts httpUrl lower).lower scheme ∈ ["http", "https"]) = true :=
    decide_eq_true web
  rw [validateAssetValue, validateParsed_ok]
  change ((httpUrl value).filter _).map _ = _
  rw [found]
  simp only [Option.filter, web', ↓reduceIte, Option.map_some]

theorem outgrown_iff (accepted : validateAssetValue (addressTexts httpUrl lower) (some assetType)
      (some value) = .ok canonical) :
    Outgrown httpUrl assetType value ↔ assetType = .webApp ∧ urlWidth < canonical.length := by
  apply and_congr_right
  rintro rfl
  obtain ⟨scheme, found, _⟩ := webApp_read accepted
  constructor
  · rintro ⟨scheme', text, found', long⟩
    rw [found] at found'
    cases found'
    exact long
  · intro long
    exact ⟨scheme, canonical, found, long⟩

/-- What the validator takes a second time has not outgrown `HttpUrl`. -/
theorem not_outgrown (conforming : Conforming httpUrl lower)
    (accepted : validateAssetValue (addressTexts httpUrl lower) (some assetType) (some value) =
      .ok canonical)
    (accepted' : validateAssetValue (addressTexts httpUrl lower) (some assetType)
      (some canonical) = .ok again) : ¬Outgrown httpUrl assetType value := by
  rw [outgrown_iff accepted]
  rintro ⟨rfl, long⟩
  obtain ⟨scheme, found, _⟩ := webApp_read accepted'
  have short := conforming.httpUrl_short canonical _ found
  omega

theorem webApp_again (conforming : Conforming httpUrl lower)
    (accepted : validateAssetValue (addressTexts httpUrl lower) (some .webApp) (some value) =
      .ok canonical) :
    validateAssetValue (addressTexts httpUrl lower) (some .webApp) (some canonical) =
      .ok canonical ↔ ¬Outgrown httpUrl .webApp value := by
  constructor
  · exact not_outgrown conforming accepted
  · rw [outgrown_iff accepted]
    intro short
    have narrow : canonical.length ≤ urlWidth := Nat.le_of_not_lt fun long => short ⟨rfl, long⟩
    obtain ⟨scheme, found, web⟩ := webApp_read accepted
    exact webApp_of_read (conforming.httpUrl_text value scheme canonical found narrow) web

/-- A canonical value is its own canonical form but for the unstable domains and the web addresses
that are outgrown. -/
theorem canonical_again (conforming : Conforming httpUrl lower)
    (accepted : validateAssetValue (addressTexts httpUrl lower) (some assetType) (some value) =
      .ok canonical) :
    validateAssetValue (addressTexts httpUrl lower) (some assetType) (some canonical) =
      .ok canonical ↔ ¬Unstable assetType value ∧ ¬Outgrown httpUrl assetType value := by
  have other : assetType ≠ .domain → assetType ≠ .webApp →
      validateAssetValue (addressTexts httpUrl lower) (some assetType) (some canonical) =
        .ok canonical →
      (validateAssetValue (addressTexts httpUrl lower) (some assetType) (some canonical) =
        .ok canonical ↔ ¬Unstable assetType value ∧ ¬Outgrown httpUrl assetType value) := by
    intro domain webApp stable
    exact iff_of_true stable ⟨fun unstable => domain unstable.1, fun long => webApp long.1⟩
  cases assetType with
  | domain =>
      have short : ¬Outgrown httpUrl .domain value := fun long => absurd long.1 (by decide)
      rw [domain_again conforming accepted, and_iff_left short]
      exact not_congr (and_iff_right rfl).symm
  | hostname => exact other (by decide) (by decide) (hostname_again conforming accepted).2
  | ip =>
      apply other (by decide) (by decide)
      rw [validateAssetValue, validateParsed_ok] at accepted ⊢
      exact addressText_again accepted
  | subnet =>
      apply other (by decide) (by decide)
      rw [validateAssetValue, validateParsed_ok] at accepted ⊢
      exact networkText_again accepted
  | webApp =>
      have stable : ¬Unstable .webApp value := fun unstable => absurd unstable.1 (by decide)
      rw [webApp_again conforming accepted, and_iff_right stable]
  | cloudResource =>
      apply other (by decide) (by decide)
      rw [validateAssetValue, validateText_ok] at accepted ⊢
      obtain ⟨valid, rfl⟩ := accepted
      have stripped : (addressTexts httpUrl lower).strip ((addressTexts httpUrl lower).strip value) =
          (addressTexts httpUrl lower).strip value := by
        simp only [addressTexts, pythonTexts, String.toList_ofList, Python.strip_strip]
      rw [stripped]
      exact ⟨valid, rfl⟩

/-- Nothing follows a newline that ends a word. -/
theorem line_word {tail : List Char} (ends : tail = [] ∨ tail = ['\n'])
    (hosts : ∀ char ∈ word, isHost char = true) : ¬DotsLine (word ++ tail) := by
  rintro ⟨front, dots, spaces, shape, nonempty, _, _⟩
  have newline : '\n' ∉ word := by
    intro member
    have host := hosts _ member
    rw [host_newline] at host
    cases host
  have follows : dots ++ spaces ≠ [] := List.append_ne_nil_of_left_ne_nil nonempty _
  rcases ends with rfl | rfl
  · rw [List.append_nil] at shape
    apply newline
    rw [shape]
    exact List.mem_append_right _ List.mem_cons_self
  · rcases List.append_eq_append_iff.mp shape with ⟨inner, _, short⟩ | ⟨inner, split, short⟩
    · have lengths := congrArg List.length short
      have some' := List.length_pos_iff.mpr follows
      simp only [List.length_append, List.length_cons, List.length_nil] at lengths some'
      omega
    · cases inner with
      | nil => exact follows (List.cons.inj short).2
      | cons char inner =>
          apply newline
          rw [split, (List.cons.inj short).1]
          exact List.mem_append_right _ List.mem_cons_self

/-- The second of two turns of the validator is the last that can change anything. -/
theorem canonical_settles (conforming : Conforming httpUrl lower)
    (accepted : validateAssetValue (addressTexts httpUrl lower) (some assetType) (some value) =
      .ok canonical)
    (accepted' : validateAssetValue (addressTexts httpUrl lower) (some assetType)
      (some canonical) = .ok again) :
    validateAssetValue (addressTexts httpUrl lower) (some assetType) (some again) = .ok again := by
  have short := not_outgrown conforming accepted accepted'
  by_cases unstable : Unstable assetType value
  · obtain ⟨rfl, _⟩ := unstable
    rw [canonical_again conforming accepted']
    refine ⟨?_, fun long => absurd long.1 (by decide)⟩
    rintro ⟨_, line⟩
    obtain ⟨word, tail, shape, ends, hosts, _⟩ := domain_word conforming.lawful accepted
    rw [shape] at line
    exact line_word ends hosts line
  · have stable := (canonical_again conforming accepted).mpr ⟨unstable, short⟩
    have same : again = canonical := Except.ok.inj (accepted'.symm.trans stable)
    rw [same]
    exact stable

/-- A domain name keeps what neither `strip` nor `rstrip(".")` nor lower case takes away. -/
theorem domain_kept (conforming : Conforming httpUrl lower)
    (accepted : validateAssetValue (addressTexts httpUrl lower) (some .domain) (some value) =
      .ok canonical) {char : Char} (member : char ∈ value.toList) (ascii : char.toNat < 128)
    (small : isUpper char = false) (solid : Python.isSpace char = false) : isHost char = true := by
  by_cases dot : char = '.'
  · subst dot
    rfl
  · obtain ⟨word, tail, shape, ends, hosts, _⟩ := domain_word conforming.lawful accepted
    rw [validateAssetValue, validateText_ok] at accepted
    have undotted : (char == '.') = false := beq_eq_false_iff_ne.mpr dot
    have inside := @List.mem_rdropWhile _ (· == '.') _ _ (List.mem_trim member solid) undotted
    have kept := conforming.lower_ascii (String.ofList (Python.rstripDots
      (Python.strip value.toList))) char (by rwa [String.toList_ofList]) ascii small
    have written : canonical =
        lower (String.ofList (Python.rstripDots (Python.strip value.toList))) := by
      simpa only [addressTexts, pythonTexts, String.toList_ofList] using accepted.2
    rw [← written, shape, List.mem_append] at kept
    rcases kept with kept | kept
    · exact hosts char kept
    · rcases ends with rfl | rfl
      · cases kept
      · rw [List.mem_singleton.mp kept] at solid
        exact absurd solid (by decide)

theorem domain_unmarked (conforming : Conforming httpUrl lower)
    (accepted : validateAssetValue (addressTexts httpUrl lower) (some .domain) (some value) =
      .ok canonical) : ':' ∉ value.toList ∧ '/' ∉ value.toList := by
  constructor
  · intro colon
    have host := domain_kept conforming accepted colon (by decide) (by decide) (by decide)
    revert host
    decide
  · intro slash
    have host := domain_kept conforming accepted slash (by decide) (by decide) (by decide)
    revert host
    decide

theorem arn_colon {text : List Char} (matched : arn.matchesStart text = true) : ':' ∈ text := by
  obtain ⟨rest, left⟩ := Regex.matches_iff.mp matched
  obtain ⟨middle, left, _⟩ := Regex.mem_seq.mp left
  rw [Regex.mem_literal left]
  exact List.mem_append_left _ (by decide)

/-- What fits the asset table has not outgrown `HttpUrl`. -/
theorem not_outgrown_narrow
    (accepted : validateAssetValue (addressTexts httpUrl lower) (some assetType) (some value) =
      .ok canonical) (narrow : canonical.length ≤ valueWidth) :
    ¬Outgrown httpUrl assetType value := by
  rw [outgrown_iff accepted]
  rintro ⟨_, long⟩
  exact absurd (long.trans_le narrow) (by decide)

/-- A canonical value of any type that is also accepted as another one settles there. -/
theorem settles_as (conforming : Conforming httpUrl lower) {given : AssetType}
    (stored : validateAssetValue (addressTexts httpUrl lower) (some given) (some value) = .ok value)
    (accepted : validateAssetValue (addressTexts httpUrl lower) (some assetType) (some value) =
      .ok canonical) (narrow : canonical.length ≤ valueWidth) :
    validateAssetValue (addressTexts httpUrl lower) (some assetType) (some canonical) =
      .ok canonical := by
  rw [canonical_again conforming accepted]
  refine ⟨?_, not_outgrown_narrow accepted narrow⟩
  rintro ⟨rfl, line⟩
  obtain ⟨colonless, slashless⟩ := domain_unmarked conforming accepted
  have newline : '\n' ∈ value.toList := by
    obtain ⟨front, dots, spaces, shape, _⟩ := line
    rw [shape]
    exact List.mem_append_right _ List.mem_cons_self
  cases given with
  | domain => exact (domain_again conforming stored).mp stored line
  | hostname =>
      have host := (hostname_again conforming stored).1 _ newline
      rw [host_newline] at host
      cases host
  | ip =>
      rw [validateAssetValue, validateParsed_ok] at stored
      obtain ⟨address, _, rfl⟩ := Option.map_eq_some_iff.mp stored
      rw [String.toList_ofList] at colonless newline
      cases version : address.version with
      | v4 =>
          rw [Ip.text_v4 version] at newline
          rcases Ip.mem_print4 newline with digit | dot
          · revert digit
            decide
          · revert dot
            decide
      | v6 => exact colonless (Ip.colon_text version)
  | subnet =>
      rw [validateAssetValue, validateParsed_ok] at stored
      obtain ⟨network, _, rfl⟩ := Option.map_eq_some_iff.mp stored
      rw [String.toList_ofList] at slashless
      exact slashless (List.mem_append_right _ List.mem_cons_self)
  | webApp =>
      obtain ⟨scheme, found, _⟩ := webApp_read stored
      exact colonless (conforming.httpUrl_colon value scheme value found)
  | cloudResource =>
      rw [validateAssetValue, validateText_ok] at stored
      obtain ⟨valid, same⟩ := stored
      rw [← same] at valid
      exact colonless (arn_colon valid)

theorem validate_given {texts : Texts} {given : Option String}
    (accepted : validateAssetValue texts (some assetType) given = .ok canonical) :
    ∃ value, given = some value := by
  cases given with
  | some value => exact ⟨value, rfl⟩
  | none => cases assetType <;> cases accepted

/-! The assets that the service stores. -/

/-- `_validate_asset_value(asset_type, value)` is the value. -/
def Settled (texts : Texts) (assetType : AssetType) (value : String) : Prop :=
  validateAssetValue texts (some assetType) (some value) = .ok value

/-- `update_asset` validates a new value twice, and a stored value once. -/
theorem edit_settled (conforming : Conforming httpUrl lower) {data : AssetUpdate}
    {clock : Scans.Timestamp} {asset row : Asset} {changed : List String}
    (stored : Settled (addressTexts httpUrl lower) asset.assetType asset.value)
    (edited : data.edit (addressTexts httpUrl lower) clock asset = .ok (row, changed))
    (narrow : row.value.length ≤ valueWidth) :
    Settled (addressTexts httpUrl lower) row.assetType row.value := by
  obtain ⟨named, value, new, accepted⟩ := edit_canonical edited
  rw [AssetUpdate.newValue] at new
  cases written : data.value with
  | none =>
      rw [written] at new
      cases new
      exact settles_as conforming stored accepted narrow
  | some given =>
      rw [written] at new
      simp only [named] at new
      obtain ⟨text, rfl⟩ := validate_given new
      exact canonical_settles conforming new accepted

/-- The calls of `create_asset` that no unstable domain is given to. -/
def CreateCall.Stable (call : CreateCall) : Prop := ¬Unstable call.assetType call.value

theorem CreateCall.rows_settled (conforming : Conforming httpUrl lower) {call : CreateCall}
    (stable : call.Stable) {rows : List (AssetId × Asset)}
    (created : call.rows (addressTexts httpUrl lower) = some rows) :
    ∀ entry ∈ rows, Settled (addressTexts httpUrl lower) entry.2.assetType entry.2.value := by
  unfold CreateCall.rows at created
  split at created
  next => cases created
  next canonical accepted =>
    split at created
    next => cases created
    next narrow =>
      cases created
      intro entry member
      rw [List.mem_singleton.mp member]
      have short := not_outgrown_narrow accepted (Nat.le_of_not_lt narrow)
      exact (canonical_again conforming accepted).mpr ⟨stable, short⟩

/-- The runs in which each UPDATE finds the row as it was read, where it writes it in part, and in
which no unstable domain is created. -/
abbrev Careful (world : ReadCommitted.World AssetId Asset AssetColumns UpdateCall)
    (label : ReadCommitted.Label AssetId CreateCall UpdateCall) : Prop :=
  ReadCommitted.Fitting (fun before columns current => columns.Fits before current) world label ∧
    ReadCommitted.Creating CreateCall.Stable label

theorem stored_settled (conforming : Conforming httpUrl lower)
    {world : ReadCommitted.World AssetId Asset AssetColumns UpdateCall}
    (reached : (requests (addressTexts httpUrl lower)).machine.ReachableBy Careful world) :
    ∀ assetId asset, world.committed.find assetId = some asset →
      Settled (addressTexts httpUrl lower) asset.assetType asset.value := by
  apply ReadCommitted.stored_valid_where
    (fun asset : Asset => Settled (addressTexts httpUrl lower) asset.assetType asset.value) _ _
    reached
  · intro call _ rows stable created
    exact call.rows_settled conforming stable created
  · intro call before columns current read stored given fits
    apply write_pair (Settled (addressTexts httpUrl lower)) stored given fits
    intro row changed edited narrow
    exact edit_settled conforming read edited narrow

/-- Two rows that `uq_assets_tenant_type_value` lets stand side by side. -/
def Asset.Apart (asset other : Asset) : Prop :=
  ¬(asset.tenantId = other.tenantId ∧ asset.assetType = other.assetType ∧
    asset.value = other.value)

theorem not_valueTaken {table : AssetTable} {assetId id : AssetId} {row other : Asset}
    (listed : ∀ key row, table.find key = some row → key ∈ table.keys)
    (free : valueTaken table assetId row = false) (found : table.find id = some other)
    (differ : id ≠ assetId) : other.Apart row := by
  rintro ⟨tenant, type, value⟩
  rw [valueTaken, List.any_eq_false] at free
  apply free id (listed id other found)
  rw [Slot.satisfies_iff]
  refine ⟨other, Slot.row?_eq_some.mp found, ?_⟩
  simp [differ, tenant, type, value]

theorem stored_apart {texts : Texts}
    {allowed : ReadCommitted.World AssetId Asset AssetColumns UpdateCall →
      ReadCommitted.Label AssetId CreateCall UpdateCall → Prop}
    {world : ReadCommitted.World AssetId Asset AssetColumns UpdateCall}
    (reached : (requests texts).machine.ReachableBy allowed world) :
    ReadCommitted.Apart Asset.Apart world.committed := by
  apply ReadCommitted.stored_apart _ _ reached
  · intro row other apart same
    exact apart ⟨same.1.symm, same.2.1.symm, same.2.2.symm⟩
  · intro table key row listed admits id other found differ
    exact not_valueTaken listed (by simpa [requests] using admits) found differ

/-- A canonical value is its own canonical form but for the domains with a last line of dots and the
web addresses that `HttpUrl` writes longer than it reads, and where none of those domains is created
no two assets of a tenant and a type have one canonical form. -/
theorem canonical_forms_iff (conforming : Conforming httpUrl lower) :
    (∀ assetType value canonical,
      validateAssetValue (addressTexts httpUrl lower) (some assetType) (some value) =
        .ok canonical →
      (validateAssetValue (addressTexts httpUrl lower) (some assetType) (some canonical) =
        .ok canonical ↔ ¬Unstable assetType value ∧ ¬Outgrown httpUrl assetType value)) ∧
    ∀ world, (requests (addressTexts httpUrl lower)).machine.ReachableBy Careful world →
      ∀ first second asset other, world.committed.find first = some asset →
        world.committed.find second = some other → first ≠ second →
        asset.tenantId = other.tenantId → asset.assetType = other.assetType →
        ¬SameForm (addressTexts httpUrl lower) asset other := by
  refine ⟨fun _ _ _ accepted => canonical_again conforming accepted, ?_⟩
  intro world reached first second asset other found found' differ tenant type
  rintro ⟨canonical, form, form'⟩
  have settled := stored_settled conforming reached first asset found
  have settled' := stored_settled conforming reached second other found'
  have apart := (stored_apart reached).differ first second asset other found found' differ
  apply apart
  refine ⟨tenant, type, ?_⟩
  calc asset.value = canonical := Except.ok.inj (settled.symm.trans form)
    _ = other.value := Except.ok.inj (form'.symm.trans settled')

end

/-! A domain with a dot on a line of its own. -/

/-- `HttpUrl` of one site. -/
def siteUrl (text : String) : Option (String × String) :=
  if text ∈ ["http://A.com", "http://a.com/"] then some ("http", "http://a.com/") else none

def siteTexts : Texts := addressTexts siteUrl lowerAscii

theorem lowerAscii_newline (text : String) :
    (lowerAscii text).toList.getLast? = some '\n' ↔ text.toList.getLast? = some '\n' := by
  rw [lowerAscii, String.toList_ofList, List.getLast?_map]
  cases text.toList.getLast? with
  | none => simp
  | some last =>
      rw [Option.map_some, Option.some.injEq, Option.some.injEq]
      cases upper : isUpper last with
      | false => rw [lowerChar_small upper]
      | true =>
          have written := lowerChar_upper upper
          constructor
          · intro newline
            rw [newline] at written
            simp only [isUpper, Bool.and_eq_true, decide_eq_true_eq] at upper
            have ten : '\n'.toNat = 10 := rfl
            omega
          · rintro rfl
            exact absurd upper (by decide)

theorem siteTexts_conforming : Conforming siteUrl lowerAscii := by
  have site : ∀ text scheme canonical, siteUrl text = some (scheme, canonical) →
      scheme = "http" ∧ canonical = "http://a.com/" := by
    intro text scheme canonical read
    rw [siteUrl] at read
    split at read
    next =>
      cases read
      exact ⟨rfl, rfl⟩
    next => cases read
  refine ⟨?_, ?_, ?_, plainTexts_lawful.lower_capital, plainTexts_lawful.lower_kept, ?_,
    lowerAscii_newline⟩
  · intro text parsed read
    rw [siteUrl] at read
    split at read
    next listed =>
      simp only [List.mem_cons, List.not_mem_nil, or_false] at listed
      rcases listed with rfl | rfl
      · decide
      · decide
    next => cases read
  · intro text scheme canonical read _
    obtain ⟨rfl, rfl⟩ := site text scheme canonical read
    rfl
  · intro text scheme canonical read
    rw [(site text scheme canonical read).2]
    decide
  · intro text char member _ small
    rw [lowerAscii, String.toList_ofList]
    exact List.mem_map.mpr ⟨char, member, lowerChar_small small⟩

/-- A domain name goes through two patterns, read on the list of its characters. -/
theorem validateDomain_ok {httpUrl : String → Option (String × String)} {lower : String → String}
    {value canonical : String} :
    validateAssetValue (addressTexts httpUrl lower) (some .domain) (some value) = .ok canonical ↔
      canonical = lower (String.ofList (Python.rstripDots (Python.strip value.toList))) ∧
      canonical ≠ "" ∧ fqdnFull.matchesStart canonical.toList = true ∧
      ∀ part ∈ canonical.toList.splitOn '.', fqdnLabel.matchesStart part = true := by
  rw [validateAssetValue, validateText_ok, and_comm]
  simp only [addressTexts, reMatch_fqdnFull, Python.splitOn_dot, Bool.and_eq_true, bne_iff_ne,
    List.all_map, List.all_eq_true, Function.comp_apply, reMatch_fqdnLabel, String.toList_ofList]
  simp only [pythonTexts, String.toList_ofList, and_assoc]
  constructor
  · rintro ⟨rfl, valid⟩
    exact ⟨rfl, valid⟩
  · rintro ⟨rfl, valid⟩
    exact ⟨rfl, valid⟩

theorem CreateCall.rows_of {texts : Texts} {call : CreateCall} {canonical : String}
    (valid : validateAssetValue texts (some call.assetType) (some call.value) = .ok canonical)
    (narrow : canonical.length ≤ valueWidth) :
    call.rows texts = some
      [(call.assetId, ⟨call.tenantId, canonical, call.assetType, call.clock, call.clock⟩)] := by
  rw [CreateCall.rows, valid]
  exact if_neg (Nat.not_lt.mpr narrow)

def dottedCall : CreateCall := ⟨7, 1, .domain, "a.com\n.", 100⟩

def plainCall : CreateCall := ⟨8, 1, .domain, "A.com", 200⟩

def otherCall : CreateCall := ⟨9, 1, .domain, "b.com.", 300⟩

/-- What the validator makes of the domain names. -/
theorem site_domains :
    validateAssetValue siteTexts (some .domain) (some "a.com\n.") = .ok "a.com\n" ∧
      validateAssetValue siteTexts (some .domain) (some "a.com\n") = .ok "a.com" ∧
      validateAssetValue siteTexts (some .domain) (some "A.com") = .ok "a.com" ∧
      validateAssetValue siteTexts (some .domain) (some "a.com") = .ok "a.com" ∧
      validateAssetValue siteTexts (some .domain) (some "b.com.") = .ok "b.com" := by
  refine ⟨?_, ?_, ?_, ?_, ?_⟩
  · exact validateDomain_ok.mpr (by decide +kernel)
  · exact validateDomain_ok.mpr (by decide +kernel)
  · exact validateDomain_ok.mpr (by decide +kernel)
  · exact validateDomain_ok.mpr (by decide +kernel)
  · exact validateDomain_ok.mpr (by decide +kernel)

theorem plain_rows : plainCall.rows siteTexts = some [(8, ⟨1, "a.com", .domain, 200, 200⟩)] :=
  CreateCall.rows_of site_domains.2.2.1 (by decide)

/-- The schema lets `"a.com\n."` through. It is stored with its newline, beside `"a.com"`. -/
theorem dotted_beside_plain :
    Scans.stripWhitespace dottedCall.value = dottedCall.value ∧ dottedCall.value.length ≤ 255 ∧
      validateAssetValue siteTexts (some .domain) (some "a.com\n.") = .ok "a.com\n" ∧
      validateAssetValue siteTexts (some .domain) (some "a.com\n") ≠ .ok "a.com\n" ∧
      ∃ world asset other, (requests siteTexts).machine.Reachable world ∧
        world.committed.find 7 = some asset ∧ world.committed.find 8 = some other ∧
        asset.tenantId = other.tenantId ∧ asset.assetType = other.assetType ∧
        SameForm siteTexts asset other := by
  obtain ⟨dotted_valid, dotted_again, _, plain_again, _⟩ := site_domains
  have start : (requests siteTexts).machine.ReachableBy
      (fun world label => ReadCommitted.Fitting (fun _ _ _ => True) world label ∧
        ReadCommitted.Creating (fun _ => True) label) .empty := .start rfl
  have dotted_rows : dottedCall.rows siteTexts =
      some [(7, ⟨1, "a.com\n", .domain, 100, 100⟩)] :=
    CreateCall.rows_of dotted_valid (by decide)
  have first := ReadCommitted.reachable_insert 0 start rfl trivial dotted_rows rfl
    (by decide +kernel)
  have second := ReadCommitted.reachable_insert 0 first rfl trivial plain_rows rfl
    (by decide +kernel)
  refine ⟨by decide +kernel, by decide, dotted_valid, ?_, _, _, _, second.reachable, rfl, rfl, rfl,
    rfl, "a.com", dotted_again, plain_again⟩
  rw [dotted_again]
  decide

/-- Two requests on one asset: the one makes it a network, the other renames it to an address that is
no network in canonical form. -/
theorem renamed_beside_network :
    ∃ world asset other, (requests siteTexts).machine.Reachable world ∧
      world.committed.find 7 = some asset ∧ world.committed.find 8 = some other ∧
      asset.tenantId = other.tenantId ∧ asset.assetType = other.assetType ∧
      SameForm siteTexts asset other := by
  have run : ((requests siteTexts).machine.exec .empty
      [.create 0 ⟨7, 1, .hostname, "a", 100⟩, .flush 0, .commit 0,
        .create 0 ⟨8, 1, .subnet, "10.0.0.1", 100⟩, .flush 0, .commit 0,
        .read 1 7 ⟨some 1, ⟨some (some .subnet), some (some "10.0.0.0/8")⟩, 200⟩,
        .read 2 7 ⟨some 1, ⟨none, some (some "10.0.0.1")⟩, 300⟩, .validate 1, .validate 2,
        .flush 1, .commit 1, .flush 2, .commit 2]).map
        (fun world => (world.committed.find 7, world.committed.find 8)) =
      some (some ⟨1, "10.0.0.1", .subnet, 100, 300⟩,
        some ⟨1, "10.0.0.1/32", .subnet, 100, 100⟩) := by
    decide +kernel
  obtain ⟨world, run, found⟩ := Option.map_eq_some_iff.mp run
  obtain ⟨first, second⟩ := Prod.mk.inj found
  refine ⟨world, _, _, Machine.Reachable.exec (.start rfl) run, first, second, rfl, rfl,
    "10.0.0.1/32", ?_, ?_⟩
  · decide +kernel
  · decide +kernel

/-- The web address of one asset, and the domain names of two. -/
theorem canonical_forms_site :
    validateAssetValue siteTexts (some .webApp) (some "http://a.com/") = .ok "http://a.com/" ∧
      ¬SameForm siteTexts ⟨1, "a.com", .domain, 200, 200⟩ ⟨1, "b.com", .domain, 300, 300⟩ := by
  have unlined : ∀ text : List Char, '\n' ∉ text → ¬DotsLine text := by
    rintro text unlined ⟨front, dots, spaces, rfl, _⟩
    exact unlined (List.mem_append_right _ List.mem_cons_self)
  have start : (requests siteTexts).machine.ReachableBy Careful .empty := .start rfl
  have other_rows : otherCall.rows siteTexts = some [(9, ⟨1, "b.com", .domain, 300, 300⟩)] :=
    CreateCall.rows_of site_domains.2.2.2.2 (by decide)
  have first := ReadCommitted.reachable_insert 0 start rfl
    (fun unstable => unlined _ (by decide) unstable.2) plain_rows rfl (by decide +kernel)
  have second := ReadCommitted.reachable_insert 0 first rfl
    (fun unstable => unlined _ (by decide) unstable.2) other_rows rfl (by decide +kernel)
  have found : validateAssetValue siteTexts (some .webApp) (some "http://A.com") =
      .ok "http://a.com/" := by decide +kernel
  constructor
  · refine ((canonical_forms_iff siteTexts_conforming).1 .webApp "http://A.com" _ found).mpr ?_
    · exact ⟨fun unstable => absurd unstable.1 (by decide), not_outgrown_narrow found (by decide)⟩
  · exact (canonical_forms_iff siteTexts_conforming).2 _ second 8 9 _ _ rfl rfl (by decide) rfl rfl

end Assets
