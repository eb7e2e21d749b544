import Soc360.Assets.Canonical
import Soc360.Ip.Widths
import Soc360.Text.Trim

set_option autoImplicit false

namespace Assets

open Ip (width6)
open Scans (addressText addressTexts networkText)

/-- Where the canonical form of a value is no wider than its column. An address has 255 characters
at most with its zone, a network also with the prefix that is written, and `HttpUrl` writes no more. -/
def FitsColumn (httpUrl : String → Option (String × String)) (value : String) : AssetType → Prop
  | .ip => ∀ address, Ip.ipAddress value.toList = some address → ∀ zone, address.scope = some zone →
      width6 address.number + 1 + zone.length ≤ valueWidth
  | .subnet => ∀ network, Ip.ipNetwork value.toList = some network →
      ∀ zone, network.network.scope = some zone →
        width6 network.network.number + 1 + zone.length + 1 +
          (Nat.toDigits 10 network.prefixlen).length ≤ valueWidth
  | .webApp => ∀ scheme text, httpUrl value = some (scheme, text) → text.length ≤ valueWidth
  | .domain | .hostname | .cloudResource => True

section

variable {httpUrl : String → Option (String × String)} {lower : String → String}
  {assetType : AssetType} {value canonical : String}

/-- What `(?=.{1,253}$)` stands before has 254 characters at most. -/
theorem short_matched {body : Regex} {text : List Char}
    (matched : (Regex.seq shortAhead body).matchesStart text = true) :
    text.length ≤ 254 := by
  obtain ⟨rest, left⟩ := Regex.matches_iff.mp matched
  obtain ⟨middle, short, _⟩ := Regex.mem_seq.mp left
  rw [shortAhead, Regex.rests] at short
  split at short
  next => cases short
  next seen =>
    obtain ⟨ends, left⟩ := List.exists_mem_of_ne_nil _ seen
    obtain ⟨rest, taken, stops⟩ := Regex.mem_seq.mp left
    have bounded := Regex.length_between (by decide) taken
    rcases (Regex.mem_stop.mp stops).2 with rfl | rfl
    · exact bounded.trans (by decide)
    · exact bounded

theorem name_fits (accepted : validateAssetValue (addressTexts httpUrl lower) (some assetType)
      (some value) = .ok canonical) (name : assetType = .domain ∨ assetType = .hostname) :
    canonical.length ≤ 254 := by
  rcases name with rfl | rfl
  · obtain ⟨_, _, full, _⟩ := validateDomain_ok.mp accepted
    exact short_matched full
  · rw [validateAssetValue, validateText_ok] at accepted
    obtain ⟨valid, rfl⟩ := accepted
    rw [Bool.and_eq_true, addressTexts, reMatch_hostname] at valid
    exact short_matched valid.2

/-- A canonical value fits its column just where the value is such. -/
theorem canonical_length_iff (given : value.length ≤ valueWidth)
    (accepted : validateAssetValue (addressTexts httpUrl lower) (some assetType) (some value) =
      .ok canonical) :
    canonical.length ≤ valueWidth ↔ FitsColumn httpUrl value assetType := by
  cases assetType with
  | domain =>
      have short := name_fits accepted (.inl rfl)
      exact iff_of_true (short.trans (by decide)) trivial
  | hostname =>
      have short := name_fits accepted (.inr rfl)
      exact iff_of_true (short.trans (by decide)) trivial
  | cloudResource =>
      rw [validateAssetValue, validateText_ok] at accepted
      obtain ⟨_, rfl⟩ := accepted
      have shorter := @List.length_trim_le _ Python.isSpace value.toList
      rw [String.length_toList] at shorter
      refine iff_of_true (le_trans ?_ given) trivial
      change (String.ofList (Python.strip value.toList)).length ≤ value.length
      rw [String.length_ofList]
      exact shorter
  | webApp =>
      rw [validateAssetValue, validateParsed_ok] at accepted
      obtain ⟨⟨scheme, text⟩, parsed, rfl⟩ := Option.map_eq_some_iff.mp accepted
      obtain ⟨found, _⟩ := Option.filter_eq_some_iff.mp parsed
      have found : httpUrl value = some (scheme, text) := found
      simp [FitsColumn, found]
  | ip =>
      rw [validateAssetValue, validateParsed_ok] at accepted
      obtain ⟨address, read, rfl⟩ := Option.map_eq_some_iff.mp accepted
      rw [String.length_ofList]
      simp only [FitsColumn, read, Option.some.injEq, forall_eq']
      cases scope : address.scope with
      | none =>
          refine iff_of_true ((Ip.length_text_plain scope).trans (by decide)) ?_
          intro zone given
          cases given
      | some zone => simp [Ip.length_text_zone scope]
  | subnet =>
      rw [validateAssetValue, validateParsed_ok] at accepted
      obtain ⟨network, read, rfl⟩ := Option.map_eq_some_iff.mp accepted
      rw [String.length_ofList]
      simp only [FitsColumn, read, Option.some.injEq, forall_eq']
      cases scope : network.network.scope with
      | none =>
          refine iff_of_true ((Ip.length_networkText_plain scope).trans (by decide)) ?_
          intro zone given
          cases given
      | some zone => simp [Ip.length_networkText, Ip.length_text_zone scope]

/-- An address of 254 characters at most fits its column. -/
theorem address_fits (short : value.length < valueWidth) : FitsColumn httpUrl value .ip := by
  intro address read zone scope
  have growth := Ip.text_growth read
  rw [Ip.length_text_zone scope, String.length_toList] at growth
  omega

/-- `create_asset` reaches its commit just where the canonical value fits. -/
theorem create_rows_iff {call : CreateCall} (given : call.value.length ≤ valueWidth)
    (accepted : validateAssetValue (addressTexts httpUrl lower) (some call.assetType)
      (some call.value) = .ok canonical) :
    (call.rows (addressTexts httpUrl lower)).isSome = true ↔
      FitsColumn httpUrl call.value call.assetType := by
  rw [← canonical_length_iff given accepted, CreateCall.rows, accepted]
  simp only
  split
  next wide => simp [Nat.not_le.mpr wide]
  next narrow => simp [Nat.not_lt.mp narrow]

/-- A second turn of the validator leaves the length. -/
theorem again_length_iff (conforming : Conforming httpUrl lower) {again : String}
    (accepted : validateAssetValue (addressTexts httpUrl lower) (some assetType) (some value) =
      .ok canonical)
    (accepted' : validateAssetValue (addressTexts httpUrl lower) (some assetType)
      (some canonical) = .ok again) :
    again.length ≤ valueWidth ↔ canonical.length ≤ valueWidth := by
  by_cases unstable : Unstable assetType value
  · have short := name_fits accepted (.inl unstable.1)
    have short' := name_fits accepted' (.inl unstable.1)
    exact iff_of_true (short'.trans (by decide)) (short.trans (by decide))
  · have short := not_outgrown conforming accepted accepted'
    have stable := (canonical_again conforming accepted).mpr ⟨unstable, short⟩
    rw [Except.ok.inj (accepted'.symm.trans stable)]

/-- `update_asset` writes a new value just where its canonical form fits. -/
theorem update_columns_iff (conforming : Conforming httpUrl lower) {call : UpdateCall}
    {asset row : Asset} {changed : List String} (given : value.length ≤ valueWidth)
    (new : call.data.value = some (some value))
    (visible : call.tenantId.all (asset.tenantId == ·) = true)
    (edited : call.data.edit (addressTexts httpUrl lower) call.clock asset = .ok (row, changed)) :
    (call.columns (addressTexts httpUrl lower) asset).isSome = true ↔
      FitsColumn httpUrl value row.assetType := by
  obtain ⟨named, middle, first, second⟩ := edit_canonical edited
  rw [AssetUpdate.newValue, new] at first
  simp only [named] at first
  rw [← canonical_length_iff given first, ← again_length_iff conforming first second,
    UpdateCall.columns, if_pos visible, edited]
  simp only
  split
  next wide => simp [Nat.not_le.mpr wide]
  next narrow => simp [Nat.not_lt.mp narrow]

/-- The canonical form of a value that the schema lets through fits its column, and a request that
writes it does not fail for its length, just where the value is such. -/
theorem fits_column_iff (conforming : Conforming httpUrl lower) (given : value.length ≤ valueWidth)
    (accepted : validateAssetValue (addressTexts httpUrl lower) (some assetType) (some value) =
      .ok canonical) :
    (canonical.length ≤ valueWidth ↔ FitsColumn httpUrl value assetType) ∧
    (∀ call : CreateCall, call.assetType = assetType → call.value = value →
      ((call.rows (addressTexts httpUrl lower)).isSome = true ↔
        FitsColumn httpUrl value assetType)) ∧
    ∀ (call : UpdateCall) (asset row : Asset) (changed : List String),
      call.data.value = some (some value) → row.assetType = assetType →
      call.tenantId.all (asset.tenantId == ·) = true →
      call.data.edit (addressTexts httpUrl lower) call.clock asset = .ok (row, changed) →
      ((call.columns (addressTexts httpUrl lower) asset).isSome = true ↔
        FitsColumn httpUrl value assetType) := by
  refine ⟨canonical_length_iff given accepted, ?_, ?_⟩
  · rintro call rfl rfl
    exact create_rows_iff given accepted
  · rintro call asset row changed new rfl visible edited
    exact update_columns_iff conforming given new visible edited

end

theorem one_lt_width : 1 < 2 ^ Ip.Version.v6.width := by decide

/-- `::1` in a zone. -/
def loopback (zone : List Char) (valid : zone ≠ [] ∧ '%' ∉ zone ∧ '/' ∉ zone) : Ip.Address where
  version := .v6
  number := 1
  scope := some zone
  bound := one_lt_width
  validScope := by
    intro name given
    cases given
    exact ⟨rfl, valid⟩

/-- `::1` in a zone is the network of that address alone. -/
theorem loopback_network {zone : List Char} (valid : zone ≠ [] ∧ '%' ∉ zone ∧ '/' ∉ zone) :
    validateAssetValue siteTexts (some .subnet) (some (String.ofList ("::1%".toList ++ zone))) =
      .ok (String.ofList ("::1%".toList ++ zone ++ "/128".toList)) := by
  have text : (loopback zone valid).text = "::1%".toList ++ zone := by
    have number : Ip.print6 1 = "::1".toList := by decide +kernel
    have written : (loopback zone valid).text = Ip.print6 1 ++ '%' :: zone := Ip.text_v6 rfl
    rw [written, number]
    rfl
  have read := Ip.ipNetwork_address (loopback zone valid)
  rw [Ip.networkOf_full, text] at read
  rw [validateAssetValue, validateParsed_ok]
  change networkText _ = _
  rw [networkText, String.toList_ofList, read, Option.map_some, Ip.Network.text]
  have written : '/' :: Nat.toDigits 10 128 = "/128".toList := by decide
  change some (String.ofList ((loopback zone valid).text ++ '/' :: Nat.toDigits 10 128)) = _
  rw [text, written]

/-- With a zone of 251 characters the schema lets the text of 255 through, which is a network of
259. -/
theorem loopback_wide {zone : List Char} (valid : zone ≠ [] ∧ '%' ∉ zone ∧ '/' ∉ zone)
    (solid : ∀ char ∈ zone, Scans.isWhiteSpace char = false) (long : zone.length = 251) :
    let value := String.ofList ("::1%".toList ++ zone)
    Scans.stripWhitespace value = value ∧ value.length = 255 ∧
      ∃ canonical, validateAssetValue siteTexts (some .subnet) (some value) = .ok canonical ∧
        canonical.length = 259 ∧ (CreateCall.mk 7 1 .subnet value 100).rows siteTexts = none := by
  intro value
  have whole : ∀ char ∈ "::1%".toList ++ zone, Scans.isWhiteSpace char = false := by
    intro char member
    rcases List.mem_append.mp member with member | member
    · have ascii : ∀ char ∈ "::1%".toList, Scans.isWhiteSpace char = false :=
        Python.each_of_all (by decide)
      exact ascii char member
    · exact solid char member
  have accepted := loopback_network valid
  have wide : (String.ofList ("::1%".toList ++ zone ++ "/128".toList)).length = 259 := by
    rw [String.length_ofList, List.length_append, List.length_append, long]
    rfl
  refine ⟨?_, ?_, _, accepted, wide, ?_⟩
  · rw [Scans.stripWhitespace, String.toList_ofList]
    exact congrArg String.ofList (List.trim_solid whole)
  · rw [String.length_ofList, List.length_append, long]
    rfl
  · simp only [CreateCall.rows, value, accepted]
    rw [if_pos]
    rw [wide]
    decide

/-- `::1` with a zone of 251 characters. -/
def zoned : String := String.ofList ("::1%".toList ++ List.replicate 251 'a')

def zonedCall : CreateCall := ⟨7, 1, .subnet, zoned, 100⟩

/-- The schema lets the text of 255 characters through, which is a network of 259, and the INSERT
fails. -/
theorem zoned_network_too_wide :
    Scans.stripWhitespace zoned = zoned ∧ zoned.length = 255 ∧
      ∃ canonical, validateAssetValue siteTexts (some .subnet) (some zoned) = .ok canonical ∧
        canonical.length = 259 ∧ zonedCall.rows siteTexts = none := by
  have only : ∀ char ∈ List.replicate 251 'a', char = 'a' := fun _ => List.eq_of_mem_replicate
  refine loopback_wide ⟨?_, ?_, ?_⟩ ?_ List.length_replicate
  · rintro nothing
    cases nothing
  · intro percent
    exact absurd (only _ percent) (by decide)
  · intro slash
    exact absurd (only _ slash) (by decide)
  · intro char member
    rw [only char member]
    decide

theorem fits_column_zone :
    FitsColumn siteUrl "::1%eth0" .subnet ∧
      ((CreateCall.mk 7 1 .subnet "::1%eth0" 100).rows siteTexts).isSome = true := by
  have accepted : validateAssetValue siteTexts (some .subnet) (some "::1%eth0") =
      .ok "::1%eth0/128" := by
    have network := @loopback_network "eth0".toList (by decide)
    exact network
  have fits := fits_column_iff siteTexts_conforming (by decide) accepted
  have narrow : FitsColumn siteUrl "::1%eth0" .subnet := fits.1.mp (by decide)
  exact ⟨narrow, (fits.2.1 _ rfl rfl).mpr narrow⟩

end Assets
