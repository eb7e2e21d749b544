import Mathlib.Data.Bool.AllAny
import Soc360.Frontend.AssetValues

set_option autoImplicit false

/-! The check of the form beside the one of the service. -/

namespace Frontend

namespace AssetValues

open Assets (AssetType Conforming fqdn_host hostname_host isHost isHost_lt lowerAscii lowerChar
  siteTexts siteUrl valueWidth)
open Regex (seq)
open Scans (addressText addressTexts networkText)

section

variable {httpUrl : String → Option (String × String)} {lower : String → String}
  {protocol : String → Option String} {type : AssetType} {value canonical : String}

/-- `HttpUrl` and `URL` read one grammar: what the one takes, the other takes with the scheme, which
is in lower case, and neither takes the empty text. A URL is written in visible ASCII. Lower case of
ASCII is that of its letters. -/
structure Browsing (httpUrl : String → Option (String × String)) (lower : String → String)
    (protocol : String → Option String) : Prop extends Conforming httpUrl lower where
  protocol_scheme : ∀ text scheme canonical, httpUrl text = some (scheme, canonical) →
    protocol text = some (scheme ++ ":")
  protocol_empty : protocol "" = none
  scheme_lower : ∀ text scheme canonical, httpUrl text = some (scheme, canonical) →
    lower scheme = scheme
  httpUrl_visible : ∀ text scheme canonical, httpUrl text = some (scheme, canonical) →
    ∀ char ∈ canonical.toList, Visible char
  lower_text : ∀ text, (∀ char ∈ text.toList, char.toNat < 0x80) → lower text = lowerAscii text

/-- Without white space at either end, for the service and for the form. -/
def Trimmed (value : String) : Prop :=
  Python.strip value.toList = value.toList ∧ JavaScript.trim value = value

instance (value : String) : Decidable (Trimmed value) := inferInstanceAs (Decidable (_ ∧ _))

/-- Where the form takes a value that the service takes. -/
def Expressible (value : String) : AssetType → Prop
  | .ip => Plain value.toList
  | .subnet => Prefixed value.toList
  | .domain => (∀ char ∈ value.toList, char.toNat < 0x80) ∧ value.toList.getLast? ≠ some '.'
  | .hostname => ∀ char ∈ value.toList, char.toNat < 0x80
  -- a character beyond U+FFFF counts twice in the form
  | .webApp => JavaScript.length value ≤ 255
  | .cloudResource => JavaScript.length value ≤ 255 ∧
      ∀ piece ∈ (value.toList.splitOn ':').drop 5, ∀ char ∈ piece, isInLine char = true

theorem visible_solid {char : Char} (visible : Visible char) : JavaScript.isSpace char = false := by
  rw [Visible] at visible
  apply Bool.eq_false_iff.mpr
  intro space
  simp only [JavaScript.isSpace, decide_eq_true_eq, List.mem_cons, List.not_mem_nil, or_false]
    at space
  omega

/-- A visible text that is valid for its type. -/
structure Taken (protocol : String → Option String) (type : AssetType) (text : String) : Prop where
  valid : isValidValue protocol type text = true
  visible : ∀ char ∈ text.toList, Visible char
  nonempty : text ≠ ""

theorem Taken.accepted (taken : Taken protocol type value) (fits : value.length ≤ valueWidth) :
    validateAssetValue protocol type value = none := by
  have trimmed : JavaScript.trim value = value :=
    JavaScript.trim_solid fun char member => visible_solid (taken.visible char member)
  have length : JavaScript.length value = value.length :=
    JavaScript.length_of_small fun char member => (taken.visible char member).2.trans (by decide)
  rw [validateAssetValue_none trimmed, length]
  exact ⟨taken.nonempty, fits, taken.valid⟩

/-- The form takes a value and its canonical form. -/
def AcceptsBoth (protocol : String → Option String) (type : AssetType) (value canonical : String) :
    Prop :=
  validateAssetValue protocol type value = none ∧
    (canonical.length ≤ valueWidth → validateAssetValue protocol type canonical = none)

theorem acceptsBoth_iff (trimmed : Trimmed value) (fits : value.length ≤ valueWidth)
    (needs : isValidValue protocol type value = true → Expressible value type)
    (gives : Expressible value type →
      Taken protocol type value ∧ Taken protocol type canonical) :
    AcceptsBoth protocol type value canonical ↔ Expressible value type := by
  constructor
  · rintro ⟨accepted, _⟩
    exact needs ((validateAssetValue_none trimmed.2).mp accepted).2.2
  · intro expressible
    obtain ⟨taken, taken'⟩ := gives expressible
    exact ⟨taken.accepted fits, taken'.accepted⟩

theorem toList_ne_nil (some' : value.toList ≠ []) : value ≠ "" := by
  rintro rfl
  exact some' rfl

theorem ip_iff (read : addressText value = some canonical) (trimmed : Trimmed value)
    (fits : value.length ≤ valueWidth) :
    AcceptsBoth protocol .ip value canonical ↔ Expressible value .ip := by
  obtain ⟨address, found, rfl⟩ := Option.map_eq_some_iff.mp read
  have taken : ∀ {text : String}, isIpv4 text.toList = true ∨ isIpv6 text.toList = true →
      Taken protocol .ip text := by
    intro text shown
    exact ⟨(Bool.or_eq_true _ _).mpr shown, address_visible shown,
      toList_ne_nil (address_nonempty shown)⟩
  refine acceptsBoth_iff trimmed fits ?_ ?_
  · intro valid
    exact plain_of_shown ((Bool.or_eq_true _ _).mp valid)
  · intro plain
    obtain ⟨shown, scopeless⟩ :=
      shown_read ((Option.or_eq_some_iff.mp found).imp_right And.right) plain
    refine ⟨taken shown.either, taken ?_⟩
    rw [String.toList_ofList]
    exact (shown_text scopeless).either

theorem subnet_iff (read : networkText value = some canonical) (trimmed : Trimmed value)
    (fits : value.length ≤ valueWidth) :
    AcceptsBoth protocol .subnet value canonical ↔ Expressible value .subnet := by
  obtain ⟨network, found, rfl⟩ := Option.map_eq_some_iff.mp read
  have few := network_parts found
  have taken : ∀ {text : String}, (text.toList.splitOn '/').length ≤ 2 →
      isSubnet text.toList = true → Taken protocol .subnet text := by
    intro text few accepted
    refine ⟨accepted, subnet_visible few accepted, toList_ne_nil ?_⟩
    intro empty
    rw [empty] at accepted
    exact absurd accepted (by decide)
  refine acceptsBoth_iff trimmed fits ?_ ?_
  · intro valid
    obtain ⟨body, mask, shape, decimal, shown⟩ := subnet_pair few valid
    exact ⟨body, mask, shape, decimal, plain_of_shown shown⟩
  · intro prefixed
    obtain ⟨accepted, accepted'⟩ := subnet_of_prefixed found prefixed
    refine ⟨taken few accepted, taken ?_ ?_⟩
    · rw [String.toList_ofList, Ip.Network.text, Ip.split_prefixed]
      exact le_rfl
    · rw [String.toList_ofList]
      exact accepted'

theorem hosts_ascii {text : List Char} (hosts : ∀ char ∈ text, isHost char = true) :
    ∀ char ∈ text, char.toNat < 0x80 := by
  intro char member
  exact (isHost_lt (hosts char member)).2.trans (by decide)

theorem unended (trimmed : Trimmed value) : value.toList.getLast? ≠ some '\n' := by
  rw [← trimmed.1]
  exact Assets.strip_last _

/-- An ASCII name whose lower case the service matches is taken, and so is its lower case. -/
theorem named_taken {body : Regex} (checked : ∀ text, isValidValue protocol type text =
      (short.matchesWhole text.toList && body.matchesWhole text.toList))
    (reflects : body.Reflects lowerChar)
    (host : ∀ char, body.alphabet char = true → isHost char = true) (trimmed : Trimmed value)
    (some' : lowerAscii value ≠ "")
    (matched : (seq Assets.shortAhead (seq body Regex.stop)).matchesStart
      (lowerAscii value).toList = true) :
    Taken protocol type value ∧ Taken protocol type (lowerAscii value) := by
  have both := named_both (unended trimmed) reflects host matched
  have taken : ∀ name, name = value ∨ name = lowerAscii value → name ≠ "" →
      Taken protocol type name := by
    intro name which some'
    obtain ⟨valid, hosts⟩ := both name which
    refine ⟨(checked name).trans valid, ?_, some'⟩
    intro char member
    have range := isHost_lt (hosts char member)
    rw [Visible]
    omega
  refine ⟨taken value (.inl rfl) ?_, taken _ (.inr rfl) some'⟩
  rintro rfl
  exact some' rfl

theorem hostname_iff (browsing : Browsing httpUrl lower protocol)
    (accepted : Assets.validateAssetValue (addressTexts httpUrl lower) (some .hostname)
      (some value) = .ok canonical) (trimmed : Trimmed value) (fits : value.length ≤ valueWidth) :
    AcceptsBoth protocol .hostname value canonical ↔ Expressible value .hostname := by
  refine acceptsBoth_iff trimmed fits ?_ ?_
  · intro valid
    have whole := ((Bool.and_eq_true _ _).mp valid).2
    exact hosts_ascii fun char member =>
      hostname_host (Regex.matchesWhole_alphabet whole char member)
  · intro ascii
    have normal : (addressTexts httpUrl lower).lower ((addressTexts httpUrl lower).strip value) =
        lowerAscii value := by
      change lower (String.ofList (Python.strip value.toList)) = _
      rw [trimmed.1, String.ofList_toList, browsing.lower_text value ascii]
    rw [Assets.validateAssetValue, Assets.validateText_ok, normal, Bool.and_eq_true,
      bne_iff_ne] at accepted
    obtain ⟨⟨some', matched⟩, rfl⟩ := accepted
    rw [addressTexts, Assets.reMatch_hostname] at matched
    exact named_taken (fun _ => rfl) hostname_reflects (fun _ => hostname_host) trimmed some' matched

theorem domain_iff (browsing : Browsing httpUrl lower protocol)
    (accepted : Assets.validateAssetValue (addressTexts httpUrl lower) (some .domain)
      (some value) = .ok canonical) (trimmed : Trimmed value) (fits : value.length ≤ valueWidth) :
    AcceptsBoth protocol .domain value canonical ↔ Expressible value .domain := by
  refine acceptsBoth_iff trimmed fits ?_ ?_
  · intro valid
    have whole := ((Bool.and_eq_true _ _).mp valid).2
    refine ⟨hosts_ascii fun char member =>
      fqdn_host (Regex.matchesWhole_alphabet whole char member), ?_⟩
    intro point
    have left := Regex.matchesWhole_iff.mp whole
    rw [← List.append_nil value.toList] at left
    exact absurd (Assets.domain_last (.inl rfl) left '.' point) (by decide)
  · rintro ⟨ascii, undotted⟩
    obtain ⟨normal, some', matched, _⟩ := Assets.validateDomain_ok.mp accepted
    have kept : Python.rstripDots (Python.strip value.toList) = value.toList := by
      rw [trimmed.1]
      apply List.rdropWhile_of_last
      intro char last
      rw [beq_eq_false_iff_ne]
      rintro rfl
      exact undotted last
    rw [kept, String.ofList_toList, browsing.lower_text value ascii] at normal
    subst normal
    exact named_taken (fun _ => rfl) fqdn_reflects (fun _ => fqdn_host) trimmed some' matched

theorem isWebApp_read (browsing : Browsing httpUrl lower protocol) {scheme : String}
    (read : httpUrl value = some (scheme, canonical))
    (web : lower scheme = "http" ∨ lower scheme = "https") :
    isWebApp protocol value = true ∧ value ≠ "" := by
  have named := browsing.protocol_scheme value scheme canonical read
  rw [browsing.scheme_lower value scheme canonical read] at web
  constructor
  · rw [isWebApp, named]
    rcases web with rfl | rfl
    · decide
    · decide
  · rintro rfl
    rw [browsing.protocol_empty] at named
    cases named

theorem webApp_iff (browsing : Browsing httpUrl lower protocol)
    (accepted : Assets.validateAssetValue (addressTexts httpUrl lower) (some .webApp)
      (some value) = .ok canonical) (trimmed : Trimmed value) :
    AcceptsBoth protocol .webApp value canonical ↔ Expressible value .webApp := by
  obtain ⟨scheme, found, web⟩ := Assets.webApp_read accepted
  have web : lower scheme = "http" ∨ lower scheme = "https" := by simpa using web
  obtain ⟨valid, some'⟩ := isWebApp_read browsing found web
  have taken (narrow : canonical.length ≤ valueWidth) : Taken protocol .webApp canonical := by
    have found' := browsing.httpUrl_text value scheme canonical found (narrow.trans (by decide))
    obtain ⟨valid', some''⟩ := isWebApp_read browsing found' web
    exact ⟨valid', browsing.httpUrl_visible value scheme canonical found, some''⟩
  rw [AcceptsBoth, validateAssetValue_none trimmed.2]
  constructor
  · rintro ⟨⟨_, short, _⟩, _⟩
    exact short
  · intro short
    exact ⟨⟨some', short, valid⟩, fun narrow => (taken narrow).accepted narrow⟩

theorem cloudResource_iff
    (accepted : Assets.validateAssetValue (addressTexts httpUrl lower) (some .cloudResource)
      (some value) = .ok canonical) (trimmed : Trimmed value) :
    AcceptsBoth protocol .cloudResource value canonical ↔ Expressible value .cloudResource := by
  have stripped : (addressTexts httpUrl lower).strip value = value := by
    change String.ofList (Python.strip value.toList) = value
    rw [trimmed.1, String.ofList_toList]
  rw [Assets.validateAssetValue, Assets.validateText_ok, stripped] at accepted
  obtain ⟨matched, same⟩ := accepted
  have found : Assets.compiled.lookup Assets.arnRe = some Assets.arn := rfl
  rw [addressTexts, Assets.reMatch_found found] at matched
  rw [AcceptsBoth, same, validateAssetValue_none trimmed.2]
  constructor
  · rintro ⟨⟨_, short, valid⟩, _⟩
    refine ⟨short, ?_⟩
    obtain ⟨front, resource, shape, heading, _, inside⟩ := arn_iff.mp valid
    rw [shape, heading_split heading]
    exact fun piece listed char member => inside char (Joined.mem_of_splitOn listed member)
  · rintro ⟨short, inside⟩
    obtain ⟨front, resource, shape, heading, some'⟩ := serviceArn_iff (unended trimmed) matched
    rw [shape, heading_split heading] at inside
    have inLine : ∀ char ∈ resource, isInLine char = true := by
      intro char member
      rw [← @List.intercalate_splitOn _ resource _ _ ':'] at member
      rcases Joined.mem_intercalate member with rfl | ⟨piece, listed, member⟩
      · decide
      · exact inside piece listed char member
    have valid : isValidValue protocol .cloudResource value = true :=
      arn_iff.mpr ⟨front, resource, shape, heading, some', inLine⟩
    have nonempty : value ≠ "" := by
      apply toList_ne_nil
      rw [shape]
      exact List.append_ne_nil_of_right_ne_nil _ some'
    exact ⟨⟨nonempty, short, valid⟩, fun _ => ⟨nonempty, short, valid⟩⟩

/-- The form takes a value that the service takes, and what is stored for it, just where the value is
expressible. -/
theorem form_accepts_iff (browsing : Browsing httpUrl lower protocol)
    (accepted : Assets.validateAssetValue (addressTexts httpUrl lower) (some type) (some value) =
      .ok canonical) (trimmed : Trimmed value) (fits : value.length ≤ valueWidth) :
    AcceptsBoth protocol type value canonical ↔ Expressible value type := by
  cases type with
  | hostname => exact hostname_iff browsing accepted trimmed fits
  | domain => exact domain_iff browsing accepted trimmed fits
  | webApp => exact webApp_iff browsing accepted trimmed
  | cloudResource => exact cloudResource_iff accepted trimmed
  | ip =>
      rw [Assets.validateAssetValue, Assets.validateParsed_ok] at accepted
      exact ip_iff accepted trimmed fits
  | subnet =>
      rw [Assets.validateAssetValue, Assets.validateParsed_ok] at accepted
      exact subnet_iff accepted trimmed fits

end

/-! One site, and values that the form refuses. -/

/-- The protocol of the site's two spellings. -/
def siteProtocol (text : String) : Option String :=
  (siteUrl text).map fun parsed => parsed.1 ++ ":"

theorem site_browsing : Browsing siteUrl lowerAscii siteProtocol := by
  have site : ∀ text scheme canonical, siteUrl text = some (scheme, canonical) →
      scheme = "http" ∧ canonical = "http://a.com/" := by
    intro text scheme canonical read
    rw [siteUrl] at read
    split at read
    next =>
      cases read
      exact ⟨rfl, rfl⟩
    next => cases read
  refine ⟨Assets.siteTexts_conforming, ?_, by decide, ?_, ?_, fun _ _ => rfl⟩
  · intro text scheme canonical read
    rw [siteProtocol, read, Option.map_some]
  · intro text scheme canonical read
    rw [(site text scheme canonical read).1]
    decide +kernel
  · intro text scheme canonical read
    rw [(site text scheme canonical read).2]
    exact List.all_iff_forall_prop.mp (by decide)

/-- A name in capitals is taken with its lower case, and one with a last dot is not. -/
theorem form_accepts_names :
    AcceptsBoth siteProtocol .domain "A.com" "a.com" ∧
      ¬AcceptsBoth siteProtocol .domain "b.com." "b.com" := by
  obtain ⟨_, _, capital, _, dotted⟩ := Assets.site_domains
  have capital' := form_accepts_iff site_browsing capital (by decide +kernel) (by decide)
  have dotted' := form_accepts_iff site_browsing dotted (by decide +kernel) (by decide)
  constructor
  · exact capital'.mpr ⟨List.all_iff_forall_prop.mp (by decide), by decide⟩
  · rw [dotted']
    exact fun expressible => expressible.2 rfl

/-- The service stores a canonical form of the value that the form refuses. -/
def Refused (type : AssetType) (value canonical : String) : Prop :=
  Assets.validateAssetValue siteTexts (some type) (some value) = .ok canonical ∧ Trimmed value ∧
    value.length ≤ valueWidth ∧
    validateAssetValue siteProtocol type value =
      some "El valor no es válido para el tipo seleccionado."

instance (type : AssetType) (value canonical : String) : Decidable (Refused type value canonical) :=
  inferInstanceAs (Decidable (_ ∧ _))

/-- An address with its zone, which is stored as it is, a domain with a last dot and a network with
its mask. -/
theorem accepted_refused :
    Refused .ip "fe80::1%eth0" "fe80::1%eth0" ∧ Refused .domain "b.com." "b.com" ∧
      Refused .subnet "10.0.0.0/255.0.0.0" "10.0.0.0/8" := by
  refine ⟨?_, ?_, ?_⟩
  · decide +kernel
  · exact ⟨Assets.site_domains.2.2.2.2, by decide +kernel⟩
  · decide +kernel

end AssetValues

end Frontend
