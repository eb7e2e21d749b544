import Soc360.Auth.LoginEvents
import Soc360.Ip.RoundTrips

set_option autoImplicit false

/-! The address of a client: where it is taken from, and what a login event says of it. -/

namespace Pii

open Ip (Address Version ipAddress ipNetwork networkOf masked)
open Numerals (isDigit)

/-- `_get_client_ip`: `client` is the host of the connection, `forwarded` the header. -/
def getClientIp (trustedProxies : List String) (client forwarded : Option String) : String :=
  match client, forwarded with
  | some host, some header =>
      if trustedProxies ≠ [] ∧ header ≠ "" ∧ host ∈ trustedProxies then
        String.ofList (Python.strip ((header.toList.splitOn ',').headD []))
      else host
  | some host, none => host
  | none, _ => "unknown"

/-- `f"{addr}/24"` of an IPv4 address and `f"{addr}/64"` of an IPv6 one. -/
def written (addr : Address) : List Char :=
  match addr.version with
  | .v4 => addr.text ++ "/24".toList
  | .v6 => addr.text ++ "/64".toList

/-- The `try` of `mask_ip`; `none` is a `ValueError`. -/
def prefixOf (text : String) : Option String := do
  let addr ← ipAddress text.toList
  let network ← ipNetwork (written addr)
  return String.ofList network.text

def maskIp : Option String → Option String
  | none => none
  | some text => if text = "" then none else some ((prefixOf text).getD text)

theorem logins_maskIp {library : Auth.Logins.Library} (same : library.network = prefixOf) :
    Auth.Logins.maskIp library = maskIp := by
  funext ipAddress
  cases ipAddress with
  | none => rfl
  | some text => rw [Auth.Logins.maskIp, maskIp, same]

/-- What a login event says of the address of its request. -/
theorem loginEvent_ipPrefix {library : Auth.Logins.Library} (same : library.network = prefixOf)
    (call : Auth.Logins.Call) (userId : Auth.UserId) (user : Auth.Logins.User) :
    (Auth.Logins.loginEvent library call userId user).ipPrefix = maskIp call.requestIp := by
  rw [Auth.Logins.loginEvent, logins_maskIp same]

/-! The network that stands for an address. -/

def maskLength : Version → Nat
  | .v4 => 24
  | .v6 => 64

theorem maskLength_le (version : Version) : maskLength version ≤ version.width := by
  cases version with
  | v4 => decide
  | v6 => decide

/-- The bits of the host. -/
def hostBits (version : Version) : Nat := version.width - maskLength version

/-- Both are in the same IPv4 /24 or in the same IPv6 /64. -/
def Near (address address' : Address) : Prop :=
  address.version = address'.version ∧
    masked (hostBits address.version) address.number =
      masked (hostBits address'.version) address'.number

/-- The zone that the network keeps: that of an address without host bits. -/
def keptZone (address : Address) : Option (List Char) :=
  if masked (hostBits address.version) address.number = address.number then address.scope else none

def maskedNetwork (address : Address) : Ip.Network :=
  networkOf address (maskLength address.version) (maskLength_le _)

/-- `ip_address` accepts the text. -/
def Accepted (text : String) : Prop := ∃ address, ipAddress text.toList = some address

section

variable {address address' : Address} {text text' : String}

theorem maskedNetwork_eq_iff (near : Near address address') :
    maskedNetwork address = maskedNetwork address' ↔ keptZone address = keptZone address' := by
  have scope (address : Address) : (maskedNetwork address).network.scope = keptZone address :=
    Ip.networkOf_scope _ _
  constructor
  · intro same
    rw [← scope, ← scope, same]
  · intro zones
    apply Ip.Network.ext
    · apply Ip.Address.ext
      · exact (Ip.networkOf_version _ _).trans (near.1.trans (Ip.networkOf_version _ _).symm)
      · exact (Ip.networkOf_number _ _).trans (near.2.trans (Ip.networkOf_number _ _).symm)
      · rw [scope, scope, zones]
    · rw [maskedNetwork, maskedNetwork, Ip.networkOf_prefixlen, Ip.networkOf_prefixlen, near.1]

theorem text_inj {network network' : Ip.Network} :
    network.text = network'.text ↔ network = network' := by
  constructor
  · intro same
    apply Option.some.inj
    rw [← Ip.ipNetwork_text, ← Ip.ipNetwork_text, same]
  · rintro rfl
    rfl

theorem written_eq :
    written address = address.text ++ '/' :: Nat.toDigits 10 (maskLength address.version) := by
  rw [written]
  cases address.version with
  | v4 => rfl
  | v6 => rfl

theorem prefixOf_some (read : ipAddress text.toList = some address) :
    prefixOf text = some (String.ofList (maskedNetwork address).text) := by
  rw [prefixOf, read, Option.bind_eq_bind, Option.bind_some, written_eq,
    Ip.ipNetwork_prefixed (maskLength_le _)]
  rfl

theorem prefixOf_none (refused : ipAddress text.toList = none) : prefixOf text = none := by
  rw [prefixOf, refused]
  rfl

theorem not_accepted_empty : ¬Accepted "" := by
  rintro ⟨address, read⟩
  cases read

theorem maskIp_accepted (read : ipAddress text.toList = some address) :
    maskIp (some text) = some (String.ofList (maskedNetwork address).text) := by
  have solid : text ≠ "" := by
    rintro rfl
    exact not_accepted_empty ⟨address, read⟩
  rw [maskIp, if_neg solid, prefixOf_some read]
  rfl

theorem maskIp_refused (solid : text ≠ "") (refused : ipAddress text.toList = none) :
    maskIp (some text) = some text := by
  rw [maskIp, if_neg solid, prefixOf_none refused]
  rfl

end

/-! What is read in a text as the address of a client. -/

/-- A way to read an address in a text. It reads what `ip_address` accepts, and no address of a
host in the network that stands for one. -/
structure Reader where
  reads : String → Option Address
  parsed : ∀ {text address}, ipAddress text.toList = some address → reads text = some address
  hidden : ∀ address, reads (String.ofList (maskedNetwork address).text) = none
  nothing : reads "" = none

section

variable {reader : Reader} {address address' : Address} {text text' : String}

theorem Reader.solid (reads : reader.reads text = some address) : text ≠ "" := by
  rintro rfl
  rw [reader.nothing] at reads
  cases reads

/-- What `ip_address` refuses is no network that stands for an address. -/
theorem refused_ne_masked (reads : reader.reads text = some address)
    (read : ipAddress text'.toList = some address') (refused : ipAddress text.toList = none) :
    maskIp (some text') ≠ maskIp (some text) := by
  intro same
  rw [maskIp_accepted read, maskIp_refused (reader.solid reads) refused] at same
  have hidden := reader.hidden address'
  rw [Option.some.inj same, reads] at hidden
  cases hidden

theorem maskIp_eq_iff (reads : reader.reads text = some address)
    (reads' : reader.reads text' = some address') (near : Near address address') :
    maskIp (some text) = maskIp (some text') ↔
      text = text' ∨ Accepted text ∧ Accepted text' ∧ keptZone address = keptZone address' := by
  cases read : ipAddress text.toList with
  | none =>
    have refused : ¬Accepted text := by
      rintro ⟨other, accepted⟩
      rw [read] at accepted
      cases accepted
    cases read' : ipAddress text'.toList with
    | none =>
      rw [maskIp_refused (reader.solid reads) read, maskIp_refused (reader.solid reads') read',
        Option.some_inj]
      constructor
      · exact .inl
      · rintro (same | ⟨accepted, _⟩)
        · exact same
        · exact absurd accepted refused
    | some other =>
      constructor
      · intro same
        exact absurd same.symm (refused_ne_masked reads read' read)
      · rintro (rfl | ⟨accepted, _⟩)
        · rfl
        · exact absurd accepted refused
  | some one =>
    obtain rfl : one = address := Option.some.inj ((reader.parsed read).symm.trans reads)
    cases read' : ipAddress text'.toList with
    | none =>
      constructor
      · intro same
        exact absurd same (refused_ne_masked reads' read read')
      · rintro (rfl | ⟨_, ⟨other, accepted⟩, _⟩)
        · rfl
        · rw [read'] at accepted
          cases accepted
    | some other =>
      obtain rfl : other = address' := Option.some.inj ((reader.parsed read').symm.trans reads')
      rw [maskIp_accepted read, maskIp_accepted read', Option.some_inj, String.ofList_inj,
        text_inj, maskedNetwork_eq_iff near]
      constructor
      · intro zones
        exact .inr ⟨⟨one, read⟩, ⟨other, read'⟩, zones⟩
      · rintro (rfl | ⟨_, _, zones⟩)
        · rw [Option.some.inj (read.symm.trans read')]
        · exact zones

theorem maskIp_hides_iff : (∀ value ∈ maskIp (some text), reader.reads value = none) ↔
    Accepted text ∨ reader.reads text = none := by
  cases read : ipAddress text.toList with
  | some address =>
    rw [maskIp_accepted read]
    constructor
    · intro _
      exact .inl ⟨address, read⟩
    · intro _ value masked
      cases masked
      exact reader.hidden address
  | none =>
    by_cases solid : text = ""
    · rw [solid]
      constructor
      · intro _
        exact .inr reader.nothing
      · intro _ value masked
        cases masked
    · rw [maskIp_refused solid read]
      constructor
      · intro hides
        exact .inr (hides text rfl)
      · rintro (⟨address, accepted⟩ | unread) value same
        · rw [read] at accepted
          cases accepted
        · cases same
          exact unread

end

/-! An address as a proxy writes it, with or without a port. -/

def isPort (port : List Char) : Bool := port != [] && port.all isDigit

/-- `host:port` with an IPv4 address, and `[host]` or `[host]:port` with an IPv6 one. -/
def hostPort : List Char → Option Address
  | '[' :: inner =>
      match inner.splitOn ']' with
      | [host, []] => Ip.ipv6Address host
      | [host, ':' :: port] => if isPort port then Ip.ipv6Address host else none
      | _ => none
  | text =>
      match text.splitOn ':' with
      | [host, port] => if isPort port then Ip.ipv4Address host else none
      | _ => none

def addressPart (text : List Char) : Option Address := (ipAddress text).or (hostPort text)

section

variable {address : Address} {text host port : List Char}

theorem isPort_plain (digits : isPort port = true) : '/' ∉ port := by
  intro slash
  have all := (Bool.and_eq_true _ _).mp digits
  exact absurd (List.all_eq_true.mp all.2 _ slash) (by decide)

theorem ipAddress_plain (read : ipAddress text = some address) : '/' ∉ text := by
  rcases Option.or_eq_some_iff.mp read with read | ⟨_, read⟩
  · exact (Ip.ipv4Address_some.mp read).1
  · exact (Ip.ipv6Address_some.mp read).1

theorem hostPort_plain (read : hostPort text = some address) : '/' ∉ text := by
  rw [hostPort.eq_def] at read
  split at read
  next inner =>
    split at read
    next split' =>
      rw [Joined.splitOn_pair split']
      simp [(Ip.ipv6Address_some.mp read).1]
    next split' =>
      split at read
      next digits =>
        rw [Joined.splitOn_pair split']
        simp [(Ip.ipv6Address_some.mp read).1, isPort_plain digits]
      next => cases read
    next => cases read
  next =>
    split at read
    next split' =>
      split at read
      next digits =>
        rw [Joined.splitOn_pair split']
        simp [(Ip.ipv4Address_some.mp read).1, isPort_plain digits]
      next => cases read
    next => cases read

theorem addressPart_plain (read : addressPart text = some address) : '/' ∉ text := by
  rcases Option.or_eq_some_iff.mp read with read | ⟨_, read⟩
  · exact ipAddress_plain read
  · exact hostPort_plain read

end

def ported : Reader where
  reads text := addressPart text.toList
  parsed read := by
    rw [addressPart, read]
    rfl
  hidden address := by
    rw [String.toList_ofList]
    cases read : addressPart (maskedNetwork address).text with
    | none => rfl
    | some other =>
      have slash : '/' ∈ (maskedNetwork address).text := by
        rw [Ip.Network.text]
        exact List.mem_append_right _ List.mem_cons_self
      exact absurd slash (addressPart_plain read)
  nothing := rfl

section

variable {trustedProxies : List String} {host : String}

theorem getClientIp_forwarded (trusted : host ∈ trustedProxies) {header : String}
    (given : header ≠ "") : getClientIp trustedProxies (some host) (some header) =
      String.ofList (Python.strip ((header.toList.splitOn ',').headD [])) := by
  rw [getClientIp, if_pos]
  exact ⟨List.ne_nil_of_mem trusted, given, trusted⟩

/-- What is taken from a header: any text without a comma and without whitespace around it. -/
theorem forwarded_iff (trusted : host ∈ trustedProxies) {text : String} :
    (∃ header, header ≠ "" ∧ getClientIp trustedProxies (some host) (some header) = text) ↔
      ',' ∉ text.toList ∧ Python.strip text.toList = text.toList := by
  constructor
  · rintro ⟨header, given, rfl⟩
    rw [getClientIp_forwarded trusted given, String.toList_ofList]
    refine ⟨?_, Python.strip_strip _⟩
    intro comma
    cases split : header.toList.splitOn ',' with
    | nil =>
      rw [split] at comma
      cases comma
    | cons first others =>
      rw [split] at comma
      have member : first ∈ header.toList.splitOn ',' := by
        rw [split]
        exact List.mem_cons_self
      exact List.not_mem_splitOn member (List.trim_within.subset comma)
  · rintro ⟨single, stripped⟩
    by_cases solid : text = ""
    · refine ⟨" ", by decide, ?_⟩
      rw [getClientIp_forwarded trusted (by decide), solid]
      rfl
    · refine ⟨text, solid, ?_⟩
      rw [getClientIp_forwarded trusted solid, List.splitOn_eq_singleton single, List.headD_cons,
        stripped, String.ofList_toList]

end

section

variable {address : Address} {port : List Char}

theorem isSpace_digit {char : Char} (digit : isDigit char = true) :
    Python.isSpace char = false := by
  simp only [isDigit, Bool.and_eq_true, decide_eq_true_eq] at digit
  rw [Python.isSpace, decide_eq_false_iff_not]
  intro space
  simp only [List.mem_cons, List.not_mem_nil, or_false] at space
  omega

theorem mem_portText (version : address.version = .v4) (digits : isPort port = true) {char : Char}
    (member : char ∈ address.text ++ ':' :: port) :
    isDigit char = true ∨ char = '.' ∨ char = ':' := by
  rw [Ip.text_v4 version] at member
  rcases List.mem_append.mp member with inside | inside
  · exact (Ip.mem_print4 inside).imp id .inl
  · rcases List.mem_cons.mp inside with colon | inside
    · exact .inr (.inr colon)
    · exact .inl (List.all_eq_true.mp ((Bool.and_eq_true _ _).mp digits).2 _ inside)

theorem not_mem_portText (version : address.version = .v4) (digits : isPort port = true)
    {char : Char} (other : isDigit char = false) (apart : char ≠ '.' ∧ char ≠ ':') :
    char ∉ address.text ++ ':' :: port := by
  intro member
  rcases mem_portText version digits member with digit | point | colon
  · rw [digit] at other
    cases other
  · exact apart.1 point
  · exact apart.2 colon

theorem split_portText (version : address.version = .v4) (digits : isPort port = true) :
    (address.text ++ ':' :: port).splitOn ':' = [address.text, port] := by
  have before : ':' ∉ address.text := by
    rw [Ip.text_v4 version]
    intro colon
    rcases Ip.mem_print4 colon with digit | point
    · exact absurd digit (by decide)
    · exact absurd point (by decide)
  have after : ':' ∉ port := by
    intro colon
    exact absurd (List.all_eq_true.mp ((Bool.and_eq_true _ _).mp digits).2 _ colon) (by decide)
  rw [List.splitOn_append_cons_self, List.splitOn_eq_singleton before,
    List.splitOn_eq_singleton after]
  rfl

theorem ipAddress_portText (version : address.version = .v4) (digits : isPort port = true) :
    ipAddress (address.text ++ ':' :: port) = none := by
  have colon : ':' ∈ address.text ++ ':' :: port :=
    List.mem_append_right _ List.mem_cons_self
  rw [ipAddress, Ip.ipv4Address_colon colon, Option.none_or]
  cases read : Ip.ipv6Address (address.text ++ ':' :: port) with
  | none => rfl
  | some other =>
    obtain ⟨_, _, body, split, read⟩ := Ip.ipv6Address_some.mp read
    have unscoped : '%' ∉ address.text ++ ':' :: port :=
      not_mem_portText version digits rfl (by decide)
    rcases (Ip.splitScope_some.mp split).2 with ⟨_, rfl⟩ | ⟨name, _, shape, _⟩
    · have few := (Ip.parse6_some.mp read).1
      rw [split_portText version digits] at few
      exact absurd few (Nat.lt_irrefl 2)
    · rw [shape] at unscoped
      exact absurd (List.mem_append_right _ List.mem_cons_self) unscoped

/-- An IPv4 address with a port stays as it is, and the header of a proxy may give it. -/
theorem port_unmasked (version : address.version = .v4) (digits : isPort port = true) :
    let text := String.ofList (address.text ++ ':' :: port)
    ported.reads text = some address ∧ maskIp (some text) = some text ∧
      ',' ∉ text.toList ∧ Python.strip text.toList = text.toList := by
  have refused := ipAddress_portText version digits
  have bracket : '[' ∉ address.text ++ ':' :: port :=
    not_mem_portText version digits rfl (by decide)
  have read : hostPort (address.text ++ ':' :: port) = some address := by
    rw [hostPort.eq_def]
    split
    next inner shape =>
      rw [shape] at bracket
      exact absurd List.mem_cons_self bracket
    next =>
      rw [split_portText version digits]
      change (if isPort port then _ else _) = _
      rw [if_pos digits]
      exact Ip.ipv4Address_text version
  have reads : ported.reads (String.ofList (address.text ++ ':' :: port)) = some address := by
    change addressPart _ = _
    rw [String.toList_ofList, addressPart, refused, Option.none_or]
    exact read
  refine ⟨reads, maskIp_refused (ported.solid reads) ?_, ?_, ?_⟩
  · rw [String.toList_ofList]
    exact refused
  · rw [String.toList_ofList]
    exact not_mem_portText version digits rfl (by decide)
  · rw [String.toList_ofList]
    apply Python.strip_word
    intro char member
    rcases mem_portText version digits member with digit | rfl | rfl
    · exact isSpace_digit digit
    · rfl
    · rfl

end

/-- `mask_ip` hides the host part of what `ip_address` accepts, and of nothing else. -/
theorem masks_by_prefix_iff (reader : Reader) :
    (∀ text text' address address', reader.reads text = some address →
      reader.reads text' = some address' → Near address address' →
      (maskIp (some text) = maskIp (some text') ↔ text = text' ∨
        Accepted text ∧ Accepted text' ∧ keptZone address = keptZone address')) ∧
    ∀ text, (∀ value ∈ maskIp (some text), reader.reads value = none) ↔
      Accepted text ∨ reader.reads text = none :=
  ⟨fun _ _ _ _ => maskIp_eq_iff, fun _ => maskIp_hides_iff⟩

theorem masks_by_prefix_ported :
    (∃ address address', ported.reads "203.0.113.7" = some address ∧
      ported.reads "203.0.113.9" = some address' ∧ Near address address') ∧
    maskIp (some "203.0.113.7") = maskIp (some "203.0.113.9") ∧
    ∀ value ∈ maskIp (some "203.0.113.7"), ported.reads value = none := by
  have read : (ipAddress "203.0.113.7".toList).map (fun read =>
      (read.version, read.number, read.scope)) = some (.v4, 3405803783, none) := by
    decide +kernel
  have read' : (ipAddress "203.0.113.9".toList).map (fun read =>
      (read.version, read.number, read.scope)) = some (.v4, 3405803785, none) := by
    decide +kernel
  obtain ⟨address, accepted, fields⟩ := Option.map_eq_some_iff.mp read
  obtain ⟨address', accepted', fields'⟩ := Option.map_eq_some_iff.mp read'
  obtain ⟨version, others⟩ := Prod.mk.inj fields
  obtain ⟨version', others'⟩ := Prod.mk.inj fields'
  obtain ⟨number, scope⟩ := Prod.mk.inj others
  obtain ⟨number', scope'⟩ := Prod.mk.inj others'
  have near : Near address address' := by
    refine ⟨version.trans version'.symm, ?_⟩
    rw [version, version', number, number']
    decide
  have zones : keptZone address = keptZone address' := by
    unfold keptZone
    rw [scope, scope', ite_self, ite_self]
  have masks := masks_by_prefix_iff ported
  refine ⟨⟨address, address', ported.parsed accepted, ported.parsed accepted', near⟩, ?_, ?_⟩
  · exact (masks.1 _ _ _ _ (ported.parsed accepted) (ported.parsed accepted') near).mpr
      (.inr ⟨⟨address, accepted⟩, ⟨address', accepted'⟩, zones⟩)
  · exact (masks.2 _).mpr (.inl ⟨address, accepted⟩)

/-- A port, and the zone of an address without host bits. -/
theorem forwarded_unmasked :
    (∃ text text' address address',
      getClientIp ["10.0.0.1"] (some "10.0.0.1") (some "203.0.113.7:443, 10.0.0.1") = text ∧
      getClientIp ["10.0.0.1"] (some "10.0.0.1") (some "203.0.113.9") = text' ∧
      ported.reads text = some address ∧ ported.reads text' = some address' ∧
      Near address address' ∧ maskIp (some text) ≠ maskIp (some text') ∧
      ∃ value ∈ maskIp (some text), ported.reads value = some address) ∧
    maskIp (some "fe80::%eth0") = some "fe80::%eth0/64" ∧
    maskIp (some "fe80::1%eth0") = some "fe80::/64" := by
  refine ⟨?_, by decide +kernel, by decide +kernel⟩
  have reads : (ported.reads "203.0.113.7:443").map (fun read => (read.version, read.number)) =
      some (.v4, 3405803783) := by
    decide +kernel
  have reads' : (ported.reads "203.0.113.9").map (fun read => (read.version, read.number)) =
      some (.v4, 3405803785) := by
    decide +kernel
  obtain ⟨address, reads, fields⟩ := Option.map_eq_some_iff.mp reads
  obtain ⟨address', reads', fields'⟩ := Option.map_eq_some_iff.mp reads'
  obtain ⟨version, number⟩ := Prod.mk.inj fields
  obtain ⟨version', number'⟩ := Prod.mk.inj fields'
  have near : Near address address' := by
    refine ⟨version.trans version'.symm, ?_⟩
    rw [version, version', number, number']
    decide
  exact ⟨"203.0.113.7:443", "203.0.113.9", address, address', by decide +kernel,
    by decide +kernel, reads, reads', near, by decide +kernel, "203.0.113.7:443",
    by decide +kernel, reads⟩

end Pii
