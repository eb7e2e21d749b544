import Mathlib.Data.List.Perm.Basic
import Soc360.Scans.Targets

set_option autoImplicit false

namespace Scans

open Assets (AssetType validateAssetValue)
open Ip (Address Network Version)

def nmapProfile : List String :=
  ["--privileged", "--host-timeout", "55m", "--script-timeout", "5m", "-sS", "-sU", "--top-ports",
    "1000", "-sV", "-O", "--script=vuln", "-oX", "-"]

def nmapDemoProfile : List String :=
  ["--privileged", "--host-timeout", "5m", "--script-timeout", "60s", "-sS", "-sU", "-p",
    "T:21,22,80,3306,U:53,161", "-sV", "-O", "--script=vuln", "-oX", "-"]

/-- `ip_network(text, strict=False).version`. -/
def versionOf (text : String) : Option Version := (Ip.ipNetwork text.toList).map Network.version

/-- `groups`. -/
structure Groups where
  v4 : List String
  v6 : List String

def Groups.append (groups : Groups) (version : Version) (address : String) : Groups :=
  match version with
  | .v4 => { groups with v4 := groups.v4 ++ [address] }
  | .v6 => { groups with v6 := groups.v6 ++ [address] }

/-- Nothing where an address is no network literal. -/
def splitByFamily (target : ScanTarget) : Option (List ScanTarget) := do
  let groups ← target.addresses.foldlM
    (fun groups address => (versionOf address).map (groups.append · address)) (⟨[], []⟩ : Groups)
  return ([groups.v4, groups.v6].filter (· ≠ [])).map fun addresses =>
    ⟨target.assetType, target.original, addresses⟩

def unsafeAddress (address : String) : Bool :=
  address.toList.head? == some '-' || decide ('\x00' ∈ address.toList) ||
    address.toList.any Python.isSpace

def checkAddress (address : String) : Except String Unit :=
  if unsafeAddress address then .error "invalid scan address"
  else if (Ip.ipAddress address.toList).isNone && (Ip.ipNetwork address.toList).isNone then
    .error "scan address must be an IP or network literal"
  else .ok ()

def buildNmapCommand (demo : Bool) (target : ScanTarget) (nmapPath : String) :
    Except String (List String) :=
  if nmapPath = "" ∨ '\x00' ∈ nmapPath.toList then .error "invalid Nmap binary path"
  else if target.addresses = [] then .error "scan target requires at least one address"
  else do
    target.addresses.forM checkAddress
    match splitByFamily target, target.addresses.head?.bind versionOf with
    | some families, some version =>
        if 1 < families.length then .error "scan target mixes address families"
        else
          .ok (nmapPath :: (if demo then nmapDemoProfile else nmapProfile) ++
            (if version = .v6 then ["-6"] else []) ++ ["--"] ++ target.addresses)
    | _, _ => .error "does not appear to be an IPv4 or IPv6 network"

/-- The path of a binary. -/
structure BinaryPath where
  text : String
  nonempty : text ≠ ""
  terminated : '\x00' ∉ text.toList

/-- Targets of one family each, which share out the addresses of a target in their order. -/
structure SharesOut (target : ScanTarget) (families : List ScanTarget) : Prop where
  single : ∀ family ∈ families, ∃ version, ∀ text ∈ family.addresses, versionOf text = some version
  nonempty : ∀ family ∈ families, family.addresses ≠ []
  ordered : ∀ family ∈ families, family.addresses.Sublist target.addresses
  whole : (families.flatMap ScanTarget.addresses).Perm target.addresses
  same : ∀ family ∈ families, family.assetType = target.assetType ∧
    family.original = target.original

/-- The binary, the profile of the mode, `-6` for IPv6 alone, the separator and the addresses. -/
def IsCommand (demo : Bool) (path : BinaryPath) (family : ScanTarget) (argv : List String) : Prop :=
  ∃ version, (∀ text ∈ family.addresses, versionOf text = some version) ∧
    argv = path.text :: (if demo then nmapDemoProfile else nmapProfile) ++
      (if version = .v6 then ["-6"] else []) ++ ["--"] ++ family.addresses ∧
    ∀ text ∈ family.addresses, text.toList.head? ≠ some '-' ∧
      ∀ char ∈ text.toList, Python.isSpace char = false ∧ char ≠ '\x00'

section

variable {target : ScanTarget} {families : List ScanTarget} {texts : List String} {text : String}
  {groups : Groups} {demo : Bool} {path : BinaryPath}

theorem groups_of {versions : String → Version}
    (read : ∀ text ∈ texts, versionOf text = some (versions text)) :
    texts.foldlM (fun groups address => (versionOf address).map (Groups.append groups · address))
        groups =
      some ⟨groups.v4 ++ texts.filter fun text => versions text = .v4,
        groups.v6 ++ texts.filter fun text => versions text = .v6⟩ := by
  induction texts generalizing groups with
  | nil => simp
  | cons text texts ih =>
      have first := read text List.mem_cons_self
      have rest : ∀ other ∈ texts, versionOf other = some (versions other) :=
        fun other member => read other (List.mem_cons_of_mem _ member)
      rw [List.foldlM_cons, first]
      simp only [Option.map_some, Option.bind_eq_bind, Option.bind_some, ih rest]
      cases version : versions text <;> simp [Groups.append, version]

/-- The addresses of each family, in order. -/
theorem splitByFamily_eq {versions : String → Version}
    (read : ∀ text ∈ target.addresses, versionOf text = some (versions text)) :
    splitByFamily target = some (([target.addresses.filter fun text => versions text = .v4,
      target.addresses.filter fun text => versions text = .v6].filter (· ≠ [])).map fun addresses =>
        ⟨target.assetType, target.original, addresses⟩) := by
  rw [splitByFamily, groups_of read]
  rfl

theorem mem_families {versions : String → Version} {family : ScanTarget}
    (member : family ∈ ([target.addresses.filter fun text => versions text = .v4,
      target.addresses.filter fun text => versions text = .v6].filter (· ≠ [])).map fun addresses =>
        (⟨target.assetType, target.original, addresses⟩ : ScanTarget)) :
    ∃ version, family = ⟨target.assetType, target.original,
      target.addresses.filter fun text => versions text = version⟩ ∧ family.addresses ≠ [] := by
  obtain ⟨addresses, kept, rfl⟩ := List.mem_map.mp member
  obtain ⟨group, nonempty⟩ := List.mem_filter.mp kept
  have nonempty : addresses ≠ [] := of_decide_eq_true nonempty
  rcases List.mem_pair.mp group with rfl | rfl
  · exact ⟨.v4, rfl, nonempty⟩
  · exact ⟨.v6, rfl, nonempty⟩

theorem flatMap_nonempty {first second : List String} :
    (([first, second].filter (· ≠ [])).map fun addresses =>
      (⟨target.assetType, target.original, addresses⟩ : ScanTarget)).flatMap
        ScanTarget.addresses = first ++ second := by
  cases first <;> cases second <;> simp

theorem splitByFamily_shares {versions : String → Version}
    (read : ∀ text ∈ target.addresses, versionOf text = some (versions text)) :
    ∃ families, splitByFamily target = some families ∧ SharesOut target families := by
  refine ⟨_, splitByFamily_eq read, ?_⟩
  constructor
  · intro family member
    obtain ⟨version, rfl, _⟩ := mem_families member
    refine ⟨version, ?_⟩
    intro text member
    obtain ⟨member, same⟩ := List.mem_filter.mp member
    rw [read text member, of_decide_eq_true same]
  · intro family member
    obtain ⟨_, _, nonempty⟩ := mem_families member
    exact nonempty
  · intro family member
    obtain ⟨_, rfl, _⟩ := mem_families member
    exact List.filter_sublist
  · rw [flatMap_nonempty]
    have other : (target.addresses.filter fun text => versions text = .v6) =
        target.addresses.filter fun text => !decide (versions text = .v4) := by
      apply List.filter_congr
      intro text _
      cases versions text <;> rfl
    rw [other]
    exact List.filter_append_perm _ _
  · intro family member
    obtain ⟨_, rfl, _⟩ := mem_families member
    exact ⟨rfl, rfl⟩

theorem checkAddress_ok {version : Version} (read : versionOf text = some version)
    (clean : text.toList.head? ≠ some '-' ∧
      ∀ char ∈ text.toList, Python.isSpace char = false ∧ char ≠ '\x00') :
    checkAddress text = .ok () := by
  obtain ⟨first, clean⟩ := clean
  have safe : unsafeAddress text = false := by
    rw [unsafeAddress, Bool.or_eq_false_iff, Bool.or_eq_false_iff]
    refine ⟨⟨beq_eq_false_iff_ne.mpr first, ?_⟩, ?_⟩
    · rw [decide_eq_false_iff_not]
      intro member
      exact (clean _ member).2 rfl
    · rw [List.any_eq_false]
      intro char member
      simp [(clean char member).1]
  obtain ⟨network, read, _⟩ := Option.map_eq_some_iff.mp read
  rw [checkAddress, safe, read]
  simp

/-- A command is built of the addresses of one family. -/
theorem buildNmapCommand_ok {version : Version} (nonempty : target.addresses ≠ [])
    (single : ∀ text ∈ target.addresses, versionOf text = some version)
    (clean : ∀ text ∈ target.addresses, text.toList.head? ≠ some '-' ∧
      ∀ char ∈ text.toList, Python.isSpace char = false ∧ char ≠ '\x00') :
    buildNmapCommand demo target path.text =
      .ok (path.text :: (if demo then nmapDemoProfile else nmapProfile) ++
        (if version = .v6 then ["-6"] else []) ++ ["--"] ++ target.addresses) := by
  obtain ⟨families, split, _⟩ := @splitByFamily_shares target (fun _ => version) single
  have one : families.length ≤ 1 := by
    rw [@splitByFamily_eq target (fun _ => version) single] at split
    cases split
    cases version with
    | v4 => simp [nonempty]
    | v6 => simp [nonempty]
  have checked : target.addresses.forM checkAddress = .ok () := by
    have all := fun text member => checkAddress_ok (single text member) (clean text member)
    generalize target.addresses = texts at all
    induction texts with
    | nil => rfl
    | cons text texts ih =>
        change (checkAddress text >>= fun _ => texts.forM checkAddress) = _
        rw [all text List.mem_cons_self]
        exact ih fun other member => all other (List.mem_cons_of_mem _ member)
  obtain ⟨first, rest, shape⟩ := List.exists_cons_of_ne_nil nonempty
  have version' : target.addresses.head?.bind versionOf = some version := by
    rw [shape, List.head?_cons, Option.bind_some]
    exact single first (by rw [shape]; exact List.mem_cons_self)
  have valid : ¬(path.text = "" ∨ '\x00' ∈ path.text.toList) := by
    rw [not_or]
    exact ⟨path.nonempty, path.terminated⟩
  rw [buildNmapCommand, if_neg valid, if_neg nonempty, checked, split, version']
  simp only [Nat.not_lt.mpr one, ↓reduceIte]
  rfl

end

/-! What the gate writes. -/

/-- Neither white space nor a terminator. -/
def Solid (char : Char) : Prop := Python.isSpace char = false ∧ char ≠ '\x00'

/-- The text of a network or of its address. -/
def TextOf (text : String) (network : Network) : Prop :=
  Ip.ipNetwork text.toList = some network ∧
    (text = String.ofList network.network.text ∨ text = String.ofList network.text)

section

variable {gate : Gate} {value canonical text answer : String} {texts : List String}
  {address : Address} {network : Network} {assetType : AssetType} {char : Char}

theorem solid_hex (hex : Numerals.isHex char = true) : Solid char := by
  have range : 0x30 ≤ char.toNat ∧ char.toNat ≤ 0x66 := by
    simp only [Numerals.isHex, Numerals.isDigit, Bool.or_eq_true, Bool.and_eq_true,
      decide_eq_true_eq] at hex
    omega
  constructor
  · apply Bool.eq_false_iff.mpr
    intro space
    simp only [Python.isSpace, decide_eq_true_eq, List.mem_cons, List.not_mem_nil, or_false]
      at space
    omega
  · rintro rfl
    exact absurd range (by decide)

theorem solid_digit (digit : Numerals.isDigit char = true) : Solid char :=
  solid_hex (by simp [Numerals.isHex, digit])

/-- Only the scope id of an address may have white space in it. -/
theorem address_solid : (∀ char ∈ address.text, Solid char) ↔
    ∀ name ∈ address.scope, ∀ char ∈ name, Solid char := by
  cases version : address.version with
  | v4 =>
      rw [Ip.text_v4 version, Ip.scope_v4 version]
      refine iff_of_true ?_ (by simp)
      intro char member
      rcases Ip.mem_print4 member with digit | rfl
      · exact solid_digit digit
      · exact ⟨by decide, by decide⟩
  | v6 =>
      have front : ∀ char ∈ Ip.print6 address.number, Solid char := by
        intro char member
        rcases Ip.mem_print6 member with hex | rfl
        · exact solid_hex hex
        · exact ⟨by decide, by decide⟩
      rw [Ip.text_v6 version]
      cases given : address.scope with
      | none => simpa using front
      | some name =>
          have percent : Solid '%' := ⟨by decide, by decide⟩
          simp only [Option.map_some, Option.getD_some, List.mem_append, List.mem_cons,
            Option.mem_def, Option.some.injEq, forall_eq']
          constructor
          · intro all char member
            exact all char (.inr (.inr member))
          · rintro all char (member | rfl | member)
            · exact front char member
            · exact percent
            · exact all char member

theorem head?_text : address.text.head? ≠ some '-' := by
  intro first
  cases version : address.version with
  | v4 =>
      rw [Ip.text_v4 version] at first
      rcases Ip.mem_print4 (List.mem_of_head? first) with digit | point
      · exact absurd digit (by decide)
      · exact absurd point (by decide)
  | v6 =>
      rw [Ip.text_v6 version, List.head?_append] at first
      cases found : (Ip.print6 address.number).head? with
      | none =>
          have colon := @Ip.colon_print6 address.number
          rw [List.head?_eq_none_iff.mp found] at colon
          cases colon
      | some other =>
          rw [found] at first
          cases first
          rcases Ip.mem_print6 (List.mem_of_head? found) with hex | colon
          · exact absurd hex (by decide)
          · exact absurd colon (by decide)

theorem TextOf.solid (written : TextOf text network) : (∀ char ∈ text.toList, Solid char) ↔
    ∀ name ∈ network.network.scope, ∀ char ∈ name, Solid char := by
  rw [← address_solid]
  rcases written.2 with rfl | rfl
  · rw [String.toList_ofList]
  · rw [String.toList_ofList, Ip.Network.text]
    constructor
    · intro all char member
      exact all char (List.mem_append_left _ member)
    · intro all char member
      rcases List.mem_append.mp member with member | member
      · exact all char member
      · rcases List.mem_cons.mp member with rfl | member
        · exact ⟨by decide, by decide⟩
        · exact solid_digit (Numerals.isDigit_toDigits member)

theorem TextOf.head? (written : TextOf text network) : text.toList.head? ≠ some '-' := by
  rcases written.2 with rfl | rfl
  · rw [String.toList_ofList]
    exact head?_text
  · rw [String.toList_ofList, Ip.Network.text, List.head?_append]
    cases found : network.network.text.head? with
    | none => simp
    | some char =>
        rw [Option.some_or, ← found]
        exact head?_text

/-- What a resolver answers. -/
def Gate.answers (gate : Gate) (host : String) : List String :=
  match gate.resolver host with
  | .resolved addresses => addresses
  | _ => []

/-- The texts that are read as the addresses of a canonical value. -/
def Gate.sources (gate : Gate) (assetType : AssetType) (canonical : String) : List String :=
  match assetType with
  | .ip | .subnet => [canonical]
  | .webApp =>
      match gate.hostname canonical with
      | none => []
      | some host => if (Ip.ipAddress host.toList).isSome then [host] else gate.answers host
  | _ => gate.answers canonical

/-- A text and what the gate writes for it. -/
def Reads (source text : String) : Prop :=
  ∃ network, Ip.ipNetwork source.toList = some network ∧ TextOf text network

theorem publicIp_reads (given : gate.publicIp answer = .ok text) : Reads answer text := by
  obtain ⟨address, read, _, rfl⟩ := publicIp_ok.mp given
  refine ⟨_, Ip.ipNetwork_of_address read, ?_, .inl ?_⟩
  · rw [String.toList_ofList, Ip.ipNetwork_address]
  · rw [Ip.networkOf_full]

theorem resolve_reads (resolved : gate.resolve canonical = .ok texts) :
    List.Forall₂ Reads (gate.answers canonical) texts := by
  obtain ⟨answers, answer, _, all⟩ := resolve_ok resolved
  rw [Gate.answers, answer]
  exact all.imp fun _ _ => publicIp_reads

theorem single_reads
    (accepted : (gate.publicIp answer).map (fun address => [address]) = .ok texts) :
    List.Forall₂ Reads [answer] texts := by
  cases found : gate.publicIp answer with
  | error failure =>
      rw [found] at accepted
      cases accepted
  | ok text =>
      rw [found] at accepted
      cases accepted
      exact .cons (publicIp_reads found) .nil

/-- Each text of a target is written for the source that it was read from. -/
theorem addresses_reads (accepted : gate.addresses assetType canonical = .ok texts) :
    List.Forall₂ Reads (gate.sources assetType canonical) texts := by
  cases assetType with
  | ip => exact single_reads accepted
  | subnet =>
      cases found : gate.publicNetwork canonical with
      | error failure => simp [Gate.addresses, found, Except.map] at accepted
      | ok text =>
          simp only [Gate.addresses, found, Except.map, Except.ok.injEq] at accepted
          obtain ⟨network, read, _, _, rfl⟩ := publicNetwork_ok.mp found
          subst accepted
          refine .cons ⟨network, read, ?_, .inr rfl⟩ .nil
          rw [String.toList_ofList, Ip.ipNetwork_text]
  | webApp =>
      cases named : gate.hostname canonical with
      | none => simp [Gate.addresses, named] at accepted
      | some host =>
          simp only [Gate.addresses, named] at accepted
          simp only [Gate.sources, named]
          by_cases literal : (Ip.ipAddress host.toList).isSome = true
          · rw [if_pos literal] at accepted
            rw [if_pos literal]
            exact single_reads accepted
          · rw [if_neg literal] at accepted
            rw [if_neg literal]
            exact resolve_reads accepted
  | hostname => exact resolve_reads accepted
  | domain => exact resolve_reads accepted
  | cloudResource => exact resolve_reads accepted

/-- No scope id that the gate reads has white space or a terminator in it. -/
def Gate.CleanScopes (gate : Gate) (given : Option AssetType) (value : String) : Prop :=
  ∀ assetType canonical, given = some assetType →
    validateAssetValue (addressTexts gate.httpUrl gate.lower) (some assetType) (some value) =
      .ok canonical →
    ∀ source ∈ gate.sources assetType canonical, ∀ network,
      Ip.ipNetwork source.toList = some network →
        ∀ name ∈ network.network.scope, ∀ char ∈ name, Solid char

/-- The texts of a target are solid where the scope ids of their sources are. -/
theorem reads_solid {sources : List String} (all : List.Forall₂ Reads sources texts) :
    (∀ text ∈ texts, ∀ char ∈ text.toList, Solid char) ↔
      ∀ source ∈ sources, ∀ network, Ip.ipNetwork source.toList = some network →
        ∀ name ∈ network.network.scope, ∀ char ∈ name, Solid char := by
  induction all with
  | nil => simp
  | cons first _ ih =>
      obtain ⟨network, read, written⟩ := first
      rw [List.forall_mem_cons, List.forall_mem_cons, ih, written.solid, read]
      simp

theorem reads_written {sources : List String} (all : List.Forall₂ Reads sources texts) :
    ∀ text ∈ texts, ∃ network, TextOf text network := by
  induction all with
  | nil => simp
  | cons first _ ih =>
      obtain ⟨network, _, written⟩ := first
      exact List.forall_mem_cons.mpr ⟨⟨network, written⟩, ih⟩

/-- A target becomes well-formed commands exactly where its scope ids are clean. -/
theorem commands_wellFormed_iff (path : BinaryPath) {given : Option AssetType} {target : ScanTarget}
    (accepted : gate.resolveScanTarget given value = .ok target) :
    (∃ families, splitByFamily target = some families ∧ SharesOut target families ∧
        ∀ family ∈ families, ∃ argv, buildNmapCommand gate.demo family path.text = .ok argv ∧
          IsCommand gate.demo path family argv) ↔ gate.CleanScopes given value := by
  obtain ⟨assetType, canonical, texts, rfl, valid, found, rfl⟩ := resolveScanTarget_ok accepted
  have all := addresses_reads found
  have clean : gate.CleanScopes (some assetType) value ↔
      ∀ text ∈ texts, ∀ char ∈ text.toList, Solid char := by
    rw [reads_solid all]
    constructor
    · intro scopes
      exact scopes assetType canonical rfl valid
    · intro scopes _ _ same valid'
      cases same
      rw [valid] at valid'
      cases valid'
      exact scopes
  rw [clean]
  constructor
  · rintro ⟨families, _, shares, built⟩ text member
    obtain ⟨family, member, listed⟩ := List.mem_flatMap.mp (shares.whole.mem_iff.mpr member)
    obtain ⟨_, _, _, _, _, solid⟩ := built family member
    exact (solid text listed).2
  · intro solid
    have versions : ∀ text ∈ texts, versionOf text = some ((versionOf text).getD .v4) := by
      intro text member
      obtain ⟨network, written, _⟩ := reads_written all text member
      rw [versionOf, written]
      rfl
    have listed : ∀ text ∈ texts, text.toList.head? ≠ some '-' ∧
        ∀ char ∈ text.toList, Python.isSpace char = false ∧ char ≠ '\x00' := by
      intro text member
      obtain ⟨network, written⟩ := reads_written all text member
      exact ⟨written.head?, solid text member⟩
    obtain ⟨families, split, shares⟩ := @splitByFamily_shares ⟨assetType, value, texts⟩ _ versions
    refine ⟨families, split, shares, ?_⟩
    intro family member
    obtain ⟨version, single⟩ := shares.single family member
    have listed' := fun text member' => listed text ((shares.ordered family member).subset member')
    exact ⟨_, buildNmapCommand_ok (shares.nonempty family member) single listed', version, single,
      rfl, listed'⟩

/-- `nmap`. -/
def nmap : BinaryPath where
  text := "nmap"
  nonempty := by decide
  terminated := by decide

theorem spaced_scope_accepted :
    (plainGate false).resolveScanTarget (some .ip) "2606:4700::1%a b" =
      .ok ⟨.ip, "2606:4700::1%a b", ["2606:4700::1%a b"]⟩ := by
  rfl

/-- A scope id with a space is accepted, and no command is built of it. -/
theorem spaced_scope_raises :
    ∃ target, (plainGate false).resolveScanTarget (some .ip) "2606:4700::1%a b" = .ok target ∧
      splitByFamily target = some [target] ∧
      buildNmapCommand false target nmap.text = .error "invalid scan address" :=
  ⟨_, spaced_scope_accepted, rfl, rfl⟩

theorem commands_wellFormed_spaced :
    (∃ families, splitByFamily ⟨.ip, "2606:4700::1%a b", ["2606:4700::1%a b"]⟩ = some families ∧
        SharesOut ⟨.ip, "2606:4700::1%a b", ["2606:4700::1%a b"]⟩ families ∧
        ∀ family ∈ families, ∃ argv, buildNmapCommand false family nmap.text = .ok argv ∧
          IsCommand false nmap family argv) ↔
      (plainGate false).CleanScopes (some .ip) "2606:4700::1%a b" :=
  commands_wellFormed_iff nmap spaced_scope_accepted

end

end Scans
