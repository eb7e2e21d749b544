import Soc360.Assets.Validity
import Soc360.Ip.RoundTrips
import Soc360.Scans.Policy

set_option autoImplicit false

namespace Scans

open Assets (AssetType Texts validateAssetValue)
open Ip (Address Network Release)

/-- The reasons of `TargetRejectedError`. -/
inductive Rejection where
  | unsupportedType
  | invalid
  | notGlobal
  | tooLarge
  | resolutionTimeout
  | unresolvable
  deriving DecidableEq, Repr

def Rejection.reason : Rejection → String
  | .unsupportedType => "target_unsupported_type"
  | .invalid => "target_invalid"
  | .notGlobal => "target_not_global"
  | .tooLarge => "target_too_large"
  | .resolutionTimeout => "target_resolution_timeout"
  | .unresolvable => "target_unresolvable"

/-- What a resolver does with a host. -/
inductive Answer where
  | resolved (addresses : List String)
  | timedOut
  | gaiError
  | raised

/-- How a call fails: with a rejection or with another exception. -/
inductive TargetFailure where
  | rejected (rejection : Rejection)
  | raised
  deriving DecidableEq, Repr

structure ScanTarget where
  assetType : AssetType
  original : String
  addresses : List String
  deriving DecidableEq, Repr

/-- `str(ip_address(text))`. -/
def addressText (text : String) : Option String :=
  (Ip.ipAddress text.toList).map fun address => String.ofList address.text

/-- `str(ip_network(text, strict=False))`. -/
def networkText (text : String) : Option String :=
  (Ip.ipNetwork text.toList).map fun network => String.ofList network.text

/-- Python's own functions with those of `ipaddress`. -/
def addressTexts (httpUrl : String → Option (String × String)) (lower : String → String) : Texts :=
  Assets.pythonTexts addressText networkText httpUrl lower

/-- What the gate reads besides its arguments: the release, `SCAN_DEMO_MODE`, the library functions
of the validator, and `urlsplit(_).hostname or ""`, which may raise. -/
structure Gate where
  release : Release
  demo : Bool
  httpUrl : String → Option (String × String)
  lower : String → String
  hostname : String → Option String
  resolver : String → Answer

namespace Gate

variable (gate : Gate)

def allowed (address : Address) : Bool := allowedAddress gate.release gate.demo address

/-- `_public_ip`. -/
def publicIp (value : String) : Except TargetFailure String :=
  match Ip.ipAddress value.toList with
  | none => .error (.rejected .invalid)
  | some address =>
      if gate.allowed address then .ok (String.ofList address.text)
      else .error (.rejected .notGlobal)

/-- The subnet branch. A text that is no network raises. -/
def publicNetwork (canonical : String) : Except TargetFailure String :=
  match Ip.ipNetwork canonical.toList with
  | none => .error .raised
  | some network =>
      if 256 < network.numAddresses then .error (.rejected .tooLarge)
      else
        let allowed :=
          if gate.demo then gate.allowed network.network && gate.allowed network.broadcast
          else network.isGlobal gate.release
        if allowed then .ok (String.ofList network.text) else .error (.rejected .notGlobal)

/-- The answer of the resolver, address by address. -/
def resolve (host : String) : Except TargetFailure (List String) :=
  match gate.resolver host with
  | .timedOut => .error (.rejected .resolutionTimeout)
  | .gaiError => .error (.rejected .unresolvable)
  | .raised => .error .raised
  | .resolved [] => .error (.rejected .unresolvable)
  | .resolved addresses => addresses.mapM gate.publicIp

/-- The addresses of a canonical value. -/
def addresses (assetType : AssetType) (canonical : String) :
    Except TargetFailure (List String) :=
  match assetType with
  | .ip => (gate.publicIp canonical).map fun address => [address]
  | .subnet => (gate.publicNetwork canonical).map fun network => [network]
  | .webApp =>
      match gate.hostname canonical with
      | none => .error .raised
      | some host =>
          if (Ip.ipAddress host.toList).isSome then
            (gate.publicIp host).map fun address => [address]
          else gate.resolve host
  | _ => gate.resolve canonical

def resolveScanTarget (assetType : Option AssetType) (value : String) :
    Except TargetFailure ScanTarget :=
  match assetType with
  | none | some .cloudResource => .error (.rejected .unsupportedType)
  | some assetType =>
      match validateAssetValue (addressTexts gate.httpUrl gate.lower) (some assetType)
          (some value) with
      | .error _ => .error (.rejected .invalid)
      | .ok canonical =>
          if canonical.toList.head? = some '-' then .error (.rejected .invalid)
          else (gate.addresses assetType canonical).map fun addresses =>
            ⟨assetType, value, addresses⟩

end Gate

/-- The addresses that a target tells the scanner to scan. -/
def ScanTarget.Denotes (target : ScanTarget) (address : Address) : Prop :=
  ∃ text ∈ target.addresses, ∃ network, Ip.ipNetwork text.toList = some network ∧
    network.contains address = true

section

variable {gate : Gate} {value text canonical host : String} {address other : Address}
  {network : Network} {texts : List String} {assetType : AssetType} {target : ScanTarget}

/-! What each part of the gate lets through. -/

theorem publicIp_ok : gate.publicIp value = .ok text ↔
    ∃ address, Ip.ipAddress value.toList = some address ∧ gate.allowed address = true ∧
      text = String.ofList address.text := by
  rw [Gate.publicIp]
  cases read : Ip.ipAddress value.toList with
  | none => simp
  | some address =>
      simp only [Option.some.injEq, exists_eq_left']
      split
      next allowed => simp [allowed, eq_comm]
      next refused => simp [refused]

theorem publicNetwork_ok : gate.publicNetwork canonical = .ok text ↔
    ∃ network, Ip.ipNetwork canonical.toList = some network ∧ network.numAddresses ≤ 256 ∧
      (if gate.demo then gate.allowed network.network && gate.allowed network.broadcast
        else network.isGlobal gate.release) = true ∧ text = String.ofList network.text := by
  rw [Gate.publicNetwork]
  cases read : Ip.ipNetwork canonical.toList with
  | none => simp
  | some network =>
      simp only [Option.some.injEq, exists_eq_left']
      by_cases large : 256 < network.numAddresses
      · rw [if_pos large]
        simp only [reduceCtorEq, false_iff, not_and]
        intro small
        exact absurd large (Nat.not_lt.mpr small)
      · rw [if_neg large]
        cases allowed : (if gate.demo then
            gate.allowed network.network && gate.allowed network.broadcast
          else network.isGlobal gate.release) with
        | false => simp
        | true =>
            simp only [↓reduceIte, Except.ok.injEq, Nat.not_lt.mp large, true_and]
            exact eq_comm

theorem mapM_ok {found : List String} (read : texts.mapM gate.publicIp = .ok found) :
    List.Forall₂ (fun answer text => gate.publicIp answer = .ok text) texts found := by
  induction texts generalizing found with
  | nil =>
      cases read
      exact .nil
  | cons answer texts ih =>
      rw [List.mapM_cons] at read
      obtain ⟨text, first, read⟩ := Except.bind_eq_ok.mp read
      obtain ⟨others, rest, read⟩ := Except.bind_eq_ok.mp read
      cases read
      exact .cons first (ih rest)

theorem answered {answers : List String}
    (all : List.Forall₂ (fun answer text => gate.publicIp answer = .ok text) answers texts)
    (member : text ∈ texts) : ∃ answer ∈ answers, gate.publicIp answer = .ok text := by
  induction all with
  | nil => cases member
  | cons first _ ih =>
      rcases List.mem_cons.mp member with rfl | member
      · exact ⟨_, List.mem_cons_self, first⟩
      · obtain ⟨answer, member, given⟩ := ih member
        exact ⟨answer, List.mem_cons_of_mem _ member, given⟩

theorem resolve_ok (resolved : gate.resolve host = .ok texts) :
    ∃ answers, gate.resolver host = .resolved answers ∧ answers ≠ [] ∧
      List.Forall₂ (fun answer text => gate.publicIp answer = .ok text) answers texts := by
  rw [Gate.resolve] at resolved
  cases answer : gate.resolver host with
  | timedOut => simp [answer] at resolved
  | gaiError => simp [answer] at resolved
  | raised => simp [answer] at resolved
  | resolved answers =>
      rw [answer] at resolved
      cases answers with
      | nil => simp at resolved
      | cons first others => exact ⟨_, rfl, List.cons_ne_nil _ _, mapM_ok resolved⟩

/-- The addresses of every type but subnets are those that `_public_ip` lets through. -/
theorem addresses_ok (other : assetType ≠ .subnet)
    (accepted : gate.addresses assetType canonical = .ok texts) :
    ∃ answers, answers ≠ [] ∧
      List.Forall₂ (fun answer text => gate.publicIp answer = .ok text) answers texts := by
  have single : ∀ {answer}, (gate.publicIp answer).map (fun address => [address]) = .ok texts →
      ∃ answers, answers ≠ [] ∧
        List.Forall₂ (fun answer text => gate.publicIp answer = .ok text) answers texts := by
    intro answer accepted
    cases read : gate.publicIp answer with
    | error failure =>
        rw [read] at accepted
        cases accepted
    | ok text =>
        rw [read] at accepted
        cases accepted
        exact ⟨[answer], List.cons_ne_nil _ _, .cons read .nil⟩
  have many : ∀ {host}, gate.resolve host = .ok texts → ∃ answers, answers ≠ [] ∧
      List.Forall₂ (fun answer text => gate.publicIp answer = .ok text) answers texts := by
    intro host resolved
    obtain ⟨answers, _, some', all⟩ := resolve_ok resolved
    exact ⟨answers, some', all⟩
  cases assetType with
  | ip => exact single accepted
  | subnet => exact absurd rfl other
  | webApp =>
      simp only [Gate.addresses] at accepted
      split at accepted
      next => cases accepted
      next host _ =>
        split at accepted
        next => exact single accepted
        next => exact many accepted
  | hostname => exact many accepted
  | domain => exact many accepted
  | cloudResource => exact many accepted

theorem resolveScanTarget_ok {given : Option AssetType}
    (accepted : gate.resolveScanTarget given value = .ok target) :
    ∃ assetType canonical texts, given = some assetType ∧
      validateAssetValue (addressTexts gate.httpUrl gate.lower) (some assetType) (some value) =
        .ok canonical ∧
      gate.addresses assetType canonical = .ok texts ∧ target = ⟨assetType, value, texts⟩ := by
  unfold Gate.resolveScanTarget at accepted
  split at accepted
  next => cases accepted
  next => cases accepted
  next assetType _ =>
    split at accepted
    next => cases accepted
    next canonical valid =>
      split at accepted
      next => cases accepted
      next =>
        cases found : gate.addresses assetType canonical with
        | error failure =>
            rw [found] at accepted
            cases accepted
        | ok texts =>
            rw [found] at accepted
            exact ⟨assetType, canonical, texts, rfl, valid, found,
              (Except.ok.inj accepted).symm⟩

/-! What a target denotes. -/

/-- The policy looks at the version and the number of an address. -/
theorem allowed_congr (version : address.version = other.version)
    (number : address.number = other.number) : gate.allowed address = gate.allowed other := by
  obtain ⟨_, _, _, _, _⟩ := address
  obtain ⟨_, _, _, _, _⟩ := other
  cases version
  cases number
  rfl

theorem contains_single :
    (Ip.networkOf address address.version.width le_rfl).contains other = true ↔
      other.version = address.version ∧ other.number = address.number := by
  rw [Ip.networkOf_full, Ip.contains_iff, Ip.Block.mem_single (Nat.sub_self _)]
  rfl

/-- The text of an address denotes that address alone. -/
theorem denotes_address (read : Ip.ipNetwork (String.ofList address.text).toList = some network)
    (inside : network.contains other = true) :
    other.version = address.version ∧ other.number = address.number := by
  rw [String.toList_ofList, Ip.ipNetwork_address] at read
  cases read
  exact contains_single.mp inside

theorem networkText_ok {httpUrl : String → Option (String × String)} {lower : String → String}
    (valid : validateAssetValue (addressTexts httpUrl lower) (some .subnet) (some value) =
      .ok canonical) :
    ∃ network, Ip.ipNetwork value.toList = some network ∧
      canonical = String.ofList network.text := by
  rw [validateAssetValue, Assets.validateParsed_ok] at valid
  obtain ⟨network, read, written⟩ := Option.map_eq_some_iff.mp valid
  exact ⟨network, read, written.symm⟩

/-- A subnet is listed as the network that its value is read as. -/
theorem subnet_ok (valid : validateAssetValue (addressTexts gate.httpUrl gate.lower) (some .subnet)
      (some value) = .ok canonical)
    (accepted : gate.addresses .subnet canonical = .ok texts) :
    ∃ network, Ip.ipNetwork value.toList = some network ∧
      texts = [String.ofList network.text] ∧ network.numAddresses ≤ 256 ∧
      (if gate.demo then gate.allowed network.network && gate.allowed network.broadcast
        else network.isGlobal gate.release) = true := by
  obtain ⟨network, read, rfl⟩ := networkText_ok valid
  cases found : gate.publicNetwork (String.ofList network.text) with
  | error failure => simp [Gate.addresses, found, Except.map] at accepted
  | ok text =>
      simp only [Gate.addresses, found, Except.map, Except.ok.injEq] at accepted
      obtain ⟨other, read', small, allowed, rfl⟩ := publicNetwork_ok.mp found
      rw [String.toList_ofList, Ip.ipNetwork_text] at read'
      cases read'
      exact ⟨network, read, accepted.symm, small, allowed⟩

/-- Where a subnet of production does not straddle a single address of the tables. -/
def Gate.Clear (gate : Gate) (assetType : Option AssetType) (value : String) : Prop :=
  gate.demo = true ∨ assetType ≠ some .subnet ∨
    ∀ network, Ip.ipNetwork value.toList = some network → ¬network.Straddles

/-- All that a target denotes is allowed exactly where the gate is clear. -/
theorem denoted_allowed_iff {given : Option AssetType}
    (accepted : gate.resolveScanTarget given value = .ok target) :
    (target.addresses ≠ [] ∧ (∀ address, target.Denotes address → gate.allowed address = true) ∧
        (given = some .subnet → ∃ text network, target.addresses = [text] ∧
          Ip.ipNetwork text.toList = some network ∧ network.numAddresses ≤ 256)) ↔
      gate.Clear given value := by
  obtain ⟨assetType, canonical, texts, rfl, valid, found, rfl⟩ := resolveScanTarget_ok accepted
  by_cases subnet : assetType = .subnet
  · subst subnet
    obtain ⟨network, read, rfl, small, allowed⟩ := subnet_ok valid found
    have small' := network.numAddresses_le.mp small
    have written : Ip.ipNetwork (String.ofList network.text).toList = some network := by
      rw [String.toList_ofList, Ip.ipNetwork_text]
    have listed : ∀ address, (ScanTarget.mk .subnet value [String.ofList network.text]).Denotes
        address ↔ network.contains address = true := by
      intro address
      constructor
      · rintro ⟨text, member, other, read', inside⟩
        rw [List.mem_singleton.mp member, written] at read'
        cases read'
        exact inside
      · intro inside
        exact ⟨_, List.mem_cons_self, network, written, inside⟩
    have clear : gate.Clear (some .subnet) value ↔
        gate.demo = true ∨ ¬network.Straddles := by
      simp [Gate.Clear, read]
    have all : (∀ address, network.contains address = true → gate.allowed address = true) ↔
        gate.demo = true ∨ ¬network.Straddles := by
      cases demo : gate.demo with
      | true =>
          rw [demo, if_pos rfl, Bool.and_eq_true] at allowed
          simp only [true_or, iff_true]
          simp only [Gate.allowed, demo] at allowed ⊢
          intro address inside
          exact demo_network small' allowed.1 allowed.2 inside
      | false =>
          rw [demo, if_neg (by decide)] at allowed
          simp only [Bool.false_eq_true, false_or]
          simp only [Gate.allowed, demo]
          exact Ip.Network.global_iff small' allowed
    rw [clear, ← all]
    constructor
    · rintro ⟨_, met, _⟩ address inside
      exact met address ((listed address).mpr inside)
    · intro met
      refine ⟨List.cons_ne_nil _ _, fun address denoted => met address ((listed address).mp denoted),
        fun _ => ⟨_, network, rfl, written, small⟩⟩
  · obtain ⟨answers, some', all⟩ := addresses_ok subnet found
    have clear : gate.Clear (some assetType) value := .inr (.inl fun same => subnet (by simpa using same))
    have nonempty : texts ≠ [] := by
      rintro rfl
      exact some' (List.forall₂_nil_right_iff.mp all)
    refine iff_of_true ⟨nonempty, ?_, fun same => absurd (Option.some.inj same) subnet⟩ clear
    rintro address ⟨text, member, network, read, inside⟩
    obtain ⟨answer, _, given⟩ := answered all member
    obtain ⟨listed, _, allowed, rfl⟩ := publicIp_ok.mp given
    obtain ⟨version, number⟩ := denotes_address read inside
    rw [allowed_congr version number]
    exact allowed

/-- A gate of production that resolves no host. -/
def plainGate (demo : Bool) : Gate where
  release := .v3_12_8
  demo := demo
  httpUrl _ := none
  lower := Assets.lowerAscii
  hostname _ := none
  resolver _ := .gaiError

/-- `::1`. -/
def loopback : Address where
  version := .v6
  number := 1
  scope := none
  bound := by decide
  validScope := by simp

theorem lowest_accepted : (plainGate false).resolveScanTarget (some .subnet) "::/120" =
    .ok ⟨.subnet, "::/120", ["::/120"]⟩ := by
  rfl

/-- In production the subnet `::/120` is scanned, with the loopback address. -/
theorem loopback_scanned :
    ∃ target, (plainGate false).resolveScanTarget (some .subnet) "::/120" = .ok target ∧
      target.Denotes loopback ∧ (plainGate false).allowed loopback = false :=
  ⟨_, lowest_accepted, ⟨"::/120", List.mem_cons_self, _, rfl, by decide⟩, by decide⟩

theorem denoted_allowed_lowest :
    (["::/120"] ≠ [] ∧
        (∀ address, (ScanTarget.mk .subnet "::/120" ["::/120"]).Denotes address →
          (plainGate false).allowed address = true) ∧
        (some AssetType.subnet = some .subnet → ∃ text network, ["::/120"] = [text] ∧
          Ip.ipNetwork text.toList = some network ∧ network.numAddresses ≤ 256)) ↔
      (plainGate false).Clear (some .subnet) "::/120" :=
  denoted_allowed_iff lowest_accepted

end

end Scans
