import Soc360.Ip.Boundaries

set_option autoImplicit false

namespace Scans

open Ip (Address Block Network Release Version flagOf flag6)
open Ip.Block (Within mem_iff within_cons within_nil)

theorem aligned_10 : 2 ^ 24 ∣ 0x0a000000 := by decide

theorem aligned_172_16 : 2 ^ 20 ∣ 0xac100000 := by decide

theorem aligned_192_168 : 2 ^ 16 ∣ 0xc0a80000 := by decide

theorem aligned_fc00 : 2 ^ 121 ∣ 0xfc00 * 2 ^ 112 := by decide

theorem aligned_2002 : 2 ^ 112 ∣ 0x2002 * 2 ^ 112 := Nat.dvd_mul_left _ _

theorem aligned_64 : 2 ^ 32 ∣ 0x64ff9b * 2 ^ 96 := by decide

theorem aligned_2001 : 2 ^ 96 ∣ 0x2001 * 2 ^ 112 := by decide

/-- `10.0.0.0/8`, `172.16.0.0/12`, `192.168.0.0/16` and `fc00::/7`. -/
def demoPrivateNetworks : List (Version × Block) :=
  [(.v4, ⟨0x0a000000, 24, aligned_10⟩), (.v4, ⟨0xac100000, 20, aligned_172_16⟩),
    (.v4, ⟨0xc0a80000, 16, aligned_192_168⟩), (.v6, ⟨0xfc00 * 2 ^ 112, 121, aligned_fc00⟩)]

/-- `2002::/16`, `64:ff9b::/96` and `2001::/32`. -/
def demoTransitionNetworks : List (Version × Block) :=
  [(.v6, ⟨0x2002 * 2 ^ 112, 112, aligned_2002⟩), (.v6, ⟨0x64ff9b * 2 ^ 96, 32, aligned_64⟩),
    (.v6, ⟨0x2001 * 2 ^ 112, 96, aligned_2001⟩)]

/-- `any(address in network for network in networks)`. -/
def inAny (networks : List (Version × Block)) (address : Address) : Bool :=
  networks.any fun network => address.version = network.1 ∧ address.number ∈ network.2

section

variable (release : Release) (demo : Bool) (address : Address)

/-- What the demo policy refuses whatever else holds. -/
def barred : Bool :=
  address.isLoopback || address.isLinkLocal release || address.isMulticast release ||
    address.isUnspecified release || address.isReserved release ||
    inAny demoTransitionNetworks address

def allowedAddress : Bool :=
  if demo then
    !barred release address && (address.isGlobal release || inAny demoPrivateNetworks address)
  else address.isGlobal release

end

section

variable {release : Release} {address : Address} {number : Nat}

/-! A global address is neither loopback nor link local nor unspecified. -/

theorem foreign4_flags (foreign : Ip.isPrivate4 number = false) :
    number ∉ Ip.loopback4 ∧ number ∉ Ip.linkLocal4 ∧ number ≠ 0 := by
  simp only [Ip.isPrivate4, decide_eq_false_iff_not, Ip.privateNetworks4, Ip.privateExceptions4,
    within_cons, within_nil, or_false, mem_iff] at foreign
  simp only [Ip.loopback4, Ip.linkLocal4, mem_iff]
  omega

theorem global4_foreign (global : Ip.isGlobal4 number = true) : Ip.isPrivate4 number = false := by
  rw [Ip.isGlobal4, Bool.and_eq_true, Bool.not_eq_true'] at global
  exact global.2

/-- What is in a private block and in no exception is private. -/
theorem foreign_apart {block : Block} (foreign : Ip.isPrivate6 release number = false)
    (private' : ∀ release, block ∈ Ip.privateNetworks6 release)
    (plain : number ∈ block → ¬Within Ip.privateExceptions6 number) : number ∉ block := by
  intro inside
  rw [Ip.isPrivate6, decide_eq_false_iff_not] at foreign
  exact foreign ⟨⟨block, private' release, inside⟩, plain inside⟩

theorem foreign_loopback (foreign : Ip.isPrivate6 release number = false) : number ≠ 1 := by
  rintro rfl
  revert foreign
  cases release <;> decide

theorem foreign_unspecified (foreign : Ip.isPrivate6 release number = false) : number ≠ 0 := by
  rintro rfl
  revert foreign
  cases release <;> decide

theorem foreign_linkLocal (foreign : Ip.isPrivate6 release number = false) :
    number ∉ Ip.linkLocal6 := by
  apply foreign_apart foreign
  · intro release
    cases release <;> decide
  · intro inside
    simp only [Ip.linkLocal6, Ip.privateExceptions6, within_cons, within_nil, or_false, mem_iff]
      at inside ⊢
    omega

/-- A transition address is private or reserved. -/
theorem foreign_transition (foreign : Ip.isPrivate6 release number = false)
    (free : ¬Within Ip.reservedNetworks6 number) :
    ∀ network ∈ demoTransitionNetworks, number ∉ network.2 := by
  have first : number ∉ (⟨0x2002 * 2 ^ 112, 112, by decide⟩ : Block) := by
    apply foreign_apart foreign
    · intro release
      cases release <;> decide
    · intro inside
      simp only [Ip.privateExceptions6, within_cons, within_nil, or_false, mem_iff] at inside ⊢
      omega
  have second : number ∉ (⟨0x64ff9b * 2 ^ 96, 32, by decide⟩ : Block) := by
    intro inside
    apply free
    simp only [Ip.reservedNetworks6, within_cons, within_nil, or_false, mem_iff] at inside ⊢
    omega
  have third : number ∉ (⟨0x2001 * 2 ^ 112, 96, by decide⟩ : Block) := by
    intro inside
    have wide : number ∈ (⟨0x2001 * 2 ^ 112, 105, by decide⟩ : Block) := by
      rw [mem_iff] at inside ⊢
      simp only at inside ⊢
      omega
    revert wide
    apply foreign_apart foreign
    · intro release
      cases release <;> decide
    · intro _
      simp only [Ip.privateExceptions6, within_cons, within_nil, or_false, mem_iff] at inside ⊢
      omega
  simp only [demoTransitionNetworks, List.mem_cons, List.not_mem_nil, or_false]
  rintro network (rfl | rfl | rfl)
  · exact first
  · exact second
  · exact third

theorem mapped_transition (mapped : number ∈ Ip.mappedBlock) :
    ∀ network ∈ demoTransitionNetworks, number ∉ network.2 := by
  simp only [demoTransitionNetworks, List.mem_cons, List.not_mem_nil, or_false]
  rintro network (rfl | rfl | rfl) inside
  all_goals
    simp only [Ip.mappedBlock, mem_iff] at mapped inside
    omega

theorem inAny_iff {networks : List (Version × Block)} : inAny networks address = true ↔
    ∃ network ∈ networks, address.version = network.1 ∧ address.number ∈ network.2 := by
  simp only [inAny, List.any_eq_true, decide_eq_true_eq]

theorem mapped_flags (mapped : number ∈ Ip.mappedBlock) :
    number ∉ Ip.linkLocal6 ∧ number ≠ 0 := by
  simp only [Ip.mappedBlock, Ip.linkLocal6, mem_iff] at mapped ⊢
  omega

/-- What makes an address global. -/
theorem global_cases (global : address.isGlobal release = true) :
    address.version = .v4 ∧ Ip.isPrivate4 address.number = false ∨
      address.version = .v6 ∧ address.number ∈ Ip.mappedBlock ∧
        Ip.isPrivate4 (address.number % 2 ^ 32) = false ∨
      address.version = .v6 ∧ address.number ∉ Ip.mappedBlock ∧
        Ip.isPrivate6 release address.number = false := by
  rw [Address.isGlobal, Address.flag] at global
  cases version : address.version with
  | v4 =>
      rw [version] at global
      exact .inl ⟨rfl, global4_foreign global⟩
  | v6 =>
      rw [version, flagOf, flag6] at global
      right
      by_cases mapped : address.number ∈ Ip.mappedBlock
      · rw [Ip.ipv4Mapped_some mapped] at global
        refine .inl ⟨rfl, mapped, ?_⟩
        cases looks : release.mapped with
        | true =>
            rw [looks] at global
            exact global4_foreign global
        | false =>
            simpa only [looks, flag6, Ip.ipv4Mapped_some mapped, Bool.false_eq_true, ↓reduceIte,
              Bool.not_eq_true'] using global
      · rw [Ip.ipv4Mapped_none mapped] at global
        refine .inr ⟨rfl, mapped, ?_⟩
        simpa only [flag6, Ip.ipv4Mapped_none mapped, Bool.not_eq_true'] using global

/-- A global address is neither loopback nor link local nor unspecified. -/
theorem global_flags (global : address.isGlobal release = true) :
    address.isLoopback = false ∧ address.isLinkLocal release = false ∧
      address.isUnspecified release = false := by
  simp only [Address.isLoopback, Address.isLinkLocal, Address.isUnspecified, Address.flag]
  rcases global_cases global with ⟨version, foreign⟩ | ⟨version, mapped, foreign⟩ |
    ⟨version, unmapped, foreign⟩
  · obtain ⟨loopback, linkLocal, unspecified⟩ := foreign4_flags foreign
    simp only [version, flagOf, loopback, linkLocal, decide_false, beq_eq_false_iff_ne, ne_eq,
      unspecified, not_false_eq_true, and_self]
  · obtain ⟨loopback, linkLocal, unspecified⟩ := foreign4_flags foreign
    obtain ⟨linkLocal', unspecified'⟩ := mapped_flags mapped
    simp only [version, flagOf, flag6, Ip.ipv4Mapped_some mapped, loopback, linkLocal, linkLocal',
      decide_false, ↓reduceIte, ite_self, true_and]
    cases release.mapped with
    | true => exact beq_eq_false_iff_ne.mpr unspecified
    | false => exact beq_eq_false_iff_ne.mpr unspecified'
  · simp only [version, flagOf, flag6, Ip.ipv4Mapped_none unmapped, foreign_linkLocal foreign,
      decide_false, beq_eq_false_iff_ne, ne_eq, foreign_loopback foreign,
      foreign_unspecified foreign, not_false_eq_true, and_self]

/-- A global transition address is reserved. -/
theorem global_transition (global : address.isGlobal release = true)
    (transition : inAny demoTransitionNetworks address = true) :
    address.isReserved release = true := by
  obtain ⟨network, member, same, inside⟩ := inAny_iff.mp transition
  rcases global_cases global with ⟨version, _⟩ | ⟨version, mapped, _⟩ | ⟨version, unmapped, foreign⟩
  · rw [version] at same
    simp only [demoTransitionNetworks, List.mem_cons, List.not_mem_nil, or_false] at member
    rcases member with rfl | rfl | rfl <;> cases same
  · exact absurd inside (mapped_transition mapped network member)
  · rw [Address.isReserved, Address.flag, version, flagOf, flag6, Ip.ipv4Mapped_none unmapped]
    by_contra free
    exact foreign_transition foreign (by simpa using free) network member inside

/-- Of the global addresses the demo policy bars those that are multicast or reserved. -/
theorem barred_global (global : address.isGlobal release = true) :
    barred release address = (address.isMulticast release || address.isReserved release) := by
  obtain ⟨loopback, linkLocal, unspecified⟩ := global_flags global
  rw [barred, loopback, linkLocal, unspecified, Bool.false_or, Bool.false_or, Bool.or_false]
  cases transition : inAny demoTransitionNetworks address with
  | false => rw [Bool.or_false]
  | true => rw [global_transition global transition, Bool.or_true, Bool.or_true]

/-- Demo mode keeps the addresses of production exactly where these are neither multicast nor
reserved; it adds private ones only. -/
theorem demo_adds_iff (release : Release) (address : Address) :
    ((allowedAddress release false address = true → allowedAddress release true address = true) ∧
        (allowedAddress release true address = true → allowedAddress release false address = false →
          inAny demoPrivateNetworks address = true)) ↔
      (address.isGlobal release = true →
        address.isMulticast release = false ∧ address.isReserved release = false) := by
  have production : allowedAddress release false address = address.isGlobal release := rfl
  have demo : allowedAddress release true address = (!barred release address &&
    (address.isGlobal release || inAny demoPrivateNetworks address)) := rfl
  rw [production, demo]
  cases global : address.isGlobal release with
  | false =>
      simp only [Bool.false_eq_true, false_implies, Bool.false_or, Bool.and_eq_true, true_and,
        iff_true]
      exact fun allowed _ => allowed.2
  | true =>
      rw [barred_global global, Bool.true_or, Bool.and_true]
      cases address.isMulticast release <;> cases address.isReserved release <;> simp

/-- `224.0.0.1`. -/
def allSystems : Address where
  version := .v4
  number := 0xe0000001
  scope := none
  bound := by decide
  validScope := by simp

/-- Production admits a multicast address. -/
theorem production_admits_multicast :
    allowedAddress .v3_12_8 false allSystems = true ∧
      allowedAddress .v3_12_8 true allSystems = false ∧
      allSystems.isMulticast .v3_12_8 = true := by
  decide

end

/-! Networks whose boundaries the demo policy allows. -/

section

variable {release : Release} {network : Network} {address : Address}

/-- The flags of a number. -/
def globalOf (release : Release) : Version → Nat → Bool :=
  flagOf release.mapped Ip.isGlobal4 fun number =>
    !flag6 true Ip.isPrivate4 (Ip.isPrivate6 release) number

def multicastOf (release : Release) : Version → Nat → Bool :=
  flagOf release.mapped (fun number => decide (number ∈ Ip.multicast4))
    fun number => decide (number ∈ Ip.multicast6)

def reservedOf (release : Release) : Version → Nat → Bool :=
  flagOf release.mapped (fun number => decide (number ∈ Ip.reserved4))
    fun number => decide (Within Ip.reservedNetworks6 number)

def demoOf (version : Version) (number : Nat) : Bool :=
  demoPrivateNetworks.any fun network => version = network.1 ∧ number ∈ network.2

theorem multicastOf_uniform {version : Version} : Ip.Uniform (multicastOf release version) :=
  (Ip.uniform_mem (by decide)).flagOf (Ip.uniform_mem (by decide))

theorem reservedOf_uniform {version : Version} : Ip.Uniform (reservedOf release version) :=
  (Ip.uniform_mem (by decide)).flagOf (Ip.uniform_within (by decide))

theorem demoOf_uniform {version : Version} : Ip.Uniform (demoOf version) := by
  intro narrow small number inside
  have large : ∀ network ∈ demoPrivateNetworks, 8 ≤ network.2.host := by decide
  rw [demoOf, demoOf, Bool.eq_iff_iff, List.any_eq_true, List.any_eq_true]
  simp only [decide_eq_true_eq]
  constructor
  · rintro ⟨network, member, same, inside'⟩
    exact ⟨network, member, same,
      (Ip.Block.mem_wide (le_trans small (large network member)) inside).mp inside'⟩
  · rintro ⟨network, member, same, inside'⟩
    exact ⟨network, member, same,
      (Ip.Block.mem_wide (le_trans small (large network member)) inside).mpr inside'⟩

theorem private4_unbarred {number : Nat}
    (inside : number ∈ (⟨0x0a000000, 24, by decide⟩ : Block) ∨
      number ∈ (⟨0xac100000, 20, by decide⟩ : Block) ∨
      number ∈ (⟨0xc0a80000, 16, by decide⟩ : Block)) :
    number ∉ Ip.loopback4 ∧ number ∉ Ip.linkLocal4 ∧ number ∉ Ip.multicast4 ∧ number ≠ 0 ∧
      number ∉ Ip.reserved4 := by
  simp only [Ip.loopback4, Ip.linkLocal4, Ip.multicast4, Ip.reserved4, mem_iff] at inside ⊢
  omega

theorem private6_unbarred {number : Nat}
    (inside : number ∈ (⟨0xfc00 * 2 ^ 112, 121, by decide⟩ : Block)) :
    number ∉ Ip.mappedBlock ∧ number ≠ 1 ∧ number ∉ Ip.linkLocal6 ∧ number ∉ Ip.multicast6 ∧
      number ≠ 0 ∧ ¬Within Ip.reservedNetworks6 number ∧
      ∀ network ∈ demoTransitionNetworks, number ∉ network.2 := by
  simp only [Ip.mappedBlock, Ip.linkLocal6, Ip.multicast6, Ip.reservedNetworks6,
    demoTransitionNetworks, List.forall_mem_cons, List.not_mem_nil, IsEmpty.forall_iff,
    implies_true, and_true, within_cons, within_nil, or_false, mem_iff] at inside ⊢
  omega

/-- The demo policy bars no private address that it adds. -/
theorem demo_unbarred (added : inAny demoPrivateNetworks address = true) :
    barred release address = false := by
  obtain ⟨network, member, same, inside⟩ := inAny_iff.mp added
  simp only [demoPrivateNetworks, List.mem_cons, List.not_mem_nil, or_false] at member
  have family : address.version = .v4 ∧
      (address.number ∈ (⟨0x0a000000, 24, by decide⟩ : Block) ∨
        address.number ∈ (⟨0xac100000, 20, by decide⟩ : Block) ∨
        address.number ∈ (⟨0xc0a80000, 16, by decide⟩ : Block)) ∨
      address.version = .v6 ∧ address.number ∈ (⟨0xfc00 * 2 ^ 112, 121, by decide⟩ : Block) := by
    rcases member with rfl | rfl | rfl | rfl
    · exact .inl ⟨same, .inl inside⟩
    · exact .inl ⟨same, .inr (.inl inside)⟩
    · exact .inl ⟨same, .inr (.inr inside)⟩
    · exact .inr ⟨same, inside⟩
  rcases family with ⟨version, inside⟩ | ⟨version, inside⟩
  · obtain ⟨loopback, linkLocal, multicast, unspecified, reserved⟩ := private4_unbarred inside
    have transition : inAny demoTransitionNetworks address = false := by
      simp [inAny, demoTransitionNetworks, version]
    simp [barred, Address.isLoopback, Address.isLinkLocal, Address.isMulticast,
      Address.isUnspecified, Address.isReserved, Address.flag, version, flagOf, loopback, linkLocal,
      multicast, unspecified, reserved, transition]
  · obtain ⟨plain, loopback, linkLocal, multicast, unspecified, reserved, apart⟩ :=
      private6_unbarred inside
    have transition : inAny demoTransitionNetworks address = false := by
      apply Bool.eq_false_iff.mpr
      intro within'
      obtain ⟨network, member, _, inside⟩ := inAny_iff.mp within'
      exact apart network member inside
    simp [barred, Address.isLoopback, Address.isLinkLocal, Address.isMulticast,
      Address.isUnspecified, Address.isReserved, Address.flag, version, flagOf, flag6,
      Ip.ipv4Mapped_none plain, loopback, linkLocal, multicast, unspecified, reserved, transition]

theorem allowed_demo_iff : allowedAddress release true address = true ↔
    demoOf address.version address.number = true ∨
      globalOf release address.version address.number = true ∧
        multicastOf release address.version address.number = false ∧
        reservedOf release address.version address.number = false := by
  have demo : allowedAddress release true address = (!barred release address &&
    (address.isGlobal release || inAny demoPrivateNetworks address)) := rfl
  have added : inAny demoPrivateNetworks address = demoOf address.version address.number := rfl
  have global' : globalOf release address.version address.number = address.isGlobal release := rfl
  have multicast : multicastOf release address.version address.number =
    address.isMulticast release := rfl
  have reserved : reservedOf release address.version address.number =
    address.isReserved release := rfl
  rw [demo, global', multicast, reserved, ← added]
  cases private' : inAny demoPrivateNetworks address with
  | true => simp [demo_unbarred private']
  | false =>
      cases global : address.isGlobal release with
      | false => simp
      | true => simp [barred_global global]

/-- What is between two global addresses of a small network is global. -/
theorem globalOf_between {version : Version} {narrow : Block} {number : Nat}
    (small : narrow.host ≤ 8) (first : globalOf release version narrow.base = true)
    (last : globalOf release version narrow.last = true)
    (free : reservedOf release version narrow.base = false) (inside : number ∈ narrow) :
    globalOf release version number = true := by
  have order : narrow.host ≤ 32 := by omega
  cases version with
  | v4 => exact Ip.global4_between small first last inside
  | v6 =>
      by_cases mapped : narrow.base ∈ Ip.mappedBlock
      · have mapped' : number ∈ Ip.mappedBlock := (Ip.Block.mem_wide order inside).mpr mapped
        have mapped'' : narrow.last ∈ Ip.mappedBlock := (Ip.Block.last_wide order).mpr mapped
        cases looks : release.mapped with
        | true =>
            simp only [globalOf, flagOf, flag6, looks, Ip.ipv4Mapped_some mapped,
              Ip.ipv4Mapped_some mapped', Ip.ipv4Mapped_some mapped'', ↓reduceIte]
              at first last ⊢
            rw [← Ip.unmapped_last order mapped] at last
            exact @Ip.global4_between (Ip.unmapped narrow order) _ small first last
              (Ip.unmapped_mem order mapped inside)
        | false =>
            have reserved : Within Ip.reservedNetworks6 narrow.base := by
              simp only [Ip.mappedBlock, Ip.reservedNetworks6, within_cons, mem_iff] at mapped ⊢
              omega
            simp [reservedOf, flagOf, flag6, looks, Ip.ipv4Mapped_some mapped, reserved] at free
      · have mapped' : number ∉ Ip.mappedBlock := mt (Ip.Block.mem_wide order inside).mp mapped
        have mapped'' : narrow.last ∉ Ip.mappedBlock := mt (Ip.Block.last_wide order).mp mapped
        simp only [globalOf, reservedOf, flagOf, flag6, Ip.ipv4Mapped_none mapped,
          Ip.ipv4Mapped_none mapped', Ip.ipv4Mapped_none mapped'', Bool.not_eq_true',
          decide_eq_false_iff_not] at first last free ⊢
        apply Ip.foreign6_between small first last _ inside
        by_contra few
        apply free
        have low := (mem_iff.mp inside).1
        have bottom : narrow.base < 2 ^ 120 := by omega
        exact ⟨⟨0, 120, by decide⟩, List.mem_cons_self, mem_iff.mpr ⟨Nat.zero_le _, by omega⟩⟩

/-- A network of at most 256 addresses is allowed by the demo policy where its boundaries are. -/
theorem demo_network (small : network.host ≤ 8)
    (first : allowedAddress release true network.network = true)
    (last : allowedAddress release true network.broadcast = true)
    (inside : network.contains address = true) : allowedAddress release true address = true := by
  obtain ⟨same, inside⟩ := Ip.contains_iff.mp inside
  have base : network.block.base = network.network.number := rfl
  have top : network.block.last = network.broadcast.number := rfl
  have version : network.version = network.network.version := rfl
  have version' : network.version = network.broadcast.version := rfl
  rw [allowed_demo_iff, ← version, ← base] at first
  rw [allowed_demo_iff, ← version', ← top] at last
  rw [allowed_demo_iff, same]
  rw [demoOf_uniform _ small _ inside, multicastOf_uniform _ small _ inside,
    reservedOf_uniform _ small _ inside]
  rw [demoOf_uniform _ small _ Ip.Block.last_mem] at last
  rcases first with added | ⟨global, unicast, free⟩
  · exact .inl added
  · rcases last with added | ⟨global', _⟩
    · exact .inl added
    · exact .inr ⟨globalOf_between small global global' free inside, unicast, free⟩

end

end Scans
