import Soc360.Ip.Addresses

set_option autoImplicit false

/-! When all addresses of a global network are global. -/

namespace Ip

open Block (Within base_mem last_mem last_wide mem_iff mem_range mem_wide within_cons
  within_nil within_wide)

/-! Small networks against the tables of IPv4. -/

section

variable {narrow : Block} {number : Nat}

/-- The private blocks that a network of 256 addresses fits in. -/
def wide4 : List Block := privateNetworks4.filter fun block => 8 ≤ block.host

theorem wide4_host : ∀ block ∈ wide4, 8 ≤ block.host := by
  intro block member
  exact of_decide_eq_true (List.mem_filter.mp member).2

theorem wide4_private {block : Block} (member : block ∈ wide4) : block ∈ privateNetworks4 :=
  List.mem_of_mem_filter member

theorem wide4_eq : wide4 =
    [⟨0x00000000, 24, by decide⟩, ⟨0x0a000000, 24, by decide⟩, ⟨0x7f000000, 24, by decide⟩,
      ⟨0xa9fe0000, 16, by decide⟩, ⟨0xac100000, 20, by decide⟩, ⟨0xc0000000, 8, by decide⟩,
      ⟨0xc0000200, 8, by decide⟩, ⟨0xc0a80000, 16, by decide⟩, ⟨0xc6120000, 17, by decide⟩,
      ⟨0xc6336400, 8, by decide⟩, ⟨0xcb007100, 8, by decide⟩, ⟨0xf0000000, 28, by decide⟩] := rfl

/-- The smaller private blocks are in the others. -/
theorem within_private4 : Within privateNetworks4 number ↔ Within wide4 number := by
  rw [wide4_eq]
  simp only [privateNetworks4, within_cons, within_nil, or_false, mem_iff]
  omega

theorem within_exceptions4 : Within privateExceptions4 number ↔
    number = 0xc0000009 ∨ number = 0xc000000a := by
  simp only [privateExceptions4, within_cons, within_nil, or_false, mem_iff]
  omega

theorem isGlobal4_iff : isGlobal4 number = true ↔
    number ∉ publicNetwork4 ∧ (Within wide4 number → Within privateExceptions4 number) := by
  simp only [isGlobal4, isPrivate4, within_private4, Bool.and_eq_true, Bool.not_eq_true',
    decide_eq_true_eq, decide_eq_false_iff_not, not_and, not_not]

theorem wide4_uniform (small : narrow.host ≤ 8) (inside : number ∈ narrow) :
    Within wide4 number ↔ Within wide4 narrow.base :=
  within_wide (fun block member => le_trans small (wide4_host block member)) inside

theorem boundaries4 (small : narrow.host ≤ 8) :
    (∃ block ∈ privateNetworks4, narrow.base ∈ block ∧ narrow.last ∈ block) ↔
      Within wide4 narrow.base := by
  constructor
  · rintro ⟨block, member, inside, _⟩
    exact within_private4.mp ⟨block, member, inside⟩
  · rintro ⟨block, member, inside⟩
    refine ⟨block, wide4_private member, inside, ?_⟩
    exact (last_wide (le_trans small (wide4_host block member))).mpr inside

/-- An exception at a boundary of a larger network: `192.0.0.8/31` or `192.0.0.10/31`. -/
def Straddles4 (narrow : Block) : Prop :=
  narrow.host = 1 ∧ (narrow.base = 0xc0000008 ∨ narrow.base = 0xc000000a)

theorem boundary_exception4 (large : narrow.host ≠ 0) (small : narrow.host ≤ 8)
    (boundary : Within privateExceptions4 narrow.base ∨ Within privateExceptions4 narrow.last) :
    Straddles4 narrow := by
  obtain ⟨base, host, aligned⟩ := narrow
  have last : Block.last ⟨base, host, aligned⟩ = base + (2 ^ host - 1) := rfl
  rw [last, within_exceptions4, within_exceptions4] at boundary
  simp only at large small boundary
  have cases : host = 1 ∨ 2 ≤ host := by omega
  rcases cases with rfl | more
  · refine ⟨rfl, ?_⟩
    simp only at aligned ⊢
    omega
  · obtain ⟨rest, rfl⟩ := Nat.exists_eq_add_of_le more
    have four : 4 ∣ base := Dvd.dvd.trans ⟨2 ^ rest, by rw [Nat.pow_add]⟩ aligned
    have four' : 4 ∣ 2 ^ (2 + rest) := ⟨2 ^ rest, by rw [Nat.pow_add]⟩
    have positive : 0 < 2 ^ (2 + rest) := Nat.two_pow_pos _
    omega

theorem straddles4_private (straddles : Straddles4 narrow) :
    ∃ number ∈ narrow, isGlobal4 number = false := by
  obtain ⟨base, host, aligned⟩ := narrow
  obtain ⟨rfl, same⟩ := straddles
  simp only at same
  rcases same with rfl | rfl
  · exact ⟨0xc0000008, (by decide : masked 1 0xc0000008 = 0xc0000008), by decide⟩
  · exact ⟨0xc000000b, (by decide : masked 1 0xc000000b = 0xc000000a), by decide⟩

/-- All addresses of a small global network are global, but for an exception at a boundary. -/
theorem global_block4 (small : narrow.host ≤ 8)
    (outside : ¬(narrow.base ∈ publicNetwork4 ∧ narrow.last ∈ publicNetwork4))
    (foreign : ¬((∃ block ∈ privateNetworks4, narrow.base ∈ block ∧ narrow.last ∈ block) ∧
      ∀ block ∈ privateExceptions4, narrow.base ∉ block ∧ narrow.last ∉ block)) :
    (∀ number ∈ narrow, isGlobal4 number = true) ↔ ¬Straddles4 narrow := by
  constructor
  · intro all straddles
    obtain ⟨number, inside, hidden⟩ := straddles4_private straddles
    rw [all number inside] at hidden
    cases hidden
  · intro straight number inside
    have public' : publicNetwork4.host = 22 := rfl
    have order : narrow.host ≤ publicNetwork4.host := by omega
    rw [last_wide order, and_self] at outside
    rw [boundaries4 small] at foreign
    apply isGlobal4_iff.mpr
    constructor
    · rw [mem_wide order inside]
      exact outside
    · intro private'
      rw [wide4_uniform small inside] at private'
      have boundary : Within privateExceptions4 narrow.base ∨
          Within privateExceptions4 narrow.last := by
        by_contra apart
        rw [not_or] at apart
        apply foreign
        refine ⟨private', ?_⟩
        intro block member
        exact ⟨fun inside => apart.1 ⟨block, member, inside⟩,
          fun inside => apart.2 ⟨block, member, inside⟩⟩
      by_cases single : narrow.host = 0
      · have same := (Block.mem_single single).mp inside
        have last := (Block.mem_single single).mp last_mem
        rw [last, or_self] at boundary
        rw [same]
        exact boundary
      · exact absurd (boundary_exception4 single small boundary) straight

end

/-! Small networks against the tables of IPv6. -/

section

variable {release : Release} {narrow : Block} {number : Nat}

def wide6 (release : Release) : List Block :=
  (privateNetworks6 release).filter fun block => 8 ≤ block.host

theorem wide6_host : ∀ block ∈ wide6 release, 8 ≤ block.host := by
  intro block member
  exact of_decide_eq_true (List.mem_filter.mp member).2

theorem wide6_private {block : Block} (member : block ∈ wide6 release) :
    block ∈ privateNetworks6 release := List.mem_of_mem_filter member

/-- The other private blocks are `::1` and `::`. -/
theorem private6_cases {block : Block} (member : block ∈ privateNetworks6 release) :
    block ∈ wide6 release ∨ block.host = 0 ∧ block.base < 2 := by
  by_cases large : 8 ≤ block.host
  · exact .inl (List.mem_filter.mpr ⟨member, decide_eq_true large⟩)
  · have small : ∀ block ∈ privateNetworks6 release, 8 ≤ block.host ∨
        block.host = 0 ∧ block.base < 2 := by
      cases release <;> decide
    rcases small block member with more | single
    · exact absurd more large
    · exact .inr single

theorem within_private6 : Within (privateNetworks6 release) number ↔
    Within (wide6 release) number ∨ number < 2 := by
  constructor
  · rintro ⟨block, member, inside⟩
    rcases private6_cases member with wide | ⟨single, small⟩
    · exact .inl ⟨block, wide, inside⟩
    · rw [Block.mem_single single] at inside
      exact .inr (inside ▸ small)
  · rintro (⟨block, member, inside⟩ | small)
    · exact ⟨block, wide6_private member, inside⟩
    · have both : number = 0 ∨ number = 1 := by omega
      rcases both with rfl | rfl
      · cases release <;> decide
      · cases release <;> decide

/-- The exceptions that a network of 256 addresses fits in. -/
def wideExceptions6 : List Block := privateExceptions6.filter fun block => 8 ≤ block.host

theorem within_exceptions6 : Within privateExceptions6 number ↔
    Within wideExceptions6 number ∨ number = 0x20010001 * 2 ^ 96 + 1 ∨
      number = 0x20010001 * 2 ^ 96 + 2 := by
  have wide : wideExceptions6 =
      [⟨0x20010003 * 2 ^ 96, 96, by decide⟩, ⟨0x200100040112 * 2 ^ 80, 80, by decide⟩,
        ⟨0x20010020 * 2 ^ 96, 100, by decide⟩, ⟨0x20010030 * 2 ^ 96, 100, by decide⟩] := rfl
  rw [wide]
  simp only [privateExceptions6, within_cons, within_nil, or_false, mem_iff]
  omega

theorem wideExceptions6_host : ∀ block ∈ wideExceptions6, 8 ≤ block.host := by decide

theorem isPrivate6_iff : isPrivate6 release number = true ↔
    (Within (wide6 release) number ∨ number < 2) ∧ ¬Within privateExceptions6 number := by
  simp only [isPrivate6, within_private6, decide_eq_true_eq]

theorem wide6_uniform (small : narrow.host ≤ 8) (inside : number ∈ narrow) :
    Within (wide6 release) number ↔ Within (wide6 release) narrow.base :=
  within_wide (fun block member => le_trans small (wide6_host block member)) inside

/-- Both boundaries of a larger network are in no single address. -/
theorem boundaries6 (small : narrow.host ≤ 8) :
    (∃ block ∈ privateNetworks6 release, narrow.base ∈ block ∧ narrow.last ∈ block) ↔
      Within (wide6 release) narrow.base ∨ narrow.host = 0 ∧ narrow.base < 2 := by
  have positive : 0 < 2 ^ narrow.host := Nat.two_pow_pos _
  constructor
  · rintro ⟨block, member, inside, inside'⟩
    rcases private6_cases member with wide | ⟨single, few⟩
    · exact .inl ⟨block, wide, inside⟩
    · rw [Block.mem_single single] at inside inside'
      have last : narrow.last = narrow.base + (2 ^ narrow.host - 1) := rfl
      have one : 2 ^ narrow.host = 1 := by omega
      exact .inr ⟨(Nat.pow_eq_one.mp one).resolve_left (by decide), inside ▸ few⟩
  · rintro (⟨block, member, inside⟩ | ⟨single, few⟩)
    · refine ⟨block, wide6_private member, inside, ?_⟩
      exact (last_wide (le_trans small (wide6_host block member))).mpr inside
    · have last := (Block.mem_single single).mp last_mem
      rw [last]
      obtain ⟨block, member, inside⟩ := within_private6.mpr (.inr few)
      exact ⟨block, member, inside, inside⟩

/-- The network at `::` with more than one address, `2001:1::/127` or `2001:1::2/127`. -/
def Straddles6 (narrow : Block) : Prop :=
  narrow.base = 0 ∧ narrow.host ≠ 0 ∨
    narrow.host = 1 ∧ (narrow.base = 0x20010001 * 2 ^ 96 ∨
      narrow.base = 0x20010001 * 2 ^ 96 + 2)

theorem boundary_exception6 (large : narrow.host ≠ 0) (small : narrow.host ≤ 8)
    (boundary : Within privateExceptions6 narrow.base ∨ Within privateExceptions6 narrow.last) :
    Within wideExceptions6 narrow.base ∨ Straddles6 narrow := by
  have last' : Within wideExceptions6 narrow.last ↔ Within wideExceptions6 narrow.base :=
    within_wide (fun block member => le_trans small (wideExceptions6_host block member)) last_mem
  rw [within_exceptions6, within_exceptions6, last'] at boundary
  by_cases wide : Within wideExceptions6 narrow.base
  · exact .inl wide
  · simp only [wide, false_or] at boundary
    right
    right
    obtain ⟨base, host, aligned⟩ := narrow
    have last : Block.last ⟨base, host, aligned⟩ = base + (2 ^ host - 1) := rfl
    rw [last] at boundary
    simp only at large small boundary
    have cases : host = 1 ∨ 2 ≤ host := by omega
    rcases cases with rfl | more
    · refine ⟨rfl, ?_⟩
      simp only at aligned ⊢
      omega
    · obtain ⟨rest, rfl⟩ := Nat.exists_eq_add_of_le more
      have four : 4 ∣ base := Dvd.dvd.trans ⟨2 ^ rest, by rw [Nat.pow_add]⟩ aligned
      have four' : 4 ∣ 2 ^ (2 + rest) := ⟨2 ^ rest, by rw [Nat.pow_add]⟩
      have positive : 0 < 2 ^ (2 + rest) := Nat.two_pow_pos _
      omega

theorem straddles6_private (straddles : Straddles6 narrow) :
    ∃ number ∈ narrow, isPrivate6 release number = true := by
  rcases straddles with ⟨bottom, _⟩ | ⟨single, same⟩
  · refine ⟨0, mem_iff.mpr ⟨by omega, ?_⟩, ?_⟩
    · have positive : 0 < 2 ^ narrow.host := Nat.two_pow_pos _
      omega
    · cases release <;> decide
  · rcases same with same | same
    · refine ⟨0x20010001 * 2 ^ 96, mem_iff.mpr ⟨by omega, ?_⟩, ?_⟩
      · rw [same, single]
        decide
      · cases release <;> decide
    · refine ⟨0x20010001 * 2 ^ 96 + 3, mem_iff.mpr ⟨by omega, ?_⟩, ?_⟩
      · rw [same, single]
        decide
      · cases release <;> decide

/-- No address of a small network that is not private is private, but for single addresses of the
tables at a boundary. -/
theorem global_block6 (small : narrow.host ≤ 8)
    (foreign : ¬((∃ block ∈ privateNetworks6 release, narrow.base ∈ block ∧ narrow.last ∈ block) ∧
      ∀ block ∈ privateExceptions6, narrow.base ∉ block ∧ narrow.last ∉ block)) :
    (∀ number ∈ narrow, isPrivate6 release number = false) ↔ ¬Straddles6 narrow := by
  constructor
  · intro all straddles
    obtain ⟨number, inside, hidden⟩ := @straddles6_private release narrow straddles
    rw [all number inside] at hidden
    cases hidden
  · intro straight number inside
    rw [boundaries6 small] at foreign
    apply Bool.eq_false_iff.mpr
    rw [ne_eq, isPrivate6_iff]
    rintro ⟨private', plain⟩
    have boundary : Within (wide6 release) narrow.base ∨ narrow.host = 0 ∧ narrow.base < 2 →
        Within privateExceptions6 narrow.base ∨ Within privateExceptions6 narrow.last := by
      intro private'
      by_contra apart
      rw [not_or] at apart
      apply foreign
      refine ⟨private', ?_⟩
      intro block member
      exact ⟨fun inside => apart.1 ⟨block, member, inside⟩,
        fun inside => apart.2 ⟨block, member, inside⟩⟩
    by_cases single : narrow.host = 0
    · have same := (Block.mem_single single).mp inside
      have last := (Block.mem_single single).mp last_mem
      rw [last, or_self, ← same] at boundary
      apply plain
      apply boundary
      rcases private' with wide | few
      · exact .inl wide
      · exact .inr ⟨single, few⟩
    · rcases private' with wide | few
      · rw [wide6_uniform small inside] at wide
        rcases boundary_exception6 single small (boundary (.inl wide)) with wide' | straddles
        · apply plain
          rw [within_exceptions6]
          refine .inl ?_
          rw [within_wide (fun block member =>
            le_trans small (wideExceptions6_host block member)) inside]
          exact wide'
        · exact straight straddles
      · have even : 2 ∣ narrow.base := Dvd.dvd.trans (dvd_pow_self 2 single) narrow.aligned
        have low := (mem_iff.mp inside).1
        exact straight (.inl ⟨by omega, single⟩)

theorem mapped_aligned : 2 ^ 32 ∣ 0xffff00000000 := by decide

/-- The private block of the mapped addresses. -/
def mappedBlock : Block := ⟨0xffff00000000, 32, mapped_aligned⟩

theorem mem_mappedBlock : number ∈ mappedBlock ↔ number / 2 ^ 32 = 0xffff := by
  have bounds := @mem_iff mappedBlock number
  rw [bounds]
  simp only [mappedBlock]
  omega

theorem ipv4Mapped_none (unmapped : number ∉ mappedBlock) : ipv4Mapped number = none := by
  rw [ipv4Mapped, if_neg (mt mem_mappedBlock.mpr unmapped)]

theorem ipv4Mapped_some (inside : number ∈ mappedBlock) :
    ipv4Mapped number = some (number % 2 ^ 32) := by
  rw [ipv4Mapped, if_pos (mem_mappedBlock.mp inside)]

theorem mappedBlock_wide : mappedBlock ∈ wide6 release := by
  cases release <;> decide

end

/-! Networks. -/

section

variable {release : Release} {network : Network} {address : Address}

/-- A network of several addresses with a single address of the tables at a boundary. -/
def Network.Straddles (network : Network) : Prop :=
  match network.version with
  | .v4 => Straddles4 network.block
  | .v6 => Straddles6 network.block

theorem contains_iff : network.contains address = true ↔
    address.version = network.version ∧ address.number ∈ network.block := by
  rw [Network.contains, decide_eq_true_eq]

/-- A number of a network as an address of it. -/
def Network.member (network : Network) (number : Nat) (inside : number ∈ network.block) :
    Address where
  version := network.version
  number := number
  scope := none
  bound := lt_of_le_of_lt (mem_range.mp inside).2 network.last_lt
  validScope := network.no_scope

theorem Network.forall_contained {good : Version → Nat → Bool} :
    (∀ address : Address, network.contains address = true →
      good address.version address.number = true) ↔
        ∀ number ∈ network.block, good network.version number = true := by
  constructor
  · intro all number inside
    exact all (network.member number inside) (contains_iff.mpr ⟨rfl, inside⟩)
  · intro all address inside
    obtain ⟨same, inside⟩ := contains_iff.mp inside
    rw [same]
    exact all address.number inside

/-- A network that is private by its boundaries has no mapped address in it if it is global. -/
theorem foreign_unmapped {narrow : Block} (small : narrow.host ≤ 8)
    (foreign : ¬((∃ block ∈ privateNetworks6 release, narrow.base ∈ block ∧ narrow.last ∈ block) ∧
      ∀ block ∈ privateExceptions6, narrow.base ∉ block ∧ narrow.last ∉ block)) :
    ∀ number ∈ narrow, number ∉ mappedBlock := by
  have order : narrow.host ≤ mappedBlock.host := by
    have host : mappedBlock.host = 32 := rfl
    omega
  intro number inside mapped
  have base := (mem_wide order inside).mp mapped
  have last := (last_wide order).mpr base
  have apart : ∀ number ∈ mappedBlock, ∀ block ∈ privateExceptions6, number ∉ block := by
    intro number mapped block member inside
    have within' : Within privateExceptions6 number := ⟨block, member, inside⟩
    rw [mem_iff] at mapped
    simp only [privateExceptions6, within_cons, within_nil, or_false, mem_iff, mappedBlock]
      at within' mapped
    omega
  apply foreign
  refine ⟨⟨mappedBlock, wide6_private mappedBlock_wide, base, last⟩, ?_⟩
  intro block member
  exact ⟨apart _ base block member, apart _ last block member⟩

/-- All addresses of a small global network are global exactly where it does not straddle. -/
theorem Network.global_iff (small : network.host ≤ 8) (global : network.isGlobal release = true) :
    (∀ address, network.contains address = true → address.isGlobal release = true) ↔
      ¬network.Straddles := by
  have flags : (∀ address, network.contains address = true → address.isGlobal release = true) ↔
      ∀ number ∈ network.block, flagOf release.mapped isGlobal4
        (fun number => !flag6 true isPrivate4 (isPrivate6 release) number) network.version number =
          true := Network.forall_contained
  rw [flags]
  cases version : network.version with
  | v4 =>
      simp only [Network.isGlobal, Network.isPrivate, version, Network.privateIn, Bool.and_eq_true,
        Bool.not_eq_true', decide_eq_false_iff_not] at global
      simp only [Network.Straddles, version, flagOf]
      exact global_block4 small global.1 global.2
  | v6 =>
      simp only [Network.isGlobal, Network.isPrivate, version, Network.privateIn,
        Bool.not_eq_true', decide_eq_false_iff_not] at global
      simp only [Network.Straddles, version]
      rw [← global_block6 small global]
      apply forall₂_congr
      intro number inside
      have none' := ipv4Mapped_none (foreign_unmapped small global number inside)
      simp only [flagOf, flag6, none', Bool.not_eq_true']

end

/-! Small networks whose boundaries are global. -/

section

variable {release : Release} {narrow : Block} {number : Nat}

theorem exceptions4_single (small : narrow.host ≤ 8) (first : Within privateExceptions4 narrow.base)
    (last : Within privateExceptions4 narrow.last) : narrow.host = 0 := by
  by_contra large
  rcases boundary_exception4 large small (.inl first) with ⟨single, same⟩
  rw [within_exceptions4] at first last
  have last' : narrow.last = narrow.base + (2 ^ narrow.host - 1) := rfl
  rw [single] at last'
  omega

theorem global4_between (small : narrow.host ≤ 8) (first : isGlobal4 narrow.base = true)
    (last : isGlobal4 narrow.last = true) (inside : number ∈ narrow) :
    isGlobal4 number = true := by
  have public' : publicNetwork4.host = 22 := rfl
  rw [isGlobal4_iff] at first last ⊢
  rw [mem_wide (by omega) inside, wide4_uniform small inside]
  refine ⟨first.1, ?_⟩
  intro private'
  have single := exceptions4_single small (first.2 private')
    (last.2 ((wide4_uniform small last_mem).mpr private'))
  rw [(Block.mem_single single).mp inside]
  exact first.2 private'

theorem exceptions6_single (small : narrow.host ≤ 8) (first : Within privateExceptions6 narrow.base)
    (last : Within privateExceptions6 narrow.last) :
    Within wideExceptions6 narrow.base ∨ narrow.host = 0 := by
  by_cases single : narrow.host = 0
  · exact .inr single
  · left
    rcases boundary_exception6 single small (.inl first) with wide | straddles
    · exact wide
    · have last' : narrow.last = narrow.base + (2 ^ narrow.host - 1) := rfl
      rcases straddles with ⟨bottom, _⟩ | ⟨single, same | same⟩
      · rw [bottom] at first
        exact absurd first (by decide)
      · rw [same] at first
        exact absurd first (by decide)
      · rw [last', same, single] at last
        exact absurd last (by decide)

theorem foreign6_between (small : narrow.host ≤ 8)
    (first : isPrivate6 release narrow.base = false)
    (last : isPrivate6 release narrow.last = false) (upper : 2 ≤ number) (inside : number ∈ narrow) :
    isPrivate6 release number = false := by
  have plain : ∀ {other}, other ∈ narrow → isPrivate6 release other = false →
      Within (wide6 release) narrow.base → Within privateExceptions6 other := by
    intro other inside foreign wide
    by_contra outside
    have private' : isPrivate6 release other = true :=
      isPrivate6_iff.mpr ⟨.inl ((wide6_uniform small inside).mpr wide), outside⟩
    rw [foreign] at private'
    cases private'
  apply Bool.eq_false_iff.mpr
  intro private'
  obtain ⟨wide | few, outside⟩ := isPrivate6_iff.mp private'
  · have wide := (wide6_uniform small inside).mp wide
    have first' := plain base_mem first wide
    rcases exceptions6_single small first' (plain last_mem last wide) with wide' | single
    · apply outside
      rw [within_exceptions6]
      left
      rw [within_wide (fun block member =>
        le_trans small (wideExceptions6_host block member)) inside]
      exact wide'
    · rw [(Block.mem_single single).mp inside] at outside
      exact outside first'
  · omega

/-- The lower bits of a block of mapped addresses. -/
def unmapped (narrow : Block) (small : narrow.host ≤ 32) : Block where
  base := narrow.base % 2 ^ 32
  host := narrow.host
  aligned := (Nat.dvd_mod_iff (Nat.pow_dvd_pow 2 small)).mpr narrow.aligned

theorem unmapped_mem (small : narrow.host ≤ 32) (mapped : narrow.base ∈ mappedBlock)
    (inside : number ∈ narrow) : number % 2 ^ 32 ∈ unmapped narrow small := by
  have mapped' : number ∈ mappedBlock := (mem_wide small inside).mpr mapped
  rw [mem_mappedBlock] at mapped mapped'
  rw [mem_iff] at inside ⊢
  simp only [unmapped]
  omega

theorem unmapped_last (small : narrow.host ≤ 32) (mapped : narrow.base ∈ mappedBlock) :
    (unmapped narrow small).last = narrow.last % 2 ^ 32 := by
  have mapped' : narrow.last ∈ mappedBlock := (last_wide small).mpr mapped
  have shape : narrow.last = narrow.base + (2 ^ narrow.host - 1) := rfl
  have shape' : (unmapped narrow small).last =
      narrow.base % 2 ^ 32 + (2 ^ narrow.host - 1) := rfl
  rw [mem_mappedBlock] at mapped mapped'
  omega

/-- A flag that blocks of 256 addresses agree on. -/
def Uniform (flag : Nat → Bool) : Prop :=
  ∀ narrow : Block, narrow.host ≤ 8 → ∀ number ∈ narrow, flag number = flag narrow.base

theorem uniform_mem {wide : Block} (large : 8 ≤ wide.host) :
    Uniform fun number => decide (number ∈ wide) := by
  intro narrow small number inside
  rw [decide_eq_decide]
  exact mem_wide (le_trans small large) inside

theorem uniform_within {blocks : List Block} (large : ∀ wide ∈ blocks, 8 ≤ wide.host) :
    Uniform fun number => decide (Within blocks number) := by
  intro narrow small number inside
  rw [decide_eq_decide]
  exact within_wide (fun wide member => le_trans small (large wide member)) inside

theorem Uniform.flagOf {looks : Bool} {old new : Nat → Bool} (old' : Uniform old)
    (new' : Uniform new) {version : Version} : Uniform (Ip.flagOf looks old new version) := by
  intro narrow small number inside
  cases version with
  | v4 => exact old' narrow small number inside
  | v6 =>
      have order : narrow.host ≤ 32 := by omega
      simp only [Ip.flagOf, flag6]
      by_cases mapped : narrow.base ∈ mappedBlock
      · rw [ipv4Mapped_some mapped, ipv4Mapped_some ((mem_wide order inside).mpr mapped)]
        have old'' := old' (unmapped narrow order) small _ (unmapped_mem order mapped inside)
        simp only [old'', new' narrow small number inside, unmapped]
      · rw [ipv4Mapped_none mapped, ipv4Mapped_none (mt (mem_wide order inside).mp mapped)]
        exact new' narrow small number inside

end

end Ip
