import Soc360.Ip.Blocks

set_option autoImplicit false

/-! The addresses and networks of `ipaddress`, with its predicates and tables. -/

namespace Ip

open Block (Within)

inductive Version where
  | v4 | v6
  deriving DecidableEq, Repr

def Version.width : Version → Nat
  | .v4 => 32
  | .v6 => 128

/-- The releases of 3.12 from which the predicates differ: from 3.12.6 on all flags of a mapped
address are those of its IPv4 address, and from 3.12.8 on `3fff::/20` is private. -/
inductive Release where
  | v3_12_4 | v3_12_6 | v3_12_8
  deriving DecidableEq, Repr

/-- An address, with the scope id that an IPv6 address may have. -/
@[ext]
structure Address where
  version : Version
  number : Nat
  scope : Option (List Char)
  bound : number < 2 ^ version.width
  validScope : ∀ name ∈ scope, version = .v6 ∧ name ≠ [] ∧ '%' ∉ name ∧ '/' ∉ name

theorem no_scope (version : Version) : ∀ name ∈ (none : Option (List Char)),
    version = .v6 ∧ name ≠ [] ∧ '%' ∉ name ∧ '/' ∉ name := by
  intro name given
  cases given

@[ext]
structure Network where
  network : Address
  prefixlen : Nat
  bound : prefixlen ≤ network.version.width
  aligned : 2 ^ (network.version.width - prefixlen) ∣ network.number

/-! The tables. -/

def privateNetworks4 : List Block :=
  [⟨0x00000000, 24, by decide⟩,  -- 0.0.0.0/8
    ⟨0x0a000000, 24, by decide⟩,  -- 10.0.0.0/8
    ⟨0x7f000000, 24, by decide⟩,  -- 127.0.0.0/8
    ⟨0xa9fe0000, 16, by decide⟩,  -- 169.254.0.0/16
    ⟨0xac100000, 20, by decide⟩,  -- 172.16.0.0/12
    ⟨0xc0000000, 8, by decide⟩,  -- 192.0.0.0/24
    ⟨0xc00000aa, 1, by decide⟩,  -- 192.0.0.170/31
    ⟨0xc0000200, 8, by decide⟩,  -- 192.0.2.0/24
    ⟨0xc0a80000, 16, by decide⟩,  -- 192.168.0.0/16
    ⟨0xc6120000, 17, by decide⟩,  -- 198.18.0.0/15
    ⟨0xc6336400, 8, by decide⟩,  -- 198.51.100.0/24
    ⟨0xcb007100, 8, by decide⟩,  -- 203.0.113.0/24
    ⟨0xf0000000, 28, by decide⟩,  -- 240.0.0.0/4
    ⟨0xffffffff, 0, by decide⟩]  -- 255.255.255.255/32

/-- 192.0.0.9/32 and 192.0.0.10/32. -/
def privateExceptions4 : List Block :=
  [⟨0xc0000009, 0, by decide⟩, ⟨0xc000000a, 0, by decide⟩]

/-- 100.64.0.0/10. -/
def publicNetwork4 : Block := ⟨0x64400000, 22, by decide⟩

/-- 169.254.0.0/16. -/
def linkLocal4 : Block := ⟨0xa9fe0000, 16, by decide⟩

/-- 127.0.0.0/8. -/
def loopback4 : Block := ⟨0x7f000000, 24, by decide⟩

/-- 224.0.0.0/4. -/
def multicast4 : Block := ⟨0xe0000000, 28, by decide⟩

/-- 240.0.0.0/4. -/
def reserved4 : Block := ⟨0xf0000000, 28, by decide⟩

def privateNetworks6 (release : Release) : List Block :=
  [⟨1, 0, by decide⟩,  -- ::1/128
    ⟨0, 0, by decide⟩,  -- ::/128
    ⟨0xffff00000000, 32, by decide⟩,  -- ::ffff:0:0/96
    ⟨0x64ff9b0001 * 2 ^ 80, 80, by decide⟩,  -- 64:ff9b:1::/48
    ⟨0x0100 * 2 ^ 112, 64, by decide⟩,  -- 100::/64
    ⟨0x2001 * 2 ^ 112, 105, by decide⟩,  -- 2001::/23
    ⟨0x20010db8 * 2 ^ 96, 96, by decide⟩,  -- 2001:db8::/32
    ⟨0x2002 * 2 ^ 112, 112, by decide⟩] ++  -- 2002::/16
  (if release = .v3_12_8 then [⟨0x3fff * 2 ^ 112, 108, by decide⟩] else []) ++  -- 3fff::/20
  [⟨0xfc00 * 2 ^ 112, 121, by decide⟩,  -- fc00::/7
    ⟨0xfe80 * 2 ^ 112, 118, by decide⟩]  -- fe80::/10

def privateExceptions6 : List Block :=
  [⟨0x20010001 * 2 ^ 96 + 1, 0, by decide⟩,  -- 2001:1::1/128
    ⟨0x20010001 * 2 ^ 96 + 2, 0, by decide⟩,  -- 2001:1::2/128
    ⟨0x20010003 * 2 ^ 96, 96, by decide⟩,  -- 2001:3::/32
    ⟨0x200100040112 * 2 ^ 80, 80, by decide⟩,  -- 2001:4:112::/48
    ⟨0x20010020 * 2 ^ 96, 100, by decide⟩,  -- 2001:20::/28
    ⟨0x20010030 * 2 ^ 96, 100, by decide⟩]  -- 2001:30::/28

/-- fe80::/10. -/
def linkLocal6 : Block := ⟨0xfe80 * 2 ^ 112, 118, by decide⟩

/-- ff00::/8. -/
def multicast6 : Block := ⟨0xff00 * 2 ^ 112, 120, by decide⟩

def reservedNetworks6 : List Block :=
  [⟨0, 120, by decide⟩,  -- ::/8
    ⟨0x0100 * 2 ^ 112, 120, by decide⟩,  -- 100::/8
    ⟨0x0200 * 2 ^ 112, 121, by decide⟩,  -- 200::/7
    ⟨0x0400 * 2 ^ 112, 122, by decide⟩,  -- 400::/6
    ⟨0x0800 * 2 ^ 112, 123, by decide⟩,  -- 800::/5
    ⟨0x1000 * 2 ^ 112, 124, by decide⟩,  -- 1000::/4
    ⟨0x4000 * 2 ^ 112, 125, by decide⟩,  -- 4000::/3
    ⟨0x6000 * 2 ^ 112, 125, by decide⟩,  -- 6000::/3
    ⟨0x8000 * 2 ^ 112, 125, by decide⟩,  -- 8000::/3
    ⟨0xa000 * 2 ^ 112, 125, by decide⟩,  -- a000::/3
    ⟨0xc000 * 2 ^ 112, 125, by decide⟩,  -- c000::/3
    ⟨0xe000 * 2 ^ 112, 124, by decide⟩,  -- e000::/4
    ⟨0xf000 * 2 ^ 112, 123, by decide⟩,  -- f000::/5
    ⟨0xf800 * 2 ^ 112, 122, by decide⟩,  -- f800::/6
    ⟨0xfe00 * 2 ^ 112, 119, by decide⟩]  -- fe00::/9

/-! The predicates of addresses. -/

def isPrivate4 (number : Nat) : Bool :=
  decide (Within privateNetworks4 number ∧ ¬Within privateExceptions4 number)

def isGlobal4 (number : Nat) : Bool := decide (number ∉ publicNetwork4) && !isPrivate4 number

def isPrivate6 (release : Release) (number : Nat) : Bool :=
  decide (Within (privateNetworks6 release) number ∧ ¬Within privateExceptions6 number)

def ipv4Mapped (number : Nat) : Option Nat :=
  if number / 2 ^ 32 = 0xffff then some (number % 2 ^ 32) else none

/-- From 3.12.6 on. -/
def Release.mapped (release : Release) : Bool := release != .v3_12_4

/-- A flag of an IPv6 number: where the flag looks at a mapped address, that of the IPv4 address. -/
def flag6 (looks : Bool) (old new : Nat → Bool) (number : Nat) : Bool :=
  match ipv4Mapped number with
  | some inner => if looks then old inner else new number
  | none => new number

def flagOf (looks : Bool) (old new : Nat → Bool) : Version → Nat → Bool
  | .v4, number => old number
  | .v6, number => flag6 looks old new number

namespace Address

variable (release : Release) (address : Address)

def flag (looks : Bool) (old new : Nat → Bool) : Bool :=
  flagOf looks old new address.version address.number

def isPrivate : Bool := address.flag true isPrivate4 (isPrivate6 release)

def isGlobal : Bool :=
  address.flag release.mapped isGlobal4 fun number =>
    !flag6 true isPrivate4 (isPrivate6 release) number

def isLoopback : Bool := address.flag true (fun number => decide (number ∈ loopback4)) (· == 1)

def isLinkLocal : Bool :=
  address.flag release.mapped (fun number => decide (number ∈ linkLocal4))
    fun number => decide (number ∈ linkLocal6)

def isMulticast : Bool :=
  address.flag release.mapped (fun number => decide (number ∈ multicast4))
    fun number => decide (number ∈ multicast6)

def isUnspecified : Bool := address.flag release.mapped (· == 0) (· == 0)

def isReserved : Bool :=
  address.flag release.mapped (fun number => decide (number ∈ reserved4))
    fun number => decide (Within reservedNetworks6 number)

end Address

/-! Networks. -/

namespace Network

variable (release : Release) (network : Network)

def version : Version := network.network.version

/-- The number of bits that the addresses of a network differ in. -/
def host : Nat := network.version.width - network.prefixlen

def block : Block := ⟨network.network.number, network.host, network.aligned⟩

theorem last_lt : network.block.last < 2 ^ network.version.width := by
  have bound := network.network.bound
  obtain ⟨index, shape⟩ := network.aligned
  have order : network.host ≤ network.version.width := Nat.sub_le _ _
  obtain ⟨more, width⟩ := Nat.exists_eq_add_of_le order
  have positive : 0 < 2 ^ network.host := Nat.two_pow_pos _
  have width' : 2 ^ network.version.width = 2 ^ network.host * 2 ^ more := by
    rw [width, Nat.pow_add]
  have shape : network.network.number = 2 ^ network.host * index := shape
  have bound : network.network.number < 2 ^ network.version.width := bound
  rw [shape, width'] at bound
  have index' : index + 1 ≤ 2 ^ more := Nat.lt_of_mul_lt_mul_left bound
  have total := Nat.mul_le_mul_left (2 ^ network.host) index'
  have last : network.block.last = network.network.number + (2 ^ network.host - 1) := rfl
  rw [last, shape, width']
  rw [Nat.mul_add, Nat.mul_one] at total
  omega

theorem no_scope : ∀ name ∈ (none : Option (List Char)),
    network.version = .v6 ∧ name ≠ [] ∧ '%' ∉ name ∧ '/' ∉ name :=
  Ip.no_scope _

/-- `broadcast_address`. -/
def broadcast : Address where
  version := network.version
  number := network.block.last
  scope := none
  bound := network.last_lt
  validScope := network.no_scope

def numAddresses : Nat := network.broadcast.number - network.network.number + 1

theorem numAddresses_eq : network.numAddresses = 2 ^ network.host := by
  have positive : 0 < 2 ^ network.host := Nat.two_pow_pos _
  have last : network.broadcast.number = network.network.number + (2 ^ network.host - 1) := rfl
  rw [numAddresses, last]
  omega

theorem numAddresses_le : network.numAddresses ≤ 256 ↔ network.host ≤ 8 := by
  rw [numAddresses_eq]
  exact (Nat.pow_le_pow_iff_right (by decide : 1 < 2) : 2 ^ network.host ≤ 2 ^ 8 ↔ _)

/-- `address in network`. -/
def contains (address : Address) : Bool :=
  decide (address.version = network.version ∧ address.number ∈ network.block)

/-- Both boundaries in a block, and no boundary in an exception. -/
def privateIn (blocks exceptions : List Block) : Bool :=
  decide ((∃ block ∈ blocks, network.block.base ∈ block ∧ network.block.last ∈ block) ∧
    ∀ block ∈ exceptions, network.block.base ∉ block ∧ network.block.last ∉ block)

def isPrivate : Bool :=
  match network.version with
  | .v4 => network.privateIn privateNetworks4 privateExceptions4
  | .v6 => network.privateIn (privateNetworks6 release) privateExceptions6

def isGlobal : Bool :=
  match network.version with
  | .v4 =>
      !(decide (network.block.base ∈ publicNetwork4 ∧ network.block.last ∈ publicNetwork4)) &&
        !network.isPrivate release
  | .v6 => !network.isPrivate release

end Network

end Ip
