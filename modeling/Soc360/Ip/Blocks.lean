import Mathlib.Algebra.Order.Ring.Nat
import Mathlib.Data.Nat.Factorization.Basic
import Mathlib.Tactic.IntervalCases

set_option autoImplicit false

namespace Ip

/-- The numbers that differ in their lowest `host` bits only. -/
structure Block where
  base : Nat
  host : Nat
  aligned : 2 ^ host ∣ base
  deriving DecidableEq

/-- `number & mask` for a mask that clears the lowest `host` bits. -/
def masked (host number : Nat) : Nat := number / 2 ^ host * 2 ^ host

namespace Block

/-- The block of that size around a number. -/
def around (host number : Nat) : Block := ⟨masked host number, host, ⟨number / 2 ^ host, Nat.mul_comm _ _⟩⟩

/-- The highest number of a block. -/
def last (block : Block) : Nat := block.base + (2 ^ block.host - 1)

instance : Membership Nat Block where
  mem block number := masked block.host number = block.base

instance (block : Block) (number : Nat) : Decidable (number ∈ block) :=
  inferInstanceAs (Decidable (masked block.host number = block.base))

/-- In one of the blocks. -/
def Within (blocks : List Block) (number : Nat) : Prop := ∃ block ∈ blocks, number ∈ block

instance (blocks : List Block) (number : Nat) : Decidable (Within blocks number) :=
  inferInstanceAs (Decidable (∃ block ∈ blocks, number ∈ block))

section

variable {block narrow wide : Block} {blocks : List Block} {number other host : Nat}

theorem mem_def : number ∈ block ↔ masked block.host number = block.base := Iff.rfl

theorem mem_iff : number ∈ block ↔ block.base ≤ number ∧ number < block.base + 2 ^ block.host := by
  obtain ⟨base, host, ⟨index, rfl⟩⟩ := block
  have positive : 0 < 2 ^ host := Nat.two_pow_pos host
  rw [mem_def, masked]
  change number / 2 ^ host * 2 ^ host = 2 ^ host * index ↔
    2 ^ host * index ≤ number ∧ number < 2 ^ host * index + 2 ^ host
  constructor
  · intro same
    have index' : number / 2 ^ host = index := by
      rw [Nat.mul_comm] at same
      exact Nat.eq_of_mul_eq_mul_left positive same
    have parts := Nat.div_add_mod number (2 ^ host)
    have small := Nat.mod_lt number positive
    rw [index'] at parts
    constructor
    · omega
    · omega
  · rintro ⟨low, high⟩
    have index' : number / 2 ^ host = index := by
      apply Nat.div_eq_of_lt_le
      · rw [Nat.mul_comm]
        exact low
      · rw [Nat.add_mul, Nat.one_mul, Nat.mul_comm index]
        exact high
    rw [index', Nat.mul_comm]

theorem mem_range : number ∈ block ↔ block.base ≤ number ∧ number ≤ block.last := by
  have positive : 0 < 2 ^ block.host := Nat.two_pow_pos block.host
  rw [mem_iff, last]
  omega

theorem base_mem : block.base ∈ block :=
  mem_iff.mpr ⟨le_rfl, Nat.lt_add_of_pos_right (Nat.two_pow_pos block.host)⟩

theorem last_mem : block.last ∈ block := mem_range.mpr ⟨Nat.le_add_right _ _, le_rfl⟩

/-- A block with no low bits is one number. -/
theorem mem_single (single : block.host = 0) : number ∈ block ↔ number = block.base := by
  rw [mem_iff, single]
  omega

theorem masked_masked {low high number : Nat} (order : low ≤ high) :
    masked high (masked low number) = masked high number := by
  obtain ⟨more, rfl⟩ := Nat.exists_eq_add_of_le order
  have split : 2 ^ (low + more) = 2 ^ low * 2 ^ more := Nat.pow_add 2 low more
  rw [masked, masked, masked, split, ← Nat.div_div_eq_div_mul, Nat.mul_div_cancel _
    (Nat.two_pow_pos low), Nat.div_div_eq_div_mul]

/-- Two blocks are nested or apart: a wide block has all of a narrow one or nothing of it. -/
theorem mem_wide (order : narrow.host ≤ wide.host) (inside : number ∈ narrow) :
    number ∈ wide ↔ narrow.base ∈ wide := by
  rw [mem_def] at inside ⊢
  rw [mem_def, ← inside, masked_masked order]

/-- A union of blocks at least as wide has all of a narrow block or nothing of it. -/
theorem within_wide (order : ∀ wide ∈ blocks, narrow.host ≤ wide.host) (inside : number ∈ narrow) :
    Within blocks number ↔ Within blocks narrow.base := by
  constructor
  · rintro ⟨wide, member, inside'⟩
    exact ⟨wide, member, (mem_wide (order wide member) inside).mp inside'⟩
  · rintro ⟨wide, member, inside'⟩
    exact ⟨wide, member, (mem_wide (order wide member) inside).mpr inside'⟩

theorem last_wide (order : narrow.host ≤ wide.host) :
    narrow.last ∈ wide ↔ narrow.base ∈ wide := mem_wide order last_mem

@[simp] theorem within_nil : ¬Within [] number := by
  rintro ⟨_, member, _⟩
  cases member

@[simp] theorem within_cons : Within (block :: blocks) number ↔
    number ∈ block ∨ Within blocks number := by
  simp only [Within, List.mem_cons, exists_eq_or_imp]

end

end Block

end Ip
