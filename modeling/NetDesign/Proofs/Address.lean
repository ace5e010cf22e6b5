import NetDesign.Address

set_option autoImplicit false

namespace NetDesign.Net

variable {n : Net} {a b : Address} {i j : Nat}

/-- The address can be that of a host: it is in the block, and is neither the first nor the last one
unless the block has fewer than four. -/
structure IsHost (n : Net) (a : Address) : Prop where
  lower : n.base ≤ a.value
  upper : a.value < n.base + n.size
  inner : n.length ≤ 30 → a.value ≠ n.base ∧ a.value + 1 ≠ n.base + n.size

theorem four_le_size (short : n.length ≤ 30) : 4 ≤ n.size := by
  have room : 2 ≤ 32 - n.length := by omega
  have power := Nat.pow_le_pow_right (show 0 < 2 by omega) room
  rwa [size, Nat.pow_eq]

theorem hosts_of_inner (short : n.length ≤ 30) :
    n.firstHost = n.base + 1 ∧ n.hostCount = n.size - 2 ∧ 4 ≤ n.size :=
  ⟨if_pos short, if_pos short, four_le_size short⟩

theorem hosts_of_small (long : 30 < n.length) :
    n.firstHost = n.base ∧ n.hostCount = n.size ∧ 1 ≤ n.size :=
  ⟨if_neg (Nat.not_le_of_lt long), if_neg (Nat.not_le_of_lt long), n.size_pos⟩

theorem firstHost_add_hostCount_le (n : Net) : n.firstHost + n.hostCount ≤ n.base + n.size := by
  by_cases short : n.length ≤ 30
  · obtain ⟨first, count, large⟩ := hosts_of_inner short
    omega
  · obtain ⟨first, count, -⟩ := hosts_of_small (Nat.lt_of_not_le short)
    omega

theorem host?_eq_none_iff : n.host? i = none ↔ n.hostCount ≤ i := by
  unfold host?
  by_cases inside : i < n.hostCount
  · rw [if_pos inside]
    have : ¬ n.hostCount ≤ i := by omega
    simp [this]
  · rw [if_neg inside]
    have : n.hostCount ≤ i := by omega
    simp [this]

/-- The address at a position is that many above the first one. It does not wrap around, as the
block ends within the address space. -/
theorem host?_eq_some_iff : n.host? i = some a ↔ i < n.hostCount ∧ a.value = n.firstHost + i := by
  unfold host?
  by_cases inside : i < n.hostCount
  · have hosts := n.firstHost_add_hostCount_le
    have whole := n.base_add_size_le
    have value : (Address.ofNat (n.firstHost + i)).value = n.firstHost + i :=
      Address.value_ofNat (by omega)
    rw [if_pos inside, Option.some.injEq]
    constructor
    · rintro rfl
      exact ⟨inside, value⟩
    · rintro ⟨-, same⟩
      exact Address.value_injective (value.trans same.symm)
  · rw [if_neg inside]
    simp [inside]

theorem value_lt_of_host? (first : n.host? i = some a) (second : n.host? j = some b)
    (before : i < j) : a.value < b.value := by
  have lower := (host?_eq_some_iff.mp first).2
  have upper := (host?_eq_some_iff.mp second).2
  omega

theorem map_value_host? (n : Net) (i : Nat) :
    (n.host? i).map (·.value) = if i < n.hostCount then some (n.firstHost + i) else none := by
  by_cases inside : i < n.hostCount
  · have given : n.host? i = some (.ofNat (n.firstHost + i)) := if_pos inside
    rw [if_pos inside, given, Option.map_some, (host?_eq_some_iff.mp given).2]
  · rw [if_neg inside, host?_eq_none_iff.mpr (Nat.le_of_not_lt inside)]
    rfl

theorem exists_host?_iff : (∃ i, n.host? i = some a) ↔ n.IsHost a := by
  simp only [host?_eq_some_iff]
  unfold firstHost hostCount
  by_cases short : n.length ≤ 30
  · have large := four_le_size short
    simp only [short, ↓reduceIte]
    constructor
    · rintro ⟨i, inside, value⟩
      exact ⟨by omega, by omega, fun _ => ⟨by omega, by omega⟩⟩
    · intro host
      have lower := host.lower
      have upper := host.upper
      have inner := host.inner short
      exact ⟨a.value - (n.base + 1), by omega, by omega⟩
  · simp only [short, ↓reduceIte]
    constructor
    · rintro ⟨i, inside, value⟩
      exact ⟨by omega, by omega, fun wide => absurd wide short⟩
    · intro host
      have lower := host.lower
      have upper := host.upper
      exact ⟨a.value - n.base, by omega, by omega⟩

/-- The first address of a block is the written one with its host bits cleared. -/
theorem testBit_base (n : Net) (i : Nat) :
    n.base.testBit i = (decide (32 - n.length ≤ i) && n.address.value.testBit i) := by
  rw [base, size, Nat.pow_eq, Nat.testBit_mul_two_pow, Nat.testBit_div_two_pow]
  by_cases inside : 32 - n.length ≤ i
  · rw [Nat.sub_add_cancel inside]
  · simp [inside]

end NetDesign.Net

namespace NetDesign

/-- The bit at a position, counted from the most significant one. -/
def Address.bit (a : Address) (i : Nat) : Bool := a.value.testBit (31 - i)

namespace Net

/-- The blocks stand for one network: they have the same length, and their addresses agree in that
many bits. -/
def SameBlock (m n : Net) : Prop :=
  m.length = n.length ∧ ∀ i < m.length, m.address.bit i = n.address.bit i

instance (m n : Net) : Decidable (m.SameBlock n) :=
  inferInstanceAs (Decidable (m.length = n.length ∧
    ∀ i < m.length, m.address.bit i = n.address.bit i))

theorem SameBlock.symm {m n : Net} (same : m.SameBlock n) : n.SameBlock m :=
  ⟨same.1.symm, fun i inside => (same.2 i (same.1 ▸ inside)).symm⟩

theorem testBit_div_size (n : Net) (i : Nat) :
    (n.address.value / n.size).testBit i =
      (decide (i < n.length) && n.address.bit (n.length - 1 - i)) := by
  have bound := n.length_le
  have shifted : n.address.value / n.size = n.address.value >>> (32 - n.length) :=
    (Nat.shiftRight_eq_div_pow _ _).symm
  rw [shifted, Nat.testBit_shiftRight, Address.bit]
  by_cases inside : i < n.length
  · have place : 31 - (n.length - 1 - i) = 32 - n.length + i := by omega
    simp [inside, place]
  · have small : n.address.value < 2 ^ 32 := n.address.value_lt
    have beyond : 32 ≤ 32 - n.length + i := by omega
    have high := Nat.testBit_lt_two_pow (Nat.lt_of_lt_of_le small
      (Nat.pow_le_pow_right (by decide) beyond))
    simp [inside, high]

/-- The bits of a block are those of its first address. -/
theorem sameBlock_iff {m n : Net} : m.SameBlock n ↔ m.length = n.length ∧ m.base = n.base := by
  constructor
  · rintro ⟨length, agree⟩
    refine ⟨length, ?_⟩
    have quotient : m.address.value / m.size = n.address.value / n.size := by
      apply Nat.eq_of_testBit_eq
      intro i
      rw [testBit_div_size, testBit_div_size, ← length]
      by_cases inside : i < m.length
      · rw [agree _ (by omega)]
      · simp [inside]
    rw [base, base, quotient, size, size, length]
  · rintro ⟨length, first⟩
    refine ⟨length, fun i inside => ?_⟩
    have size : m.size = n.size := by rw [size, size, length]
    have quotient : m.address.value / m.size = n.address.value / n.size := by
      rw [base, base, size] at first
      rw [size]
      exact Nat.eq_of_mul_eq_mul_right n.size_pos first
    have place : m.length - 1 - (m.length - 1 - i) = i := by omega
    have bits := testBit_div_size m (m.length - 1 - i)
    rw [quotient, testBit_div_size, ← length, place] at bits
    have below : m.length - 1 - i < m.length := by omega
    simpa [below] using bits.symm

/-- Of one network there is one block that is written without host bits. -/
theorem SameBlock.eq_of_base {m n : Net} (same : m.SameBlock n) (first : m.address.value = m.base)
    (second : n.address.value = n.base) : m = n := by
  obtain ⟨length, base⟩ := sameBlock_iff.mp same
  have address := Address.value_injective ((first.trans base).trans second.symm)
  cases m
  cases n
  simp_all

end Net

end NetDesign
