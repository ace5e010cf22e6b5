set_option autoImplicit false

namespace NetDesign

def addressCount : Nat := 4294967296

structure Address where
  bits : UInt32
deriving DecidableEq, Repr, Inhabited

namespace Address

instance : Ord Address := ⟨compareOn (·.bits)⟩
instance : Std.TransOrd Address := inferInstanceAs (Std.TransCmp (compareOn Address.bits))

theorem compare_eq (a b : Address) : compare a b = compare a.bits b.bits := rfl

instance : Std.LawfulEqOrd Address where
  eq_of_compare {a b} same := by
    rw [compare_eq] at same
    cases a
    cases b
    simp_all

def value (a : Address) : Nat := a.bits.toNat

/-- The address of a number below `addressCount`. -/
def ofNat (n : Nat) : Address := ⟨UInt32.ofNat n⟩

/-- The address of four octets, the most significant one first. -/
def ofOctets (a b c d : Nat) : Address := ofNat (((a * 256 + b) * 256 + c) * 256 + d)

theorem compare_eq_lt {a b : Address} : compare a b = .lt ↔ a.value < b.value := by
  rw [compare_eq, Std.compare_eq_lt, UInt32.lt_iff_toNat_lt]
  rfl

theorem value_lt (a : Address) : a.value < addressCount := a.bits.toNat_lt

theorem value_ofNat {n : Nat} (inside : n < addressCount) : (ofNat n).value = n :=
  UInt32.toNat_ofNat_of_lt inside

theorem ofNat_value (a : Address) : ofNat a.value = a := by simp [ofNat, value]

theorem value_injective {a b : Address} (same : a.value = b.value) : a = b := by
  rw [← ofNat_value a, same, ofNat_value]

end Address

/-- A block of addresses: those that agree with `address` in the first `length` bits. It keeps the
address that it was written with, host bits included. -/
structure Net where
  address : Address
  length : Nat
  length_le : length ≤ 32
deriving DecidableEq, Repr

namespace Net

instance : Inhabited Net := ⟨⟨default, 0, by omega⟩⟩

/-- The block that holds a single address. -/
def single (a : Address) : Net := ⟨a, 32, by omega⟩

def size (n : Net) : Nat := Nat.pow 2 (32 - n.length)

/-- The first address of the block, as a number: the written address without its host bits. -/
def base (n : Net) : Nat := n.address.value / n.size * n.size

/-- The number of host addresses. A block of four or more addresses gives its first one to the
network and its last one to broadcasts; a smaller block uses all of them. -/
def hostCount (n : Net) : Nat := if n.length ≤ 30 then n.size - 2 else n.size

def firstHost (n : Net) : Nat := if n.length ≤ 30 then n.base + 1 else n.base

/-- The host address at a position, counted upwards from zero. -/
def host? (n : Net) (position : Nat) : Option Address :=
  if position < n.hostCount then some (.ofNat (n.firstHost + position)) else none

theorem size_pos (n : Net) : 0 < n.size := Nat.two_pow_pos _

theorem base_add_size_le (n : Net) : n.base + n.size ≤ addressCount := by
  have whole : addressCount = Nat.pow 2 n.length * n.size := by
    have split : n.length + (32 - n.length) = 32 := Nat.add_sub_cancel' n.length_le
    rw [size, Nat.pow_eq, Nat.pow_eq, ← Nat.pow_add, split, addressCount]
  have bound : n.address.value / n.size + 1 ≤ Nat.pow 2 n.length := by
    apply Nat.div_lt_of_lt_mul
    rw [Nat.mul_comm, ← whole]
    exact n.address.value_lt
  calc n.base + n.size = (n.address.value / n.size + 1) * n.size := by rw [base, Nat.add_mul]; omega
    _ ≤ Nat.pow 2 n.length * n.size := Nat.mul_le_mul_right _ bound
    _ = addressCount := whole.symm

end Net

end NetDesign
