import NetDesign.Address

set_option autoImplicit false

namespace NetDesign

/-- A block of management addresses, and how many of them machines have asked for. -/
structure ManagementPool where
  block : Net
  taken : Nat
deriving DecidableEq, Repr

namespace ManagementPool

/-- The first two host addresses belong to the ends of the tunnel into the lab. -/
def reserved : Nat := 2

def ofBlock (block : Net) : ManagementPool := ⟨block, 0⟩

def tunnelHost (pool : ManagementPool) : Option Address := pool.block.host? 0

def tunnelMachine (pool : ManagementPool) : Option Address := pool.block.host? 1

/-- Takes the next address, if one is left. -/
def take (pool : ManagementPool) : Option Address × ManagementPool :=
  (pool.block.host? (reserved + pool.taken), { pool with taken := pool.taken + 1 })

def takeMany (pool : ManagementPool) : Nat → List (Option Address)
  | 0 => []
  | n + 1 => pool.take.1 :: pool.take.2.takeMany n

theorem length_takeMany (pool : ManagementPool) (n : Nat) : (pool.takeMany n).length = n := by
  induction n generalizing pool with
  | zero => rfl
  | succ n ih => simp [takeMany, ih]

/-- Requests are answered by position: each gets the host address that follows the one before. -/
theorem takeMany_eq_map (pool : ManagementPool) (n : Nat) :
    pool.takeMany n = (List.range n).map fun i => pool.block.host? (reserved + pool.taken + i) := by
  induction n generalizing pool with
  | zero => rfl
  | succ n ih =>
    rw [takeMany, ih, List.range_succ_eq_map]
    simp [take, Function.comp_def, Nat.add_assoc, Nat.add_comm 1]

end ManagementPool

end NetDesign
