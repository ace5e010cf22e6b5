import NetDesign.ManagementPool
import NetDesign.Proofs.Address

set_option autoImplicit false

/- A pool answers by position. It could as well walk through the host addresses of its block, the
first two of which it takes beforehand: all that is needed of such a walk is where it starts, what
one step does, and that it stays at its end. -/
namespace NetDesign

namespace ManagementPool

variable (block : Net) (k : Nat)

theorem takeMany_ofBlock :
    (ofBlock block).takeMany k = (List.range k).map fun i => block.host? (2 + i) :=
  takeMany_eq_map (ofBlock block) k

/-- A block of four or more addresses has all those left that follow the first two hosts, but for
the last address. -/
theorem map_value_takeMany {block : Net} (short : block.length ≤ 30) :
    ((ofBlock block).takeMany k).map (Option.map Address.value) =
      ((List.range' (block.base + 3) (block.size - 4)).map some ++
        List.replicate k none).take k := by
  obtain ⟨first, count, large⟩ := Net.hosts_of_inner short
  apply List.ext_getElem
  · simp [length_takeMany]
  intro i inside insideOther
  have asked : i < k := by
    rw [List.length_map, length_takeMany] at inside
    exact inside
  simp only [takeMany_ofBlock, List.getElem_map, List.getElem_range, List.getElem_take,
    Net.map_value_host?, first, count]
  by_cases free : i < block.size - 4
  · rw [if_pos (by omega), List.getElem_append_left (by simpa using free), List.getElem_map,
      List.getElem_range']
    exact congrArg some (by omega)
  · rw [if_neg (by omega), List.getElem_append_right (by simpa using free), List.getElem_replicate]

/-- The two ends of the tunnel use a smaller block up. -/
theorem takeMany_of_small {block : Net} (small : block.hostCount ≤ 2) :
    (ofBlock block).takeMany k = List.replicate k none := by
  have used : ∀ i ∈ List.range k, block.host? (2 + i) = none := fun i _ =>
    Net.host?_eq_none_iff.mpr (by omega)
  rw [takeMany_ofBlock, List.map_congr_left used, List.map_const', List.length_range]

theorem tunnel_of_inner {block : Net} (short : block.length ≤ 30) :
    (ofBlock block).tunnelHost.map (·.value) = some (block.base + 1) ∧
      (ofBlock block).tunnelMachine.map (·.value) = some (block.base + 2) := by
  obtain ⟨first, count, large⟩ := Net.hosts_of_inner short
  have host := block.map_value_host? 0
  have machine := block.map_value_host? 1
  rw [if_pos (by omega), first] at host machine
  exact ⟨host, machine⟩

theorem answers_of_pair {block : Net} (pair : block.length = 31) :
    (ofBlock block).tunnelHost.map (·.value) = some block.base ∧
      (ofBlock block).tunnelMachine.map (·.value) = some (block.base + 1) ∧
      (ofBlock block).takeMany k = List.replicate k none := by
  obtain ⟨first, count, -⟩ := Net.hosts_of_small (n := block) (by omega)
  have two : block.size = 2 := by rw [Net.size, pair]
  have host := block.map_value_host? 0
  have machine := block.map_value_host? 1
  rw [if_pos (by omega), first] at host machine
  exact ⟨host, machine, takeMany_of_small k (by omega)⟩

theorem answers_of_single {block : Net} (single : block.length = 32) :
    (ofBlock block).tunnelHost = some block.address ∧ (ofBlock block).tunnelMachine = none ∧
      (ofBlock block).takeMany k = List.replicate k none := by
  obtain ⟨first, count, -⟩ := Net.hosts_of_small (n := block) (by omega)
  have one : block.size = 1 := by rw [Net.size, single]
  have own : block.base = block.address.value := by rw [Net.base, one, Nat.div_one, Nat.mul_one]
  have host : block.host? 0 = some block.address :=
    Net.host?_eq_some_iff.mpr ⟨by omega, by omega⟩
  have machine : block.host? 1 = none := Net.host?_eq_none_iff.mpr (by omega)
  exact ⟨host, machine, takeMany_of_small k (by omega)⟩

/-- Every answer is a host address of the block. -/
theorem isHost_of_answer {block : Net} {a : Address}
    (given : some a ∈ (ofBlock block).tunnelHost :: (ofBlock block).tunnelMachine ::
      (ofBlock block).takeMany k) : block.IsHost a := by
  apply Net.exists_host?_iff.mp
  rcases List.mem_cons.mp given with host | given
  · exact ⟨0, host.symm⟩
  rcases List.mem_cons.mp given with machine | given
  · exact ⟨1, machine.symm⟩
  · rw [takeMany_ofBlock] at given
    obtain ⟨i, -, same⟩ := List.mem_map.mp given
    exact ⟨2 + i, same⟩

end ManagementPool

/-- A way to walk through the host addresses of a block. -/
structure HostWalk (State : Type) where
  start : Net → State
  next : State → Option Address × State

namespace HostWalk

variable {State : Type}

/-- What is relied on of a walk. `ahead` tells the first and the last of the addresses that are
still to come, as numbers. -/
structure Lawful (walk : HostWalk State) (ahead : State → Option (Nat × Nat)) : Prop where
  start_inner : ∀ block : Net, block.length ≤ 30 →
    ahead (walk.start block) = some (block.base + 1, block.base + block.size - 2)
  start_whole : ∀ block : Net, 30 < block.length →
    ahead (walk.start block) = some (block.base, block.base + block.size - 1)
  next_inside : ∀ state first last, ahead state = some (first, last) →
    (walk.next state).1 = some (.ofNat first) ∧
      ahead (walk.next state).2 = if first < last then some (first + 1, last) else none
  next_ended : ∀ state, ahead state = none →
    (walk.next state).1 = none ∧ ahead (walk.next state).2 = none

/-- A pool that walks: its two ends of the tunnel, and where it stands then. -/
structure Pool (State : Type) where
  tunnelHost : Option Address
  tunnelMachine : Option Address
  rest : State

def pool (walk : HostWalk State) (block : Net) : Pool State :=
  let (tunnelHost, rest) := walk.next (walk.start block)
  let (tunnelMachine, rest) := walk.next rest
  ⟨tunnelHost, tunnelMachine, rest⟩

def takeMany (walk : HostWalk State) (state : State) : Nat → List (Option Address)
  | 0 => []
  | k + 1 => (walk.next state).1 :: walk.takeMany (walk.next state).2 k

/-- The walk has come to the host address at a position. -/
def Stands (ahead : State → Option (Nat × Nat)) (block : Net) (i : Nat) (state : State) : Prop :=
  ahead state =
    if i < block.hostCount then
      some (block.firstHost + i, block.firstHost + block.hostCount - 1)
    else none

variable {walk : HostWalk State} {ahead : State → Option (Nat × Nat)}

theorem Lawful.start_stands (lawful : walk.Lawful ahead) (block : Net) :
    Stands ahead block 0 (walk.start block) := by
  unfold Stands
  by_cases short : block.length ≤ 30
  · obtain ⟨first, count, large⟩ := Net.hosts_of_inner short
    have last : block.base + 1 + (block.size - 2) - 1 = block.base + block.size - 2 := by omega
    rw [lawful.start_inner block short, if_pos (by omega), first, count, last]
  · have long := Nat.lt_of_not_le short
    obtain ⟨first, count, positive⟩ := Net.hosts_of_small long
    rw [lawful.start_whole block long, if_pos (by omega), first, count, Nat.add_zero]

/-- A step answers by the position of the walk, and goes on to the next one. -/
theorem Lawful.next_stands (lawful : walk.Lawful ahead) {block : Net} {i : Nat} {state : State}
    (stands : Stands ahead block i state) :
    (walk.next state).1 = block.host? i ∧ Stands ahead block (i + 1) (walk.next state).2 := by
  unfold Stands at stands ⊢
  by_cases inside : i < block.hostCount
  · rw [if_pos inside] at stands
    obtain ⟨answer, left⟩ := lawful.next_inside state _ _ stands
    refine ⟨answer.trans (if_pos inside).symm, left.trans ?_⟩
    by_cases last : i + 1 < block.hostCount
    · rw [if_pos last, if_pos (by omega)]
      rfl
    · rw [if_neg last, if_neg (by omega)]
  · rw [if_neg inside] at stands
    obtain ⟨answer, left⟩ := lawful.next_ended state stands
    exact ⟨answer.trans (if_neg inside).symm, left.trans (if_neg (by omega)).symm⟩

theorem Lawful.takeMany_stands (lawful : walk.Lawful ahead) {block : Net} {i : Nat} {state : State}
    (stands : Stands ahead block i state) (k : Nat) :
    walk.takeMany state k = (List.range k).map fun j => block.host? (i + j) := by
  induction k generalizing i state with
  | zero => rfl
  | succ k ih =>
    obtain ⟨answer, further⟩ := lawful.next_stands stands
    rw [takeMany, answer, ih further, List.range_succ_eq_map]
    simp [Function.comp_def, Nat.add_assoc, Nat.add_comm 1]

/-- A pool that walks answers as one that counts. -/
theorem Lawful.pool_eq (lawful : walk.Lawful ahead) (block : Net) (k : Nat) :
    (walk.pool block).tunnelHost = (ManagementPool.ofBlock block).tunnelHost ∧
      (walk.pool block).tunnelMachine = (ManagementPool.ofBlock block).tunnelMachine ∧
      walk.takeMany (walk.pool block).rest k = (ManagementPool.ofBlock block).takeMany k := by
  obtain ⟨host, behindHost⟩ := lawful.next_stands (lawful.start_stands block)
  obtain ⟨machine, behindMachine⟩ := lawful.next_stands behindHost
  rw [ManagementPool.takeMany_ofBlock]
  exact ⟨host, machine, lawful.takeMany_stands behindMachine k⟩

/-- What the pool of a block answers to `k` machines, by the length of the block. No answer lies
outside the block, and no block reaches beyond the last address. -/
theorem pool_answers (lawful : walk.Lawful ahead) (block : Net) (k : Nat) :
    let pool := walk.pool block
    let answers := walk.takeMany pool.rest k
    (pool.tunnelHost = (ManagementPool.ofBlock block).tunnelHost ∧
      pool.tunnelMachine = (ManagementPool.ofBlock block).tunnelMachine ∧
      answers = (ManagementPool.ofBlock block).takeMany k) ∧
    (∀ i, block.base.testBit i =
      (decide (32 - block.length ≤ i) && block.address.value.testBit i)) ∧
    (block.length ≤ 30 → pool.tunnelHost.map (·.value) = some (block.base + 1) ∧
      pool.tunnelMachine.map (·.value) = some (block.base + 2) ∧
      answers.map (Option.map Address.value) =
        ((List.range' (block.base + 3) (block.size - 4)).map some ++
          List.replicate k none).take k) ∧
    (block.length = 31 → pool.tunnelHost.map (·.value) = some block.base ∧
      pool.tunnelMachine.map (·.value) = some (block.base + 1) ∧
      answers = List.replicate k none) ∧
    (block.length = 32 → pool.tunnelHost = some block.address ∧ pool.tunnelMachine = none ∧
      answers = List.replicate k none) ∧
    block.base + block.size ≤ addressCount ∧
    ∀ a, some a ∈ pool.tunnelHost :: pool.tunnelMachine :: answers →
      block.base ≤ a.value ∧ a.value < block.base + block.size := by
  obtain ⟨host, machine, machines⟩ := lawful.pool_eq block k
  simp only [host, machine, machines]
  refine ⟨⟨trivial, trivial, trivial⟩, block.testBit_base, fun short => ?_,
    ManagementPool.answers_of_pair k, ManagementPool.answers_of_single k, block.base_add_size_le,
    fun a given => ?_⟩
  · obtain ⟨hostValue, machineValue⟩ := ManagementPool.tunnel_of_inner short
    exact ⟨hostValue, machineValue, ManagementPool.map_value_takeMany k short⟩
  · have isHost := ManagementPool.isHost_of_answer k given
    exact ⟨isHost.lower, isHost.upper⟩

end HostWalk

/-- The addresses from the first to the last one. There are none if the first one is above the
last one. -/
structure AddressRange where
  first : UInt32
  last : UInt32
deriving DecidableEq, Repr

namespace AddressRange

def hosts (block : Net) : AddressRange :=
  if block.length ≤ 30 then ⟨.ofNat (block.base + 1), .ofNat (block.base + block.size - 2)⟩
  else ⟨.ofNat block.base, .ofNat (block.base + block.size - 1)⟩

/-- The last address empties the range: the one behind it may be none. -/
def next (range : AddressRange) : Option Address × AddressRange :=
  if range.first < range.last then (some ⟨range.first⟩, ⟨range.first + 1, range.last⟩)
  else if range.first = range.last then (some ⟨range.first⟩, ⟨1, 0⟩)
  else (none, range)

def walk : HostWalk AddressRange := ⟨hosts, next⟩

def ahead (range : AddressRange) : Option (Nat × Nat) :=
  if range.first.toNat ≤ range.last.toNat then some (range.first.toNat, range.last.toNat) else none

theorem ahead_ofNat {first last : Nat} (order : first ≤ last) (inside : last < addressCount) :
    ahead ⟨.ofNat first, .ofNat last⟩ = some (first, last) := by
  have firstValue : (UInt32.ofNat first).toNat = first :=
    UInt32.toNat_ofNat_of_lt (Nat.lt_of_le_of_lt order inside)
  have lastValue : (UInt32.ofNat last).toNat = last := UInt32.toNat_ofNat_of_lt inside
  simp only [ahead, firstValue, lastValue]
  exact if_pos order

theorem ofNat_first (range : AddressRange) : Address.ofNat range.first.toNat = ⟨range.first⟩ :=
  Address.ofNat_value ⟨range.first⟩

theorem next_of_lt {range : AddressRange} (inner : range.first.toNat < range.last.toNat) :
    (next range).1 = some (.ofNat range.first.toNat) ∧
      ahead (next range).2 = some (range.first.toNat + 1, range.last.toNat) := by
  have value : (range.first + 1).toNat = range.first.toNat + 1 := by
    have bound := range.last.toNat_lt
    rw [UInt32.toNat_add, UInt32.toNat_one]
    omega
  have rest : ahead ⟨range.first + 1, range.last⟩ =
      some (range.first.toNat + 1, range.last.toNat) := by
    simp only [ahead, value]
    exact if_pos inner
  rw [next, if_pos (UInt32.lt_iff_toNat_lt.mpr inner), ofNat_first]
  exact ⟨rfl, rest⟩

theorem next_of_eq {range : AddressRange} (same : range.first = range.last) :
    (next range).1 = some (.ofNat range.first.toNat) ∧ ahead (next range).2 = none := by
  have last : ¬ range.first < range.last := by
    rw [same]
    exact UInt32.lt_irrefl _
  rw [next, if_neg last, if_pos same, ofNat_first]
  exact ⟨rfl, rfl⟩

theorem next_of_gt {range : AddressRange} (empty : range.last.toNat < range.first.toNat) :
    next range = (none, range) := by
  have above : ¬ range.first < range.last := by
    rw [UInt32.lt_iff_toNat_lt]
    omega
  have differ : range.first ≠ range.last := by
    intro same
    rw [same] at empty
    exact Nat.lt_irrefl _ empty
  rw [next, if_neg above, if_neg differ]

theorem walk_lawful : walk.Lawful ahead where
  start_inner block short := by
    have large := Net.four_le_size short
    have whole := block.base_add_size_le
    have start : walk.start block = ⟨.ofNat _, .ofNat _⟩ := if_pos short
    rw [start, ahead_ofNat (by omega) (by omega)]
  start_whole block long := by
    have positive := block.size_pos
    have whole := block.base_add_size_le
    have start : walk.start block = ⟨.ofNat _, .ofNat _⟩ := if_neg (Nat.not_le_of_lt long)
    rw [start, ahead_ofNat (by omega) (by omega)]
  next_inside range first last within := by
    rw [ahead] at within
    split at within
    case isFalse => cases within
    case isTrue order =>
      obtain ⟨rfl, rfl⟩ := Prod.mk.inj (Option.some.inj within)
      by_cases inner : range.first.toNat < range.last.toNat
      · rw [if_pos inner]
        exact next_of_lt inner
      · rw [if_neg inner]
        exact next_of_eq (UInt32.toNat_inj.mp (by omega))
  next_ended range ended := by
    have empty : range.last.toNat < range.first.toNat := by
      apply Nat.lt_of_not_le
      intro order
      rw [ahead, if_pos order] at ended
      cases ended
    have stays : walk.next range = (none, range) := next_of_gt empty
    rw [stays]
    exact ⟨rfl, ended⟩

/-- The block of the last 64 addresses, written with host bits. -/
def lastAddresses : Net := ⟨⟨4294967293⟩, 26, by decide⟩

theorem lastAddresses_answers :
    let pool := walk.pool lastAddresses
    walk.Lawful ahead ∧ lastAddresses.base = 4294967232 ∧ lastAddresses.length ≤ 30 ∧
      pool.tunnelHost.map (·.value) = some 4294967233 ∧
      pool.tunnelMachine.map (·.value) = some 4294967234 ∧
      (walk.takeMany pool.rest 62).map (Option.map Address.value) =
        (List.range' 4294967235 60).map some ++ [none, none] := by
  intro pool
  obtain ⟨-, -, inner, -⟩ := HostWalk.pool_answers walk_lawful lastAddresses 62
  obtain ⟨host, machine, machines⟩ := inner (by decide)
  have run : ((List.range' 4294967235 60).map some ++ List.replicate 62 none).take 62 =
      (List.range' 4294967235 60).map some ++ [none, none] := by decide
  exact ⟨walk_lawful, by decide, by decide, host, machine, machines.trans run⟩

end AddressRange

end NetDesign
