import NetDesign.Deployment
import Mathlib.Data.List.Nodup

set_option autoImplicit false

namespace NetDesign

/-- In a list that ascends strictly the items after the first few are those with that many items
below them. -/
theorem drop_eq_filter {α : Type} [Ord α] [Std.TransOrd α] [Std.LawfulEqOrd α] {items : List α}
    (ascending : items.Pairwise fun a b => compare a b = .lt) (n : Nat) :
    items.drop n =
      items.filter fun a => n ≤ (items.filter fun b => compare b a = .lt).length := by
  induction items generalizing n with
  | nil => simp
  | cons head rest ih =>
    have ⟨above, tail⟩ := List.pairwise_cons.mp ascending
    have least : ((head :: rest).filter fun b => compare b head = .lt) = [] := by
      refine List.filter_eq_nil_iff.mpr fun b mem => ?_
      rcases List.mem_cons.mp mem with rfl | mem
      · simp
      · have upper := Std.OrientedCmp.gt_iff_lt.mpr (above b mem)
        simp [upper]
    have more : ∀ a ∈ rest, ((head :: rest).filter fun b => compare b a = .lt).length =
        (rest.filter fun b => compare b a = .lt).length + 1 := by
      intro a mem
      rw [List.filter_cons_of_pos (by simp [above a mem]), List.length_cons]
    cases n with
    | zero => simp
    | succ n =>
      rw [List.drop_succ_cons, ih tail, List.filter_cons_of_neg (by rw [least]; simp)]
      refine List.filter_congr fun a mem => ?_
      rw [more a mem]
      simp

/-- Sorting machines that are all different orders them strictly. -/
theorem Machine.sorted_ascending {machines : List Machine} (nodup : machines.Nodup) :
    (sorted Machine.precedes machines).Pairwise fun a b => compare a b = .lt := by
  have ascending : (sorted Machine.precedes machines).Pairwise fun a b => Machine.precedes a b :=
    pairwise_sorted _ (fun a b c => Std.TransCmp.isLE_trans) isLE_or_isLE machines
  have distinct : (sorted Machine.precedes machines).Nodup :=
    (sorted_perm Machine.precedes machines).nodup_iff.mpr nodup
  refine (ascending.and distinct).imp fun {a b} both => ?_
  obtain ⟨lower, differ⟩ := both
  rcases Ordering.isLE_iff_eq_lt_or_eq_eq.mp lower with below | equal
  · exact below
  · exact absurd (Std.LawfulEqCmp.eq_of_compare equal) differ

/-- The failure of a machine for which no address is left. -/
def Machine.unserved (machine : Machine) : Failure :=
  ⟨machine.id, machine.hostname, .allocation, .managementExhausted⟩

/-- The record without its management interface. -/
def DeviceRecord.withoutTap (record : DeviceRecord) : DeviceRecord := { record with tap := none }

theorem Report.fail_foldl (failures : List Failure) (r : Report) :
    (failures.foldl Report.fail r).compiled =
        r.compiled.filter (fun d => d ∉ failures.map (·.device)) ∧
      (failures.foldl Report.fail r).failed = r.failed ++ failures := by
  induction failures generalizing r with
  | nil => simp
  | cons f rest ih =>
    obtain ⟨compiled, failed⟩ := ih (r.fail f)
    rw [List.foldl_cons, compiled, failed]
    constructor
    · rw [Report.fail, List.filter_filter]
      refine List.filter_congr fun d _ => ?_
      simp [Bool.and_comm]
    · simp [Report.fail]

theorem Report.warnings_fail_foldl (failures : List Failure) (r : Report) :
    (failures.foldl Report.fail r).warnings = r.warnings := by
  induction failures generalizing r with
  | nil => rfl
  | cons f rest ih => exact ih (r.fail f)

namespace ManagementPool

/-- The number of addresses that are left. -/
def left (pool : ManagementPool) : Nat := pool.block.hostCount - (reserved + pool.taken)

theorem take_of_left_eq_zero {pool : ManagementPool} (used : pool.left = 0) :
    pool.take.1 = none ∧ pool.take.2.left = 0 := by
  simp only [left, take, Net.host?] at used ⊢
  exact ⟨if_neg (by omega), by omega⟩

theorem take_of_left_eq_succ {pool : ManagementPool} {n : Nat} (free : pool.left = n + 1) :
    (∃ address, pool.take.1 = some address) ∧ pool.take.2.left = n := by
  simp only [left, take, Net.host?] at free ⊢
  exact ⟨⟨_, if_pos (by omega)⟩, by omega⟩

/-- Machines are served as long as there are addresses; all others fail. -/
theorem serve_foldl_report (machines : List Machine) (pool : ManagementPool) (inv : Inventory)
    (r : Report) :
    (machines.foldl serve (pool, inv, r)).2.2 =
      ((machines.drop pool.left).map Machine.unserved).foldl Report.fail r := by
  induction machines generalizing pool inv r with
  | nil => simp
  | cons machine rest ih =>
    rw [List.foldl_cons]
    cases count : pool.left with
    | zero =>
      obtain ⟨refused, used⟩ := take_of_left_eq_zero count
      simp only [serve, refused]
      rw [ih, used]
      rfl
    | succ n =>
      obtain ⟨⟨address, given⟩, fewer⟩ := take_of_left_eq_succ count
      simp only [serve, given]
      rw [ih, fewer]
      rfl

/-- Serving a machine changes nothing but a management interface. -/
theorem withoutTap_adjustRecord (inv : Inventory) (e d : DeviceId) (address : Option Address) :
    ((inv.adjustRecord e (·.setTapAddress address)).records.get? d).map DeviceRecord.withoutTap =
      (inv.records.get? d).map DeviceRecord.withoutTap := by
  unfold Inventory.adjustRecord
  cases held : inv.records.get? e with
  | none => rfl
  | some record =>
    simp only [Inventory.setRecord, SortedMap.get?_insert]
    by_cases same : d = e
    · rw [if_pos same, same, held]
      rfl
    · rw [if_neg same]

theorem withoutTap_serve_foldl (machines : List Machine) (pool : ManagementPool) (inv : Inventory)
    (r : Report) (d : DeviceId) :
    ((machines.foldl serve (pool, inv, r)).2.1.records.get? d).map DeviceRecord.withoutTap =
      (inv.records.get? d).map DeviceRecord.withoutTap := by
  induction machines generalizing pool inv r with
  | nil => rfl
  | cons machine rest ih =>
    rw [List.foldl_cons]
    cases given : pool.take.1 with
    | none =>
      simp only [serve, given]
      rw [ih, withoutTap_adjustRecord]
    | some address =>
      simp only [serve, given]
      rw [ih, withoutTap_adjustRecord]

end ManagementPool

end NetDesign
