import NetDesign.Proofs.Deployment.Frame

set_option autoImplicit false

namespace NetDesign

namespace Inventory

/-- The inventories are of one time and hold the same records of the devices in sight. -/
structure AgreeOn (seen : DeviceId → Prop) (inv other : Inventory) : Prop where
  timestamp : inv.timestamp = other.timestamp
  records : ∀ d, seen d → inv.records.get? d = other.records.get? d

variable {seen : DeviceId → Prop} {inv other : Inventory}

/-- Inventories of one time with the same lookups are the same inventory. -/
theorem ext_get? (timestamp : inv.timestamp = other.timestamp)
    (records : ∀ d, inv.records.get? d = other.records.get? d)
    (labs : ∀ host, inv.labs.get? host = other.labs.get? host) : inv = other := by
  cases inv
  cases other
  cases timestamp
  cases SortedMap.ext_get? records
  cases SortedMap.ext_get? labs
  rfl

theorem AgreeOn.setRecord (agree : AgreeOn seen inv other) (e : DeviceId)
    (record : DeviceRecord) : AgreeOn seen (inv.setRecord e record) (other.setRecord e record) where
  timestamp := agree.timestamp
  records d sees := by
    rw [Inventory.setRecord, Inventory.setRecord, SortedMap.get?_insert, SortedMap.get?_insert,
      agree.records d sees]

/-- A record is adjusted alike if it is in sight, and whether it is there does not matter
otherwise. -/
theorem AgreeOn.adjustRecord (agree : AgreeOn seen inv other) (e : DeviceId)
    (change : DeviceRecord → DeviceRecord) :
    AgreeOn seen (inv.adjustRecord e change) (other.adjustRecord e change) where
  timestamp := by
    rw [timestamp_adjustRecord, timestamp_adjustRecord]
    exact agree.timestamp
  records d sees := by
    rw [records_adjustRecord, records_adjustRecord, agree.records d sees]

theorem AgreeOn.machines (agree : AgreeOn seen inv other) {ids : List DeviceId}
    (within : ∀ d ∈ ids, seen d) : inv.machines ids = other.machines ids :=
  List.filterMap_congr fun d mem => by rw [agree.records d (within d mem)]

end Inventory

open Inventory (AgreeOn)

variable {seen : DeviceId → Prop} {inv other : Inventory}

namespace ManagementPool

theorem serve_foldl_congr (machines : List Machine) (pool : ManagementPool)
    (agree : AgreeOn seen inv other) (r : Report) :
    let state := machines.foldl serve (pool, inv, r)
    let again := machines.foldl serve (pool, other, r)
    state.1 = again.1 ∧ AgreeOn seen state.2.1 again.2.1 ∧ state.2.2 = again.2.2 := by
  induction machines generalizing pool inv other r with
  | nil => exact ⟨rfl, agree, rfl⟩
  | cons machine rest ih =>
    simp only [List.foldl_cons, serve_eq]
    exact ih pool.take.2 (agree.adjustRecord machine.id _) _

theorem serveAll_congr (pool : ManagementPool) (agree : AgreeOn seen inv other) {r : Report}
    (within : ∀ d ∈ r.compiled, seen d) :
    (pool.serveAll inv r).1 = (pool.serveAll other r).1 ∧
      AgreeOn seen (pool.serveAll inv r).2.1 (pool.serveAll other r).2.1 ∧
      (pool.serveAll inv r).2.2 = (pool.serveAll other r).2.2 := by
  simp only [serveAll, agree.machines within]
  exact serve_foldl_congr _ pool agree r

end ManagementPool

namespace Platform

variable {p : Platform} {host : String} {net : Network} {settings : Settings}

theorem visit_foldl_congr {roster : List Selected} (agree : AgreeOn seen inv other)
    (within : ∀ s ∈ roster, seen s.id) (r : Report) :
    let state := roster.foldl (p.visit host net settings) (inv, r)
    let again := roster.foldl (p.visit host net settings) (other, r)
    AgreeOn seen state.1 again.1 ∧ state.2 = again.2 := by
  induction roster generalizing inv other r with
  | nil => exact ⟨agree, rfl⟩
  | cons s rest ih =>
    have sees := within s List.mem_cons_self
    have same : p.outcome host net settings inv s = p.outcome host net settings other s :=
      outcome_congr (agree.records s.id sees) agree.timestamp
    simp only [List.foldl_cons, visit, same]
    exact ih (agree.setRecord s.id _) (fun t mem => within t (List.mem_cons_of_mem s mem)) _

theorem visitAll_congr (settings : Settings) (agree : AgreeOn seen inv other)
    (within : ∀ d ∈ (p.roster host net).map (·.id), seen d) :
    AgreeOn seen (p.visitAll host net settings inv).1 (p.visitAll host net settings other).1 ∧
      (p.visitAll host net settings inv).2 = (p.visitAll host net settings other).2 :=
  visit_foldl_congr agree (fun s mem => within s.id (List.mem_map.mpr ⟨s, mem, rfl⟩)) _

theorem raiseLab_congr (p : Platform) (host : String) (settings : Settings)
    (agree : AgreeOn seen inv other) {r : Report} (within : ∀ d ∈ r.compiled, seen d) :
    AgreeOn seen (p.raiseLab host settings inv r).1 (p.raiseLab host settings other r).1 ∧
      (p.raiseLab host settings inv r).2 = (p.raiseLab host settings other r).2 ∧
      (p.raiseLab host settings inv r).1.labs.get? host =
        (p.raiseLab host settings other r).1.labs.get? host := by
  obtain ⟨pools, agreeAfter, reports⟩ :=
    (ManagementPool.ofBlock settings.managementBlock).serveAll_congr agree within
  obtain ⟨-, -, compiled⟩ :=
    (ManagementPool.ofBlock settings.managementBlock).serveAll_changes inv r
  rw [raiseLab_eq, raiseLab_eq, ← pools, ← reports]
  have time := agreeAfter.timestamp
  have members := List.filterMap_congr fun d mem => agreeAfter.records d (within d (compiled d mem))
  refine ⟨⟨time, agreeAfter.records⟩, rfl, ?_⟩
  simp only [Inventory.setLab, SortedMap.get?_insert_self, members, time]

/-- What a deployment leaves depends on what its visits left of the devices, and on what they
reported. -/
theorem deploy_congr_of_visits (settings : Settings)
    (visited : AgreeOn seen (p.visitAll host net settings inv).1
      (p.visitAll host net settings other).1)
    (reports : (p.visitAll host net settings inv).2 = (p.visitAll host net settings other).2)
    (within : ∀ d ∈ (p.roster host net).map (·.id), seen d) :
    AgreeOn seen (p.deploy host net settings inv).1 (p.deploy host net settings other).1 ∧
      (p.deploy host net settings inv).2 = (p.deploy host net settings other).2 ∧
      (p = .netkit → (p.deploy host net settings inv).1.labs.get? host =
        (p.deploy host net settings other).1.labs.get? host) := by
  by_cases machine : p = .netkit
  · subst machine
    obtain ⟨-, -, compiled⟩ := netkit.visitAll_changes host net settings other
    rw [deploy_netkit_eq, deploy_netkit_eq, reports]
    obtain ⟨agreeAfter, sameReport, labs⟩ := raiseLab_congr netkit host settings visited
      fun d mem => within d (compiled d mem)
    exact ⟨agreeAfter, sameReport, fun _ => labs⟩
  · rw [deploy_of_ne_netkit machine, deploy_of_ne_netkit machine]
    exact ⟨visited, reports, fun same => absurd same machine⟩

/-- Inventories that agree on the devices of a deployment are not told apart by it: the reports are
the same, the inventories agree afterwards, and so do the labs if there is one to draw up. -/
theorem deploy_congr (settings : Settings) (agree : AgreeOn seen inv other)
    (within : ∀ d ∈ (p.roster host net).map (·.id), seen d) :
    AgreeOn seen (p.deploy host net settings inv).1 (p.deploy host net settings other).1 ∧
      (p.deploy host net settings inv).2 = (p.deploy host net settings other).2 ∧
      (p = .netkit → (p.deploy host net settings inv).1.labs.get? host =
        (p.deploy host net settings other).1.labs.get? host) := by
  obtain ⟨visited, reports⟩ := visitAll_congr settings agree within
  exact deploy_congr_of_visits settings visited reports within

end Platform

end NetDesign
