import NetDesign.Compilation
import NetDesign.Proofs.Deployment.Locality

set_option autoImplicit false

namespace NetDesign

open Inventory (AgreeOn)

namespace Network

/-- No device is selected by both deployments. -/
def Apart (net : Network) (a b : String × Platform) : Prop :=
  ∀ d ∈ (a.2.roster a.1 net).map (·.id), d ∉ (b.2.roster b.1 net).map (·.id)

variable {net : Network} {a b : String × Platform}

instance : Decidable (net.Apart a b) :=
  inferInstanceAs (Decidable
    (∀ d ∈ (a.2.roster a.1 net).map (·.id), d ∉ (b.2.roster b.1 net).map (·.id)))

theorem Apart.symm (apart : net.Apart a b) : net.Apart b a :=
  fun d theirs own => apart d own theirs

end Network

namespace Platform

variable {p q : Platform} {host other : String} {net : Network}

/-- A deployment does not notice that one of other devices came before it. -/
theorem deploy_of_apart (apart : net.Apart (host, p) (other, q)) (settings : Settings)
    (inv : Inventory) :
    let after := (q.deploy other net settings inv).1
    AgreeOn (· ∈ (p.roster host net).map (·.id)) (p.deploy host net settings after).1
        (p.deploy host net settings inv).1 ∧
      (p.deploy host net settings after).2 = (p.deploy host net settings inv).2 ∧
      (p = .netkit → (p.deploy host net settings after).1.labs.get? host =
        (p.deploy host net settings inv).1.labs.get? host) := by
  refine deploy_congr settings ⟨q.timestamp_deploy other net settings inv, fun d own => ?_⟩
    fun d own => own
  exact records_deploy_of_not_mem (apart d own) settings inv

variable {settings : Settings} {inv : Inventory}

theorem records_deploy_comm (apart : net.Apart (host, p) (other, q)) {d : DeviceId}
    (own : d ∈ (p.roster host net).map (·.id)) :
    (q.deploy other net settings (p.deploy host net settings inv).1).1.records.get? d =
      (p.deploy host net settings (q.deploy other net settings inv).1).1.records.get? d := by
  rw [records_deploy_of_not_mem (apart d own),
    (deploy_of_apart apart settings inv).1.records d own]

theorem labs_deploy_comm (apart : net.Apart (host, p) (other, q))
    (differ : ¬ (q = p ∧ host = other)) (machine : p = .netkit) :
    (q.deploy other net settings (p.deploy host net settings inv).1).1.labs.get? host =
      (p.deploy host net settings (q.deploy other net settings inv).1).1.labs.get? host := by
  have elsewhere : ¬ (q = .netkit ∧ host = other) := by
    rwa [machine] at differ
  rw [labs_deploy_of_not_raised elsewhere,
    (deploy_of_apart apart settings inv).2.2 machine]

/-- Deployments of different devices leave the same inventory in either order. -/
theorem inventory_deploy_comm (apart : net.Apart (host, p) (other, q)) (settings : Settings)
    (inv : Inventory) :
    (q.deploy other net settings (p.deploy host net settings inv).1).1 =
      (p.deploy host net settings (q.deploy other net settings inv).1).1 := by
  by_cases same : q = p ∧ host = other
  · obtain ⟨rfl, rfl⟩ := same
    rfl
  · apply Inventory.ext_get?
    · simp only [timestamp_deploy]
    · intro d
      by_cases own : d ∈ (p.roster host net).map (·.id)
      · exact records_deploy_comm apart own
      · by_cases theirs : d ∈ (q.roster other net).map (·.id)
        · exact (records_deploy_comm apart.symm theirs).symm
        · simp only [records_deploy_of_not_mem own, records_deploy_of_not_mem theirs]
    · intro name
      have turned : ¬ (p = q ∧ other = host) := fun both => same ⟨both.1.symm, both.2.symm⟩
      by_cases own : p = .netkit ∧ name = host
      · obtain ⟨machine, rfl⟩ := own
        exact labs_deploy_comm apart same machine
      · by_cases theirs : q = .netkit ∧ name = other
        · obtain ⟨machine, rfl⟩ := theirs
          exact (labs_deploy_comm apart.symm turned machine).symm
        · simp only [labs_deploy_of_not_raised own, labs_deploy_of_not_raised theirs]

/-- Two deployments that have no device in common may change places: either order leaves the same
inventory, and each of the two reports the same in both. -/
theorem deploy_interchange {net : Network} {p q : Platform} {host other : String}
    (apart : net.Apart (host, p) (other, q)) (settings : Settings) (inv : Inventory) :
    let first := p.deploy host net settings inv
    let second := q.deploy other net settings first.1
    let secondBefore := q.deploy other net settings inv
    let firstAfter := p.deploy host net settings secondBefore.1
    second.1 = firstAfter.1 ∧ first.2 = firstAfter.2 ∧ second.2 = secondBefore.2 :=
  ⟨inventory_deploy_comm apart settings inv, (deploy_of_apart apart settings inv).2.1.symm,
    (deploy_of_apart apart.symm settings inv).2.1⟩

/-- Of a host with machines and equipment it does not matter which is deployed first. -/
theorem mixedHost_interchange :
    let net := Network.empty.after (Network.twoSystemsRun ++
      [.addDevice { Network.twoSystemsRouter "c" 3 with
        dialect := some .ios, platform := some .cisco }])
    let machines := netkit.deploy "lab" net .standard (.empty "0")
    let equipment := cisco.deploy "lab" net .standard machines.1
    let equipmentBefore := cisco.deploy "lab" net .standard (.empty "0")
    let machinesAfter := netkit.deploy "lab" net .standard equipmentBefore.1
    net.Reachable ∧ (netkit.roster "lab" net).map (·.id) = [⟨0⟩, ⟨1⟩] ∧
      (cisco.roster "lab" net).map (·.id) = [⟨2⟩] ∧ equipment.1 = machinesAfter.1 ∧
      machines.2 = machinesAfter.2 ∧ equipment.2 = equipmentBefore.2 := by
  intro net machines equipment equipmentBefore machinesAfter
  have apart : net.Apart ("lab", netkit) ("lab", cisco) := by decide +kernel
  exact ⟨⟨_, rfl⟩, by decide +kernel, by decide +kernel,
    deploy_interchange apart .standard (.empty "0")⟩

end Platform

namespace Compilation

variable {net : Network} {c other : Compilation}

/-- The compilations have made the same, perhaps in another order. -/
structure Rearranges (c other : Compilation) : Prop where
  inventory : c.inventory = other.inventory
  reports : c.reports.Perm other.reports

theorem Rearranges.extend (same : c.Rearranges other) (net : Network) (settings : Settings)
    (deployment : String × Platform) :
    (c.extend net settings deployment).Rearranges (other.extend net settings deployment) := by
  obtain ⟨host, p⟩ := deployment
  rw [extend_eq, extend_eq, same.inventory]
  exact ⟨rfl, same.reports.append_right _⟩

theorem Rearranges.foldl (same : c.Rearranges other) (net : Network) (settings : Settings)
    (deployments : List (String × Platform)) :
    (deployments.foldl (Compilation.extend net settings) c).Rearranges
      (deployments.foldl (Compilation.extend net settings) other) := by
  induction deployments generalizing c other with
  | nil => exact same
  | cons deployment rest ih => exact ih (same.extend net settings deployment)

theorem extend_comm {a b : String × Platform} (apart : net.Apart a b) (settings : Settings)
    (c : Compilation) :
    ((c.extend net settings a).extend net settings b).Rearranges
      ((c.extend net settings b).extend net settings a) := by
  obtain ⟨host, p⟩ := a
  obtain ⟨other, q⟩ := b
  have first := (Platform.deploy_of_apart apart settings c.inventory).2.1
  have second := (Platform.deploy_of_apart apart.symm settings c.inventory).2.1
  refine ⟨Platform.inventory_deploy_comm apart settings c.inventory, ?_⟩
  simp only [extend_eq, first, second, List.append_assoc]
  exact (List.Perm.swap _ _ []).append_left _

/-- Deployments of which no two have a device in common may be run in any order. -/
theorem foldl_extend_perm {deployments rearranged : List (String × Platform)}
    (perm : deployments.Perm rearranged) (apart : deployments.Pairwise net.Apart)
    (settings : Settings) (c : Compilation) :
    (deployments.foldl (Compilation.extend net settings) c).Rearranges
      (rearranged.foldl (Compilation.extend net settings) c) := by
  induction perm generalizing c with
  | nil => exact ⟨rfl, .refl _⟩
  | cons deployment _ ih => exact ih (List.pairwise_cons.mp apart).2 _
  | swap a b rest =>
    have both := (List.pairwise_cons.mp apart).1 a List.mem_cons_self
    exact (extend_comm both settings c).foldl net settings rest
  | trans before _ ihBefore ihAfter =>
    have first := ihBefore apart c
    have second := ihAfter (before.pairwise apart Network.Apart.symm) c
    exact ⟨first.inventory.trans second.inventory, first.reports.trans second.reports⟩

end Compilation

end NetDesign
