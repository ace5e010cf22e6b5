import NetDesign.Proofs.Compilation.Deployments
import NetDesign.Proofs.Deployment.Frame

set_option autoImplicit false

namespace NetDesign

/-- A member is counted once for every part that has it. -/
theorem count_flatMap_of_nodup {α β : Type} [DecidableEq β] {part : α → List β} {items : List α}
    (nodup : ∀ a ∈ items, (part a).Nodup) (b : β) :
    (items.flatMap part).count b = (items.filter fun a => b ∈ part a).length := by
  induction items with
  | nil => rfl
  | cons a rest ih =>
    have own := nodup a List.mem_cons_self
    have others := ih fun c mem => nodup c (List.mem_cons_of_mem a mem)
    rw [List.flatMap_cons, List.count_append, own.count, others, List.filter_cons]
    by_cases mem : b ∈ part a
    · simp [mem, Nat.add_comm]
    · simp [mem]

/-- The devices that a report lists, as compiled or as failed. -/
def Report.devices (r : Report) : List DeviceId := r.compiled ++ r.failed.map (·.device)

/-- The report of a deployment lists each of its devices once. -/
theorem Platform.devices_deploy {net : Network} (wf : net.WellFormed) (p : Platform)
    (host : String) (settings : Settings) {inv : Inventory} (keyed : inv.Keyed) :
    (p.deploy host net settings inv).2.devices.Perm ((p.roster host net).map (·.id)) := by
  have failed := (deploy_failed wf p host settings keyed).map (·.device)
  rw [map_device_verdicts] at failed
  rw [Report.devices, deploy_compiled wf p host settings keyed]
  refine (failed.append_left _).trans ?_
  rw [← List.map_append]
  have split := List.filter_append_perm
    (fun s => decide (p.verdict? host net settings inv s = none)) (p.roster host net)
  simp only [ne_eq, decide_not]
  exact split.map _

namespace Compilation

/-- The compilation accounts for the deployments that are done. -/
structure Accounts (c : Compilation) (net : Network) (done : List (String × Platform)) :
    Prop where
  keyed : c.inventory.Keyed
  targets : c.reports.map (·.target) = done
  devices : ∀ r ∈ c.reports, r.devices.Perm ((r.platform.roster r.host net).map (·.id))
  records : ∀ d, c.inventory.records.contains d ↔
    ∃ deployment ∈ done, d ∈ (deployment.2.roster deployment.1 net).map (·.id)
  labs : ∀ h, c.inventory.labs.contains h ↔ (h, .netkit) ∈ done

variable {c : Compilation} {net : Network} {done : List (String × Platform)}

theorem empty_accounts (timestamp : String) (net : Network) :
    Accounts ⟨.empty timestamp, []⟩ net [] where
  keyed := Inventory.empty_keyed timestamp
  targets := rfl
  devices r mem := by cases mem
  records d := by simp [Inventory.empty, SortedMap.contains]
  labs h := by simp [Inventory.empty, SortedMap.contains]

theorem Accounts.extend (accounts : c.Accounts net done) (wf : net.WellFormed)
    (settings : Settings) (deployment : String × Platform) :
    (c.extend net settings deployment).Accounts net (done ++ [deployment]) := by
  obtain ⟨host, p⟩ := deployment
  have target := p.target_deploy host net settings c.inventory
  have listed := p.devices_deploy wf host settings accounts.keyed
  have records := p.contains_records_deploy host net settings c.inventory
  have labs := fun h => p.contains_labs_deploy host h net settings c.inventory
  have keyed : (p.deploy host net settings c.inventory).1.Keyed :=
    Platform.deploy_keyed accounts.keyed
  rw [extend_eq]
  generalize p.deploy host net settings c.inventory = result at target listed records labs keyed ⊢
  obtain ⟨inventory, report⟩ := result
  obtain ⟨rfl, rfl⟩ := Prod.mk.inj target
  refine ⟨keyed, ?_, fun r mem => ?_, fun d => ?_, fun h => ?_⟩
  · rw [List.map_append, accounts.targets]
    rfl
  · rcases List.mem_append.mp mem with old | new
    · exact accounts.devices r old
    · rw [List.mem_singleton.mp new]
      exact listed
  · rw [records, accounts.records]
    simp only [List.mem_append, List.mem_singleton, or_and_right, exists_or, exists_eq_left]
  · rw [labs, accounts.labs]
    simp only [List.mem_append, List.mem_singleton, Prod.mk.injEq,
      eq_comm (a := report.platform)]

theorem Accounts.foldl (accounts : c.Accounts net done) (wf : net.WellFormed)
    (settings : Settings) (deployments : List (String × Platform)) :
    (deployments.foldl (Compilation.extend net settings) c).Accounts net (done ++ deployments) := by
  induction deployments generalizing c done with
  | nil => simpa using accounts
  | cons deployment rest ih =>
    rw [List.foldl_cons, List.append_cons]
    exact ih (accounts.extend wf settings deployment)

theorem Accounts.devices_nodup (accounts : c.Accounts net done) {r : Report}
    (mem : r ∈ c.reports) : r.devices.Nodup :=
  (accounts.devices r mem).nodup_iff.mpr (r.platform.roster_nodup r.host net)

/-- The compilation covers the routers of a network, or those of one host. -/
structure Covers (c : Compilation) (net : Network) (host : Option String) : Prop where
  /-- The reports ascend by host and platform, so that no two are about the same pair. -/
  ascending : (c.reports.map (·.target)).Pairwise Precedes
  declared : ∀ h p, (h, p) ∈ c.reports.map (·.target) ↔
    (∃ device ∈ net.devices, device.isRouter ∧ device.host = some h ∧ device.platform = some p) ∧
      ∀ chosen, host = some chosen → h = chosen
  nodup : ∀ r ∈ c.reports, r.devices.Nodup
  devices : ∀ r ∈ c.reports, ∀ d, d ∈ r.devices ↔ net.Deploys r.host r.platform d
  keyed : c.inventory.Keyed
  records : ∀ d, c.inventory.records.contains d ↔ ∃ r ∈ c.reports, d ∈ r.devices
  labs : ∀ h, c.inventory.labs.contains h ↔ ∃ r ∈ c.reports, r.host = h ∧ r.platform = .netkit
  repeated : ∀ d, 1 < (c.reports.filter fun r => d ∈ r.devices).length ↔ net.shared host d
  twice : ∀ d, net.shared host d → (c.reports.filter fun r => d ∈ r.devices).length = 2
  /-- Shared devices are counted twice, but have one record. -/
  total : c.compiledCount + c.failed.length =
    c.inventory.records.size + (net.deviceIds.filter (net.shared host)).length

variable {host : Option String}

/-- A device is listed by as many reports as there are deployments that take it up. -/
theorem Accounts.length_listing (accounts : c.Accounts net (net.deploymentsOn host))
    (d : DeviceId) :
    (c.reports.filter fun r => d ∈ r.devices).length = (net.selecting host d).length := by
  rw [Network.selecting, ← accounts.targets, List.filter_map, List.length_map]
  refine congrArg List.length (List.filter_congr fun r mem => ?_)
  exact decide_eq_decide.mpr (accounts.devices r mem).mem_iff

theorem Accounts.contains_records (accounts : c.Accounts net (net.deploymentsOn host))
    (d : DeviceId) : c.inventory.records.contains d ↔ net.selecting host d ≠ [] := by
  rw [accounts.records, ne_eq, Network.selecting, List.filter_eq_nil_iff]
  simp

theorem length_devices (c : Compilation) :
    (c.reports.flatMap (·.devices)).length = c.compiledCount + c.failed.length := by
  rw [compiledCount, failed]
  induction c.reports with
  | nil => rfl
  | cons r rest ih =>
    have own : r.devices.length = r.compiled.length + r.failed.length := by
      rw [Report.devices, List.length_append, List.length_map]
    simp only [List.flatMap_cons, List.length_append, ih, own]
    omega

/-- The reports list each device that has a record, and shared devices once more. -/
theorem Accounts.devices_perm (accounts : c.Accounts net (net.deploymentsOn host)) :
    (c.reports.flatMap (·.devices)).Perm
      (c.inventory.records.keys ++ net.deviceIds.filter (net.shared host)) := by
  have nodup : ∀ r ∈ c.reports, r.devices.Nodup := fun _ mem => accounts.devices_nodup mem
  have ids : net.deviceIds.Nodup := List.nodup_range.map fun _ _ same => DeviceId.mk.inj same
  rw [List.perm_iff_count]
  intro d
  have recorded : d ∈ c.inventory.records.keys ↔ ¬ net.selecting host d = [] :=
    SortedMap.mem_keys.trans (accounts.contains_records d)
  have known : d ∈ net.deviceIds.filter (net.shared host) ↔ net.shared host d := by
    rw [List.mem_filter, and_iff_right_iff_imp]
    intro both
    obtain ⟨device, -, found, -⟩ := Network.shared_iff.mp both
    exact List.mem_map.mpr ⟨d.index, List.mem_range.mpr (Network.index_lt_of_device? found), rfl⟩
  rw [count_flatMap_of_nodup nodup, accounts.length_listing, net.length_selecting,
    List.count_append, c.inventory.records.keys_nodup.count, (ids.filter _).count]
  simp only [recorded, known, ite_not]

theorem Accounts.covers (accounts : c.Accounts net (net.deploymentsOn host)) :
    c.Covers net host where
  ascending := by
    rw [accounts.targets]
    exact net.deploymentsOn_ascending host
  declared h p := by
    rw [accounts.targets, Network.mem_deploymentsOn, Network.declares_iff]
  nodup _ mem := accounts.devices_nodup mem
  devices r mem d := (accounts.devices r mem).mem_iff.trans Network.mem_roster_ids
  keyed := accounts.keyed
  records d := by
    rw [accounts.records, ← accounts.targets]
    constructor
    · rintro ⟨_, done, selected⟩
      obtain ⟨r, mem, rfl⟩ := List.mem_map.mp done
      exact ⟨r, mem, (accounts.devices r mem).mem_iff.mpr selected⟩
    · rintro ⟨r, mem, listed⟩
      exact ⟨r.target, List.mem_map.mpr ⟨r, mem, rfl⟩,
        (accounts.devices r mem).mem_iff.mp listed⟩
  labs h := by
    rw [accounts.labs, ← accounts.targets]
    simp [Report.target]
  repeated d := by
    rw [accounts.length_listing]
    constructor
    · intro several
      by_contra single
      have most := Network.selecting_of_not_shared single
      omega
    · intro both
      rw [Network.selecting_of_shared both]
      omega
  twice d both := (accounts.length_listing d).trans (Network.selecting_of_shared both)
  total := by
    rw [← c.length_devices, accounts.devices_perm.length_eq, List.length_append]
    exact congrArg (· + _) (List.length_map _)

end Compilation

namespace Network

/-- A compilation covers the network: one report for each deployment, each of its devices listed
once, a record for each device that is listed, and a lab for each host of emulated machines. -/
theorem compile_covers {net : Network} (reachable : net.Reachable) (settings : Settings)
    (host : Option String) (timestamp : String) :
    (net.compile settings host timestamp).Covers net host :=
  ((Compilation.empty_accounts timestamp net).foldl reachable.wellFormed settings
    (net.deploymentsOn host)).covers

def iosRouter (name : String) (platform : Option Platform) : Device where
  name := name
  label := name
  kind := .router
  asn := none
  dialect := some .ios
  platform := platform
  host := some "lab"

def threeRouters : Network :=
  Network.empty.after
    [.addDevice (iosRouter "a" (some .cisco)), .addDevice (iosRouter "b" (some .dynagen)),
      .addDevice (iosRouter "c" none)]

theorem threeRouters_covered :
    let c := threeRouters.compile .standard none "0"
    threeRouters.Reachable ∧ c.inventory.records.contains ⟨2⟩ ∧
      (c.reports.filter fun r => ⟨2⟩ ∈ r.devices).length = 2 := by
  intro c
  have reachable : threeRouters.Reachable := ⟨_, rfl⟩
  have covers := compile_covers reachable .standard none "0"
  have shared : threeRouters.shared none ⟨2⟩ := by decide +kernel
  have twice : (c.reports.filter fun r => ⟨2⟩ ∈ r.devices).length = 2 := covers.twice ⟨2⟩ shared
  have some : 0 < (c.reports.filter fun r => ⟨2⟩ ∈ r.devices).length := by omega
  obtain ⟨r, listed⟩ := List.exists_mem_of_length_pos some
  obtain ⟨mem, lists⟩ := List.mem_filter.mp listed
  exact ⟨reachable, (covers.records ⟨2⟩).mpr ⟨r, mem, of_decide_eq_true lists⟩, twice⟩

end Network

end NetDesign
