import NetDesign.Proofs.Deployment.Frame

set_option autoImplicit false

namespace NetDesign

/-- In a list without repetition an item is found after the first few exactly if it stands there. -/
theorem mem_drop_iff {α : Type} {items : List α} (nodup : items.Nodup) {i : Nat} {a : α}
    (at_i : items[i]? = some a) (n : Nat) : a ∈ items.drop n ↔ n ≤ i := by
  induction items generalizing i n with
  | nil => simp at at_i
  | cons first rest ih =>
    obtain ⟨absent, nodupRest⟩ := List.nodup_cons.mp nodup
    cases n with
    | zero => exact ⟨fun _ => Nat.zero_le i, fun _ => List.mem_of_getElem? at_i⟩
    | succ n =>
      rw [List.drop_succ_cons]
      cases i with
      | zero =>
        rw [List.getElem?_cons_zero, Option.some.injEq] at at_i
        subst at_i
        have never : first ∉ rest.drop n := fun mem => absent (List.mem_of_mem_drop mem)
        exact ⟨fun mem => absurd mem never, fun later => absurd later (Nat.not_succ_le_zero n)⟩
      | succ i =>
        rw [List.getElem?_cons_succ] at at_i
        rw [ih nodupRest at_i, Nat.succ_le_succ_iff]

namespace Machine

/-- The order in which machines are served. -/
theorem compare_eq_lt {a b : Machine} :
    compare a b = .lt ↔
      a.hostname < b.hostname ∨ a.hostname = b.hostname ∧ a.id.index < b.id.index := by
  have texts : ∀ s t : String, compare s t = .lt ↔ s < t := fun s t => compareOfLessAndEq_eq_lt
  change compareLex (compareOn Machine.hostname) (compareOn Machine.id) a b = .lt ↔ _
  simp only [compareLex, Ordering.then_eq_lt, compareOn, texts, Std.compare_eq_iff_eq,
    DeviceId.compare_eq, Std.compare_eq_lt]

end Machine

namespace ManagementPool

theorem get?_serve_foldl_of_not_mem {machines : List Machine} {d : DeviceId}
    (absent : d ∉ machines.map (·.id)) (pool : ManagementPool) (inv : Inventory) (r : Report) :
    (machines.foldl serve (pool, inv, r)).2.1.records.get? d = inv.records.get? d := by
  induction machines generalizing pool inv r with
  | nil => rfl
  | cons machine rest ih =>
    rw [List.map_cons, List.mem_cons, not_or] at absent
    rw [List.foldl_cons, serve_eq, ih absent.2, Inventory.records_adjustRecord, if_neg absent.1]

/-- A machine gets the address at its position. -/
theorem get?_serve_foldl {machines : List Machine} (nodup : (machines.map (·.id)).Nodup)
    {i : Nat} {machine : Machine} (at_i : machines[i]? = some machine) (pool : ManagementPool)
    (inv : Inventory) (r : Report) :
    (machines.foldl serve (pool, inv, r)).2.1.records.get? machine.id =
      (inv.records.get? machine.id).map
        (·.setTapAddress (pool.block.host? (reserved + pool.taken + i))) := by
  induction machines generalizing i pool inv r with
  | nil => simp at at_i
  | cons first rest ih =>
    obtain ⟨absent, nodupRest⟩ := List.nodup_cons.mp nodup
    rw [List.foldl_cons, serve_eq]
    cases i with
    | zero =>
      rw [List.getElem?_cons_zero, Option.some.injEq] at at_i
      subst at_i
      rw [get?_serve_foldl_of_not_mem absent, Inventory.records_adjustRecord, if_pos rfl]
      rfl
    | succ i =>
      rw [List.getElem?_cons_succ] at at_i
      have differ : machine.id ≠ first.id := by
        intro same
        exact absent (List.mem_map.mpr ⟨machine, List.mem_of_getElem? at_i, same⟩)
      have position : reserved + pool.take.2.taken + i = reserved + pool.taken + (i + 1) := by
        simp only [take]
        omega
      rw [ih nodupRest at_i, Inventory.records_adjustRecord, if_neg differ, position]
      rfl

theorem block_serve_foldl (machines : List Machine) (pool : ManagementPool) (inv : Inventory)
    (r : Report) : (machines.foldl serve (pool, inv, r)).1.block = pool.block := by
  induction machines generalizing pool inv r with
  | nil => rfl
  | cons machine rest ih =>
    rw [List.foldl_cons, serve_eq, ih]
    rfl

end ManagementPool

/-- A lab shows of the pool only the block. -/
theorem Lab.ofRecords_congr {pool other : ManagementPool} (same : pool.block = other.block)
    (folder : String) (records : List DeviceRecord) :
    ofRecords pool folder records = ofRecords other folder records := by
  simp only [ofRecords, ManagementPool.tunnelHost, ManagementPool.tunnelMachine, same]

namespace Platform

/-- The machines of a host that compile, in the order in which they are served. -/
def queue (p : Platform) (host : String) (net : Network) : List Machine :=
  sorted Machine.precedes ((p.sound host net).map Selected.machine)

variable {host : String} {net : Network} {settings : Settings} {inv : Inventory}

theorem queue_perm (p : Platform) (host : String) (net : Network) :
    (p.queue host net).Perm ((p.sound host net).map Selected.machine) :=
  sorted_perm _ _

theorem queue_ascending (p : Platform) (host : String) (net : Network) :
    (p.queue host net).Pairwise fun a b => compare a b = .lt :=
  Machine.sorted_ascending (p.machines_nodup host net)

theorem queue_ids_nodup (p : Platform) (host : String) (net : Network) :
    ((p.queue host net).map (·.id)).Nodup := by
  rw [((p.queue_perm host net).map _).nodup_iff, List.map_map]
  exact p.sound_nodup host net

theorem mem_queue {p : Platform} {machine : Machine} :
    machine ∈ p.queue host net ↔ ∃ s ∈ p.sound host net, s.machine = machine := by
  rw [(p.queue_perm host net).mem_iff, List.mem_map]

/-- The devices in the queue are those that compile. -/
theorem mem_queue_ids {p : Platform} {s : Selected} (listed : s ∈ p.roster host net) :
    s.id ∈ (p.queue host net).map (·.id) ↔ s ∈ p.sound host net := by
  rw [((p.queue_perm host net).map _).mem_iff, List.map_map]
  constructor
  · intro queued
    obtain ⟨t, sound, same⟩ := List.mem_map.mp queued
    have equal := List.inj_on_of_nodup_map (p.roster_nodup host net) (mem_sound.mp sound).1 listed
      same
    rwa [← equal]
  · intro sound
    exact List.mem_map.mpr ⟨s, sound, rfl⟩

/-- The machines that are served are those of the queue. -/
theorem serveAll_visitAll (wf : net.WellFormed) (keyed : inv.Keyed) (pool : ManagementPool) :
    pool.serveAll (netkit.visitAll host net settings inv).1
        (netkit.visitAll host net settings inv).2 =
      (netkit.queue host net).foldl ManagementPool.serve
        (pool, netkit.visitAll host net settings inv) := by
  rw [ManagementPool.serveAll, machines_visitAll wf keyed]
  rfl

/-- The machine at a position has in its record the host address two positions on. -/
theorem get?_deploy_of_queue (wf : net.WellFormed) (settings : Settings) (keyed : inv.Keyed)
    {i : Nat} {machine : Machine} (at_i : (netkit.queue host net)[i]? = some machine) :
    (netkit.deploy host net settings inv).1.records.get? machine.id =
      ((netkit.visitAll host net settings inv).1.records.get? machine.id).map
        (·.setTapAddress (settings.managementBlock.host? (i + 2))) := by
  rw [(deploy_netkit host net settings inv).1, serveAll_visitAll wf keyed,
    ManagementPool.get?_serve_foldl (netkit.queue_ids_nodup host net) at_i, Nat.add_comm i]
  rfl

/-- Records of machines that are not served stay as the visits left them. -/
theorem get?_deploy_of_not_queue (wf : net.WellFormed) (settings : Settings) (keyed : inv.Keyed)
    {d : DeviceId} (absent : d ∉ (netkit.queue host net).map (·.id)) :
    (netkit.deploy host net settings inv).1.records.get? d =
      (netkit.visitAll host net settings inv).1.records.get? d := by
  rw [(deploy_netkit host net settings inv).1, serveAll_visitAll wf keyed,
    ManagementPool.get?_serve_foldl_of_not_mem absent]

theorem compiled_visitAll (wf : net.WellFormed) (settings : Settings) (keyed : inv.Keyed) :
    (netkit.visitAll host net settings inv).2.compiled = (netkit.sound host net).map (·.id) :=
  (visitAll_report wf netkit host settings keyed).1

theorem mem_compiled_visitAll_of_queue (wf : net.WellFormed) (settings : Settings)
    (keyed : inv.Keyed) {d : DeviceId} :
    d ∈ (netkit.visitAll host net settings inv).2.compiled ↔
      d ∈ (netkit.queue host net).map (·.id) := by
  rw [compiled_visitAll wf settings keyed, ((netkit.queue_perm host net).map _).mem_iff,
    List.map_map]
  rfl

theorem mem_unserved_of_queue (settings : Settings) {i : Nat} {machine : Machine}
    (at_i : (netkit.queue host net)[i]? = some machine) :
    machine.id ∈ (netkit.unserved host net settings).map (·.id) ↔
      settings.managementBlock.hostCount ≤ i + 2 := by
  have position : ((netkit.queue host net).map (·.id))[i]? = some machine.id := by
    rw [List.getElem?_map, at_i, Option.map_some]
  have dropped : (netkit.unserved host net settings).map (·.id) =
      ((netkit.queue host net).map (·.id)).drop (settings.managementBlock.hostCount - 2) :=
    List.map_drop
  rw [dropped, mem_drop_iff (netkit.queue_ids_nodup host net) position]
  omega

/-- A machine stays compiled exactly if there is an address for its position. -/
theorem mem_compiled_of_queue (wf : net.WellFormed) (settings : Settings) (keyed : inv.Keyed)
    {i : Nat} {machine : Machine} (at_i : (netkit.queue host net)[i]? = some machine) :
    machine.id ∈ (netkit.deploy host net settings inv).2.compiled ↔
      i + 2 < settings.managementBlock.hostCount := by
  have queued : machine.id ∈ (netkit.queue host net).map (·.id) :=
    List.mem_map.mpr ⟨machine, List.mem_of_getElem? at_i, rfl⟩
  rw [(deploy_report_netkit wf keyed).1, List.mem_filter, decide_eq_true_eq,
    mem_unserved_of_queue settings at_i, mem_compiled_visitAll_of_queue wf settings keyed]
  simp only [queued, true_and]
  omega

/-- The devices that are listed as compiled stand in the queue. -/
theorem exists_queue_of_mem_compiled (wf : net.WellFormed) (settings : Settings)
    (keyed : inv.Keyed) {d : DeviceId}
    (compiled : d ∈ (netkit.deploy host net settings inv).2.compiled) :
    ∃ (i : Nat) (machine : Machine), (netkit.queue host net)[i]? = some machine ∧
      machine.id = d ∧ i + 2 < settings.managementBlock.hostCount := by
  have visited := compiled
  rw [(deploy_report_netkit wf keyed).1] at visited
  obtain ⟨machine, queued, rfl⟩ := List.mem_map.mp
    ((mem_compiled_visitAll_of_queue wf settings keyed).mp (List.mem_of_mem_filter visited))
  obtain ⟨i, at_i⟩ := List.mem_iff_getElem?.mp queued
  exact ⟨i, machine, at_i, rfl, (mem_compiled_of_queue wf settings keyed at_i).mp compiled⟩

/-- The lab of a host shows the records of the devices that are listed as compiled. -/
theorem labs_deploy_netkit (wf : net.WellFormed) (settings : Settings) (keyed : inv.Keyed) :
    (netkit.deploy host net settings inv).1.labs.get? host =
      some (.ofRecords (.ofBlock settings.managementBlock)
        (netkit.folder settings.outputRoot host inv.timestamp)
        ((netkit.deploy host net settings inv).2.compiled.filterMap
          (netkit.deploy host net settings inv).1.records.get?)) := by
  have time := netkit.timestamp_deploy host net settings inv
  rw [deploy_netkit_eq, raiseLab_eq, serveAll_visitAll wf keyed] at time ⊢
  simp only [Inventory.setLab] at time ⊢
  rw [SortedMap.get?_insert_self, time]
  exact congrArg some (Lab.ofRecords_congr (ManagementPool.block_serve_foldl ..) _ _)

end Platform

end NetDesign
