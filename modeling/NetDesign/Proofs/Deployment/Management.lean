import NetDesign.Proofs.Address
import NetDesign.Proofs.Deployment.Course
import NetDesign.Proofs.Deployment.Queue

set_option autoImplicit false

namespace NetDesign

namespace Inventory

def tap? (inv : Inventory) (d : DeviceId) : Option TapInterface :=
  (inv.records.get? d).bind (·.tap)

def managementAddress? (inv : Inventory) (d : DeviceId) : Option Address :=
  (inv.tap? d).bind (·.address)

/-- The addresses of a block are given to a queue of machines in its order. -/
structure Manages (left : Inventory) (block : Net) (queue : List Machine) (report : Report)
    (lab : Lab) : Prop where
  /-- Machines queue up by hostname, and by number where hostnames are the same. -/
  ordered : queue.Pairwise fun a b =>
    a.hostname < b.hostname ∨ a.hostname = b.hostname ∧ a.id.index < b.id.index
  named : ∀ machine ∈ queue, ∃ record,
    left.records.get? machine.id = some record ∧ record.hostname = machine.hostname
  /-- The first two host addresses belong to the tunnel. -/
  tunnel : lab.tunnelHost = block.host? 0 ∧ lab.tunnelMachine = block.host? 1
  /-- The machine at a position has the host address two positions on. -/
  held : ∀ i machine, queue[i]? = some machine →
    ∃ name, left.tap? machine.id = some ⟨name, block.host? (i + 2)⟩
  /-- As long as there is one the machine is listed as compiled. -/
  served : ∀ i machine address, queue[i]? = some machine → block.host? (i + 2) = some address →
    machine.id ∈ report.compiled ∧ ∀ f ∈ report.failed, f.device ≠ machine.id
  /-- From the first machine without an address on all are listed as failed. -/
  late : ∀ (i j : Nat) machine, block.host? (i + 2) = none → i ≤ j → queue[j]? = some machine →
    ⟨machine.id, machine.hostname, .allocation, .managementExhausted⟩ ∈ report.failed ∧
      machine.id ∉ report.compiled
  ascending : ∀ (i j : Nat) (first second : Machine) a b, i < j → queue[i]? = some first →
    queue[j]? = some second → left.managementAddress? first.id = some a →
    left.managementAddress? second.id = some b → a.value < b.value
  apart : ∀ machine ∈ queue, ∀ a, left.managementAddress? machine.id = some a →
    lab.tunnelHost ≠ some a ∧ lab.tunnelMachine ≠ some a
  /-- No address is left over when a machine fails for lack of one. -/
  used : (∃ f ∈ report.failed, f.cause = .managementExhausted) → ∀ a, block.IsHost a →
    lab.tunnelHost = some a ∨ lab.tunnelMachine = some a ∨
      ∃ d ∈ report.compiled, left.managementAddress? d = some a
  precede : ∀ d ∈ report.compiled, ∀ f ∈ report.failed, f.cause = .managementExhausted →
    ∃ (i j : Nat) (first second : Machine), i < j ∧ queue[i]? = some first ∧
      queue[j]? = some second ∧ first.id = d ∧ second.id = f.device
  /-- Whatever the reason, a machine that failed has a management interface without an address. -/
  addressless : ∀ f ∈ report.failed, ∃ name, left.tap? f.device = some ⟨name, none⟩

end Inventory

namespace Platform

variable {host : String} {net : Network} {settings : Settings} {inv : Inventory}

/-- A machine in the queue keeps the name of its management interface. -/
theorem tap?_deploy_of_served (wf : net.WellFormed) (settings : Settings) (keyed : inv.Keyed)
    {i : Nat} {machine : Machine} (at_i : (netkit.queue host net)[i]? = some machine) :
    (netkit.deploy host net settings inv).1.tap? machine.id =
      some ⟨Scheme.netkit.name (net.linksOf machine.id).length,
        settings.managementBlock.host? (i + 2)⟩ := by
  obtain ⟨s, sound, rfl⟩ := mem_queue.mp (List.mem_of_getElem? at_i)
  have listed := (mem_sound.mp sound).1
  have tap := outcome_tap listed settings keyed
  have visited := get?_visitAll_of_mem listed settings inv
  rw [Inventory.tap?, get?_deploy_of_queue wf settings keyed at_i, Selected.machine, visited]
  simp only [Option.map_some, Option.bind_some, DeviceRecord.setTapAddress, tap]

theorem tap?_deploy_of_queue (wf : net.WellFormed) (settings : Settings) (keyed : inv.Keyed)
    {i : Nat} {machine : Machine} (at_i : (netkit.queue host net)[i]? = some machine) :
    ∃ name, (netkit.deploy host net settings inv).1.tap? machine.id =
      some ⟨name, settings.managementBlock.host? (i + 2)⟩ :=
  ⟨_, tap?_deploy_of_served wf settings keyed at_i⟩

theorem hostname_deploy_of_queue (wf : net.WellFormed) (settings : Settings) (keyed : inv.Keyed)
    {machine : Machine} (queued : machine ∈ netkit.queue host net) :
    ∃ record, (netkit.deploy host net settings inv).1.records.get? machine.id = some record ∧
      record.hostname = machine.hostname := by
  obtain ⟨i, at_i⟩ := List.mem_iff_getElem?.mp queued
  obtain ⟨s, sound, rfl⟩ := mem_queue.mp queued
  obtain ⟨listed, healthy⟩ := mem_sound.mp sound
  have compiled : (netkit.outcome host net settings inv s).failure = none := by
    rw [outcome_failure wf settings listed keyed, healthy]
    rfl
  have left := get?_deploy_of_queue wf settings keyed at_i
  rw [Selected.machine, get?_visitAll_of_mem listed settings inv, Option.map_some] at left
  exact ⟨_, left, (outcome_configured wf listed keyed compiled).hostname⟩

/-- A device that is listed as failed was not compiled, or stands in the queue too far behind. -/
theorem of_mem_failed (wf : net.WellFormed) (keyed : inv.Keyed) {f : Failure}
    (failed : f ∈ (netkit.deploy host net settings inv).2.failed) :
    (∃ s ∈ netkit.roster host net, s.id = f.device ∧ s ∉ netkit.sound host net ∧
      f.cause ≠ .managementExhausted) ∨
    ∃ i machine, (netkit.queue host net)[i]? = some machine ∧
      settings.managementBlock.hostCount ≤ i + 2 ∧ f = machine.unserved := by
  rw [(deploy_report_netkit wf keyed).2,
    (visitAll_report wf netkit host settings keyed).2] at failed
  rcases List.mem_append.mp failed with early | late
  · obtain ⟨s, listed, said⟩ := List.mem_filterMap.mp early
    obtain ⟨⟨step, cause⟩, fault, rfl⟩ := Option.map_eq_some_iff.mp said
    refine .inl ⟨s, listed, rfl, fun sound => ?_, deviceFault?_ne_managementExhausted fault⟩
    rw [(mem_sound.mp sound).2] at fault
    cases fault
  · obtain ⟨machine, short, rfl⟩ := List.mem_map.mp late
    obtain ⟨i, at_i⟩ := List.mem_iff_getElem?.mp (List.mem_of_mem_drop short)
    refine .inr ⟨i, machine, at_i, ?_, rfl⟩
    rw [← mem_unserved_of_queue settings at_i]
    exact List.mem_map.mpr ⟨machine, short, rfl⟩

/-- A machine for whose position there is no address is listed as failed. -/
theorem mem_failed_of_queue (wf : net.WellFormed) (settings : Settings) (keyed : inv.Keyed)
    {i : Nat} {machine : Machine} (at_i : (netkit.queue host net)[i]? = some machine)
    (late : settings.managementBlock.hostCount ≤ i + 2) :
    machine.unserved ∈ (netkit.deploy host net settings inv).2.failed := by
  rw [(deploy_report_netkit wf keyed).2]
  refine List.mem_append_right _ (List.mem_map.mpr ⟨machine, ?_, rfl⟩)
  have nodup := List.Nodup.of_map _ (netkit.queue_ids_nodup host net)
  rw [unserved, ← queue, mem_drop_iff nodup at_i]
  omega

theorem managementAddress?_of_queue (wf : net.WellFormed) (settings : Settings) (keyed : inv.Keyed)
    {i : Nat} {machine : Machine} (at_i : (netkit.queue host net)[i]? = some machine) :
    (netkit.deploy host net settings inv).1.managementAddress? machine.id =
      settings.managementBlock.host? (i + 2) := by
  obtain ⟨name, tap⟩ := tap?_deploy_of_queue wf settings keyed at_i
  rw [Inventory.managementAddress?, tap, Option.bind_some]

/-- A machine that is not served keeps the management interface that its compilation gave it. -/
theorem tap?_deploy_of_not_sound (wf : net.WellFormed) (settings : Settings) (keyed : inv.Keyed)
    {s : Selected} (listed : s ∈ netkit.roster host net) (faulty : s ∉ netkit.sound host net) :
    ∃ name, (netkit.deploy host net settings inv).1.tap? s.id = some ⟨name, none⟩ := by
  have absent : s.id ∉ (netkit.queue host net).map (·.id) :=
    fun queued => faulty ((mem_queue_ids listed).mp queued)
  refine ⟨Scheme.netkit.name (net.linksOf s.id).length, ?_⟩
  rw [Inventory.tap?, get?_deploy_of_not_queue wf settings keyed absent,
    get?_visitAll_of_mem listed settings inv, Option.bind_some, outcome_tap listed settings keyed]

theorem mem_queue_iff_visited (wf : net.WellFormed) (settings : Settings) (keyed : inv.Keyed)
    {machine : Machine} :
    machine ∈ netkit.queue host net ↔ ∃ s ∈ netkit.roster host net, s.machine = machine ∧
      s.id ∈ (netkit.visitAll host net settings inv).2.compiled := by
  simp only [mem_compiled_visitAll_of_queue wf settings keyed]
  constructor
  · intro queued
    obtain ⟨s, sound, rfl⟩ := mem_queue.mp queued
    have listed := (mem_sound.mp sound).1
    exact ⟨s, listed, rfl, (mem_queue_ids listed).mpr sound⟩
  · rintro ⟨s, listed, rfl, queued⟩
    exact mem_queue.mpr ⟨s, (mem_queue_ids listed).mp queued, rfl⟩

theorem not_mem_compiled_of_failed (wf : net.WellFormed) (keyed : inv.Keyed) {f : Failure}
    (failed : f ∈ (netkit.deploy host net settings inv).2.failed) :
    f.device ∉ (netkit.deploy host net settings inv).2.compiled := by
  intro listed
  rcases of_mem_failed wf keyed failed with
    ⟨s, selected, same, faulty, -⟩ | ⟨i, machine, at_i, late, rfl⟩
  · obtain ⟨i, machine, at_i, own, -⟩ := exists_queue_of_mem_compiled wf settings keyed listed
    have queued : s.id ∈ (netkit.queue host net).map (·.id) :=
      List.mem_map.mpr ⟨machine, List.mem_of_getElem? at_i, own.trans same.symm⟩
    exact faulty ((mem_queue_ids selected).mp queued)
  · have inside := (mem_compiled_of_queue wf settings keyed at_i).mp listed
    omega

/-- A machine that fails for lack of an address stands in the queue behind all addresses. -/
theorem exists_queue_of_exhausted (wf : net.WellFormed) (keyed : inv.Keyed) {f : Failure}
    (failed : f ∈ (netkit.deploy host net settings inv).2.failed)
    (exhausted : f.cause = .managementExhausted) :
    ∃ (j : Nat) (machine : Machine), (netkit.queue host net)[j]? = some machine ∧
      machine.id = f.device ∧ settings.managementBlock.hostCount ≤ j + 2 := by
  rcases of_mem_failed wf keyed failed with
    ⟨s, -, -, -, other⟩ | ⟨j, machine, at_j, late, rfl⟩
  · exact absurd exhausted other
  · exact ⟨j, machine, at_j, rfl, late⟩

/-- If the queue reaches beyond the addresses then each of those that are not the tunnel's is held
by a machine that is listed as compiled. -/
theorem exists_holder (wf : net.WellFormed) (settings : Settings) (keyed : inv.Keyed) {j : Nat}
    {last : Machine} (at_j : (netkit.queue host net)[j]? = some last)
    (late : settings.managementBlock.hostCount ≤ j + 2) {a : Address} {i : Nat}
    (given : settings.managementBlock.host? (i + 2) = some a) :
    ∃ d ∈ (netkit.deploy host net settings inv).2.compiled,
      (netkit.deploy host net settings inv).1.managementAddress? d = some a := by
  have inside := (Net.host?_eq_some_iff.mp given).1
  have longer := (List.getElem?_eq_some_iff.mp at_j).1
  have within : i < (netkit.queue host net).length := by omega
  have at_i := List.getElem?_eq_getElem within
  refine ⟨_, (mem_compiled_of_queue wf settings keyed at_i).mpr inside, ?_⟩
  rw [managementAddress?_of_queue wf settings keyed at_i, given]

/-- The machines of a host that compiled are given the host addresses of the block in the order of
their hostnames and numbers, and those for which none is left fail. -/
theorem deploy_manages {net : Network} (reachable : net.Reachable) (host : String)
    (settings : Settings) {inv : Inventory} (keyed : inv.Keyed) :
    let left := (netkit.deploy host net settings inv).1
    let report := (netkit.deploy host net settings inv).2
    (∀ machine, machine ∈ netkit.queue host net ↔
      ∃ s ∈ netkit.roster host net, s.machine = machine ∧
        s.id ∈ (netkit.visitAll host net settings inv).2.compiled) ∧
    ∃ lab, left.labs.get? host = some lab ∧
      left.Manages settings.managementBlock (netkit.queue host net) report lab := by
  intro left report
  have wf := reachable.wellFormed
  refine ⟨fun machine => mem_queue_iff_visited wf settings keyed, _,
    labs_deploy_netkit wf settings keyed, ?_⟩
  refine
    { ordered := (netkit.queue_ascending host net).imp Machine.compare_eq_lt.mp
      named := fun machine queued => hostname_deploy_of_queue wf settings keyed queued
      tunnel := ⟨rfl, rfl⟩
      held := fun i machine at_i => tap?_deploy_of_queue wf settings keyed at_i
      served := ?served
      late := ?late
      ascending := ?ascending
      apart := ?apart
      used := ?used
      precede := ?precede
      addressless := ?addressless }
  case served =>
    intro i machine a at_i given
    have inside := (Net.host?_eq_some_iff.mp given).1
    have listed := (mem_compiled_of_queue wf settings keyed at_i).mpr inside
    refine ⟨listed, fun f failed same => not_mem_compiled_of_failed wf keyed failed ?_⟩
    rw [same]
    exact listed
  case late =>
    intro i j machine refused before at_j
    have full := Net.host?_eq_none_iff.mp refused
    refine ⟨mem_failed_of_queue wf settings keyed at_j (by omega), fun listed => ?_⟩
    have inside := (mem_compiled_of_queue wf settings keyed at_j).mp listed
    omega
  case ascending =>
    intro i j first second a b before at_i at_j held heldNext
    rw [managementAddress?_of_queue wf settings keyed at_i] at held
    rw [managementAddress?_of_queue wf settings keyed at_j] at heldNext
    exact Net.value_lt_of_host? held heldNext (by omega)
  case apart =>
    intro machine queued a held
    obtain ⟨i, at_i⟩ := List.mem_iff_getElem?.mp queued
    rw [managementAddress?_of_queue wf settings keyed at_i] at held
    have above : ∀ k < 2, settings.managementBlock.host? k ≠ some a := by
      intro k low same
      have lower := Net.value_lt_of_host? same held (by omega)
      omega
    exact ⟨above 0 (by omega), above 1 (by omega)⟩
  case used =>
    rintro ⟨f, failed, exhausted⟩ a isHost
    obtain ⟨j, last, at_j, -, full⟩ := exists_queue_of_exhausted wf keyed failed exhausted
    obtain ⟨k, given⟩ := Net.exists_host?_iff.mpr isHost
    match k with
    | 0 => exact .inl given
    | 1 => exact .inr (.inl given)
    | i + 2 => exact .inr (.inr (exists_holder wf settings keyed at_j full given))
  case precede =>
    intro d listed f failed exhausted
    obtain ⟨i, first, at_i, own, inside⟩ := exists_queue_of_mem_compiled wf settings keyed listed
    obtain ⟨j, second, at_j, ownSecond, full⟩ := exists_queue_of_exhausted wf keyed failed exhausted
    exact ⟨i, j, first, second, by omega, at_i, at_j, own, ownSecond⟩
  case addressless =>
    intro f failed
    rcases of_mem_failed wf keyed failed with
      ⟨s, listed, same, faulty, -⟩ | ⟨i, machine, at_i, full, rfl⟩
    · rw [← same]
      exact tap?_deploy_of_not_sound wf settings keyed listed faulty
    · obtain ⟨name, tap⟩ := tap?_deploy_of_queue wf settings keyed at_i
      rw [Net.host?_eq_none_iff.mpr full] at tap
      exact ⟨name, tap⟩

def fiveMachines : Network :=
  Network.empty.after
    ((["e", "d", "c", "b", "a"].map fun name => .addDevice (Network.twoSystemsRouter name 1)) ++
      (List.range 5).map fun n => .setLoopback ⟨n⟩ (some ⟨9⟩))

def fourAddresses : Settings :=
  { Settings.standard with
    managementBlock := (Net.ofText? "10.0.0.0/29").getD Settings.standard.managementBlock }

/-- The machine with the last hostname fails, though it has the first number. -/
theorem fiveMachines_managed :
    let left := netkit.deploy "lab" fiveMachines fourAddresses (.empty "0")
    fiveMachines.Reachable ∧ (Inventory.empty "0").Keyed ∧
      (∃ name, left.1.tap? ⟨4⟩ = some ⟨name, some (.ofOctets 10 0 0 3)⟩) ∧
      (∃ name, left.1.tap? ⟨1⟩ = some ⟨name, some (.ofOctets 10 0 0 6)⟩) ∧
      ⟨⟨0⟩, "e", .allocation, .managementExhausted⟩ ∈ left.2.failed := by
  intro left
  have reachable : fiveMachines.Reachable := ⟨_, rfl⟩
  have keyed := Inventory.empty_keyed "0"
  obtain ⟨-, lab, -, manages⟩ := deploy_manages reachable "lab" fourAddresses keyed
  have queue : netkit.queue "lab" fiveMachines =
      [⟨"a", ⟨4⟩⟩, ⟨"b", ⟨3⟩⟩, ⟨"c", ⟨2⟩⟩, ⟨"d", ⟨1⟩⟩, ⟨"e", ⟨0⟩⟩] := by decide +kernel
  rw [queue] at manages
  have lowest : fourAddresses.managementBlock.host? 2 = some (.ofOctets 10 0 0 3) := by decide +kernel
  have highest : fourAddresses.managementBlock.host? 5 = some (.ofOctets 10 0 0 6) := by decide +kernel
  have used : fourAddresses.managementBlock.host? 6 = none := by decide +kernel
  have first := manages.held 0 ⟨"a", ⟨4⟩⟩ rfl
  have last := manages.held 3 ⟨"d", ⟨1⟩⟩ rfl
  have refused := manages.late 4 4 ⟨"e", ⟨0⟩⟩ used (Nat.le_refl 4) rfl
  rw [lowest] at first
  rw [highest] at last
  exact ⟨reachable, keyed, first, last, refused.1⟩

end Platform

end NetDesign
