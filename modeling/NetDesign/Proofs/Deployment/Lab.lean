import NetDesign.Proofs.Address
import NetDesign.Proofs.Deployment.Management
import NetDesign.Proofs.Deployment.Wires

set_option autoImplicit false

namespace NetDesign

namespace Wire

/-- Wires are ordered by the hostname and the number of the machine, then by their own numbers. -/
def Precedes (v w : Wire) : Prop :=
  v.machine.hostname < w.machine.hostname ∨
  v.machine.hostname = w.machine.hostname ∧ v.machine.id.index < w.machine.id.index ∨
  v.machine = w.machine ∧ v.number < w.number

/-- The wire is that of an interface of the record: it has the number in the name of the interface,
and its block. -/
structure Of (w : Wire) (net : Network) (record : DeviceRecord) : Prop where
  machine : w.machine = record.machine
  interface : ∃ i, record.interfaceOn? w.link = some i ∧ i.name = "eth" ++ w.number.repr ∧
    i.subnet = w.subnet ∧ net.addressing? record.id w.link = some (i.subnet, i.address)

end Wire

namespace Lab

/-- The lab is told of the given wires, which are those of the interfaces of the records. -/
structure WiredBy (lab : Lab) (wires : List Wire) (net : Network) (records : List DeviceRecord) :
    Prop where
  bindings : lab.bindings = wires.map Wire.binding
  ordered : wires.Pairwise Wire.Precedes
  /-- Each record has one wire for each of its addressed links. -/
  links : (wires.map fun w => (w.machine.id, w.link)).Perm
    (records.flatMap fun record => (net.addressedLinks record.id).map (record.id, ·))
  interfaces : ∀ w ∈ wires, ∃ record ∈ records, w.Of net record
  /-- The name of a domain tells the block. -/
  domains : ∀ v ∈ wires, ∀ w ∈ wires, v.binding.domain = w.binding.domain ↔ v.subnet = w.subnet

/-- The lab shows the machines of the given records, with their management interfaces and their
wires. -/
structure Shows (lab : Lab) (net : Network) (records : List DeviceRecord) : Prop where
  machines : lab.machines.Perm (records.map (·.hostname))
  ascending : lab.machines.Pairwise fun a b => a ≤ b
  /-- In the order of the machines each record has its management interface. -/
  taps : ∃ served : List DeviceRecord, served.Perm records ∧
    lab.machines = served.map (·.hostname) ∧
    lab.taps.map (fun t => (t.machine, some (TapInterface.mk t.name (some t.address)))) =
      served.map fun record => (record.hostname, record.tap)
  addresses : lab.taps.Pairwise fun a b => a.address.value < b.address.value
  wires : ∃ wires, lab.WiredBy wires net records

variable {net : Network} {records : List DeviceRecord}

/-- The records in the order in which their machines are served. -/
def served (records : List DeviceRecord) : List DeviceRecord :=
  sorted (fun a b => a.machine.precedes b.machine) records

theorem served_perm (records : List DeviceRecord) : (served records).Perm records :=
  sorted_perm _ records

theorem served_ascending (ids : records.Pairwise fun a b => a.id.index < b.id.index) :
    (served records).Pairwise fun a b => compare a.machine b.machine = .lt := by
  have distinct : (records.map (·.machine)).Nodup := List.pairwise_map.mpr <| ids.imp
    fun lower same => by
      have equal : _ = _ := congrArg (fun machine : Machine => machine.id.index) same
      exact absurd equal (Nat.ne_of_lt lower)
  have ascending := Machine.sorted_ascending distinct
  rwa [sorted_map, List.pairwise_map] at ascending

theorem decide_le_trans (a b c : String) (first : decide (a ≤ b)) (second : decide (b ≤ c)) :
    decide (a ≤ c) :=
  decide_eq_true (String.le_trans (of_decide_eq_true first) (of_decide_eq_true second))

theorem decide_le_total (a b : String) : decide (a ≤ b) ∨ decide (b ≤ a) :=
  (String.le_total a b).imp decide_eq_true decide_eq_true

theorem sorted_hostnames (ids : records.Pairwise fun a b => a.id.index < b.id.index) :
    sorted (fun a b => a ≤ b) (records.map (·.hostname)) =
      (served records).map (·.hostname) := by
  have ascending : ((served records).map (·.hostname)).Pairwise fun a b => decide (a ≤ b) := by
    refine List.pairwise_map.mpr ((served_ascending ids).imp fun {a b} lower => ?_)
    rcases Machine.compare_eq_lt.mp lower with below | ⟨same, -⟩
    · exact decide_eq_true (Std.le_of_lt below)
    · exact decide_eq_true (Std.le_of_eq same)
  refine List.Perm.eq_of_pairwise (fun a b _ _ lower upper => ?_)
    (pairwise_sorted _ decide_le_trans decide_le_total _) ascending
    ((sorted_perm _ _).trans ((served_perm records).map _).symm)
  exact String.le_antisymm (of_decide_eq_true lower) (of_decide_eq_true upper)

/-- Every record has a management interface with an address, and the addresses ascend with the
machines. -/
structure Addresses (records : List DeviceRecord) : Prop where
  given : ∀ record ∈ records, ∃ name address, record.tap = some ⟨name, some address⟩
  ascending : ∀ first ∈ records, ∀ second ∈ records, compare first.machine second.machine = .lt →
    ∀ one other, first.labTap? = some one → second.labTap? = some other →
      one.address.value < other.address.value

theorem served_taps_ascending (ids : records.Pairwise fun a b => a.id.index < b.id.index)
    (addresses : Addresses records) :
    ((served records).filterMap (·.labTap?)).Pairwise fun a b =>
      a.address.value < b.address.value := by
  rw [List.pairwise_filterMap]
  refine (served_ascending ids).imp_of_mem fun {a b} first second lower one given other held => ?_
  exact addresses.ascending a ((served_perm records).mem_iff.mp first) b
    ((served_perm records).mem_iff.mp second) lower one other given held

theorem sorted_taps (ids : records.Pairwise fun a b => a.id.index < b.id.index)
    (addresses : Addresses records) :
    sorted (fun a b => (compare a.address b.address).isLE) (records.filterMap (·.labTap?)) =
      (served records).filterMap (·.labTap?) := by
  refine sorted_eq_of_perm _ (fun _ _ _ => Std.TransCmp.isLE_trans)
    (fun _ _ => isLE_or_isLE _ _) ((served_perm records).filterMap _).symm
    ((served_taps_ascending ids addresses).imp fun {a b} lower => ?_)
  have before := Address.compare_eq_lt.mpr lower
  have behind := Std.OrientedCmp.gt_iff_lt.mpr before
  simp [before, behind]

theorem map_served_taps (addresses : Addresses records) :
    ((served records).filterMap (·.labTap?)).map
        (fun t => (t.machine, some (TapInterface.mk t.name (some t.address)))) =
      (served records).map fun record => (record.hostname, record.tap) := by
  rw [List.map_filterMap, ← List.filterMap_eq_map]
  refine List.filterMap_congr fun record mem => ?_
  obtain ⟨name, address, tap⟩ := addresses.given record ((served_perm records).mem_iff.mp mem)
  simp [DeviceRecord.labTap?, tap]

/-- The wires of all machines, in the order in which the lab has them. -/
def wires (records : List DeviceRecord) : List Wire :=
  sorted (fun v w => decide (v.machine.hostname ≤ w.machine.hostname))
    (records.flatMap (·.wires))

theorem mem_wires {w : Wire} : w ∈ wires records ↔ ∃ record ∈ records, w ∈ record.wires := by
  rw [wires, (sorted_perm _ _).mem_iff, List.mem_flatMap]

theorem machine_of_mem_wires {record : DeviceRecord} {w : Wire} (mem : w ∈ record.wires) :
    w.machine = record.machine := by
  obtain ⟨i, -, l, id, -, -, rfl⟩ := DeviceRecord.mem_wires.mp mem
  rfl

theorem sorted_bindings (wired : ∀ record ∈ records, record.Wired .quagga .netkit net) :
    sorted (fun a b => a.machine ≤ b.machine) (records.flatMap (·.labBindings)) =
      (wires records).map Wire.binding := by
  have bindings : records.flatMap (·.labBindings) =
      (records.flatMap (·.wires)).map Wire.binding := by
    rw [List.map_flatMap]
    exact List.flatMap_congr fun record mem => (wired record mem).labBindings_eq
  rw [bindings, sorted_map]
  rfl

theorem wires_ordered (ids : records.Pairwise fun a b => a.id.index < b.id.index)
    (wired : ∀ record ∈ records, record.Wired .quagga .netkit net) :
    (wires records).Pairwise Wire.Precedes := by
  -- the order of the records and of the wires of each, which the sorting keeps where hostnames tie
  have ordered : (records.flatMap (·.wires)).Pairwise fun v w =>
      v.machine.id.index < w.machine.id.index ∨ v.machine = w.machine ∧ v.number < w.number := by
    rw [List.pairwise_flatMap]
    constructor
    · intro record mem
      refine (wired record mem).wires_ascending.imp_of_mem fun {v w} first second lower => ?_
      rw [machine_of_mem_wires first, machine_of_mem_wires second]
      exact .inr ⟨rfl, lower⟩
    · refine ids.imp fun lower v first w second => ?_
      rw [machine_of_mem_wires first, machine_of_mem_wires second]
      exact .inl lower
  have trans : ∀ u v w : Wire, decide (u.machine.hostname ≤ v.machine.hostname) →
      decide (v.machine.hostname ≤ w.machine.hostname) →
      decide (u.machine.hostname ≤ w.machine.hostname) := fun _ _ _ => decide_le_trans _ _ _
  refine (pairwise_sorted_of_pairwise _ trans (fun _ _ => decide_le_total _ _) ordered).imp
    fun {v w} both => ?_
  obtain ⟨lower, behind⟩ := both
  by_cases upper : w.machine.hostname ≤ v.machine.hostname
  · have same := String.le_antisymm (of_decide_eq_true lower) upper
    exact .inr ((behind (decide_eq_true upper)).imp_left fun before => ⟨same, before⟩)
  · exact .inl (String.not_le.mp upper)

theorem links_of_wires (wired : ∀ record ∈ records, record.Wired .quagga .netkit net) :
    ((wires records).map fun w => (w.machine.id, w.link)).Perm
      (records.flatMap fun record => (net.addressedLinks record.id).map (record.id, ·)) := by
  refine ((sorted_perm _ _).map _).trans (.of_eq ?_)
  rw [List.map_flatMap]
  refine List.flatMap_congr fun record mem => ?_
  rw [← (wired record mem).links_of_wires, List.map_map]
  refine List.map_congr_left fun w own => ?_
  rw [machine_of_mem_wires own]
  rfl

theorem of_mem_wires (wired : ∀ record ∈ records, record.Wired .quagga .netkit net) {w : Wire}
    (mem : w ∈ wires records) : ∃ record ∈ records, w.Of net record := by
  obtain ⟨record, listed, own⟩ := mem_wires.mp mem
  obtain ⟨i, found, name, block, addressing⟩ := (wired record listed).interface_of_mem_wires own
  exact ⟨record, listed, machine_of_mem_wires own, i, found, name, block, addressing⟩

/-- A lab that is drawn up from records shows them. -/
theorem ofRecords_shows (pool : ManagementPool) (folder : String)
    (ids : records.Pairwise fun a b => a.id.index < b.id.index)
    (wired : ∀ record ∈ records, record.Wired .quagga .netkit net)
    (addresses : Addresses records) : (ofRecords pool folder records).Shows net records where
  machines := sorted_perm _ _
  ascending := (pairwise_sorted _ decide_le_trans decide_le_total _).imp of_decide_eq_true
  taps := by
    refine ⟨served records, served_perm records, sorted_hostnames ids, ?_⟩
    rw [ofRecords, sorted_taps ids addresses]
    exact map_served_taps addresses
  addresses := by
    rw [ofRecords, sorted_taps ids addresses]
    exact served_taps_ascending ids addresses
  wires := ⟨wires records,
    { bindings := sorted_bindings wired
      ordered := wires_ordered ids wired
      links := links_of_wires wired
      interfaces := fun _ mem => of_mem_wires wired mem
      domains := fun _ _ _ _ => ⟨Net.domainName_injective, congrArg Net.domainName⟩ }⟩

end Lab

namespace Inventory.Keyed

variable {inv : Inventory} (keyed : inv.Keyed)
include keyed

theorem get?_id {d : DeviceId} {record : DeviceRecord} (held : inv.records.get? d = some record) :
    inv.records.get? record.id = some record := by
  rwa [keyed d record held]

theorem map_id_records {ids : List DeviceId}
    (held : ∀ d ∈ ids, ∃ record, inv.records.get? d = some record) :
    (ids.filterMap inv.records.get?).map (·.id) = ids := by
  rw [List.map_filterMap]
  refine (List.filterMap_congr fun d mem => ?_).trans List.filterMap_some
  obtain ⟨record, found⟩ := held d mem
  rw [found, Option.map_some, keyed d record found]

end Inventory.Keyed

namespace Platform

variable {host : String} {net : Network} {settings : Settings} {inv : Inventory}

/-- The devices that are listed as compiled ascend. -/
theorem compiled_ascending (wf : net.WellFormed) (host : String) (settings : Settings)
    (keyed : inv.Keyed) :
    (netkit.deploy host net settings inv).2.compiled.Pairwise fun d e => d.index < e.index := by
  have roster : (netkit.roster host net).Pairwise fun s t => s.id.index < t.id.index := by
    rw [roster, profiles, List.flatMap_singleton, List.pairwise_map]
    exact net.selection_ascending host netkit .quagga
  rw [deploy_compiled wf netkit host settings keyed, List.pairwise_map]
  exact roster.filter _

/-- A machine that is listed as compiled stands in the queue with its hostname, and has the address
for its position. -/
theorem exists_queue_of_record (wf : net.WellFormed) (keyed : inv.Keyed) {record : DeviceRecord}
    (compiled : record.id ∈ (netkit.deploy host net settings inv).2.compiled)
    (held : (netkit.deploy host net settings inv).1.records.get? record.id = some record) :
    ∃ i name address, (netkit.queue host net)[i]? = some record.machine ∧
      record.tap = some ⟨name, some address⟩ ∧
      settings.managementBlock.host? (i + 2) = some address := by
  obtain ⟨i, machine, at_i, own, inside⟩ := exists_queue_of_mem_compiled wf settings keyed compiled
  obtain ⟨name, tap⟩ := tap?_deploy_of_queue wf settings keyed at_i
  obtain ⟨other, found, hostname⟩ :=
    hostname_deploy_of_queue wf settings keyed (List.mem_of_getElem? at_i)
  rw [own, held, Option.some.injEq] at found
  rw [own, Inventory.tap?, held, Option.bind_some] at tap
  cases given : settings.managementBlock.host? (i + 2) with
  | none =>
    have full := Net.host?_eq_none_iff.mp given
    omega
  | some address =>
    have same : machine = record.machine := by
      cases machine
      simp_all [DeviceRecord.machine]
    exact ⟨i, name, address, same ▸ at_i, given ▸ tap, given⟩

/-- A machine that precedes another one stands before it in the queue. -/
theorem lt_of_queue {i j : Nat} {a b : Machine} (at_i : (netkit.queue host net)[i]? = some a)
    (at_j : (netkit.queue host net)[j]? = some b) (lower : compare a b = .lt) : i < j := by
  obtain ⟨inside, rfl⟩ := List.getElem?_eq_some_iff.mp at_i
  obtain ⟨insideOther, rfl⟩ := List.getElem?_eq_some_iff.mp at_j
  have ascending := List.pairwise_iff_getElem.mp (netkit.queue_ascending host net)
  rcases Nat.lt_trichotomy i j with before | rfl | behind
  · exact before
  · rw [Std.ReflOrd.compare_self] at lower
    cases lower
  · have upper := ascending j i insideOther inside behind
    rw [Std.OrientedCmp.gt_iff_lt.mpr lower] at upper
    cases upper

theorem addresses_of_compiled (wf : net.WellFormed) (keyed : inv.Keyed)
    {records : List DeviceRecord}
    (compiled : ∀ record ∈ records,
      record.id ∈ (netkit.deploy host net settings inv).2.compiled ∧
        (netkit.deploy host net settings inv).1.records.get? record.id = some record) :
    Lab.Addresses records where
  given record mem := by
    obtain ⟨listed, held⟩ := compiled record mem
    obtain ⟨-, name, address, -, tap, -⟩ := exists_queue_of_record wf keyed listed held
    exact ⟨name, address, tap⟩
  ascending first mem second memOther lower one other shown shownOther := by
    obtain ⟨listed, held⟩ := compiled first mem
    obtain ⟨listedOther, heldOther⟩ := compiled second memOther
    obtain ⟨i, name, a, at_i, tap, given⟩ := exists_queue_of_record wf keyed listed held
    obtain ⟨j, nameOther, b, at_j, tapOther, givenOther⟩ :=
      exists_queue_of_record wf keyed listedOther heldOther
    have before := lt_of_queue at_i at_j lower
    simp only [DeviceRecord.labTap?, tap, tapOther, Option.bind_some, Option.map_some,
      Option.some.injEq] at shown shownOther
    subst shown
    subst shownOther
    exact Net.value_lt_of_host? given givenOther (by omega)

theorem wired_of_compiled (wf : net.WellFormed) (keyed : inv.Keyed) {record : DeviceRecord}
    (compiled : record.id ∈ (netkit.deploy host net settings inv).2.compiled)
    (held : (netkit.deploy host net settings inv).1.records.get? record.id = some record) :
    record.Wired .quagga .netkit net := by
  obtain ⟨s, mem, -, left, found, wired⟩ := deploy_wired wf keyed compiled
  have only : s.profile = ⟨.quagga, .netkit, "templates/netkit_startup.mako"⟩ :=
    List.mem_singleton.mp (mem_roster.mp mem).1
  rw [held, Option.some.injEq] at found
  rwa [only, ← found] at wired

/-- The lab of a host shows the records of the machines that are listed as compiled, and of no
others. -/
theorem deploy_shows_lab {net : Network} (reachable : net.Reachable) (host : String)
    (settings : Settings) {inv : Inventory} (keyed : inv.Keyed) :
    let left := (netkit.deploy host net settings inv).1
    let report := (netkit.deploy host net settings inv).2
    ∃ lab records, left.labs.get? host = some lab ∧
      records.map (·.id) = report.compiled ∧
      (∀ record ∈ records, left.records.get? record.id = some record) ∧
      lab.Shows net records ∧
      ∀ f ∈ report.failed, ∀ record ∈ records, record.id ≠ f.device := by
  intro left report
  have wf := reachable.wellFormed
  have own : left.Keyed := deploy_keyed keyed
  have found : ∀ d ∈ report.compiled, ∃ record, left.records.get? d = some record := by
    intro d listed
    obtain ⟨-, -, -, record, held, -⟩ := deploy_wired wf keyed listed
    exact ⟨record, held⟩
  let records := report.compiled.filterMap left.records.get?
  have ids : records.map (·.id) = report.compiled := own.map_id_records found
  have compiled : ∀ record ∈ records,
      record.id ∈ report.compiled ∧ left.records.get? record.id = some record := by
    intro record mem
    obtain ⟨d, -, held⟩ := List.mem_filterMap.mp mem
    exact ⟨ids ▸ List.mem_map.mpr ⟨record, mem, rfl⟩, own.get?_id held⟩
  refine ⟨_, records, labs_deploy_netkit wf settings keyed, ids,
    fun record mem => (compiled record mem).2, ?_, fun f failed record mem same => ?_⟩
  · refine Lab.ofRecords_shows _ _ ?_ (fun record mem => ?_)
      (addresses_of_compiled wf keyed compiled)
    · have ascending := compiled_ascending wf host settings keyed
      rwa [← ids, List.pairwise_map] at ascending
    · exact wired_of_compiled wf keyed (compiled record mem).1 (compiled record mem).2
  · refine not_mem_compiled_of_failed wf keyed failed ?_
    rw [← same]
    exact (compiled record mem).1

/-- The first router has no loopback, and the other two share a link. -/
def sameHostname : Network :=
  Network.empty.after
    [.addDevice (Network.twoSystemsRouter "a" 1), .addDevice (Network.twoSystemsRouter "r_1" 1),
      .addDevice (Network.twoSystemsRouter "r.1" 1), .setLoopback ⟨1⟩ (some ⟨1⟩),
      .setLoopback ⟨2⟩ (some ⟨2⟩), .addLink ⟨2⟩ ⟨1⟩,
      .addressLink ⟨0⟩ ⟨⟨32⟩, 27, by decide⟩ [(⟨1⟩, ⟨33⟩), (⟨2⟩, ⟨34⟩)]]

theorem sameHostname_shown :
    let left := (netkit.deploy "lab" sameHostname .standard (.empty "0")).1
    sameHostname.Reachable ∧ (Inventory.empty "0").Keyed ∧
    ∃ lab records, left.labs.get? "lab" = some lab ∧ lab.Shows sameHostname records ∧
      records.map (·.id) = [⟨1⟩, ⟨2⟩] ∧ lab.machines = ["r_1", "r_1"] ∧
      lab.bindings = [⟨"r_1", "0", "0.0.0.32.27"⟩, ⟨"r_1", "0", "0.0.0.32.27"⟩] := by
  intro left
  have reachable : sameHostname.Reachable := ⟨_, rfl⟩
  have keyed := Inventory.empty_keyed "0"
  obtain ⟨lab, records, held, ids, -, shows, -⟩ :=
    deploy_shows_lab reachable "lab" .standard keyed
  have run : (netkit.deploy "lab" sameHostname .standard (.empty "0")).2.compiled = [⟨1⟩, ⟨2⟩] ∧
      (left.labs.get? "lab").map (fun lab => (lab.machines, lab.bindings)) =
        some (["r_1", "r_1"],
          [⟨"r_1", "0", "0.0.0.32.27"⟩, ⟨"r_1", "0", "0.0.0.32.27"⟩]) := by decide +kernel
  obtain ⟨compiled, lists⟩ := run
  rw [held, Option.map_some, Option.some.injEq, Prod.mk.injEq] at lists
  exact ⟨reachable, keyed, lab, records, held, shows, ids.trans compiled, lists⟩

end Platform

end NetDesign
