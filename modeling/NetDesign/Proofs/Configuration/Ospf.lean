import NetDesign.Proofs.Configuration.Course
import NetDesign.Proofs.Configuration.Listing

set_option autoImplicit false

namespace NetDesign

section FirstOfEach

variable {α β κ : Type} [DecidableEq κ] {key : α → κ} {items : List α}

theorem firstOfEach_sublist (key : α → κ) (items : List α) :
    (firstOfEach key items).Sublist items := by
  induction items with
  | nil => exact .slnil
  | cons a rest ih => exact (List.filter_sublist.trans ih).cons_cons a

theorem firstOfEach_apart (key : α → κ) (items : List α) :
    (firstOfEach key items).Pairwise fun a b => key a ≠ key b := by
  induction items with
  | nil => exact .nil
  | cons a rest ih =>
    refine List.pairwise_cons.mpr ⟨fun b mem => ?_, ih.filter _⟩
    exact (of_decide_eq_true (List.mem_filter.mp mem).2).symm

/-- No key is lost. -/
theorem exists_firstOfEach {a : α} (mem : a ∈ items) :
    ∃ b ∈ firstOfEach key items, key b = key a := by
  induction items with
  | nil => cases mem
  | cons head rest ih =>
    by_cases same : key a = key head
    · exact ⟨head, List.mem_cons_self, same.symm⟩
    · have behind : a ∈ rest :=
        (List.mem_cons.mp mem).resolve_left fun equal => same (by rw [equal])
      obtain ⟨b, listed, alike⟩ := ih behind
      refine ⟨b, List.mem_cons_of_mem _ (List.mem_filter.mpr ⟨listed, ?_⟩), alike⟩
      exact decide_eq_true (alike ▸ same)

theorem firstOfEach_map (key : α → κ) (f : β → α) (items : List β) :
    firstOfEach key (items.map f) = (firstOfEach (fun b => key (f b)) items).map f := by
  induction items with
  | nil => rfl
  | cons b rest ih =>
    rw [List.map_cons, firstOfEach, firstOfEach, ih, List.map_cons, List.filter_map]
    rfl

end FirstOfEach

namespace Network

variable {net : Network} {d : DeviceId} {l : LinkId}

/-- The link is one of the device, runs OSPF in the area and has the subnet. -/
structure RunsOspf (net : Network) (d : DeviceId) (l : LinkId) (subnet : Net) (area : UInt32) :
    Prop where
  link : l ∈ net.linksOf d
  area : (net.ospf.edges.get? l).map (·.area) = some area
  subnet : (net.ip.edges.get? l).map (·.subnet) = some subnet

instance (net : Network) (d : DeviceId) (l : LinkId) (subnet : Net) (area : UInt32) :
    Decidable (net.RunsOspf d l subnet area) :=
  decidable_of_iff (l ∈ net.linksOf d ∧
      (net.ospf.edges.get? l).map (·.area) = some area ∧
      (net.ip.edges.get? l).map (·.subnet) = some subnet)
    ⟨fun runs => ⟨runs.1, runs.2.1, runs.2.2⟩, fun runs => ⟨runs.link, runs.area, runs.subnet⟩⟩

/-- The links of a device that run OSPF in a subnet, in ascending order, each with its
statement. -/
def ospfEntries (net : Network) (d : DeviceId) : List (LinkId × OspfNetwork) :=
  (net.ospfLinksOf d).filterMap fun (l, edge) => (net.ospfNetwork? l edge).map (l, ·)

theorem mem_ospfLinksOf {edge : OspfEdge} :
    (l, edge) ∈ net.ospfLinksOf d ↔ l ∈ net.linksOf d ∧ net.ospf.edges.get? l = some edge := by
  simp only [ospfLinksOf, List.mem_filterMap, Option.map_eq_some_iff, Prod.mk.injEq]
  constructor
  · rintro ⟨k, mem, e, found, rfl, rfl⟩
    exact ⟨mem, found⟩
  · rintro ⟨mem, found⟩
    exact ⟨l, mem, edge, found, rfl, rfl⟩

theorem mem_ospfEntries {n : OspfNetwork} :
    (l, n) ∈ net.ospfEntries d ↔ net.RunsOspf d l n.network n.area := by
  obtain ⟨network, area⟩ := n
  simp only [ospfEntries, List.mem_filterMap, Prod.exists, mem_ospfLinksOf, ospfNetwork?,
    Option.map_map, Option.map_eq_some_iff, Function.comp, Prod.mk.injEq, OspfNetwork.mk.injEq]
  constructor
  · rintro ⟨k, edge, ⟨mem, runs⟩, ip, addressed, rfl, rfl, rfl⟩
    exact ⟨mem, by rw [runs]; rfl, by rw [addressed]; rfl⟩
  · rintro ⟨mem, runs, addressed⟩
    obtain ⟨edge, run, rfl⟩ := Option.map_eq_some_iff.mp runs
    obtain ⟨ip, laid, rfl⟩ := Option.map_eq_some_iff.mp addressed
    exact ⟨l, edge, ⟨mem, run⟩, ip, laid, rfl, rfl, rfl⟩

end Network

namespace Dialect

variable {net : Network} {record : DeviceRecord} {device : Device}

theorem networks_eq (dialect : Dialect) (net : Network) (settings : Settings) (d : DeviceId) :
    (dialect.ospf net settings d).2.networks =
      (firstOfEach (·.2.network) (net.ospfEntries d)).map (·.2) := by
  have entries : (net.ospfEntries d).map (·.2) =
      (net.ospfLinksOf d).filterMap fun (l, edge) => net.ospfNetwork? l edge := by
    rw [Network.ospfEntries, List.map_filterMap]
    refine List.filterMap_congr fun e _ => ?_
    rw [Option.map_map]
    exact Option.map_id'
  rw [ospf, ← entries]
  exact firstOfEach_map _ _ _

theorem mem_networks (dialect : Dialect) (settings : Settings) {d : DeviceId} {subnet : Net} :
    (∃ n ∈ (dialect.ospf net settings d).2.networks, n.network = subnet) ↔
      ∃ l area, net.RunsOspf d l subnet area := by
  rw [networks_eq]
  constructor
  · rintro ⟨n, mem, rfl⟩
    obtain ⟨⟨l, n⟩, kept, rfl⟩ := List.mem_map.mp mem
    have listed := (firstOfEach_sublist _ _).mem kept
    exact ⟨l, n.area, Network.mem_ospfEntries.mp listed⟩
  · rintro ⟨l, area, runs⟩
    have listed : (l, ⟨subnet, area⟩) ∈ net.ospfEntries d := Network.mem_ospfEntries.mpr runs
    obtain ⟨entry, kept, same⟩ : ∃ entry ∈ firstOfEach (·.2.network) (net.ospfEntries d),
        entry.2.network = subnet := exists_firstOfEach listed
    exact ⟨entry.2, List.mem_map.mpr ⟨entry, kept, rfl⟩, same⟩

theorem filter_warn (record : DeviceRecord) (step other : Step) (omissions : List Omission) :
    (record.warn step omissions).filter (·.step = other) =
      if step = other then record.warn step omissions else [] := by
  rw [DeviceRecord.warn, List.filter_map]
  by_cases same : step = other
  · simp [Function.comp_def, same]
  · simp [Function.comp_def, same]

/-- A compiled device of the OSPF layer holds the section of its dialect, and is warned of what the
section leaves out. -/
theorem ospf_written (dialect : Dialect) (settings : Settings)
    (part : net.hasDevice .ospf record.id)
    (compiled : (dialect.compile net settings record).failure = none) :
    let outcome := dialect.compile net settings record
    let written := dialect.ospf net settings record.id
    outcome.record.ospf = some written.2 ∧
      outcome.warnings.filter (·.step = .ospf) = record.warn .ospf written.1 ∧
      ∃ device loopback, net.device? record.id = some device ∧
        (dialect.interfaces net (record.identify device loopback)).result =
          .ok outcome.record.interfaces := by
  intro outcome written
  obtain ⟨device, loopback, interfaces, bgp, found, listed, -, made⟩ :=
    compile_written dialect settings compiled
  have made : outcome = _ := made
  have routed : dialect.fillOspf net settings
      { record.identify device loopback with interfaces } =
      (record.warn .ospf written.1,
        { record.identify device loopback with interfaces, ospf := some written.2 }) :=
    if_pos part
  rw [routed] at made
  rw [made]
  refine ⟨rfl, ?_, device, loopback, found, listed⟩
  simp only [List.filter_append, filter_warn]
  simp

/-- Only devices of the OSPF layer have the section. -/
theorem hasDevice_of_ospf (dialect : Dialect) (settings : Settings) {ospf : OspfSection}
    (compiled : (dialect.compile net settings record).failure = none)
    (held : (dialect.compile net settings record).record.ospf = some ospf) :
    net.hasDevice .ospf record.id := by
  obtain ⟨device, loopback, interfaces, bgp, -, -, -, made⟩ :=
    compile_written dialect settings compiled
  by_contra outside
  have skipped : dialect.fillOspf net settings { record.identify device loopback with interfaces } =
      ([], { record.identify device loopback with interfaces, ospf := none }) := if_neg outside
  rw [made, skipped] at held
  cases held

end Dialect

end NetDesign
