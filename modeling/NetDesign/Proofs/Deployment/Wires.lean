import NetDesign.Proofs.Address.Text
import NetDesign.Proofs.Deployment.Course
import NetDesign.Proofs.Deployment.Records
import NetDesign.Proofs.Interface.Scheme

set_option autoImplicit false

namespace NetDesign

/-- The end of a link at a machine: the number of its interface and the block of its addresses. -/
structure Wire where
  machine : Machine
  link : LinkId
  number : Nat
  subnet : Net
deriving DecidableEq, Repr

/-- What a lab is told of a wire. -/
def Wire.binding (w : Wire) : LabBinding :=
  ⟨w.machine.hostname, w.number.repr, w.subnet.domainName⟩

/-- Of two numberings in which a list ascends each tells which item is lower in the other. -/
theorem lt_of_pairwise_lt {α : Type} {f g : α → Nat} {items : List α}
    (ascending : items.Pairwise fun a b => f a < f b ∧ g a < g b) {a b : α} (first : a ∈ items)
    (second : b ∈ items) (lower : f a < f b) : g a < g b := by
  induction items with
  | nil => cases first
  | cons head rest ih =>
    obtain ⟨above, tail⟩ := List.pairwise_cons.mp ascending
    rcases List.mem_cons.mp first with rfl | behind
    · rcases List.mem_cons.mp second with rfl | behind
      · omega
      · exact (above b behind).2
    · rcases List.mem_cons.mp second with rfl | alsoBehind
      · have higher := (above a behind).1
        omega
      · exact ih tail behind alsoBehind

namespace DeviceRecord

def machine (record : DeviceRecord) : Machine := ⟨record.hostname, record.id⟩

/-- The wires of the interfaces that have an identifier. -/
def wires (record : DeviceRecord) : List Wire :=
  record.interfaces.filterMap fun i =>
    i.link.bind fun l => (record.interfaceIds.get? l).map fun id =>
      ⟨record.machine, l, id.position, i.subnet⟩

/-- The interfaces are those that the dialect finds, under the names that a fresh supply gives to
the links in their order. -/
structure Wired (record : DeviceRecord) (dialect : Dialect) (scheme : Scheme) (net : Network) :
    Prop where
  names : record.interfaceIds =
    .ofList ((Supply.ofScheme scheme).assign (net.linksOf record.id)).1
  interfaces : (dialect.interfaces net record).result = .ok record.interfaces

theorem mem_wires {record : DeviceRecord} {w : Wire} :
    w ∈ record.wires ↔ ∃ i ∈ record.interfaces, ∃ l id, i.link = some l ∧
      record.interfaceIds.get? l = some id ∧
      w = ⟨record.machine, l, id.position, i.subnet⟩ := by
  simp only [wires, List.mem_filterMap, Option.bind_eq_some_iff, Option.map_eq_some_iff]
  constructor
  · rintro ⟨i, mem, l, link, id, named, rfl⟩
    exact ⟨i, mem, l, id, link, named, rfl⟩
  · rintro ⟨i, mem, l, id, link, named, rfl⟩
    exact ⟨i, mem, l, link, id, named, rfl⟩

namespace Wired

variable {record : DeviceRecord} {dialect : Dialect} {scheme : Scheme} {net : Network}

theorem links_ascending (scheme : Scheme) (net : Network) (d : DeviceId) :
    ((Supply.ofScheme scheme).assign (net.linksOf d)).1.Pairwise fun a b =>
      a.1.index < b.1.index := by
  have named := Supply.map_fst_assign_sublist (Supply.ofScheme scheme) (net.linksOf d)
  have ordered := (net.linksOf_ascending d).sublist named
  rwa [List.pairwise_map] at ordered

theorem links_nodup (scheme : Scheme) (net : Network) (d : DeviceId) :
    (((Supply.ofScheme scheme).assign (net.linksOf d)).1.map (·.1)).Nodup :=
  List.pairwise_map.mpr ((links_ascending scheme net d).imp fun lower same => by
    rw [same] at lower
    omega)

theorem mem_assign (wired : record.Wired dialect scheme net) {l : LinkId} {id : InterfaceId}
    (named : record.interfaceIds.get? l = some id) :
    (l, id) ∈ ((Supply.ofScheme scheme).assign (net.linksOf record.id)).1 := by
  rwa [wired.names, SortedMap.get?_ofList (links_nodup scheme net record.id)] at named

theorem name (wired : record.Wired dialect scheme net) {l : LinkId} {id : InterfaceId}
    (named : record.interfaceIds.get? l = some id) : id.name = scheme.name id.position :=
  ((Supply.assign_ascending _ _).1 (l, id) (wired.mem_assign named)).name

/-- A later link has a higher number. -/
theorem position_lt (wired : record.Wired dialect scheme net) {k l : LinkId} {a b : InterfaceId}
    (first : record.interfaceIds.get? k = some a) (second : record.interfaceIds.get? l = some b)
    (lower : k.index < l.index) : a.position < b.position := by
  have positions :=
    (Supply.assign_ascending (Supply.ofScheme scheme) (net.linksOf record.id)).2
  exact lt_of_pairwise_lt ((links_ascending scheme net record.id).and positions)
    (wired.mem_assign first) (wired.mem_assign second) lower

theorem entries_ascending (wired : record.Wired dialect scheme net) {label : String}
    (links : (dialect.entries net record label).filterMap (·.2.link) =
      net.addressedLinks record.id) :
    (dialect.entries net record label).Pairwise fun a b => a.1.position < b.1.position := by
  refine (Dialect.entries_of_links_ascending links).imp_of_mem fun {a b} first second lower => ?_
  obtain ⟨k, one⟩ := Dialect.wires_of_mem_entries first
  obtain ⟨l, other⟩ := Dialect.wires_of_mem_entries second
  exact wired.position_lt one.named other.named (lower k one.link l other.link)

/-- The identifiers ascend with the links, so the interfaces stand in the order of the links. -/
theorem interfaces_eq (wired : record.Wired dialect scheme net) :
    ∃ label loopbacks,
      record.interfaces = (dialect.entries net record label).map (·.2) ++ loopbacks ∧
      (dialect.entries net record label).filterMap (·.2.link) = net.addressedLinks record.id ∧
      (∀ i ∈ loopbacks, i.link = none) ∧
      (loopbacks.map (·.name)).Sublist [dialect.loopbackName] := by
  obtain ⟨label, loopbacks, listed, links, bare, named⟩ :=
    Dialect.interfaces_of_ok wired.interfaces
  have ascending := (wired.entries_ascending links).imp InterfaceId.precedes_of_position_lt
  rw [sorted_eq_self _ ascending] at listed
  exact ⟨label, loopbacks, listed, links, fun i mem => (bare i mem).1, named⟩

/-- There is a wire for each addressed link, in the order of the links. -/
theorem links_of_wires (wired : record.Wired dialect scheme net) :
    record.wires.map (·.link) = net.addressedLinks record.id := by
  obtain ⟨label, loopbacks, listed, links, bare, -⟩ := wired.interfaces_eq
  have none_of_loopback : ∀ i ∈ loopbacks, (i.link.bind fun l =>
      (record.interfaceIds.get? l).map fun _ => l) = none := fun i mem => by rw [bare i mem]; rfl
  have link_of_entry : ∀ entry ∈ dialect.entries net record label, (entry.2.link.bind fun l =>
      (record.interfaceIds.get? l).map fun _ => l) = entry.2.link := by
    intro entry mem
    obtain ⟨l, wires⟩ := Dialect.wires_of_mem_entries mem
    rw [wires.link, Option.bind_some, wires.named]
    rfl
  simp only [wires, List.map_filterMap, Option.map_bind, Option.map_map, Function.comp_def]
  rw [listed, List.filterMap_append, List.filterMap_map, ← links,
    List.filterMap_eq_nil_iff.mpr none_of_loopback, List.append_nil]
  exact List.filterMap_congr link_of_entry

theorem wires_ascending (wired : record.Wired dialect scheme net) :
    record.wires.Pairwise fun v w => v.number < w.number := by
  have ordered := net.addressedLinks_ascending record.id
  rw [← wired.links_of_wires, List.pairwise_map] at ordered
  refine ordered.imp_of_mem fun {v w} first second lower => ?_
  obtain ⟨i, -, k, a, -, one, rfl⟩ := mem_wires.mp first
  obtain ⟨j, -, l, b, -, other, rfl⟩ := mem_wires.mp second
  exact wired.position_lt one other lower

/-- The interface on the link of a wire has its number and its block. -/
theorem interface_of_mem_wires (wired : record.Wired dialect scheme net) {w : Wire}
    (mem : w ∈ record.wires) :
    ∃ i, record.interfaceOn? w.link = some i ∧ i.name = scheme.name w.number ∧
      i.subnet = w.subnet ∧
      net.addressing? record.id w.link = some (i.subnet, i.address) := by
  obtain ⟨i, present, l, id, link, named, rfl⟩ := mem_wires.mp mem
  have linked : (record.interfaces.find? (·.link = some l)).isSome :=
    List.find?_isSome.mpr ⟨i, present, decide_eq_true link⟩
  obtain ⟨j, found⟩ := Option.isSome_iff_exists.mp linked
  have same : j.link = some l := by simpa using List.find?_some found
  -- both are interfaces of the link, so they have its identifier and its addressing
  have ofLink : ∀ k ∈ record.interfaces, k.link = some l →
      k.name = scheme.name id.position ∧
        net.addressing? record.id l = some (k.subnet, k.address) := by
    intro k listed own
    rcases Dialect.wires_of_mem_interfaces wired.interfaces listed with
      ⟨m, other, wires⟩ | ⟨bare, -⟩
    · obtain rfl : l = m := Option.some.inj (own.symm.trans wires.link)
      obtain rfl : id = other := Option.some.inj (named.symm.trans wires.named)
      exact ⟨wires.name.trans (wired.name named), wires.addressing⟩
    · rw [bare] at own
      cases own
  obtain ⟨name, addressing⟩ := ofLink j (List.mem_of_find?_eq_some found) same
  have blocks := (ofLink i present link).2.symm.trans addressing
  simp only [Option.some.injEq, Prod.mk.injEq] at blocks
  exact ⟨j, found, name, blocks.1.symm, addressing⟩

/-- A lab is told of the wires of its machines. -/
theorem labBindings_eq (wired : record.Wired dialect .netkit net) :
    record.labBindings = record.wires.map Wire.binding := by
  rw [labBindings, wires, List.map_filterMap]
  refine List.filterMap_congr fun i _ => ?_
  cases i.link with
  | none => rfl
  | some l =>
    simp only [Option.bind_some]
    cases named : record.interfaceIds.get? l with
    | none => rfl
    | some id =>
      have suffix := Scheme.numericSuffix_of_netkit (wired.name named)
      simp only [Option.map_some, suffix]
      rfl

/-- The management interface has no part in it. -/
theorem of_withoutTap (wired : record.Wired dialect scheme net) {other : DeviceRecord}
    (same : other.withoutTap = record.withoutTap) : other.Wired dialect scheme net := by
  have equal : other = { record with tap := other.tap } := by
    cases other
    cases record
    simp_all [withoutTap]
  rw [equal]
  exact ⟨wired.names,
    (congrArg Survey.result (Dialect.interfaces_congr dialect net rfl rfl rfl rfl)).trans
      wired.interfaces⟩

end Wired

theorem NamesLinks.of_withoutTap {record other : DeviceRecord} {net : Network}
    (named : record.NamesLinks net) (same : other.withoutTap = record.withoutTap) :
    other.NamesLinks net := by
  have id : other.withoutTap.id = record.withoutTap.id := by rw [same]
  have ids : other.withoutTap.interfaceIds = record.withoutTap.interfaceIds := by rw [same]
  simp only [withoutTap] at id ids
  rw [NamesLinks, id, ids]
  exact named

end DeviceRecord

namespace Platform

variable {p : Platform} {profile : Profile} {net : Network} {record : DeviceRecord}
  {host : String} {settings : Settings} {inv : Inventory}

/-- A device that compiles gets a record whose interfaces are those of its dialect, and that names
all its links. -/
theorem compileDevice_wired (listed : profile ∈ p.profiles) (settings : Settings)
    (host timestamp : String) (device : Device)
    (compiled : (p.compileDevice profile net settings host timestamp device record).failure =
      none) :
    let left := (p.compileDevice profile net settings host timestamp device record).record
    left.Wired profile.dialect profile.scheme net ∧ left.NamesLinks net := by
  have own := compileDevice_id listed net settings host timestamp device record
  have names := (p.compileDevice_keeps profile net settings host timestamp device record).2
  obtain ⟨named, id, complete, done, made⟩ :=
    compileDevice_of_compiled listed settings host timestamp device compiled
  refine ⟨⟨by rw [own]; exact names, ?_⟩, ?_⟩
  · obtain ⟨interfaces, -⟩ := profile.dialect.compile_wired settings done
    rw [made]
    unfold adjust
    split
    · exact (congrArg Survey.result (Dialect.interfaces_congr _ net rfl rfl rfl rfl)).trans
        interfaces
    · exact interfaces
  · intro l mem
    obtain ⟨-, adjusted⟩ := p.adjust_keeps (profile.dialect.compile net settings named)
    obtain ⟨kept, -⟩ := profile.dialect.compile_keeps net settings named
    rw [own, ← id] at mem
    rw [made, adjusted, kept]
    exact complete l mem

/-- The record of a device that is listed as compiled, and the profile it was compiled by. -/
theorem deploy_named (wf : net.WellFormed) (keyed : inv.Keyed) {d : DeviceId}
    (compiled : d ∈ (p.deploy host net settings inv).2.compiled) :
    ∃ s ∈ p.roster host net, s.id = d ∧ ∃ left,
      (p.deploy host net settings inv).1.records.get? d = some left ∧
      left.Wired s.profile.dialect s.profile.scheme net ∧ left.NamesLinks net := by
  obtain ⟨s, mem, rfl, healthy⟩ := exists_of_mem_compiled wf keyed compiled
  have done : (p.outcome host net settings inv s).failure = none := by
    rw [outcome_failure wf settings mem keyed, healthy]
    rfl
  obtain ⟨left, held, same⟩ := get?_deploy (get?_visitAll_of_mem mem settings inv)
  obtain ⟨wired, named⟩ :=
    compileDevice_wired (mem_roster.mp mem).1 settings host inv.timestamp s.device done
  exact ⟨s, mem, rfl, left, held, wired.of_withoutTap same, named.of_withoutTap same⟩

theorem deploy_wired (wf : net.WellFormed) (keyed : inv.Keyed) {d : DeviceId}
    (compiled : d ∈ (p.deploy host net settings inv).2.compiled) :
    ∃ s ∈ p.roster host net, s.id = d ∧ ∃ left,
      (p.deploy host net settings inv).1.records.get? d = some left ∧
      left.Wired s.profile.dialect s.profile.scheme net := by
  obtain ⟨s, mem, own, left, held, wired, -⟩ := deploy_named wf keyed compiled
  exact ⟨s, mem, own, left, held, wired⟩

end Platform

end NetDesign
