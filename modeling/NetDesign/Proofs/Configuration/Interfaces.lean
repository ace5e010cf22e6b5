import NetDesign.Configuration.Interfaces
import NetDesign.Proofs.Configuration.Survey
import NetDesign.Proofs.Network.Links
import NetDesign.Proofs.Network.WellFormed
import Mathlib.Data.List.Basic

set_option autoImplicit false

namespace NetDesign

/-- Whether the dialect configures ISIS. -/
def Dialect.speaksIsis : Dialect → Bool
  | ios | ios2 => true
  | quagga | junos => false

/-- The interface stands for a link, with the addressing that the network gives it. -/
def Interface.Serves (i : Interface) (l : LinkId) (subnet : Net) (address : Address) : Prop :=
  i.link = some l ∧ i.subnet = subnet ∧ i.address = address

/-- The identifier and the interface are those of a link of the device, as the record and the
network have them. -/
structure DeviceRecord.Wires (record : DeviceRecord) (dialect : Dialect) (net : Network)
    (l : LinkId) (entry : InterfaceId × Interface) : Prop where
  named : record.interfaceIds.get? l = some entry.1
  name : entry.2.name = entry.1.name
  link : entry.2.link = some l
  addressing : net.addressing? record.id l = some (entry.2.subnet, entry.2.address)
  isis : entry.2.isis = (dialect.speaksIsis && net.hasLink .isis l)
  process : entry.2.isis →
    entry.2.isisProcess = (net.isis.nodes.get? record.id).map (·.processId)

/-- Every link of the device has an identifier. -/
def DeviceRecord.NamesLinks (record : DeviceRecord) (net : Network) : Prop :=
  ∀ l ∈ net.linksOf record.id, ∃ id, record.interfaceIds.get? l = some id

namespace Network

variable {net : Network}

/-- The links on which a device has an address, in ascending order. -/
def addressedLinks (net : Network) (d : DeviceId) : List LinkId :=
  (net.linksOf d).filter fun l => (net.addressing? d l).isSome

theorem addressedLinks_ascending (net : Network) (d : DeviceId) :
    (net.addressedLinks d).Pairwise fun k l => k.index < l.index :=
  (net.linksOf_ascending d).filter _

theorem WellFormed.device_of_touches (wf : net.WellFormed) {l : LinkId} {link : Link}
    (found : net.link? l = some link) {d : DeviceId} (touches : link.touches d) :
    (net.device? d).isSome := by
  obtain ⟨first, second⟩ := wf.ends l link found
  simp only [Link.touches, Bool.or_eq_true, decide_eq_true_eq] at touches
  rcases touches with rfl | rfl
  · exact first
  · exact second

/-- The device at the other end of a link is there. -/
theorem WellFormed.neighbor (wf : net.WellFormed) {l : LinkId} {link : Link}
    (found : net.link? l = some link) {d : DeviceId} (touches : link.touches d) :
    ∃ e device, net.neighbor d l = .ok e ∧ net.device? e = some device := by
  obtain ⟨e, opposite⟩ := Option.isSome_iff_exists.mp
    ((link.opposite?_isSome d).trans touches)
  have back : link.touches e := by
    have joins := Link.opposite?_eq_some.mp opposite
    rw [link.joins_comm] at joins
    exact Link.touches_of_joins joins
  obtain ⟨device, present⟩ := Option.isSome_iff_exists.mp (wf.device_of_touches found back)
  refine ⟨e, device, ?_, present⟩
  rw [Network.neighbor, link_eq_ok.mpr found]
  simp only [bind, Except.bind, opposite]

theorem WellFormed.mem_linksOf_of_addressing (wf : net.WellFormed) {d : DeviceId} {l : LinkId}
    {subnet : Net} {address : Address} (addressed : net.addressing? d l = some (subnet, address)) :
    l ∈ net.linksOf d :=
  mem_linksOf.mpr (wf.addressed d l subnet address addressed)

end Network

namespace Dialect

variable {net : Network} {record : DeviceRecord} {device : Device}

theorem annotate_serves (dialect : Dialect) (d : DeviceId) {i : Interface} {l : LinkId}
    {subnet : Net} {address : Address} (serves : i.Serves l subnet address) :
    (dialect.annotate net d i).Serves l subnet address := by
  cases dialect <;> exact serves

theorem linkInterface_ok (wf : net.WellFormed) (dialect : Dialect) (label : String) {l : LinkId}
    (mem : l ∈ net.linksOf record.id) {id : InterfaceId}
    (named : record.interfaceIds.get? l = some id) (subnet : Net) (address : Address) :
    ∃ i, dialect.linkInterface net record label l subnet address = .ok (id, i) ∧
      i.Serves l subnet address := by
  obtain ⟨link, found, touches⟩ := Network.mem_linksOf.mp mem
  obtain ⟨e, neighbor, led, present⟩ := wf.neighbor found touches
  have labelled : net.label e = .ok neighbor.label := by
    rw [Network.label, Network.device_eq_ok.mpr present]
    rfl
  simp only [linkInterface, led, named, labelled, mapError_ok, bind, Except.bind]
  exact ⟨_, rfl, dialect.annotate_serves record.id ⟨rfl, rfl, rfl⟩⟩

theorem interfaceFinding_of_addressing (wf : net.WellFormed) (dialect : Dialect) (label : String)
    (named : record.NamesLinks net) {l : LinkId} {subnet : Net} {address : Address}
    (addressed : net.addressing? record.id l = some (subnet, address)) :
    ∃ id i, dialect.interfaceFinding net record label l = .entry (id, i) ∧
      i.Serves l subnet address := by
  have mem := wf.mem_linksOf_of_addressing addressed
  obtain ⟨id, given⟩ := named l mem
  obtain ⟨i, made, serves⟩ := linkInterface_ok wf dialect label mem given subnet address
  exact ⟨id, i, by rw [interfaceFinding, addressed]; simp only [made], serves⟩

theorem failure?_interfaceFinding (wf : net.WellFormed) (dialect : Dialect) (label : String)
    (named : record.NamesLinks net) (l : LinkId) :
    (dialect.interfaceFinding net record label l).failure? = none := by
  cases addressed : net.addressing? record.id l with
  | none => rw [interfaceFinding, addressed]; rfl
  | some addressing =>
    obtain ⟨id, i, found, -⟩ := interfaceFinding_of_addressing wf dialect label named addressed
    rw [found]
    rfl

theorem loopbackInterfaces_ok (dialect : Dialect) (device : Device) {loopback : Address}
    {loopbackNet : Net}
    (address : record.loopback = some loopback) (subnet : record.loopbackNet = some loopbackNet) :
    ∃ loopbacks, dialect.loopbackInterfaces record device = .ok loopbacks := by
  unfold loopbackInterfaces
  split
  · exact ⟨[], rfl⟩
  · exact ⟨_, by rw [Interface.loopback, address, subnet]; rfl⟩

theorem interfaces_ok (wf : net.WellFormed) (dialect : Dialect)
    (found : net.device? record.id = some device) (named : record.NamesLinks net)
    {loopback : Address} {loopbackNet : Net} (address : record.loopback = some loopback)
    (subnet : record.loopbackNet = some loopbackNet) :
    ∃ interfaces, (dialect.interfaces net record).result = .ok interfaces ∧
      ∀ l subnet address, net.addressing? record.id l = some (subnet, address) →
        ∃ i ∈ interfaces, i.Serves l subnet address := by
  obtain ⟨loopbacks, listed⟩ :=
    loopbackInterfaces_ok dialect device address subnet
  have smooth : ((net.linksOf record.id).map
      (dialect.interfaceFinding net record device.label)).findSome? Finding.failure? = none := by
    rw [List.findSome?_eq_none_iff]
    intro finding mem
    obtain ⟨l, -, rfl⟩ := List.mem_map.mp mem
    exact failure?_interfaceFinding wf dialect device.label named l
  simp only [interfaces, Network.device_eq_ok.mpr found, Survey.andThen, Survey.collect_result,
    smooth, listed]
  refine ⟨_, rfl, fun l subnet address addressed => ?_⟩
  obtain ⟨id, i, entry, serves⟩ :=
    interfaceFinding_of_addressing wf dialect device.label named addressed
  refine ⟨i, List.mem_append_left _ (List.mem_map.mpr ⟨(id, i), ?_, rfl⟩), serves⟩
  rw [(sorted_perm _ _).mem_iff]
  refine List.mem_filterMap.mpr ⟨.entry (id, i), ?_, rfl⟩
  exact List.mem_map.mpr ⟨l, wf.mem_linksOf_of_addressing addressed, entry⟩

/-- The entries that are found at the links of a device, in the order of the links. -/
def entries (dialect : Dialect) (net : Network) (record : DeviceRecord) (label : String) :
    List (InterfaceId × Interface) :=
  (net.linksOf record.id).filterMap fun l =>
    (dialect.interfaceFinding net record label l).found?

variable {dialect : Dialect} {label : String} {l : LinkId} {entry : InterfaceId × Interface}

theorem wires_of_linkInterface {subnet : Net} {address : Address}
    (addressed : net.addressing? record.id l = some (subnet, address))
    (made : dialect.linkInterface net record label l subnet address = .ok entry) :
    record.Wires dialect net l entry := by
  simp only [linkInterface, bind, Except.bind] at made
  split at made
  · cases made
  · cases given : record.interfaceIds.get? l with
    | none =>
      simp only [given] at made
      cases made
    | some id =>
      simp only [given] at made
      split at made
      · cases made
      · cases made
        cases dialect <;> exact
          { named := given
            name := rfl
            link := rfl
            addressing := addressed
            isis := by rfl
            process := fun runs => by first | cases runs | exact if_pos runs }

theorem wires_of_interfaceFinding
    (found : dialect.interfaceFinding net record label l = .entry entry) :
    record.Wires dialect net l entry := by
  unfold interfaceFinding at found
  split at found
  · cases found
  case h_2 subnet address addressed =>
    split at found
    case h_1 made =>
      cases found
      exact wires_of_linkInterface addressed made
    · cases found

theorem wires_of_mem_entries (mem : entry ∈ dialect.entries net record label) :
    ∃ l, record.Wires dialect net l entry := by
  obtain ⟨l, -, found⟩ := List.mem_filterMap.mp mem
  exact ⟨l, wires_of_interfaceFinding (Finding.found?_eq_some.mp found)⟩

/-- If nothing goes wrong there is an entry for each addressed link, in the order of the links. -/
theorem links_of_entries (smooth : ∀ l ∈ net.linksOf record.id,
      (dialect.interfaceFinding net record label l).failure? = none) :
    (dialect.entries net record label).filterMap (·.2.link) = net.addressedLinks record.id := by
  rw [entries, List.filterMap_filterMap, Network.addressedLinks, ← List.filterMap_eq_filter]
  refine List.filterMap_congr fun l mem => ?_
  have sound := smooth l mem
  rw [Option.guard]
  cases addressed : net.addressing? record.id l with
  | none =>
    rw [interfaceFinding, addressed]
    rfl
  | some addressing =>
    obtain ⟨subnet, address⟩ := addressing
    cases made : dialect.linkInterface net record label l subnet address with
    | error c =>
      simp only [interfaceFinding, addressed, made] at sound
      cases sound
    | ok entry =>
      have link := (wires_of_linkInterface addressed made).link
      simp only [interfaceFinding, addressed, made, Finding.found?, Option.bind_some, link]
      rfl

/-- The entries stand in the order of their links. -/
theorem entries_of_links_ascending
    (links : (dialect.entries net record label).filterMap (·.2.link) =
      net.addressedLinks record.id) :
    (dialect.entries net record label).Pairwise fun a b =>
      ∀ k, a.2.link = some k → ∀ l, b.2.link = some l → k.index < l.index := by
  have ordered := net.addressedLinks_ascending record.id
  rwa [← links, List.pairwise_filterMap] at ordered

theorem of_mem_loopbackInterfaces {loopbacks : List Interface}
    (listed : dialect.loopbackInterfaces record device = .ok loopbacks) {i : Interface}
    (mem : i ∈ loopbacks) : i.link = none ∧ i.isis = false := by
  unfold loopbackInterfaces Interface.loopback at listed
  split at listed
  · cases listed
    cases mem
  · split at listed
    · cases listed
      rw [List.mem_singleton.mp mem]
      exact ⟨rfl, rfl⟩
    · cases listed

/-- There is one loopback at most. -/
theorem names_loopbackInterfaces {loopbacks : List Interface}
    (listed : dialect.loopbackInterfaces record device = .ok loopbacks) :
    (loopbacks.map (·.name)).Sublist [dialect.loopbackName] := by
  unfold loopbackInterfaces Interface.loopback at listed
  split at listed
  · cases listed
    exact List.nil_sublist _
  · split at listed
    · cases listed
      exact .refl _
    · cases listed

/-- The interfaces are those of the addressed links, sorted by their identifiers, and perhaps the
loopback. -/
theorem interfaces_of_ok {interfaces : List Interface}
    (listed : (dialect.interfaces net record).result = .ok interfaces) :
    ∃ label loopbacks,
      interfaces = (sorted (fun a b => a.1.precedes b.1)
        (dialect.entries net record label)).map (·.2) ++ loopbacks ∧
      (dialect.entries net record label).filterMap (·.2.link) = net.addressedLinks record.id ∧
      (∀ i ∈ loopbacks, i.link = none ∧ i.isis = false) ∧
      (loopbacks.map (·.name)).Sublist [dialect.loopbackName] := by
  unfold Dialect.interfaces at listed
  split at listed
  · cases listed
  case h_2 device _ =>
    obtain ⟨found, gathered, listed⟩ := Survey.andThen_ok listed
    rw [Survey.collect_result, List.filterMap_map] at gathered
    split at gathered
    · cases gathered
    case h_2 smooth =>
      cases gathered
      cases last : dialect.loopbackInterfaces record device with
      | error c =>
        rw [last] at listed
        cases listed
      | ok loopbacks =>
        rw [last] at listed
        cases listed
        refine ⟨device.label, loopbacks, rfl, links_of_entries fun l mem => ?_,
          fun i mem => of_mem_loopbackInterfaces last mem, names_loopbackInterfaces last⟩
        exact List.findSome?_eq_none_iff.mp smooth _ (List.mem_map.mpr ⟨l, mem, rfl⟩)

/-- Every interface is that of an addressed link, or a loopback. -/
theorem wires_of_mem_interfaces {interfaces : List Interface}
    (listed : (dialect.interfaces net record).result = .ok interfaces) {i : Interface}
    (mem : i ∈ interfaces) :
    (∃ l id, record.Wires dialect net l (id, i)) ∨ i.link = none ∧ i.isis = false := by
  obtain ⟨label, loopbacks, rfl, -, bare, -⟩ := interfaces_of_ok listed
  rcases List.mem_append.mp mem with ofLink | loopback
  · obtain ⟨⟨id, j⟩, present, rfl⟩ := List.mem_map.mp ofLink
    obtain ⟨l, wires⟩ := wires_of_mem_entries ((sorted_perm _ _).mem_iff.mp present)
    exact .inl ⟨l, id, wires⟩
  · exact .inr (bare i loopback)

end Dialect

end NetDesign
