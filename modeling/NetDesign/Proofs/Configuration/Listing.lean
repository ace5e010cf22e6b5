import NetDesign.Configuration
import NetDesign.Proofs.Configuration.Interfaces
import NetDesign.Proofs.Interface.Id
import NetDesign.Proofs.Network.Runs
import Mathlib.Data.List.Forall2

set_option autoImplicit false

namespace NetDesign

namespace DeviceRecord

/-- The identifier of one link comes before that of another; of links with the same identifier the
lower comes first. -/
def Before (record : DeviceRecord) (k l : LinkId) : Prop :=
  ∃ a b, record.interfaceIds.get? k = some a ∧ record.interfaceIds.get? l = some b ∧
    (a.position < b.position ∨ a.position = b.position ∧
      (a.name < b.name ∨ a.name = b.name ∧ k.index < l.index))

/-- The interface is that of an addressed link of the device. -/
structure Draws (record : DeviceRecord) (dialect : Dialect) (net : Network) (device : Device)
    (l : LinkId) (i : Interface) : Prop where
  link : i.link = some l
  name : (record.interfaceIds.get? l).map (·.name) = some i.name
  addressing : net.addressing? record.id l = some (i.subnet, i.address)
  description : ∃ far, net.farLabel? record.id l = some far ∧
    i.description = device.label ++ " to " ++ far
  cost : i.ospfCost = if dialect = .junos then none else (net.ospf.edges.get? l).map (·.cost)

/-- The addressed link has no identifier, and no lower one lacks it. -/
structure Lacks (record : DeviceRecord) (net : Network) (l : LinkId) : Prop where
  addressed : l ∈ net.addressedLinks record.id
  unnamed : record.interfaceIds.get? l = none
  lowest : ∀ k ∈ net.addressedLinks record.id, record.interfaceIds.get? k = none →
    l.index ≤ k.index

end DeviceRecord

/-- The interface is the loopback of a device, with its address alone in a block. -/
structure Interface.Loops (i : Interface) (dialect : Dialect) (loopback : Address) : Prop where
  name : i.name = dialect.loopbackName
  link : i.link = none
  address : i.address = loopback
  subnet : i.subnet = .single loopback
  cost : i.ospfCost = none
  isis : i.isis = false ∧ i.isisProcess = none

/-- Whether the loopback is listed among the interfaces: always in the IOS dialects, and for routers
in Quagga. -/
def Dialect.listsLoopback (dialect : Dialect) (device : Device) : Bool :=
  dialect = .ios || dialect = .ios2 || dialect = .quagga && device.isRouter

/-- The links of a device on which it has no address, in ascending order. -/
def Network.unaddressedLinks (net : Network) (d : DeviceId) : List LinkId :=
  (net.linksOf d).filter fun l => (net.addressing? d l).isNone

namespace Dialect

variable {net : Network} {record : DeviceRecord} {device : Device} {l : LinkId}

theorem annotate_cost (dialect : Dialect) (d : DeviceId) {i : Interface} (link : i.link = some l)
    (bare : i.ospfCost = none) :
    (dialect.annotate net d i).ospfCost =
      if dialect = .junos then none else (net.ospf.edges.get? l).map (·.cost) := by
  cases dialect with
  | junos => exact bare
  | _ => simp [annotate, Interface.withCost, Interface.withIsis, link]

/-- A link of the device is left out without an address, makes the step fail without an identifier,
and is drawn otherwise. -/
theorem interfaceFinding_cases (wf : net.WellFormed) (dialect : Dialect) (device : Device)
    (mem : l ∈ net.linksOf record.id) :
    net.addressing? record.id l = none ∧
        dialect.interfaceFinding net record device.label l = .omission (.unaddressedLink l) ∨
      l ∈ net.addressedLinks record.id ∧ record.interfaceIds.get? l = none ∧
        dialect.interfaceFinding net record device.label l = .failure (.missingInterfaceId l) ∨
      ∃ id i, record.interfaceIds.get? l = some id ∧
        dialect.interfaceFinding net record device.label l = .entry (id, i) ∧
        record.Draws dialect net device l i := by
  cases addressed : net.addressing? record.id l with
  | none => exact .inl ⟨rfl, by rw [interfaceFinding, addressed]⟩
  | some addressing =>
    obtain ⟨subnet, address⟩ := addressing
    obtain ⟨link, found, touches⟩ := Network.mem_linksOf.mp mem
    obtain ⟨e, neighbor, led, present⟩ := wf.neighbor found touches
    have labelled : net.label e = .ok neighbor.label := by
      rw [Network.label, Network.device_eq_ok.mpr present]
      rfl
    have far : net.farLabel? record.id l = some neighbor.label := by
      rw [Network.farLabel?, Network.neighbor_eq_ok.mp led, Option.bind_some, present]
      rfl
    cases named : record.interfaceIds.get? l with
    | none =>
      refine .inr (.inl ⟨List.mem_filter.mpr ⟨mem, by rw [addressed]; rfl⟩, rfl, ?_⟩)
      simp only [interfaceFinding, addressed, linkInterface, led, named, mapError_ok, bind,
        Except.bind]
    | some id =>
      let plain : Interface :=
        { name := id.name, link := some l
          description := device.label ++ " to " ++ neighbor.label
          address, subnet, ospfCost := none, isis := false, isisProcess := none }
      have serves : plain.Serves l subnet address := ⟨rfl, rfl, rfl⟩
      obtain ⟨own, block, given⟩ := dialect.annotate_serves record.id serves
      refine .inr (.inr ⟨id, dialect.annotate net record.id plain, rfl, ?_, ?_⟩)
      · simp only [interfaceFinding, addressed, linkInterface, led, named, labelled, mapError_ok,
          bind, Except.bind, plain]
      · exact
          { link := own
            name := by rw [named]; cases dialect <;> rfl
            addressing := by rw [addressed, block, given]
            description := ⟨neighbor.label, far, by cases dialect <;> rfl⟩
            cost := dialect.annotate_cost record.id rfl rfl }

theorem failure?_of_unnamed (wf : net.WellFormed) (dialect : Dialect) (device : Device)
    (addressed : l ∈ net.addressedLinks record.id) (unnamed : record.interfaceIds.get? l = none) :
    (dialect.interfaceFinding net record device.label l).failure? =
      some (.missingInterfaceId l) := by
  obtain ⟨on, given⟩ := List.mem_filter.mp addressed
  rcases dialect.interfaceFinding_cases wf device on with
    ⟨bare, -⟩ | ⟨-, -, stopped⟩ | ⟨id, i, named, -, -⟩
  · rw [bare] at given
    cases given
  · rw [stopped]
    rfl
  · rw [unnamed] at named
    cases named

theorem omission?_interfaceFinding (dialect : Dialect) (label : String) (l : LinkId) :
    (dialect.interfaceFinding net record label l).omission? =
      if (net.addressing? record.id l).isNone then some (.unaddressedLink l) else none := by
  cases addressed : net.addressing? record.id l with
  | none => rw [interfaceFinding, addressed]; rfl
  | some addressing =>
    simp only [interfaceFinding, addressed, Option.isNone_some, Bool.false_eq_true, ↓reduceIte]
    split <;> rfl

theorem omissions_of_links (dialect : Dialect) (label : String) (links : List LinkId) :
    (links.map (dialect.interfaceFinding net record label)).filterMap Finding.omission? =
      (links.filter fun l => (net.addressing? record.id l).isNone).map .unaddressedLink := by
  induction links with
  | nil => rfl
  | cons l rest ih =>
    rw [List.map_cons, List.filterMap_cons, omission?_interfaceFinding, ih, List.filter_cons]
    cases (net.addressing? record.id l).isNone <;> rfl

/-- What follows the interfaces of the links. -/
def loopbacks (dialect : Dialect) (device : Device) (loopback : Address) : List Interface :=
  ((dialect.loopbackDescription? device).map fun description =>
    { name := dialect.loopbackName, link := none, description, address := loopback
      subnet := .single loopback, ospfCost := none, isis := false, isisProcess := none }).toList

theorem loopbackInterfaces_identify (dialect : Dialect) (record : DeviceRecord) (device : Device)
    (loopback : Address) :
    dialect.loopbackInterfaces (record.identify device loopback) device =
      .ok (dialect.loopbacks device loopback) := by
  unfold loopbackInterfaces loopbacks
  cases dialect.loopbackDescription? device <;> rfl

theorem loopbacks_of_listed {dialect : Dialect} (listed : dialect.listsLoopback device)
    (loopback : Address) :
    ∃ i, dialect.loopbacks device loopback = [i] ∧ i.Loops dialect loopback := by
  have described : ∃ description, dialect.loopbackDescription? device = some description := by
    cases dialect with
    | quagga => exact ⟨_, if_pos (by simpa [listsLoopback] using listed)⟩
    | ios | ios2 => exact ⟨_, rfl⟩
    | junos => cases listed
  obtain ⟨description, described⟩ := described
  rw [loopbacks, described]
  exact ⟨_, rfl, rfl, rfl, rfl, rfl, rfl, rfl, rfl⟩

theorem loopbacks_of_not_listed {dialect : Dialect} (unlisted : ¬ dialect.listsLoopback device)
    (loopback : Address) : dialect.loopbacks device loopback = [] := by
  have undescribed : dialect.loopbackDescription? device = none := by
    cases dialect with
    | quagga => exact if_neg (by simpa [listsLoopback] using unlisted)
    | ios | ios2 => exact absurd rfl unlisted
    | junos => rfl
  rw [loopbacks, undescribed]
  rfl

/-- Nothing can go wrong behind the walk over the links. -/
theorem interfaces_identify (dialect : Dialect) (found : net.device? record.id = some device)
    (loopback : Address) :
    let walk := Survey.collect ((net.linksOf record.id).map
      (dialect.interfaceFinding net (record.identify device loopback) device.label))
    dialect.interfaces net (record.identify device loopback) =
      ⟨walk.omissions, walk.result.map fun entries =>
        (sorted (fun a b => a.1.precedes b.1) entries).map (·.2) ++
          dialect.loopbacks device loopback⟩ := by
  intro walk
  have reached : net.device (record.identify device loopback).id = .ok device :=
    Network.device_eq_ok.mpr found
  rw [interfaces, reached]
  simp only [Survey.andThen, loopbackInterfaces_identify]
  cases result : walk.result with
  | error c => simp only [walk, DeviceRecord.identify] at result ⊢; rw [result]; rfl
  | ok entries => simp only [walk, DeviceRecord.identify] at result ⊢; rw [result]; rfl

/-- The links of a device ascend, so those below one of them are those before it. -/
theorem linksOf_split {d : DeviceId} {lower higher : List LinkId}
    (links : net.linksOf d = lower ++ l :: higher) :
    (∀ k ∈ lower, k.index < l.index) ∧ ∀ k ∈ l :: higher, l.index ≤ k.index := by
  have ascending := net.linksOf_ascending d
  rw [links, List.pairwise_append, List.pairwise_cons] at ascending
  obtain ⟨-, ⟨above, -⟩, below⟩ := ascending
  refine ⟨fun k mem => below k mem l List.mem_cons_self, fun k mem => ?_⟩
  rcases List.mem_cons.mp mem with rfl | mem
  · exact Nat.le_refl _
  · exact Nat.le_of_lt (above k mem)

theorem unaddressedLinks_below {d : DeviceId} {lower higher : List LinkId}
    (links : net.linksOf d = lower ++ l :: higher) :
    (net.unaddressedLinks d).filter (·.index < l.index) =
      lower.filter fun k => (net.addressing? d k).isNone := by
  obtain ⟨below, above⟩ := linksOf_split links
  have all_lower : lower.filter
      (fun k => decide (k.index < l.index) && (net.addressing? d k).isNone) =
      lower.filter fun k => (net.addressing? d k).isNone :=
    List.filter_congr fun k mem => by simp [below k mem]
  have none_higher : (l :: higher).filter
      (fun k => decide (k.index < l.index) && (net.addressing? d k).isNone) = [] := by
    rw [List.filter_eq_nil_iff]
    intro k mem
    have reached := above k mem
    simp only [Bool.and_eq_true, decide_eq_true_eq]
    omega
  rw [Network.unaddressedLinks, List.filter_filter, links, List.filter_append, all_lower,
    none_higher, List.append_nil]

/-- The walk stops at the lowest addressed link without an identifier. -/
theorem lacks_of_walk (wf : net.WellFormed) (dialect : Dialect) (device : Device) {c : Cause}
    (failed : (Survey.collect ((net.linksOf record.id).map
      (dialect.interfaceFinding net record device.label))).result = .error c) :
    ∃ l, record.Lacks net l ∧ c = .missingInterfaceId l ∧
      (Survey.collect ((net.linksOf record.id).map
        (dialect.interfaceFinding net record device.label))).omissions =
        ((net.unaddressedLinks record.id).filter (·.index < l.index)).map .unaddressedLink := by
  obtain ⟨before, after, split, sound, noted⟩ := Survey.of_collect_error failed
  obtain ⟨lower, others, links, rfl, rest⟩ := List.map_eq_append_iff.mp split
  obtain ⟨l, higher, rfl, stopped, -⟩ := List.map_eq_cons_iff.mp rest
  obtain ⟨-, above⟩ := linksOf_split links
  have mem : l ∈ net.linksOf record.id := by
    rw [links]
    exact List.mem_append_right _ List.mem_cons_self
  rcases dialect.interfaceFinding_cases wf device mem with
    ⟨-, omitted⟩ | ⟨addressed, unnamed, at_l⟩ | ⟨id, i, -, drawn, -⟩
  · rw [omitted] at stopped
    cases stopped
  · rw [at_l] at stopped
    cases stopped
    refine ⟨l, ⟨addressed, unnamed, fun k listed free => ?_⟩, rfl, ?_⟩
    · have present := (List.mem_filter.mp listed).1
      rw [links, List.mem_append] at present
      rcases present with inLower | fromHere
      · -- a lower link of this kind would have stopped the walk
        have smooth := sound _ (List.mem_map_of_mem inLower)
        rw [failure?_of_unnamed wf dialect device listed free] at smooth
        cases smooth
      · exact above k fromHere
    · rw [noted, omissions_of_links, unaddressedLinks_below links]
  · rw [drawn] at stopped
    cases stopped

/-- The entries of a walk that comes to an end, each with the link that it draws. -/
theorem drawn_of_mem_entries (wf : net.WellFormed) (dialect : Dialect) (device : Device)
    {entry : InterfaceId × Interface} (mem : entry ∈ dialect.entries net record device.label) :
    ∃ l, record.interfaceIds.get? l = some entry.1 ∧
      record.Draws dialect net device l entry.2 := by
  obtain ⟨l, on, found⟩ := List.mem_filterMap.mp mem
  rw [Finding.found?_eq_some] at found
  rcases dialect.interfaceFinding_cases wf device on with
    ⟨-, omitted⟩ | ⟨-, -, failed⟩ | ⟨id, i, named, drawn, draws⟩
  · rw [omitted] at found
    cases found
  · rw [failed] at found
    cases found
  · rw [drawn] at found
    cases found
    exact ⟨l, named, draws⟩

/-- Sorted entries stand in the order of their identifiers, and those of one identifier in the order
of their links. -/
theorem before_of_sorted (wf : net.WellFormed) (dialect : Dialect) (device : Device)
    (links : (dialect.entries net record device.label).filterMap (·.2.link) =
      net.addressedLinks record.id) :
    ((sorted (fun a b => a.1.precedes b.1)
      (dialect.entries net record device.label)).filterMap (·.2.link)).Pairwise record.Before := by
  have sortedEntries := pairwise_sorted_of_pairwise
    (fun a b : InterfaceId × Interface => a.1.precedes b.1)
    (fun a b c => InterfaceId.precedes_trans) (fun a b => isLE_or_isLE a.1 b.1)
    (entries_of_links_ascending links)
  rw [List.pairwise_filterMap]
  refine sortedEntries.imp_of_mem fun {a b} first second lower => ?_
  obtain ⟨k, named, draws⟩ :=
    drawn_of_mem_entries wf dialect device ((sorted_perm _ _).mem_iff.mp first)
  obtain ⟨l, alsoNamed, alsoDraws⟩ :=
    drawn_of_mem_entries wf dialect device ((sorted_perm _ _).mem_iff.mp second)
  intro m atFirst n atSecond
  obtain rfl := Option.some.inj (draws.link.symm.trans atFirst)
  obtain rfl := Option.some.inj (alsoDraws.link.symm.trans atSecond)
  obtain ⟨precedes, tie⟩ := lower
  refine ⟨a.1, b.1, named, alsoNamed, ?_⟩
  rcases InterfaceId.precedes_iff.mp precedes with position | ⟨level, name | same⟩
  · exact .inl position
  · exact .inr ⟨level, .inl name⟩
  · have back := InterfaceId.precedes_iff.mpr (.inr ⟨level.symm, .inr same.symm⟩)
    exact .inr ⟨level, .inr ⟨same, tie back k draws.link l alsoDraws.link⟩⟩

theorem forall₂_of_entries {draws : LinkId → Interface → Prop}
    {entries : List (InterfaceId × Interface)}
    (drawn : ∀ entry ∈ entries, ∃ l, entry.2.link = some l ∧ draws l entry.2) :
    List.Forall₂ draws (entries.filterMap (·.2.link)) (entries.map (·.2)) := by
  induction entries with
  | nil => exact .nil
  | cons entry rest ih =>
    obtain ⟨l, link, draws⟩ := drawn entry List.mem_cons_self
    rw [List.filterMap_cons, link, List.map_cons]
    exact .cons draws (ih fun e mem => drawn e (List.mem_cons_of_mem _ mem))

/-- A walk that comes to an end has passed every addressed link. -/
theorem entries_of_walk {dialect : Dialect} {label : String}
    {entries : List (InterfaceId × Interface)}
    (ended : (Survey.collect ((net.linksOf record.id).map
      (dialect.interfaceFinding net record label))).result = .ok entries) :
    entries = dialect.entries net record label ∧
      entries.filterMap (·.2.link) = net.addressedLinks record.id := by
  obtain ⟨smooth, all⟩ := Survey.of_collect_ok ended
  rw [List.filterMap_map] at all
  have listed : entries = dialect.entries net record label := all
  refine ⟨listed, ?_⟩
  rw [listed]
  exact links_of_entries fun l mem => smooth _ (List.mem_map_of_mem mem)

/-- A walk that comes to an end leaves one interface for each addressed link, in the order of the
identifiers, and has passed over the other links. -/
theorem drawn_of_walk (wf : net.WellFormed) (dialect : Dialect) (device : Device)
    {entries : List (InterfaceId × Interface)}
    (ended : (Survey.collect ((net.linksOf record.id).map
      (dialect.interfaceFinding net record device.label))).result = .ok entries) :
    ∃ links : List LinkId, links.Perm (net.addressedLinks record.id) ∧
      links.Pairwise record.Before ∧
      List.Forall₂ (record.Draws dialect net device) links
        ((sorted (fun a b => a.1.precedes b.1) entries).map (·.2)) ∧
      (Survey.collect ((net.linksOf record.id).map
        (dialect.interfaceFinding net record device.label))).omissions =
        (net.unaddressedLinks record.id).map .unaddressedLink := by
  obtain ⟨listed, links⟩ := entries_of_walk ended
  have perm := sorted_perm (fun a b : InterfaceId × Interface => a.1.precedes b.1) entries
  refine ⟨(sorted (fun a b => a.1.precedes b.1) entries).filterMap (·.2.link), ?_, ?_, ?_, ?_⟩
  · rw [← links]
    exact perm.filterMap _
  · subst listed
    exact before_of_sorted wf dialect device links
  · refine forall₂_of_entries fun entry mem => ?_
    have member := perm.mem_iff.mp mem
    rw [listed] at member
    obtain ⟨l, -, draws⟩ := drawn_of_mem_entries wf dialect device member
    exact ⟨l, draws.link, draws⟩
  · rw [Survey.collect_omissions ended, omissions_of_links]
    rfl

/-- The step fails exactly if an addressed link has no identifier, and then names the lowest one,
after warnings for the lower links without an address. Otherwise it lists one interface for each
addressed link, in the order of the identifiers, with a warning for each other link, and behind them
the loopback where the dialect lists it. -/
theorem interfaces_of_links (dialect : Dialect) (reachable : net.Reachable)
    (found : net.device? record.id = some device) (loopback : Address) :
    let known := record.identify device loopback
    let survey := dialect.interfaces net known
    ((∃ c, survey.result = .error c) ↔
      ∃ l ∈ net.addressedLinks known.id, known.interfaceIds.get? l = none) ∧
    (∀ c, survey.result = .error c → ∃ l, known.Lacks net l ∧ c = .missingInterfaceId l ∧
      survey.omissions =
        ((net.unaddressedLinks known.id).filter (·.index < l.index)).map .unaddressedLink) ∧
    ∀ interfaces, survey.result = .ok interfaces →
      ∃ links drawn loopbacks, interfaces = drawn ++ loopbacks ∧
        links.Perm (net.addressedLinks known.id) ∧ links.Pairwise known.Before ∧
        List.Forall₂ (known.Draws dialect net device) links drawn ∧
        survey.omissions = (net.unaddressedLinks known.id).map .unaddressedLink ∧
        (dialect.listsLoopback device → ∃ i, loopbacks = [i] ∧ i.Loops dialect loopback) ∧
        (¬ dialect.listsLoopback device → loopbacks = []) := by
  intro known survey
  have wf := reachable.wellFormed
  let walk := Survey.collect ((net.linksOf known.id).map
    (dialect.interfaceFinding net known device.label))
  have walked : survey = ⟨walk.omissions, walk.result.map fun entries =>
      (sorted (fun a b => a.1.precedes b.1) entries).map (·.2) ++
        dialect.loopbacks device loopback⟩ := dialect.interfaces_identify found loopback
  have omissions : survey.omissions = walk.omissions := by rw [walked]
  have stops : ∀ c, survey.result = .error c → walk.result = .error c := by
    intro c failed
    rw [walked] at failed
    cases result : walk.result with
    | ok entries => rw [result] at failed; cases failed
    | error d => rw [result] at failed; cases failed; rfl
  have fails : ∀ c, survey.result = .error c → ∃ l, known.Lacks net l ∧
      c = .missingInterfaceId l ∧ survey.omissions =
        ((net.unaddressedLinks known.id).filter (·.index < l.index)).map .unaddressedLink := by
    intro c failed
    rw [omissions]
    exact lacks_of_walk wf dialect device (stops c failed)
  refine ⟨⟨?_, ?_⟩, fails, fun interfaces listed => ?_⟩
  · rintro ⟨c, failed⟩
    obtain ⟨l, lacks, -⟩ := fails c failed
    exact ⟨l, lacks.addressed, lacks.unnamed⟩
  · rintro ⟨l, addressed, unnamed⟩
    cases result : walk.result with
    | error c => exact ⟨c, by rw [walked, result]; rfl⟩
    | ok entries =>
      -- the walk would have stopped at this link
      have smooth := (Survey.of_collect_ok result).1 _
        (List.mem_map_of_mem (List.mem_filter.mp addressed).1)
      rw [failure?_of_unnamed wf dialect device addressed unnamed] at smooth
      cases smooth
  · rw [walked] at listed
    cases result : walk.result with
    | error c => rw [result] at listed; cases listed
    | ok entries =>
      rw [result] at listed
      cases listed
      obtain ⟨links, perm, before, drawn, passed⟩ := drawn_of_walk wf dialect device result
      exact ⟨links, _, _, rfl, perm, before, drawn, omissions.trans passed,
        fun lists => loopbacks_of_listed lists loopback,
        fun unlisted => loopbacks_of_not_listed unlisted loopback⟩

/-- The second link has no address. The first and the third get the same identifier, and the fourth
comes before both. -/
def fourLinksRun : List Network.Change :=
  [.addDevice (Network.twoSystemsRouter "a" 1), .addDevice (Network.twoSystemsRouter "b" 1),
    .addLink ⟨0⟩ ⟨1⟩, .addLink ⟨1⟩ ⟨0⟩, .addLink ⟨1⟩ ⟨0⟩, .addLink ⟨0⟩ ⟨0⟩,
    .addressLink ⟨0⟩ (.single ⟨20⟩) [(⟨0⟩, ⟨20⟩)],
    .addressLink ⟨1⟩ (.single ⟨30⟩) [(⟨1⟩, ⟨30⟩)],
    .addressLink ⟨2⟩ (.single ⟨40⟩) [(⟨0⟩, ⟨40⟩), (⟨1⟩, ⟨41⟩)],
    .addressLink ⟨3⟩ (.single ⟨50⟩) [(⟨0⟩, ⟨50⟩)]]

def fourLinks : Network := Network.empty.after fourLinksRun

def fourLinksRecord : DeviceRecord :=
  { DeviceRecord.blank ⟨0⟩ "a" with
    interfaceIds := .ofList [(⟨0⟩, ⟨5, "eth5"⟩), (⟨2⟩, ⟨5, "eth5"⟩), (⟨3⟩, ⟨1, "eth1"⟩)] }

theorem fourLinks_listed :
    let router := Network.twoSystemsRouter "a" 1
    let known := fourLinksRecord.identify router ⟨1⟩
    (∃ (links : List LinkId) (drawn : List Interface) (i : Interface),
      (quagga.interfaces fourLinks known).result = .ok (drawn ++ [i]) ∧
      links.Perm [⟨0⟩, ⟨2⟩, ⟨3⟩] ∧ links.Pairwise known.Before ∧ i.Loops quagga ⟨1⟩ ∧
      (quagga.interfaces fourLinks known).omissions = [.unaddressedLink ⟨1⟩]) ∧
    ∃ c, (quagga.interfaces fourLinks
      ((DeviceRecord.blank ⟨0⟩ "a").identify router ⟨1⟩)).result = .error c := by
  intro router known
  have found : fourLinks.device? ⟨0⟩ = some router := by decide +kernel
  have links : fourLinks.addressedLinks ⟨0⟩ = [⟨0⟩, ⟨2⟩, ⟨3⟩] := by decide +kernel
  have passed : fourLinks.unaddressedLinks ⟨0⟩ = [⟨1⟩] := by decide +kernel
  obtain ⟨-, -, lists⟩ :=
    @interfaces_of_links fourLinks fourLinksRecord router quagga ⟨_, rfl⟩ found ⟨1⟩
  obtain ⟨fails, -, -⟩ :=
    @interfaces_of_links fourLinks (.blank ⟨0⟩ "a") router quagga ⟨_, rfl⟩ found ⟨1⟩
  refine ⟨?_, fails.mpr ⟨⟨0⟩, ?_, rfl⟩⟩
  · have ends : (quagga.interfaces fourLinks known).result.toOption.isSome := by decide +kernel
    cases result : (quagga.interfaces fourLinks known).result with
    | error c => rw [result] at ends; cases ends
    | ok interfaces =>
      obtain ⟨order, drawn, loopbacks, rfl, perm, before, -, omissions, loops, -⟩ :=
        lists interfaces result
      obtain ⟨i, rfl, looped⟩ := loops rfl
      refine ⟨order, drawn, i, rfl, ?_, before, looped, ?_⟩
      · rw [← links]
        exact perm
      · rw [← List.map_singleton, ← passed]
        exact omissions
  · exact links ▸ List.mem_cons_self

end Dialect

end NetDesign
