import NetDesign.Proofs.Configuration.Compile
import NetDesign.Proofs.Network.Runs

set_option autoImplicit false

namespace NetDesign

namespace Network

/-- The networks agree on all that is close to a device. -/
structure AgreeAbout (net other : Network) (d : DeviceId) : Prop where
  known : net.device? d = other.device? d
  loopback : net.loopback? d = other.loopback? d
  ospf : net.hasDevice .ospf d = other.hasDevice .ospf d
  bgp : net.hasDevice .bgp d = other.hasDevice .bgp d
  isis : net.isis.nodes.get? d = other.isis.nodes.get? d
  links : net.linksOf d = other.linksOf d
  ends : ∀ l ∈ net.linksOf d, net.link? l = other.link? l
  farLabels : ∀ l ∈ net.linksOf d, net.farLabel? d l = other.farLabel? d l
  ipEdges : ∀ l ∈ net.linksOf d, net.ip.edges.get? l = other.ip.edges.get? l
  ospfEdges : ∀ l ∈ net.linksOf d, net.ospf.edges.get? l = other.ospf.edges.get? l
  isisEdges : ∀ l ∈ net.linksOf d, net.isis.edges.get? l = other.isis.edges.get? l
  sessions : net.sessionsOf d = other.sessionsOf d
  targetLabels : ∀ s ∈ net.sessionsOf d,
    (net.device? s.target).map (·.label) = (other.device? s.target).map (·.label)
  targetSystems : ∀ s ∈ net.sessionsOf d,
    (net.device? s.target).bind (·.asn) = (other.device? s.target).bind (·.asn)
  targetLoopbacks : ∀ s ∈ net.sessionsOf d, net.loopback? s.target = other.loopback? s.target
  blocks : ∀ device asn, net.device? d = some device → device.asn = some asn →
    net.blocks.get? asn = other.blocks.get? asn

/-- How the sessions of different sources are interleaved is not seen by any of them. -/
theorem agreeAbout_of_sessions (net : Network) (d : DeviceId) {sessions : List Session}
    (same : sessions.filter (·.source = d) = net.sessionsOf d) :
    net.AgreeAbout { net with sessions := sessions } d where
  known := rfl
  loopback := rfl
  ospf := rfl
  bgp := rfl
  isis := rfl
  links := rfl
  ends _ _ := rfl
  farLabels _ _ := rfl
  ipEdges _ _ := rfl
  ospfEdges _ _ := rfl
  isisEdges _ _ := rfl
  sessions := same.symm
  targetLabels _ _ := rfl
  targetSystems _ _ := rfl
  targetLoopbacks _ _ := rfl
  blocks _ _ _ _ := rfl

namespace AgreeAbout

variable {net other : Network} {d : DeviceId} {l : LinkId} {s : Session}

theorem device (agree : net.AgreeAbout other d) : net.device d = other.device d := by
  rw [Network.device, Network.device, agree.known]

theorem addressing (agree : net.AgreeAbout other d) (mem : l ∈ net.linksOf d) :
    net.addressing? d l = other.addressing? d l := by
  rw [addressing?, addressing?, agree.ipEdges l mem]

theorem neighbor (agree : net.AgreeAbout other d) (mem : l ∈ net.linksOf d) :
    net.neighbor d l = other.neighbor d l := by
  rw [Network.neighbor, Network.neighbor, link, link, agree.ends l mem]

theorem neighborLabel (agree : net.AgreeAbout other d) (mem : l ∈ net.linksOf d) {e : DeviceId}
    (leads : net.neighbor d l = .ok e) : net.label e = other.label e := by
  have there := neighbor_eq_ok.mp leads
  have back := neighbor_eq_ok.mp ((agree.neighbor mem).symm.trans leads)
  have same := agree.farLabels l mem
  rw [farLabel?, farLabel?, there, back, Option.bind_some, Option.bind_some] at same
  rw [label, label, Network.device, Network.device]
  cases found : net.device? e <;> cases present : other.device? e <;>
    simp_all [Except.map]

/-- A session is carried by a link of its source, whether it names one or not. -/
theorem candidate_mem_linksOf (wf : net.WellFormed) (mem : s ∈ net.sessionsOf d)
    (candidate : l ∈ net.candidates s) : l ∈ net.linksOf d := by
  obtain ⟨given, rfl⟩ := mem_sessionsOf.mp mem
  unfold candidates at candidate
  split at candidate
  case h_1 k named =>
    obtain ⟨-, -, -, via⟩ := wf.sessions s given
    rw [List.mem_singleton.mp candidate]
    exact mem_linksOf.mpr (via k named)
  case h_2 => exact (net.linksBetween_sublist s.source s.target).subset candidate

theorem candidates (agree : net.AgreeAbout other d) (mem : s ∈ net.sessionsOf d) :
    net.candidates s = other.candidates s := by
  obtain ⟨-, rfl⟩ := mem_sessionsOf.mp mem
  have between : net.linksBetween s.source s.target = other.linksBetween s.source s.target := by
    rw [linksBetween, linksBetween, ← agree.links]
    exact List.filter_congr fun l on => by rw [agree.ends l on]
  rw [Network.candidates, Network.candidates, between]

theorem adjacency (wf : net.WellFormed) (agree : net.AgreeAbout other d)
    (mem : s ∈ net.sessionsOf d) : net.adjacency s = other.adjacency s := by
  have pairs : (net.candidates s).filterMap (net.addressPair? s.source s.target) =
      (net.candidates s).filterMap (other.addressPair? s.source s.target) :=
    List.filterMap_congr fun l candidate => by
      rw [addressPair?, addressPair?, agree.ipEdges l (candidate_mem_linksOf wf mem candidate)]
  rw [Network.adjacency, Network.adjacency, ← agree.candidates mem, pairs]

end AgreeAbout

end Network

namespace Dialect

variable {net other : Network} {record : DeviceRecord} {d : DeviceId}

theorem annotate_local (dialect : Dialect) (agree : net.AgreeAbout other d) {i : Interface}
    {l : LinkId} (mem : l ∈ net.linksOf d) (link : i.link = some l) :
    dialect.annotate net d i = dialect.annotate other d i := by
  have cost : i.withCost net = i.withCost other := by
    simp only [Interface.withCost, link, Option.bind_some, agree.ospfEdges l mem]
  have runs : ∀ j : Interface, j.link = some l → j.withIsis net d = j.withIsis other d := by
    intro j same
    simp only [Interface.withIsis, same, Option.any_some, SortedMap.contains,
      agree.isisEdges l mem, agree.isis]
  cases dialect with
  | quagga => exact cost
  | ios | ios2 => simp only [annotate, cost]; exact runs _ link
  | junos => rfl

theorem linkInterface_local (dialect : Dialect) (agree : net.AgreeAbout other record.id)
    (label : String) {l : LinkId} (mem : l ∈ net.linksOf record.id) (subnet : Net)
    (address : Address) :
    dialect.linkInterface net record label l subnet address =
      dialect.linkInterface other record label l subnet address := by
  rw [linkInterface, linkInterface, ← agree.neighbor mem]
  cases leads : net.neighbor record.id l with
  | error e => rfl
  | ok e =>
    simp only [mapError_ok, bind, Except.bind, ← agree.neighborLabel mem leads,
      dialect.annotate_local agree mem]

theorem interfaces_local (dialect : Dialect) (agree : net.AgreeAbout other record.id) :
    dialect.interfaces net record = dialect.interfaces other record := by
  have findings : ∀ label, (net.linksOf record.id).map (dialect.interfaceFinding net record label) =
      (other.linksOf record.id).map (dialect.interfaceFinding other record label) := by
    intro label
    rw [← agree.links]
    refine List.map_congr_left fun l mem => ?_
    rw [interfaceFinding, interfaceFinding, ← agree.addressing mem]
    simp only [dialect.linkInterface_local agree label mem]
  rw [interfaces, interfaces, agree.device]
  simp only [findings]

theorem ospf_local (dialect : Dialect) (settings : Settings) (agree : net.AgreeAbout other d) :
    dialect.ospf net settings d = dialect.ospf other settings d := by
  have links : net.ospfLinksOf d = other.ospfLinksOf d := by
    rw [Network.ospfLinksOf, Network.ospfLinksOf, ← agree.links]
    exact List.filterMap_congr fun l mem => by rw [agree.ospfEdges l mem]
  have networks : ∀ e ∈ net.ospfLinksOf d,
      net.ospfNetwork? e.1 e.2 = other.ospfNetwork? e.1 e.2 := by
    intro e listed
    obtain ⟨l, mem, given⟩ := List.mem_filterMap.mp listed
    obtain ⟨edge, -, rfl⟩ := Option.map_eq_some_iff.mp given
    rw [Network.ospfNetwork?, Network.ospfNetwork?, agree.ipEdges l mem]
  simp only [ospf, ← links]
  rw [List.filter_congr fun e listed => by rw [networks e listed],
    List.filterMap_congr fun e listed => networks e listed]

theorem sessionFinding_local (wf : net.WellFormed) (dialect : Dialect)
    (agree : net.AgreeAbout other d) {s : Session} (mem : s ∈ net.sessionsOf d) :
    dialect.sessionFinding net s = dialect.sessionFinding other s := by
  have labels := agree.targetLabels s mem
  have systems := agree.targetSystems s mem
  rw [sessionFinding, sessionFinding, Network.device, Network.device]
  cases found : net.device? s.target with
  | none =>
    rw [found, Option.map_none, eq_comm, Option.map_eq_none_iff] at labels
    rw [labels]
  | some target =>
    rw [found, Option.map_some, eq_comm, Option.map_eq_some_iff] at labels
    obtain ⟨again, present, label⟩ := labels
    rw [found, present, Option.bind_some, Option.bind_some] at systems
    simp only [present, label, ← systems, peerFinding, agree.targetLoopbacks s mem,
      agree.adjacency wf mem]

theorem surveyBgp_local (wf : net.WellFormed) (dialect : Dialect)
    (agree : net.AgreeAbout other d) : dialect.surveyBgp net d = dialect.surveyBgp other d := by
  have findings : (net.sessionsOf d).map (dialect.sessionFinding net) =
      (other.sessionsOf d).map (dialect.sessionFinding other) := by
    rw [← agree.sessions]
    exact List.map_congr_left fun s mem => dialect.sessionFinding_local wf agree mem
  have section_eq : dialect.bgp net d = dialect.bgp other d := by
    rw [Dialect.bgp, Dialect.bgp, ← agree.device]
    cases reached : net.device d with
    | error e => rfl
    | ok device =>
      cases numbered : device.asn with
      | none => simp only [numbered]
      | some asn =>
        have blocks := agree.blocks device asn (Network.device_eq_ok.mp reached) numbered
        simp only [numbered, blocks, findings]
  rw [surveyBgp, surveyBgp, agree.bgp, section_eq]

theorem isis_local (dialect : Dialect) (agree : net.AgreeAbout other d) :
    dialect.isis net d = dialect.isis other d := by
  cases dialect with
  | ios | ios2 => exact agree.isis
  | quagga | junos => rfl

/-- Networks that agree about a device compile every record of it to the same outcome: the same
record, the same warnings, and the same failure or none. -/
theorem compile_local (dialect : Dialect) (settings : Settings) (reachable : net.Reachable)
    (agree : net.AgreeAbout other record.id) :
    dialect.compile net settings record = dialect.compile other settings record := by
  have wf := reachable.wellFormed
  have identity : record.identity net = record.identity other := by
    rw [DeviceRecord.identity, DeviceRecord.identity, agree.device, agree.loopback]
  have routed : ∀ r : DeviceRecord, r.id = record.id →
      dialect.fillOspf net settings r = dialect.fillOspf other settings r := by
    intro r own
    rw [fillOspf, fillOspf, own, agree.ospf, dialect.ospf_local settings agree]
  have peered : ∀ (name : String) (warnings : List Warning) (r : DeviceRecord), r.id = record.id →
      dialect.compilePeering net name warnings r =
        dialect.compilePeering other name warnings r := by
    intro name warnings r own
    simp only [compilePeering, own, dialect.surveyBgp_local wf agree, dialect.isis_local agree]
  rw [compile, compile, ← identity]
  cases record.identity net with
  | error c => rfl
  | ok known =>
    obtain ⟨device, loopback⟩ := known
    have wired : dialect.interfaces net (record.identify device loopback) =
        dialect.interfaces other (record.identify device loopback) :=
      dialect.interfaces_local agree
    simp only [compileSections, ← wired]
    cases (dialect.interfaces net (record.identify device loopback)).result with
    | error c => rfl
    | ok interfaces =>
      obtain ⟨warnings, ospf, filled⟩ := dialect.fillOspf_eq net settings record.id
      simp only [← routed { record.identify device loopback with interfaces } rfl,
        filled { record.identify device loopback with interfaces } rfl]
      exact peered _ _ _ rfl

/-- The two systems with a third router behind the second one, whose sessions stand before and
between those of the first two. -/
def crowdedRun : List Network.Change :=
  Network.twoSystemsRun.take 7 ++
    [.addDevice (Network.twoSystemsRouter "c" 3), .setLoopback ⟨2⟩ (some ⟨3⟩),
      .addLink ⟨1⟩ ⟨2⟩, .addressLink ⟨2⟩ (.single ⟨40⟩) [(⟨1⟩, ⟨40⟩), (⟨2⟩, ⟨41⟩)],
      .setBlocks 3 [.single ⟨3⟩], .addSession ⟨⟨1⟩, ⟨2⟩, .ebgp, none, none⟩,
      .addSession Network.sessionThere, .addSession ⟨⟨2⟩, ⟨1⟩, .ebgp, none, some ⟨2⟩⟩,
      .addSession Network.sessionBack]

def crowdedSystems : Network := Network.empty.after crowdedRun

/-- A record of the first router, with a name for the interface on its addressed link. -/
def firstRouterRecord : DeviceRecord :=
  { DeviceRecord.blank ⟨0⟩ "a" with interfaceIds := .ofList [(⟨1⟩, ⟨0, "eth0"⟩)] }

theorem twoSystems_agreeAbout : Network.twoSystems.AgreeAbout crowdedSystems ⟨0⟩ where
  known := by decide +kernel
  loopback := by decide +kernel
  ospf := by decide +kernel
  bgp := by decide +kernel
  isis := by decide +kernel
  links := by decide +kernel
  ends := by decide +kernel
  farLabels := by decide +kernel
  ipEdges := by decide +kernel
  ospfEdges := by decide +kernel
  isisEdges := by decide +kernel
  sessions := by decide +kernel
  targetLabels := by decide +kernel
  targetSystems := by decide +kernel
  targetLoopbacks := by decide +kernel
  blocks device asn found numbered := by
    have first : Network.twoSystems.device? ⟨0⟩ = some (Network.twoSystemsRouter "a" 1) := by
      decide +kernel
    obtain rfl := Option.some.inj (first.symm.trans found)
    obtain rfl : (1 : AsNumber) = asn := Option.some.inj numbered
    decide +kernel

theorem twoSystems_compile_local :
    Network.twoSystems ≠ crowdedSystems ∧
      (quagga.compile Network.twoSystems .standard firstRouterRecord).failure = none ∧
      quagga.compile Network.twoSystems .standard firstRouterRecord =
        quagga.compile crowdedSystems .standard firstRouterRecord :=
  ⟨by decide +kernel, by decide +kernel,
    compile_local quagga .standard Network.twoSystems_reachable twoSystems_agreeAbout⟩

end Dialect

end NetDesign
