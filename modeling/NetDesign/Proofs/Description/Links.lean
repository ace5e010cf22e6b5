import NetDesign.Proofs.Description.Devices
import Mathlib.Data.List.Nodup

set_option autoImplicit false

namespace NetDesign.Description

variable {net : Network} {devices : List DeviceItem}

theorem lookup_decided (named : ∀ name, net.named? name = deviceOf? devices name)
    (name : String) :
    DecidedBy (unknown? devices name) (fun d => deviceOf? devices name = some d)
      (lookup net name) := by
  unfold lookup unknown?
  rw [named]
  cases stands : deviceOf? devices name with
  | none =>
    rw [if_neg (deviceOf?_eq_none.mp stands)]
    rfl
  | some d =>
    rw [if_pos (deviceOf?_isSome.mp (Option.isSome_of_eq_some stands))]
    exact ⟨rfl, rfl⟩

/-- The devices that names stand for are in the network. -/
theorem present_of_deviceOf? (listed : List.Forall₂ DeviceItem.Describes devices net.devices)
    {name : String} {d : DeviceId} (stands : deviceOf? devices name = some d) :
    (net.device? d).isSome := by
  obtain ⟨item, found, -⟩ := exists_of_deviceOf? stands
  obtain ⟨device, present, -⟩ := exists_of_forall₂ listed found
  exact Option.isSome_of_eq_some present

theorem addLink_of_present {a b : DeviceId} (first : (net.device? a).isSome)
    (second : (net.device? b).isSome) :
    net.addLink a b =
      .ok ({ net with links := net.links ++ [⟨a, b⟩] }, ⟨net.links.length⟩) := by
  obtain ⟨_, foundFirst⟩ := Network.device_of_present first
  obtain ⟨_, foundSecond⟩ := Network.device_of_present second
  rw [Network.addLink, foundFirst, foundSecond]
  rfl

/-- Entries by name, and the same entries by the devices of the names. -/
def Resolves (devices : List DeviceItem) (entry : String × Address) (found : DeviceId × Address) :
    Prop :=
  deviceOf? devices entry.1 = some found.1 ∧ found.2 = entry.2

section Resolved

variable {entries : List (String × Address)} {found : List (DeviceId × Address)}
  (resolved : List.Forall₂ (Resolves devices) entries found)
include resolved

theorem map_of_resolved :
    found.map (fun e => (some e.1, e.2)) =
      entries.map fun e => (deviceOf? devices e.1, e.2) := by
  induction resolved with
  | nil => rfl
  | cons first _ ih => rw [List.map_cons, List.map_cons, ih, first.1, first.2]

theorem mem_of_resolved {d : DeviceId} {address : Address} :
    (d, address) ∈ found ↔
      ∃ name, deviceOf? devices name = some d ∧ (name, address) ∈ entries := by
  have moved : (d, address) ∈ found ↔
      (some d, address) ∈ found.map fun e => (some e.1, e.2) := by
    simp
  rw [moved, map_of_resolved resolved, List.mem_map]
  constructor
  · rintro ⟨⟨name, given⟩, mem, same⟩
    obtain ⟨stands, rfl⟩ := Prod.mk.inj same
    exact ⟨name, stands, mem⟩
  · rintro ⟨name, stands, mem⟩
    exact ⟨(name, address), mem, by rw [stands]⟩

/-- Different names stand for different devices. -/
theorem nodup_of_resolved (distinct : (entries.map (·.1)).Nodup) : (found.map (·.1)).Nodup := by
  induction resolved with
  | nil => exact .nil
  | @cons entry e entries found first rest ih =>
    have ⟨absent, distinctRest⟩ := List.nodup_cons.mp distinct
    refine List.nodup_cons.mpr ⟨fun mem => absent ?_, ih distinctRest⟩
    obtain ⟨⟨d, address⟩, listed, same⟩ := List.mem_map.mp mem
    obtain ⟨name, stands, given⟩ := (mem_of_resolved rest).mp listed
    simp only at same
    rw [same] at stands
    exact List.mem_map.mpr ⟨(name, address), given, deviceOf?_injective stands first.1⟩

end Resolved

/-- A device is on the link exactly if its name is one of the two of the link. -/
theorem LinkItem.Describes.touches {item : LinkItem} {link : Link}
    (describes : item.Describes devices link) {name : String} {d : DeviceId}
    (stands : deviceOf? devices name = some d) :
    link.touches d ↔ name = item.source ∨ name = item.target := by
  simp only [Link.touches, Bool.or_eq_true, decide_eq_true_eq]
  have source := describes.source
  have target := describes.target
  constructor
  · rintro (same | same)
    · rw [same] at source
      exact .inl (deviceOf?_injective stands source)
    · rw [same] at target
      exact .inr (deviceOf?_injective stands target)
  · rintro (rfl | rfl)
    · rw [stands, Option.some.injEq] at source
      exact .inl source.symm
    · rw [stands, Option.some.injEq] at target
      exact .inr target.symm

/-- The first device that is not on the link is the first one that is not among its names. -/
theorem find_stray {item : LinkItem} {link : Link} (describes : item.Describes devices link)
    (l : LinkId) {entries : List (String × Address)} {found : List (DeviceId × Address)}
    (resolved : List.Forall₂ (Resolves devices) entries found) :
    (entries.map (·.1)).findSome? (item.stray? devices l) =
      (found.find? fun (d, _) => !link.touches d).map fun (d, _) =>
        .inconsistent (.notAnEnd d l) := by
  induction resolved with
  | nil => rfl
  | @cons entry e entries found first _ ih =>
    obtain ⟨d, address⟩ := e
    have on := describes.touches first.1
    rw [List.map_cons, findSome?_cons_eq_or, ih, List.find?_cons, LinkItem.stray?]
    by_cases named : entry.1 = item.source ∨ entry.1 = item.target
    · have touches : link.touches d = true := on.mpr named
      simp only [if_pos named, Option.none_or, touches, Bool.not_true]
    · have off : link.touches d = false := by
        rw [← on] at named
        simpa using named
      simp only [if_neg named, first.1, off, Bool.not_false, Option.map_some, Option.some_or]

/-- The addresses of a link are taken if they are all for its ends, and each end gets its own. -/
theorem addressLink_decided {item : LinkItem} {link : Link}
    (describes : item.Describes devices link) {l : LinkId} (present : net.link? l = some link)
    (free : net.ip.edges.get? l = none) (ip : IpItem) {found : List (DeviceId × Address)}
    (resolved : List.Forall₂ (Resolves devices) ip.addresses.toList found) :
    DecidedBy (ip.addresses.keys.findSome? (item.stray? devices l))
      (fun changed => ∃ edge, ip.Describes devices edge ∧
        changed = { net with ip := { net.ip with edges := net.ip.edges.insert l edge } })
      (made (net.addressLink l ip.subnet found)) := by
  have unused : net.ip.edges.contains l = false := by
    rw [SortedMap.contains, free]
    rfl
  rw [SortedMap.keys, find_stray describes l resolved, Network.addressLink,
    bind_of_eq_ok (Network.link_eq_ok.mpr present)]
  simp only [unused]
  cases found.find? fun (d, _) => !link.touches d with
  | some e => rfl
  | none =>
    have distinct : (found.map (·.1)).Nodup := nodup_of_resolved resolved ip.addresses.keys_nodup
    refine ⟨rfl, ⟨ip.subnet, .ofList found⟩, ⟨rfl, fun d address => ?_, ?_⟩, rfl⟩
    · rw [SortedMap.get?_ofList distinct, mem_of_resolved resolved]
      simp only [SortedMap.get?_eq_some_iff]
    · exact (SortedMap.toList_ofList_perm distinct).length_eq.trans resolved.length_eq.symm

theorem IpItem.addTo_decided (net : Network)
    (named : ∀ name, net.named? name = deviceOf? devices name)
    {item : LinkItem} {link : Link} (describes : item.Describes devices link) {l : LinkId}
    (present : net.link? l = some link) (free : net.ip.edges.get? l = none) (ip : IpItem) :
    DecidedBy ((ip.addresses.keys.findSome? (unknown? devices)).or
        (ip.addresses.keys.findSome? (item.stray? devices l)))
      (fun changed => ∃ edge, ip.Describes devices edge ∧
        changed = { net with ip := { net.ip with edges := net.ip.edges.insert l edge } })
      (ip.addTo l net) := by
  have each (entry : String × Address) : DecidedBy (unknown? devices entry.1)
      (Resolves devices entry) (lookup net entry.1 >>= fun d => .ok (d, entry.2)) := by
    rw [← Option.or_none (o := unknown? devices entry.1)]
    exact (lookup_decided named entry.1).bind fun d stands => ⟨rfl, stands, rfl⟩
  have all := DecidedBy.mapM each ip.addresses.toList
  have names : ip.addresses.toList.findSome? (fun entry => unknown? devices entry.1) =
      ip.addresses.keys.findSome? (unknown? devices) := by
    rw [SortedMap.keys, List.findSome?_map]
    rfl
  rw [names] at all
  exact all.bind fun found resolved => addressLink_decided describes present free ip resolved

namespace LinkItem

variable {item : LinkItem}

/-- What is wrong with the addresses of a link, if anything is. -/
def addressFault? (item : LinkItem) (devices : List DeviceItem) (l : LinkId) :
    Option DescriptionError :=
  (item.addressed.findSome? (unknown? devices)).or
    (item.addressed.findSome? (item.stray? devices l))

theorem fault?_eq (before : List LinkItem) :
    item.fault? devices before =
      (unknown? devices item.source).or ((unknown? devices item.target).or
        (item.addressFault? devices ⟨before.length⟩)) := by
  simp only [fault?, addressFault?, findSome?_cons_eq_or, Option.or_assoc]

theorem given_runOspf {l : LinkId} {link : Link} (present : net.link? l = some link)
    (free : net.ospf.edges.get? l = none) (edge : Option OspfEdge) :
    given edge net (fun net edge => net.runOspf l edge) =
      .ok { net with ospf := { net.ospf with edges := net.ospf.edges.insertGiven l edge } } := by
  have unused : net.ospf.edges.contains l = false := by
    rw [SortedMap.contains, free]
    rfl
  cases edge with
  | none => rfl
  | some edge =>
    rw [given, Network.runOspf, Network.link_eq_ok.mpr present]
    simp only [unused]
    rfl

theorem wanted_runIsis {l : LinkId} {link : Link} (present : net.link? l = some link)
    (unused : net.isis.edges.contains l = false) (flag : Bool) :
    wanted flag net (fun net => net.runIsis l) =
      .ok { net with isis := { net.isis with edges := net.isis.edges.insertWanted l flag } } := by
  cases flag with
  | false => rfl
  | true =>
    rw [wanted, if_pos rfl, Network.runIsis, Network.link_eq_ok.mpr present]
    simp only [unused]
    rfl

/-- The network with one more link, in the layers that it is described in. -/
def laid (item : LinkItem) (net : Network) (link : Link) (edge : Option IpEdge) : Network :=
  let l : LinkId := ⟨net.links.length⟩
  { net with
    links := net.links ++ [link]
    ip := { net.ip with edges := net.ip.edges.insertGiven l edge }
    ospf := { net.ospf with edges := net.ospf.edges.insertGiven l item.ospf }
    isis := { net.isis with edges := net.isis.edges.insertWanted l item.isis } }

/-- The network with one more link, of which only the addresses are known. -/
def wired (net : Network) (link : Link) (edge : Option IpEdge) : Network :=
  { net with
    links := net.links ++ [link]
    ip := { net.ip with edges := net.ip.edges.insertGiven ⟨net.links.length⟩ edge } }

section Laid

variable {before : List LinkItem} (mirrors : (part devices before []).Mirrors net)
include mirrors

/-- No layer uses a link that is not there yet. -/
theorem free_of_mirrors :
    net.ip.edges.get? ⟨net.links.length⟩ = none ∧ net.ospf.edges.get? ⟨net.links.length⟩ = none ∧
      net.isis.edges.contains ⟨net.links.length⟩ = false := by
  have next : before[net.links.length]? = none :=
    List.getElem?_eq_none (Nat.le_of_eq mirrors.links.length_eq)
  refine ⟨?_, ?_, ?_⟩
  · have rel := mirrors.ipLinks ⟨net.links.length⟩
    simp only [part, next, Option.bind_none] at rel
    generalize net.ip.edges.get? ⟨net.links.length⟩ = edge at rel
    cases rel
    rfl
  · have same := mirrors.ospfLinks ⟨net.links.length⟩
    simpa only [part, next, Option.bind_none] using same
  · have unused := mirrors.isisLinks ⟨net.links.length⟩
    simpa [part, next, Network.hasLink] using unused

theorem laid_mirrors {link : Link} (describes : item.Describes devices link)
    {edge : Option IpEdge} (told : Option.Rel (IpItem.Describes devices) item.ip edge) :
    (part devices (before ++ [item]) []).Mirrors (item.laid net link edge) where
  devices := mirrors.devices
  names := mirrors.names
  loopbacks := mirrors.loopbacks
  ospfDevices := mirrors.ospfDevices
  isisDevices := mirrors.isisDevices
  speakers := mirrors.speakers
  links := forall₂_concat mirrors.links describes
  ipLinks l := by
    have next : before.length = net.links.length := mirrors.links.length_eq
    change Option.Rel _ ((before ++ [item])[l.index]?.bind _)
      ((net.ip.edges.insertGiven ⟨net.links.length⟩ edge).get? l)
    rw [SortedMap.get?_insertGiven, Network.getElem?_concat, next]
    by_cases same : l = ⟨net.links.length⟩
    · rw [if_pos same, if_pos (congrArg LinkId.index same), (free_of_mirrors mirrors).1,
        Option.or_none]
      exact told
    · rw [if_neg same, if_neg fun equal => same (LinkId.index_injective l _ equal)]
      exact mirrors.ipLinks l
  ospfLinks := SortedMap.get?_insertGiven_concat LinkId.index_injective mirrors.ospfLinks item
    mirrors.links.length_eq.symm
  isisLinks := SortedMap.contains_insertWanted_concat LinkId.index_injective mirrors.isisLinks item
    mirrors.links.length_eq.symm
  sessions := mirrors.sessions
  blocks := mirrors.blocks

/-- Once its addresses are settled a link cannot be at fault any more. -/
theorem wired_decided {link : Link} (describes : item.Describes devices link)
    {edge : Option IpEdge} (told : Option.Rel (IpItem.Describes devices) item.ip edge) {l : LinkId}
    (next : l = ⟨net.links.length⟩) :
    DecidedBy none (part devices (before ++ [item]) []).Mirrors
      (given item.ospf (wired net link edge) (fun changed edge => changed.runOspf l edge) >>=
        fun changed => wanted item.isis changed fun changed => changed.runIsis l) := by
  obtain ⟨-, unrouted, unused⟩ := free_of_mirrors mirrors
  have present : (wired net link edge).link? ⟨net.links.length⟩ = some link := by
    rw [Network.link?, wired, Network.getElem?_concat, if_pos rfl]
  subst next
  rw [bind_of_eq_ok (given_runOspf present unrouted item.ospf)]
  exact .of_eq_ok (wanted_runIsis (by exact present) (by exact unused) item.isis)
    (laid_mirrors mirrors describes told)

end Laid

/-- A link is added unless a name is unknown or it gives an address to a device that is not on
it. -/
theorem addTo_decided (devices : List DeviceItem) (before : List LinkItem) (item : LinkItem)
    (net : Network) (mirrors : (part devices before []).Mirrors net) :
    DecidedBy (item.fault? devices before) (part devices (before ++ [item]) []).Mirrors
      (item.addTo net) := by
  have named := mirrors.names
  have next : before.length = net.links.length := mirrors.links.length_eq
  obtain ⟨unaddressed, -, -⟩ := free_of_mirrors mirrors
  rw [fault?_eq, next]
  refine (lookup_decided named item.source).bind fun source fromSource => ?_
  refine (lookup_decided named item.target).bind fun target fromTarget => ?_
  have added : made (net.addLink source target) =
      .ok ({ net with links := net.links ++ [⟨source, target⟩] }, ⟨net.links.length⟩) := by
    rw [addLink_of_present (present_of_deviceOf? mirrors.devices fromSource)
      (present_of_deviceOf? mirrors.devices fromTarget)]
    rfl
  have present : (net.links ++ [⟨source, target⟩])[net.links.length]? = some ⟨source, target⟩ := by
    rw [Network.getElem?_concat, if_pos rfl]
  have describes : item.Describes devices ⟨source, target⟩ := ⟨fromSource, fromTarget⟩
  rw [bind_of_eq_ok added]
  unfold addressFault? addressed
  cases ip : item.ip with
  | none => exact wired_decided mirrors describes (by rw [ip]; exact .none) rfl
  | some addressing =>
    rw [← Option.or_none (o := Option.or _ _)]
    refine (IpItem.addTo_decided { net with links := net.links ++ [⟨source, target⟩] } named
      describes present unaddressed addressing).bind ?_
    rintro _ ⟨edge, told, rfl⟩
    exact wired_decided mirrors describes (by rw [ip]; exact .some told) rfl

end LinkItem

end NetDesign.Description
