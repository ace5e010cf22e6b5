import NetDesign.Proofs.Description.Mirror
import NetDesign.Proofs.Network.Refusals

set_option autoImplicit false

namespace NetDesign.Description

namespace DeviceItem

section Steps

variable {net : Network} {d : DeviceId} (present : (net.device? d).isSome)
include present

theorem given_setLoopback (loopback : Option Address) :
    given loopback net (fun net address => net.setLoopback d (some address)) =
      .ok { net with ip :=
        { net.ip with nodes := net.ip.nodes.insertGiven d (loopback.map some) } } := by
  obtain ⟨device, found⟩ := Network.device_of_present present
  cases loopback with
  | none => rfl
  | some address =>
    rw [given, Network.setLoopback, found]
    rfl

theorem wanted_joinOspf (flag : Bool) :
    wanted flag net (fun net => net.joinOspf d) =
      .ok { net with ospf := { net.ospf with nodes := net.ospf.nodes.insertWanted d flag } } := by
  obtain ⟨device, found⟩ := Network.device_of_present present
  cases flag with
  | false => rfl
  | true =>
    rw [wanted, if_pos rfl, Network.joinOspf, found]
    rfl

theorem wanted_joinBgp (flag : Bool) :
    wanted flag net (fun net => net.joinBgp d) =
      .ok { net with speakers := net.speakers.insertWanted d flag } := by
  cases flag with
  | false => rfl
  | true =>
    rw [wanted, if_pos rfl, Network.joinBgp_of_present present]
    rfl

theorem given_joinIsis (node : Option IsisNode) :
    given node net (fun net node => net.joinIsis d node) =
      .ok { net with isis := { net.isis with nodes := net.isis.nodes.insertGiven d node } } := by
  obtain ⟨device, found⟩ := Network.device_of_present present
  cases node with
  | none => rfl
  | some node =>
    rw [given, Network.joinIsis, found]
    rfl

end Steps

variable {net : Network} {item : DeviceItem}

/-- The network with one more device, in the layers that it is described in. -/
def joined (item : DeviceItem) (net : Network) : Network :=
  let d : DeviceId := ⟨net.devices.length⟩
  { net with
    devices := net.devices ++ [item.device]
    names := net.names.insert item.name d
    ip := { net.ip with nodes := net.ip.nodes.insertGiven d (item.loopback.map some) }
    ospf := { net.ospf with nodes := net.ospf.nodes.insertWanted d item.ospf }
    speakers := net.speakers.insertWanted d item.bgp
    isis := { net.isis with nodes := net.isis.nodes.insertGiven d item.isis } }

theorem addTo_of_fresh (fresh : net.named? item.name = none) :
    item.addTo net = .ok (item.joined net) := by
  have present : ((net.addDevice item.device).1.device? ⟨net.devices.length⟩).isSome := by
    rw [Network.device?_addDevice, if_pos rfl]
    rfl
  have added : made (net.addUniqueDevice item.device) = .ok (net.addDevice item.device) := by
    rw [Network.addUniqueDevice]
    simp only [device, fresh]
    rfl
  refine (bind_of_eq_ok added _).trans ?_
  -- The layers are on the ground of the new device, so it is present for every step.
  refine (bind_of_eq_ok (given_setLoopback (by exact present) item.loopback) _).trans ?_
  refine (bind_of_eq_ok (wanted_joinOspf (by exact present) item.ospf) _).trans ?_
  refine (bind_of_eq_ok (wanted_joinBgp (by exact present) item.bgp) _).trans ?_
  exact given_joinIsis (by exact present) item.isis

theorem addTo_of_taken {d : DeviceId} (taken : net.named? item.name = some d) :
    item.addTo net = .error (.inconsistent (.nameTaken item.name)) := by
  have refused : net.addUniqueDevice item.device = .error (.nameTaken item.name) := by
    rw [Network.addUniqueDevice]
    simp only [device, taken]
  rw [addTo, refused]
  rfl

theorem describes_device (item : DeviceItem) : item.Describes item.device where
  name := rfl
  label := rfl
  kind := rfl
  asn := rfl
  dialect := rfl
  platform := rfl
  host := rfl

/-- As long as only devices were read there are no links, sessions or addresses. -/
theorem bare_of_mirrors {devices : List DeviceItem} (mirrors : (part devices [] []).Mirrors net) :
    net.links = [] ∧ net.sessions = [] ∧ ∀ l, net.ip.edges.get? l = none := by
  refine ⟨List.forall₂_nil_left_iff.mp mirrors.links,
    List.forall₂_nil_left_iff.mp mirrors.sessions, fun l => ?_⟩
  have unaddressed : Option.Rel (IpItem.Describes devices) none (net.ip.edges.get? l) :=
    mirrors.ipLinks l
  generalize net.ip.edges.get? l = edge at unaddressed
  cases unaddressed
  rfl

theorem joined_mirrors {devices : List DeviceItem} (mirrors : (part devices [] []).Mirrors net)
    (fresh : item.name ∉ devices.map (·.name)) :
    (part (devices ++ [item]) [] []).Mirrors (item.joined net) where
  devices := forall₂_concat mirrors.devices item.describes_device
  names name := by
    have next : net.devices.length = devices.length := mirrors.devices.length_eq.symm
    have before : net.names.get? name = deviceOf? devices name := mirrors.names name
    change (net.names.insert item.name ⟨net.devices.length⟩).get? name = _
    rw [SortedMap.get?_insert, before, part, deviceOf?_concat, next]
    by_cases same : name = item.name
    · rw [if_pos same, if_pos same.symm, same, deviceOf?_eq_none.mpr fresh, Option.none_or]
    · rw [if_neg same, if_neg fun equal => same equal.symm, Option.or_none]
  loopbacks := SortedMap.get?_insertGiven_concat DeviceId.index_injective mirrors.loopbacks item
    mirrors.devices.length_eq.symm
  ospfDevices := SortedMap.contains_insertWanted_concat DeviceId.index_injective mirrors.ospfDevices item
    mirrors.devices.length_eq.symm
  isisDevices := SortedMap.get?_insertGiven_concat DeviceId.index_injective mirrors.isisDevices item
    mirrors.devices.length_eq.symm
  speakers d := by
    have alone (e : DeviceId) : net.speakers.contains e ↔
        ∃ item, devices[e.index]? = some item ∧ item.bgp := by
      refine (mirrors.speakers e).trans ?_
      simp [part]
    refine (SortedMap.contains_insertWanted_concat DeviceId.index_injective alone item
      mirrors.devices.length_eq.symm d).trans ?_
    simp [part]
  links := List.forall₂_nil_left_iff.mpr (bare_of_mirrors mirrors).1
  ipLinks l := by
    have unaddressed : (item.joined net).ip.edges.get? l = none := (bare_of_mirrors mirrors).2.2 l
    rw [unaddressed]
    exact .none
  ospfLinks := mirrors.ospfLinks
  isisLinks := mirrors.isisLinks
  sessions := List.forall₂_nil_left_iff.mpr (bare_of_mirrors mirrors).2.1
  blocks := mirrors.blocks

/-- A device is added unless its name was given before. -/
theorem addTo_decided (before : List DeviceItem) (item : DeviceItem) (net : Network)
    (mirrors : (part before [] []).Mirrors net) :
    DecidedBy (item.fault? before) (part (before ++ [item]) [] []).Mirrors (item.addTo net) := by
  have named : net.named? item.name = deviceOf? before item.name := mirrors.names item.name
  by_cases taken : item.name ∈ before.map (·.name)
  · obtain ⟨d, stands⟩ := Option.isSome_iff_exists.mp (deviceOf?_isSome.mpr taken)
    rw [addTo_of_taken (named.trans stands), fault?, if_pos taken]
    rfl
  · rw [addTo_of_fresh (named.trans (deviceOf?_eq_none.mpr taken)), fault?, if_neg taken]
    exact ⟨rfl, joined_mirrors mirrors taken⟩

end DeviceItem

end NetDesign.Description
