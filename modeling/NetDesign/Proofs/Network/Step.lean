import Mathlib.Logic.Relation
import NetDesign.Network.Change

set_option autoImplicit false

namespace NetDesign.Network

open Relation (ReflTransGen)

theorem device_eq_ok {net : Network} {d : DeviceId} {device : Device} :
    net.device d = .ok device ↔ net.device? d = some device := by
  unfold Network.device
  cases net.device? d <;> simp

theorem link_eq_ok {net : Network} {l : LinkId} {link : Link} :
    net.link l = .ok link ↔ net.link? l = some link := by
  unfold Network.link
  cases net.link? l <;> simp

theorem exists_of_device_bind {α : Type} {net : Network} {d : DeviceId}
    {next : Device → Except NetworkError α} {a : α} (made : (net.device d >>= next) = .ok a) :
    ∃ device, net.device? d = some device ∧ next device = .ok a := by
  cases found : net.device d with
  | error e => rw [found] at made; cases made
  | ok device => exact ⟨device, device_eq_ok.mp found, by rw [found] at made; exact made⟩

theorem exists_of_link_bind {α : Type} {net : Network} {l : LinkId}
    {next : Link → Except NetworkError α} {a : α} (made : (net.link l >>= next) = .ok a) :
    ∃ link, net.link? l = some link ∧ next link = .ok a := by
  cases found : net.link l with
  | error e => rw [found] at made; cases made
  | ok link => exact ⟨link, link_eq_ok.mp found, by rw [found] at made; exact made⟩

/-- Whether a session that names a link has its source on it. -/
def Carries (net : Network) (s : Session) : Prop :=
  ∀ l, s.via = some l → ∃ link, net.link? l = some link ∧ link.touches s.source

/-- One thing said in a layer, with the guards under which it is said. -/
inductive LayerStep (net : Network) : Network → Prop
  | loopback (d : DeviceId) (loopback : Option Address) (present : (net.device? d).isSome) :
      LayerStep net { net with ip := { net.ip with nodes := net.ip.nodes.insert d loopback } }
  | addresses (l : LinkId) (link : Link) (edge : IpEdge) (present : net.link? l = some link)
      (ends : ∀ d, edge.addresses.contains d → link.touches d)
      (free : net.ip.edges.contains l = false) :
      LayerStep net { net with ip := { net.ip with edges := net.ip.edges.insert l edge } }
  | blocks (asn : AsNumber) (blocks : List Net) : LayerStep net (net.setBlocks asn blocks)
  | ospfDevice (d : DeviceId) (present : (net.device? d).isSome) :
      LayerStep net { net with ospf := { net.ospf with nodes := net.ospf.nodes.insert d () } }
  | ospfLink (l : LinkId) (edge : OspfEdge) (present : (net.link? l).isSome)
      (free : net.ospf.edges.contains l = false) :
      LayerStep net { net with ospf := { net.ospf with edges := net.ospf.edges.insert l edge } }
  | isisDevice (d : DeviceId) (node : IsisNode) (present : (net.device? d).isSome) :
      LayerStep net { net with isis := { net.isis with nodes := net.isis.nodes.insert d node } }
  | isisLink (l : LinkId) (present : (net.link? l).isSome)
      (free : net.isis.edges.contains l = false) :
      LayerStep net { net with isis := { net.isis with edges := net.isis.edges.insert l () } }
  | speaker (d : DeviceId) (present : (net.device? d).isSome) :
      LayerStep net { net with speakers := net.speakers.insert d () }
  | session (s : Session) (apart : s.source ≠ s.target) (source : net.speakers.contains s.source)
      (target : net.speakers.contains s.target) (via : net.Carries s) :
      LayerStep net { net with sessions := net.sessions ++ [s] }

/-- One thing done to a network: a device or a link is added, or something is said in a layer. -/
inductive Step (net : Network) : Network → Prop
  | device (device : Device) : Step net (net.addDevice device).1
  | link (a b : DeviceId) (first : (net.device? a).isSome) (second : (net.device? b).isSome) :
      Step net { net with links := net.links ++ [⟨a, b⟩] }
  | layer {changed : Network} (said : net.LayerStep changed) : Step net changed

/-- Layers leave the ground on which they stand as it is. -/
theorem LayerStep.ground {net changed : Network} (said : net.LayerStep changed) :
    changed.devices = net.devices ∧ changed.links = net.links ∧ changed.names = net.names := by
  cases said <;> exact ⟨rfl, rfl, rfl⟩

theorem of_addLink {net changed : Network} {a b : DeviceId} {l : LinkId}
    (made : net.addLink a b = .ok (changed, l)) :
    (net.device? a).isSome ∧ (net.device? b).isSome ∧
      changed = { net with links := net.links ++ [⟨a, b⟩] } ∧ l = ⟨net.links.length⟩ := by
  obtain ⟨first, foundFirst, made⟩ := exists_of_device_bind made
  obtain ⟨second, foundSecond, made⟩ := exists_of_device_bind made
  cases made
  exact ⟨by simp [foundFirst], by simp [foundSecond], rfl, rfl⟩

theorem setLoopback_step {net changed : Network} {d : DeviceId} {loopback : Option Address}
    (made : net.setLoopback d loopback = .ok changed) : net.LayerStep changed := by
  obtain ⟨device, found, made⟩ := exists_of_device_bind made
  cases made
  exact .loopback d loopback (by simp [found])

theorem joinOspf_step {net changed : Network} {d : DeviceId}
    (made : net.joinOspf d = .ok changed) : net.LayerStep changed := by
  obtain ⟨device, found, made⟩ := exists_of_device_bind made
  cases made
  exact .ospfDevice d (by simp [found])

theorem joinIsis_step {net changed : Network} {d : DeviceId} {node : IsisNode}
    (made : net.joinIsis d node = .ok changed) : net.LayerStep changed := by
  obtain ⟨device, found, made⟩ := exists_of_device_bind made
  cases made
  exact .isisDevice d node (by simp [found])

theorem of_joinBgp {net changed : Network} {d : DeviceId}
    (made : net.joinBgp d = .ok changed) :
    (net.device? d).isSome ∧ changed = { net with speakers := net.speakers.insert d () } := by
  obtain ⟨device, found, made⟩ := exists_of_device_bind made
  cases made
  exact ⟨by simp [found], rfl⟩

theorem joinBgp_step {net changed : Network} {d : DeviceId}
    (made : net.joinBgp d = .ok changed) : net.LayerStep changed := by
  obtain ⟨present, rfl⟩ := of_joinBgp made
  exact .speaker d present

theorem runOspf_step {net changed : Network} {l : LinkId} {edge : OspfEdge}
    (made : net.runOspf l edge = .ok changed) : net.LayerStep changed := by
  obtain ⟨link, found, made⟩ := exists_of_link_bind made
  split at made
  · cases made
  case isFalse free =>
    cases made
    exact .ospfLink l edge (by simp [found]) (by simpa using free)

theorem runIsis_step {net changed : Network} {l : LinkId}
    (made : net.runIsis l = .ok changed) : net.LayerStep changed := by
  obtain ⟨link, found, made⟩ := exists_of_link_bind made
  split at made
  · cases made
  case isFalse free =>
    cases made
    exact .isisLink l (by simp [found]) (by simpa using free)

theorem addressLink_step {net changed : Network} {l : LinkId} {subnet : Net}
    {addresses : List (DeviceId × Address)}
    (made : net.addressLink l subnet addresses = .ok changed) : net.LayerStep changed := by
  obtain ⟨link, found, made⟩ := exists_of_link_bind made
  split at made
  · cases made
  case h_2 onLink =>
    split at made
    · cases made
    case isFalse free =>
      cases made
      refine .addresses l link ⟨subnet, .ofList addresses⟩ found (fun d addressed => ?_)
        (by simpa using free)
      have listed : d ∈ addresses.map (·.1) :=
        ((SortedMap.contains_insertAll _ addresses d).mp addressed).resolve_right (by
          simp [SortedMap.contains])
      obtain ⟨e, mem, rfl⟩ := List.mem_map.mp listed
      have ends := List.find?_eq_none.mp onLink e mem
      simpa using ends

theorem of_checkSession {net : Network} {s : Session} (passed : net.checkSession s = .ok ()) :
    s.source ≠ s.target ∧ net.Carries s := by
  unfold checkSession at passed
  split at passed
  · cases passed
  case isFalse apart =>
    refine ⟨apart, fun l named => ?_⟩
    rw [named] at passed
    obtain ⟨link, found, passed⟩ := exists_of_link_bind passed
    split at passed
    case isTrue touches => exact ⟨link, found, touches⟩
    case isFalse => cases passed

/-- A session is added after both its ends have joined the BGP layer. A missing target leaves the
source in that layer. -/
theorem addSession_steps (net : Network) (s : Session) :
    ReflTransGen LayerStep net (net.addSession s).1 := by
  unfold addSession
  split
  · exact .refl
  case h_2 passed =>
    obtain ⟨apart, via⟩ := of_checkSession passed
    split
    · exact .refl
    case h_2 joined joinedSource =>
      have first := ReflTransGen.single (joinBgp_step joinedSource)
      split
      · exact first
      case h_2 both joinedTarget =>
        have second := first.tail (joinBgp_step joinedTarget)
        obtain ⟨_, rfl⟩ := of_joinBgp joinedSource
        obtain ⟨_, rfl⟩ := of_joinBgp joinedTarget
        refine second.tail (.session s apart ?_ ?_ via)
        · simp [SortedMap.contains_insert]
        · simp [SortedMap.contains_insert]

/-- What becomes of a change: it adds a device or a link and tells its number, or it leaves the
ground as it is and tells nothing. -/
inductive Applied (net : Network) : Change → Network × Except NetworkError Reply → Prop
  | device {change : Change} (device : Device)
      (asked : change = .addDevice device ∨
        change = .addUniqueDevice device ∧ net.named? device.name = none) :
      Applied net change ((net.addDevice device).1, .ok (.device ⟨net.devices.length⟩))
  | link (a b : DeviceId) (first : (net.device? a).isSome) (second : (net.device? b).isSome) :
      Applied net (.addLink a b)
        ({ net with links := net.links ++ [⟨a, b⟩] }, .ok (.link ⟨net.links.length⟩))
  | layers {change : Change} {changed : Network} {reply : Except NetworkError Reply}
      (said : ReflTransGen LayerStep net changed) (silent : ∀ r, reply = .ok r → r = .done) :
      Applied net change (changed, reply)

theorem Applied.refused {net : Network} {change : Change} (e : NetworkError) :
    Applied net change (net, .error e) :=
  .layers .refl fun _ told => by cases told

theorem settle_applied {net : Network} {change : Change} {result : Except NetworkError Network}
    (made : ∀ changed, result = .ok changed → net.LayerStep changed) :
    Applied net change (net.settle result) := by
  cases result with
  | error e => exact .refused e
  | ok changed => exact .layers (.single (made changed rfl)) fun _ told => by cases told; rfl

theorem apply_applied (net : Network) (change : Change) :
    Applied net change (net.apply change) := by
  cases change with
  | addDevice device => exact .device device (.inl rfl)
  | addUniqueDevice device =>
    simp only [apply, addUniqueDevice]
    cases free : net.named? device.name with
    | some _ => exact .refused _
    | none => exact .device device (.inr ⟨rfl, free⟩)
  | addLink a b =>
    simp only [apply]
    split
    · exact .refused _
    case h_2 made =>
      obtain ⟨first, second, rfl, rfl⟩ := of_addLink made
      exact .link a b first second
  | setLoopback d loopback => exact settle_applied fun _ => setLoopback_step
  | addressLink l subnet addresses => exact settle_applied fun _ => addressLink_step
  | setBlocks asn blocks =>
    exact .layers (.single (.blocks asn blocks)) fun _ told => by cases told; rfl
  | joinOspf d => exact settle_applied fun _ => joinOspf_step
  | runOspf l edge => exact settle_applied fun _ => runOspf_step
  | joinIsis d node => exact settle_applied fun _ => joinIsis_step
  | runIsis l => exact settle_applied fun _ => runIsis_step
  | joinBgp d => exact settle_applied fun _ => joinBgp_step
  | addSession s =>
    have silent : ∀ r, (net.addSession s).2.map (fun _ => Reply.done) = .ok r → r = .done := by
      intro r told
      cases result : (net.addSession s).2 with
      | error e => rw [result] at told; cases told
      | ok _ => rw [result] at told; cases told; rfl
    exact .layers (addSession_steps net s) silent

theorem apply_steps (net : Network) (change : Change) :
    ReflTransGen Step net (net.apply change).1 := by
  have applied := net.apply_applied change
  generalize net.apply change = result at applied
  cases applied with
  | device device _ => exact .single (.device device)
  | link a b first second => exact .single (.link a b first second)
  | layers said _ => exact ReflTransGen.mono (fun _ _ => Step.layer) _ _ said

/-- What holds of the empty network and is kept by every step holds of every reachable network. -/
theorem Reachable.induction_step {P : Network → Prop} (start : P Network.empty)
    (kept : ∀ {net changed : Network}, net.Step changed → P net → P changed) {net : Network}
    (reachable : net.Reachable) : P net := by
  refine reachable.induction start fun before change holds => ?_
  have steps := before.apply_steps change
  generalize (before.apply change).1 = after at steps ⊢
  induction steps with
  | refl => exact holds
  | tail _ step ih => exact kept step ih

end NetDesign.Network
