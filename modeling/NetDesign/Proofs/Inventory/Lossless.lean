import NetDesign.Proofs.Json.Reading

set_option autoImplicit false

namespace NetDesign

open Json

namespace DeviceId

def ofJson? (j : Json) : Option DeviceId := j.natural?.map DeviceId.mk

def ofKey? (key : Key) : Option DeviceId := key.natural?.map DeviceId.mk

theorem recovers : Recovers json ofJson? := ⟨fun d => .number d.index, fun _ => rfl⟩

theorem ofKey?_repr (d : DeviceId) : ofKey? (.ofText d.index.repr) = some d := by
  rw [ofKey?, Key.natural?_repr, Option.map_some]

end DeviceId

namespace LinkId

def ofJson? (j : Json) : Option LinkId := j.natural?.map LinkId.mk

def ofKey? (key : Key) : Option LinkId := key.natural?.map LinkId.mk

theorem recovers : Recovers json ofJson? := ⟨fun l => .number l.index, fun _ => rfl⟩

theorem ofKey?_repr (l : LinkId) : ofKey? (.ofText l.index.repr) = some l := by
  rw [ofKey?, Key.natural?_repr, Option.map_some]

end LinkId

namespace InterfaceId

def ofJson? (j : Json) : Option InterfaceId := do
  let f ← j.fields? ["seq", "name"]
  return {
    position := ← f.required "seq" natural?
    name := ← f.required "name" text? }

theorem recovers : Recovers json ofJson? := by
  refine .record (fun _ => rfl) (by decide) fun _ => ?_
  simp [Fields.required_cons, recovers_number.spec, recovers_text.spec]

end InterfaceId

namespace Interface

def ofJson? (j : Json) : Option Interface := do
  let f ← j.fields? ["id", "edge", "description", "ip_address", "subnet", "ospf_cost", "isis",
    "isis_process_id"]
  return {
    name := ← f.required "id" text?
    link := ← f.required "edge" (nullable? LinkId.ofJson?)
    description := ← f.required "description" text?
    address := ← f.required "ip_address" address?
    subnet := ← f.required "subnet" net?
    ospfCost := ← f.required "ospf_cost" (nullable? word?)
    isis := ← f.required "isis" bool?
    isisProcess := ← f.required "isis_process_id" (nullable? word?) }

theorem recovers : Recovers json ofJson? := by
  have link := LinkId.recovers.maybe fun _ => nofun
  have word := recovers_word.maybe fun _ => nofun
  refine .record (fun _ => rfl) (by decide) fun _ => ?_
  simp [Fields.required_cons, recovers_text.spec, link.spec, recovers_address.spec,
    recovers_net.spec, word.spec, recovers_bool.spec]

end Interface

namespace OspfNetwork

def ofJson? (j : Json) : Option OspfNetwork := do
  let f ← j.fields? ["network", "area"]
  return {
    network := ← f.required "network" net?
    area := ← f.required "area" word? }

theorem recovers : Recovers json ofJson? := by
  refine .record (fun _ => rfl) (by decide) fun _ => ?_
  simp [Fields.required_cons, recovers_net.spec, recovers_word.spec]

end OspfNetwork

namespace OspfSection

def ofJson? (j : Json) : Option OspfSection := do
  let f ← j.fields? ["process_id", "lo_interface", "ospf_links"]
  return {
    processId := ← f.required "process_id" word?
    loopbackName := ← f.required "lo_interface" text?
    networks := ← f.required "ospf_links" (list? OspfNetwork.ofJson?) }

theorem recovers : Recovers json ofJson? := by
  refine .record (fun _ => rfl) (by decide) fun _ => ?_
  simp [Fields.required_cons, recovers_word.spec, recovers_text.spec,
    OspfNetwork.recovers.array.spec]

end OspfSection

namespace InternalPeer

def ofJson? (j : Json) : Option InternalPeer := do
  let f ← j.fields? ["neighbor", "asn", "loopback", "update_source"]
  return {
    label := ← f.required "neighbor" text?
    asn := ← f.required "asn" word?
    loopback := ← f.required "loopback" address?
    updateSource := ← f.required "update_source" text? }

theorem recovers : Recovers json ofJson? := by
  refine .record (fun _ => rfl) (by decide) fun _ => ?_
  simp [Fields.required_cons, recovers_text.spec, recovers_word.spec,
    recovers_address.spec]

end InternalPeer

namespace ExternalPeer

def ofJson? (j : Json) : Option ExternalPeer := do
  let f ← j.fields? ["neighbor", "asn", "loopback", "local_int_ip", "dst_int_ip", "update_source"]
  return {
    label := ← f.required "neighbor" text?
    asn := ← f.required "asn" word?
    loopback := ← f.required "loopback" (nullable? address?)
    near := ← f.required "local_int_ip" address?
    far := ← f.required "dst_int_ip" address?
    updateSource := ← f.required "update_source" text? }

theorem recovers : Recovers json ofJson? := by
  have address := recovers_address.maybe fun _ => nofun
  refine .record (fun _ => rfl) (by decide) fun _ => ?_
  simp [Fields.required_cons, recovers_text.spec, recovers_word.spec, address.spec,
    recovers_address.spec]

end ExternalPeer

namespace BgpSection

def ofJson? (j : Json) : Option BgpSection := do
  let f ← j.fields? ["asn", "advertise_subnets", "lo_interface", "debug", "ibgp_neighbors",
    "ibgp_rr_clients", "ibgp_rr_parents", "ebgp_neighbors"]
  return {
    asn := ← f.required "asn" word?
    advertised := ← f.required "advertise_subnets" (list? net?)
    loopbackName := ← f.required "lo_interface" (nullable? text?)
    debug := ← f.required "debug" bool?
    peers := ← f.required "ibgp_neighbors" (list? InternalPeer.ofJson?)
    clients := ← f.required "ibgp_rr_clients" (list? InternalPeer.ofJson?)
    reflectors := ← f.required "ibgp_rr_parents" (list? InternalPeer.ofJson?)
    externals := ← f.required "ebgp_neighbors" (list? ExternalPeer.ofJson?) }

theorem recovers : Recovers json ofJson? := by
  have text := recovers_text.maybe fun _ => nofun
  refine .record (fun _ => rfl) (by decide) fun _ => ?_
  simp [Fields.required_cons, recovers_word.spec, recovers_net.array.spec, text.spec,
    recovers_bool.spec, InternalPeer.recovers.array.spec, ExternalPeer.recovers.array.spec]

end BgpSection

namespace IsisNode

def ofJson? (j : Json) : Option IsisNode := do
  let f ← j.fields? ["net", "process_id"]
  return {
    net := ← f.required "net" text?
    processId := ← f.required "process_id" word? }

theorem recovers : Recovers json ofJson? := by
  refine .record (fun _ => rfl) (by decide) fun _ => ?_
  simp [Fields.required_cons, recovers_text.spec, recovers_word.spec]

end IsisNode

namespace RenderTarget

def ofJson? (j : Json) : Option RenderTarget := do
  let f ← j.fields? ["template", "base", "dst_folder", "base_dst_folder", "dst_file"]
  return {
    template := ← f.required "template" text?
    base := ← f.required "base" (nullable? text?)
    folder := ← f.required "dst_folder" text?
    baseFolder := ← f.required "base_dst_folder" (nullable? text?)
    file := ← f.required "dst_file" text? }

theorem recovers : Recovers json ofJson? := by
  have text := recovers_text.maybe fun _ => nofun
  refine .record (fun _ => rfl) (by decide) fun _ => ?_
  simp [Fields.required_cons, recovers_text.spec, text.spec]

end RenderTarget

/-- A static route: the block and the gateway. -/
def Json.route? : Json → Option (Net × Address)
  | list [net, gateway] => do return (← net? net, ← address? gateway)
  | _ => none

namespace DaemonSettings

def ofJson? (j : Json) : Option DaemonSettings := do
  let f ← j.fields? ["hostname", "password", "static_routes"]
  return {
    hostname := ← f.required "hostname" text?
    password := ← f.required "password" text?
    staticRoutes := ← f.required "static_routes" (list? route?) }

theorem recovers : Recovers json ofJson? := by
  have route : Recovers (fun r : Net × Address => list [ofNet r.1, ofAddress r.2]) route? := by
    refine ⟨fun r => .list ?_, fun r => ?_⟩
    · simp [recovers_net.written, recovers_address.written]
    · simp [route?, recovers_net.read_toJson, recovers_address.read_toJson]
  refine .record (fun _ => rfl) (by decide) fun _ => ?_
  simp [Fields.required_cons, recovers_text.spec, route.array.spec]

end DaemonSettings

namespace ShellAccess

def ofJson? (j : Json) : Option ShellAccess := do
  let f ← j.fields? ["use_key"]
  return {
    useKey := ← f.required "use_key" bool? }

theorem recovers : Recovers json ofJson? := by
  refine .record (fun _ => rfl) (by decide) fun _ => ?_
  simp [Fields.required_cons, recovers_bool.spec]

end ShellAccess

namespace TapInterface

def ofJson? (j : Json) : Option TapInterface := do
  let f ← j.fields? ["id", "ip"]
  return {
    name := ← f.required "id" text?
    address := ← f.required "ip" (nullable? address?) }

theorem recovers : Recovers json ofJson? := by
  have address := recovers_address.maybe fun _ => nofun
  refine .record (fun _ => rfl) (by decide) fun _ => ?_
  simp [Fields.required_cons, recovers_text.spec, address.spec]

end TapInterface

namespace DeviceRecord

def ofJson? (j : Json) : Option DeviceRecord := do
  let f ← j.fields? ["id", "input_label", "label", "loopback", "loopback_subnet", "render",
    "interface_ids", "interfaces", "ospf", "bgp", "isis", "zebra", "ssh", "tap"]
  return {
    id := ← f.required "id" DeviceId.ofJson?
    inputName := ← f.required "input_label" text?
    hostname := ← f.required "label" text?
    loopback := ← f.required "loopback" (nullable? address?)
    loopbackNet := ← f.required "loopback_subnet" (nullable? net?)
    render := ← f.required "render" (nullable? RenderTarget.ofJson?)
    interfaceIds := ← f.required "interface_ids" (sortedMap? LinkId.ofKey? InterfaceId.ofJson?)
    interfaces := ← f.required "interfaces" (list? Interface.ofJson?)
    ospf := ← f.required "ospf" (nullable? OspfSection.ofJson?)
    bgp := ← f.required "bgp" (nullable? BgpSection.ofJson?)
    isis := ← f.required "isis" (nullable? IsisNode.ofJson?)
    daemon := ← f.required "zebra" (nullable? DaemonSettings.ofJson?)
    shell := ← f.required "ssh" (nullable? ShellAccess.ofJson?)
    tap := ← f.required "tap" (nullable? TapInterface.ofJson?) }

theorem recovers : Recovers json ofJson? := by
  have address := recovers_address.maybe fun _ => nofun
  have net := recovers_net.maybe fun _ => nofun
  have render := RenderTarget.recovers.maybe fun _ => nofun
  have ids := InterfaceId.recovers.table LinkId.ofKey?_repr
  have ospf := OspfSection.recovers.maybe fun _ => nofun
  have bgp := BgpSection.recovers.maybe fun _ => nofun
  have isis := IsisNode.recovers.maybe fun _ => nofun
  have daemon := DaemonSettings.recovers.maybe fun _ => nofun
  have shell := ShellAccess.recovers.maybe fun _ => nofun
  have tap := TapInterface.recovers.maybe fun _ => nofun
  refine .record (fun _ => rfl) (by decide) fun _ => ?_
  simp [Fields.required_cons, interfaceIdsJson, DeviceId.recovers.spec, recovers_text.spec,
    address.spec, net.spec, render.spec, ids.spec, Interface.recovers.array.spec, ospf.spec,
    bgp.spec, isis.spec, daemon.spec, shell.spec, tap.spec]

end DeviceRecord

namespace LabBinding

def ofJson? (j : Json) : Option LabBinding := do
  let f ← j.fields? ["device", "key", "value"]
  return {
    machine := ← f.required "device" text?
    interface := ← f.required "key" text?
    domain := ← f.required "value" text? }

theorem recovers : Recovers json ofJson? := by
  refine .record (fun _ => rfl) (by decide) fun _ => ?_
  simp [Fields.required_cons, recovers_text.spec]

end LabBinding

namespace LabTap

def ofJson? (j : Json) : Option LabTap := do
  let f ← j.fields? ["device", "id", "ip"]
  return {
    machine := ← f.required "device" text?
    name := ← f.required "id" text?
    address := ← f.required "ip" address? }

theorem recovers : Recovers json ofJson? := by
  refine .record (fun _ => rfl) (by decide) fun _ => ?_
  simp [Fields.required_cons, recovers_text.spec, recovers_address.spec]

end LabTap

namespace Lab

def ofJson? (j : Json) : Option Lab := do
  let f ← j.fields? ["render", "description", "machines", "config_items", "tap_host", "tap_vm",
    "tap_ips"]
  return {
    render := ← f.required "render" RenderTarget.ofJson?
    description := ← f.required "description" text?
    machines := ← f.required "machines" (list? text?)
    bindings := ← f.required "config_items" (list? LabBinding.ofJson?)
    tunnelHost := ← f.required "tap_host" (nullable? address?)
    tunnelMachine := ← f.required "tap_vm" (nullable? address?)
    taps := ← f.required "tap_ips" (list? LabTap.ofJson?) }

theorem recovers : Recovers json ofJson? := by
  have address := recovers_address.maybe fun _ => nofun
  refine .record (fun _ => rfl) (by decide) fun _ => ?_
  simp [Fields.required_cons, RenderTarget.recovers.spec, recovers_text.spec,
    recovers_text.array.spec, LabBinding.recovers.array.spec, address.spec,
    LabTap.recovers.array.spec]

end Lab

namespace Inventory

def ofJson? (j : Json) : Option Inventory := do
  let f ← j.fields? ["timestamp", "devices", "topology"]
  return {
    timestamp := ← f.required "timestamp" text?
    records := ← f.required "devices" (sortedMap? DeviceId.ofKey? DeviceRecord.ofJson?)
    labs := ← f.required "topology" (sortedMap? (fun key => some key.text) Lab.ofJson?) }

theorem recovers : Recovers json ofJson? := by
  have records := DeviceRecord.recovers.table DeviceId.ofKey?_repr
  have labs : Recovers (table id Lab.json) (sortedMap? (fun key => some key.text) Lab.ofJson?) :=
    Lab.recovers.table fun _ => rfl
  refine .record (fun _ => rfl) (by decide) fun _ => ?_
  simp [Fields.required_cons, recovers_text.spec, records.spec, labs.spec]

def ofText? (s : String) : Option Inventory := (Json.ofText? s).bind ofJson?

/-- The JSON of an inventory loses nothing: the inventory is read back from it, whatever texts and
however many records it holds, so it is the JSON of no other inventory. -/
theorem toJson_lossless (inv : Inventory) :
    ofText? inv.toJson = some inv ∧ ∀ other : Inventory, inv.toJson = other.toJson ↔ inv = other := by
  have back : ∀ inv : Inventory, ofText? inv.toJson = some inv := by
    intro inv
    rw [ofText?, toJson, (recovers.written inv).ofText?_pretty, Option.bind_some,
      recovers.read_toJson]
  refine ⟨back inv, fun other => ⟨fun same => ?_, fun same => by rw [same]⟩⟩
  have both : some inv = some other := by rw [← back inv, same, back other]
  exact Option.some.inj both

end Inventory

end NetDesign
