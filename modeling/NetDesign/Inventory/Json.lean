import NetDesign.Address.Text
import NetDesign.Json.Printer
import NetDesign.Record

set_option autoImplicit false

namespace NetDesign

namespace Json

/-- A member name, written with escapes only if it must be. -/
def Key.ofText (s : String) : Key := ⟨s, s.toList.any fun c => escape c ≠ [c]⟩

def record (members : List (String × Json)) : Json :=
  .object (members.map fun (name, value) => (.ofText name, value))

def maybe {α : Type} (toJson : α → Json) : Option α → Json
  | none => null
  | some a => toJson a

def array {α : Type} (toJson : α → Json) (items : List α) : Json := .list (items.map toJson)

/-- An object with a member for each entry of a map. -/
def table {α β : Type} [Ord α] (name : α → String) (toJson : β → Json) (m : SortedMap α β) : Json :=
  record (m.toList.map fun (key, value) => (name key, toJson value))

def ofWord (w : UInt32) : Json := .number w.toNat

def ofAddress (a : Address) : Json := .text a.text

def ofNet (n : Net) : Json := .text n.text

end Json

open Json

def DeviceId.json (d : DeviceId) : Json := .number d.index

def LinkId.json (l : LinkId) : Json := .number l.index

def InterfaceId.json (id : InterfaceId) : Json :=
  record [("seq", .number id.position), ("name", .text id.name)]

def Interface.json (i : Interface) : Json :=
  record
    [("id", .text i.name), ("edge", maybe LinkId.json i.link), ("description", .text i.description),
      ("ip_address", ofAddress i.address), ("subnet", ofNet i.subnet),
      ("ospf_cost", maybe ofWord i.ospfCost), ("isis", .bool i.isis),
      ("isis_process_id", maybe ofWord i.isisProcess)]

def OspfNetwork.json (n : OspfNetwork) : Json :=
  record [("network", ofNet n.network), ("area", ofWord n.area)]

def OspfSection.json (s : OspfSection) : Json :=
  record
    [("process_id", ofWord s.processId), ("lo_interface", .text s.loopbackName),
      ("ospf_links", array OspfNetwork.json s.networks)]

def InternalPeer.json (p : InternalPeer) : Json :=
  record
    [("neighbor", .text p.label), ("asn", ofWord p.asn), ("loopback", ofAddress p.loopback),
      ("update_source", .text p.updateSource)]

def ExternalPeer.json (p : ExternalPeer) : Json :=
  record
    [("neighbor", .text p.label), ("asn", ofWord p.asn), ("loopback", maybe ofAddress p.loopback),
      ("local_int_ip", ofAddress p.near), ("dst_int_ip", ofAddress p.far),
      ("update_source", .text p.updateSource)]

def BgpSection.json (s : BgpSection) : Json :=
  record
    [("asn", ofWord s.asn), ("advertise_subnets", array ofNet s.advertised),
      ("lo_interface", maybe .text s.loopbackName), ("debug", .bool s.debug),
      ("ibgp_neighbors", array InternalPeer.json s.peers),
      ("ibgp_rr_clients", array InternalPeer.json s.clients),
      ("ibgp_rr_parents", array InternalPeer.json s.reflectors),
      ("ebgp_neighbors", array ExternalPeer.json s.externals)]

def IsisNode.json (n : IsisNode) : Json :=
  record [("net", .text n.net), ("process_id", ofWord n.processId)]

def RenderTarget.json (t : RenderTarget) : Json :=
  record
    [("template", .text t.template), ("base", maybe .text t.base), ("dst_folder", .text t.folder),
      ("base_dst_folder", maybe .text t.baseFolder), ("dst_file", .text t.file)]

def DaemonSettings.json (s : DaemonSettings) : Json :=
  let route := fun (net, gateway) => .list [ofNet net, ofAddress gateway]
  record
    [("hostname", .text s.hostname), ("password", .text s.password),
      ("static_routes", array route s.staticRoutes)]

def ShellAccess.json (s : ShellAccess) : Json := record [("use_key", .bool s.useKey)]

def TapInterface.json (t : TapInterface) : Json :=
  record [("id", .text t.name), ("ip", maybe ofAddress t.address)]

def DeviceRecord.interfaceIdsJson (r : DeviceRecord) : Json :=
  table (fun l => l.index.repr) InterfaceId.json r.interfaceIds

def DeviceRecord.json (r : DeviceRecord) : Json :=
  record
    [("id", r.id.json), ("input_label", .text r.inputName), ("label", .text r.hostname),
      ("loopback", maybe ofAddress r.loopback), ("loopback_subnet", maybe ofNet r.loopbackNet),
      ("render", maybe RenderTarget.json r.render), ("interface_ids", r.interfaceIdsJson),
      ("interfaces", array Interface.json r.interfaces), ("ospf", maybe OspfSection.json r.ospf),
      ("bgp", maybe BgpSection.json r.bgp), ("isis", maybe IsisNode.json r.isis),
      ("zebra", maybe DaemonSettings.json r.daemon), ("ssh", maybe ShellAccess.json r.shell),
      ("tap", maybe TapInterface.json r.tap)]

def LabBinding.json (b : LabBinding) : Json :=
  record [("device", .text b.machine), ("key", .text b.interface), ("value", .text b.domain)]

def LabTap.json (t : LabTap) : Json :=
  record [("device", .text t.machine), ("id", .text t.name), ("ip", ofAddress t.address)]

def Lab.json (lab : Lab) : Json :=
  record
    [("render", lab.render.json), ("description", .text lab.description),
      ("machines", array .text lab.machines), ("config_items", array LabBinding.json lab.bindings),
      ("tap_host", maybe ofAddress lab.tunnelHost), ("tap_vm", maybe ofAddress lab.tunnelMachine),
      ("tap_ips", array LabTap.json lab.taps)]

namespace Inventory

def json (inv : Inventory) : Json :=
  record
    [("timestamp", .text inv.timestamp),
      ("devices", table (fun d => d.index.repr) DeviceRecord.json inv.records),
      ("topology", table id Lab.json inv.labs)]

def toJson (inv : Inventory) : String := inv.json.pretty

end Inventory

end NetDesign
