import NetDesign.Interface.Id
import NetDesign.Network

set_option autoImplicit false

namespace NetDesign

/-- An interface of a device. A loopback belongs to no link. -/
structure Interface where
  name : String
  link : Option LinkId
  description : String
  address : Address
  subnet : Net
  ospfCost : Option UInt32
  isis : Bool
  isisProcess : Option UInt32
deriving DecidableEq, Repr

structure OspfNetwork where
  network : Net
  area : UInt32
deriving DecidableEq, Repr

structure OspfSection where
  processId : UInt32
  loopbackName : String
  networks : List OspfNetwork
deriving DecidableEq, Repr

/-- A BGP peer inside the autonomous system, reached at its loopback address. -/
structure InternalPeer where
  label : String
  asn : AsNumber
  loopback : Address
  updateSource : String
deriving DecidableEq, Repr

/-- A BGP peer in another autonomous system, reached over a link to it. -/
structure ExternalPeer where
  label : String
  asn : AsNumber
  loopback : Option Address
  /-- The device's own address on the link. -/
  near : Address
  /-- The peer's address on the link. -/
  far : Address
  updateSource : String
deriving DecidableEq, Repr

structure BgpSection where
  asn : AsNumber
  advertised : List Net
  /-- The update source of all sessions, in dialects that set it once. -/
  loopbackName : Option String
  debug : Bool
  peers : List InternalPeer
  /-- Internal peers to which the device reflects routes. -/
  clients : List InternalPeer
  /-- Internal peers that reflect routes to the device. -/
  reflectors : List InternalPeer
  externals : List ExternalPeer
deriving DecidableEq, Repr

/-- Where and from which template a configuration is written. -/
structure RenderTarget where
  template : String
  /-- A folder of further templates. -/
  base : Option String
  folder : String
  /-- The folder for what comes of the further templates. -/
  baseFolder : Option String
  file : String
deriving DecidableEq, Repr

def RenderTarget.blank : RenderTarget := ⟨"", none, "", none, ""⟩

structure DaemonSettings where
  hostname : String
  password : String
  staticRoutes : List (Net × Address)
deriving DecidableEq, Repr

structure ShellAccess where
  useKey : Bool
deriving DecidableEq, Repr

/-- The management interface of an emulated machine. Its address is chosen once all machines of
the host are known. -/
structure TapInterface where
  name : String
  address : Option Address
deriving DecidableEq, Repr

/-- All that is known about the configuration of a device. A section is absent where the device
takes no part in the layer. -/
structure DeviceRecord where
  id : DeviceId
  /-- The name of the device in its description. -/
  inputName : String
  /-- The name that the device gives itself. -/
  hostname : String
  loopback : Option Address
  loopbackNet : Option Net
  render : Option RenderTarget
  interfaceIds : SortedMap LinkId InterfaceId
  interfaces : List Interface
  ospf : Option OspfSection
  bgp : Option BgpSection
  isis : Option IsisNode
  daemon : Option DaemonSettings
  shell : Option ShellAccess
  tap : Option TapInterface
deriving DecidableEq, Repr

namespace DeviceRecord

/-- The record of a device about which nothing but its name is known. -/
def blank (id : DeviceId) (name : String) : DeviceRecord where
  id := id
  inputName := name
  hostname := name
  loopback := none
  loopbackNet := none
  render := none
  interfaceIds := .empty
  interfaces := []
  ospf := none
  bgp := none
  isis := none
  daemon := none
  shell := none
  tap := none

def interfaceOn? (record : DeviceRecord) (l : LinkId) : Option Interface :=
  record.interfaces.find? (·.link = some l)

end DeviceRecord

/-- The lab wiring of one interface: the machine, the number of its interface, and the collision
domain that the interface is attached to. -/
structure LabBinding where
  machine : String
  interface : String
  domain : String
deriving DecidableEq, Repr

structure LabTap where
  machine : String
  name : String
  address : Address
deriving DecidableEq, Repr

/-- What it takes to start the emulated machines of a host. -/
structure Lab where
  render : RenderTarget
  description : String
  /-- The hostnames of all machines, ascending. -/
  machines : List String
  /-- The wiring, by ascending hostname. -/
  bindings : List LabBinding
  tunnelHost : Option Address
  tunnelMachine : Option Address
  /-- The management interfaces, by ascending address. -/
  taps : List LabTap
deriving DecidableEq, Repr

namespace Lab

def blank : Lab := ⟨.blank, "", [], [], none, none, []⟩

def machinesLine (lab : Lab) : String := " ".intercalate lab.machines

end Lab

/-- The results of compilations: a record for each device, and a lab for each host of emulated
machines. The timestamp names the run. -/
structure Inventory where
  timestamp : String
  records : SortedMap DeviceId DeviceRecord
  labs : SortedMap String Lab
deriving DecidableEq, Repr

namespace Inventory

def empty (timestamp : String) : Inventory := ⟨timestamp, .empty, .empty⟩

/-- The record of a device; a blank one under its name if there is none yet. -/
def recordFor (inv : Inventory) (net : Network) (d : DeviceId) : DeviceRecord :=
  (inv.records.get? d).getD (.blank d (((net.device? d).map (·.name)).getD ""))

/-- The lab of a host; a blank one if there is none yet. -/
def labFor (inv : Inventory) (host : String) : Lab := (inv.labs.get? host).getD .blank

def setRecord (inv : Inventory) (d : DeviceId) (record : DeviceRecord) : Inventory :=
  { inv with records := inv.records.insert d record }

def setLab (inv : Inventory) (host : String) (lab : Lab) : Inventory :=
  { inv with labs := inv.labs.insert host lab }

end Inventory

end NetDesign
