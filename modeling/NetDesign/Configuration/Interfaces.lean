import NetDesign.Configuration.Survey
import NetDesign.Ordered
import NetDesign.Record

set_option autoImplicit false

namespace NetDesign

namespace Dialect

def loopbackName : Dialect → String
  | quagga => "lo0:1"
  | ios | ios2 => "Loopback0"
  | junos => "lo0"

/-- The description of the loopback, in dialects that list it among the interfaces of the
device. -/
def loopbackDescription? (dialect : Dialect) (device : Device) : Option String :=
  match dialect with
  | quagga => if device.isRouter then some "Loopback for BGP" else none
  | ios | ios2 => some "Loopback"
  | junos => none

end Dialect

namespace Interface

def withCost (net : Network) (i : Interface) : Interface :=
  { i with ospfCost := (i.link.bind net.ospf.edges.get?).map (·.cost) }

/-- Notes whether ISIS runs on the link, and in which process of the device. -/
def withIsis (net : Network) (d : DeviceId) (i : Interface) : Interface :=
  let runs := i.link.any net.isis.edges.contains
  { i with
    isis := runs
    isisProcess := if runs then (net.isis.nodes.get? d).map (·.processId) else none }

def loopback (record : DeviceRecord) (name description : String) : Except Cause Interface :=
  match record.loopback, record.loopbackNet with
  | some address, some subnet => .ok
    { name, link := none, description, address, subnet
      ospfCost := none, isis := false, isisProcess := none }
  | _, _ => .error .missingLoopback

end Interface

namespace Dialect

/-- What a dialect notes on the interfaces of links. -/
def annotate (dialect : Dialect) (net : Network) (d : DeviceId) (i : Interface) : Interface :=
  match dialect with
  | quagga => i.withCost net
  | ios | ios2 => (i.withCost net).withIsis net d
  | junos => i

/-- The interface of an addressed link, with its identifier. -/
def linkInterface (dialect : Dialect) (net : Network) (record : DeviceRecord) (label : String)
    (l : LinkId) (subnet : Net) (address : Address) : Except Cause (InterfaceId × Interface) := do
  let neighbor ← (net.neighbor record.id l).mapError .network
  let id ← match record.interfaceIds.get? l with
    | some id => .ok id
    | none => .error (.missingInterfaceId l)
  let neighborLabel ← (net.label neighbor).mapError .network
  let interface : Interface :=
    { name := id.name, link := some l, description := label ++ " to " ++ neighborLabel
      address, subnet, ospfCost := none, isis := false, isisProcess := none }
  .ok (id, dialect.annotate net record.id interface)

def interfaceFinding (dialect : Dialect) (net : Network) (record : DeviceRecord) (label : String)
    (l : LinkId) : Finding (InterfaceId × Interface) :=
  match net.addressing? record.id l with
  | none => .omission (.unaddressedLink l)
  | some (subnet, address) =>
    match dialect.linkInterface net record label l subnet address with
    | .ok entry => .entry entry
    | .error c => .failure c

/-- The loopback interface, in dialects that list it. -/
def loopbackInterfaces (dialect : Dialect) (record : DeviceRecord) (device : Device) :
    Except Cause (List Interface) :=
  match dialect.loopbackDescription? device with
  | none => .ok []
  | some description => (Interface.loopback record dialect.loopbackName description).map ([·])

/-- The interfaces of the links on which the device has an address, in the order of their
identifiers, and the loopback. -/
def interfaces (dialect : Dialect) (net : Network) (record : DeviceRecord) :
    Survey (List Interface) :=
  match net.device record.id with
  | .error e => .fail (.network e)
  | .ok device =>
    let findings := (net.linksOf record.id).map (dialect.interfaceFinding net record device.label)
    (Survey.collect findings).andThen fun found =>
      (dialect.loopbackInterfaces record device).map fun loopbacks =>
        (sorted (fun a b => a.1.precedes b.1) found).map (·.2) ++ loopbacks

end Dialect

end NetDesign
