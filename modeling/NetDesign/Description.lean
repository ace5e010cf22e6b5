import NetDesign.Network.Change

set_option autoImplicit false

namespace NetDesign

namespace Description

structure DeviceItem where
  name : String
  /-- The label, if it differs from the name. -/
  label : Option String
  kind : DeviceKind
  asn : Option AsNumber
  dialect : Option Dialect
  platform : Option Platform
  host : Option String
  /-- A loopback address puts the device into the IP layer. -/
  loopback : Option Address
  ospf : Bool
  bgp : Bool
  isis : Option IsisNode
deriving DecidableEq, Repr

structure IpItem where
  subnet : Net
  addresses : SortedMap String Address
deriving DecidableEq, Repr

structure LinkItem where
  source : String
  target : String
  ip : Option IpItem
  ospf : Option OspfEdge
  isis : Bool
deriving DecidableEq, Repr

/-- A BGP session as described. A link is meant by its place in the list of links. -/
structure SessionItem where
  source : String
  target : String
  kind : SessionKind
  direction : Option Direction
  via : Option Nat
deriving DecidableEq, Repr

end Description

structure Description where
  devices : List Description.DeviceItem
  links : List Description.LinkItem
  sessions : List Description.SessionItem
  blocks : SortedMap AsNumber (List Net)
deriving DecidableEq, Repr

/-- Why a description describes no network. -/
inductive DescriptionError where
  | unknownDevice (name : String)
  | unknownLink (position : Nat)
  | inconsistent (error : NetworkError)
deriving DecidableEq, Repr

namespace DescriptionError

def message : DescriptionError → String
  | unknownDevice name => s!"Unknown device: {name}"
  | unknownLink position => s!"Unknown link index: {position}"
  | inconsistent error => s!"Invalid network description: {error.message}"

end DescriptionError

namespace Description

/-- Passes on what a change makes, or the reason why it is refused. -/
def made {α : Type} : Except NetworkError α → Except DescriptionError α
  | .ok a => .ok a
  | .error e => .error (.inconsistent e)

/-- The device of a name in the network built so far. -/
def lookup (net : Network) (name : String) : Except DescriptionError DeviceId :=
  match net.named? name with
  | some d => .ok d
  | none => .error (.unknownDevice name)

/-- Makes a change for a value that may be absent. -/
def given {α : Type} (value : Option α) (net : Network)
    (change : Network → α → Except NetworkError Network) : Except DescriptionError Network :=
  match value with
  | none => .ok net
  | some a => made (change net a)

/-- Makes a change that may not be wanted. -/
def wanted (flag : Bool) (net : Network) (change : Network → Except NetworkError Network) :
    Except DescriptionError Network :=
  if flag then made (change net) else .ok net

namespace DeviceItem

/-- The physical device described. The label defaults to the name. -/
def device (item : DeviceItem) : Device where
  name := item.name
  label := item.label.getD item.name
  kind := item.kind
  asn := item.asn
  dialect := item.dialect
  platform := item.platform
  host := item.host

def addTo (item : DeviceItem) (net : Network) : Except DescriptionError Network := do
  let (net, d) ← made (net.addUniqueDevice item.device)
  let net ← given item.loopback net fun net address => net.setLoopback d (some address)
  let net ← wanted item.ospf net fun net => net.joinOspf d
  let net ← wanted item.bgp net fun net => net.joinBgp d
  given item.isis net fun net node => net.joinIsis d node

end DeviceItem

namespace IpItem

def addTo (item : IpItem) (l : LinkId) (net : Network) : Except DescriptionError Network := do
  let addresses ← item.addresses.toList.mapM fun (name, address) => do
    let d ← lookup net name
    .ok (d, address)
  made (net.addressLink l item.subnet addresses)

end IpItem

namespace LinkItem

def addTo (item : LinkItem) (net : Network) : Except DescriptionError Network := do
  let source ← lookup net item.source
  let target ← lookup net item.target
  let (net, l) ← made (net.addLink source target)
  let net ← match item.ip with
    | none => .ok net
    | some ip => ip.addTo l net
  let net ← given item.ospf net fun net edge => net.runOspf l edge
  wanted item.isis net fun net => net.runIsis l

end LinkItem

namespace SessionItem

/-- The link that a place in the list of links stands for. -/
def viaLink (item : SessionItem) (links : Nat) : Except DescriptionError (Option LinkId) :=
  match item.via with
  | none => .ok none
  | some position =>
    if position < links then .ok (some ⟨position⟩) else .error (.unknownLink position)

/-- Adds the session to a network of which the first `links` links are described. -/
def addTo (item : SessionItem) (links : Nat) (net : Network) : Except DescriptionError Network := do
  let via ← item.viaLink links
  let source ← lookup net item.source
  let target ← lookup net item.target
  match net.addSession ⟨source, target, item.kind, item.direction, via⟩ with
  | (net, .ok _) => .ok net
  | (_, .error e) => .error (.inconsistent e)

end SessionItem

/-- The network that is described. The first item that does not fit decides the error: devices come
first, then links, then sessions. -/
def build (desc : Description) : Except DescriptionError Network := do
  let net ← desc.devices.foldlM (fun net item => item.addTo net) Network.empty
  let net ← desc.links.foldlM (fun net item => item.addTo net) net
  let net ← desc.sessions.foldlM (fun net item => item.addTo desc.links.length net) net
  .ok (desc.blocks.toList.foldl (fun net (asn, blocks) => net.setBlocks asn blocks) net)

end Description

end NetDesign
