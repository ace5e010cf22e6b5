import NetDesign.Network.Device
import NetDesign.SortedMap

set_option autoImplicit false

namespace NetDesign

inductive Layer where
  | physical
  | ip
  | ospf
  | bgp
  | isis
deriving DecidableEq, Repr, Inhabited

namespace Layer

def all : List Layer := [physical, ip, ospf, bgp, isis]

def word : Layer → String
  | physical => "physical"
  | ip => "ip"
  | ospf => "ospf"
  | bgp => "bgp"
  | isis => "isis"

def ofWord? (s : String) : Option Layer := all.find? (·.word = s)

end Layer

/-- The devices and links of a layer, with what the layer says about each. -/
structure Overlay (ν ε : Type) where
  nodes : SortedMap DeviceId ν
  edges : SortedMap LinkId ε
deriving DecidableEq, Repr

namespace Overlay

variable {ν ε : Type}

instance : Inhabited (Overlay ν ε) := ⟨⟨.empty, .empty⟩⟩

def empty : Overlay ν ε := ⟨.empty, .empty⟩

end Overlay

/-- The addresses of a link: the subnet, and the address of each addressed end. -/
structure IpEdge where
  subnet : Net
  addresses : SortedMap DeviceId Address
deriving DecidableEq, Repr

structure OspfEdge where
  area : UInt32
  cost : UInt32
deriving DecidableEq, Repr

/-- The ISIS process of a device and its network entity title. -/
structure IsisNode where
  processId : UInt32
  net : String
deriving DecidableEq, Repr

/-- Whether a BGP session stays inside an autonomous system. -/
inductive SessionKind where
  | ibgp
  | ebgp
deriving DecidableEq, Repr, Inhabited

namespace SessionKind

def all : List SessionKind := [ibgp, ebgp]

def word : SessionKind → String
  | ibgp => "ibgp"
  | ebgp => "ebgp"

def ofWord? (s : String) : Option SessionKind := all.find? (·.word = s)

end SessionKind

/-- The place of the peer in the route-reflector hierarchy, seen from the source of a session. -/
inductive Direction where
  /-- The peer reflects routes to the source. -/
  | up
  /-- The peer is a client of the source. -/
  | down
deriving DecidableEq, Repr, Inhabited

namespace Direction

def all : List Direction := [up, down]

def word : Direction → String
  | up => "up"
  | down => "down"

def ofWord? (s : String) : Option Direction := all.find? (·.word = s)

end Direction

/-- A BGP session as its source configures it. An external session may name the link over which
the two peer. -/
structure Session where
  source : DeviceId
  target : DeviceId
  kind : SessionKind
  direction : Option Direction
  via : Option LinkId
deriving DecidableEq, Repr

end NetDesign
