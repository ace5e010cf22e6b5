import NetDesign.Configuration.Interfaces
import NetDesign.Settings

set_option autoImplicit false

namespace NetDesign

/-- The entries whose key no earlier entry has. -/
def firstOfEach {α κ : Type} [DecidableEq κ] (key : α → κ) : List α → List α
  | [] => []
  | a :: rest => a :: (firstOfEach key rest).filter fun b => key b ≠ key a

namespace Network

/-- The links of a device on which OSPF runs, with their OSPF attributes. -/
def ospfLinksOf (net : Network) (d : DeviceId) : List (LinkId × OspfEdge) :=
  (net.linksOf d).filterMap fun l => (net.ospf.edges.get? l).map (l, ·)

/-- The network that a link on which OSPF runs stands for, if the link has a subnet. -/
def ospfNetwork? (net : Network) (l : LinkId) (edge : OspfEdge) : Option OspfNetwork :=
  (net.ip.edges.get? l).map fun ip => ⟨ip.subnet, edge.area⟩

end Network

namespace Dialect

/-- The OSPF section: a statement for each subnet, as written, with the area of its first link.
Links without a subnet are left out. -/
def ospf (dialect : Dialect) (net : Network) (settings : Settings) (d : DeviceId) :
    List Omission × OspfSection :=
  let links := net.ospfLinksOf d
  let omitted := links.filter fun (l, edge) => (net.ospfNetwork? l edge).isNone
  let networks := links.filterMap fun (l, edge) => net.ospfNetwork? l edge
  (omitted.map fun (l, _) => .unaddressedLink l,
    { processId := settings.ospfProcess
      loopbackName := dialect.loopbackName
      networks := firstOfEach (·.network) networks })

/-- The ISIS section, in dialects that speak ISIS. -/
def isis (dialect : Dialect) (net : Network) (d : DeviceId) : Option IsisNode :=
  match dialect with
  | ios | ios2 => net.isis.nodes.get? d
  | quagga | junos => none

end Dialect

end NetDesign
