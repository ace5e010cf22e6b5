import NetDesign.Configuration.Interfaces

set_option autoImplicit false

namespace NetDesign

/-- How an external session reaches its peer. -/
inductive Adjacency where
  /-- No link has an address for both ends. -/
  | unaddressed
  | across (l : LinkId) (near far : Address)
  /-- Several links have addresses for both ends. -/
  | ambiguous (links : List LinkId)
deriving DecidableEq, Repr

namespace Network

/-- The links that could carry a session. -/
def candidates (net : Network) (s : Session) : List LinkId :=
  match s.via with
  | some l => [l]
  | none => net.linksBetween s.source s.target

/-- The addresses that two devices have on a link, if both have one. -/
def addressPair? (net : Network) (a b : DeviceId) (l : LinkId) :
    Option (LinkId × Address × Address) :=
  (net.ip.edges.get? l).bind fun edge =>
    match edge.addresses.get? a, edge.addresses.get? b with
    | some near, some far => some (l, near, far)
    | _, _ => none

/-- How a session reaches its peer: over the link that it names, or else over the one link on which
both ends have an address. -/
def adjacency (net : Network) (s : Session) : Adjacency :=
  match (net.candidates s).filterMap (net.addressPair? s.source s.target) with
  | [] => .unaddressed
  | [(l, near, far)] => .across l near far
  | several => .ambiguous (several.map (·.1))

end Network

/-- A peer of a device. The direction is that of the session. -/
inductive Peer where
  | internal (direction : Option Direction) (peer : InternalPeer)
  | external (peer : ExternalPeer)
deriving DecidableEq, Repr

namespace Peer

def internal? (direction : Option Direction) : Peer → Option InternalPeer
  | internal d peer => if d = direction then some peer else none
  | external _ => none

def external? : Peer → Option ExternalPeer
  | internal .. => none
  | external peer => some peer

end Peer

namespace Dialect

/-- The update source of every internal session: both ends use their loopbacks. -/
def internalUpdateSource : String := "loopback 0"

/-- The update source of all sessions, in dialects that set it once. -/
def commonUpdateSource? (dialect : Dialect) : Option String :=
  match dialect with
  | ios | ios2 => some dialect.loopbackName
  | quagga | junos => none

/-- What is found at a session whose target is the given device of the given system. -/
def peerFinding (dialect : Dialect) (net : Network) (s : Session) (target : Device)
    (asn : AsNumber) : Finding Peer :=
  match s.kind with
  | .ibgp =>
    match net.loopback? s.target with
    | none => .omission (.peerWithoutLoopback target.label)
    | some loopback =>
      .entry (.internal s.direction ⟨target.label, asn, loopback, internalUpdateSource⟩)
  | .ebgp =>
    match net.adjacency s with
    | .unaddressed => .omission (.unaddressedPeer target.label)
    | .ambiguous links => .failure (.ambiguousAdjacency target.label links)
    | .across _ near far =>
      .entry (.external
        ⟨target.label, asn, net.loopback? s.target, near, far, dialect.loopbackName⟩)

def sessionFinding (dialect : Dialect) (net : Network) (s : Session) : Finding Peer :=
  match net.device s.target with
  | .error e => .failure (.network e)
  | .ok target =>
    match target.asn with
    | none => .failure (.missingAsn target.label)
    | some asn => dialect.peerFinding net s target asn

/-- The BGP section of a device of an autonomous system, with the given peers. Peers keep the order
of their sessions; external peers are sorted by their systems. -/
def bgpSection (dialect : Dialect) (asn : AsNumber) (blocks : List Net) (peers : List Peer) :
    BgpSection where
  asn := asn
  advertised := blocks
  loopbackName := dialect.commonUpdateSource?
  debug := false
  peers := peers.filterMap (Peer.internal? none)
  clients := peers.filterMap (Peer.internal? (some .down))
  reflectors := peers.filterMap (Peer.internal? (some .up))
  externals := sorted (fun a b => a.asn ≤ b.asn) (peers.filterMap Peer.external?)

def bgp (dialect : Dialect) (net : Network) (d : DeviceId) : Survey BgpSection :=
  match net.device d with
  | .error e => .fail (.network e)
  | .ok device =>
    match device.asn with
    | none => .fail (.missingAsn device.label)
    | some asn =>
      let blocks := net.blocks.get? asn
      let peers := Survey.collect ((net.sessionsOf d).map (dialect.sessionFinding net))
      (peers.andThen fun peers => .ok (dialect.bgpSection asn (blocks.getD []) peers)).noting
        (if blocks.isNone then [.noBlocks asn] else [])

end Dialect

end NetDesign
