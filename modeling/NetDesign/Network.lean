import NetDesign.Network.Overlay

set_option autoImplicit false

namespace NetDesign

/-- Items with their numbers, counted from zero. -/
def numbered {ι α : Type} (number : Nat → ι) (items : List α) : List (ι × α) :=
  items.zipIdx.map fun (item, i) => (number i, item)

theorem map_fst_numbered {ι α : Type} (number : Nat → ι) (items : List α) :
    (numbered number items).map (·.1) = (List.range items.length).map number := by
  have positions : items.zipIdx.map Prod.snd = List.range items.length := by
    rw [List.zipIdx_map_snd, List.range_eq_range']
  rw [← positions, numbered, List.map_map, List.map_map]
  rfl

theorem map_snd_numbered {ι α : Type} (number : Nat → ι) (items : List α) :
    (numbered number items).map (·.2) = items := by
  rw [numbered, List.map_map]
  exact List.zipIdx_map_fst 0 items

theorem numbered_concat {ι α : Type} (number : Nat → ι) (items : List α) (item : α) :
    numbered number (items ++ [item]) =
      numbered number items ++ [(number items.length, item)] := by
  simp [numbered, List.zipIdx_append]

theorem mem_numbered {ι α : Type} {number : Nat → ι} {items : List α} {i : ι} {item : α} :
    (i, item) ∈ numbered number items ↔ ∃ n, items[n]? = some item ∧ number n = i := by
  constructor
  · intro mem
    obtain ⟨⟨found, n⟩, listed, same⟩ := List.mem_map.mp mem
    cases same
    exact ⟨n, List.mem_zipIdx_iff_getElem?.mp listed, rfl⟩
  · rintro ⟨n, found, rfl⟩
    exact List.mem_map.mpr ⟨(item, n), List.mem_zipIdx_iff_getElem?.mpr found, rfl⟩

/-- Devices and links, which are numbered in the order in which they are added and never removed,
and the layers above them. -/
structure Network where
  devices : List Device
  links : List Link
  /-- The device of each name; the last one added if several have it. -/
  names : SortedMap String DeviceId
  /-- The loopback address of each device in the IP layer, and the addresses of links. -/
  ip : Overlay (Option Address) IpEdge
  /-- The blocks that each autonomous system advertises. -/
  blocks : SortedMap AsNumber (List Net)
  ospf : Overlay Unit OspfEdge
  isis : Overlay IsisNode Unit
  speakers : SortedMap DeviceId Unit
  /-- All BGP sessions, in the order in which they were added. -/
  sessions : List Session
deriving DecidableEq, Repr

/-- Why a network cannot be changed as asked, or a question about it not be answered. -/
inductive NetworkError where
  | deviceNotFound (device : DeviceId)
  | linkNotFound (link : LinkId)
  | nameNotFound (name : String)
  | nameTaken (name : String)
  | edgeTaken (layer : Layer) (link : LinkId)
  | notAnEnd (device : DeviceId) (link : LinkId)
  | sessionToSelf (device : DeviceId)
deriving DecidableEq, Repr

namespace NetworkError

def message : NetworkError → String
  | deviceNotFound d => s!"Network device was not found in the physical overlay: {d.text}"
  | linkNotFound l => s!"Link was not found in the physical overlay: {l.text}"
  | nameNotFound name => s!"Network device name was not found: {name}"
  | nameTaken name => s!"Network device name is not unique: {name}"
  | edgeTaken layer l => s!"The {layer.word} overlay already has an edge on link {l.text}"
  | notAnEnd d l => s!"Device {d.text} is not an endpoint of link {l.text}"
  | sessionToSelf d => s!"Invalid BGP session from {d.text} to itself"

end NetworkError

namespace Network

def empty : Network where
  devices := []
  links := []
  names := .empty
  ip := .empty
  blocks := .empty
  ospf := .empty
  isis := .empty
  speakers := .empty
  sessions := []

instance : Inhabited Network := ⟨empty⟩

def device? (net : Network) (d : DeviceId) : Option Device := net.devices[d.index]?

def link? (net : Network) (l : LinkId) : Option Link := net.links[l.index]?

def device (net : Network) (d : DeviceId) : Except NetworkError Device :=
  match net.device? d with
  | some device => .ok device
  | none => .error (.deviceNotFound d)

def link (net : Network) (l : LinkId) : Except NetworkError Link :=
  match net.link? l with
  | some link => .ok link
  | none => .error (.linkNotFound l)

def label (net : Network) (d : DeviceId) : Except NetworkError String :=
  (net.device d).map (·.label)

def deviceIds (net : Network) : List DeviceId := (List.range net.devices.length).map .mk

/-- All devices with their numbers, in ascending order. -/
def numberedDevices (net : Network) : List (DeviceId × Device) := numbered .mk net.devices

/-- All links with their numbers, in ascending order. -/
def numberedLinks (net : Network) : List (LinkId × Link) := numbered .mk net.links

def named? (net : Network) (name : String) : Option DeviceId := net.names.get? name

def named (net : Network) (name : String) : Except NetworkError DeviceId :=
  match net.named? name with
  | some d => .ok d
  | none => .error (.nameNotFound name)

/-- The links of a device, in ascending order. A link from the device to itself counts once. -/
def linksOf (net : Network) (d : DeviceId) : List LinkId :=
  (net.numberedLinks.filter fun (_, link) => link.touches d).map (·.1)

def neighbor (net : Network) (d : DeviceId) (l : LinkId) : Except NetworkError DeviceId := do
  let link ← net.link l
  match link.opposite? d with
  | some opposite => .ok opposite
  | none => .error (.notAnEnd d l)

/-- The links between two devices, in ascending order. -/
def linksBetween (net : Network) (a b : DeviceId) : List LinkId :=
  (net.linksOf a).filter fun l => (net.link? l).bind (·.opposite? a) = some b

def hasDevice (net : Network) (layer : Layer) (d : DeviceId) : Bool :=
  match layer with
  | .physical => (net.device? d).isSome
  | .ip => net.ip.nodes.contains d
  | .ospf => net.ospf.nodes.contains d
  | .bgp => net.speakers.contains d
  | .isis => net.isis.nodes.contains d

/-- Whether a layer uses a link. The BGP layer uses the links that sessions name. -/
def hasLink (net : Network) (layer : Layer) (l : LinkId) : Bool :=
  match layer with
  | .physical => (net.link? l).isSome
  | .ip => net.ip.edges.contains l
  | .ospf => net.ospf.edges.contains l
  | .bgp => net.sessions.any (·.via = some l)
  | .isis => net.isis.edges.contains l

def loopback? (net : Network) (d : DeviceId) : Option Address := (net.ip.nodes.get? d).join

def addressing? (net : Network) (d : DeviceId) (l : LinkId) : Option (Net × Address) :=
  (net.ip.edges.get? l).bind fun edge => (edge.addresses.get? d).map (edge.subnet, ·)

/-- The sessions that a device configures, in the order in which they were added. -/
def sessionsOf (net : Network) (d : DeviceId) : List Session := net.sessions.filter (·.source = d)

/-- The hosts of all devices, ascending and without repetition. -/
def hosts (net : Network) : List String :=
  (SortedMap.ofList (net.devices.filterMap fun device => device.host.map (·, ()))).keys

/-- Whether some router declares both a host and a platform on it. -/
def declares (net : Network) (host : String) (platform : Platform) : Bool :=
  net.devices.any fun d => d.isRouter && d.host = some host && d.platform = some platform

/-- The pairs of host and platform that routers declare, in ascending order. -/
def deployments (net : Network) : List (String × Platform) :=
  net.hosts.flatMap fun host => (Platform.all.filter (net.declares host)).map (host, ·)

end Network

end NetDesign
