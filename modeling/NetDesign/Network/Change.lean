import NetDesign.Network

set_option autoImplicit false

namespace NetDesign.Network

/-- Adds a device, whatever its name. From then on the name means this device. -/
def addDevice (net : Network) (device : Device) : Network × DeviceId :=
  let d : DeviceId := ⟨net.devices.length⟩
  ({ net with devices := net.devices ++ [device], names := net.names.insert device.name d }, d)

def addUniqueDevice (net : Network) (device : Device) : Except NetworkError (Network × DeviceId) :=
  match net.named? device.name with
  | some _ => .error (.nameTaken device.name)
  | none => .ok (net.addDevice device)

def addLink (net : Network) (a b : DeviceId) : Except NetworkError (Network × LinkId) := do
  let _ ← net.device a
  let _ ← net.device b
  .ok ({ net with links := net.links ++ [⟨a, b⟩] }, ⟨net.links.length⟩)

/-- Puts a device into the IP layer with the given loopback address or none, in place of the one it
had. -/
def setLoopback (net : Network) (d : DeviceId) (loopback : Option Address) :
    Except NetworkError Network := do
  let _ ← net.device d
  .ok { net with ip := { net.ip with nodes := net.ip.nodes.insert d loopback } }

/-- Gives a link its subnet and the addresses of its ends. Of two addresses for one end the later
counts. -/
def addressLink (net : Network) (l : LinkId) (subnet : Net)
    (addresses : List (DeviceId × Address)) : Except NetworkError Network := do
  let link ← net.link l
  match addresses.find? fun (d, _) => !link.touches d with
  | some (d, _) => .error (.notAnEnd d l)
  | none =>
    if net.ip.edges.contains l then .error (.edgeTaken .ip l)
    else
      let edge : IpEdge := ⟨subnet, .ofList addresses⟩
      .ok { net with ip := { net.ip with edges := net.ip.edges.insert l edge } }

def setBlocks (net : Network) (asn : AsNumber) (blocks : List Net) : Network :=
  { net with blocks := net.blocks.insert asn blocks }

def joinOspf (net : Network) (d : DeviceId) : Except NetworkError Network := do
  let _ ← net.device d
  .ok { net with ospf := { net.ospf with nodes := net.ospf.nodes.insert d () } }

def runOspf (net : Network) (l : LinkId) (edge : OspfEdge) : Except NetworkError Network := do
  let _ ← net.link l
  if net.ospf.edges.contains l then .error (.edgeTaken .ospf l)
  else .ok { net with ospf := { net.ospf with edges := net.ospf.edges.insert l edge } }

def joinIsis (net : Network) (d : DeviceId) (node : IsisNode) : Except NetworkError Network := do
  let _ ← net.device d
  .ok { net with isis := { net.isis with nodes := net.isis.nodes.insert d node } }

def runIsis (net : Network) (l : LinkId) : Except NetworkError Network := do
  let _ ← net.link l
  if net.isis.edges.contains l then .error (.edgeTaken .isis l)
  else .ok { net with isis := { net.isis with edges := net.isis.edges.insert l () } }

def joinBgp (net : Network) (d : DeviceId) : Except NetworkError Network := do
  let _ ← net.device d
  .ok { net with speakers := net.speakers.insert d () }

/-- What is wrong with a session apart from missing devices: it leads back to its source, or names
a link on which its source is not. -/
def checkSession (net : Network) (s : Session) : Except NetworkError Unit :=
  if s.source = s.target then .error (.sessionToSelf s.source)
  else
    match s.via with
    | none => .ok ()
    | some l => do
      let link ← net.link l
      if link.touches s.source then .ok () else .error (.notAnEnd s.source l)

/-- Adds a session and puts both its ends into the BGP layer. If the target is missing the source
has joined the layer already. -/
def addSession (net : Network) (s : Session) : Network × Except NetworkError Unit :=
  match net.checkSession s with
  | .error e => (net, .error e)
  | .ok _ =>
    match net.joinBgp s.source with
    | .error e => (net, .error e)
    | .ok joined =>
      match joined.joinBgp s.target with
      | .error e => (joined, .error e)
      | .ok joined => ({ joined with sessions := joined.sessions ++ [s] }, .ok ())

inductive Change where
  | addDevice (device : Device)
  | addUniqueDevice (device : Device)
  | addLink (a b : DeviceId)
  | setLoopback (d : DeviceId) (loopback : Option Address)
  | addressLink (l : LinkId) (subnet : Net) (addresses : List (DeviceId × Address))
  | setBlocks (asn : AsNumber) (blocks : List Net)
  | joinOspf (d : DeviceId)
  | runOspf (l : LinkId) (edge : OspfEdge)
  | joinIsis (d : DeviceId) (node : IsisNode)
  | runIsis (l : LinkId)
  | joinBgp (d : DeviceId)
  | addSession (s : Session)
deriving DecidableEq, Repr

/-- What a change made, if anything can be told of it. -/
inductive Reply where
  | done
  | device (d : DeviceId)
  | link (l : LinkId)
deriving DecidableEq, Repr

/-- The outcome of a change that is refused as a whole or made as a whole. -/
def settle (net : Network) : Except NetworkError Network → Network × Except NetworkError Reply
  | .error e => (net, .error e)
  | .ok changed => (changed, .ok .done)

/-- Makes a change: the network after it, and what was made or which of its faults comes first. -/
def apply (net : Network) : Change → Network × Except NetworkError Reply
  | .addDevice device =>
    let (changed, d) := net.addDevice device
    (changed, .ok (.device d))
  | .addUniqueDevice device =>
    match net.addUniqueDevice device with
    | .error e => (net, .error e)
    | .ok (changed, d) => (changed, .ok (.device d))
  | .addLink a b =>
    match net.addLink a b with
    | .error e => (net, .error e)
    | .ok (changed, l) => (changed, .ok (.link l))
  | .setLoopback d loopback => net.settle (net.setLoopback d loopback)
  | .addressLink l subnet addresses => net.settle (net.addressLink l subnet addresses)
  | .setBlocks asn blocks => (net.setBlocks asn blocks, .ok .done)
  | .joinOspf d => net.settle (net.joinOspf d)
  | .runOspf l edge => net.settle (net.runOspf l edge)
  | .joinIsis d node => net.settle (net.joinIsis d node)
  | .runIsis l => net.settle (net.runIsis l)
  | .joinBgp d => net.settle (net.joinBgp d)
  | .addSession s =>
    let (changed, result) := net.addSession s
    (changed, result.map fun _ => .done)

/-- The network after a run of changes, whether each was made or refused. -/
def after (net : Network) (changes : List Change) : Network :=
  changes.foldl (fun net change => (net.apply change).1) net

/-- A network that some run of changes makes of the empty one. -/
def Reachable (net : Network) : Prop := ∃ changes, net = Network.empty.after changes

theorem after_append (net : Network) (first second : List Change) :
    net.after (first ++ second) = (net.after first).after second :=
  List.foldl_append

/-- What holds of the empty network and is kept by every change holds of every reachable network. -/
theorem Reachable.induction {P : Network → Prop} (start : P Network.empty)
    (step : ∀ net change, P net → P (net.apply change).1) {net : Network}
    (reachable : net.Reachable) : P net := by
  obtain ⟨changes, rfl⟩ := reachable
  exact List.foldlRecOn changes _ start fun net holds change _ => step net change holds

theorem Reachable.after {net : Network} (reachable : net.Reachable) (changes : List Change) :
    (net.after changes).Reachable := by
  obtain ⟨first, rfl⟩ := reachable
  exact ⟨first ++ changes, (after_append ..).symm⟩

end NetDesign.Network
