import NetDesign.Interface.Supply
import NetDesign.Network

set_option autoImplicit false

namespace NetDesign

inductive Step where
  | device
  | allocation
  | interfaces
  | ospf
  | bgp
  | isis
deriving DecidableEq, Repr, Inhabited

namespace Step

def word : Step → String
  | device => "device"
  | allocation => "allocation"
  | interfaces => "interfaces"
  | ospf => "ospf"
  | bgp => "bgp"
  | isis => "isis"

end Step

/-- Why a device cannot be compiled. -/
inductive Cause where
  | missingLoopback
  /-- The labelled device has no AS number. -/
  | missingAsn (label : String)
  | missingInterfaceId (link : LinkId)
  | exhausted (supply : Exhausted)
  /-- Several links could carry the session to an external peer. -/
  | ambiguousAdjacency (peer : String) (links : List LinkId)
  | managementExhausted
  | network (error : NetworkError)
deriving DecidableEq, Repr

namespace Cause

def message : Cause → String
  | missingLoopback => "The device has no loopback address"
  | missingAsn label => s!"Device {label} has no attribute asn"
  | missingInterfaceId l => s!"No interface was allocated for link {l.text}"
  | exhausted supply => supply.message
  | ambiguousAdjacency peer links =>
    let list := ", ".intercalate (links.map LinkId.text)
    s!"Multiple addressed links towards eBGP peer {peer}: [{list}]"
  | managementExhausted => "No management address left"
  | network error => error.message

end Cause

structure Failure where
  device : DeviceId
  label : String
  step : Step
  cause : Cause
deriving DecidableEq, Repr

namespace Failure

def message (f : Failure) : String :=
  s!"Cannot compile {f.label} ({f.step.word}): {f.cause.message}"

end Failure

/-- Why an interface or neighbor is left out. -/
inductive Omission where
  /-- The device has no address on the link. -/
  | unaddressedLink (link : LinkId)
  | noBlocks (asn : AsNumber)
  | peerWithoutLoopback (peer : String)
  | unaddressedPeer (peer : String)
deriving DecidableEq, Repr

namespace Omission

def message : Omission → String
  | unaddressedLink l => s!"link {l.text} is not addressed, skipping the interface"
  | noBlocks asn => s!"no advertised blocks for {asn.toNat}"
  | peerWithoutLoopback peer => s!"iBGP peer {peer} has no loopback, skipping the neighbor"
  | unaddressedPeer peer =>
    s!"no addressed link towards eBGP peer {peer}, skipping the neighbor"

end Omission

structure Warning where
  device : DeviceId
  step : Step
  cause : Omission
deriving DecidableEq, Repr

namespace Warning

def message (w : Warning) : String := s!"Device {w.device.text} ({w.step.word}): {w.cause.message}"

end Warning

end NetDesign
