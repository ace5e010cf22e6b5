import NetDesign.Configuration
import NetDesign.Deployment.Profile

set_option autoImplicit false

namespace NetDesign

namespace DeviceRecord

def allocationFailure (record : DeviceRecord) (e : Exhausted) : Failure :=
  ⟨record.id, record.inputName, .allocation, .exhausted e⟩

/-- Names the interfaces of all links of the device, in order, in place of those named before. If
the supply ends, the links named so far keep their names. -/
def nameInterfaces (record : DeviceRecord) (net : Network) (supply : Supply) :
    DeviceRecord × Except Failure Supply :=
  let (ids, rest) := supply.assign (net.linksOf record.id)
  ({ record with interfaceIds := .ofList ids }, rest.mapError record.allocationFailure)

/-- Adds a tap interface whose address is still open. -/
def addTap (record : DeviceRecord) (supply : Supply) : Except Failure DeviceRecord :=
  match supply.draw with
  | .error e => .error (record.allocationFailure e)
  | .ok (id, _) => .ok { record with tap := some ⟨id.name, none⟩ }

def debugBgp (record : DeviceRecord) : DeviceRecord :=
  { record with bgp := record.bgp.map fun bgp => { bgp with debug := true } }

end DeviceRecord

namespace Platform

/-- Sets what a platform knows of a device before anything is compiled. -/
def prepare (p : Platform) (settings : Settings) (host timestamp template label : String)
    (record : DeviceRecord) : DeviceRecord :=
  let record :=
    { record with render := some (p.renderTarget settings host timestamp template label) }
  match p with
  | netkit =>
    { record with
      daemon := some ⟨hostname label, settings.terminalPassword, []⟩
      shell := some ⟨true⟩ }
  | junosphere | cisco | dynagen => record

/-- Adds the tap interface, on platforms whose machines have one. -/
def connect (p : Platform) (record : DeviceRecord) (supply : Supply) :
    Except Failure DeviceRecord :=
  match p with
  | netkit => record.addTap supply
  | junosphere | cisco | dynagen => .ok record

/-- What a platform changes in a compiled record. -/
def adjust (p : Platform) (outcome : Outcome) : Outcome :=
  match p, outcome.failure with
  | netkit, none => { outcome with record := outcome.record.debugBgp }
  | _, _ => outcome

def allocate (p : Platform) (profile : Profile) (net : Network) (record : DeviceRecord) :
    DeviceRecord × Option Failure :=
  match record.nameInterfaces net (.ofScheme profile.scheme) with
  | (record, .error failure) => (record, some failure)
  | (record, .ok supply) =>
    match p.connect record supply with
    | .error failure => (record, some failure)
    | .ok record => (record, none)

/-- Compiles a device of a host, starting from the record there is. -/
def compileDevice (p : Platform) (profile : Profile) (net : Network) (settings : Settings)
    (host timestamp : String) (device : Device) (record : DeviceRecord) : Outcome :=
  let record := p.prepare settings host timestamp profile.template device.label record
  match p.allocate profile net record with
  | (record, some failure) => ⟨record, [], some failure⟩
  | (record, none) => p.adjust (profile.dialect.compile net settings record)

end Platform

end NetDesign
