import NetDesign.Deployment.Lab
import NetDesign.Deployment.Machine

set_option autoImplicit false

namespace NetDesign

/-- What came of a deployment. Each selected device is listed once, as compiled or as failed. -/
structure Report where
  platform : Platform
  host : String
  compiled : List DeviceId
  failed : List Failure
  warnings : List Warning
deriving DecidableEq, Repr

namespace Report

def blank (p : Platform) (host : String) : Report := ⟨p, host, [], [], []⟩

def isOk (r : Report) : Bool := r.failed.isEmpty

/-- Lists a device as failed, even if it was listed as compiled. -/
def fail (r : Report) (f : Failure) : Report :=
  { r with
    compiled := r.compiled.filter fun d => d ≠ f.device
    failed := r.failed ++ [f] }

def note (r : Report) (d : DeviceId) (o : Outcome) : Report :=
  let r := { r with warnings := r.warnings ++ o.warnings }
  match o.failure with
  | none => { r with compiled := r.compiled ++ [d] }
  | some f => r.fail f

end Report

namespace Inventory

def adjustRecord (inv : Inventory) (d : DeviceId) (change : DeviceRecord → DeviceRecord) :
    Inventory :=
  match inv.records.get? d with
  | none => inv
  | some record => inv.setRecord d (change record)

end Inventory

/-- A device chosen for a deployment, with the profile it is compiled by. -/
structure Selected where
  profile : Profile
  id : DeviceId
  device : Device
deriving DecidableEq, Repr

namespace Platform

/-- The devices of a deployment, in the order in which they are compiled. -/
def roster (p : Platform) (host : String) (net : Network) : List Selected :=
  p.profiles.flatMap fun profile =>
    (net.selection host p profile.dialect).map fun (d, device) => ⟨profile, d, device⟩

/-- What comes of a device of a deployment, given the records there are. -/
def outcome (p : Platform) (host : String) (net : Network) (settings : Settings)
    (inv : Inventory) (s : Selected) : Outcome :=
  p.compileDevice s.profile net settings host inv.timestamp s.device (inv.recordFor net s.id)

/-- Compiles a device of a deployment: its record is renewed, and the report tells of it. -/
def visit (p : Platform) (host : String) (net : Network) (settings : Settings)
    (state : Inventory × Report) (s : Selected) : Inventory × Report :=
  let (inv, report) := state
  let outcome := p.outcome host net settings inv s
  (inv.setRecord s.id outcome.record, report.note s.id outcome)

def visitAll (p : Platform) (host : String) (net : Network) (settings : Settings)
    (inv : Inventory) : Inventory × Report :=
  (p.roster host net).foldl (p.visit host net settings) (inv, .blank p host)

end Platform

namespace ManagementPool

/-- Gives a machine the next address. If none is left the machine has failed. -/
def serve (state : ManagementPool × Inventory × Report) (machine : Machine) :
    ManagementPool × Inventory × Report :=
  let (pool, inv, report) := state
  let (address, pool) := pool.take
  let inv := inv.adjustRecord machine.id (·.setTapAddress address)
  match address with
  | some _ => (pool, inv, report)
  | none =>
    (pool, inv, report.fail ⟨machine.id, machine.hostname, .allocation, .managementExhausted⟩)

/-- Serves the machines that compiled, in the order of their hostnames. -/
def serveAll (pool : ManagementPool) (inv : Inventory) (report : Report) :
    ManagementPool × Inventory × Report :=
  (sorted Machine.precedes (inv.machines report.compiled)).foldl serve (pool, inv, report)

end ManagementPool

namespace Platform

/-- Gives management addresses to the machines that compiled, and draws up the lab of the host. -/
def raiseLab (p : Platform) (host : String) (settings : Settings) (inv : Inventory)
    (report : Report) : Inventory × Report :=
  let (pool, inv, report) := (ManagementPool.ofBlock settings.managementBlock).serveAll inv report
  let folder := p.folder settings.outputRoot host inv.timestamp
  let lab := Lab.ofRecords pool folder (report.compiled.filterMap inv.records.get?)
  (inv.setLab host lab, report)

/-- Compiles the devices of a host for a platform, one after the other. Emulated machines that
compiled may still fail, for want of a management address. -/
def deploy (p : Platform) (host : String) (net : Network) (settings : Settings)
    (inv : Inventory) : Inventory × Report :=
  let (inv, report) := p.visitAll host net settings inv
  match p with
  | netkit => p.raiseLab host settings inv report
  | junosphere | cisco | dynagen => (inv, report)

end Platform

end NetDesign
