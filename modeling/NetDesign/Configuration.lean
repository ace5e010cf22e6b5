import NetDesign.Configuration.Peering
import NetDesign.Configuration.Routing
import NetDesign.Hostname

set_option autoImplicit false

namespace NetDesign

structure Outcome where
  record : DeviceRecord
  warnings : List Warning
  failure : Option Failure
deriving DecidableEq, Repr

namespace DeviceRecord

def identify (record : DeviceRecord) (device : Device) (loopback : Address) : DeviceRecord :=
  { record with
    inputName := device.name
    hostname := NetDesign.hostname device.label
    loopback := some loopback
    loopbackNet := some (.single loopback) }

/-- The name, label and loopback of the device of a record, without which nothing is compiled. -/
def identity (record : DeviceRecord) (net : Network) : Except Cause (Device × Address) :=
  match net.device record.id with
  | .error e => .error (.network e)
  | .ok device =>
    match net.loopback? record.id with
    | none => .error .missingLoopback
    | some loopback => .ok (device, loopback)

def warn (record : DeviceRecord) (step : Step) (omissions : List Omission) : List Warning :=
  omissions.map fun o => ⟨record.id, step, o⟩

end DeviceRecord

namespace Dialect

/-- Fills in the OSPF section, if the device is part of the OSPF layer. -/
def fillOspf (dialect : Dialect) (net : Network) (settings : Settings) (record : DeviceRecord) :
    List Warning × DeviceRecord :=
  if net.hasDevice .ospf record.id then
    let (omissions, ospf) := dialect.ospf net settings record.id
    (record.warn .ospf omissions, { record with ospf := some ospf })
  else ([], { record with ospf := none })

/-- Surveys the BGP section, if the device is part of the BGP layer. -/
def surveyBgp (dialect : Dialect) (net : Network) (d : DeviceId) : Survey (Option BgpSection) :=
  if net.hasDevice .bgp d then (dialect.bgp net d).andThen fun bgp => .ok (some bgp)
  else ⟨[], .ok none⟩

/-- Fills in the last two sections, BGP and ISIS. The warnings are those given so far. -/
def compilePeering (dialect : Dialect) (net : Network) (name : String) (warnings : List Warning)
    (record : DeviceRecord) : Outcome :=
  let peering := dialect.surveyBgp net record.id
  let warnings := warnings ++ record.warn .bgp peering.omissions
  match peering.result with
  | .error c => ⟨record, warnings, some ⟨record.id, name, .bgp, c⟩⟩
  | .ok bgp => ⟨{ record with bgp := bgp, isis := dialect.isis net record.id }, warnings, none⟩

/-- Fills in all sections of a record that knows its device. -/
def compileSections (dialect : Dialect) (net : Network) (settings : Settings) (name : String)
    (record : DeviceRecord) : Outcome :=
  let wired := dialect.interfaces net record
  let warnings := record.warn .interfaces wired.omissions
  match wired.result with
  | .error c => ⟨record, warnings, some ⟨record.id, name, .interfaces, c⟩⟩
  | .ok interfaces =>
    let (ospfWarnings, routed) :=
      dialect.fillOspf net settings { record with interfaces := interfaces }
    dialect.compilePeering net name (warnings ++ ospfWarnings) routed

/-- Fills in the record of a device: identity, interfaces, OSPF, BGP, ISIS. A failure ends this; the
sections before it stay, and later ones keep what the record held. -/
def compile (dialect : Dialect) (net : Network) (settings : Settings) (record : DeviceRecord) :
    Outcome :=
  let name := record.inputName
  match record.identity net with
  | .error c => ⟨record, [], some ⟨record.id, name, .device, c⟩⟩
  | .ok (device, loopback) =>
    dialect.compileSections net settings name (record.identify device loopback)

end Dialect

end NetDesign
