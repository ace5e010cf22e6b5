import NetDesign.Address.Text
import NetDesign.ManagementPool
import NetDesign.Ordered
import NetDesign.Record

set_option autoImplicit false

namespace NetDesign

namespace DeviceRecord

def setTapAddress (record : DeviceRecord) (address : Option Address) : DeviceRecord :=
  { record with tap := record.tap.map fun tap => { tap with address } }

/-- The wiring of the interfaces that have an identifier. -/
def labBindings (record : DeviceRecord) : List LabBinding :=
  record.interfaces.filterMap fun i =>
    (i.link.bind record.interfaceIds.get?).map fun id =>
      { machine := record.hostname
        interface := id.numericSuffix
        domain := i.subnet.text.map fun c => if c = '/' then '.' else c }

def labTap? (record : DeviceRecord) : Option LabTap :=
  record.tap.bind fun tap => tap.address.map fun address => ⟨record.hostname, tap.name, address⟩

end DeviceRecord

/-- A machine of a host, by the name it gives itself and its number. -/
structure Machine where
  hostname : String
  id : DeviceId
deriving DecidableEq, Repr

namespace Machine

/-- Machines are ordered by hostname, then by number. -/
instance : Ord Machine := ⟨compareLex (compareOn (·.hostname)) (compareOn (·.id))⟩

instance : Std.TransOrd Machine :=
  inferInstanceAs (Std.TransCmp (compareLex (compareOn Machine.hostname) (compareOn Machine.id)))

instance : Std.LawfulEqOrd Machine where
  eq_of_compare {a b} same := by
    have ⟨hostname, id⟩ := compareLex_eq_eq.mp same
    cases a
    cases b
    simp_all [compareOn]

def precedes (a b : Machine) : Bool := (compare a b).isLE

end Machine

namespace Inventory

/-- The machines of a host, given the devices that compiled. -/
def machines (inv : Inventory) (ids : List DeviceId) : List Machine :=
  ids.filterMap fun d => (inv.records.get? d).map fun record => ⟨record.hostname, d⟩

end Inventory

namespace Lab

/-- The lab of the machines of a host, given in ascending order. -/
def ofRecords (pool : ManagementPool) (folder : String) (records : List DeviceRecord) : Lab :=
  { render :=
      { template := "templates/netkit_lab_conf.mako", base := none, folder, baseFolder := none
        file := "lab.conf" }
    description := "Netkit Lab"
    machines := sorted (fun a b => a ≤ b) (records.map (·.hostname))
    bindings := sorted (fun a b => a.machine ≤ b.machine) (records.flatMap (·.labBindings))
    tunnelHost := pool.tunnelHost
    tunnelMachine := pool.tunnelMachine
    taps := sorted (fun a b => (compare a.address b.address).isLE)
      (records.filterMap (·.labTap?)) }

end Lab

end NetDesign
