import NetDesign.Proofs.Configuration.Course
import NetDesign.Proofs.Deployment.Visits

set_option autoImplicit false

namespace NetDesign

/-- What a record of an emulated machine gets beside the configuration of its daemons. -/
structure MachineSetup where
  daemon : DaemonSettings
  shell : ShellAccess
  tap : TapInterface

/-- What a platform writes into a record before its dialect takes over. -/
structure Setup where
  render : RenderTarget
  interfaceIds : SortedMap LinkId InterfaceId
  machine : Option MachineSetup

namespace Setup

def applyTo (setup : Setup) (record : DeviceRecord) : DeviceRecord :=
  let record :=
    { record with render := some setup.render, interfaceIds := setup.interfaceIds }
  match setup.machine with
  | none => record
  | some machine =>
    { record with
      daemon := some machine.daemon, shell := some machine.shell, tap := some machine.tap }

/-- Emulated machines, and only they, are set up as such. Their management interfaces have no
address yet. -/
structure Fits (setup : Setup) (p : Platform) : Prop where
  machine : p = .netkit → ∃ machine, setup.machine = some machine ∧ machine.tap.address = none
  plain : p ≠ .netkit → setup.machine = none

variable {setup : Setup} {p : Platform} {record other : DeviceRecord}

@[simp] theorem applyTo_id (setup : Setup) (record : DeviceRecord) :
    (setup.applyTo record).id = record.id := by
  unfold applyTo
  cases setup.machine <;> rfl

@[simp] theorem applyTo_inputName (setup : Setup) (record : DeviceRecord) :
    (setup.applyTo record).inputName = record.inputName := by
  unfold applyTo
  cases setup.machine <;> rfl

theorem applyTo_render (setup : Setup) (record : DeviceRecord) :
    (setup.applyTo record).render = some setup.render := by
  unfold applyTo
  cases setup.machine <;> rfl

theorem applyTo_interfaceIds (setup : Setup) (record : DeviceRecord) :
    (setup.applyTo record).interfaceIds = setup.interfaceIds := by
  unfold applyTo
  cases setup.machine <;> rfl

/-- To set up a record of equipment leaves alone what makes a machine. -/
theorem withMachineOf_applyTo_of_plain (fits : setup.Fits p) (plain : p ≠ .netkit)
    (record other : DeviceRecord) :
    record.withMachineOf (setup.applyTo other) = record.withMachineOf other := by
  rw [applyTo, fits.plain plain]
  rfl

/-- To set up a record of a machine decides all that makes the machine. -/
theorem withMachineOf_applyTo_of_netkit (fits : setup.Fits .netkit)
    (record first second : DeviceRecord) :
    record.withMachineOf (setup.applyTo first) = record.withMachineOf (setup.applyTo second) := by
  obtain ⟨machine, given, -⟩ := fits.machine rfl
  simp only [applyTo, given, DeviceRecord.withMachineOf]

end Setup

/-- The course of a device whose debugging output is turned on once it is compiled. -/
def Course.debugged : Course → Course
  | .complete loopback interfaces ospf bgp isis warnings =>
    .complete loopback interfaces ospf (bgp.map fun bgp => { bgp with debug := true }) isis warnings
  | course => course

theorem DeviceRecord.nameInterfaces_eq (record : DeviceRecord) (net : Network) (supply : Supply) :
    record.nameInterfaces net supply =
      ({ record with interfaceIds := .ofList (supply.assign (net.linksOf record.id)).1 },
        (supply.assign (net.linksOf record.id)).2.mapError record.allocationFailure) := rfl

namespace Platform

variable {p : Platform} {profile : Profile} {net : Network} {d : DeviceId} {device : Device}

theorem adjust_outcome_netkit (course : Course) (device : Device) (record : DeviceRecord) :
    netkit.adjust (course.outcome device record) = course.debugged.outcome device record := by
  cases course <;> rfl

theorem adjust_of_ne_netkit (plain : p ≠ .netkit) (outcome : Outcome) :
    p.adjust outcome = outcome := by
  cases p with
  | netkit => exact absurd rfl plain
  | _ => rfl

/-- How a machine is set up depends on its record only through the device. Its management interface
takes the name that comes next after those of the links. -/
theorem allocate_netkit (listed : profile ∈ netkit.profiles) (net : Network) (settings : Settings)
    (host timestamp template label : String) (d : DeviceId) :
    ∃ (setup : Setup) (machine : MachineSetup), setup.machine = some machine ∧
      machine.tap = ⟨Scheme.netkit.name (net.linksOf d).length, none⟩ ∧
      ∀ record : DeviceRecord, record.id = d →
        netkit.allocate profile net
          (netkit.prepare settings host timestamp template label record) =
            (setup.applyTo record, none) := by
  obtain rfl := List.mem_singleton.mp listed
  let named := (Supply.ofScheme .netkit).assign (net.linksOf d)
  have ended : named.2 = .ok ⟨.netkit, 0 + (net.linksOf d).length⟩ :=
    Supply.assign_of_plain rfl rfl 0 (net.linksOf d)
  rw [Nat.zero_add] at ended
  have drawn : (⟨.netkit, (net.linksOf d).length⟩ : Supply).draw = .ok _ :=
    Supply.draw_of_plain rfl rfl _
  let machine : MachineSetup :=
    ⟨⟨hostname label, settings.terminalPassword, []⟩, ⟨true⟩,
      ⟨Scheme.netkit.name (net.linksOf d).length, none⟩⟩
  refine ⟨⟨netkit.renderTarget settings host timestamp template label, .ofList named.1,
    some machine⟩, machine, rfl, rfl, ?_⟩
  rintro record rfl
  have prepared := (netkit.prepare_keeps settings host timestamp template label record).1
  rw [allocate, DeviceRecord.nameInterfaces_eq, prepared, ended]
  simp only [mapError_ok, connect, DeviceRecord.addTap, drawn]
  rfl

/-- How equipment is set up, and whether its ports suffice, depends on its record only through the
device. -/
theorem allocate_of_ne_netkit (plain : p ≠ .netkit) (profile : Profile) (net : Network)
    (settings : Settings) (host timestamp template label : String) (d : DeviceId) :
    ∃ setup : Setup, setup.Fits p ∧ ∃ lack : Option Exhausted, ∀ record : DeviceRecord,
      record.id = d →
      p.allocate profile net (p.prepare settings host timestamp template label record) =
        (setup.applyTo record, lack.map record.allocationFailure) := by
  let named := (Supply.ofScheme profile.scheme).assign (net.linksOf d)
  let setup : Setup :=
    ⟨p.renderTarget settings host timestamp template label, .ofList named.1, none⟩
  have prepared : ∀ record : DeviceRecord,
      p.prepare settings host timestamp template label record =
        { record with
          render := some (p.renderTarget settings host timestamp template label) } := by
    intro record
    cases p with
    | netkit => exact absurd rfl plain
    | _ => rfl
  have connected : ∀ (record : DeviceRecord) supply, p.connect record supply = .ok record := by
    intro record supply
    cases p with
    | netkit => exact absurd rfl plain
    | _ => rfl
  refine ⟨setup, ⟨fun machine => absurd machine plain, fun _ => rfl⟩, ?_⟩
  cases ended : named.2 with
  | error e =>
    refine ⟨some e, ?_⟩
    rintro record rfl
    rw [prepared, allocate, DeviceRecord.nameInterfaces_eq, ended]
    rfl
  | ok supply =>
    refine ⟨none, ?_⟩
    rintro record rfl
    rw [prepared, allocate, DeviceRecord.nameInterfaces_eq, ended]
    simp only [mapError_ok, connected]
    rfl

/-- A device takes the same course for a platform whatever its record holds. -/
theorem compileDevice_course (listed : profile ∈ p.profiles) (settings : Settings)
    (host timestamp : String) (labelled : Device) (found : net.device? d = some device) :
    ∃ (setup : Setup) (course : Course), setup.Fits p ∧ ∀ record : DeviceRecord, record.id = d →
      p.compileDevice profile net settings host timestamp labelled record =
        course.outcome device (setup.applyTo record) := by
  have allocated : ∃ setup : Setup, setup.Fits p ∧ ∃ lack : Option Exhausted,
      ∀ record : DeviceRecord, record.id = d →
        p.allocate profile net
          (p.prepare settings host timestamp profile.template labelled.label record) =
            (setup.applyTo record, lack.map record.allocationFailure) := by
    by_cases machine : p = .netkit
    · subst machine
      obtain ⟨setup, machine, given, tap, made⟩ := allocate_netkit listed net settings host
        timestamp profile.template labelled.label d
      exact ⟨setup, ⟨fun _ => ⟨machine, given, by rw [tap]⟩, fun plain => absurd rfl plain⟩, none,
        made⟩
    · exact allocate_of_ne_netkit machine profile net settings host timestamp profile.template
        labelled.label d
  obtain ⟨setup, fits, lack, made⟩ := allocated
  cases lack with
  | some e =>
    refine ⟨setup, .halted .allocation (.exhausted e), fits, fun record id => ?_⟩
    simp only [compileDevice, made record id, Option.map_some]
    simp only [Course.outcome, DeviceRecord.failure, Setup.applyTo_id, Setup.applyTo_inputName,
      DeviceRecord.allocationFailure]
  | none =>
    obtain ⟨course, -, compiled⟩ :=
      profile.dialect.compile_course settings found setup.interfaceIds
    have made : ∀ record : DeviceRecord, record.id = d →
        p.compileDevice profile net settings host timestamp labelled record =
          p.adjust (course.outcome device (setup.applyTo record)) := by
      intro record id
      simp only [compileDevice, made record id, Option.map_none]
      rw [compiled _ ((setup.applyTo_id record).trans id) (setup.applyTo_interfaceIds record)]
    by_cases machine : p = .netkit
    · subst machine
      refine ⟨setup, course.debugged, fits, fun record id => ?_⟩
      rw [made record id, adjust_outcome_netkit]
    · refine ⟨setup, course, fits, fun record id => ?_⟩
      rw [made record id, adjust_of_ne_netkit machine]

theorem allocate_keeps (p : Platform) (profile : Profile) (net : Network) (record : DeviceRecord) :
    let left := (p.allocate profile net record).1
    left.render = record.render ∧ left.interfaceIds =
      .ofList ((Supply.ofScheme profile.scheme).assign (net.linksOf record.id)).1 := by
  rw [allocate, DeviceRecord.nameInterfaces_eq]
  cases ((Supply.ofScheme profile.scheme).assign (net.linksOf record.id)).2 with
  | error e => exact ⟨rfl, rfl⟩
  | ok supply =>
    simp only [mapError_ok]
    cases p with
    | netkit =>
      simp only [connect, DeviceRecord.addTap]
      cases supply.draw <;> exact ⟨rfl, rfl⟩
    | _ => exact ⟨rfl, rfl⟩

theorem adjust_keeps (p : Platform) (outcome : Outcome) :
    let left := (p.adjust outcome).record
    left.render = outcome.record.render ∧ left.interfaceIds = outcome.record.interfaceIds := by
  unfold adjust
  split <;> exact ⟨rfl, rfl⟩

/-- Whatever comes of a device, its record says where its files go and how its interfaces are
named. -/
theorem compileDevice_keeps (p : Platform) (profile : Profile) (net : Network)
    (settings : Settings) (host timestamp : String) (device : Device) (record : DeviceRecord) :
    let left := (p.compileDevice profile net settings host timestamp device record).record
    left.render = some (p.renderTarget settings host timestamp profile.template device.label) ∧
      left.interfaceIds =
        .ofList ((Supply.ofScheme profile.scheme).assign (net.linksOf record.id)).1 := by
  let prepared := p.prepare settings host timestamp profile.template device.label record
  have own : prepared.id = record.id := (p.prepare_keeps ..).1
  have render : prepared.render =
      some (p.renderTarget settings host timestamp profile.template device.label) := by
    cases p <;> rfl
  obtain ⟨sameRender, names⟩ := p.allocate_keeps profile net prepared
  rw [own] at names
  unfold compileDevice
  cases allocated : p.allocate profile net prepared with
  | mk named failure =>
    rw [allocated] at sameRender names
    simp only [prepared] at allocated
    simp only [allocated]
    cases failure with
    | some f => exact ⟨sameRender.trans render, names⟩
    | none =>
      obtain ⟨ids, target⟩ := profile.dialect.compile_keeps net settings named
      obtain ⟨adjusted, adjustedIds⟩ :=
        p.adjust_keeps (profile.dialect.compile net settings named)
      exact ⟨adjusted.trans (target.trans (sameRender.trans render)),
        adjustedIds.trans (ids.trans names)⟩

/-- What comes of a device of a deployment, whatever the inventory holds on it. -/
theorem outcome_course {host : String} {s : Selected} (mem : s ∈ p.roster host net)
    (settings : Settings) (timestamp : String) :
    ∃ (setup : Setup) (course : Course), setup.Fits p ∧ ∀ inv : Inventory,
      inv.timestamp = timestamp → (inv.recordFor net s.id).id = s.id →
      p.outcome host net settings inv s =
        course.outcome s.device (setup.applyTo (inv.recordFor net s.id)) := by
  obtain ⟨setup, course, fits, made⟩ := compileDevice_course (mem_roster.mp mem).1 settings host
    timestamp s.device (device?_of_mem_roster mem)
  refine ⟨setup, course, fits, ?_⟩
  rintro inv rfl own
  exact made (inv.recordFor net s.id) own

/-- A machine is left with a management interface without an address, whether it compiles or not. -/
theorem tap_compileDevice (listed : profile ∈ netkit.profiles) (net : Network)
    (settings : Settings) (host timestamp : String) (device : Device) (record : DeviceRecord) :
    (netkit.compileDevice profile net settings host timestamp device record).record.tap =
      some ⟨Scheme.netkit.name (net.linksOf record.id).length, none⟩ := by
  obtain ⟨setup, machine, given, tap, allocated⟩ := allocate_netkit listed net settings host
    timestamp profile.template device.label record.id
  obtain ⟨known, course, -, compiled⟩ :=
    profile.dialect.exists_course net settings (setup.applyTo record)
  have made : netkit.compileDevice profile net settings host timestamp device record =
      course.debugged.outcome known (setup.applyTo record) := by
    simp only [compileDevice, allocated record rfl, compiled _ rfl rfl]
    exact adjust_outcome_netkit course known _
  obtain ⟨-, -, -, -, kept⟩ := course.debugged.outcome_platform known (setup.applyTo record)
  rw [made, kept, ← tap, Setup.applyTo, given]

theorem outcome_tap {host : String} {s : Selected} (mem : s ∈ netkit.roster host net)
    (settings : Settings) {inv : Inventory} (keyed : inv.Keyed) :
    (netkit.outcome host net settings inv s).record.tap =
      some ⟨Scheme.netkit.name (net.linksOf s.id).length, none⟩ := by
  rw [outcome, tap_compileDevice (mem_roster.mp mem).1, keyed.recordFor_id net s.id]

end Platform

end NetDesign
