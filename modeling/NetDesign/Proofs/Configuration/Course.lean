import NetDesign.Proofs.Configuration.Compile

set_option autoImplicit false

/- A compilation ends at one of four places, and what it writes until then is read off the network,
the settings and the names of the interfaces alone. So a record that was written once is written
alike again, and of a record that is written in full nothing is left but what belongs to its
platform. -/
namespace NetDesign

/-- Where a compilation ends, with all that it has found by then. -/
inductive Course where
  /-- It ends before anything is known about the device. -/
  | halted (step : Step) (cause : Cause)
  | unwired (loopback : Address) (warnings : List Warning) (cause : Cause)
  | unpeered (loopback : Address) (interfaces : List Interface) (ospf : Option OspfSection)
      (warnings : List Warning) (cause : Cause)
  | complete (loopback : Address) (interfaces : List Interface) (ospf : Option OspfSection)
      (bgp : Option BgpSection) (isis : Option IsisNode) (warnings : List Warning)

namespace DeviceRecord

/-- The record with the settings of an emulated machine that another one holds. -/
def withMachineOf (record held : DeviceRecord) : DeviceRecord :=
  { record with daemon := held.daemon, shell := held.shell, tap := held.tap }

def failure (record : DeviceRecord) (step : Step) (cause : Cause) : Failure :=
  ⟨record.id, record.inputName, step, cause⟩

end DeviceRecord

/-- What a failure says but for the name it gives the device. -/
def Failure.unlabelled (f : Failure) : DeviceId × Step × Cause := (f.device, f.step, f.cause)

theorem DeviceRecord.device_of_mem_warn {record : DeviceRecord} {step : Step}
    {omissions : List Omission} {w : Warning} (mem : w ∈ record.warn step omissions) :
    w.device = record.id := by
  obtain ⟨o, -, rfl⟩ := List.mem_map.mp mem
  rfl

namespace Course

/-- A dialect halts only where it looks for the device, and warns of this device alone. -/
def IsOf (d : DeviceId) : Course → Prop
  | halted step _ => step = .device
  | unwired _ warnings _ => ∀ w ∈ warnings, w.device = d
  | unpeered _ _ _ warnings _ => ∀ w ∈ warnings, w.device = d
  | complete _ _ _ _ _ warnings => ∀ w ∈ warnings, w.device = d

/-- What the course makes of a record of the device. -/
def outcome (device : Device) (record : DeviceRecord) : Course → Outcome
  | halted step cause => ⟨record, [], some (record.failure step cause)⟩
  | unwired loopback warnings cause =>
    ⟨record.identify device loopback, warnings, some (record.failure .interfaces cause)⟩
  | unpeered loopback interfaces ospf warnings cause =>
    ⟨{ record.identify device loopback with interfaces, ospf }, warnings,
      some (record.failure .bgp cause)⟩
  | complete loopback interfaces ospf bgp isis warnings =>
    ⟨{ record.identify device loopback with interfaces, ospf, bgp, isis }, warnings, none⟩

variable {device : Device} {record other : DeviceRecord}

@[simp] theorem outcome_id (course : Course) (device : Device) (record : DeviceRecord) :
    (course.outcome device record).record.id = record.id := by
  cases course <;> rfl

theorem outcome_inputName (course : Course) (named : record.inputName = device.name) :
    (course.outcome device record).record.inputName = device.name := by
  cases course with
  | halted step cause => exact named
  | _ => rfl

/-- The course leaves alone what the platform has set. -/
theorem outcome_platform (course : Course) (device : Device) (record : DeviceRecord) :
    let left := (course.outcome device record).record
    left.render = record.render ∧ left.interfaceIds = record.interfaceIds ∧
      left.daemon = record.daemon ∧ left.shell = record.shell ∧ left.tap = record.tap := by
  cases course <;> exact ⟨rfl, rfl, rfl, rfl, rfl⟩

theorem outcome_warnings (course : Course) (device : Device) (record other : DeviceRecord) :
    (course.outcome device record).warnings = (course.outcome device other).warnings := by
  cases course <;> rfl

/-- What the course has written it writes again, and fails as before. -/
theorem outcome_again (course : Course) (named : record.inputName = device.name) :
    course.outcome device (course.outcome device record).record =
      course.outcome device record := by
  cases course <;> simp [outcome, DeviceRecord.failure, DeviceRecord.identify, named]

/-- A device that is compiled in full gets a record that shows nothing of the one before but what
its platform has set. -/
theorem outcome_written {course : Course} (compiled : (course.outcome device record).failure = none)
    (id : other.id = record.id) (render : other.render = record.render)
    (names : other.interfaceIds = record.interfaceIds) :
    (course.outcome device other).record =
      (course.outcome device record).record.withMachineOf other := by
  cases course with
  | complete loopback interfaces ospf bgp isis warnings =>
    simp [outcome, DeviceRecord.identify, DeviceRecord.withMachineOf, id, render, names]
  | _ => cases compiled

end Course

namespace Dialect

variable {net : Network} {d : DeviceId} {device : Device}

/-- The interfaces of a device depend on its record through four of its fields. -/
theorem interfaces_congr (dialect : Dialect) (net : Network) {record other : DeviceRecord}
    (id : record.id = other.id) (names : record.interfaceIds = other.interfaceIds)
    (loopback : record.loopback = other.loopback)
    (loopbackNet : record.loopbackNet = other.loopbackNet) :
    dialect.interfaces net record = dialect.interfaces net other := by
  have findings : dialect.interfaceFinding net record = dialect.interfaceFinding net other := by
    funext label l
    simp only [interfaceFinding, linkInterface, id, names]
  have loopbacks : dialect.loopbackInterfaces record = dialect.loopbackInterfaces other := by
    funext device
    simp only [loopbackInterfaces, Interface.loopback, loopback, loopbackNet]
  simp only [interfaces, id, findings, loopbacks]

theorem device_of_mem_fillOspf {dialect : Dialect} {settings : Settings} {record : DeviceRecord}
    {w : Warning} (mem : w ∈ (dialect.fillOspf net settings record).1) : w.device = record.id := by
  unfold fillOspf at mem
  split at mem
  · exact DeviceRecord.device_of_mem_warn mem
  · cases mem

/-- Nothing is known about a device that is not there. -/
theorem compile_of_unknown (dialect : Dialect) (settings : Settings) {record : DeviceRecord}
    (absent : net.device? record.id = none) :
    dialect.compile net settings record =
      ⟨record, [], some (record.failure .device (.network (.deviceNotFound record.id)))⟩ := by
  have unknown : record.identity net = .error (.network (.deviceNotFound record.id)) := by
    rw [DeviceRecord.identity, Network.device, absent]
  rw [compile, unknown]
  rfl

/-- A compilation takes the same course for all records of a device with the same interface
names. -/
theorem compile_course (dialect : Dialect) (settings : Settings)
    (found : net.device? d = some device) (names : SortedMap LinkId InterfaceId) :
    ∃ course : Course, course.IsOf d ∧
      ∀ record : DeviceRecord, record.id = d → record.interfaceIds = names →
        dialect.compile net settings record = course.outcome device record := by
  cases reached : net.loopback? d with
  | none =>
    refine ⟨.halted .device .missingLoopback, rfl, ?_⟩
    rintro record rfl -
    rw [compile_eq dialect settings found, reached]
    rfl
  | some loopback =>
    -- Any record with these names will do to find out what the interfaces are.
    let sample : DeviceRecord :=
      { (DeviceRecord.blank d device.name).identify device loopback with interfaceIds := names }
    have wired : ∀ record : DeviceRecord, record.id = d → record.interfaceIds = names →
        dialect.interfaces net (record.identify device loopback) =
          dialect.interfaces net sample :=
      fun record id same => interfaces_congr dialect net id same rfl rfl
    obtain ⟨ospfWarnings, ospf, filled⟩ := dialect.fillOspf_eq net settings d
    let warnings := sample.warn .interfaces (dialect.interfaces net sample).omissions
    let peeringWarnings := sample.warn .bgp (dialect.surveyBgp net d).omissions
    have ofOspf : ∀ w ∈ ospfWarnings, w.device = d := by
      intro w mem
      have given : (dialect.fillOspf net settings sample).1 = ospfWarnings := by
        rw [filled sample rfl]
      rw [← given] at mem
      exact device_of_mem_fillOspf mem
    have ofDevice : ∀ w ∈ warnings ++ ospfWarnings ++ peeringWarnings, w.device = d := by
      intro w mem
      rcases List.mem_append.mp mem with mem | mem
      · rcases List.mem_append.mp mem with mem | mem
        · exact DeviceRecord.device_of_mem_warn mem
        · exact ofOspf w mem
      · exact DeviceRecord.device_of_mem_warn mem
    have staged : ∀ record : DeviceRecord, record.id = d → record.interfaceIds = names →
        ∀ interfaces, (dialect.interfaces net sample).result = .ok interfaces →
        dialect.compile net settings record =
          dialect.compilePeering net record.inputName (warnings ++ ospfWarnings)
            { record.identify device loopback with interfaces, ospf } := by
      rintro record rfl same interfaces listed
      rw [compile_eq dialect settings found, reached]
      simp only [compileSections, wired record rfl same, listed]
      simp only [filled { record.identify device loopback with interfaces } rfl]
      rfl
    cases listed : (dialect.interfaces net sample).result with
    | error cause =>
      refine ⟨.unwired loopback warnings cause,
        fun w mem => DeviceRecord.device_of_mem_warn mem, ?_⟩
      rintro record rfl same
      rw [compile_eq dialect settings found, reached]
      simp only [compileSections, wired record rfl same, listed]
      rfl
    | ok interfaces =>
      let allWarnings := warnings ++ ospfWarnings ++ peeringWarnings
      cases surveyed : (dialect.surveyBgp net d).result with
      | error cause =>
        refine ⟨.unpeered loopback interfaces ospf allWarnings cause, ofDevice, ?_⟩
        rintro record rfl same
        rw [staged record rfl same interfaces listed, compilePeering]
        simp only [DeviceRecord.identify, surveyed]
        rfl
      | ok bgp =>
        refine ⟨.complete loopback interfaces ospf bgp (dialect.isis net d) allWarnings,
          ofDevice, ?_⟩
        rintro record rfl same
        rw [staged record rfl same interfaces listed, compilePeering]
        simp only [DeviceRecord.identify, surveyed]
        rfl

/-- So it does for a device that is not there. -/
theorem exists_course (dialect : Dialect) (net : Network) (settings : Settings)
    (record : DeviceRecord) :
    ∃ (device : Device) (course : Course), course.IsOf record.id ∧
      ∀ other : DeviceRecord, other.id = record.id → other.interfaceIds = record.interfaceIds →
        dialect.compile net settings other = course.outcome device other := by
  cases found : net.device? record.id with
  | none =>
    refine ⟨default, .halted .device (.network (.deviceNotFound record.id)), rfl, ?_⟩
    intro other id _
    rw [← id] at found ⊢
    exact compile_of_unknown dialect settings found
  | some device =>
    obtain ⟨course, own, compiled⟩ := dialect.compile_course settings found record.interfaceIds
    exact ⟨device, course, own, compiled⟩

/-- What the platform has set stays, whatever comes of the compilation. -/
theorem compile_keeps (dialect : Dialect) (net : Network) (settings : Settings)
    (record : DeviceRecord) :
    let left := (dialect.compile net settings record).record
    left.interfaceIds = record.interfaceIds ∧ left.render = record.render := by
  obtain ⟨device, course, -, compiled⟩ := dialect.exists_course net settings record
  rw [compiled record rfl rfl]
  obtain ⟨render, ids, -⟩ := course.outcome_platform device record
  exact ⟨ids, render⟩

/-- A compilation that comes to its end has found something for each section. -/
theorem compile_written (dialect : Dialect) (settings : Settings) {record : DeviceRecord}
    (compiled : (dialect.compile net settings record).failure = none) :
    ∃ device loopback interfaces bgp,
      let known := record.identify device loopback
      let wired := dialect.interfaces net known
      let routed := dialect.fillOspf net settings { known with interfaces }
      let peering := dialect.surveyBgp net record.id
      net.device? record.id = some device ∧ wired.result = .ok interfaces ∧
      peering.result = .ok bgp ∧
      dialect.compile net settings record =
        { record := { routed.2 with bgp, isis := dialect.isis net record.id }
          warnings := record.warn .interfaces wired.omissions ++ routed.1 ++
            record.warn .bgp peering.omissions
          failure := none } := by
  cases found : net.device? record.id with
  | none =>
    rw [compile_of_unknown dialect settings found] at compiled
    cases compiled
  | some device =>
    rw [compile_eq dialect settings found] at compiled ⊢
    cases reached : net.loopback? record.id with
    | none =>
      rw [reached] at compiled
      cases compiled
    | some loopback =>
      simp only [reached, compileSections] at compiled ⊢
      cases listed : (dialect.interfaces net (record.identify device loopback)).result with
      | error c =>
        simp only [listed] at compiled
        cases compiled
      | ok interfaces =>
        obtain ⟨warnings, ospf, filled⟩ := dialect.fillOspf_eq net settings record.id
        have routed := filled { record.identify device loopback with interfaces } rfl
        simp only [listed, routed, compilePeering] at compiled ⊢
        cases surveyed : (dialect.surveyBgp net record.id).result with
        | error c =>
          simp only [DeviceRecord.identify, surveyed] at compiled
          cases compiled
        | ok bgp =>
          refine ⟨device, loopback, interfaces, bgp, rfl, listed, rfl, ?_⟩
          rw [routed]
          simp only [DeviceRecord.identify, surveyed]
          rfl

/-- A record that is written in full holds the interfaces that its dialect finds for it, and the
ISIS section of its device. -/
theorem compile_wired (dialect : Dialect) (settings : Settings) {record : DeviceRecord}
    (compiled : (dialect.compile net settings record).failure = none) :
    let left := (dialect.compile net settings record).record
    (dialect.interfaces net left).result = .ok left.interfaces ∧
      left.isis = dialect.isis net record.id := by
  obtain ⟨device, loopback, interfaces, bgp, -, listed, -, made⟩ :=
    compile_written dialect settings compiled
  obtain ⟨warnings, ospf, filled⟩ := dialect.fillOspf_eq net settings record.id
  rw [filled { record.identify device loopback with interfaces } rfl] at made
  rw [made]
  exact ⟨(congrArg Survey.result (interfaces_congr dialect net rfl rfl rfl rfl)).trans listed, rfl⟩

end Dialect

end NetDesign
