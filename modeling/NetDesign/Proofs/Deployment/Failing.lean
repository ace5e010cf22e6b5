import NetDesign.Proofs.Configuration.Course
import NetDesign.Proofs.Deployment.Visits

set_option autoImplicit false

namespace NetDesign

namespace DeviceRecord

/-- An empty record of the same device, with the same names for its interfaces. -/
def emptied (record : DeviceRecord) (name : String) : DeviceRecord :=
  { blank record.id name with interfaceIds := record.interfaceIds }

/-- The record under the name and with the loopback that another one holds. -/
def withIdentityOf (record held : DeviceRecord) : DeviceRecord :=
  { record with
    inputName := held.inputName
    hostname := held.hostname
    loopback := held.loopback
    loopbackNet := held.loopbackNet }

/-- The record with the identity, the interfaces and the OSPF section that another one holds. -/
def withRoutesOf (record held : DeviceRecord) : DeviceRecord :=
  { record.withIdentityOf held with interfaces := held.interfaces, ospf := held.ospf }

/-- What a compilation leaves alone is the same in both records. -/
structure Keeps (record left : DeviceRecord) : Prop where
  id : left.id = record.id
  render : left.render = record.render
  interfaceIds : left.interfaceIds = record.interfaceIds
  daemon : left.daemon = record.daemon
  shell : left.shell = record.shell
  tap : left.tap = record.tap

end DeviceRecord

namespace Course

variable {device : Device} {record : DeviceRecord} {course : Course}

theorem outcome_keeps (course : Course) (device : Device) (record : DeviceRecord) :
    record.Keeps (course.outcome device record).record := by
  obtain ⟨render, ids, daemon, shell, tap⟩ := course.outcome_platform device record
  exact ⟨course.outcome_id device record, render, ids, daemon, shell, tap⟩

theorem device_of_mem_outcome (own : course.IsOf record.id) {w : Warning}
    (mem : w ∈ (course.outcome device record).warnings) : w.device = record.id := by
  cases course with
  | halted step cause => cases mem
  | _ => exact own w mem

/-- A failed course has come to one of three places. -/
theorem outcome_of_failure (own : course.IsOf record.id) {f : Failure}
    (failed : (course.outcome device record).failure = some f) (name : String) :
    let left := course.outcome device record
    let fresh := course.outcome device (record.emptied name)
    fresh.failure = some { f with label := name } ∧ fresh.warnings = left.warnings ∧
      (f.step = .device ∧ left.record = record ∧ left.warnings = [] ∨
        f.step = .interfaces ∧ left.record = record.withIdentityOf fresh.record ∨
        f.step = .bgp ∧ left.record = record.withRoutesOf fresh.record) := by
  cases course with
  | halted step cause =>
    cases failed
    exact ⟨rfl, rfl, .inl ⟨own, rfl, rfl⟩⟩
  | unwired loopback warnings cause =>
    cases failed
    exact ⟨rfl, rfl, .inr (.inl ⟨rfl, rfl⟩)⟩
  | unpeered loopback interfaces ospf warnings cause =>
    cases failed
    exact ⟨rfl, rfl, .inr (.inr ⟨rfl, rfl⟩)⟩
  | complete => cases failed

end Course

namespace Dialect

/-- A compilation leaves alone what the platform has set in a record, and adds to the warnings of a
report some about its device. If it fails, it fails on an empty record in the same way: where it
looks for the device, with the record as it was and without a warning, in the interfaces, with the
identity of the device written, or in the BGP section, with the interfaces and the OSPF section
written as well. -/
theorem compile_touches (dialect : Dialect) (net : Network) (settings : Settings)
    (record : DeviceRecord) :
    let outcome := dialect.compile net settings record
    record.Keeps outcome.record ∧
      (∀ report : Report,
        (report.note record.id outcome).warnings = report.warnings ++ outcome.warnings) ∧
      (∀ w ∈ outcome.warnings, w.device = record.id) ∧
      ∀ f, outcome.failure = some f → ∀ name,
        let fresh := dialect.compile net settings (record.emptied name)
        fresh.failure = some { f with label := name } ∧ fresh.warnings = outcome.warnings ∧
          (f.step = .device ∧ outcome.record = record ∧ outcome.warnings = [] ∨
            f.step = .interfaces ∧ outcome.record = record.withIdentityOf fresh.record ∨
            f.step = .bgp ∧ outcome.record = record.withRoutesOf fresh.record) := by
  obtain ⟨device, course, own, compiled⟩ := dialect.exists_course net settings record
  have anew (name : String) : dialect.compile net settings (record.emptied name) =
      course.outcome device (record.emptied name) := compiled _ rfl rfl
  rw [compiled record rfl rfl]
  simp only [anew]
  exact ⟨course.outcome_keeps device record, fun report => report.warnings_note _ _,
    fun w mem => Course.device_of_mem_outcome own mem,
    fun f failed name => Course.outcome_of_failure own failed name⟩

def unnumbered : Network :=
  Network.empty.after
    [.addDevice ⟨"a", "a", .router, none, none, none, none⟩, .setLoopback ⟨0⟩ (some ⟨1⟩),
      .joinOspf ⟨0⟩, .joinBgp ⟨0⟩]

/-- A record that holds sections from before. -/
def staleRecord : DeviceRecord :=
  { DeviceRecord.blank ⟨0⟩ "z" with ospf := some ⟨9, "lo", []⟩, isis := some ⟨7, "49.0001"⟩ }

/-- The OSPF section is renewed before the compilation fails, and the ISIS section stays. -/
theorem unnumbered_touched :
    let outcome := ios.compile unnumbered .standard staleRecord
    let fresh := ios.compile unnumbered .standard (staleRecord.emptied "")
    outcome.failure.isSome ∧ outcome.record = staleRecord.withRoutesOf fresh.record ∧
      outcome.record.ospf ≠ staleRecord.ospf ∧ outcome.record.isis = staleRecord.isis := by
  intro outcome fresh
  have failed : outcome.failure = some ⟨⟨0⟩, "z", .bgp, .missingAsn "a"⟩ := by decide +kernel
  obtain ⟨-, -, -, stopped⟩ := compile_touches ios unnumbered .standard staleRecord
  obtain ⟨-, -, place⟩ := stopped _ failed ""
  rcases place with ⟨early, -⟩ | ⟨early, -⟩ | ⟨-, written⟩
  · cases early
  · cases early
  · refine ⟨by rw [failed]; rfl, written, by decide +kernel, ?_⟩
    rw [show outcome.record = _ from written]
    rfl

end Dialect

end NetDesign
