import NetDesign.Proofs.Address.Text
import NetDesign.Proofs.Configuration.Course
import NetDesign.Proofs.Deployment.Frame

set_option autoImplicit false

namespace NetDesign

/-- What stands between the spaces of a line. -/
def Text.words (line : String) : List String := (line.toList.splitOn ' ').map String.ofList

/-- The machines can be read off the line that lists them. An empty line also lists one machine
without a name. -/
theorem Lab.words_machinesLine {lab : Lab}
    (plain : ∀ machine ∈ lab.machines, ' ' ∉ machine.toList) :
    Text.words lab.machinesLine = if lab.machines = [] then [""] else lab.machines := by
  by_cases none : lab.machines = []
  · rw [if_pos none, machinesLine, none]
    rfl
  · have parts : lab.machinesLine.toList.splitOn ' ' = lab.machines.map String.toList :=
      splitOn_joined none plain
    have inverse : String.ofList ∘ String.toList = id := funext fun _ => String.ofList_toList
    rw [if_neg none, Text.words, parts, List.map_map, inverse, List.map_id]

/-- The hostname that a record holds is made from a label. -/
def DeviceRecord.Hosted (record : DeviceRecord) : Prop :=
  ∃ label, record.hostname = NetDesign.hostname label

theorem Dialect.compile_hostname {net : Network} (dialect : Dialect) (settings : Settings)
    {record : DeviceRecord} (compiled : (dialect.compile net settings record).failure = none) :
    (dialect.compile net settings record).record.Hosted := by
  obtain ⟨device, course, -, made⟩ := dialect.exists_course net settings record
  rw [made record rfl rfl] at compiled ⊢
  cases course with
  | complete => exact ⟨device.label, rfl⟩
  | _ => cases compiled

namespace Platform

variable {p : Platform} {host : String} {net : Network} {settings : Settings} {inv : Inventory}

@[simp] theorem adjust_hostname (p : Platform) (outcome : Outcome) :
    (p.adjust outcome).record.hostname = outcome.record.hostname := by
  unfold adjust
  split <;> rfl

theorem outcome_hosted {s : Selected} (mem : s ∈ p.roster host net)
    (compiled : (p.outcome host net settings inv s).failure = none) :
    (p.outcome host net settings inv s).record.Hosted := by
  obtain ⟨named, -, -, done, made⟩ := compileDevice_of_compiled (mem_roster.mp mem).1 settings
    host inv.timestamp s.device compiled
  obtain ⟨label, written⟩ := s.profile.dialect.compile_hostname settings done
  exact ⟨label, by rw [outcome, made, adjust_hostname, written]⟩

/-- What the inventory held on a device before does not matter for its hostname. -/
theorem deploy_hosted {d : DeviceId} (listed : d ∈ (p.deploy host net settings inv).2.compiled) :
    ∃ record, (p.deploy host net settings inv).1.records.get? d = some record ∧
      record.Hosted := by
  obtain ⟨s, mem, rfl, compiled⟩ := exists_visited_of_mem_compiled listed
  obtain ⟨label, written⟩ := outcome_hosted mem compiled
  obtain ⟨left, held, same⟩ := get?_deploy (get?_visitAll_of_mem mem settings inv)
  have kept : left.hostname = (p.outcome host net settings inv s).record.hostname :=
    congrArg (·.withoutTap.hostname) same
  exact ⟨left, held, label, kept.trans written⟩

end Platform

namespace Lab

/-- The name of a machine has a form in which it can stand in a list of names. -/
def PlainName (name : String) : Prop := ∀ c ∈ name.toList, c ≠ '.' ∧ Text.isBlank c = false

theorem PlainName.space_not_mem {name : String} (plain : PlainName name) : ' ' ∉ name.toList :=
  fun mem => absurd (plain ' ' mem).2 (by decide)

variable (pool : ManagementPool) (folder : String) {records : List DeviceRecord}

theorem length_machines_ofRecords :
    (ofRecords pool folder records).machines.length = records.length := by
  rw [ofRecords, (sorted_perm _ _).length_eq, List.length_map]

theorem plain_ofRecords (hosted : ∀ record ∈ records, record.Hosted) :
    ∀ machine ∈ (ofRecords pool folder records).machines, PlainName machine := by
  intro machine mem
  obtain ⟨record, shown, rfl⟩ := List.mem_map.mp ((sorted_perm _ _).mem_iff.mp mem)
  obtain ⟨label, made⟩ := hosted record shown
  rw [made]
  exact fun c inside => not_dot_or_blank_of_mem_hostname inside

end Lab

namespace Platform

theorem labs_deploy_raised (host : String) (net : Network) (settings : Settings)
    (inv : Inventory) :
    ∃ pool folder, (netkit.deploy host net settings inv).1.labs.get? host =
      some (.ofRecords pool folder ((netkit.deploy host net settings inv).2.compiled.filterMap
        (netkit.deploy host net settings inv).1.records.get?)) := by
  rw [deploy_netkit_eq, raiseLab_eq]
  exact ⟨_, _, SortedMap.get?_insert_self ..⟩

/-- Whatever the labels of its devices are and whatever the inventory held before, the lab of a host
has a machine for each device that is listed as compiled. The line of the machines falls apart into
them at its spaces. -/
theorem deploy_machinesLine (host : String) (net : Network) (settings : Settings)
    (inv : Inventory) :
    let left := (netkit.deploy host net settings inv).1
    let report := (netkit.deploy host net settings inv).2
    ∃ lab, left.labs.get? host = some lab ∧
      lab.machines.length = report.compiled.length ∧
      Text.words lab.machinesLine = (if lab.machines = [] then [""] else lab.machines) ∧
      ∀ machine ∈ lab.machines, ∀ c ∈ machine.toList, c ≠ '.' ∧ Text.isBlank c = false := by
  intro left report
  obtain ⟨pool, folder, raised⟩ := labs_deploy_raised host net settings inv
  have hosted : ∀ d ∈ report.compiled, ∃ record, left.records.get? d = some record ∧
      record.Hosted := fun d listed => deploy_hosted listed
  have ofHosted : ∀ record ∈ report.compiled.filterMap left.records.get?, record.Hosted := by
    intro record shown
    obtain ⟨d, listed, held⟩ := List.mem_filterMap.mp shown
    obtain ⟨other, found, made⟩ := hosted d listed
    rw [held, Option.some.injEq] at found
    exact found ▸ made
  have count : (report.compiled.filterMap left.records.get?).length = report.compiled.length := by
    refine List.filterMap_length_eq_length.mpr fun d listed => ?_
    obtain ⟨record, held, -⟩ := hosted d listed
    exact Option.isSome_of_eq_some held
  have plain := Lab.plain_ofRecords pool folder ofHosted
  exact ⟨_, raised, (Lab.length_machines_ofRecords pool folder).trans count,
    Lab.words_machinesLine fun machine mem => (plain machine mem).space_not_mem, plain⟩

/-- Three routers, one without a label and two with white space in it. -/
def blankLabels : Network :=
  Network.empty.after
    [.addDevice (Network.twoSystemsRouter "" 1), .addDevice (Network.twoSystemsRouter "a b" 1),
      .addDevice (Network.twoSystemsRouter "\u00a0.c" 1), .setLoopback ⟨0⟩ (some ⟨1⟩),
      .setLoopback ⟨1⟩ (some ⟨2⟩), .setLoopback ⟨2⟩ (some ⟨3⟩)]

theorem blankLabels_line :
    let left := (netkit.deploy "lab" blankLabels .standard (.empty "0")).1
    blankLabels.Reachable ∧ ∃ lab, left.labs.get? "lab" = some lab ∧
      lab.machines = ["", "__c", "a_b"] ∧ lab.machinesLine = " __c a_b" ∧
      Text.words " __c a_b" = lab.machines ∧
      ∀ machine ∈ lab.machines, ∀ c ∈ machine.toList, c ≠ '.' ∧ Text.isBlank c = false := by
  intro left
  obtain ⟨lab, held, -, parts, plain⟩ :=
    deploy_machinesLine "lab" blankLabels .standard (.empty "0")
  have run : (left.labs.get? "lab").map (·.machines) = some ["", "__c", "a_b"] := by
    decide +kernel
  rw [held, Option.map_some, Option.some.injEq] at run
  have line : lab.machinesLine = " __c a_b" := by
    rw [Lab.machinesLine, run]
    decide
  rw [line, run] at parts
  exact ⟨⟨_, rfl⟩, lab, held, run, line, parts.trans run.symm, plain⟩

end Platform

end NetDesign
