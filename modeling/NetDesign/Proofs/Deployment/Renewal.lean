import NetDesign.Proofs.Deployment.Course
import NetDesign.Proofs.Deployment.Queue

set_option autoImplicit false

namespace NetDesign

namespace Platform

variable {p : Platform} {host : String} {net : Network} {settings : Settings}
  {inv other : Inventory}

/-- The warnings about a device are the same whatever its record held. -/
theorem outcome_warnings_eq {s : Selected} (mem : s ∈ p.roster host net) (settings : Settings)
    (keyed : inv.Keyed) (keyedOther : other.Keyed) (time : other.timestamp = inv.timestamp) :
    (p.outcome host net settings other s).warnings =
      (p.outcome host net settings inv s).warnings := by
  obtain ⟨setup, course, -, made⟩ := outcome_course mem settings inv.timestamp
  have own := keyed.recordFor_id net s.id
  have ownOther := keyedOther.recordFor_id net s.id
  rw [made inv rfl own, made other time ownOther]
  exact course.outcome_warnings _ _ _

/-- A set-up that fits the platform writes both records, and a compiled record shows nothing else of
the one before. -/
theorem outcome_record_eq {s : Selected} (mem : s ∈ p.roster host net)
    (keyed : inv.Keyed) (keyedOther : other.Keyed) (time : other.timestamp = inv.timestamp)
    (compiled : (p.outcome host net settings inv s).failure = none) :
    ∃ setup : Setup, setup.Fits p ∧
      (p.outcome host net settings inv s).record =
        (p.outcome host net settings inv s).record.withMachineOf
          (setup.applyTo (inv.recordFor net s.id)) ∧
      (p.outcome host net settings other s).record =
        (p.outcome host net settings inv s).record.withMachineOf
          (setup.applyTo (other.recordFor net s.id)) := by
  have own := keyed.recordFor_id net s.id
  have ownOther := keyedOther.recordFor_id net s.id
  obtain ⟨setup, course, fits, made⟩ := outcome_course mem settings inv.timestamp
  rw [made inv rfl own] at compiled ⊢
  rw [made other time ownOther]
  have written : ∀ record : DeviceRecord, record.id = s.id →
      (course.outcome s.device (setup.applyTo record)).record =
        (course.outcome s.device (setup.applyTo (inv.recordFor net s.id))).record.withMachineOf
          (setup.applyTo record) := by
    intro record id
    apply Course.outcome_written compiled
    · rw [setup.applyTo_id, setup.applyTo_id, id, own]
    · rw [setup.applyTo_render, setup.applyTo_render]
    · rw [setup.applyTo_interfaceIds, setup.applyTo_interfaceIds]
  exact ⟨setup, fits, written _ own, written _ ownOther⟩

/-- The record of a machine that compiled is renewed in full. -/
theorem outcome_record_netkit {s : Selected} (mem : s ∈ netkit.roster host net)
    (keyed : inv.Keyed) (keyedOther : other.Keyed) (time : other.timestamp = inv.timestamp)
    (compiled : (netkit.outcome host net settings inv s).failure = none) :
    (netkit.outcome host net settings other s).record =
      (netkit.outcome host net settings inv s).record := by
  obtain ⟨setup, fits, record, recordOther⟩ :=
    outcome_record_eq mem keyed keyedOther time compiled
  rw [recordOther, Setup.withMachineOf_applyTo_of_netkit fits _ _ (inv.recordFor net s.id),
    ← record]

/-- The record of equipment that compiled is renewed but for what would make it a machine. -/
theorem outcome_record_of_plain {s : Selected} (plain : p ≠ .netkit)
    (mem : s ∈ p.roster host net) (keyed : inv.Keyed) (keyedOther : other.Keyed)
    (time : other.timestamp = inv.timestamp)
    (compiled : (p.outcome host net settings inv s).failure = none) :
    (p.outcome host net settings other s).record =
      (p.outcome host net settings inv s).record.withMachineOf (other.recordFor net s.id) := by
  obtain ⟨setup, fits, -, recordOther⟩ := outcome_record_eq mem keyed keyedOther time compiled
  rw [recordOther, Setup.withMachineOf_applyTo_of_plain fits plain]

theorem warnings_deploy (p : Platform) (host : String) (net : Network) (settings : Settings)
    (inv : Inventory) :
    (p.deploy host net settings inv).2.warnings =
      (p.roster host net).flatMap fun s => (p.outcome host net settings inv s).warnings := by
  rw [← warnings_visitAll]
  by_cases machine : p = .netkit
  · subst machine
    rw [(deploy_netkit host net settings inv).2, ManagementPool.serveAll,
      ManagementPool.serve_foldl_report, Report.warnings_fail_foldl]
  · rw [deploy_of_ne_netkit machine]

/-- What the visits find wrong is read off the network, but for the names. -/
theorem unlabelled_failed_visitAll (wf : net.WellFormed) (p : Platform) (host : String)
    (settings : Settings) (keyed : inv.Keyed) :
    (p.visitAll host net settings inv).2.failed.map Failure.unlabelled =
      (p.roster host net).filterMap fun s =>
        (p.deviceFault? s.profile net s.id).map fun fault => (s.id, fault) := by
  rw [(visitAll_report wf p host settings keyed).2, List.map_filterMap]
  refine List.filterMap_congr fun s _ => ?_
  cases p.deviceFault? s.profile net s.id <;> rfl

theorem compiled_deploy_eq (wf : net.WellFormed) (p : Platform) (host : String)
    (settings : Settings) (keyed : inv.Keyed) (keyedOther : other.Keyed) :
    (p.deploy host net settings other).2.compiled =
      (p.deploy host net settings inv).2.compiled := by
  have visited := (visitAll_report wf p host settings keyed).1
  have visitedOther := (visitAll_report wf p host settings keyedOther).1
  by_cases machine : p = .netkit
  · subst machine
    rw [(deploy_report_netkit wf keyed).1, (deploy_report_netkit wf keyedOther).1, visited,
      visitedOther]
  · rw [deploy_of_ne_netkit machine, deploy_of_ne_netkit machine, visited, visitedOther]

theorem unlabelled_failed_deploy_eq (wf : net.WellFormed) (p : Platform) (host : String)
    (settings : Settings) (keyed : inv.Keyed) (keyedOther : other.Keyed) :
    (p.deploy host net settings other).2.failed.map Failure.unlabelled =
      (p.deploy host net settings inv).2.failed.map Failure.unlabelled := by
  have visited := unlabelled_failed_visitAll wf p host settings keyed
  have visitedOther := unlabelled_failed_visitAll wf p host settings keyedOther
  by_cases machine : p = .netkit
  · subst machine
    rw [(deploy_report_netkit wf keyed).2, (deploy_report_netkit wf keyedOther).2,
      List.map_append, List.map_append, visited, visitedOther]
  · rw [deploy_of_ne_netkit machine, deploy_of_ne_netkit machine, visited, visitedOther]

theorem warnings_deploy_eq (p : Platform) (host : String) (net : Network) (settings : Settings)
    (keyed : inv.Keyed) (keyedOther : other.Keyed) (time : other.timestamp = inv.timestamp) :
    (p.deploy host net settings other).2.warnings =
      (p.deploy host net settings inv).2.warnings := by
  rw [warnings_deploy, warnings_deploy]
  exact List.flatMap_congr fun s mem => outcome_warnings_eq mem settings keyed keyedOther time

theorem get?_deploy_netkit_eq (wf : net.WellFormed) (keyed : inv.Keyed) (keyedOther : other.Keyed)
    (time : other.timestamp = inv.timestamp) {d : DeviceId}
    (listed : d ∈ (netkit.deploy host net settings inv).2.compiled) :
    (netkit.deploy host net settings other).1.records.get? d =
      (netkit.deploy host net settings inv).1.records.get? d := by
  obtain ⟨s, mem, own, compiled⟩ := exists_visited_of_mem_compiled listed
  obtain ⟨i, machine, at_i, queued, -⟩ := exists_queue_of_mem_compiled wf settings keyed listed
  have visited : (netkit.visitAll host net settings other).1.records.get? d =
      (netkit.visitAll host net settings inv).1.records.get? d := by
    rw [← own, get?_visitAll_of_mem mem, get?_visitAll_of_mem mem,
      outcome_record_netkit mem keyed keyedOther time compiled]
  -- The machine is served at the same position in both deployments.
  rw [← queued] at visited ⊢
  rw [get?_deploy_of_queue wf settings keyed at_i, get?_deploy_of_queue wf settings keyedOther at_i,
    visited]

theorem get?_deploy_of_plain (plain : p ≠ .netkit) (keyed : inv.Keyed) (keyedOther : other.Keyed)
    (time : other.timestamp = inv.timestamp) {d : DeviceId}
    (listed : d ∈ (p.deploy host net settings inv).2.compiled) :
    ∃ record : DeviceRecord,
      (p.deploy host net settings inv).1.records.get? d =
        some (record.withMachineOf (inv.recordFor net d)) ∧
      (p.deploy host net settings other).1.records.get? d =
        some (record.withMachineOf (other.recordFor net d)) := by
  obtain ⟨s, mem, rfl, compiled⟩ := exists_visited_of_mem_compiled listed
  refine ⟨(p.outcome host net settings inv s).record, ?_, ?_⟩
  · rw [deploy_of_ne_netkit plain, get?_visitAll_of_mem mem,
      ← outcome_record_of_plain plain mem keyed keyed rfl compiled]
  · rw [deploy_of_ne_netkit plain, get?_visitAll_of_mem mem,
      ← outcome_record_of_plain plain mem keyed keyedOther time compiled]

theorem labs_deploy_netkit_eq (wf : net.WellFormed) (keyed : inv.Keyed) (keyedOther : other.Keyed)
    (time : other.timestamp = inv.timestamp) :
    (netkit.deploy host net settings other).1.labs.get? host =
      (netkit.deploy host net settings inv).1.labs.get? host := by
  have records :
      (netkit.deploy host net settings inv).2.compiled.filterMap
          (netkit.deploy host net settings other).1.records.get? =
        (netkit.deploy host net settings inv).2.compiled.filterMap
          (netkit.deploy host net settings inv).1.records.get? :=
    List.filterMap_congr fun d listed => get?_deploy_netkit_eq wf keyed keyedOther time listed
  rw [labs_deploy_netkit wf settings keyed, labs_deploy_netkit wf settings keyedOther, time,
    compiled_deploy_eq wf netkit host settings keyed keyedOther, records]

/-- Two deployments that started from different inventories have made the same. The records of the
devices that compiled differ at most in what makes a machine of a device, and only on equipment,
where it stays as it was. -/
structure Remakes (p : Platform) (host : String) (net : Network) (inv other : Inventory)
    (made remade : Inventory × Report) : Prop where
  compiled : remade.2.compiled = made.2.compiled
  warnings : remade.2.warnings = made.2.warnings
  failed : remade.2.failed.map Failure.unlabelled = made.2.failed.map Failure.unlabelled
  machines : p = .netkit → ∀ d ∈ made.2.compiled, ∃ record,
    made.1.records.get? d = some record ∧ remade.1.records.get? d = some record
  equipment : p ≠ .netkit → ∀ d ∈ made.2.compiled, ∃ record : DeviceRecord,
    made.1.records.get? d = some (record.withMachineOf (inv.recordFor net d)) ∧
      remade.1.records.get? d = some (record.withMachineOf (other.recordFor net d))
  lab : p = .netkit → ∃ lab,
    made.1.labs.get? host = some lab ∧ remade.1.labs.get? host = some lab
  otherRecords : ∀ d ∉ (p.roster host net).map (·.id),
    made.1.records.get? d = inv.records.get? d ∧ remade.1.records.get? d = other.records.get? d
  otherLabs : ∀ name, ¬ (p = .netkit ∧ name = host) →
    made.1.labs.get? name = inv.labs.get? name ∧ remade.1.labs.get? name = other.labs.get? name

/-- A deployment makes the same of its devices whatever the inventory held on them, as long as every
record is kept under its own device. -/
theorem deploy_remakes {net : Network} (reachable : net.Reachable) (p : Platform) (host : String)
    (settings : Settings) {inv other : Inventory} (keyed : inv.Keyed) (keyedOther : other.Keyed)
    (time : other.timestamp = inv.timestamp) :
    p.Remakes host net inv other (p.deploy host net settings inv)
      (p.deploy host net settings other) := by
  have wf := reachable.wellFormed
  refine
    { compiled := compiled_deploy_eq wf p host settings keyed keyedOther
      warnings := warnings_deploy_eq p host net settings keyed keyedOther time
      failed := unlabelled_failed_deploy_eq wf p host settings keyed keyedOther
      machines := ?machines
      equipment := fun plain d listed => get?_deploy_of_plain plain keyed keyedOther time listed
      lab := ?lab
      otherRecords := fun d absent =>
        ⟨records_deploy_of_not_mem absent settings inv,
          records_deploy_of_not_mem absent settings other⟩
      otherLabs := fun name elsewhere =>
        ⟨labs_deploy_of_not_raised elsewhere net settings inv,
          labs_deploy_of_not_raised elsewhere net settings other⟩ }
  case machines =>
    rintro rfl d listed
    obtain ⟨-, -, record, -, -, left, -⟩ := deploy_configured wf keyed listed
    refine ⟨record, left, ?_⟩
    rw [get?_deploy_netkit_eq wf keyed keyedOther time listed, left]
  case lab =>
    rintro rfl
    refine ⟨_, labs_deploy_netkit wf settings keyed, ?_⟩
    rw [labs_deploy_netkit_eq wf keyed keyedOther time, labs_deploy_netkit wf settings keyed]

/-- What another network has left on the host does not show. -/
theorem twoSystems_remade :
    let leftover := (netkit.deploy "lab"
      (Network.empty.after [.addDevice (Network.twoSystemsRouter "x" 9)]) .standard (.empty "0")).1
    let made := netkit.deploy "lab" Network.twoSystems .standard (.empty "0")
    let remade := netkit.deploy "lab" Network.twoSystems .standard leftover
    Network.twoSystems.Reachable ∧ (Inventory.empty "0").Keyed ∧ leftover.Keyed ∧
      leftover.timestamp = "0" ∧ leftover ≠ .empty "0" ∧ made.2.compiled = [⟨0⟩, ⟨1⟩] ∧
      netkit.Remakes "lab" Network.twoSystems (.empty "0") leftover made remade := by
  intro leftover made remade
  have keyed := Inventory.empty_keyed "0"
  have keyedLeftover : leftover.Keyed := deploy_keyed keyed
  have time : leftover.timestamp = "0" := netkit.timestamp_deploy ..
  exact ⟨Network.twoSystems_reachable, keyed, keyedLeftover, time, by decide +kernel,
    by decide +kernel,
    deploy_remakes Network.twoSystems_reachable netkit "lab" .standard keyed keyedLeftover time⟩

end Platform

end NetDesign
