import NetDesign.Loading
import NetDesign.Proofs.Deployment.Repetition

set_option autoImplicit false

namespace NetDesign

namespace Network

/-- The name under which a failure is reported. -/
def reportName? (net : Network) (f : Failure) : Option String :=
  (net.device? f.device).map fun device =>
    if f.cause = .managementExhausted then hostname device.label else device.name

theorem reportName?_eq_some {net : Network} {f : Failure} {label : String} :
    net.reportName? f = some label ↔ ∃ device, net.device? f.device = some device ∧
      (f.cause ≠ .managementExhausted → label = device.name) ∧
      (f.cause = .managementExhausted → label = hostname device.label) := by
  rw [reportName?, Option.map_eq_some_iff]
  by_cases exhausted : f.cause = .managementExhausted
  · simp [exhausted, eq_comm]
  · simp [exhausted, eq_comm]

end Network

theorem Platform.reportName?_of_verdict {p : Platform} {host : String} {net : Network}
    {settings : Settings} {inv : Inventory} {s : Selected} (mem : s ∈ p.roster host net)
    (names : inv.Names s.id s.device) {f : Failure}
    (verdict : p.verdict? host net settings inv s = some f) :
    net.reportName? f = some f.label := by
  have found := device?_of_mem_roster mem
  unfold verdict? at verdict
  split at verdict
  case h_1 step cause fault =>
    cases verdict
    have other := deviceFault?_ne_managementExhausted fault
    rw [Network.reportName?, found, Option.map_some, if_neg other, (names.recordFor found).2]
  · split at verdict
    · cases verdict
      rw [Network.reportName?, Machine.unserved, Selected.machine, found, Option.map_some,
        if_pos rfl]
    · cases verdict

namespace Compilation

/-- The inventory is made for the network, and the failures carry the names of their devices. -/
structure Labels (c : Compilation) (net : Network) : Prop where
  keyed : c.inventory.Keyed
  made : net.Makes c.inventory
  labels : ∀ r ∈ c.reports, ∀ f ∈ r.failed, net.reportName? f = some f.label

theorem empty_labels (timestamp : String) (net : Network) :
    Labels ⟨.empty timestamp, []⟩ net where
  keyed := Inventory.empty_keyed timestamp
  made := .empty timestamp
  labels r mem := by cases mem

theorem Labels.extend {c : Compilation} {net : Network} (labels : c.Labels net)
    (wf : net.WellFormed) (settings : Settings) (deployment : String × Platform) :
    (c.extend net settings deployment).Labels net := by
  obtain ⟨host, p⟩ := deployment
  rw [extend_eq]
  refine ⟨Platform.deploy_keyed labels.keyed, labels.made.deploy p host settings, fun r mem => ?_⟩
  rcases List.mem_append.mp mem with old | new
  · exact labels.labels r old
  · rw [List.mem_singleton.mp new]
    intro f failed
    rw [(Platform.deploy_failed wf p host settings labels.keyed).mem_iff] at failed
    obtain ⟨s, listed, verdict⟩ := List.mem_filterMap.mp failed
    exact Platform.reportName?_of_verdict listed
      (labels.made.names (Platform.device?_of_mem_roster listed)) verdict

theorem check_eq_error {c : Compilation} {labels : List String} :
    c.check = .error (.devices labels) ↔ labels ≠ [] ∧ labels = c.failed.map (·.label) := by
  unfold check failedLabels?
  by_cases whole : c.failed = []
  · rw [if_pos whole, whole]
    simp only [List.map_nil, reduceCtorEq, false_iff, not_and, ne_eq]
    exact fun some => some
  · rw [if_neg whole]
    simp only [Except.error.injEq, Error.devices.injEq]
    constructor
    · rintro rfl
      exact ⟨by simpa using whole, rfl⟩
    · rintro ⟨-, rfl⟩
      rfl

end Compilation

namespace Network

theorem compile_labels {net : Network} (wf : net.WellFormed) (settings : Settings)
    (host : Option String) (timestamp : String) :
    (net.compile settings host timestamp).Labels net :=
  List.foldlRecOn (motive := fun c => Compilation.Labels c net) (net.deploymentsOn host) _
    (Compilation.empty_labels timestamp net)
    fun _ labels deployment _ => labels.extend wf settings deployment

/-- A failed device is reported under its name, or under its hostname if no management address was
left for it. The check of a compilation lists these names in the order of the reports. -/
theorem compile_failures_named {net : Network} (reachable : net.Reachable) (settings : Settings)
    (host : Option String) (timestamp : String) :
    let c := net.compile settings host timestamp
    (∀ r ∈ c.reports, ∀ f ∈ r.failed, ∃ device, net.device? f.device = some device ∧
      (f.cause ≠ .managementExhausted → f.label = device.name) ∧
      (f.cause = .managementExhausted → f.label = hostname device.label)) ∧
    ∀ labels, c.check = .error (.devices labels) ↔
      labels ≠ [] ∧ labels.map some = c.failed.map net.reportName? := by
  intro c
  have labelled := (compile_labels reachable.wellFormed settings host timestamp).labels
  refine ⟨fun r mem f failed => reportName?_eq_some.mp (labelled r mem f failed), fun labels => ?_⟩
  have all : c.failed.map net.reportName? = (c.failed.map (·.label)).map some := by
    rw [List.map_map]
    refine List.map_congr_left fun f mem => ?_
    obtain ⟨r, listed, failed⟩ := List.mem_flatMap.mp mem
    exact labelled r listed f failed
  rw [Compilation.check_eq_error, all]
  refine and_congr_right fun _ => ⟨congrArg _, fun same => ?_⟩
  exact List.map_injective_iff.mpr (fun _ _ => Option.some.inj) same

def dottedNames : Network :=
  Network.empty.after
    [.addDevice (twoSystemsRouter "r.0" 1), .addDevice (twoSystemsRouter "r.1" 1),
      .setLoopback ⟨1⟩ (some ⟨1⟩)]

def noAddresses : Settings :=
  { Settings.standard with
    managementBlock := (Net.ofText? "10.0.0.0/30").getD Settings.standard.managementBlock }

theorem dottedNames_named :
    let c := dottedNames.compile noAddresses none "0"
    dottedNames.Reachable ∧ c.check = .error (.devices ["r.0", "r_1"]) := by
  intro c
  have reachable : dottedNames.Reachable := ⟨_, rfl⟩
  obtain ⟨-, lists⟩ := compile_failures_named reachable noAddresses none "0"
  have names : c.failed.map dottedNames.reportName? = [some "r.0", some "r_1"] := by
    decide +kernel
  exact ⟨reachable, (lists ["r.0", "r_1"]).mpr ⟨by simp, names.symm⟩⟩

/-- Not every failure is reported under the name of its device. -/
theorem exhausted_under_hostname :
    ¬ ∀ (net : Network) (settings : Settings) (host : Option String) (timestamp : String),
      net.Reachable → ∀ r ∈ (net.compile settings host timestamp).reports, ∀ f ∈ r.failed,
        (net.device? f.device).map (·.name) = some f.label := by
  intro named
  have listed : ∃ r ∈ (dottedNames.compile noAddresses none "0").reports, ∃ f ∈ r.failed,
      f.device = ⟨1⟩ ∧ f.label = "r_1" := by decide +kernel
  obtain ⟨r, mem, f, failed, device, label⟩ := listed
  have own := named dottedNames noAddresses none "0" ⟨_, rfl⟩ r mem f failed
  have known : (dottedNames.device? ⟨1⟩).map (·.name) = some "r.1" := by decide +kernel
  rw [device, label, known] at own
  exact absurd own (by decide)

end Network

end NetDesign
