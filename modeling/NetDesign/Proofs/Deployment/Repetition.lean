import NetDesign.Compilation
import NetDesign.Proofs.Deployment.Course
import NetDesign.Proofs.Deployment.Locality
import Mathlib.Data.List.Basic

set_option autoImplicit false

namespace NetDesign

namespace Inventory

/-- If there is a record of the device then it carries the number and the name of the device. -/
def Names (inv : Inventory) (d : DeviceId) (device : Device) : Prop :=
  ∀ record, inv.records.get? d = some record → record.id = d ∧ record.inputName = device.name

variable {inv : Inventory} {net : Network} {d : DeviceId} {device : Device}

theorem Names.recordFor (names : inv.Names d device) (found : net.device? d = some device) :
    (inv.recordFor net d).id = d ∧ (inv.recordFor net d).inputName = device.name := by
  unfold Inventory.recordFor
  cases held : inv.records.get? d with
  | none => simp [DeviceRecord.blank, found]
  | some record => exact names record held

end Inventory

namespace Setup

variable {setup : Setup} {p : Platform} {record other : DeviceRecord}

/-- A record that shows the set-up already is not changed by it. -/
theorem applyTo_eq_self (render : record.render = (setup.applyTo other).render)
    (names : record.interfaceIds = (setup.applyTo other).interfaceIds)
    (daemon : record.daemon = (setup.applyTo other).daemon)
    (shell : record.shell = (setup.applyTo other).shell)
    (tap : record.tap = (setup.applyTo other).tap) : setup.applyTo record = record := by
  rw [applyTo_render] at render
  rw [applyTo_interfaceIds] at names
  cases given : setup.machine with
  | none =>
    simp only [applyTo, given]
    rw [← render, ← names]
  | some machine =>
    simp only [applyTo, given] at daemon shell tap ⊢
    rw [← render, ← names, ← daemon, ← shell, ← tap]

/-- To set up a machine takes back the address of its management interface. -/
theorem applyTo_eq_of_withoutTap (fits : setup.Fits .netkit)
    (same : record.withoutTap = other.withoutTap) : setup.applyTo record = setup.applyTo other := by
  obtain ⟨machine, given, -⟩ := fits.machine rfl
  have forgets : ∀ record : DeviceRecord,
      setup.applyTo record = setup.applyTo record.withoutTap := by
    intro record
    simp only [applyTo, given, DeviceRecord.withoutTap]
  rw [forgets record, forgets other, same]

end Setup

namespace Platform

variable {p : Platform} {host : String} {net : Network} {settings : Settings} {inv : Inventory}

theorem outcome_names {s : Selected} (mem : s ∈ p.roster host net) (settings : Settings)
    (names : inv.Names s.id s.device) :
    (p.outcome host net settings inv s).record.id = s.id ∧
      (p.outcome host net settings inv s).record.inputName = s.device.name := by
  obtain ⟨own, named⟩ := names.recordFor (device?_of_mem_roster mem)
  obtain ⟨setup, course, -, made⟩ := outcome_course mem settings inv.timestamp
  rw [made inv rfl own]
  constructor
  · rw [Course.outcome_id, Setup.applyTo_id, own]
  · exact course.outcome_inputName ((setup.applyTo_inputName _).trans named)

/-- What is left of a device when it has been visited, but for the management interface. -/
theorem exists_left {s : Selected} (mem : s ∈ p.roster host net) (settings : Settings)
    (inv : Inventory) :
    ∃ left, (p.deploy host net settings inv).1.records.get? s.id = some left ∧
      left.withoutTap = (p.outcome host net settings inv s).record.withoutTap ∧
      (p ≠ .netkit → left = (p.outcome host net settings inv s).record) := by
  have visited := get?_visitAll_of_mem mem settings inv
  obtain ⟨left, held, same⟩ := get?_deploy visited
  refine ⟨left, held, same, fun plain => ?_⟩
  rw [deploy_of_ne_netkit plain, visited, Option.some.injEq] at held
  exact held.symm

/-- The same comes of a device when it is visited again. -/
theorem outcome_deploy {s : Selected} (mem : s ∈ p.roster host net) (settings : Settings)
    (names : inv.Names s.id s.device) :
    p.outcome host net settings (p.deploy host net settings inv).1 s =
      p.outcome host net settings inv s := by
  obtain ⟨own, named⟩ := names.recordFor (device?_of_mem_roster mem)
  obtain ⟨ownAfter, -⟩ := outcome_names mem settings names
  obtain ⟨left, held, same, plainly⟩ := exists_left mem settings inv
  obtain ⟨setup, course, fits, made⟩ := outcome_course mem settings inv.timestamp
  have first := made inv rfl own
  have keptId : left.id = s.id := (congrArg DeviceRecord.id same).trans ownAfter
  have found : (p.deploy host net settings inv).1.recordFor net s.id = left := by
    rw [Inventory.recordFor, held, Option.getD_some]
  have second := made (p.deploy host net settings inv).1 (p.timestamp_deploy ..) (by rwa [found])
  rw [found] at second
  -- The record that the visit left is set up already.
  have settled : setup.applyTo (p.outcome host net settings inv s).record =
      (p.outcome host net settings inv s).record := by
    rw [first]
    obtain ⟨render, ids, daemon, shell, tap⟩ :=
      course.outcome_platform s.device (setup.applyTo (inv.recordFor net s.id))
    exact Setup.applyTo_eq_self render ids daemon shell tap
  have again : setup.applyTo left = (p.outcome host net settings inv s).record := by
    by_cases machine : p = .netkit
    · subst machine
      rw [Setup.applyTo_eq_of_withoutTap fits same, settled]
    · rw [plainly machine, settled]
  rw [second, again, first]
  exact course.outcome_again ((setup.applyTo_inputName _).trans named)

theorem report_visitAll_deploy (names : ∀ s ∈ p.roster host net, inv.Names s.id s.device)
    (settings : Settings) :
    (p.visitAll host net settings (p.deploy host net settings inv).1).2 =
      (p.visitAll host net settings inv).2 := by
  rw [visitAll_eq, visitAll_eq]
  refine List.foldl_ext _ _ _ fun r s mem => ?_
  rw [outcome_deploy mem settings (names s mem)]

theorem agreeOn_visitAll_deploy (names : ∀ s ∈ p.roster host net, inv.Names s.id s.device)
    (settings : Settings) :
    Inventory.AgreeOn (· ∈ (p.roster host net).map (·.id))
      (p.visitAll host net settings (p.deploy host net settings inv).1).1
      (p.visitAll host net settings inv).1 where
  timestamp := by
    have first := (p.visitAll_changes host net settings inv).1.timestamp
    have second :=
      (p.visitAll_changes host net settings (p.deploy host net settings inv).1).1.timestamp
    rw [first, second, timestamp_deploy]
  records d selected := by
    obtain ⟨s, mem, rfl⟩ := List.mem_map.mp selected
    rw [get?_visitAll_of_mem mem, get?_visitAll_of_mem mem,
      outcome_deploy mem settings (names s mem)]

/-- To deploy again changes nothing and is reported alike. -/
theorem deploy_deploy (names : ∀ s ∈ p.roster host net, inv.Names s.id s.device)
    (settings : Settings) :
    p.deploy host net settings (p.deploy host net settings inv).1 =
      p.deploy host net settings inv := by
  obtain ⟨agree, reports, labs⟩ := deploy_congr_of_visits settings
    (agreeOn_visitAll_deploy names settings) (report_visitAll_deploy names settings)
    (fun d selected => selected)
  refine Prod.ext (Inventory.ext_get? ?_ (fun d => ?_) fun name => ?_) reports
  · rw [timestamp_deploy]
  · by_cases selected : d ∈ (p.roster host net).map (·.id)
    · exact agree.records d selected
    · exact records_deploy_of_not_mem selected settings _
  · by_cases raised : p = .netkit ∧ name = host
    · obtain ⟨machine, rfl⟩ := raised
      exact labs machine
    · exact labs_deploy_of_not_raised raised net settings _

end Platform

namespace Network

variable {net : Network} {inv : Inventory}

/-- The inventories that are made for a network: by deployments, one after the other, and by
compiling single devices. -/
inductive Makes (net : Network) : Inventory → Prop where
  | empty (timestamp : String) : net.Makes (.empty timestamp)
  | deploy {inv : Inventory} (made : net.Makes inv) (p : Platform) (host : String)
      (settings : Settings) : net.Makes (p.deploy host net settings inv).1
  | compile {inv : Inventory} (made : net.Makes inv) (dialect : Dialect) (settings : Settings)
      (d : DeviceId) :
      net.Makes (inv.setRecord d (dialect.compile net settings (inv.recordFor net d)).record)

theorem Makes.names (made : net.Makes inv) {d : DeviceId} {device : Device}
    (found : net.device? d = some device) : inv.Names d device := by
  induction made with
  | empty timestamp =>
    intro record held
    cases held
  | @deploy inv _ p host settings ih =>
    intro record held
    by_cases selected : d ∈ (p.roster host net).map (·.id)
    · obtain ⟨s, mem, rfl⟩ := List.mem_map.mp selected
      rw [Platform.device?_of_mem_roster mem, Option.some.injEq] at found
      subst found
      obtain ⟨left, kept, same, -⟩ := Platform.exists_left mem settings inv
      rw [held, Option.some.injEq] at kept
      subst kept
      obtain ⟨own, named⟩ := Platform.outcome_names mem settings ih
      exact ⟨(congrArg DeviceRecord.id same).trans own,
        (congrArg DeviceRecord.inputName same).trans named⟩
    · rw [Platform.records_deploy_of_not_mem selected] at held
      exact ih record held
  | @compile inv _ dialect settings e ih =>
    intro record held
    rw [Inventory.setRecord, SortedMap.get?_insert] at held
    by_cases same : d = e
    · rw [if_pos same, Option.some.injEq] at held
      subst same held
      obtain ⟨own, named⟩ := ih.recordFor found
      obtain ⟨course, -, compiled⟩ :=
        dialect.compile_course settings found (inv.recordFor net d).interfaceIds
      rw [compiled _ own rfl]
      exact ⟨(course.outcome_id device _).trans own, course.outcome_inputName named⟩
    · rw [if_neg same] at held
      exact ih record held

/-- A compilation of the network makes its inventory for it. -/
theorem makes_compile (net : Network) (settings : Settings) (host : Option String)
    (timestamp : String) : net.Makes (net.compile settings host timestamp).inventory := by
  unfold compile
  refine List.foldlRecOn (motive := fun c : Compilation => net.Makes c.inventory) _ _
    (.empty timestamp) ?_
  rintro c made ⟨host, p⟩ -
  exact made.deploy p host settings

end Network

namespace Platform

/-- If the records of its devices carry their names then a deployment that is repeated leaves the
whole inventory unchanged and reports the same. So they do in every inventory that is made for the
network. -/
theorem deploy_again (net : Network) (p : Platform) (host : String) (settings : Settings) :
    (∀ inv : Inventory, (∀ s ∈ p.roster host net, inv.Names s.id s.device) →
      p.deploy host net settings (p.deploy host net settings inv).1 =
        p.deploy host net settings inv) ∧
    ∀ inv, net.Makes inv → ∀ s ∈ p.roster host net, inv.Names s.id s.device :=
  ⟨fun _ names => deploy_deploy names settings,
    fun _ made _ mem => made.names (device?_of_mem_roster mem)⟩

/-- A deployment with other settings renews what a compilation has left, and a second one finds
nothing to do. The system that has no loopback fails in both. -/
theorem threeSystems_again :
    let net := Network.empty.after
      (Network.twoSystemsRun ++ [.addDevice (Network.twoSystemsRouter "c" 3)])
    let settings := { Settings.standard with outputRoot := "elsewhere" }
    let inv := (net.compile .standard none "0").inventory
    let once := netkit.deploy "lab" net settings inv
    (∀ s ∈ netkit.roster "lab" net, inv.Names s.id s.device) ∧ once.1 ≠ inv ∧
      once.2.compiled = [⟨0⟩, ⟨1⟩] ∧
      once.2.failed = [⟨⟨2⟩, "c", .device, .missingLoopback⟩] ∧
      netkit.deploy "lab" net settings once.1 = once := by
  intro net settings inv once
  obtain ⟨again, made⟩ := deploy_again net netkit "lab" settings
  have names := made inv (net.makes_compile .standard none "0")
  exact ⟨names, by decide +kernel, by decide +kernel, by decide +kernel, again inv names⟩

end Platform

end NetDesign
