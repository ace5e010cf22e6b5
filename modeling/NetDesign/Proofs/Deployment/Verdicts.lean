import NetDesign.Proofs.Deployment.Serving
import NetDesign.Proofs.Deployment.Visits
import NetDesign.Proofs.Network.Runs

set_option autoImplicit false

namespace NetDesign

theorem filterMap_append_perm {α β : Type} {f g h : α → Option β} {items : List α}
    (split : ∀ a ∈ items, h a = f a ∧ g a = none ∨ f a = none ∧ h a = g a) :
    (items.filterMap f ++ items.filterMap g).Perm (items.filterMap h) := by
  induction items with
  | nil => exact .refl _
  | cons a rest ih =>
    have ih := ih fun b mem => split b (List.mem_cons_of_mem a mem)
    rw [List.filterMap_cons, List.filterMap_cons, List.filterMap_cons]
    rcases split a List.mem_cons_self with ⟨same, absent⟩ | ⟨absent, same⟩
    · rw [same, absent]
      cases f a with
      | none => exact ih
      | some b => exact ih.cons b
    · rw [same, absent]
      cases g a with
      | none => exact ih
      | some b => exact List.perm_middle.trans (ih.cons b)

/-- The machine that a device becomes. -/
def Selected.machine (s : Selected) : Machine := ⟨hostname s.device.label, s.id⟩

namespace Platform

/-- The devices of a deployment that compile. -/
def sound (p : Platform) (host : String) (net : Network) : List Selected :=
  (p.roster host net).filter fun s => p.deviceFault? s.profile net s.id = none

/-- The number of machines that are served before the machine of a device. -/
def rank (p : Platform) (host : String) (net : Network) (s : Selected) : Nat :=
  ((p.sound host net).filter fun t => compare t.machine s.machine = .lt).length

/-- What goes wrong with a device of a deployment, if anything does. An emulated machine needs an
address beside the two of the tunnel and those of the machines before it. -/
def verdict? (p : Platform) (host : String) (net : Network) (settings : Settings)
    (inv : Inventory) (s : Selected) : Option Failure :=
  match p.deviceFault? s.profile net s.id with
  | some (step, cause) => some ⟨s.id, (inv.recordFor net s.id).inputName, step, cause⟩
  | none =>
    if p = .netkit ∧ settings.managementBlock.hostCount ≤ 2 + p.rank host net s then
      some s.machine.unserved
    else none

variable {p : Platform} {host : String} {net : Network} {settings : Settings} {inv : Inventory}

theorem mem_sound {s : Selected} :
    s ∈ p.sound host net ↔ s ∈ p.roster host net ∧ p.deviceFault? s.profile net s.id = none := by
  simp [sound]

theorem sound_nodup (p : Platform) (host : String) (net : Network) :
    ((p.sound host net).map (·.id)).Nodup :=
  (p.roster_nodup host net).sublist (List.filter_sublist.map _)

theorem machines_nodup (p : Platform) (host : String) (net : Network) :
    ((p.sound host net).map Selected.machine).Nodup := by
  have ids := p.sound_nodup host net
  refine List.Nodup.of_map Machine.id ?_
  rwa [List.map_map]

/-- The machines that are to be served are those of the devices that compile. -/
theorem machines_visitAll (wf : net.WellFormed) (keyed : inv.Keyed) :
    (p.visitAll host net settings inv).1.machines (p.visitAll host net settings inv).2.compiled =
      (p.sound host net).map Selected.machine := by
  rw [(visitAll_report wf p host settings keyed).1, Inventory.machines, List.filterMap_map, ← sound,
    ← List.filterMap_eq_map]
  refine List.filterMap_congr fun s mem => ?_
  obtain ⟨listed, healthy⟩ := mem_sound.mp mem
  have compiled : (p.outcome host net settings inv s).failure = none := by
    rw [outcome_failure wf settings listed keyed, healthy]
    rfl
  have configured := outcome_configured wf listed keyed compiled
  simp only [Function.comp, get?_visitAll_of_mem listed settings, Option.map_some,
    configured.hostname]
  rfl

/-- The machines for which no management address is left. -/
def unserved (p : Platform) (host : String) (net : Network) (settings : Settings) : List Machine :=
  (sorted Machine.precedes ((p.sound host net).map Selected.machine)).drop
    (settings.managementBlock.hostCount - 2)

theorem rank_eq (p : Platform) (host : String) (net : Network) (s : Selected) :
    ((sorted Machine.precedes ((p.sound host net).map Selected.machine)).filter
      fun b => compare b s.machine = .lt).length = p.rank host net s := by
  rw [((sorted_perm _ _).filter _).length_eq, List.filter_map, List.length_map]
  rfl

/-- The machines without an address are those with too many others before them. -/
theorem unserved_perm (p : Platform) (host : String) (net : Network) (settings : Settings) :
    (p.unserved host net settings).Perm
      (((p.sound host net).filter fun s =>
        settings.managementBlock.hostCount ≤ 2 + p.rank host net s).map Selected.machine) := by
  rw [unserved, drop_eq_filter (Machine.sorted_ascending (p.machines_nodup host net))]
  refine ((sorted_perm _ _).filter _).trans (.of_eq ?_)
  rw [List.filter_map]
  refine congrArg (List.map Selected.machine) (List.filter_congr fun s _ => ?_)
  simp only [Function.comp, rank_eq]
  exact decide_eq_decide.mpr (by omega)

/-- The failures of these machines, read off the roster. -/
theorem unserved_failures_perm (p : Platform) (host : String) (net : Network)
    (settings : Settings) :
    ((p.unserved host net settings).map Machine.unserved).Perm
      ((p.roster host net).filterMap fun s =>
        if p.deviceFault? s.profile net s.id = none ∧
            settings.managementBlock.hostCount ≤ 2 + p.rank host net s then
          some s.machine.unserved
        else none) := by
  refine ((p.unserved_perm host net settings).map _).trans (.of_eq ?_)
  rw [List.map_map, sound, List.filter_filter, ← List.filterMap_eq_filter, List.map_filterMap]
  refine List.filterMap_congr fun s _ => ?_
  by_cases healthy : p.deviceFault? s.profile net s.id = none
  · by_cases late : settings.managementBlock.hostCount ≤ 2 + p.rank host net s
    · simp [healthy, late, Option.guard]
    · simp [healthy, late, Option.guard]
  · simp [healthy, Option.guard]

theorem mem_unserved_ids (settings : Settings) {s : Selected} (mem : s ∈ p.sound host net) :
    s.id ∈ (p.unserved host net settings).map (·.id) ↔
      settings.managementBlock.hostCount ≤ 2 + p.rank host net s := by
  rw [((p.unserved_perm host net settings).map _).mem_iff, List.map_map]
  constructor
  · intro listed
    obtain ⟨t, short, same⟩ := List.mem_map.mp listed
    obtain ⟨present, late⟩ := List.mem_filter.mp short
    have equal := List.inj_on_of_nodup_map (p.sound_nodup host net) present mem same
    rw [← equal]
    exact of_decide_eq_true late
  · intro late
    exact List.mem_map.mpr ⟨s, List.mem_filter.mpr ⟨mem, decide_eq_true late⟩, rfl⟩

theorem deploy_netkit (host : String) (net : Network) (settings : Settings) (inv : Inventory) :
    let served := (ManagementPool.ofBlock settings.managementBlock).serveAll
      (netkit.visitAll host net settings inv).1 (netkit.visitAll host net settings inv).2
    (netkit.deploy host net settings inv).1.records = served.2.1.records ∧
      (netkit.deploy host net settings inv).2 = served.2.2 := by
  rw [deploy]
  generalize netkit.visitAll host net settings inv = visited
  obtain ⟨inv, report⟩ := visited
  simp only [raiseLab]
  generalize (ManagementPool.ofBlock settings.managementBlock).serveAll inv report = served
  obtain ⟨pool, inv, report⟩ := served
  exact ⟨rfl, trivial⟩

theorem deploy_report_netkit (wf : net.WellFormed) (keyed : inv.Keyed) :
    (netkit.deploy host net settings inv).2.compiled =
        (netkit.visitAll host net settings inv).2.compiled.filter
          (· ∉ (netkit.unserved host net settings).map (·.id)) ∧
      (netkit.deploy host net settings inv).2.failed =
        (netkit.visitAll host net settings inv).2.failed ++
          (netkit.unserved host net settings).map Machine.unserved := by
  rw [(deploy_netkit host net settings inv).2, ManagementPool.serveAll,
    machines_visitAll wf keyed, ManagementPool.serve_foldl_report]
  obtain ⟨compiled, failed⟩ := Report.fail_foldl
    ((netkit.unserved host net settings).map Machine.unserved)
    (netkit.visitAll host net settings inv).2
  rw [List.map_map] at compiled
  exact ⟨compiled, failed⟩

theorem verdict?_of_ne_netkit (other : p ≠ .netkit) (s : Selected) :
    p.verdict? host net settings inv s =
      (p.deviceFault? s.profile net s.id).map fun (step, cause) =>
        ⟨s.id, (inv.recordFor net s.id).inputName, step, cause⟩ := by
  unfold verdict?
  cases p.deviceFault? s.profile net s.id with
  | some fault => rfl
  | none =>
    simp only
    rw [if_neg fun both => other both.1]
    rfl

theorem deploy_of_ne_netkit (other : p ≠ .netkit) :
    p.deploy host net settings inv = p.visitAll host net settings inv := by
  cases p with
  | netkit => exact absurd rfl other
  | _ => rfl

theorem deploy_compiled (wf : net.WellFormed) (p : Platform) (host : String) (settings : Settings)
    (keyed : inv.Keyed) :
    (p.deploy host net settings inv).2.compiled =
      ((p.roster host net).filter fun s =>
        p.verdict? host net settings inv s = none).map (·.id) := by
  have visited := (visitAll_report wf p host settings keyed).1
  by_cases machine : p = .netkit
  · subst machine
    rw [(deploy_report_netkit wf keyed).1, visited, List.filter_map, List.filter_filter]
    refine congrArg (List.map Selected.id) (List.filter_congr fun s mem => ?_)
    unfold verdict?
    cases healthy : netkit.deviceFault? s.profile net s.id with
    | some fault => simp
    | none =>
      have listed := mem_unserved_ids settings (mem_sound.mpr ⟨mem, healthy⟩)
      simp only [Function.comp, listed]
      by_cases late : settings.managementBlock.hostCount ≤ 2 + netkit.rank host net s
      · simp [late]
      · simp [late]
  · rw [deploy_of_ne_netkit machine, visited]
    refine congrArg (List.map Selected.id) (List.filter_congr fun s _ => ?_)
    rw [verdict?_of_ne_netkit machine]
    cases p.deviceFault? s.profile net s.id <;> rfl

theorem deploy_failed (wf : net.WellFormed) (p : Platform) (host : String) (settings : Settings)
    (keyed : inv.Keyed) :
    (p.deploy host net settings inv).2.failed.Perm
      ((p.roster host net).filterMap (p.verdict? host net settings inv)) := by
  have visited := (visitAll_report wf p host settings keyed).2
  by_cases machine : p = .netkit
  · subst machine
    rw [(deploy_report_netkit wf keyed).2, visited]
    have late := unserved_failures_perm netkit host net settings
    refine (late.append_left _).trans (filterMap_append_perm fun s _ => ?_)
    unfold verdict?
    cases netkit.deviceFault? s.profile net s.id with
    | some fault => exact .inl ⟨rfl, by simp⟩
    | none => exact .inr ⟨rfl, by simp⟩
  · rw [deploy_of_ne_netkit machine, visited]
    refine .of_eq (List.filterMap_congr fun s _ => ?_)
    rw [verdict?_of_ne_netkit machine]

theorem verdict?_device {s : Selected} {f : Failure}
    (verdict : p.verdict? host net settings inv s = some f) : f.device = s.id := by
  unfold verdict? at verdict
  split at verdict
  · cases verdict
    rfl
  · split at verdict
    · cases verdict
      rfl
    · cases verdict

theorem map_device_verdicts (items : List Selected) :
    (items.filterMap (p.verdict? host net settings inv)).map (·.device) =
      (items.filter fun s => p.verdict? host net settings inv s ≠ none).map (·.id) := by
  induction items with
  | nil => rfl
  | cons s rest ih =>
    cases verdict : p.verdict? host net settings inv s with
    | none => simpa [verdict] using ih
    | some f =>
      have device := verdict?_device verdict
      simpa [verdict, device] using ih

end Platform

end NetDesign
