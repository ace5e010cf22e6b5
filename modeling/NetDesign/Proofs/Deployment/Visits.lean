import NetDesign.Proofs.Deployment.Machine
import NetDesign.Proofs.Deployment.Roster

set_option autoImplicit false

namespace NetDesign

/-- Every record is kept under its own device. -/
def Inventory.Keyed (inv : Inventory) : Prop :=
  ∀ d record, inv.records.get? d = some record → record.id = d

namespace Inventory

theorem empty_keyed (timestamp : String) : (Inventory.empty timestamp).Keyed := by
  intro d record found
  cases found

theorem Keyed.recordFor_id {inv : Inventory} (keyed : inv.Keyed) (net : Network) (d : DeviceId) :
    (inv.recordFor net d).id = d := by
  unfold recordFor
  cases found : inv.records.get? d with
  | none => rfl
  | some record => exact keyed d record found

end Inventory

namespace Report

/-- A report lists each of a number of devices once, by what came of it. -/
theorem note_foldl (made : Selected → Outcome) {roster : List Selected}
    (nodup : (roster.map (·.id)).Nodup)
    (own : ∀ s ∈ roster, ∀ f, (made s).failure = some f → f.device = s.id) {r : Report}
    (fresh : ∀ s ∈ roster, s.id ∉ r.compiled) :
    (roster.foldl (fun r s => r.note s.id (made s)) r).compiled =
        r.compiled ++ (roster.filter fun s => (made s).failure = none).map (·.id) ∧
      (roster.foldl (fun r s => r.note s.id (made s)) r).failed =
        r.failed ++ roster.filterMap fun s => (made s).failure := by
  induction roster generalizing r with
  | nil => simp
  | cons s rest ih =>
    have ⟨absent, nodupRest⟩ := List.nodup_cons.mp nodup
    have ownRest := fun t mem => own t (List.mem_cons_of_mem s mem)
    have freshHead := fresh s List.mem_cons_self
    have freshRest := fun t mem => fresh t (List.mem_cons_of_mem s mem)
    rw [List.foldl_cons]
    cases came : (made s).failure with
    | none =>
      have freshAfter : ∀ t ∈ rest, t.id ∉ (r.note s.id (made s)).compiled := by
        intro t mem listed
        simp only [note, came, List.mem_append, List.mem_singleton] at listed
        rcases listed with before | same
        · exact freshRest t mem before
        · exact absent (List.mem_map.mpr ⟨t, mem, same⟩)
      obtain ⟨compiled, failed⟩ := ih nodupRest ownRest freshAfter
      rw [compiled, failed]
      simp [note, came]
    | some f =>
      have device := own s List.mem_cons_self f came
      have kept : r.compiled.filter (fun d => d ≠ f.device) = r.compiled := by
        refine List.filter_eq_self.mpr fun d mem => decide_eq_true fun same => ?_
        rw [same, device] at mem
        exact freshHead mem
      have noted : (r.note s.id (made s)).compiled = r.compiled := by
        simp only [note, came, fail]
        exact kept
      obtain ⟨compiled, failed⟩ := ih nodupRest ownRest (r := r.note s.id (made s)) (by
        rw [noted]
        exact freshRest)
      rw [compiled, failed, noted]
      simp [note, fail, came]

theorem warnings_note (r : Report) (d : DeviceId) (o : Outcome) :
    (r.note d o).warnings = r.warnings ++ o.warnings := by
  unfold note
  cases o.failure <;> rfl

theorem warnings_note_foldl (made : Selected → Outcome) (roster : List Selected) (r : Report) :
    (roster.foldl (fun r s => r.note s.id (made s)) r).warnings =
      r.warnings ++ roster.flatMap fun s => (made s).warnings := by
  induction roster generalizing r with
  | nil => simp
  | cons s rest ih =>
    rw [List.foldl_cons, ih, warnings_note, List.flatMap_cons, List.append_assoc]

end Report

namespace Platform

variable {p : Platform} {host : String} {net : Network} {settings : Settings}

/-- What comes of a device depends on the inventory only through its own record. -/
theorem outcome_congr {inv other : Inventory} {s : Selected}
    (record : other.records.get? s.id = inv.records.get? s.id)
    (time : other.timestamp = inv.timestamp) :
    p.outcome host net settings other s = p.outcome host net settings inv s := by
  rw [outcome, outcome, Inventory.recordFor, Inventory.recordFor, record, time]

/-- Later visits do not see what earlier ones wrote. -/
theorem visit_foldl {inv current : Inventory} {roster : List Selected}
    (nodup : (roster.map (·.id)).Nodup)
    (agree : ∀ s ∈ roster, current.records.get? s.id = inv.records.get? s.id)
    (time : current.timestamp = inv.timestamp) (r : Report) :
    roster.foldl (p.visit host net settings) (current, r) =
      (roster.foldl
        (fun now s => now.setRecord s.id (p.outcome host net settings inv s).record) current,
      roster.foldl (fun r s => r.note s.id (p.outcome host net settings inv s)) r) := by
  induction roster generalizing current r with
  | nil => rfl
  | cons s rest ih =>
    have ⟨absent, nodupRest⟩ := List.nodup_cons.mp nodup
    have same : p.outcome host net settings current s = p.outcome host net settings inv s :=
      outcome_congr (agree s List.mem_cons_self) time
    simp only [List.foldl_cons, visit, same]
    apply ih nodupRest
    · intro t mem
      have differ : t.id ≠ s.id := fun equal => absent (List.mem_map.mpr ⟨t, mem, equal⟩)
      rw [Inventory.setRecord, SortedMap.get?_insert_of_ne _ _ differ]
      exact agree t (List.mem_cons_of_mem s mem)
    · exact time

theorem get?_setRecord_foldl_of_not_mem (made : Selected → DeviceRecord) {roster : List Selected}
    {d : DeviceId} (absent : d ∉ roster.map (·.id)) (inv : Inventory) :
    (roster.foldl (fun now s => now.setRecord s.id (made s)) inv).records.get? d =
      inv.records.get? d := by
  induction roster generalizing inv with
  | nil => rfl
  | cons s rest ih =>
    rw [List.map_cons, List.mem_cons, not_or] at absent
    rw [List.foldl_cons, ih absent.2, Inventory.setRecord,
      SortedMap.get?_insert_of_ne _ _ absent.1]

theorem get?_setRecord_foldl_of_mem (made : Selected → DeviceRecord) {roster : List Selected}
    (nodup : (roster.map (·.id)).Nodup) {s : Selected} (mem : s ∈ roster) (inv : Inventory) :
    (roster.foldl (fun now s => now.setRecord s.id (made s)) inv).records.get? s.id =
      some (made s) := by
  induction roster generalizing inv with
  | nil => cases mem
  | cons t rest ih =>
    have ⟨absent, nodupRest⟩ := List.nodup_cons.mp nodup
    rw [List.foldl_cons]
    rcases List.mem_cons.mp mem with rfl | mem
    · rw [get?_setRecord_foldl_of_not_mem made absent, Inventory.setRecord,
        SortedMap.get?_insert_self]
    · exact ih nodupRest mem _

theorem outcome_id {s : Selected} (mem : s ∈ p.roster host net) {inv : Inventory}
    (keyed : inv.Keyed) : (p.outcome host net settings inv s).record.id = s.id := by
  rw [outcome, compileDevice_id (mem_roster.mp mem).1, keyed.recordFor_id]

/-- What comes of a device that is visited, read off the network. -/
theorem outcome_failure (wf : net.WellFormed) (settings : Settings) {s : Selected}
    (mem : s ∈ p.roster host net) {inv : Inventory} (keyed : inv.Keyed) :
    (p.outcome host net settings inv s).failure =
      (p.deviceFault? s.profile net s.id).map fun (step, cause) =>
        ⟨s.id, (inv.recordFor net s.id).inputName, step, cause⟩ := by
  have own := keyed.recordFor_id net s.id
  have found : net.device? (inv.recordFor net s.id).id = some s.device := by
    rw [own]
    exact device?_of_mem_roster mem
  rw [outcome, compileDevice_failure wf (mem_roster.mp mem).1 settings host inv.timestamp s.device
    found, own]

theorem outcome_configured (wf : net.WellFormed) {s : Selected} (mem : s ∈ p.roster host net)
    {inv : Inventory} (keyed : inv.Keyed)
    (compiled : (p.outcome host net settings inv s).failure = none) :
    (p.outcome host net settings inv s).record.Configured s.profile.dialect net s.id s.device := by
  have own := keyed.recordFor_id net s.id
  have found : net.device? (inv.recordFor net s.id).id = some s.device := by
    rw [own]
    exact device?_of_mem_roster mem
  have configured := compileDevice_configured wf (mem_roster.mp mem).1 settings host inv.timestamp
    s.device found compiled
  rwa [own] at configured

theorem visitAll_eq (p : Platform) (host : String) (net : Network) (settings : Settings)
    (inv : Inventory) :
    p.visitAll host net settings inv =
      ((p.roster host net).foldl
        (fun now s => now.setRecord s.id (p.outcome host net settings inv s).record) inv,
      (p.roster host net).foldl (fun r s => r.note s.id (p.outcome host net settings inv s))
        (.blank p host)) :=
  visit_foldl (p.roster_nodup host net) (fun _ _ => rfl) rfl _

theorem visitAll_report (wf : net.WellFormed) (p : Platform) (host : String) (settings : Settings)
    {inv : Inventory} (keyed : inv.Keyed) :
    (p.visitAll host net settings inv).2.compiled =
        ((p.roster host net).filter fun s => p.deviceFault? s.profile net s.id = none).map (·.id) ∧
      (p.visitAll host net settings inv).2.failed =
        (p.roster host net).filterMap fun s =>
          (p.deviceFault? s.profile net s.id).map fun (step, cause) =>
            ⟨s.id, (inv.recordFor net s.id).inputName, step, cause⟩ := by
  have failure : ∀ s ∈ p.roster host net, (p.outcome host net settings inv s).failure = _ :=
    fun s mem => outcome_failure wf settings mem keyed
  have own : ∀ s ∈ p.roster host net, ∀ f, (p.outcome host net settings inv s).failure = some f →
      f.device = s.id := by
    intro s mem f failed
    rw [failure s mem] at failed
    obtain ⟨fault, -, rfl⟩ := Option.map_eq_some_iff.mp failed
    rfl
  rw [visitAll_eq]
  obtain ⟨compiled, failed⟩ := Report.note_foldl (p.outcome host net settings inv)
    (p.roster_nodup host net) own (r := .blank p host) (fun _ _ listed => by cases listed)
  rw [compiled, failed]
  refine ⟨congrArg (List.map Selected.id) (List.filter_congr fun s mem => ?_),
    List.filterMap_congr fun s mem => failure s mem⟩
  rw [failure s mem]
  cases p.deviceFault? s.profile net s.id <;> rfl

/-- The warnings are those of all devices, in the order of the visits. -/
theorem warnings_visitAll (p : Platform) (host : String) (net : Network) (settings : Settings)
    (inv : Inventory) :
    (p.visitAll host net settings inv).2.warnings =
      (p.roster host net).flatMap fun s => (p.outcome host net settings inv s).warnings := by
  rw [visitAll_eq, Report.warnings_note_foldl]
  rfl

theorem get?_visitAll_of_mem {s : Selected} (mem : s ∈ p.roster host net) (settings : Settings)
    (inv : Inventory) :
    (p.visitAll host net settings inv).1.records.get? s.id =
      some (p.outcome host net settings inv s).record := by
  rw [visitAll_eq]
  exact get?_setRecord_foldl_of_mem _ (p.roster_nodup host net) mem inv

theorem get?_visitAll_of_not_mem {d : DeviceId} (absent : d ∉ (p.roster host net).map (·.id))
    (settings : Settings) (inv : Inventory) :
    (p.visitAll host net settings inv).1.records.get? d = inv.records.get? d := by
  rw [visitAll_eq]
  exact get?_setRecord_foldl_of_not_mem _ absent inv

theorem visitAll_keyed (p : Platform) (host : String) (net : Network) (settings : Settings)
    {inv : Inventory} (keyed : inv.Keyed) : (p.visitAll host net settings inv).1.Keyed := by
  intro d record found
  by_cases visited : d ∈ (p.roster host net).map (·.id)
  · obtain ⟨s, mem, rfl⟩ := List.mem_map.mp visited
    rw [get?_visitAll_of_mem mem, Option.some.injEq] at found
    rw [← found]
    exact outcome_id mem keyed
  · rw [get?_visitAll_of_not_mem visited] at found
    exact keyed d record found

end Platform

end NetDesign
