import NetDesign.Proofs.Deployment.Records

set_option autoImplicit false

namespace NetDesign

namespace Inventory

@[simp] theorem timestamp_adjustRecord (inv : Inventory) (d : DeviceId)
    (change : DeviceRecord → DeviceRecord) :
    (inv.adjustRecord d change).timestamp = inv.timestamp := by
  unfold adjustRecord
  cases inv.records.get? d <;> rfl

@[simp] theorem labs_adjustRecord (inv : Inventory) (d : DeviceId)
    (change : DeviceRecord → DeviceRecord) : (inv.adjustRecord d change).labs = inv.labs := by
  unfold adjustRecord
  cases inv.records.get? d <;> rfl

theorem records_adjustRecord (inv : Inventory) (e d : DeviceId)
    (change : DeviceRecord → DeviceRecord) :
    (inv.adjustRecord e change).records.get? d =
      if d = e then (inv.records.get? d).map change else inv.records.get? d := by
  unfold adjustRecord
  cases held : inv.records.get? e with
  | none =>
    by_cases same : d = e
    · rw [if_pos same, same, held]
      rfl
    · rw [if_neg same]
  | some record =>
    simp only [setRecord, SortedMap.get?_insert]
    by_cases same : d = e
    · rw [if_pos same, if_pos same, same, held]
      rfl
    · rw [if_neg same, if_neg same]

/-- The inventories differ in the records of the given devices at most. -/
structure ChangedWithin (ids : List DeviceId) (before after : Inventory) : Prop where
  timestamp : after.timestamp = before.timestamp
  labs : after.labs = before.labs
  records : ∀ d ∉ ids, after.records.get? d = before.records.get? d

variable {ids : List DeviceId} {before after : Inventory}

theorem ChangedWithin.refl (ids : List DeviceId) (inv : Inventory) : ChangedWithin ids inv inv :=
  ⟨rfl, rfl, fun _ _ => rfl⟩

theorem ChangedWithin.trans {last : Inventory} (first : ChangedWithin ids before after)
    (second : ChangedWithin ids after last) : ChangedWithin ids before last where
  timestamp := second.timestamp.trans first.timestamp
  labs := second.labs.trans first.labs
  records d absent := (second.records d absent).trans (first.records d absent)

theorem ChangedWithin.setRecord (within : ChangedWithin ids before after) {e : DeviceId}
    (mem : e ∈ ids) (record : DeviceRecord) :
    ChangedWithin ids before (after.setRecord e record) where
  timestamp := within.timestamp
  labs := within.labs
  records d absent := by
    have differ : d ≠ e := fun same => absent (same ▸ mem)
    rw [Inventory.setRecord, SortedMap.get?_insert_of_ne _ _ differ, within.records d absent]

theorem ChangedWithin.adjustRecord (within : ChangedWithin ids before after) {e : DeviceId}
    (mem : e ∈ ids) (change : DeviceRecord → DeviceRecord) :
    ChangedWithin ids before (after.adjustRecord e change) where
  timestamp := (after.timestamp_adjustRecord e change).trans within.timestamp
  labs := (after.labs_adjustRecord e change).trans within.labs
  records d absent := by
    have differ : d ≠ e := fun same => absent (same ▸ mem)
    rw [records_adjustRecord, if_neg differ, within.records d absent]

end Inventory

namespace Report

/-- The pair of host and platform that a report is about. -/
def target (r : Report) : String × Platform := (r.host, r.platform)

@[simp] theorem target_note (r : Report) (d : DeviceId) (o : Outcome) :
    (r.note d o).target = r.target := by
  unfold note
  cases o.failure <;> rfl

theorem mem_compiled_of_fail {r : Report} {f : Failure} {d : DeviceId}
    (listed : d ∈ (r.fail f).compiled) : d ∈ r.compiled :=
  List.mem_of_mem_filter listed

theorem mem_compiled_of_note {r : Report} {e d : DeviceId} {o : Outcome}
    (listed : d ∈ (r.note e o).compiled) : d ∈ r.compiled ∨ d = e ∧ o.failure = none := by
  unfold note at listed
  cases came : o.failure with
  | none =>
    rw [came] at listed
    exact (List.mem_append.mp listed).imp_right fun last => ⟨List.mem_singleton.mp last, rfl⟩
  | some f =>
    rw [came] at listed
    exact .inl (mem_compiled_of_fail listed)

end Report

namespace ManagementPool

/-- What is reported once a machine has asked for an address. -/
def reportServed (pool : ManagementPool) (r : Report) (machine : Machine) : Report :=
  if pool.take.1 = none then
    r.fail ⟨machine.id, machine.hostname, .allocation, .managementExhausted⟩
  else r

theorem serve_eq (pool : ManagementPool) (inv : Inventory) (r : Report) (machine : Machine) :
    serve (pool, inv, r) machine =
      (pool.take.2, inv.adjustRecord machine.id (·.setTapAddress pool.take.1),
        pool.reportServed r machine) := by
  unfold serve reportServed
  cases given : pool.take.1 with
  | none => simp [given]
  | some address => simp [given]

@[simp] theorem target_reportServed (pool : ManagementPool) (r : Report) (machine : Machine) :
    (pool.reportServed r machine).target = r.target := by
  unfold reportServed
  split <;> rfl

theorem mem_compiled_of_reportServed {pool : ManagementPool} {r : Report} {machine : Machine}
    {d : DeviceId} (listed : d ∈ (pool.reportServed r machine).compiled) : d ∈ r.compiled := by
  unfold reportServed at listed
  split at listed
  · exact Report.mem_compiled_of_fail listed
  · exact listed

/-- Serving machines changes no other records, and lists no more devices as compiled. -/
theorem serveAll_changes (pool : ManagementPool) (inv : Inventory) (r : Report) :
    inv.ChangedWithin r.compiled (pool.serveAll inv r).2.1 ∧
      (pool.serveAll inv r).2.2.target = r.target ∧
      ∀ d ∈ (pool.serveAll inv r).2.2.compiled, d ∈ r.compiled := by
  unfold serveAll
  refine List.foldlRecOn
    (motive := fun state : ManagementPool × Inventory × Report =>
      inv.ChangedWithin r.compiled state.2.1 ∧ state.2.2.target = r.target ∧
        ∀ d ∈ state.2.2.compiled, d ∈ r.compiled)
    _ _ ⟨.refl _ inv, rfl, fun _ listed => listed⟩ ?_
  rintro ⟨pool, now, report⟩ ⟨within, target, compiled⟩ machine mem
  -- The machines are those of the devices that compiled, in another order.
  obtain ⟨e, listed, known⟩ := List.mem_filterMap.mp ((sorted_perm _ _).mem_iff.mp mem)
  obtain ⟨record, -, rfl⟩ := Option.map_eq_some_iff.mp known
  rw [serve_eq]
  refine ⟨within.adjustRecord listed _, ?_, fun d served => ?_⟩
  · rw [target_reportServed]
    exact target
  · exact compiled d (mem_compiled_of_reportServed served)

end ManagementPool

namespace Platform

variable {p : Platform} {host : String} {net : Network} {settings : Settings} {inv : Inventory}

theorem visitAll_changes (p : Platform) (host : String) (net : Network) (settings : Settings)
    (inv : Inventory) :
    inv.ChangedWithin ((p.roster host net).map (·.id)) (p.visitAll host net settings inv).1 ∧
      (p.visitAll host net settings inv).2.target = (host, p) ∧
      ∀ d ∈ (p.visitAll host net settings inv).2.compiled, d ∈ (p.roster host net).map (·.id) := by
  unfold visitAll
  refine List.foldlRecOn
    (motive := fun state : Inventory × Report =>
      inv.ChangedWithin ((p.roster host net).map (·.id)) state.1 ∧ state.2.target = (host, p) ∧
        ∀ d ∈ state.2.compiled, d ∈ (p.roster host net).map (·.id))
    _ _ ?_ ?_
  · exact ⟨.refl _ inv, rfl, fun _ listed => absurd listed List.not_mem_nil⟩
  · rintro ⟨now, report⟩ ⟨within, target, compiled⟩ s mem
    have selected : s.id ∈ (p.roster host net).map (·.id) := List.mem_map.mpr ⟨s, mem, rfl⟩
    refine ⟨within.setRecord selected _, ?_, fun d noted => ?_⟩
    · exact (report.target_note s.id _).trans target
    · rcases Report.mem_compiled_of_note noted with old | ⟨rfl, -⟩
      · exact compiled d old
      · exact selected

theorem deploy_netkit_eq (host : String) (net : Network) (settings : Settings) (inv : Inventory) :
    netkit.deploy host net settings inv = netkit.raiseLab host settings
      (netkit.visitAll host net settings inv).1 (netkit.visitAll host net settings inv).2 := rfl

/-- The lab is drawn up from what is left once the machines are served. -/
theorem raiseLab_eq (p : Platform) (host : String) (settings : Settings) (inv : Inventory)
    (r : Report) :
    let served := (ManagementPool.ofBlock settings.managementBlock).serveAll inv r
    p.raiseLab host settings inv r =
      (served.2.1.setLab host (.ofRecords served.1
        (p.folder settings.outputRoot host served.2.1.timestamp)
        (served.2.2.compiled.filterMap served.2.1.records.get?)), served.2.2) := rfl

theorem exists_of_mem_compiled_visitAll {d : DeviceId}
    (listed : d ∈ (p.visitAll host net settings inv).2.compiled) :
    ∃ s ∈ p.roster host net, s.id = d ∧ (p.outcome host net settings inv s).failure = none := by
  rw [visitAll_eq] at listed
  refine List.foldlRecOn
    (motive := fun r : Report => d ∈ r.compiled → ∃ s ∈ p.roster host net, s.id = d ∧
      (p.outcome host net settings inv s).failure = none)
    (p.roster host net) _ (fun noted => ?_) (fun r earlier s mem noted => ?_) listed
  · exact absurd noted List.not_mem_nil
  · rcases Report.mem_compiled_of_note noted with old | ⟨rfl, compiled⟩
    · exact earlier old
    · exact ⟨s, mem, rfl, compiled⟩

theorem mem_compiled_visitAll_of_deploy {d : DeviceId}
    (listed : d ∈ (p.deploy host net settings inv).2.compiled) :
    d ∈ (p.visitAll host net settings inv).2.compiled := by
  by_cases machine : p = .netkit
  · subst machine
    rw [deploy_netkit_eq, raiseLab_eq] at listed
    exact (ManagementPool.serveAll_changes _ _ _).2.2 d listed
  · rwa [deploy_of_ne_netkit machine] at listed

/-- A device that a deployment lists as compiled was compiled when it was visited. -/
theorem exists_visited_of_mem_compiled {d : DeviceId}
    (listed : d ∈ (p.deploy host net settings inv).2.compiled) :
    ∃ s ∈ p.roster host net, s.id = d ∧ (p.outcome host net settings inv s).failure = none :=
  exists_of_mem_compiled_visitAll (mem_compiled_visitAll_of_deploy listed)

/-- What a deployment leaves but for the lab of its host. -/
theorem deploy_changes (p : Platform) (host : String) (net : Network) (settings : Settings)
    (inv : Inventory) :
    ∃ after : Inventory, inv.ChangedWithin ((p.roster host net).map (·.id)) after ∧
      (p.deploy host net settings inv).2.target = (host, p) ∧
      ((p = .netkit ∧ ∃ lab, (p.deploy host net settings inv).1 = after.setLab host lab) ∨
        p ≠ .netkit ∧ (p.deploy host net settings inv).1 = after) := by
  obtain ⟨visited, target, compiled⟩ := p.visitAll_changes host net settings inv
  by_cases machine : p = .netkit
  · subst machine
    obtain ⟨served, kept, -⟩ := (ManagementPool.ofBlock settings.managementBlock).serveAll_changes
      (netkit.visitAll host net settings inv).1 (netkit.visitAll host net settings inv).2
    rw [deploy_netkit_eq, raiseLab_eq]
    refine ⟨_, visited.trans ⟨served.timestamp, served.labs, fun d absent => ?_⟩,
      kept.trans target, .inl ⟨rfl, _, rfl⟩⟩
    exact served.records d fun listed => absent (compiled d listed)
  · rw [deploy_of_ne_netkit machine]
    exact ⟨_, visited, target, .inr ⟨machine, rfl⟩⟩

theorem target_deploy (p : Platform) (host : String) (net : Network) (settings : Settings)
    (inv : Inventory) : (p.deploy host net settings inv).2.target = (host, p) := by
  obtain ⟨-, -, target, -⟩ := p.deploy_changes host net settings inv
  exact target

theorem timestamp_deploy (p : Platform) (host : String) (net : Network) (settings : Settings)
    (inv : Inventory) : (p.deploy host net settings inv).1.timestamp = inv.timestamp := by
  obtain ⟨after, within, -, ⟨-, lab, left⟩ | ⟨-, left⟩⟩ := p.deploy_changes host net settings inv
  · rw [left]
    exact within.timestamp
  · rw [left]
    exact within.timestamp

/-- The records of devices outside the deployment stay as they were. -/
theorem records_deploy_of_not_mem {d : DeviceId} (absent : d ∉ (p.roster host net).map (·.id))
    (settings : Settings) (inv : Inventory) :
    (p.deploy host net settings inv).1.records.get? d = inv.records.get? d := by
  obtain ⟨after, within, -, ⟨-, lab, left⟩ | ⟨-, left⟩⟩ := p.deploy_changes host net settings inv
  · rw [left]
    exact within.records d absent
  · rw [left]
    exact within.records d absent

/-- A deployment of emulated machines renews the lab of its host, and no deployment touches on
another lab. -/
theorem labs_deploy (p : Platform) (host : String) (net : Network) (settings : Settings)
    (inv : Inventory) :
    (p = .netkit ∧ ∃ lab, (p.deploy host net settings inv).1.labs = inv.labs.insert host lab) ∨
      p ≠ .netkit ∧ (p.deploy host net settings inv).1.labs = inv.labs := by
  obtain ⟨after, within, -, ⟨machine, lab, left⟩ | ⟨other, left⟩⟩ :=
    p.deploy_changes host net settings inv
  · refine .inl ⟨machine, lab, ?_⟩
    rw [left, Inventory.setLab, within.labs]
  · refine .inr ⟨other, ?_⟩
    rw [left, within.labs]

theorem labs_deploy_of_ne_netkit (differ : p ≠ .netkit) (host : String) (net : Network)
    (settings : Settings) (inv : Inventory) :
    (p.deploy host net settings inv).1.labs = inv.labs := by
  obtain ⟨machine, -⟩ | ⟨-, left⟩ := p.labs_deploy host net settings inv
  · exact absurd machine differ
  · exact left

theorem labs_deploy_of_ne {other : String} (differ : other ≠ host) (p : Platform) (net : Network)
    (settings : Settings) (inv : Inventory) :
    (p.deploy host net settings inv).1.labs.get? other = inv.labs.get? other := by
  obtain ⟨-, lab, left⟩ | ⟨-, left⟩ := p.labs_deploy host net settings inv
  · rw [left, SortedMap.get?_insert_of_ne _ _ differ]
  · rw [left]

/-- The lab of a host is drawn up by its deployment of emulated machines alone. -/
theorem labs_deploy_of_not_raised {name : String} (elsewhere : ¬ (p = .netkit ∧ name = host))
    (net : Network) (settings : Settings) (inv : Inventory) :
    (p.deploy host net settings inv).1.labs.get? name = inv.labs.get? name := by
  by_cases machine : p = .netkit
  · exact labs_deploy_of_ne (fun same => elsewhere ⟨machine, same⟩) p net settings inv
  · rw [labs_deploy_of_ne_netkit machine]

theorem contains_labs_deploy (p : Platform) (host other : String) (net : Network)
    (settings : Settings) (inv : Inventory) :
    (p.deploy host net settings inv).1.labs.contains other ↔
      inv.labs.contains other ∨ other = host ∧ p = .netkit := by
  obtain ⟨machine, lab, left⟩ | ⟨differ, left⟩ := p.labs_deploy host net settings inv
  · rw [left, SortedMap.contains_insert]
    simp [machine, or_comm]
  · rw [left]
    simp [differ]

/-- A deployment leaves a record for each of its devices, failed ones included. -/
theorem contains_records_deploy (p : Platform) (host : String) (net : Network)
    (settings : Settings) (inv : Inventory) (d : DeviceId) :
    (p.deploy host net settings inv).1.records.contains d ↔
      inv.records.contains d ∨ d ∈ (p.roster host net).map (·.id) := by
  by_cases selected : d ∈ (p.roster host net).map (·.id)
  · obtain ⟨s, mem, rfl⟩ := List.mem_map.mp selected
    have kept := p.withoutTap_deploy host net settings inv s.id
    rw [get?_visitAll_of_mem mem, Option.map_some] at kept
    obtain ⟨record, held, -⟩ := Option.map_eq_some_iff.mp kept
    simp [SortedMap.contains, held, selected]
  · simp only [SortedMap.contains, records_deploy_of_not_mem selected, selected, or_false]

end Platform

end NetDesign
