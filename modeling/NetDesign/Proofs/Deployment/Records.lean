import NetDesign.Proofs.Deployment.Verdicts

set_option autoImplicit false

namespace NetDesign

/-- The description of a device does not touch on its management interface. -/
theorem DeviceRecord.Configured.of_withoutTap {record other : DeviceRecord} {dialect : Dialect}
    {net : Network} {d : DeviceId} {device : Device}
    (configured : record.Configured dialect net d device)
    (same : other.withoutTap = record.withoutTap) : other.Configured dialect net d device := by
  have hostname : other.withoutTap.hostname = record.withoutTap.hostname := by rw [same]
  have loopback : other.withoutTap.loopback = record.withoutTap.loopback := by rw [same]
  have interfaces : other.withoutTap.interfaces = record.withoutTap.interfaces := by rw [same]
  have bgp : other.withoutTap.bgp = record.withoutTap.bgp := by rw [same]
  simp only [withoutTap] at hostname loopback interfaces bgp
  exact
    { configured with
      hostname := hostname.trans configured.hostname
      loopback := loopback.trans configured.loopback
      interfaces := by rw [interfaces]; exact configured.interfaces
      bgp := by rw [bgp]; exact configured.bgp }

namespace Platform

variable {p : Platform} {host : String} {net : Network} {settings : Settings} {inv : Inventory}

theorem withoutTap_deploy (p : Platform) (host : String) (net : Network) (settings : Settings)
    (inv : Inventory) (d : DeviceId) :
    ((p.deploy host net settings inv).1.records.get? d).map DeviceRecord.withoutTap =
      ((p.visitAll host net settings inv).1.records.get? d).map DeviceRecord.withoutTap := by
  by_cases machine : p = .netkit
  · subst machine
    rw [(deploy_netkit host net settings inv).1, ManagementPool.serveAll,
      ManagementPool.withoutTap_serve_foldl]
  · rw [deploy_of_ne_netkit machine]

/-- What a deployment leaves is what the visits left, but for the management interface. -/
theorem get?_deploy {d : DeviceId} {record : DeviceRecord}
    (visited : (p.visitAll host net settings inv).1.records.get? d = some record) :
    ∃ left, (p.deploy host net settings inv).1.records.get? d = some left ∧
      left.withoutTap = record.withoutTap := by
  have same := p.withoutTap_deploy host net settings inv d
  rw [visited, Option.map_some] at same
  exact Option.map_eq_some_iff.mp same

theorem deploy_keyed (keyed : inv.Keyed) : (p.deploy host net settings inv).1.Keyed := by
  intro d left found
  have same := p.withoutTap_deploy host net settings inv d
  rw [found, Option.map_some] at same
  obtain ⟨record, visited, equal⟩ := Option.map_eq_some_iff.mp same.symm
  have own := visitAll_keyed p host net settings keyed d record visited
  exact (congrArg DeviceRecord.id equal).symm.trans own

/-- A device of a deployment is listed as compiled or as failed. -/
theorem compiled_or_failed (wf : net.WellFormed) (settings : Settings) (keyed : inv.Keyed)
    {d : DeviceId}
    (selected : d ∈ (p.roster host net).map (·.id)) :
    d ∈ (p.deploy host net settings inv).2.compiled ∨
      ∃ f ∈ (p.deploy host net settings inv).2.failed, f.device = d := by
  obtain ⟨s, mem, rfl⟩ := List.mem_map.mp selected
  cases verdict : p.verdict? host net settings inv s with
  | none =>
    left
    rw [deploy_compiled wf p host settings keyed]
    exact List.mem_map.mpr ⟨s, List.mem_filter.mpr ⟨mem, decide_eq_true verdict⟩, rfl⟩
  | some f =>
    refine .inr ⟨f, ?_, verdict?_device verdict⟩
    rw [(deploy_failed wf p host settings keyed).mem_iff]
    exact List.mem_filterMap.mpr ⟨s, mem, verdict⟩

theorem exists_of_mem_compiled (wf : net.WellFormed) (keyed : inv.Keyed) {d : DeviceId}
    (compiled : d ∈ (p.deploy host net settings inv).2.compiled) :
    ∃ s ∈ p.roster host net, s.id = d ∧ p.deviceFault? s.profile net s.id = none := by
  rw [deploy_compiled wf p host settings keyed] at compiled
  obtain ⟨s, mem, rfl⟩ := List.mem_map.mp compiled
  obtain ⟨listed, passed⟩ := List.mem_filter.mp mem
  refine ⟨s, listed, rfl, ?_⟩
  have passed := of_decide_eq_true passed
  unfold verdict? at passed
  split at passed
  · cases passed
  case h_2 healthy => exact healthy

theorem deploy_configured (wf : net.WellFormed) (keyed : inv.Keyed) {d : DeviceId}
    (compiled : d ∈ (p.deploy host net settings inv).2.compiled) :
    ∃ device dialect record, net.device? d = some device ∧ device.dialect = some dialect ∧
      (p.deploy host net settings inv).1.records.get? d = some record ∧
      record.Configured dialect net d device := by
  obtain ⟨s, mem, rfl, healthy⟩ := exists_of_mem_compiled wf keyed compiled
  obtain ⟨found, -, spoken, -⟩ := Network.mem_selection.mp (mem_roster.mp mem).2
  have done : (p.outcome host net settings inv s).failure = none := by
    rw [outcome_failure wf settings mem keyed, healthy]
    rfl
  obtain ⟨record, left, same⟩ := get?_deploy (get?_visitAll_of_mem mem settings inv)
  exact ⟨s.device, s.profile.dialect, record, found, spoken, left,
    (outcome_configured wf mem keyed done).of_withoutTap same⟩

end Platform

end NetDesign
