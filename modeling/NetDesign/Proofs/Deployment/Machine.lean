import NetDesign.Deployment.Machine
import NetDesign.Proofs.Configuration.Compile
import NetDesign.Proofs.Interface.Supply

set_option autoImplicit false

namespace NetDesign

namespace DeviceRecord

theorem namesLinks_of_assign {record : DeviceRecord} {net : Network} {supply rest : Supply}
    (ended : (supply.assign (net.linksOf record.id)).2 = .ok rest) :
    (record.nameInterfaces net supply).1.NamesLinks net := by
  intro l mem
  have listed : l ∈ (supply.assign (net.linksOf record.id)).1.map (·.1) := by
    rw [Supply.map_fst_assign ended]
    exact mem
  exact Option.isSome_iff_exists.mp ((SortedMap.contains_insertAll _ _ l).mpr (.inl listed))

end DeviceRecord

namespace Platform

/-- What keeps a device from being compiled for a platform. -/
def deviceFault? (p : Platform) (profile : Profile) (net : Network) (d : DeviceId) :
    Option (NetDesign.Step × Cause) :=
  if p = .cisco ∧ 85 < (net.linksOf d).length then
    some (.allocation, .exhausted ⟨profile.scheme, 85⟩)
  else net.configurationFault? d

theorem deviceFault?_cases {p : Platform} {profile : Profile} {net : Network} {d : DeviceId}
    {step : NetDesign.Step} {cause : Cause}
    (fault : p.deviceFault? profile net d = some (step, cause)) :
    (∃ e, cause = .exhausted e) ∨ cause = .missingLoopback ∨
      (∃ label, cause = .missingAsn label) ∨
      ∃ label links, cause = .ambiguousAdjacency label links := by
  unfold deviceFault? Network.configurationFault? at fault
  split at fault
  · cases fault
    exact .inl ⟨_, rfl⟩
  · split at fault
    · cases fault
      exact .inr (.inl rfl)
    · obtain ⟨c, bgp, same⟩ := Option.map_eq_some_iff.mp fault
      cases same
      exact .inr (.inr (Network.bgpFault?_cases bgp))

/-- Whether there are management addresses left does not matter before the devices are compiled. -/
theorem deviceFault?_ne_managementExhausted {p : Platform} {profile : Profile} {net : Network}
    {d : DeviceId} {step : NetDesign.Step} {cause : Cause}
    (fault : p.deviceFault? profile net d = some (step, cause)) : cause ≠ .managementExhausted := by
  rcases deviceFault?_cases fault with ⟨e, rfl⟩ | rfl | ⟨label, rfl⟩ | ⟨label, links, rfl⟩ <;> simp

/-- Only the two Cisco profiles limit the number of interfaces. -/
theorem overflow?_of_mem_profiles {p : Platform} {profile : Profile} (listed : profile ∈ p.profiles)
    (n : Nat) :
    profile.scheme.overflow? n =
      if p = .cisco ∧ 85 < n then some ⟨profile.scheme, 85⟩ else none := by
  cases p with
  | cisco =>
    have limited : profile.scheme.capacity = some 85 := by
      simp only [profiles, List.mem_cons, List.not_mem_nil, or_false] at listed
      rcases listed with rfl | rfl <;> rfl
    rw [Scheme.overflow?, limited, Option.bind_some]
    by_cases room : n ≤ 85
    · rw [if_pos room, if_neg (by omega)]
    · rw [if_neg room, if_pos ⟨rfl, by omega⟩]
  | _ =>
    have unlimited : profile.scheme.capacity = none := by
      rw [List.mem_singleton.mp listed]
      rfl
    rw [Scheme.overflow?, unlimited]
    rfl

theorem connect_ok (p : Platform) (record : DeviceRecord) (supply : Supply)
    (unlimited : p = .netkit → supply.scheme.capacity = none) :
    ∃ tap, p.connect record supply = .ok { record with tap := tap } := by
  cases p with
  | netkit =>
    obtain ⟨id, n, drawn⟩ := Supply.draw_of_unlimited (unlimited rfl)
    exact ⟨_, by rw [connect, DeviceRecord.addTap, drawn]⟩
  | _ => exact ⟨record.tap, rfl⟩

variable {p : Platform} {profile : Profile} {net : Network} {record : DeviceRecord}

theorem netkit_unlimited (listed : profile ∈ p.profiles) (machine : p = .netkit) :
    profile.scheme.capacity = none := by
  subst machine
  rw [List.mem_singleton.mp listed]
  rfl

/-- The links of a device all get names, and are left unnamed only if the supply is exhausted. -/
theorem allocate_result (listed : profile ∈ p.profiles) (net : Network) (record : DeviceRecord) :
    ∃ named : DeviceRecord, named.id = record.id ∧ named.inputName = record.inputName ∧
      ((∃ e, profile.scheme.overflow? (net.linksOf record.id).length = some e ∧
        p.allocate profile net record = (named, some (record.allocationFailure e))) ∨
      profile.scheme.overflow? (net.linksOf record.id).length = none ∧ named.NamesLinks net ∧
        p.allocate profile net record = (named, none)) := by
  let named := (record.nameInterfaces net (.ofScheme profile.scheme)).1
  have naming : record.nameInterfaces net (.ofScheme profile.scheme) =
      (named, ((Supply.ofScheme profile.scheme).assign (net.linksOf record.id)).2.mapError
        record.allocationFailure) := rfl
  rcases Supply.assign_result profile.scheme (net.linksOf record.id) with
    ⟨e, overflow, ended⟩ | ⟨room, n, ended⟩
  · refine ⟨named, rfl, rfl, .inl ⟨e, overflow, ?_⟩⟩
    rw [allocate, naming, ended]
    rfl
  · obtain ⟨tap, connected⟩ := p.connect_ok named ⟨profile.scheme, n⟩
      (netkit_unlimited listed)
    refine ⟨{ named with tap := tap }, rfl, rfl,
      .inr ⟨room, DeviceRecord.namesLinks_of_assign ended, ?_⟩⟩
    rw [allocate, naming, ended]
    simp only [mapError_ok, connected]

@[simp] theorem adjust_failure (p : Platform) (outcome : Outcome) :
    (p.adjust outcome).failure = outcome.failure := by
  unfold adjust
  split <;> rfl

@[simp] theorem adjust_warnings (p : Platform) (outcome : Outcome) :
    (p.adjust outcome).warnings = outcome.warnings := by
  unfold adjust
  split <;> rfl

@[simp] theorem adjust_id (p : Platform) (outcome : Outcome) :
    (p.adjust outcome).record.id = outcome.record.id := by
  unfold adjust
  split <;> rfl

theorem adjust_configured (p : Platform) {outcome : Outcome} {dialect : Dialect} {d : DeviceId}
    {device : Device} (configured : outcome.record.Configured dialect net d device) :
    (p.adjust outcome).record.Configured dialect net d device := by
  unfold adjust
  split
  · refine { configured with bgp := ?_ }
    rw [← configured.bgp]
    change (outcome.record.bgp.map _).map _ = _
    rw [Option.map_map]
    rfl
  · exact configured

theorem prepare_keeps (p : Platform) (settings : Settings)
    (host timestamp template label : String) (record : DeviceRecord) :
    (p.prepare settings host timestamp template label record).id = record.id ∧
      (p.prepare settings host timestamp template label record).inputName = record.inputName := by
  cases p <;> exact ⟨rfl, rfl⟩

/-- Once its interfaces have names a device is compiled by its dialect. -/
theorem compileDevice_result (listed : profile ∈ p.profiles) (net : Network) (settings : Settings)
    (host timestamp : String) (device : Device) (record : DeviceRecord) :
    ∃ named : DeviceRecord, named.id = record.id ∧ named.inputName = record.inputName ∧
      ((∃ e, profile.scheme.overflow? (net.linksOf record.id).length = some e ∧
        p.compileDevice profile net settings host timestamp device record =
          ⟨named, [], some (record.allocationFailure e)⟩) ∨
      profile.scheme.overflow? (net.linksOf record.id).length = none ∧ named.NamesLinks net ∧
        p.compileDevice profile net settings host timestamp device record =
          p.adjust (profile.dialect.compile net settings named)) := by
  obtain ⟨sameId, sameName⟩ :=
    p.prepare_keeps settings host timestamp profile.template device.label record
  simp only [compileDevice]
  generalize p.prepare settings host timestamp profile.template device.label record = prepared at *
  obtain ⟨named, id, name, ⟨e, overflow, allocated⟩ | ⟨room, names, allocated⟩⟩ :=
    allocate_result listed net prepared
  · rw [sameId] at overflow
    refine ⟨named, id.trans sameId, name.trans sameName, .inl ⟨e, overflow, ?_⟩⟩
    simp only [allocated, DeviceRecord.allocationFailure, sameId, sameName]
  · rw [sameId] at room
    refine ⟨named, id.trans sameId, name.trans sameName, .inr ⟨room, names, ?_⟩⟩
    simp only [allocated]

theorem compileDevice_failure (wf : net.WellFormed) (listed : profile ∈ p.profiles)
    (settings : Settings) (host timestamp : String) (labelled : Device) {device : Device}
    (found : net.device? record.id = some device) :
    (p.compileDevice profile net settings host timestamp labelled record).failure =
      (p.deviceFault? profile net record.id).map fun (step, cause) =>
        ⟨record.id, record.inputName, step, cause⟩ := by
  obtain ⟨named, id, name, ⟨e, overflow, made⟩ | ⟨room, names, made⟩⟩ :=
    compileDevice_result listed net settings host timestamp labelled record
  · rw [overflow?_of_mem_profiles listed] at overflow
    by_cases full : p = .cisco ∧ 85 < (net.linksOf record.id).length
    · rw [if_pos full] at overflow
      cases overflow
      rw [made, deviceFault?, if_pos full]
      rfl
    · rw [if_neg full] at overflow
      cases overflow
  · rw [overflow?_of_mem_profiles listed] at room
    by_cases full : p = .cisco ∧ 85 < (net.linksOf record.id).length
    · rw [if_pos full] at room
      cases room
    · rw [← id] at found
      rw [made, adjust_failure, deviceFault?, if_neg full,
        Dialect.compile_failure wf profile.dialect settings found names, id, name]

/-- The dialect compiled a device that compiled. -/
theorem compileDevice_of_compiled (listed : profile ∈ p.profiles) (settings : Settings)
    (host timestamp : String) (labelled : Device)
    (compiled : (p.compileDevice profile net settings host timestamp labelled record).failure =
      none) :
    ∃ named : DeviceRecord, named.id = record.id ∧ named.NamesLinks net ∧
      (profile.dialect.compile net settings named).failure = none ∧
      p.compileDevice profile net settings host timestamp labelled record =
        p.adjust (profile.dialect.compile net settings named) := by
  obtain ⟨named, id, -, ⟨e, -, made⟩ | ⟨-, names, made⟩⟩ :=
    compileDevice_result listed net settings host timestamp labelled record
  · rw [made] at compiled
    cases compiled
  · refine ⟨named, id, names, ?_, made⟩
    rwa [made, adjust_failure] at compiled

theorem compileDevice_configured (wf : net.WellFormed) (listed : profile ∈ p.profiles)
    (settings : Settings) (host timestamp : String) (labelled : Device) {device : Device}
    (found : net.device? record.id = some device)
    (compiled : (p.compileDevice profile net settings host timestamp labelled record).failure =
      none) :
    (p.compileDevice profile net settings host timestamp labelled record).record.Configured
      profile.dialect net record.id device := by
  obtain ⟨named, id, names, done, made⟩ :=
    compileDevice_of_compiled listed settings host timestamp labelled compiled
  rw [← id] at found
  rw [made, ← id]
  exact adjust_configured p
    (Dialect.compile_configured wf profile.dialect settings found names done)

theorem compileDevice_id (listed : profile ∈ p.profiles) (net : Network) (settings : Settings)
    (host timestamp : String) (device : Device) (record : DeviceRecord) :
    (p.compileDevice profile net settings host timestamp device record).record.id = record.id := by
  obtain ⟨named, id, -, ⟨e, -, made⟩ | ⟨-, -, made⟩⟩ :=
    compileDevice_result listed net settings host timestamp device record
  · rw [made]
    exact id
  · rw [made, adjust_id, Dialect.compile_id]
    exact id

end Platform

end NetDesign
