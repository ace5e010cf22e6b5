import NetDesign.Proofs.Configuration.Interfaces
import NetDesign.Proofs.Configuration.Peering

set_option autoImplicit false

namespace NetDesign

/-- What keeps a device from being compiled once its interfaces have names. -/
def Network.configurationFault? (net : Network) (d : DeviceId) :
    Option (NetDesign.Step × Cause) :=
  if net.loopback? d = none then some (.device, .missingLoopback)
  else (net.bgpFault? d).map (.bgp, ·)

/-- The section as it is before its debugging output is turned on. -/
def BgpSection.quiet (bgp : BgpSection) : BgpSection := { bgp with debug := false }

/-- The record describes the device: its names, its loopback, an interface for each of its
addresses, and its BGP section. -/
structure DeviceRecord.Configured (record : DeviceRecord) (dialect : Dialect) (net : Network)
    (d : DeviceId) (device : Device) : Prop where
  hostname : record.hostname = NetDesign.hostname device.label
  loopback : record.loopback = net.loopback? d
  reached : (net.loopback? d).isSome
  interfaces : ∀ l subnet address, net.addressing? d l = some (subnet, address) →
    ∃ i ∈ record.interfaces, i.Serves l subnet address
  faultless : net.bgpFault? d = none
  bgp : record.bgp.map BgpSection.quiet = dialect.bgpSection? net d

namespace Dialect

variable {net : Network} {record : DeviceRecord} {device : Device}

theorem quiet_bgpSection? (dialect : Dialect) (d : DeviceId) :
    (dialect.bgpSection? net d).map BgpSection.quiet = dialect.bgpSection? net d := by
  unfold bgpSection?
  split
  · cases net.device? d with
    | none => rfl
    | some device =>
      simp only [Option.bind_some]
      cases device.asn <;> rfl
  · rfl

/-- The record of a speaker has a BGP section, that of its system and its sessions. -/
theorem exists_bgp_of_configured {dialect : Dialect} {d : DeviceId}
    (configured : record.Configured dialect net d device) (found : net.device? d = some device)
    (part : net.hasDevice .bgp d) :
    ∃ asn bgp, device.asn = some asn ∧ record.bgp = some bgp ∧
      bgp.quiet =
        dialect.bgpSection asn ((net.blocks.get? asn).getD []) (dialect.peersOf net d) := by
  obtain ⟨asn, numbered, listed⟩ :=
    dialect.bgpSection?_of_faultless found part configured.faultless
  obtain ⟨bgp, held, same⟩ := Option.map_eq_some_iff.mp (configured.bgp.trans listed)
  exact ⟨asn, bgp, numbered, held, same⟩

/-- What the OSPF section becomes depends on the record only through its device. -/
theorem fillOspf_eq (dialect : Dialect) (net : Network) (settings : Settings) (d : DeviceId) :
    ∃ warnings ospf, ∀ record : DeviceRecord, record.id = d →
      dialect.fillOspf net settings record = (warnings, { record with ospf := ospf }) := by
  by_cases part : net.hasDevice .ospf d
  · let found := dialect.ospf net settings d
    refine ⟨found.1.map fun o => ⟨d, .ospf, o⟩, some found.2, ?_⟩
    rintro record rfl
    rw [fillOspf, if_pos part]
    rfl
  · refine ⟨[], none, ?_⟩
    rintro record rfl
    rw [fillOspf, if_neg part]

theorem compilePeering_failure (wf : net.WellFormed) (dialect : Dialect) (name : String)
    (warnings : List Warning) (found : net.device? record.id = some device) :
    (dialect.compilePeering net name warnings record).failure =
      (net.bgpFault? record.id).map fun cause => ⟨record.id, name, .bgp, cause⟩ := by
  rw [compilePeering, surveyBgp_result wf dialect found]
  cases net.bgpFault? record.id <;> rfl

theorem compilePeering_of_faultless (wf : net.WellFormed) (dialect : Dialect) (name : String)
    (warnings : List Warning) (found : net.device? record.id = some device)
    (faultless : net.bgpFault? record.id = none) :
    dialect.compilePeering net name warnings record =
      { record :=
          { record with
            bgp := dialect.bgpSection? net record.id
            isis := dialect.isis net record.id }
        warnings := warnings ++ record.warn .bgp (dialect.surveyBgp net record.id).omissions
        failure := none } := by
  rw [compilePeering, surveyBgp_result wf dialect found, faultless]

theorem compileSections_eq (wf : net.WellFormed) (dialect : Dialect) (settings : Settings)
    (name : String) (record : DeviceRecord) (found : net.device? record.id = some device)
    (named : record.NamesLinks net)
    {loopback : Address} {loopbackNet : Net} (address : record.loopback = some loopback)
    (subnet : record.loopbackNet = some loopbackNet) :
    ∃ interfaces ospf warnings,
      (∀ l subnet address, net.addressing? record.id l = some (subnet, address) →
        ∃ i ∈ interfaces, i.Serves l subnet address) ∧
      dialect.compileSections net settings name record =
        dialect.compilePeering net name warnings
          { record with interfaces := interfaces, ospf := ospf } := by
  obtain ⟨interfaces, listed, serves⟩ := interfaces_ok wf dialect found named address subnet
  obtain ⟨warnings, ospf, filled⟩ := dialect.fillOspf_eq net settings record.id
  refine ⟨interfaces, ospf,
    record.warn .interfaces (dialect.interfaces net record).omissions ++ warnings, serves, ?_⟩
  rw [compileSections, listed]
  simp only [filled { record with interfaces := interfaces } rfl]

theorem compile_eq (dialect : Dialect) (settings : Settings)
    (found : net.device? record.id = some device) :
    dialect.compile net settings record =
      match net.loopback? record.id with
      | none => ⟨record, [], some ⟨record.id, record.inputName, .device, .missingLoopback⟩⟩
      | some loopback =>
        dialect.compileSections net settings record.inputName
          (record.identify device loopback) := by
  rw [compile, DeviceRecord.identity, Network.device_eq_ok.mpr found]
  cases net.loopback? record.id <;> rfl

theorem compile_failure (wf : net.WellFormed) (dialect : Dialect) (settings : Settings)
    (found : net.device? record.id = some device) (named : record.NamesLinks net) :
    (dialect.compile net settings record).failure =
      (net.configurationFault? record.id).map fun (step, cause) =>
        ⟨record.id, record.inputName, step, cause⟩ := by
  rw [compile_eq dialect settings found, Network.configurationFault?]
  cases net.loopback? record.id with
  | none => rfl
  | some loopback =>
    obtain ⟨interfaces, ospf, warnings, -, staged⟩ :=
      compileSections_eq wf dialect settings record.inputName (record.identify device loopback)
        found named rfl rfl
    rw [if_neg (by simp), Option.map_map]
    simp only [staged]
    exact compilePeering_failure wf dialect _ _ found

/-- A device that compiles has a loopback and no fault, and its record and warnings say all there is
to say. -/
theorem compile_of_compiled (wf : net.WellFormed) (dialect : Dialect) (settings : Settings)
    (found : net.device? record.id = some device) (named : record.NamesLinks net)
    (compiled : (dialect.compile net settings record).failure = none) :
    ∃ loopback interfaces ospf warnings,
      net.loopback? record.id = some loopback ∧ net.bgpFault? record.id = none ∧
      (∀ l subnet address, net.addressing? record.id l = some (subnet, address) →
        ∃ i ∈ interfaces, i.Serves l subnet address) ∧
      dialect.compile net settings record =
        { record :=
            { record.identify device loopback with
              interfaces := interfaces
              ospf := ospf
              bgp := dialect.bgpSection? net record.id
              isis := dialect.isis net record.id }
          warnings := warnings ++ record.warn .bgp (dialect.surveyBgp net record.id).omissions
          failure := none } := by
  rw [compile_failure wf dialect settings found named, Option.map_eq_none_iff] at compiled
  rw [compile_eq dialect settings found]
  unfold Network.configurationFault? at compiled
  cases reached : net.loopback? record.id with
  | none => rw [reached] at compiled; cases compiled
  | some loopback =>
    rw [reached, if_neg (by simp), Option.map_eq_none_iff] at compiled
    obtain ⟨interfaces, ospf, warnings, serves, staged⟩ :=
      compileSections_eq wf dialect settings record.inputName (record.identify device loopback)
        found named rfl rfl
    refine ⟨loopback, interfaces, ospf, warnings, rfl, compiled, serves, ?_⟩
    simp only [staged]
    exact compilePeering_of_faultless wf dialect _ _ found compiled

theorem compile_configured (wf : net.WellFormed) (dialect : Dialect) (settings : Settings)
    (found : net.device? record.id = some device) (named : record.NamesLinks net)
    (compiled : (dialect.compile net settings record).failure = none) :
    (dialect.compile net settings record).record.Configured dialect net record.id device := by
  obtain ⟨loopback, interfaces, ospf, warnings, reached, faultless, serves, made⟩ :=
    compile_of_compiled wf dialect settings found named compiled
  rw [made]
  exact
    { hostname := rfl
      loopback := reached.symm
      reached := Option.isSome_of_eq_some reached
      interfaces := serves
      faultless := faultless
      bgp := dialect.quiet_bgpSection? record.id }

/-- Of the sessions of a device that compiles those that are left out have their warnings. -/
theorem warning_of_omission (wf : net.WellFormed) (dialect : Dialect) (settings : Settings)
    (found : net.device? record.id = some device) (named : record.NamesLinks net)
    (compiled : (dialect.compile net settings record).failure = none)
    (part : net.hasDevice .bgp record.id) {s : Session} (mem : s ∈ net.sessionsOf record.id)
    {o : Omission} (omitted : dialect.sessionFinding net s = .omission o) :
    ⟨record.id, .bgp, o⟩ ∈ (dialect.compile net settings record).warnings := by
  obtain ⟨loopback, interfaces, ospf, warnings, -, faultless, -, made⟩ :=
    compile_of_compiled wf dialect settings found named compiled
  have surveyed := surveyBgp_result wf dialect found
  rw [faultless] at surveyed
  rw [made]
  refine List.mem_append_right _ (List.mem_map.mpr ⟨o, ?_, rfl⟩)
  exact omission_mem_surveyBgp dialect surveyed part mem omitted

theorem compilePeering_id (dialect : Dialect) (net : Network) (name : String)
    (warnings : List Warning) (record : DeviceRecord) :
    (dialect.compilePeering net name warnings record).record.id = record.id := by
  simp only [compilePeering]
  cases (dialect.surveyBgp net record.id).result <;> rfl

theorem compileSections_id (dialect : Dialect) (net : Network) (settings : Settings)
    (name : String) (record : DeviceRecord) :
    (dialect.compileSections net settings name record).record.id = record.id := by
  simp only [compileSections]
  cases (dialect.interfaces net record).result with
  | error c => rfl
  | ok interfaces =>
    obtain ⟨warnings, ospf, filled⟩ := dialect.fillOspf_eq net settings record.id
    simp only [filled { record with interfaces := interfaces } rfl]
    exact compilePeering_id ..

/-- Whatever comes of it, the record keeps its device. -/
theorem compile_id (dialect : Dialect) (net : Network) (settings : Settings)
    (record : DeviceRecord) : (dialect.compile net settings record).record.id = record.id := by
  unfold compile
  cases record.identity net with
  | error c => rfl
  | ok identity => exact compileSections_id ..

end Dialect

end NetDesign
