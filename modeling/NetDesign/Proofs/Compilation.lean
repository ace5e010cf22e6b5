import NetDesign.Compilation
import NetDesign.Proofs.Deployment.Records

set_option autoImplicit false

namespace NetDesign

namespace BgpSection

/-- The internal peers of a direction. -/
def internals (bgp : BgpSection) : Option Direction → List InternalPeer
  | none => bgp.peers
  | some .down => bgp.clients
  | some .up => bgp.reflectors

end BgpSection

/-- The record of the peer is reached over a link of both, at the address that it has there, and is
the one that the entry describes. -/
structure ExternalPeer.Agrees (e : ExternalPeer) (net : Network) (near far : DeviceRecord) :
    Prop where
  link : ∃ l link subnet, net.link? l = some link ∧
    (∃ i ∈ near.interfaces, i.Serves l subnet e.near) ∧
    ∃ i ∈ far.interfaces, i.Serves l subnet e.far
  loopback : e.loopback = far.loopback
  asn : ∃ bgp, far.bgp = some bgp ∧ e.asn = bgp.asn
  label : hostname e.label = far.hostname

/-- The record of the peer is the one that the entry describes. -/
structure InternalPeer.Agrees (e : InternalPeer) (far : DeviceRecord) : Prop where
  loopback : some e.loopback = far.loopback
  asn : ∃ bgp, far.bgp = some bgp ∧ e.asn = bgp.asn
  label : hostname e.label = far.hostname

namespace Compilation

/-- Some report lists the device as compiled and none as failed. -/
def Succeeded (c : Compilation) (d : DeviceId) : Prop :=
  (∃ r ∈ c.reports, d ∈ r.compiled) ∧ ∀ r ∈ c.reports, ∀ f ∈ r.failed, f.device ≠ d

instance (c : Compilation) (d : DeviceId) : Decidable (c.Succeeded d) :=
  inferInstanceAs (Decidable ((∃ r ∈ c.reports, d ∈ r.compiled) ∧
    ∀ r ∈ c.reports, ∀ f ∈ r.failed, f.device ≠ d))

/-- The record of a device that succeeded describes it, in its own dialect. -/
structure Sound (c : Compilation) (net : Network) : Prop where
  keyed : c.inventory.Keyed
  described : ∀ d, c.Succeeded d → ∃ device dialect record, net.device? d = some device ∧
    device.dialect = some dialect ∧ c.inventory.records.get? d = some record ∧
    record.Configured dialect net d device

variable {c : Compilation} {net : Network}

/-- A device that succeeded so far and is not part of the next deployment keeps its record. -/
theorem Sound.extend_of_not_mem (sound : c.Sound net) (settings : Settings)
    {deployment : String × Platform} {d : DeviceId} (before : c.Succeeded d)
    (absent : d ∉ (deployment.2.roster deployment.1 net).map (·.id)) :
    ∃ device dialect record, net.device? d = some device ∧ device.dialect = some dialect ∧
      (c.extend net settings deployment).inventory.records.get? d = some record ∧
      record.Configured dialect net d device := by
  obtain ⟨device, dialect, record, found, spoken, held, configured⟩ := sound.described d before
  have visited := Platform.get?_visitAll_of_not_mem absent settings c.inventory
  rw [held] at visited
  obtain ⟨left, kept, same⟩ := Platform.get?_deploy visited
  exact ⟨device, dialect, left, found, spoken, kept, configured.of_withoutTap same⟩

theorem Sound.extend (sound : c.Sound net) (wf : net.WellFormed) (settings : Settings)
    (deployment : String × Platform) : (c.extend net settings deployment).Sound net where
  keyed := Platform.deploy_keyed sound.keyed
  described d succeeded := by
    obtain ⟨⟨r, listed, compiled⟩, unfailed⟩ := succeeded
    have healthy : ∀ f ∈ (deployment.2.deploy deployment.1 net settings c.inventory).2.failed,
        f.device ≠ d :=
      unfailed _ (List.mem_append_right _ (List.mem_singleton_self _))
    by_cases selected : d ∈ (deployment.2.roster deployment.1 net).map (·.id)
    · rcases Platform.compiled_or_failed wf settings sound.keyed selected with
        done | ⟨f, mem, same⟩
      · exact Platform.deploy_configured wf sound.keyed done
      · exact absurd same (healthy f mem)
    · refine sound.extend_of_not_mem settings ⟨?_, fun r mem => unfailed r ?_⟩ selected
      · rcases List.mem_append.mp listed with old | new
        · exact ⟨r, old, compiled⟩
        · rw [List.mem_singleton.mp new] at compiled
          obtain ⟨s, mem, same, -⟩ := Platform.exists_of_mem_compiled wf sound.keyed compiled
          exact absurd (List.mem_map.mpr ⟨s, mem, same⟩) selected
      · exact List.mem_append_left _ mem

theorem empty_sound (timestamp : String) (net : Network) :
    Compilation.Sound ⟨.empty timestamp, []⟩ net where
  keyed := Inventory.empty_keyed timestamp
  described d succeeded := by
    obtain ⟨⟨r, listed, -⟩, -⟩ := succeeded
    cases listed

end Compilation

namespace Network

variable {net : Network}

theorem compile_sound (wf : net.WellFormed) (settings : Settings) (host : Option String)
    (timestamp : String) : (net.compile settings host timestamp).Sound net :=
  List.foldlRecOn (motive := fun c => Compilation.Sound c net) (net.deploymentsOn host) _
    (Compilation.empty_sound timestamp net)
    fun _ sound deployment _ => sound.extend wf settings deployment

/-- The record of the target of a session has a BGP section, that of the system of the target. -/
theorem target_asn (wf : net.WellFormed) {s : Session} (given : s ∈ net.sessions)
    {dialect : Dialect} {target : Device} {far : DeviceRecord}
    (reached : net.device? s.target = some target)
    (described : far.Configured dialect net s.target target) {asn : AsNumber}
    (numbered : target.asn = some asn) : ∃ bgp, far.bgp = some bgp ∧ asn = bgp.asn := by
  obtain ⟨-, -, part, -⟩ := wf.sessions s given
  obtain ⟨own, bgp, ownNumber, held, same⟩ :=
    Dialect.exists_bgp_of_configured described reached part
  rw [numbered, Option.some.injEq] at ownNumber
  refine ⟨bgp, held, ?_⟩
  have told : bgp.quiet.asn = own := by rw [same]; rfl
  rw [ownNumber, ← told]
  rfl

theorem external_agrees (wf : net.WellFormed) {s : Session} (given : s ∈ net.sessions)
    {dialect other : Dialect} {device target : Device} {near far : DeviceRecord}
    (source : near.Configured dialect net s.source device)
    (reached : net.device? s.target = some target)
    (described : far.Configured other net s.target target) {e : ExternalPeer}
    (entry : dialect.sessionFinding net s = .entry (.external e)) : e.Agrees net near far := by
  obtain ⟨same, l, reachedAgain, numbered, label, loopback, resolved⟩ :=
    Dialect.of_external_entry entry
  rw [reached, Option.some.injEq] at reachedAgain
  subst reachedAgain
  obtain ⟨-, subnet, here, there⟩ := of_adjacency_across resolved
  obtain ⟨link, present, -⟩ := wf.addressed s.source l subnet e.near here
  exact
    { link := ⟨l, link, subnet, present, source.interfaces l subnet e.near here,
        described.interfaces l subnet e.far there⟩
      loopback := loopback.trans described.loopback.symm
      asn := target_asn wf given reached described numbered
      label := by rw [label, described.hostname] }

theorem internal_agrees (wf : net.WellFormed) {s : Session} (given : s ∈ net.sessions)
    {dialect other : Dialect} {target : Device} {far : DeviceRecord}
    (reached : net.device? s.target = some target)
    (described : far.Configured other net s.target target) {direction : Option Direction}
    {e : InternalPeer} (entry : dialect.sessionFinding net s = .entry (.internal direction e)) :
    e.Agrees far := by
  obtain ⟨same, reachedAgain, numbered, label, loopback⟩ := Dialect.of_internal_entry entry
  rw [reached, Option.some.injEq] at reachedAgain
  subst reachedAgain
  exact
    { loopback := loopback.symm.trans described.loopback.symm
      asn := target_asn wf given reached described numbered
      label := by rw [label, described.hostname] }

theorem part_of_bgp {d : DeviceId} {device : Device} {dialect : Dialect} {record : DeviceRecord}
    (configured : record.Configured dialect net d device) {bgp : BgpSection}
    (held : record.bgp = some bgp) : net.hasDevice .bgp d := by
  by_contra absent
  have empty : dialect.bgpSection? net d = none := if_neg absent
  have same := configured.bgp
  rw [empty, held] at same
  cases same

/-- The entries of a record are those that the sessions of its device put there, each in the list
of its kind. -/
theorem entries_of_configured {d : DeviceId} {device : Device} {dialect : Dialect}
    {record : DeviceRecord} (found : net.device? d = some device)
    (configured : record.Configured dialect net d device) {bgp : BgpSection}
    (held : record.bgp = some bgp) :
    (∀ e, e ∈ bgp.externals ↔
      ∃ s ∈ net.sessionsOf d, dialect.sessionFinding net s = .entry (.external e)) ∧
    ∀ direction e, e ∈ bgp.internals direction ↔
      ∃ s ∈ net.sessionsOf d, dialect.sessionFinding net s = .entry (.internal direction e) := by
  obtain ⟨asn, own, -, ownHeld, same⟩ :=
    Dialect.exists_bgp_of_configured configured found (part_of_bgp configured held)
  rw [held, Option.some.injEq] at ownHeld
  subst ownHeld
  refine ⟨fun e => ?_, fun direction e => ?_⟩
  · have externals : bgp.quiet.externals = bgp.externals := rfl
    rw [← externals, same, Dialect.mem_bgpSection_externals, Dialect.mem_peersOf]
  · have internals : bgp.quiet.internals direction = bgp.internals direction := by
      rcases direction with _ | _ | _ <;> rfl
    rw [← internals, same, ← Dialect.mem_peersOf, ← Dialect.mem_internals]
    rcases direction with _ | _ | _ <;> rfl

/-- The two ends of every session agree: the record of the target is as the entry says that the
session put into the record of its source. The lists of the source hold nothing else. -/
theorem compiled_peers_agree {net : Network} (reachable : net.Reachable) (settings : Settings)
    (host : Option String) (timestamp : String) {a b : DeviceId}
    (first : (net.compile settings host timestamp).Succeeded a)
    (second : (net.compile settings host timestamp).Succeeded b) :
    let records := (net.compile settings host timestamp).inventory.records
    ∃ (near far : DeviceRecord) (device : Device) (dialect : Dialect),
      records.get? a = some near ∧ records.get? b = some far ∧
      net.device? a = some device ∧ device.dialect = some dialect ∧
      (∀ bgp, near.bgp = some bgp →
        (∀ e, e ∈ bgp.externals ↔
          ∃ s ∈ net.sessionsOf a, dialect.sessionFinding net s = .entry (.external e)) ∧
        ∀ direction e, e ∈ bgp.internals direction ↔
          ∃ s ∈ net.sessionsOf a, dialect.sessionFinding net s = .entry (.internal direction e)) ∧
      ∀ s ∈ net.sessionsOf a, s.target = b →
        near.bgp.isSome ∧
        (∀ e, dialect.sessionFinding net s = .entry (.external e) → e.Agrees net near far) ∧
        ∀ direction e, dialect.sessionFinding net s = .entry (.internal direction e) →
          e.Agrees far := by
  intro records
  have wf := reachable.wellFormed
  have sound := compile_sound wf settings host timestamp
  obtain ⟨device, dialect, near, found, spoken, held, configured⟩ := sound.described a first
  obtain ⟨target, other, far, reached, -, heldFar, described⟩ := sound.described b second
  refine ⟨near, far, device, dialect, held, heldFar, found, spoken,
    fun bgp listed => entries_of_configured found configured listed, fun s mem targets => ?_⟩
  obtain ⟨given, rfl⟩ := mem_sessionsOf.mp mem
  subst targets
  obtain ⟨-, part, -⟩ := wf.sessions s given
  obtain ⟨asn, bgp, -, listed, -⟩ := Dialect.exists_bgp_of_configured configured found part
  refine ⟨Option.isSome_of_eq_some listed, fun e entry => ?_, fun direction e entry => ?_⟩
  · exact external_agrees wf given configured reached described entry
  · exact internal_agrees wf given reached described entry

theorem twoSystems_peers_agree :
    let records := (twoSystems.compile .standard none "0").inventory.records
    ∃ near far, records.get? ⟨0⟩ = some near ∧ records.get? ⟨1⟩ = some far ∧
      (⟨"b", 2, some ⟨2⟩, ⟨9⟩, ⟨10⟩, "lo0:1"⟩ : ExternalPeer).Agrees twoSystems near far := by
  intro records
  have first : (twoSystems.compile .standard none "0").Succeeded ⟨0⟩ := by decide +kernel
  have second : (twoSystems.compile .standard none "0").Succeeded ⟨1⟩ := by decide +kernel
  obtain ⟨near, far, device, dialect, held, heldFar, found, spoken, -, agrees⟩ :=
    compiled_peers_agree twoSystems_reachable .standard none "0" first second
  have known : twoSystems.device? ⟨0⟩ = some (twoSystemsRouter "a" 1) := by decide +kernel
  rw [known, Option.some.injEq] at found
  subst found
  cases spoken
  have given : sessionThere ∈ twoSystems.sessionsOf ⟨0⟩ := by decide +kernel
  exact ⟨near, far, held, heldFar,
    (agrees sessionThere given rfl).2.1 _ (by decide +kernel)⟩

end Network

end NetDesign
