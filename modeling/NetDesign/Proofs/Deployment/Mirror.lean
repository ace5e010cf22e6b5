import NetDesign.Proofs.Deployment.Machine
import NetDesign.Proofs.Network.Runs

set_option autoImplicit false

namespace NetDesign

/-- The second session leads back over the same link, or over none like the first. -/
structure Session.Opposed (s t : Session) : Prop where
  leaves : t.source = s.target
  returns : t.target = s.source
  via : t.via = s.via

/-- The outcome is that of a device that compiled in the dialect, on whatever platform and host and
from whatever record of the device. -/
def Outcome.Compiled (outcome : Outcome) (dialect : Dialect) (net : Network) (d : DeviceId) : Prop :=
  outcome.failure = none ∧ ∃ (p : Platform) (profile : Profile) (settings : Settings)
    (host timestamp : String) (device : Device) (record : DeviceRecord),
    profile ∈ p.profiles ∧ profile.dialect = dialect ∧ record.id = d ∧
    outcome = p.compileDevice profile net settings host timestamp device record

namespace Outcome

variable {outcome : Outcome} {dialect : Dialect} {net : Network} {d : DeviceId} {device : Device}

theorem Compiled.configured (compiled : outcome.Compiled dialect net d) (wf : net.WellFormed)
    (found : net.device? d = some device) : outcome.record.Configured dialect net d device := by
  obtain ⟨done, p, profile, settings, host, timestamp, labelled, record, listed, rfl, rfl, rfl⟩ :=
    compiled
  exact Platform.compileDevice_configured wf listed settings host timestamp labelled found done

theorem Compiled.warning (compiled : outcome.Compiled dialect net d) (wf : net.WellFormed)
    (found : net.device? d = some device) (part : net.hasDevice .bgp d) {s : Session}
    (mem : s ∈ net.sessionsOf d) {o : Omission}
    (omitted : dialect.sessionFinding net s = .omission o) : ⟨d, .bgp, o⟩ ∈ outcome.warnings := by
  obtain ⟨done, p, profile, settings, host, timestamp, labelled, record, listed, rfl, rfl, rfl⟩ :=
    compiled
  obtain ⟨named, same, names, dialectDone, made⟩ :=
    Platform.compileDevice_of_compiled listed settings host timestamp labelled done
  rw [← same] at found part mem
  rw [made, Platform.adjust_warnings, ← same]
  exact Dialect.warning_of_omission wf profile.dialect settings found names dialectDone part mem
    omitted

/-- What a device that compiled makes of one of its external sessions. -/
theorem Compiled.external (compiled : outcome.Compiled dialect net d) (wf : net.WellFormed)
    {s : Session} (mem : s ∈ net.sessionsOf d) (kind : s.kind = .ebgp) :
    ∃ bgp, outcome.record.bgp = some bgp ∧
      ((∃ l e, net.adjacency s = .across l e.near e.far ∧
        dialect.sessionFinding net s = .entry (.external e) ∧ e ∈ bgp.externals) ∨
      ∃ label, net.adjacency s = .unaddressed ∧
        dialect.sessionFinding net s = .omission (.unaddressedPeer label) ∧
        ⟨d, .bgp, .unaddressedPeer label⟩ ∈ outcome.warnings) := by
  obtain ⟨given, rfl⟩ := Network.mem_sessionsOf.mp mem
  obtain ⟨-, part, -⟩ := wf.sessions s given
  obtain ⟨device, found⟩ := Option.isSome_iff_exists.mp (wf.members .bgp s.source part)
  have configured := compiled.configured wf found
  obtain ⟨asn, bgp, -, held, same⟩ := Dialect.exists_bgp_of_configured configured found part
  obtain ⟨target, reached, asn, numbered, healthy, finding⟩ :=
    Dialect.sessionFinding_of_faultless wf dialect found configured.faultless mem
  refine ⟨bgp, held, ?_⟩
  cases resolved : net.adjacency s with
  | unaddressed =>
    have omitted : dialect.sessionFinding net s = .omission (.unaddressedPeer target.label) := by
      rw [finding, Dialect.peerFinding, kind]
      simp only [resolved]
    exact .inr ⟨target.label, rfl, omitted, compiled.warning wf found part mem omitted⟩
  | across l near far =>
    let e : ExternalPeer :=
      ⟨target.label, asn, net.loopback? s.target, near, far, dialect.loopbackName⟩
    have entry : dialect.sessionFinding net s = .entry (.external e) := by
      rw [finding, Dialect.peerFinding, kind]
      simp only [resolved, e]
    have listed : e ∈ bgp.quiet.externals := by
      rw [same]
      exact Dialect.mem_bgpSection_externals.mpr (Dialect.mem_peersOf.mpr ⟨s, mem, entry⟩)
    exact .inl ⟨l, e, rfl, entry, listed⟩
  | ambiguous links =>
    obtain ⟨free, rfl, several⟩ := Network.adjacency_eq_ambiguous.mp resolved
    simp [Network.sessionFault?, reached, numbered, kind, free, several] at healthy

/-- Of two devices that compiled both peer over a session that leads to and fro, with each other's
addresses, or both leave it out and say so. -/
theorem Compiled.mirrored {outcomeBack : Outcome} {dialectBack : Dialect} {s t : Session}
    (compiled : outcome.Compiled dialect net s.source)
    (compiledBack : outcomeBack.Compiled dialectBack net t.source) (wf : net.WellFormed)
    (there : s ∈ net.sessions) (back : t ∈ net.sessions) (external : s.kind = .ebgp)
    (externalBack : t.kind = .ebgp) (opposed : s.Opposed t) :
    ∃ bgp bgpBack, outcome.record.bgp = some bgp ∧ outcomeBack.record.bgp = some bgpBack ∧
      ((∃ e ∈ bgp.externals, ∃ f ∈ bgpBack.externals,
        dialect.sessionFinding net s = .entry (.external e) ∧
        dialectBack.sessionFinding net t = .entry (.external f) ∧
        f.near = e.far ∧ f.far = e.near) ∨
      ∃ label labelBack,
        dialect.sessionFinding net s = .omission (.unaddressedPeer label) ∧
        dialectBack.sessionFinding net t = .omission (.unaddressedPeer labelBack) ∧
        ⟨s.source, .bgp, .unaddressedPeer label⟩ ∈ outcome.warnings ∧
        ⟨t.source, .bgp, .unaddressedPeer labelBack⟩ ∈ outcomeBack.warnings) := by
  have mirrored := net.adjacency_reverse opposed.leaves opposed.returns opposed.via
  obtain ⟨bgp, held, found⟩ :=
    compiled.external wf (Network.mem_sessionsOf.mpr ⟨there, rfl⟩) external
  obtain ⟨bgpBack, heldBack, foundBack⟩ :=
    compiledBack.external wf (Network.mem_sessionsOf.mpr ⟨back, rfl⟩) externalBack
  refine ⟨bgp, bgpBack, held, heldBack, ?_⟩
  rcases found with ⟨l, e, across, entry, mem⟩ | ⟨label, none, omitted, warned⟩
  · rw [across] at mirrored
    rcases foundBack with ⟨k, f, acrossBack, entryBack, memBack⟩ | ⟨labelBack, noneBack, -⟩
    · rw [acrossBack, Adjacency.reverse] at mirrored
      obtain ⟨-, near, far⟩ := Adjacency.across.inj mirrored
      exact .inl ⟨e, mem, f, memBack, entry, entryBack, near, far⟩
    · rw [noneBack] at mirrored
      cases mirrored
  · rw [none] at mirrored
    rcases foundBack with ⟨k, f, acrossBack, -⟩ | ⟨labelBack, noneBack, omittedBack, warnedBack⟩
    · rw [acrossBack] at mirrored
      cases mirrored
    · exact .inr ⟨label, labelBack, omitted, omittedBack, warned, warnedBack⟩

end Outcome

namespace Network

/-- External sessions that lead to and fro resolve alike. Of two devices that compiled both peer,
with each other's addresses, or both leave the session out and say so. -/
theorem external_sessions_mirror {net : Network} (reachable : net.Reachable) {s t : Session}
    (there : s ∈ net.sessions) (back : t ∈ net.sessions) (external : s.kind = .ebgp)
    (externalBack : t.kind = .ebgp) (opposed : s.Opposed t) :
    (∀ l near far, net.adjacency s = .across l near far ↔ net.adjacency t = .across l far near) ∧
    (net.adjacency s = .unaddressed ↔ net.adjacency t = .unaddressed) ∧
    (∀ links, net.adjacency s = .ambiguous links ↔ net.adjacency t = .ambiguous links) ∧
    (∀ links, net.adjacency s = .ambiguous links → links.Pairwise fun k l => k.index < l.index) ∧
    ∀ (dialect dialectBack : Dialect) (outcome outcomeBack : Outcome),
      outcome.Compiled dialect net s.source → outcomeBack.Compiled dialectBack net t.source →
      ∃ bgp bgpBack, outcome.record.bgp = some bgp ∧ outcomeBack.record.bgp = some bgpBack ∧
        ((∃ e ∈ bgp.externals, ∃ f ∈ bgpBack.externals,
          dialect.sessionFinding net s = .entry (.external e) ∧
          dialectBack.sessionFinding net t = .entry (.external f) ∧
          f.near = e.far ∧ f.far = e.near) ∨
        ∃ label labelBack,
          dialect.sessionFinding net s = .omission (.unaddressedPeer label) ∧
          dialectBack.sessionFinding net t = .omission (.unaddressedPeer labelBack) ∧
          ⟨s.source, .bgp, .unaddressedPeer label⟩ ∈ outcome.warnings ∧
          ⟨t.source, .bgp, .unaddressedPeer labelBack⟩ ∈ outcomeBack.warnings) := by
  have wf := reachable.wellFormed
  have mirrored := net.adjacency_reverse opposed.leaves opposed.returns opposed.via
  refine ⟨fun l near far => ?_, ?_, fun links => ?_, fun links ambiguous => ?_, ?_⟩
  · rw [mirrored]
    cases net.adjacency s <;> simp [Adjacency.reverse, and_comm]
  · rw [mirrored]
    cases net.adjacency s <;> simp [Adjacency.reverse]
  · rw [mirrored]
    cases net.adjacency s <;> simp [Adjacency.reverse]
  · obtain ⟨-, rfl, -⟩ := adjacency_eq_ambiguous.mp ambiguous
    exact net.peeringLinks_ascending s.source s.target
  · intro dialect dialectBack outcome outcomeBack compiled compiledBack
    exact compiled.mirrored compiledBack wf there back external externalBack opposed

theorem twoSystems_sessions_mirror :
    twoSystems.Reachable ∧ sessionThere ∈ twoSystems.sessions ∧
      sessionBack ∈ twoSystems.sessions ∧ sessionThere.Opposed sessionBack ∧
      twoSystems.adjacency sessionBack = .across ⟨1⟩ ⟨10⟩ ⟨9⟩ := by
  have there : sessionThere ∈ twoSystems.sessions := by decide +kernel
  have back : sessionBack ∈ twoSystems.sessions := by decide +kernel
  have opposed : sessionThere.Opposed sessionBack := ⟨rfl, rfl, rfl⟩
  have resolved : twoSystems.adjacency sessionThere = .across ⟨1⟩ ⟨9⟩ ⟨10⟩ := by decide +kernel
  have mirrored := external_sessions_mirror twoSystems_reachable there back rfl rfl opposed
  exact ⟨twoSystems_reachable, there, back, opposed, (mirrored.1 ⟨1⟩ ⟨9⟩ ⟨10⟩).mp resolved⟩

end Network

end NetDesign
