import NetDesign.Configuration
import NetDesign.Proofs.Configuration.Adjacency
import NetDesign.Proofs.Configuration.Survey
import NetDesign.Proofs.Network.WellFormed

set_option autoImplicit false

namespace NetDesign

namespace Network

/-- What is wrong with a session. -/
def sessionFault? (net : Network) (s : Session) : Option Cause :=
  (net.device? s.target).bind fun target =>
    if target.asn = none then some (.missingAsn target.label)
    else if s.kind = .ebgp ∧ s.via = none ∧ 2 ≤ (net.peeringLinks s.source s.target).length then
      some (.ambiguousAdjacency target.label (net.peeringLinks s.source s.target))
    else none

/-- What keeps a device from having a BGP section, if it should have one. -/
def bgpFault? (net : Network) (d : DeviceId) : Option Cause :=
  (net.device? d).bind fun device =>
    if net.hasDevice .bgp d then
      if device.asn = none then some (.missingAsn device.label)
      else (net.sessionsOf d).findSome? net.sessionFault?
    else none

theorem sessionFault?_cases {net : Network} {s : Session} {c : Cause}
    (fault : net.sessionFault? s = some c) :
    (∃ label, c = .missingAsn label) ∨ ∃ label links, c = .ambiguousAdjacency label links := by
  obtain ⟨target, -, said⟩ := Option.bind_eq_some_iff.mp fault
  split at said
  · cases said
    exact .inl ⟨_, rfl⟩
  · split at said
    · cases said
      exact .inr ⟨_, _, rfl⟩
    · cases said

theorem bgpFault?_cases {net : Network} {d : DeviceId} {c : Cause}
    (fault : net.bgpFault? d = some c) :
    (∃ label, c = .missingAsn label) ∨ ∃ label links, c = .ambiguousAdjacency label links := by
  obtain ⟨device, -, said⟩ := Option.bind_eq_some_iff.mp fault
  split at said
  · split at said
    · cases said
      exact .inl ⟨_, rfl⟩
    · obtain ⟨s, -, at_s⟩ := List.exists_of_findSome?_eq_some said
      exact sessionFault?_cases at_s
  · cases said

theorem mem_sessionsOf {net : Network} {d : DeviceId} {s : Session} :
    s ∈ net.sessionsOf d ↔ s ∈ net.sessions ∧ s.source = d := by
  simp [sessionsOf]

theorem WellFormed.target {net : Network} (wf : net.WellFormed) {s : Session}
    (mem : s ∈ net.sessions) : ∃ target, net.device? s.target = some target := by
  obtain ⟨-, -, part, -⟩ := wf.sessions s mem
  exact Option.isSome_iff_exists.mp (wf.members .bgp s.target part)

end Network

namespace Dialect

variable {net : Network} {d : DeviceId} {device : Device}

theorem failure?_sessionFinding (dialect : Dialect) {s : Session} {target : Device}
    (found : net.device? s.target = some target) :
    (dialect.sessionFinding net s).failure? = net.sessionFault? s := by
  have reached := Network.device_eq_ok.mpr found
  simp only [sessionFinding, reached, Network.sessionFault?, found, Option.bind_some]
  cases target.asn with
  | none => rfl
  | some asn =>
    simp only [peerFinding, reduceCtorEq, ↓reduceIte]
    cases s.kind with
    | ibgp => cases net.loopback? s.target <;> rfl
    | ebgp =>
      by_cases several : s.via = none ∧ 2 ≤ (net.peeringLinks s.source s.target).length
      · rw [if_pos ⟨rfl, several⟩, Network.adjacency_eq_ambiguous.mpr ⟨several.1, rfl, several.2⟩]
        rfl
      · rw [if_neg fun external => several external.2]
        cases resolved : net.adjacency s with
        | ambiguous links =>
          obtain ⟨free, rfl, many⟩ := Network.adjacency_eq_ambiguous.mp resolved
          exact absurd ⟨free, many⟩ several
        | unaddressed => rfl
        | across l near far => rfl

theorem sessionFinding_entry {dialect : Dialect} {s : Session} {peer : Peer}
    (entry : dialect.sessionFinding net s = .entry peer) :
    ∃ target asn, net.device? s.target = some target ∧ target.asn = some asn ∧
      dialect.peerFinding net s target asn = .entry peer := by
  unfold sessionFinding at entry
  split at entry
  · cases entry
  case h_2 target reached =>
    split at entry
    · cases entry
    case h_2 asn numbered => exact ⟨target, asn, Network.device_eq_ok.mp reached, numbered, entry⟩

/-- What an external session tells of its target. -/
theorem of_external_entry {dialect : Dialect} {s : Session} {e : ExternalPeer}
    (entry : dialect.sessionFinding net s = .entry (.external e)) :
    ∃ target l, net.device? s.target = some target ∧ target.asn = some e.asn ∧
      e.label = target.label ∧ e.loopback = net.loopback? s.target ∧
      net.adjacency s = .across l e.near e.far := by
  obtain ⟨target, asn, reached, numbered, found⟩ := sessionFinding_entry entry
  unfold peerFinding at found
  split at found
  · split at found <;> cases found
  · split at found
    · cases found
    · cases found
    case h_3 l near far resolved =>
      cases found
      exact ⟨target, l, reached, numbered, rfl, rfl, resolved⟩

/-- What an internal session tells of its target. -/
theorem of_internal_entry {dialect : Dialect} {s : Session} {direction : Option Direction}
    {e : InternalPeer} (entry : dialect.sessionFinding net s = .entry (.internal direction e)) :
    ∃ target, net.device? s.target = some target ∧ target.asn = some e.asn ∧
      e.label = target.label ∧ net.loopback? s.target = some e.loopback := by
  obtain ⟨target, asn, reached, numbered, found⟩ := sessionFinding_entry entry
  unfold peerFinding at found
  split at found
  · split at found
    · cases found
    case h_2 loopback known =>
      cases found
      exact ⟨target, reached, numbered, rfl, known⟩
  · split at found <;> cases found

/-- A session of a device without faults yields a peer or is left out. -/
theorem sessionFinding_of_faultless (wf : net.WellFormed) (dialect : Dialect)
    (found : net.device? d = some device) (faultless : net.bgpFault? d = none) {s : Session}
    (mem : s ∈ net.sessionsOf d) :
    ∃ target, net.device? s.target = some target ∧ ∃ asn, target.asn = some asn ∧
      net.sessionFault? s = none ∧
      dialect.sessionFinding net s = dialect.peerFinding net s target asn := by
  obtain ⟨given, rfl⟩ := Network.mem_sessionsOf.mp mem
  obtain ⟨target, reached⟩ := wf.target given
  obtain ⟨-, part, -⟩ := wf.sessions s given
  have healthy : net.sessionFault? s = none := by
    simp only [Network.bgpFault?, found, Option.bind_some, part, ↓reduceIte] at faultless
    split at faultless
    · cases faultless
    · exact List.findSome?_eq_none_iff.mp faultless s mem
  refine ⟨target, reached, ?_⟩
  cases numbered : target.asn with
  | none => simp [Network.sessionFault?, reached, numbered] at healthy
  | some asn =>
    refine ⟨asn, rfl, healthy, ?_⟩
    simp only [sessionFinding, Network.device_eq_ok.mpr reached, numbered]

/-- The peers of a device, in the order of its sessions. -/
def peersOf (dialect : Dialect) (net : Network) (d : DeviceId) : List Peer :=
  (net.sessionsOf d).filterMap fun s => (dialect.sessionFinding net s).found?

theorem mem_peersOf {dialect : Dialect} {peer : Peer} :
    peer ∈ dialect.peersOf net d ↔
      ∃ s ∈ net.sessionsOf d, dialect.sessionFinding net s = .entry peer := by
  simp only [peersOf, List.mem_filterMap, Finding.found?_eq_some]

/-- The BGP section of a device in whose way nothing stands. -/
def bgpSection? (dialect : Dialect) (net : Network) (d : DeviceId) : Option BgpSection :=
  if net.hasDevice .bgp d then
    (net.device? d).bind fun device => device.asn.map fun asn =>
      dialect.bgpSection asn ((net.blocks.get? asn).getD []) (dialect.peersOf net d)
  else none

theorem collect_sessions (wf : net.WellFormed) (dialect : Dialect) (d : DeviceId) :
    (Survey.collect ((net.sessionsOf d).map (dialect.sessionFinding net))).result =
      match (net.sessionsOf d).findSome? net.sessionFault? with
      | some c => .error c
      | none => .ok (dialect.peersOf net d) := by
  have faults : ((net.sessionsOf d).map (dialect.sessionFinding net)).findSome? Finding.failure? =
      (net.sessionsOf d).findSome? net.sessionFault? := by
    rw [List.findSome?_map]
    refine findSome?_congr fun s mem => ?_
    obtain ⟨target, found⟩ := wf.target (Network.mem_sessionsOf.mp mem).1
    exact dialect.failure?_sessionFinding found
  rw [Survey.collect_result, faults, List.filterMap_map]
  rfl

theorem surveyBgp_result (wf : net.WellFormed) (dialect : Dialect)
    (found : net.device? d = some device) :
    (dialect.surveyBgp net d).result =
      match net.bgpFault? d with
      | some c => .error c
      | none => .ok (dialect.bgpSection? net d) := by
  simp only [surveyBgp, Network.bgpFault?, bgpSection?, found, Option.bind_some]
  by_cases part : net.hasDevice .bgp d
  · simp only [part, ↓reduceIte, bgp, Network.device_eq_ok.mpr found]
    cases device.asn with
    | none => rfl
    | some asn =>
      simp only [Survey.andThen, Survey.noting, collect_sessions wf, reduceCtorEq, ↓reduceIte]
      cases (net.sessionsOf d).findSome? net.sessionFault? <;> rfl
  · simp only [part]
    rfl

/-- The section of a speaker without faults is there. -/
theorem bgpSection?_of_faultless (dialect : Dialect) (found : net.device? d = some device)
    (part : net.hasDevice .bgp d) (faultless : net.bgpFault? d = none) :
    ∃ asn, device.asn = some asn ∧ dialect.bgpSection? net d =
      some (dialect.bgpSection asn ((net.blocks.get? asn).getD []) (dialect.peersOf net d)) := by
  simp only [Network.bgpFault?, found, Option.bind_some, part, ↓reduceIte] at faultless
  cases numbered : device.asn with
  | none => simp [numbered] at faultless
  | some asn => exact ⟨asn, rfl, by simp [bgpSection?, part, found, numbered]⟩

theorem omission_mem_bgp (dialect : Dialect) {bgp : BgpSection}
    (surveyed : (dialect.bgp net d).result = .ok bgp) {s : Session} (mem : s ∈ net.sessionsOf d)
    {o : Omission} (omitted : dialect.sessionFinding net s = .omission o) :
    o ∈ (dialect.bgp net d).omissions := by
  unfold Dialect.bgp at surveyed ⊢
  split at surveyed
  · cases surveyed
  · split at surveyed
    · cases surveyed
    · obtain ⟨peers, gathered, -⟩ := Survey.andThen_ok surveyed
      refine List.mem_append_right _ ?_
      rw [Survey.andThen, Survey.collect_omissions gathered]
      exact List.mem_filterMap.mpr ⟨.omission o, List.mem_map.mpr ⟨s, mem, omitted⟩, rfl⟩

/-- An omission at a session is noted, unless a fault ends the survey. -/
theorem omission_mem_surveyBgp (dialect : Dialect) {bgp : Option BgpSection}
    (surveyed : (dialect.surveyBgp net d).result = .ok bgp) (part : net.hasDevice .bgp d)
    {s : Session} (mem : s ∈ net.sessionsOf d) {o : Omission}
    (omitted : dialect.sessionFinding net s = .omission o) :
    o ∈ (dialect.surveyBgp net d).omissions := by
  rw [surveyBgp, if_pos part] at surveyed ⊢
  obtain ⟨found, ended, -⟩ := Survey.andThen_ok surveyed
  exact omission_mem_bgp dialect ended mem omitted

theorem mem_bgpSection_externals {dialect : Dialect} {asn : AsNumber} {blocks : List Net}
    {peers : List Peer} {e : ExternalPeer} :
    e ∈ (dialect.bgpSection asn blocks peers).externals ↔ .external e ∈ peers := by
  simp only [bgpSection, (sorted_perm _ _).mem_iff, List.mem_filterMap]
  constructor
  · rintro ⟨peer, mem, same⟩
    cases peer with
    | internal direction peer => cases same
    | external peer => cases same; exact mem
  · exact fun mem => ⟨_, mem, rfl⟩

theorem mem_internals {direction : Option Direction} {peers : List Peer} {e : InternalPeer} :
    e ∈ peers.filterMap (Peer.internal? direction) ↔ .internal direction e ∈ peers := by
  simp only [List.mem_filterMap]
  constructor
  · rintro ⟨peer, mem, same⟩
    cases peer with
    | external peer => cases same
    | internal other peer =>
      rw [Peer.internal?] at same
      split at same
      case isTrue equal => cases same; rwa [← equal]
      case isFalse => cases same
  · exact fun mem => ⟨_, mem, by simp [Peer.internal?]⟩

end Dialect

end NetDesign
