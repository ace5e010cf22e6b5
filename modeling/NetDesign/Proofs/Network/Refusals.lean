import NetDesign.Proofs.Network.Step

set_option autoImplicit false

namespace NetDesign.Network

variable {net : Network}

theorem device_of_present {d : DeviceId} (present : (net.device? d).isSome) :
    ∃ device, net.device d = .ok device := by
  obtain ⟨device, found⟩ := Option.isSome_iff_exists.mp present
  exact ⟨device, device_eq_ok.mpr found⟩

theorem device_of_absent {d : DeviceId} (absent : net.device? d = none) :
    net.device d = .error (.deviceNotFound d) := by
  rw [Network.device, absent]

theorem joinBgp_of_present {d : DeviceId} (present : (net.device? d).isSome) :
    net.joinBgp d = .ok { net with speakers := net.speakers.insert d () } := by
  obtain ⟨device, found⟩ := device_of_present present
  rw [joinBgp, found]
  rfl

theorem joinBgp_of_absent {d : DeviceId} (absent : net.device? d = none) :
    net.joinBgp d = .error (.deviceNotFound d) := by
  rw [joinBgp, device_of_absent absent]
  rfl

theorem checkSession_eq_ok {s : Session} :
    net.checkSession s = .ok () ↔ s.source ≠ s.target ∧ net.Carries s := by
  constructor
  · exact of_checkSession
  · rintro ⟨apart, via⟩
    rw [checkSession, if_neg apart]
    cases named : s.via with
    | none => rfl
    | some l =>
      obtain ⟨link, found, touches⟩ := via l named
      simp only [link_eq_ok.mpr found]
      exact if_pos touches

/-- A session between two devices that are there is added if nothing else is wrong with it. -/
theorem addSession_of_checked {s : Session} (passed : net.checkSession s = .ok ())
    (source : (net.device? s.source).isSome) (target : (net.device? s.target).isSome) :
    net.addSession s =
      ({ net with
          speakers := (net.speakers.insert s.source ()).insert s.target ()
          sessions := net.sessions ++ [s] }, .ok ()) := by
  have joined (speakers : SortedMap DeviceId Unit) :
      ({ net with speakers := speakers } : Network).joinBgp s.target =
        .ok { net with speakers := speakers.insert s.target () } :=
    joinBgp_of_present target
  simp only [Network.addSession, passed, joinBgp_of_present source, joined]

theorem addSession_of_unchecked {s : Session} {e : NetworkError}
    (failed : net.checkSession s = .error e) : net.addSession s = (net, .error e) := by
  simp only [Network.addSession, failed]

/-- A session with which nothing is wrong but that its target is missing. -/
structure TargetMissing (net : Network) (s : Session) : Prop where
  apart : s.source ≠ s.target
  via : net.Carries s
  source : (net.device? s.source).isSome
  target : net.device? s.target = none

theorem TargetMissing.addSession {s : Session} (missing : net.TargetMissing s) :
    net.addSession s =
      ({ net with speakers := net.speakers.insert s.source () },
        .error (.deviceNotFound s.target)) := by
  have passed : net.checkSession s = .ok () :=
    checkSession_eq_ok.mpr ⟨missing.apart, missing.via⟩
  have refused (joined : SortedMap DeviceId Unit) :
      ({ net with speakers := joined } : Network).joinBgp s.target =
        .error (.deviceNotFound s.target) :=
    joinBgp_of_absent missing.target
  simp only [Network.addSession, passed, joinBgp_of_present missing.source, refused]

/-- Every other session is refused before anything is done for it. -/
theorem addSession_refused {s : Session} {e : NetworkError}
    (refused : (net.addSession s).2 = .error e) :
    net.TargetMissing s ∨ (net.addSession s).1 = net := by
  cases checked : net.checkSession s with
  | error f =>
    right
    rw [addSession_of_unchecked checked]
  | ok _ =>
    obtain ⟨apart, via⟩ := checkSession_eq_ok.mp checked
    cases source : net.device? s.source with
    | none =>
      right
      simp only [Network.addSession, checked, joinBgp_of_absent source]
    | some _ =>
      have present := Option.isSome_of_eq_some source
      cases target : net.device? s.target with
      | none => exact .inl ⟨apart, via, present, target⟩
      | some _ =>
        rw [addSession_of_checked checked present (Option.isSome_of_eq_some target)] at refused
        cases refused

theorem settle_refused {result : Except NetworkError Network} {e : NetworkError}
    (refused : (net.settle result).2 = .error e) : (net.settle result).1 = net := by
  cases result with
  | error _ => rfl
  | ok changed => cases refused

/-- Only a session can be refused after something was done for it. -/
theorem apply_refused {change : Change} {e : NetworkError}
    (refused : (net.apply change).2 = .error e) :
    (∃ s, change = .addSession s ∧ net.TargetMissing s) ∨ (net.apply change).1 = net := by
  cases change with
  | addDevice device => cases refused
  | setBlocks asn blocks => cases refused
  | addUniqueDevice device =>
    right
    simp only [apply] at refused ⊢
    split at refused
    · rfl
    · cases refused
  | addLink a b =>
    right
    simp only [apply] at refused ⊢
    split at refused
    · rfl
    · cases refused
  | addSession s =>
    have told : (net.addSession s).2 = .error e := by
      simp only [apply] at refused
      cases result : (net.addSession s).2 with
      | error f =>
        rw [result] at refused
        cases refused
        rfl
      | ok _ =>
        rw [result] at refused
        cases refused
    rcases addSession_refused told with missing | same
    · exact .inl ⟨s, rfl, missing⟩
    · exact .inr same
  | _ => exact .inr (settle_refused refused)

theorem TargetMissing.apply {s : Session} (missing : net.TargetMissing s) :
    net.apply (.addSession s) =
      ({ net with speakers := net.speakers.insert s.source () },
        .error (.deviceNotFound s.target)) := by
  simp only [Network.apply, missing.addSession]
  rfl

theorem insert_speaker_eq_self {d : DeviceId} :
    ({ net with speakers := net.speakers.insert d () } : Network) = net ↔
      net.hasDevice .bgp d := by
  constructor
  · intro same
    rw [← same]
    exact (SortedMap.contains_insert net.speakers d d ()).mpr (.inl rfl)
  · intro part
    obtain ⟨_, held⟩ := Option.isSome_iff_exists.mp part
    rw [SortedMap.insert_of_get? held]

/-- What a refused change leaves: the network as it was, unless it is a session that only lacks its
target. Such a session leaves its source in the BGP layer, and so the network as it was exactly if
the source was part of the layer before. -/
theorem refused_change_leaves {net : Network} {change : Change} {e : NetworkError}
    (refused : (net.apply change).2 = .error e) :
    ((net.apply change).1 = net ↔
      ∀ s, change = .addSession s → net.TargetMissing s → net.hasDevice .bgp s.source) ∧
    ∀ s, change = .addSession s → net.TargetMissing s →
      e = .deviceNotFound s.target ∧
        (net.apply change).1 = { net with speakers := net.speakers.insert s.source () } := by
  refine ⟨⟨?_, fun speaking => ?_⟩, ?_⟩
  · rintro same s rfl missing
    rw [missing.apply] at same
    exact insert_speaker_eq_self.mp same
  · rcases apply_refused refused with ⟨s, rfl, missing⟩ | same
    · rw [missing.apply]
      exact insert_speaker_eq_self.mpr (speaking s rfl missing)
    · exact same
  · rintro s rfl missing
    rw [missing.apply] at refused ⊢
    cases refused
    exact ⟨rfl, rfl⟩

def loneRouter : Device where
  name := "a"
  label := "a"
  kind := .router
  asn := some 1
  dialect := some .quagga
  platform := some .netkit
  host := some "lab"

/-- A network of one router. -/
def lone : Network := Network.empty.after [.addDevice loneRouter]

/-- A session of the lone router, to a device that is not there. -/
def sessionNowhere : Session := ⟨⟨0⟩, ⟨1⟩, .ebgp, none, none⟩

theorem sessionNowhere_targetMissing : lone.TargetMissing sessionNowhere where
  apart := by decide
  via := by
    intro l named
    cases named
  source := rfl
  target := rfl

theorem sessionNowhere_refused :
    (lone.apply (.addSession sessionNowhere)).2 = .error (.deviceNotFound ⟨1⟩) := by
  rw [sessionNowhere_targetMissing.apply]
  rfl

theorem lone_after_sessionNowhere :
    (lone.apply (.addSession sessionNowhere)).2 = .error (.deviceNotFound ⟨1⟩) ∧
      ¬ lone.hasDevice .bgp ⟨0⟩ ∧
      (lone.apply (.addSession sessionNowhere)).1 ≠ lone := by
  have silent : ¬ lone.hasDevice .bgp ⟨0⟩ := by decide +kernel
  have leaves := refused_change_leaves sessionNowhere_refused
  refine ⟨sessionNowhere_refused, silent, fun same => ?_⟩
  exact silent (leaves.1.mp same sessionNowhere rfl sessionNowhere_targetMissing)

/-- Not every refused change leaves a network as it was. -/
theorem refused_session_is_not_undone :
    ¬ ∀ (net : Network) (change : Change) (e : NetworkError), net.Reachable →
      (net.apply change).2 = .error e → (net.apply change).1 = net := by
  intro kept
  have same := kept lone (.addSession sessionNowhere) _ ⟨_, rfl⟩ sessionNowhere_refused
  have changed : (lone.apply (.addSession sessionNowhere)).1 ≠ lone := by decide +kernel
  exact changed same

end NetDesign.Network
