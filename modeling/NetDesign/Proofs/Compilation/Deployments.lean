import NetDesign.Compilation
import NetDesign.Proofs.Deployment.Roster

set_option autoImplicit false

namespace NetDesign

namespace Platform

/-- The dialects that run on a platform. -/
def dialects : Platform → List Dialect
  | junosphere => [.junos]
  | netkit => [.quagga]
  | cisco => [.ios, .ios2]
  | dynagen => [.ios]

theorem map_dialect_profiles (p : Platform) : p.profiles.map (·.dialect) = p.dialects := by
  cases p <;> rfl

/-- The place of a platform among those of one host. -/
def place : Platform → Nat
  | junosphere => 0
  | netkit => 1
  | cisco => 2
  | dynagen => 3

theorem all_ascending : all.Pairwise fun p q => p.place < q.place := by decide

theorem mem_all (p : Platform) : p ∈ all := by
  cases p <;> decide

end Platform

/-- Deployments are ordered by host, then by platform. -/
def Precedes (a b : String × Platform) : Prop :=
  compare a.1 b.1 = .lt ∨ a.1 = b.1 ∧ a.2.place < b.2.place

theorem Precedes.ne {a b : String × Platform} (before : Precedes a b) : a ≠ b := by
  rintro rfl
  rcases before with lower | ⟨-, lower⟩
  · simp at lower
  · omega

namespace Network

variable {net : Network}

theorem mem_hosts {h : String} : h ∈ net.hosts ↔ ∃ device ∈ net.devices, device.host = some h := by
  rw [hosts, SortedMap.mem_keys, SortedMap.ofList, SortedMap.contains_insertAll]
  simp [SortedMap.contains]

/-- Hosts are listed in ascending order. -/
theorem hosts_ascending (net : Network) :
    net.hosts.Pairwise fun a b => compare a b = .lt := by
  rw [hosts, SortedMap.keys, List.pairwise_map]
  exact SortedMap.ascending _

theorem declares_iff {h : String} {p : Platform} :
    net.declares h p ↔ ∃ device ∈ net.devices,
      device.isRouter ∧ device.host = some h ∧ device.platform = some p := by
  simp [declares, and_assoc]

theorem mem_deployments {h : String} {p : Platform} :
    (h, p) ∈ net.deployments ↔ net.declares h p := by
  simp only [deployments, List.mem_flatMap, List.mem_map, List.mem_filter, Prod.mk.injEq]
  constructor
  · rintro ⟨_, -, _, ⟨-, declared⟩, rfl, rfl⟩
    exact declared
  · intro declared
    obtain ⟨device, mem, -, located, -⟩ := declares_iff.mp declared
    exact ⟨h, mem_hosts.mpr ⟨device, mem, located⟩, p, ⟨p.mem_all, declared⟩, rfl, rfl⟩

theorem deployments_ascending (net : Network) : net.deployments.Pairwise Precedes := by
  rw [deployments, List.pairwise_flatMap]
  constructor
  · intro h _
    rw [List.pairwise_map]
    exact (Platform.all_ascending.filter _).imp fun lower => .inr ⟨rfl, lower⟩
  · refine net.hosts_ascending.imp fun lower a first b second => .inl ?_
    obtain ⟨p, -, rfl⟩ := List.mem_map.mp first
    obtain ⟨q, -, rfl⟩ := List.mem_map.mp second
    exact lower

theorem mem_deploymentsOn {host : Option String} {h : String} {p : Platform} :
    (h, p) ∈ net.deploymentsOn host ↔
      net.declares h p ∧ ∀ chosen, host = some chosen → h = chosen := by
  rw [deploymentsOn, List.mem_filter, mem_deployments]
  cases host with
  | none => simp
  | some chosen => simp [eq_comm (a := chosen)]

theorem deploymentsOn_ascending (net : Network) (host : Option String) :
    (net.deploymentsOn host).Pairwise Precedes :=
  net.deployments_ascending.filter _

/-- The device is a router on the host, in a dialect of the platform, and declares no other
platform. -/
def Deploys (net : Network) (h : String) (p : Platform) (d : DeviceId) : Prop :=
  ∃ device, net.device? d = some device ∧ device.isRouter ∧ device.host = some h ∧
    (∃ dialect ∈ p.dialects, device.dialect = some dialect) ∧
    (device.platform = none ∨ device.platform = some p)

theorem deploys_iff {h : String} {p : Platform} {d : DeviceId} {device : Device}
    (found : net.device? d = some device) :
    net.Deploys h p d ↔ device.isRouter ∧ device.host = some h ∧
      (∃ dialect ∈ p.dialects, device.dialect = some dialect) ∧
      (device.platform = none ∨ device.platform = some p) := by
  simp [Deploys, found]

theorem mem_roster_ids {h : String} {p : Platform} {d : DeviceId} :
    d ∈ (p.roster h net).map (·.id) ↔ net.Deploys h p d := by
  simp only [List.mem_map, Platform.mem_roster, mem_selection, Deploys,
    ← Platform.map_dialect_profiles]
  constructor
  · rintro ⟨⟨profile, _, device⟩, ⟨listed, found, router, spoken, located, declared⟩, rfl⟩
    refine ⟨device, found, router, located, ⟨profile.dialect, ⟨profile, listed, rfl⟩, spoken⟩, ?_⟩
    cases chosen : device.platform with
    | none => exact .inl rfl
    | some other => rw [declared other chosen]; exact .inr rfl
  · rintro ⟨device, found, router, located, ⟨_, ⟨profile, listed, rfl⟩, spoken⟩, declared⟩
    refine ⟨⟨profile, d, device⟩, ⟨listed, found, router, spoken, located, fun other chosen => ?_⟩,
      rfl⟩
    rcases declared with unset | same
    · rw [unset] at chosen
      cases chosen
    · rw [same] at chosen
      exact (Option.some.inj chosen).symm

/-- The only dialect that runs on two platforms is that of IOS. -/
theorem eq_ios_of_mem_dialects {dialect : Dialect} {p q : Platform} (first : dialect ∈ p.dialects)
    (second : dialect ∈ q.dialects) (differ : p ≠ q) :
    dialect = .ios ∧ (p = .cisco ∧ q = .dynagen ∨ p = .dynagen ∧ q = .cisco) := by
  cases p <;> cases q <;> simp_all [Platform.dialects]

/-- The device is an IOS router that leaves its platform open, on a host that is deployed both on
Cisco equipment and on Dynagen. -/
def shared (net : Network) (host : Option String) (d : DeviceId) : Bool :=
  (net.device? d).any fun device =>
    device.isRouter && device.dialect = some .ios && device.platform = none &&
      device.host.any fun h =>
        (h, .cisco) ∈ net.deploymentsOn host && (h, .dynagen) ∈ net.deploymentsOn host

theorem shared_iff {host : Option String} {d : DeviceId} :
    net.shared host d ↔ ∃ device h, net.device? d = some device ∧ device.isRouter ∧
      device.dialect = some .ios ∧ device.platform = none ∧ device.host = some h ∧
      (h, .cisco) ∈ net.deploymentsOn host ∧ (h, .dynagen) ∈ net.deploymentsOn host := by
  simp only [shared, Option.any_eq_true, Bool.and_eq_true, decide_eq_true_eq, and_assoc]
  constructor
  · rintro ⟨device, found, router, spoken, unset, h, located, cisco, dynagen⟩
    exact ⟨device, h, found, router, spoken, unset, located, cisco, dynagen⟩
  · rintro ⟨device, h, found, router, spoken, unset, located, cisco, dynagen⟩
    exact ⟨device, found, router, spoken, unset, h, located, cisco, dynagen⟩

/-- The deployments that take up a device. -/
def selecting (net : Network) (host : Option String) (d : DeviceId) : List (String × Platform) :=
  (net.deploymentsOn host).filter fun (h, p) => d ∈ (p.roster h net).map (·.id)

theorem mem_selecting {host : Option String} {d : DeviceId} {h : String} {p : Platform} :
    (h, p) ∈ net.selecting host d ↔ (h, p) ∈ net.deploymentsOn host ∧ net.Deploys h p d := by
  simp only [selecting, List.mem_filter, decide_eq_true_eq, mem_roster_ids]

theorem selecting_nodup (net : Network) (host : Option String) (d : DeviceId) :
    (net.selecting host d).Nodup :=
  ((net.deploymentsOn_ascending host).imp Precedes.ne).filter _

theorem selecting_of_shared {host : Option String} {d : DeviceId} (both : net.shared host d) :
    (net.selecting host d).length = 2 := by
  obtain ⟨device, h, found, router, spoken, unset, located, cisco, dynagen⟩ := shared_iff.mp both
  have pair : (net.selecting host d).Perm [(h, .cisco), (h, .dynagen)] := by
    refine (List.perm_ext_iff_of_nodup (net.selecting_nodup host d) (by simp)).mpr ?_
    rintro ⟨k, p⟩
    simp only [mem_selecting, deploys_iff found, router, located, spoken, unset, List.mem_cons,
      Prod.mk.injEq, List.not_mem_nil, or_false]
    constructor
    · rintro ⟨-, -, same, ⟨dialect, runs, ios⟩, -⟩
      cases ios
      cases p <;> simp_all [Platform.dialects]
    · rintro (⟨rfl, rfl⟩ | ⟨rfl, rfl⟩)
      · exact ⟨cisco, trivial, rfl, ⟨.ios, by decide, rfl⟩, .inl trivial⟩
      · exact ⟨dynagen, trivial, rfl, ⟨.ios, by decide, rfl⟩, .inl trivial⟩
  rw [pair.length_eq]
  rfl

theorem eq_of_mem_selecting {host : Option String} {d : DeviceId}
    (single : ¬ net.shared host d) {a b : String × Platform} (first : a ∈ net.selecting host d)
    (second : b ∈ net.selecting host d) : a = b := by
  obtain ⟨h, p⟩ := a
  obtain ⟨k, q⟩ := b
  obtain ⟨listed, device, found, router, located, ⟨dialect, runs, spoken⟩, free⟩ :=
    mem_selecting.mp first
  obtain ⟨listedAgain, deploysAgain⟩ := mem_selecting.mp second
  obtain ⟨-, locatedAgain, ⟨again, runsAgain, spokenAgain⟩, freeAgain⟩ :=
    (deploys_iff found).mp deploysAgain
  rw [located, Option.some.injEq] at locatedAgain
  rw [spoken, Option.some.injEq] at spokenAgain
  subst locatedAgain spokenAgain
  by_contra differ
  have apart : p ≠ q := fun equal => differ (congrArg (h, ·) equal)
  obtain ⟨rfl, ends⟩ := eq_ios_of_mem_dialects runs runsAgain apart
  have unset : device.platform = none := by
    rcases free with unset | declared
    · exact unset
    · rcases freeAgain with unset | other
      · exact unset
      · rw [declared, Option.some.injEq] at other
        exact absurd other apart
  refine single (shared_iff.mpr ⟨device, h, found, router, spoken, unset, located, ?_⟩)
  rcases ends with ⟨rfl, rfl⟩ | ⟨rfl, rfl⟩
  · exact ⟨listed, listedAgain⟩
  · exact ⟨listedAgain, listed⟩

theorem selecting_of_not_shared {host : Option String} {d : DeviceId}
    (single : ¬ net.shared host d) : (net.selecting host d).length ≤ 1 := by
  have same := fun a first b second => eq_of_mem_selecting single (a := a) (b := b) first second
  have nodup := net.selecting_nodup host d
  generalize net.selecting host d = items at same nodup
  match items with
  | [] => simp
  | [_] => simp
  | a :: b :: rest =>
    have equal := same a (by simp) b (by simp)
    simp [equal] at nodup

/-- A device is taken up by two deployments if it is shared, and by one or none otherwise. -/
theorem length_selecting (net : Network) (host : Option String) (d : DeviceId) :
    (net.selecting host d).length =
      (if net.selecting host d = [] then 0 else 1) + if net.shared host d then 1 else 0 := by
  by_cases both : net.shared host d
  · have two := selecting_of_shared both
    have some : net.selecting host d ≠ [] := List.ne_nil_of_length_pos (by omega)
    rw [if_neg some, if_pos both, two]
  · have most := selecting_of_not_shared both
    rw [if_neg both]
    split
    case isTrue none => rw [none]; rfl
    case isFalse some =>
      have least := List.length_pos_of_ne_nil some
      omega

end Network

end NetDesign
