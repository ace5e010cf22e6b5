import NetDesign.Deployment
import NetDesign.Proofs.Network.WellFormed
import Mathlib.Data.List.Nodup

set_option autoImplicit false

namespace NetDesign

namespace Network

variable {net : Network}

theorem mem_numberedDevices {d : DeviceId} {device : Device} :
    (d, device) ∈ net.numberedDevices ↔ net.device? d = some device := by
  rw [numberedDevices, mem_numbered]
  constructor
  · rintro ⟨n, found, rfl⟩
    exact found
  · exact fun found => ⟨d.index, found, rfl⟩

theorem mem_selection {host : String} {p : Platform} {dialect : Dialect} {d : DeviceId}
    {device : Device} :
    (d, device) ∈ net.selection host p dialect ↔
      net.device? d = some device ∧ device.isRouter ∧ device.dialect = some dialect ∧
        device.host = some host ∧ ∀ other, device.platform = some other → other = p := by
  rw [selection, List.mem_filter, mem_numberedDevices]
  simp only [Bool.and_eq_true, decide_eq_true_eq, and_assoc]
  cases device.platform <;> simp

theorem selection_ascending (net : Network) (host : String) (p : Platform) (dialect : Dialect) :
    (net.selection host p dialect).Pairwise fun a b => a.1.index < b.1.index := by
  have all : net.numberedDevices.Pairwise fun a b => a.1.index < b.1.index := by
    have numbers : (net.numberedDevices.map (·.1)).Pairwise fun d e => d.index < e.index := by
      rw [numberedDevices, map_fst_numbered, List.pairwise_map]
      exact List.pairwise_lt_range
    rwa [List.pairwise_map] at numbers
  exact all.filter _

theorem selection_nodup (net : Network) (host : String) (p : Platform) (dialect : Dialect) :
    ((net.selection host p dialect).map (·.1)).Nodup :=
  List.pairwise_map.mpr ((net.selection_ascending host p dialect).imp fun lower same =>
    Nat.ne_of_lt lower (congrArg DeviceId.index same))

end Network

namespace Platform

variable {p : Platform} {host : String} {net : Network}

theorem mem_roster {s : Selected} :
    s ∈ p.roster host net ↔
      s.profile ∈ p.profiles ∧ (s.id, s.device) ∈ net.selection host p s.profile.dialect := by
  simp only [roster, List.mem_flatMap, List.mem_map]
  constructor
  · rintro ⟨profile, listed, ⟨d, device⟩, selected, rfl⟩
    exact ⟨listed, selected⟩
  · rintro ⟨listed, selected⟩
    exact ⟨s.profile, listed, (s.id, s.device), selected, rfl⟩

theorem device?_of_mem_roster {s : Selected} (mem : s ∈ p.roster host net) :
    net.device? s.id = some s.device :=
  (Network.mem_selection.mp (mem_roster.mp mem).2).1

theorem profiles_apart (p : Platform) :
    p.profiles.Pairwise fun first second => first.dialect ≠ second.dialect := by
  cases p <;> decide

theorem roster_nodup (p : Platform) (host : String) (net : Network) :
    ((p.roster host net).map (·.id)).Nodup := by
  have ids : (p.roster host net).map (·.id) =
      p.profiles.flatMap fun profile => (net.selection host p profile.dialect).map (·.1) := by
    simp only [roster, List.map_flatMap, List.map_map, Function.comp_def]
  rw [ids, List.nodup_flatMap]
  refine ⟨fun profile _ => net.selection_nodup host p profile.dialect, ?_⟩
  refine p.profiles_apart.imp fun apart => ?_
  intro d first second
  obtain ⟨⟨_, device⟩, selected, rfl⟩ := List.mem_map.mp first
  obtain ⟨⟨_, other⟩, again, same⟩ := List.mem_map.mp second
  obtain ⟨found, -, spoken, -⟩ := Network.mem_selection.mp selected
  obtain ⟨foundAgain, -, spokenAgain, -⟩ := Network.mem_selection.mp again
  simp only at same
  rw [same, found, Option.some.injEq] at foundAgain
  rw [← foundAgain, spoken, Option.some.injEq] at spokenAgain
  exact apart spokenAgain

end Platform

end NetDesign
