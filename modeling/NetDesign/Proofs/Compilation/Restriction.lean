import NetDesign.Compilation
import NetDesign.Proofs.Deployment.Locality

set_option autoImplicit false

namespace NetDesign

namespace Network

/-- The host that a device declares. -/
def hostOf? (net : Network) (d : DeviceId) : Option String := (net.device? d).bind (·.host)

theorem hostOf?_of_mem_roster {net : Network} {p : Platform} {host : String} {d : DeviceId}
    (mem : d ∈ (p.roster host net).map (·.id)) : net.hostOf? d = some host := by
  obtain ⟨s, listed, rfl⟩ := List.mem_map.mp mem
  obtain ⟨found, -, -, located, -⟩ := mem_selection.mp (Platform.mem_roster.mp listed).2
  rw [hostOf?, found, Option.bind_some, located]

end Network

namespace Compilation

/-- The one compilation is the part of the other that is about a host: its reports, the records of
its devices and its lab. -/
structure Restricts (part full : Compilation) (net : Network) (host : String) : Prop where
  timestamp : part.inventory.timestamp = full.inventory.timestamp
  reports : part.reports = full.reports.filter fun r => r.host = host
  records : ∀ d, part.inventory.records.get? d =
    if net.hostOf? d = some host then full.inventory.records.get? d else none
  labs : ∀ h, part.inventory.labs.get? h =
    if h = host then full.inventory.labs.get? h else none

variable {part full : Compilation} {net : Network} {host : String}

theorem empty_restricts (timestamp : String) (net : Network) (host : String) :
    Restricts ⟨.empty timestamp, []⟩ ⟨.empty timestamp, []⟩ net host where
  timestamp := rfl
  reports := rfl
  records _ := (ite_self none).symm
  labs _ := (ite_self none).symm

/-- A deployment on another host changes nothing of the part. -/
theorem Restricts.extend_of_ne (restricts : part.Restricts full net host) (settings : Settings)
    {other : String} (differ : other ≠ host) (p : Platform) :
    part.Restricts (full.extend net settings (other, p)) net host := by
  rw [extend_eq]
  refine ⟨?_, ?_, fun d => ?_, fun h => ?_⟩
  · rw [p.timestamp_deploy]
    exact restricts.timestamp
  · have elsewhere : (p.deploy other net settings full.inventory).2.host ≠ host := by
      rw [(Prod.mk.inj (p.target_deploy other net settings full.inventory)).1]
      exact differ
    rw [List.filter_append, ← restricts.reports]
    simp [elsewhere]
  · rw [restricts.records]
    by_cases here : net.hostOf? d = some host
    · have absent : d ∉ (p.roster other net).map (·.id) := by
        intro mem
        rw [Network.hostOf?_of_mem_roster mem, Option.some.injEq] at here
        exact differ here
      rw [if_pos here, if_pos here, Platform.records_deploy_of_not_mem absent]
    · rw [if_neg here, if_neg here]
  · rw [restricts.labs]
    by_cases same : h = host
    · rw [if_pos same, if_pos same, Platform.labs_deploy_of_ne (same.trans_ne differ.symm)]
    · rw [if_neg same, if_neg same]

/-- A deployment on the host extends the part as it extends the whole. -/
theorem Restricts.extend (restricts : part.Restricts full net host) (settings : Settings)
    (p : Platform) :
    (part.extend net settings (host, p)).Restricts (full.extend net settings (host, p)) net
      host := by
  have agree : Inventory.AgreeOn (fun d => net.hostOf? d = some host) part.inventory
      full.inventory :=
    ⟨restricts.timestamp, fun d here => by rw [restricts.records, if_pos here]⟩
  have within : ∀ d ∈ (p.roster host net).map (·.id), net.hostOf? d = some host := fun _ mem =>
    Network.hostOf?_of_mem_roster mem
  obtain ⟨agreeAfter, reports, lab⟩ := Platform.deploy_congr settings agree within
  have onHost := (Prod.mk.inj (p.target_deploy host net settings full.inventory)).1
  rw [extend_eq, extend_eq]
  refine ⟨agreeAfter.timestamp, ?_, fun d => ?_, fun h => ?_⟩
  · rw [List.filter_append, ← restricts.reports, ← reports]
    rw [← reports] at onHost
    simp [onHost]
  · by_cases here : net.hostOf? d = some host
    · rw [if_pos here]
      exact agreeAfter.records d here
    · have absent : d ∉ (p.roster host net).map (·.id) := fun mem =>
        here (Network.hostOf?_of_mem_roster mem)
      have before := restricts.records d
      rw [if_neg here] at before ⊢
      exact (Platform.records_deploy_of_not_mem absent settings part.inventory).trans before
  · have before := restricts.labs h
    by_cases same : h = host
    · rw [if_pos same] at before ⊢
      subst same
      by_cases machine : p = .netkit
      · exact lab machine
      · simp only [Platform.labs_deploy_of_ne_netkit machine, before]
    · rw [if_neg same] at before ⊢
      exact (Platform.labs_deploy_of_ne same p net settings part.inventory).trans before

theorem Restricts.foldl (restricts : part.Restricts full net host) (settings : Settings)
    (deployments : List (String × Platform)) :
    ((deployments.filter fun deployment => host = deployment.1).foldl
      (Compilation.extend net settings) part).Restricts
        (deployments.foldl (Compilation.extend net settings) full) net host := by
  induction deployments generalizing part full with
  | nil => exact restricts
  | cons deployment rest ih =>
    obtain ⟨other, p⟩ := deployment
    by_cases same : host = other
    · subst same
      rw [List.filter_cons_of_pos (by simp), List.foldl_cons, List.foldl_cons]
      exact ih (restricts.extend settings p)
    · rw [List.filter_cons_of_neg (by simpa using same), List.foldl_cons]
      exact ih (restricts.extend_of_ne settings (Ne.symm same) p)

end Compilation

namespace Network

/-- To compile one host gives the part of the whole compilation that is about it: the same reports
in the same order, the same records of its devices, and its lab, if there is one. -/
theorem compile_host_restricts (net : Network) (settings : Settings) (host timestamp : String) :
    (net.compile settings (some host) timestamp).Restricts (net.compile settings none timestamp)
      net host := by
  have all : net.deploymentsOn none = net.deployments := List.filter_eq_self.mpr fun _ _ => rfl
  unfold compile
  rw [all]
  exact (Compilation.empty_restricts timestamp net host).foldl settings net.deployments

end Network

end NetDesign
