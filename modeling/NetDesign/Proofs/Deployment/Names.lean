import NetDesign.Proofs.Deployment.Management
import NetDesign.Proofs.Deployment.Wires
import NetDesign.Proofs.Interface.Scheme

set_option autoImplicit false

namespace NetDesign

namespace DeviceRecord

/-- The links of the device have identifiers that ascend with them, and the interfaces on links
stand in the same order, each under the name of its link. -/
structure Named (record : DeviceRecord) (net : Network) : Prop where
  linked : ∀ l, record.interfaceIds.contains l ↔ l ∈ net.linksOf record.id
  ascending : ∀ k l a b, record.interfaceIds.get? k = some a →
    record.interfaceIds.get? l = some b → k.index < l.index → a.position < b.position
  listed : ∀ i ∈ record.interfaces, ∀ l, i.link = some l →
    ∃ id, record.interfaceIds.get? l = some id ∧ i.name = id.name
  ordered : record.interfaces.Pairwise fun i j => ∀ k l a b, i.link = some k → j.link = some l →
    record.interfaceIds.get? k = some a → record.interfaceIds.get? l = some b →
    k.index < l.index ∧ a.position < b.position

namespace Wired

variable {record : DeviceRecord} {dialect : Dialect} {scheme : Scheme} {net : Network}

theorem contains_iff (wired : record.Wired dialect scheme net) (complete : record.NamesLinks net)
    (l : LinkId) : record.interfaceIds.contains l ↔ l ∈ net.linksOf record.id := by
  constructor
  · intro held
    obtain ⟨id, named⟩ := Option.isSome_iff_exists.mp held
    exact Supply.fst_mem_of_mem_assign (wired.mem_assign named)
  · intro mem
    obtain ⟨id, named⟩ := complete l mem
    exact Option.isSome_iff_exists.mpr ⟨id, named⟩

theorem links_ordered (wired : record.Wired dialect scheme net) :
    record.interfaces.Pairwise fun i j => ∀ k l, i.link = some k → j.link = some l →
      k.index < l.index := by
  obtain ⟨label, loopbacks, listed, links, bare, -⟩ := wired.interfaces_eq
  have ordered := Dialect.entries_of_links_ascending links
  rw [listed, List.pairwise_append, List.pairwise_map]
  -- the interfaces of links come first, and the loopbacks behind them have no link
  refine ⟨ordered.imp fun lower k l first second => lower k first l second, ?_, ?_⟩
  · refine List.pairwise_of_forall_mem_list fun i mem j _ k l first _ => ?_
    rw [bare i mem] at first
    cases first
  · intro i _ j mem k l _ second
    rw [bare j mem] at second
    cases second

theorem named (wired : record.Wired dialect scheme net) (complete : record.NamesLinks net) :
    record.Named net where
  linked := wired.contains_iff complete
  ascending := fun k l a b first second lower => wired.position_lt first second lower
  listed := by
    intro i mem l link
    rcases Dialect.wires_of_mem_interfaces wired.interfaces mem with ⟨k, id, wires⟩ | ⟨bare, -⟩
    · obtain rfl := Option.some.inj (wires.link.symm.trans link)
      exact ⟨id, wires.named, wires.name⟩
    · rw [bare] at link
      cases link
  ordered := wired.links_ordered.imp fun lower k l a b first second one other =>
    ⟨lower k l first second, wired.position_lt one other (lower k l first second)⟩

/-- The names of the links are those of the numbers that were given out. -/
theorem names_perm (wired : record.Wired dialect scheme net) :
    (record.interfaceIds.values.map (·.name)).Perm
      (((Supply.ofScheme scheme).assign (net.linksOf record.id)).1.map
        fun e => scheme.name e.2.position) := by
  have named : ∀ e ∈ ((Supply.ofScheme scheme).assign (net.linksOf record.id)).1,
      e.2.name = scheme.name e.2.position :=
    fun e mem => ((Supply.assign_ascending _ _).1 e mem).name
  rw [← List.map_congr_left named, wired.names, SortedMap.values, List.map_map]
  exact (SortedMap.toList_ofList_perm (links_nodup scheme net record.id)).map _

theorem names_nodup (wired : record.Wired dialect scheme net) :
    (record.interfaceIds.values.map (·.name)).Nodup := by
  rw [wired.names_perm.nodup_iff]
  refine List.pairwise_map.mpr ((Supply.assign_ascending _ _).2.imp fun lower same => ?_)
  have equal := scheme.name_injective same
  omega

end Wired

end DeviceRecord

namespace Platform

variable {p : Platform} {net : Network} {host : String} {settings : Settings} {inv : Inventory}

end Platform

end NetDesign
