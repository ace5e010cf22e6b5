import NetDesign.Proofs.Description.Sessions

set_option autoImplicit false

namespace NetDesign.Description

theorem foldl_setBlocks (entries : List (AsNumber × List Net)) (net : Network) :
    entries.foldl (fun net (asn, blocks) => net.setBlocks asn blocks) net =
      { net with blocks := net.blocks.insertAll entries } := by
  induction entries generalizing net with
  | nil => rfl
  | cons entry rest ih =>
    rw [List.foldl_cons, ih]
    rfl

/-- Blocks do not touch on anything else. -/
theorem Mirrors.withBlocks {desc : Description} {net : Network}
    (mirrors : (part desc.devices desc.links desc.sessions).Mirrors net) :
    desc.Mirrors
      (desc.blocks.toList.foldl (fun net (asn, blocks) => net.setBlocks asn blocks) net) := by
  rw [foldl_setBlocks]
  have blank : net.blocks = .empty := mirrors.blocks
  exact
    { mirrors with
      blocks := by
        rw [blank]
        exact desc.blocks.ofList_toList }

theorem build_decided (desc : Description) : DecidedBy desc.fault? desc.Mirrors desc.build := by
  -- The blocks come last and are never at fault.
  have faults : desc.fault? =
      (firstFault? DeviceItem.fault? [] desc.devices).or
        ((firstFault? (LinkItem.fault? desc.devices) [] desc.links).or
          ((firstFault? (fun _ => SessionItem.fault? desc.devices desc.links) []
            desc.sessions).or none)) := by
    rw [Option.or_none]
    rfl
  rw [faults]
  refine (DecidedBy.foldlM DeviceItem.addTo_decided desc.devices empty_mirrors).bind ?_
  intro net devices
  refine (DecidedBy.foldlM (LinkItem.addTo_decided desc.devices) desc.links devices).bind ?_
  intro net links
  refine (DecidedBy.foldlM (SessionItem.addTo_decided desc.devices desc.links) desc.sessions
    links).bind ?_
  intro net sessions
  exact ⟨rfl, Mirrors.withBlocks sessions⟩

/-- Sets with the same members are equal. -/
theorem ext_contains {ι : Type} [Ord ι] [Std.TransOrd ι] [Std.LawfulEqOrd ι]
    {m n : SortedMap ι Unit} (same : ∀ key, m.contains key ↔ n.contains key) : m = n := by
  apply SortedMap.ext_get?
  intro key
  have members := same key
  simp only [SortedMap.contains] at members
  cases held : m.get? key <;> cases other : n.get? key <;> simp_all

theorem DeviceItem.Describes.unique {item : DeviceItem} {first second : Device}
    (one : item.Describes first) (other : item.Describes second) : first = second := by
  obtain ⟨name, label, kind, asn, dialect, platform, host⟩ := one
  obtain ⟨name', label', kind', asn', dialect', platform', host'⟩ := other
  cases first
  cases second
  simp_all

theorem LinkItem.Describes.unique {devices : List DeviceItem} {item : LinkItem}
    {first second : Link} (one : item.Describes devices first)
    (other : item.Describes devices second) : first = second := by
  have source := one.source.symm.trans other.source
  have target := one.target.symm.trans other.target
  cases first
  cases second
  simp_all

theorem IpItem.Describes.unique {devices : List DeviceItem} {item : IpItem}
    {first second : IpEdge} (one : item.Describes devices first)
    (other : item.Describes devices second) : first = second := by
  have subnet := one.subnet.trans other.subnet.symm
  have addresses : first.addresses = second.addresses := by
    apply SortedMap.ext_get?
    intro d
    apply Option.ext
    intro address
    rw [one.addresses, other.addresses]
  cases first
  cases second
  simp_all

theorem SessionItem.Describes.unique {devices : List DeviceItem} {item : SessionItem}
    {first second : Session} (one : item.Describes devices first)
    (other : item.Describes devices second) : first = second := by
  have source := one.source.symm.trans other.source
  have target := one.target.symm.trans other.target
  obtain ⟨-, -, kind, direction, via⟩ := one
  obtain ⟨-, -, kind', direction', via'⟩ := other
  cases first
  cases second
  simp_all

/-- No two networks mirror one description: it leaves nothing open. -/
theorem Mirrors.unique {desc : Description} {first second : Network} (one : desc.Mirrors first)
    (other : desc.Mirrors second) : first = second := by
  have devices : first.devices = second.devices :=
    List.right_unique_forall₂' (R := DeviceItem.Describes)
      (fun _ _ _ => DeviceItem.Describes.unique) one.devices other.devices
  have links : first.links = second.links :=
    List.right_unique_forall₂' (R := LinkItem.Describes desc.devices)
      (fun _ _ _ => LinkItem.Describes.unique) one.links other.links
  have sessions : first.sessions = second.sessions :=
    List.right_unique_forall₂' (R := SessionItem.Describes desc.devices)
      (fun _ _ _ => SessionItem.Describes.unique) one.sessions other.sessions
  have names : first.names = second.names :=
    SortedMap.ext_get? fun name => (one.names name).trans (other.names name).symm
  have loopbacks : first.ip.nodes = second.ip.nodes :=
    SortedMap.ext_get? fun d => (one.loopbacks d).trans (other.loopbacks d).symm
  have ospfDevices : first.ospf.nodes = second.ospf.nodes :=
    ext_contains fun d => (one.ospfDevices d).trans (other.ospfDevices d).symm
  have isisDevices : first.isis.nodes = second.isis.nodes :=
    SortedMap.ext_get? fun d => (one.isisDevices d).trans (other.isisDevices d).symm
  have speakers : first.speakers = second.speakers :=
    ext_contains fun d => (one.speakers d).trans (other.speakers d).symm
  have ipLinks : first.ip.edges = second.ip.edges := by
    apply SortedMap.ext_get?
    intro l
    have here := one.ipLinks l
    have there := other.ipLinks l
    generalize first.ip.edges.get? l = edge at here ⊢
    generalize second.ip.edges.get? l = edge' at there ⊢
    generalize desc.links[l.index]?.bind (·.ip) = told at here there
    cases here with
    | none =>
      cases there
      rfl
    | some described =>
      cases there with
      | some again => rw [described.unique again]
  have ospfLinks : first.ospf.edges = second.ospf.edges :=
    SortedMap.ext_get? fun l => (one.ospfLinks l).trans (other.ospfLinks l).symm
  have isisLinks : first.isis.edges = second.isis.edges :=
    ext_contains fun l => (one.isisLinks l).trans (other.isisLinks l).symm
  have blocks := one.blocks.trans other.blocks.symm
  obtain ⟨_, _, _, ⟨_, _⟩, _, ⟨_, _⟩, ⟨_, _⟩, _, _⟩ := first
  obtain ⟨_, _, _, ⟨_, _⟩, _, ⟨_, _⟩, ⟨_, _⟩, _, _⟩ := second
  simp_all

/-- A description is built exactly if it is consistent, into the one network that it describes.
Otherwise the build ends with the fault of the first item at fault. -/
theorem build_mirrors (desc : Description) :
    ((∃ net, desc.build = .ok net) ↔ desc.Consistent) ∧
    (∀ net, desc.build = .ok net ↔ desc.Consistent ∧ desc.Mirrors net) ∧
    ∀ e, desc.build = .error e ↔ desc.fault? = some e := by
  have decided := build_decided desc
  rw [← fault?_eq_none]
  cases built : desc.build with
  | error f =>
    rw [built] at decided
    have fault : desc.fault? = some f := decided
    simp [fault]
  | ok net =>
    rw [built] at decided
    obtain ⟨sound, mirrors⟩ := decided
    refine ⟨⟨fun _ => sound, fun _ => ⟨net, rfl⟩⟩, fun other => ?_, ?_⟩
    · constructor
      · intro same
        cases same
        exact ⟨sound, mirrors⟩
      · rintro ⟨-, described⟩
        rw [mirrors.unique described]
    · simp [sound]

def pairRouter (name : String) (asn : AsNumber) (loopback : Address) : DeviceItem where
  name := name
  label := none
  kind := .router
  asn := some asn
  dialect := some .quagga
  platform := some .netkit
  host := some "lab"
  loopback := some loopback
  ospf := true
  bgp := false
  isis := none

def pair : Description where
  devices := [pairRouter "a" 1 ⟨1⟩, pairRouter "b" 2 ⟨2⟩]
  links := [⟨"a", "b", some ⟨⟨⟨8⟩, 29, by decide⟩, .ofList [("a", ⟨9⟩), ("b", ⟨10⟩)]⟩, none, false⟩]
  sessions := [⟨"a", "b", .ebgp, none, some 0⟩]
  blocks := .empty

theorem pair_built : ∃ net, pair.build = .ok net ∧ pair.Mirrors net := by
  have consistent : pair.Consistent := (fault?_eq_none pair).mp (by decide +kernel)
  obtain ⟨net, built⟩ := (build_mirrors pair).1.mpr consistent
  exact ⟨net, built, ((build_mirrors pair).2.1 net).mp built |>.2⟩

end NetDesign.Description
