import NetDesign.Proofs.Deployment.Wires
import NetDesign.Proofs.Network.Runs

set_option autoImplicit false

namespace NetDesign

namespace Network

/-- The links that are added have higher numbers than those there were. -/
theorem index_lt_of_numberedLinks_append {net grown : Network} {added : List (LinkId × Link)}
    (larger : grown.numberedLinks = net.numberedLinks ++ added) {k l : LinkId × Link}
    (old : k ∈ net.numberedLinks) (new : l ∈ added) : k.1.index < l.1.index := by
  have ascending := grown.numberedLinks_ascending
  rw [larger, List.pairwise_append] at ascending
  exact ascending.2.2 k old l new

theorem link?_after {net : Network} {l : LinkId} {link : Link} (found : net.link? l = some link)
    (changes : List Change) : (net.after changes).link? l = some link := by
  rw [← mem_numberedLinks, numberedLinks_after]
  exact List.mem_append_left _ (mem_numberedLinks.mpr found)

/-- The links of a device stay where they are in its list, and newer ones come behind them. -/
theorem linksOf_after (net : Network) (changes : List Change) (d : DeviceId) :
    ∃ newer, (net.after changes).linksOf d = net.linksOf d ++ newer ∧
      ∀ l ∈ newer, net.link? l = none ∧ ∀ k ∈ net.linksOf d, k.index < l.index := by
  have larger := net.numberedLinks_after changes
  refine ⟨_, by rw [linksOf, larger, List.filter_append, List.map_append]; rfl, ?_⟩
  intro l new
  obtain ⟨added, listed, rfl⟩ := List.mem_map.mp new
  have above : ∀ k link, net.link? k = some link → k.index < added.1.index := fun k link found =>
    index_lt_of_numberedLinks_append larger (mem_numberedLinks.mpr found)
      (List.mem_of_mem_filter listed)
  constructor
  · cases found : net.link? added.1 with
    | none => rfl
    | some link => exact absurd (above _ link found) (Nat.lt_irrefl _)
  · intro k own
    obtain ⟨link, found, -⟩ := mem_linksOf.mp own
    exact above k link found

end Network

namespace DeviceRecord

open Network (Change)

/-- The links of a device have the identifiers that the supply gives out in their order. -/
theorem get?_nameInterfaces {record : DeviceRecord} {net : Network} {scheme : Scheme} {l : LinkId}
    {id : InterfaceId} :
    (record.nameInterfaces net (.ofScheme scheme)).1.interfaceIds.get? l = some id ↔
      (l, id) ∈ ((Supply.ofScheme scheme).assign (net.linksOf record.id)).1 := by
  rw [nameInterfaces_eq]
  exact SortedMap.get?_ofList (Wired.links_nodup scheme net record.id)

/-- A network that has grown has all the links it had, and those of a device come first among its
links. If the interfaces of the device are named afresh, each of these links has the name that it
had before, or none if it had none. The newer links may be too many to be named. -/
theorem names_after (net : Network) (changes : List Change) (scheme : Scheme)
    {record later : DeviceRecord} (same : later.id = record.id) :
    let grown := net.after changes
    let named := record.nameInterfaces net (.ofScheme scheme)
    let renamed := later.nameInterfaces grown (.ofScheme scheme)
    (∀ l link, net.link? l = some link → grown.link? l = some link) ∧
    (∃ newer, grown.linksOf record.id = net.linksOf record.id ++ newer ∧
      ∀ l ∈ newer, net.link? l = none ∧ ∀ k ∈ net.linksOf record.id, k.index < l.index) ∧
    (∀ l link, net.link? l = some link →
      renamed.1.interfaceIds.get? l = named.1.interfaceIds.get? l) ∧
    ∀ rest, named.2 = .ok rest → named.1.NamesLinks net := by
  intro grown named renamed
  obtain ⟨newer, links, new⟩ := net.linksOf_after changes record.id
  obtain ⟨others, given, ofNewer⟩ :=
    (Supply.ofScheme scheme).assign_append (net.linksOf record.id) newer
  have split : ∀ l id, renamed.1.interfaceIds.get? l = some id ↔
      named.1.interfaceIds.get? l = some id ∨ (l, id) ∈ others := by
    intro l id
    rw [get?_nameInterfaces, get?_nameInterfaces, same, links, given, List.mem_append]
  refine ⟨fun l link found => Network.link?_after found changes, ⟨newer, links, new⟩, ?_, ?_⟩
  · intro l link found
    apply Option.ext
    intro id
    rw [split]
    constructor
    · rintro (held | other)
      · exact held
      · have absent := (new l (ofNewer.mem (List.mem_map_of_mem other))).1
        rw [found] at absent
        cases absent
    · exact .inl
  · intro rest ended
    cases assigned : ((Supply.ofScheme scheme).assign (net.linksOf record.id)).2 with
    | error e =>
      simp only [named, nameInterfaces_eq, assigned] at ended
      cases ended
    | ok last => exact namesLinks_of_assign assigned

def almostFull : Network :=
  Network.empty.after
    ([.addDevice (Network.twoSystemsRouter "a" 1), .addDevice (Network.twoSystemsRouter "b" 2)] ++
      List.replicate 84 (.addLink ⟨0⟩ ⟨1⟩))

/-- The last link has both its ends at the first device, and no port is left for it. -/
def twoMore : List Change := [.addLink ⟨1⟩ ⟨0⟩, .addLink ⟨0⟩ ⟨0⟩]

theorem almostFull_names :
    (blank ⟨0⟩ "a").id = (blank ⟨0⟩ "b").id ∧
    ((almostFull.after twoMore).linksOf ⟨0⟩).length = 86 ∧
    ((blank ⟨0⟩ "a").nameInterfaces (almostFull.after twoMore) (.ofScheme .ios2)).2 =
      .error ((blank ⟨0⟩ "a").allocationFailure ⟨.ios2, 85⟩) ∧
    ((blank ⟨0⟩ "a").nameInterfaces (almostFull.after twoMore)
      (.ofScheme .ios2)).1.interfaceIds.get? ⟨83⟩ = some ⟨83, "GigabitEthernet0/16/3"⟩ := by
  have same : (blank ⟨0⟩ "a").id = (blank ⟨0⟩ "b").id := rfl
  have there : almostFull.link? ⟨83⟩ = some ⟨⟨0⟩, ⟨1⟩⟩ := by decide +kernel
  have named : ((blank ⟨0⟩ "b").nameInterfaces almostFull (.ofScheme .ios2)).1.interfaceIds.get?
      ⟨83⟩ = some ⟨83, "GigabitEthernet0/16/3"⟩ := by decide +kernel
  have links : ((almostFull.after twoMore).linksOf ⟨0⟩).length = 86 := by decide +kernel
  have refused : ((blank ⟨0⟩ "a").nameInterfaces (almostFull.after twoMore) (.ofScheme .ios2)).2 =
      .error ((blank ⟨0⟩ "a").allocationFailure ⟨.ios2, 85⟩) := by decide +kernel
  obtain ⟨-, -, kept, -⟩ := names_after almostFull twoMore .ios2 same
  exact ⟨same, links, refused, (kept ⟨83⟩ _ there).trans named⟩

end DeviceRecord

end NetDesign
