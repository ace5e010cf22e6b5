import NetDesign.Configuration.Peering
import NetDesign.Proofs.Network.Links

set_option autoImplicit false

namespace NetDesign

/-- What the other end sees. -/
def Adjacency.reverse : Adjacency → Adjacency
  | unaddressed => .unaddressed
  | across l near far => .across l far near
  | ambiguous links => .ambiguous links

namespace Network

/-- Whether both devices have an address on the link. -/
def addressesBoth (net : Network) (a b : DeviceId) (l : LinkId) : Bool :=
  (net.addressing? a l).isSome && (net.addressing? b l).isSome

/-- The links between two devices on which both have an address, in ascending order. -/
def peeringLinks (net : Network) (a b : DeviceId) : List LinkId :=
  (net.numberedLinks.filter fun (l, link) =>
    link.joins a b && net.addressesBoth a b l).map (·.1)

theorem peeringLinks_eq (net : Network) (a b : DeviceId) :
    net.peeringLinks a b = (net.linksBetween a b).filter (net.addressesBoth a b) := by
  rw [linksBetween_eq, List.filter_map, List.filter_filter, peeringLinks]
  refine congrArg (List.map Prod.fst) (List.filter_congr fun e _ => ?_)
  exact Bool.and_comm _ _

theorem peeringLinks_ascending (net : Network) (a b : DeviceId) :
    (net.peeringLinks a b).Pairwise fun k l => k.index < l.index := by
  rw [peeringLinks_eq]
  exact (net.linksOf_ascending a).sublist
    (List.filter_sublist.trans (net.linksBetween_sublist a b))

theorem addressPair?_eq_some {net : Network} {a b : DeviceId} {l k : LinkId} {near far : Address} :
    net.addressPair? a b l = some (k, near, far) ↔
      k = l ∧ ∃ subnet, net.addressing? a l = some (subnet, near) ∧
        net.addressing? b l = some (subnet, far) := by
  unfold addressPair? addressing?
  cases net.ip.edges.get? l with
  | none => simp
  | some edge =>
    simp only [Option.bind_some]
    cases edge.addresses.get? a with
    | none => simp
    | some first =>
      cases edge.addresses.get? b with
      | none => simp
      | some second =>
        simp only [Option.map_some, Option.some.injEq, Prod.mk.injEq]
        constructor
        · rintro ⟨rfl, rfl, rfl⟩
          exact ⟨rfl, edge.subnet, ⟨rfl, rfl⟩, rfl, rfl⟩
        · rintro ⟨rfl, subnet, ⟨-, rfl⟩, -, rfl⟩
          exact ⟨rfl, rfl, rfl⟩

theorem addressPair?_isSome (net : Network) (a b : DeviceId) (l : LinkId) :
    (net.addressPair? a b l).isSome = net.addressesBoth a b l := by
  unfold addressPair? addressesBoth addressing?
  cases net.ip.edges.get? l with
  | none => rfl
  | some edge =>
    simp only [Option.bind_some]
    cases edge.addresses.get? a with
    | none => rfl
    | some first => cases edge.addresses.get? b <;> rfl

theorem addressPair?_reverse (net : Network) (a b : DeviceId) (l : LinkId) :
    net.addressPair? b a l = (net.addressPair? a b l).map fun (k, near, far) => (k, far, near) := by
  unfold addressPair?
  cases net.ip.edges.get? l with
  | none => rfl
  | some edge =>
    simp only [Option.bind_some]
    cases edge.addresses.get? a with
    | none => cases edge.addresses.get? b <;> rfl
    | some first => cases edge.addresses.get? b <;> rfl

theorem map_fst_addressPairs (net : Network) (a b : DeviceId) (links : List LinkId) :
    (links.filterMap (net.addressPair? a b)).map (·.1) = links.filter (net.addressesBoth a b) := by
  induction links with
  | nil => rfl
  | cons l rest ih =>
    rw [List.filterMap_cons, List.filter_cons, ← addressPair?_isSome]
    cases found : net.addressPair? a b l with
    | none => simpa using ih
    | some pair =>
      obtain ⟨k, near, far⟩ := pair
      obtain ⟨rfl, -⟩ := addressPair?_eq_some.mp found
      simpa using ih

/-- The addresses of an adjacency are those of its two ends on one link that could carry the
session. -/
theorem of_adjacency_across {net : Network} {s : Session} {l : LinkId} {near far : Address}
    (resolved : net.adjacency s = .across l near far) :
    l ∈ net.candidates s ∧ ∃ subnet, net.addressing? s.source l = some (subnet, near) ∧
      net.addressing? s.target l = some (subnet, far) := by
  unfold adjacency at resolved
  split at resolved
  · cases resolved
  case h_2 single =>
    cases resolved
    have mem : (l, near, far) ∈ (net.candidates s).filterMap
        (net.addressPair? s.source s.target) := by rw [single]; exact List.mem_singleton_self _
    obtain ⟨k, candidate, found⟩ := List.mem_filterMap.mp mem
    obtain ⟨rfl, subnet, addresses⟩ := addressPair?_eq_some.mp found
    exact ⟨candidate, subnet, addresses⟩
  · cases resolved

theorem adjacency_eq_ambiguous_pairs {net : Network} {s : Session} {links : List LinkId} :
    net.adjacency s = .ambiguous links ↔
      links = (net.candidates s).filter (net.addressesBoth s.source s.target) ∧
        2 ≤ links.length := by
  rw [← map_fst_addressPairs, adjacency]
  generalize (net.candidates s).filterMap (net.addressPair? s.source s.target) = pairs
  match pairs with
  | [] => simp +contextual
  | [_] => simp +contextual
  | first :: second :: rest =>
    simp only [Adjacency.ambiguous.injEq]
    constructor
    · rintro rfl
      exact ⟨rfl, by simp⟩
    · exact fun several => several.1.symm

theorem adjacency_eq_ambiguous {net : Network} {s : Session} {links : List LinkId} :
    net.adjacency s = .ambiguous links ↔
      s.via = none ∧ links = net.peeringLinks s.source s.target ∧ 2 ≤ links.length := by
  rw [adjacency_eq_ambiguous_pairs, peeringLinks_eq, candidates]
  cases s.via with
  | none => simp
  | some l =>
    -- the named link alone is not several
    simp only [reduceCtorEq, false_and, iff_false, not_and]
    rintro rfl several
    have short := List.length_filter_le (net.addressesBoth s.source s.target) [l]
    simp only [List.length_singleton] at short
    omega

theorem candidates_reverse (net : Network) {s t : Session} (leaves : t.source = s.target)
    (returns : t.target = s.source) (same : t.via = s.via) :
    net.candidates t = net.candidates s := by
  rw [candidates, candidates, same, leaves, returns, linksBetween_comm]

theorem adjacency_reverse (net : Network) {s t : Session} (leaves : t.source = s.target)
    (returns : t.target = s.source) (same : t.via = s.via) :
    net.adjacency t = (net.adjacency s).reverse := by
  have swapped : net.addressPair? t.source t.target =
      fun l => (net.addressPair? s.source s.target l).map fun (k, near, far) => (k, far, near) := by
    funext l
    rw [leaves, returns, addressPair?_reverse]
  rw [adjacency, adjacency, candidates_reverse net leaves returns same, swapped,
    ← List.map_filterMap]
  cases (net.candidates s).filterMap (net.addressPair? s.source s.target) with
  | nil => rfl
  | cons first rest =>
    cases rest with
    | nil => rfl
    | cons second rest => simp [Adjacency.reverse, Function.comp_def]

end Network

end NetDesign
