import NetDesign.Network

set_option autoImplicit false

namespace NetDesign

/-- Whether the link leads from one device to the other, either way round. -/
def Link.joins (link : Link) (a b : DeviceId) : Bool :=
  link.first = a && link.second = b || link.first = b && link.second = a

theorem Link.joins_comm (link : Link) (a b : DeviceId) : link.joins a b = link.joins b a := by
  unfold joins
  exact Bool.or_comm _ _

theorem Link.opposite?_eq_some {link : Link} {a b : DeviceId} :
    link.opposite? a = some b ↔ link.joins a b := by
  simp only [opposite?, joins, Bool.or_eq_true, Bool.and_eq_true, decide_eq_true_eq]
  by_cases first : link.first = a
  · rw [if_pos first, Option.some.injEq]
    constructor
    · exact fun second => .inl ⟨first, second⟩
    · rintro (⟨-, second⟩ | ⟨same, second⟩)
      · exact second
      · rw [second, ← first, same]
  · rw [if_neg first]
    by_cases second : link.second = a
    · simp [first, second]
    · simp [first, second]

theorem Link.touches_of_joins {link : Link} {a b : DeviceId} (joins : link.joins a b) :
    link.touches a := by
  rw [← opposite?_isSome, opposite?_eq_some.mpr joins]
  rfl

namespace Network

theorem mem_numberedLinks {net : Network} {l : LinkId} {link : Link} :
    (l, link) ∈ net.numberedLinks ↔ net.link? l = some link := by
  rw [numberedLinks, mem_numbered]
  constructor
  · rintro ⟨n, found, rfl⟩
    exact found
  · exact fun found => ⟨l.index, found, rfl⟩

theorem mem_linksOf {net : Network} {d : DeviceId} {l : LinkId} :
    l ∈ net.linksOf d ↔ ∃ link, net.link? l = some link ∧ link.touches d := by
  constructor
  · intro mem
    obtain ⟨⟨k, link⟩, listed, rfl⟩ := List.mem_map.mp mem
    obtain ⟨present, touches⟩ := List.mem_filter.mp listed
    exact ⟨link, mem_numberedLinks.mp present, touches⟩
  · rintro ⟨link, found, touches⟩
    exact List.mem_map.mpr
      ⟨(l, link), List.mem_filter.mpr ⟨mem_numberedLinks.mpr found, touches⟩, rfl⟩

theorem numberedLinks_ascending (net : Network) :
    net.numberedLinks.Pairwise fun k l => k.1.index < l.1.index := by
  have indices : (net.numberedLinks.map (·.1)).Pairwise fun k l => k.index < l.index := by
    rw [numberedLinks, map_fst_numbered, List.pairwise_map]
    exact List.pairwise_lt_range
  rwa [List.pairwise_map] at indices

theorem linksOf_ascending (net : Network) (d : DeviceId) :
    (net.linksOf d).Pairwise fun k l => k.index < l.index :=
  List.pairwise_map.mpr (net.numberedLinks_ascending.sublist List.filter_sublist)

/-- The label of the device at the other end of a link. -/
def farLabel? (net : Network) (d : DeviceId) (l : LinkId) : Option String :=
  ((net.link? l).bind (·.opposite? d)).bind fun e => (net.device? e).map (·.label)

theorem neighbor_eq_ok {net : Network} {d e : DeviceId} {l : LinkId} :
    net.neighbor d l = .ok e ↔ (net.link? l).bind (·.opposite? d) = some e := by
  unfold neighbor link
  cases net.link? l with
  | none => simp [bind, Except.bind]
  | some link =>
    simp only [bind, Except.bind, Option.bind_some]
    cases link.opposite? d <;> simp

/-- The links between two devices, read off the list of all links. -/
theorem linksBetween_eq (net : Network) (a b : DeviceId) :
    net.linksBetween a b =
      (net.numberedLinks.filter fun (_, link) => link.joins a b).map (·.1) := by
  rw [linksBetween, linksOf, List.filter_map, List.filter_filter]
  refine congrArg (List.map Prod.fst) (List.filter_congr fun e mem => ?_)
  obtain ⟨l, link⟩ := e
  have found := mem_numberedLinks.mp mem
  simp only [Function.comp, found, Option.bind_some, Link.opposite?_eq_some]
  by_cases joins : link.joins a b
  · simp [joins, Link.touches_of_joins joins]
  · simp [joins]

theorem linksBetween_comm (net : Network) (a b : DeviceId) :
    net.linksBetween a b = net.linksBetween b a := by
  rw [linksBetween_eq, linksBetween_eq]
  exact congrArg (List.map Prod.fst) (List.filter_congr fun e _ => e.2.joins_comm a b)

theorem linksBetween_sublist (net : Network) (a b : DeviceId) :
    (net.linksBetween a b).Sublist (net.linksOf a) :=
  List.filter_sublist

end Network

end NetDesign
