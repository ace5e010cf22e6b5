import NetDesign.Description

set_option autoImplicit false

namespace NetDesign

/-- The fault of the first item that has one. Each is judged by the items in front of it. -/
def firstFault? {α ε : Type} (fault? : List α → α → Option ε) (before : List α) :
    List α → Option ε
  | [] => none
  | a :: rest => (fault? before a).or (firstFault? fault? (before ++ [a]) rest)

theorem findSome?_cons_eq_or {α ε : Type} (fault? : α → Option ε) (a : α) (rest : List α) :
    (a :: rest).findSome? fault? = (fault? a).or (rest.findSome? fault?) := by
  rw [List.findSome?_cons]
  cases fault? a <;> rfl

/-- Where the items in front do not matter all items have to be sound. -/
theorem firstFault?_eq_none {α ε : Type} {fault? : List α → α → Option ε} {sound : α → Prop}
    (judged : ∀ before a, fault? before a = none ↔ sound a) (before items : List α) :
    firstFault? fault? before items = none ↔ ∀ a ∈ items, sound a := by
  induction items generalizing before with
  | nil => simp [firstFault?]
  | cons a rest ih => rw [firstFault?, Option.or_eq_none_iff, judged, ih, List.forall_mem_cons]

namespace Description

/-- The device that a name stands for: the first one that is listed under it. -/
def deviceOf? (devices : List DeviceItem) (name : String) : Option DeviceId :=
  (devices.findIdx? (·.name = name)).map .mk

section Names

variable {devices : List DeviceItem} {name : String}

theorem deviceOf?_isSome : (deviceOf? devices name).isSome ↔ name ∈ devices.map (·.name) := by
  simp [deviceOf?]

theorem deviceOf?_eq_none : deviceOf? devices name = none ↔ name ∉ devices.map (·.name) := by
  rw [← deviceOf?_isSome, Option.not_isSome_iff_eq_none]

theorem deviceOf?_concat (item : DeviceItem) :
    deviceOf? (devices ++ [item]) name =
      (deviceOf? devices name).or
        (if item.name = name then some ⟨devices.length⟩ else none) := by
  simp only [deviceOf?, List.findIdx?_append, List.findIdx?_singleton, decide_eq_true_eq]
  cases devices.findIdx? (·.name = name) with
  | some i => rfl
  | none => split <;> simp

/-- A device that a name stands for has the name. -/
theorem exists_of_deviceOf? {d : DeviceId} (stands : deviceOf? devices name = some d) :
    ∃ item, devices[d.index]? = some item ∧ item.name = name := by
  obtain ⟨i, found, rfl⟩ := Option.map_eq_some_iff.mp stands
  obtain ⟨inside, named, -⟩ := List.findIdx?_eq_some_iff_getElem.mp found
  exact ⟨devices[i], List.getElem?_eq_getElem inside, of_decide_eq_true named⟩

theorem deviceOf?_injective {other : String} {d : DeviceId}
    (first : deviceOf? devices name = some d) (second : deviceOf? devices other = some d) :
    name = other := by
  obtain ⟨item, found, named⟩ := exists_of_deviceOf? first
  obtain ⟨again, foundAgain, namedAgain⟩ := exists_of_deviceOf? second
  rw [found, Option.some.injEq] at foundAgain
  rw [← named, ← namedAgain, foundAgain]

end Names

/-- A name that no device is listed under. -/
def unknown? (devices : List DeviceItem) (name : String) : Option DescriptionError :=
  if name ∈ devices.map (·.name) then none else some (.unknownDevice name)

/-- The name of a device was given to one in front of it. -/
def DeviceItem.fault? (before : List DeviceItem) (item : DeviceItem) : Option DescriptionError :=
  if item.name ∈ before.map (·.name) then some (.inconsistent (.nameTaken item.name)) else none

namespace LinkItem

/-- The names that a link gives addresses for, in ascending order. -/
def addressed (item : LinkItem) : List String := (item.ip.map (·.addresses.keys)).getD []

/-- The device of a name is not on the link. -/
def stray? (item : LinkItem) (devices : List DeviceItem) (l : LinkId) (name : String) :
    Option DescriptionError :=
  if name = item.source ∨ name = item.target then none
  else (deviceOf? devices name).map fun d => .inconsistent (.notAnEnd d l)

/-- A link needs its ends and the devices that it gives addresses for, and these have to be its
ends. -/
def fault? (devices : List DeviceItem) (before : List LinkItem) (item : LinkItem) :
    Option DescriptionError :=
  ((item.source :: item.target :: item.addressed).findSome? (unknown? devices)).or
    (item.addressed.findSome? (item.stray? devices ⟨before.length⟩))

end LinkItem

namespace SessionItem

/-- The session is to run over a link that is not listed. -/
def unlisted? (item : SessionItem) (links : List LinkItem) : Option DescriptionError :=
  item.via.bind fun position =>
    if position < links.length then none else some (.unknownLink position)

/-- The session leads from a device to itself, or runs over a link on which its source is not. -/
def misled? (item : SessionItem) (devices : List DeviceItem) (links : List LinkItem) :
    Option DescriptionError :=
  if item.source = item.target then
    (deviceOf? devices item.source).map fun d => .inconsistent (.sessionToSelf d)
  else
    item.via.bind fun position =>
      links[position]?.bind fun link => link.stray? devices ⟨position⟩ item.source

def fault? (devices : List DeviceItem) (links : List LinkItem) (item : SessionItem) :
    Option DescriptionError :=
  (item.unlisted? links).or
    (([item.source, item.target].findSome? (unknown? devices)).or (item.misled? devices links))

end SessionItem

/-- What is wrong with the first item at fault, if there is one. -/
def fault? (desc : Description) : Option DescriptionError :=
  (firstFault? DeviceItem.fault? [] desc.devices).or
    ((firstFault? (LinkItem.fault? desc.devices) [] desc.links).or
      (firstFault? (fun _ => SessionItem.fault? desc.devices desc.links) [] desc.sessions))

/-- Some device is listed under the name. -/
def Lists (desc : Description) (name : String) : Prop := name ∈ desc.devices.map (·.name)

/-- No two devices share a name, everything named is listed, links give addresses to their ends
only, and sessions lead to another device, from an end of the link that they run over. -/
structure Consistent (desc : Description) : Prop where
  names : (desc.devices.map (·.name)).Nodup
  ends : ∀ item ∈ desc.links, desc.Lists item.source ∧ desc.Lists item.target
  addresses : ∀ item ∈ desc.links, ∀ ip, item.ip = some ip → ∀ name ∈ ip.addresses.keys,
    desc.Lists name ∧ (name = item.source ∨ name = item.target)
  peers : ∀ item ∈ desc.sessions,
    desc.Lists item.source ∧ desc.Lists item.target ∧ item.source ≠ item.target
  via : ∀ item ∈ desc.sessions, ∀ position, item.via = some position →
    ∃ link, desc.links[position]? = some link ∧
      (item.source = link.source ∨ item.source = link.target)

theorem unknown?_eq_none {devices : List DeviceItem} {name : String} :
    unknown? devices name = none ↔ name ∈ devices.map (·.name) := by
  unfold unknown?
  split <;> simp_all

theorem DeviceItem.firstFault?_eq_none (before items : List DeviceItem) :
    firstFault? DeviceItem.fault? before items = none ↔
      (items.map (·.name)).Nodup ∧ ∀ item ∈ items, item.name ∉ before.map (·.name) := by
  induction items generalizing before with
  | nil => simp [firstFault?]
  | cons a rest ih =>
    have fresh : DeviceItem.fault? before a = none ↔ a.name ∉ before.map (·.name) := by
      unfold DeviceItem.fault?
      split <;> simp_all
    rw [firstFault?, Option.or_eq_none_iff, fresh, ih, List.map_cons, List.nodup_cons,
      List.forall_mem_cons]
    simp only [List.map_append, List.map_cons, List.map_nil, List.mem_append, List.mem_singleton,
      not_or, List.mem_map, not_exists, not_and]
    constructor
    · rintro ⟨own, nodup, others⟩
      exact ⟨⟨fun item mem => (others item mem).2, nodup⟩, own, fun item mem => (others item mem).1⟩
    · rintro ⟨⟨apart, nodup⟩, own, others⟩
      exact ⟨own, nodup, fun item mem => ⟨others item mem, apart item mem⟩⟩

theorem LinkItem.stray?_eq_none {item : LinkItem} {devices : List DeviceItem} {l : LinkId}
    {name : String} (listed : name ∈ devices.map (·.name)) :
    item.stray? devices l name = none ↔ name = item.source ∨ name = item.target := by
  obtain ⟨d, stands⟩ := Option.isSome_iff_exists.mp (deviceOf?_isSome.mpr listed)
  unfold LinkItem.stray?
  split <;> simp_all

theorem LinkItem.fault?_eq_none (devices : List DeviceItem) (before : List LinkItem)
    (item : LinkItem) :
    LinkItem.fault? devices before item = none ↔
      (item.source ∈ devices.map (·.name) ∧ item.target ∈ devices.map (·.name)) ∧
      ∀ name ∈ item.addressed,
        name ∈ devices.map (·.name) ∧ (name = item.source ∨ name = item.target) := by
  simp only [LinkItem.fault?, Option.or_eq_none_iff, List.findSome?_eq_none_iff,
    List.forall_mem_cons, unknown?_eq_none]
  constructor
  · rintro ⟨⟨source, target, listed⟩, ends⟩
    exact ⟨⟨source, target⟩, fun name mem =>
      ⟨listed name mem, (LinkItem.stray?_eq_none (listed name mem)).mp (ends name mem)⟩⟩
  · rintro ⟨⟨source, target⟩, all⟩
    exact ⟨⟨source, target, fun name mem => (all name mem).1⟩, fun name mem =>
      (LinkItem.stray?_eq_none (all name mem).1).mpr (all name mem).2⟩

theorem LinkItem.forall_mem_addressed {item : LinkItem} {P : String → Prop} :
    (∀ name ∈ item.addressed, P name) ↔
      ∀ ip, item.ip = some ip → ∀ name ∈ ip.addresses.keys, P name := by
  unfold LinkItem.addressed
  cases item.ip <;> simp

theorem SessionItem.unlisted?_eq_none {item : SessionItem} {links : List LinkItem} :
    item.unlisted? links = none ↔
      ∀ position, item.via = some position → position < links.length := by
  unfold SessionItem.unlisted?
  cases item.via <;> simp

theorem SessionItem.fault?_eq_none (devices : List DeviceItem) (links : List LinkItem)
    (item : SessionItem) :
    SessionItem.fault? devices links item = none ↔
      (item.source ∈ devices.map (·.name) ∧ item.target ∈ devices.map (·.name) ∧
        item.source ≠ item.target) ∧
      ∀ position, item.via = some position → ∃ link, links[position]? = some link ∧
        (item.source = link.source ∨ item.source = link.target) := by
  simp only [SessionItem.fault?, Option.or_eq_none_iff, SessionItem.unlisted?_eq_none,
    List.findSome?_eq_none_iff, List.forall_mem_cons, List.not_mem_nil, false_implies,
    implies_true, and_true, unknown?_eq_none]
  constructor
  · rintro ⟨inside, ⟨source, target⟩, led⟩
    obtain ⟨d, stands⟩ := Option.isSome_iff_exists.mp (deviceOf?_isSome.mpr source)
    unfold SessionItem.misled? at led
    split at led
    · simp [stands] at led
    case isFalse apart =>
      refine ⟨⟨source, target, apart⟩, fun position via => ?_⟩
      have found := List.getElem?_eq_getElem (inside position via)
      rw [via, Option.bind_some, found, Option.bind_some] at led
      exact ⟨_, found, (LinkItem.stray?_eq_none source).mp led⟩
  · rintro ⟨⟨source, target, apart⟩, ends⟩
    refine ⟨fun position via => ?_, ⟨source, target⟩, ?_⟩
    · obtain ⟨link, found, -⟩ := ends position via
      exact (List.getElem?_eq_some_iff.mp found).1
    · rw [SessionItem.misled?, if_neg apart]
      cases via : item.via with
      | none => rfl
      | some position =>
        obtain ⟨link, found, on⟩ := ends position via
        rw [Option.bind_some, found, Option.bind_some]
        exact (LinkItem.stray?_eq_none source).mpr on

/-- Nothing is wrong exactly with a consistent description. -/
theorem fault?_eq_none (desc : Description) : desc.fault? = none ↔ desc.Consistent := by
  rw [fault?, Option.or_eq_none_iff, Option.or_eq_none_iff, DeviceItem.firstFault?_eq_none,
    firstFault?_eq_none (LinkItem.fault?_eq_none desc.devices),
    firstFault?_eq_none fun _ => SessionItem.fault?_eq_none desc.devices desc.links]
  constructor
  · rintro ⟨⟨names, -⟩, links, sessions⟩
    exact
      { names
        ends := fun item mem => (links item mem).1
        addresses := fun item mem => LinkItem.forall_mem_addressed.mp (links item mem).2
        peers := fun item mem => (sessions item mem).1
        via := fun item mem => (sessions item mem).2 }
  · intro consistent
    refine ⟨⟨consistent.names, by simp⟩, fun item mem => ⟨consistent.ends item mem, ?_⟩,
      fun item mem => ⟨consistent.peers item mem, consistent.via item mem⟩⟩
    exact LinkItem.forall_mem_addressed.mpr (consistent.addresses item mem)

end Description

end NetDesign
