import NetDesign.Proofs.Description.Faults
import NetDesign.Proofs.Network.WellFormed
import Mathlib.Data.List.Forall2

set_option autoImplicit false

/- While a description is read the network mirrors what has been read so far, until an item is at
fault. `DecidedBy` says this of one item and is carried from the single items to the list. -/
namespace NetDesign

section Decided

variable {ε σ τ α β : Type}

theorem bind_of_eq_ok {result : Except ε σ} {s : σ} (made : result = .ok s)
    (next : σ → Except ε τ) : (result >>= next) = next s := by
  rw [made]
  rfl

/-- The result is the fault, if there is one, and something good otherwise. -/
def DecidedBy (fault? : Option ε) (good : σ → Prop) : Except ε σ → Prop
  | .error e => fault? = some e
  | .ok s => fault? = none ∧ good s

namespace DecidedBy

variable {first second : Option ε} {good : σ → Prop} {fine : τ → Prop}

theorem of_eq_ok {result : Except ε σ} {s : σ} (made : result = .ok s) (holds : good s) :
    DecidedBy none good result := by
  subst made
  exact ⟨rfl, holds⟩

theorem imp {result : Except ε σ} {fair : σ → Prop} (decided : DecidedBy first good result)
    (weaker : ∀ s, good s → fair s) : DecidedBy first fair result := by
  cases result with
  | error e => exact decided
  | ok s => exact ⟨decided.1, weaker s decided.2⟩

/-- Of two steps the first one at fault decides. -/
theorem bind {result : Except ε σ} {next : σ → Except ε τ} (start : DecidedBy first good result)
    (rest : ∀ s, good s → DecidedBy second fine (next s)) :
    DecidedBy (first.or second) fine (result >>= next) := by
  cases result with
  | error e =>
    have fault : first = some e := start
    rw [fault]
    rfl
  | ok s =>
    obtain ⟨sound, holds⟩ := start
    rw [sound, Option.none_or]
    exact rest s holds

/-- A walk stops at the first item at fault, and otherwise gets past all items. -/
theorem foldlM {step : σ → α → Except ε σ} {fault? : List α → α → Option ε}
    {good : List α → σ → Prop}
    (each : ∀ before a s, good before s →
      DecidedBy (fault? before a) (good (before ++ [a])) (step s a))
    (items : List α) {before : List α} {s : σ} (start : good before s) :
    DecidedBy (firstFault? fault? before items) (good (before ++ items)) (items.foldlM step s) := by
  induction items generalizing before s with
  | nil => exact ⟨rfl, by simpa using start⟩
  | cons a rest ih =>
    rw [List.foldlM_cons, firstFault?, List.append_cons before a rest]
    exact bind (each before a s start) fun next holds => ih holds

theorem mapM {read : α → Except ε β} {fault? : α → Option ε} {good : α → β → Prop}
    (each : ∀ a, DecidedBy (fault? a) (good a) (read a)) (items : List α) :
    DecidedBy (items.findSome? fault?) (List.Forall₂ good items) (items.mapM read) := by
  induction items with
  | nil => exact ⟨rfl, .nil⟩
  | cons a rest ih =>
    rw [List.mapM_cons, findSome?_cons_eq_or, ← Option.or_none (o := rest.findSome? fault?)]
    exact bind (each a) fun b holds => bind ih fun others all => ⟨rfl, .cons holds all⟩

end DecidedBy

end Decided

theorem DeviceId.index_injective (d e : DeviceId) (same : d.index = e.index) : d = e := by
  cases d
  cases e
  exact congrArg DeviceId.mk same

theorem LinkId.index_injective (k l : LinkId) (same : k.index = l.index) : k = l := by
  cases k
  cases l
  exact congrArg LinkId.mk same

section Growth

variable {α β : Type}

theorem forall₂_concat {R : α → β → Prop} {items : List α} {others : List β}
    (paired : List.Forall₂ R items others) {a : α} {b : β} (last : R a b) :
    List.Forall₂ R (items ++ [a]) (others ++ [b]) :=
  List.rel_append paired (.cons last .nil)

theorem exists_of_forall₂ {R : α → β → Prop} {items : List α} {others : List β}
    (paired : List.Forall₂ R items others) {n : Nat} {a : α} (found : items[n]? = some a) :
    ∃ b, others[n]? = some b ∧ R a b := by
  induction paired generalizing n with
  | nil => simp at found
  | cons first _ ih =>
    cases n with
    | zero =>
      rw [List.getElem?_cons_zero, Option.some.injEq] at found
      subst found
      exact ⟨_, rfl, first⟩
    | succ n => exact ih found

variable {ι : Type} [Ord ι] [Std.TransOrd ι] [Std.LawfulEqOrd ι]

/-- Inserts a value that may be absent. -/
def SortedMap.insertGiven (m : SortedMap ι β) (key : ι) : Option β → SortedMap ι β
  | none => m
  | some value => m.insert key value

theorem SortedMap.get?_insertGiven [DecidableEq ι] (m : SortedMap ι β) (key other : ι)
    (value : Option β) :
    (m.insertGiven key value).get? other =
      if other = key then value.or (m.get? key) else m.get? other := by
  cases value with
  | none =>
    rw [insertGiven, Option.none_or]
    split
    case isTrue same => rw [same]
    case isFalse => rfl
  | some value => rw [insertGiven, get?_insert, Option.some_or]

/-- A map that holds what the items tell about their numbers keeps doing so when an item is
added. -/
theorem SortedMap.get?_insertGiven_concat [DecidableEq ι] {index : ι → Nat}
    (apart : ∀ k l, index k = index l → k = l) {m : SortedMap ι β} {told : α → Option β}
    {items : List α} (holds : ∀ k, m.get? k = items[index k]?.bind told) (item : α) {key : ι}
    (next : index key = items.length) (k : ι) :
    (m.insertGiven key (told item)).get? k = (items ++ [item])[index k]?.bind told := by
  have unheard : m.get? key = none := by
    rw [holds, List.getElem?_eq_none (by omega), Option.bind_none]
  rw [get?_insertGiven, Network.getElem?_concat, ← next]
  by_cases same : k = key
  · rw [if_pos same, if_pos (congrArg index same), unheard, Option.or_none, Option.bind_some]
  · rw [if_neg same, if_neg (fun equal => same (apart k key equal)), holds]

/-- Puts a key into a set if it is wanted there. -/
def SortedMap.insertWanted (m : SortedMap ι Unit) (key : ι) (flag : Bool) : SortedMap ι Unit :=
  if flag then m.insert key () else m

theorem SortedMap.contains_insertWanted (m : SortedMap ι Unit) (key other : ι) (flag : Bool) :
    (m.insertWanted key flag).contains other ↔ (other = key ∧ flag) ∨ m.contains other := by
  cases flag with
  | false => simp [insertWanted]
  | true => simpa [insertWanted] using contains_insert m key other ()

/-- A set of the numbers of flagged items stays one when an item is added. -/
theorem SortedMap.contains_insertWanted_concat {index : ι → Nat}
    (apart : ∀ k l, index k = index l → k = l) {m : SortedMap ι Unit} {flag : α → Bool}
    {items : List α} (holds : ∀ k, m.contains k ↔ ∃ a, items[index k]? = some a ∧ flag a)
    (item : α) {key : ι} (next : index key = items.length) (k : ι) :
    (m.insertWanted key (flag item)).contains k ↔
      ∃ a, (items ++ [item])[index k]? = some a ∧ flag a := by
  rw [contains_insertWanted, holds, Network.getElem?_concat, ← next]
  by_cases same : k = key
  · have unheard : items[index key]? = none := List.getElem?_eq_none (by omega)
    subst same
    simp [unheard]
  · have differ : index k ≠ index key := fun equal => same (apart k key equal)
    simp [same, differ]

end Growth

namespace Description

/-- The label of a device defaults to its name. -/
structure DeviceItem.Describes (item : DeviceItem) (device : Device) : Prop where
  name : device.name = item.name
  label : device.label = item.label.getD item.name
  kind : device.kind = item.kind
  asn : device.asn = item.asn
  dialect : device.dialect = item.dialect
  platform : device.platform = item.platform
  host : device.host = item.host

/-- The ends of the link are the devices of the two names. -/
structure LinkItem.Describes (devices : List DeviceItem) (item : LinkItem) (link : Link) :
    Prop where
  source : deviceOf? devices item.source = some link.first
  target : deviceOf? devices item.target = some link.second

/-- Each name that has an address stands for a device with this address, and no other device has
one. -/
structure IpItem.Describes (devices : List DeviceItem) (item : IpItem) (edge : IpEdge) :
    Prop where
  subnet : edge.subnet = item.subnet
  addresses : ∀ d address, edge.addresses.get? d = some address ↔
    ∃ name, deviceOf? devices name = some d ∧ item.addresses.get? name = some address
  size : edge.addresses.size = item.addresses.size

structure SessionItem.Describes (devices : List DeviceItem) (item : SessionItem) (s : Session) :
    Prop where
  source : deviceOf? devices item.source = some s.source
  target : deviceOf? devices item.target = some s.target
  kind : s.kind = item.kind
  direction : s.direction = item.direction
  via : s.via = item.via.map .mk

/-- The network is the one described. Devices and links are numbered by their places, names stand
for the devices listed under them, and each layer holds what is described and nothing else. A device
speaks BGP if it is said to or if it is an end of a session. -/
structure Mirrors (desc : Description) (net : Network) : Prop where
  devices : List.Forall₂ DeviceItem.Describes desc.devices net.devices
  names : ∀ name, net.named? name = deviceOf? desc.devices name
  loopbacks : ∀ d, net.ip.nodes.get? d =
    desc.devices[d.index]?.bind fun item => item.loopback.map some
  ospfDevices : ∀ d, net.hasDevice .ospf d ↔
    ∃ item, desc.devices[d.index]? = some item ∧ item.ospf
  isisDevices : ∀ d, net.isis.nodes.get? d = desc.devices[d.index]?.bind (·.isis)
  speakers : ∀ d, net.hasDevice .bgp d ↔
    (∃ item, desc.devices[d.index]? = some item ∧ item.bgp) ∨
      ∃ item ∈ desc.sessions, deviceOf? desc.devices item.source = some d ∨
        deviceOf? desc.devices item.target = some d
  links : List.Forall₂ (LinkItem.Describes desc.devices) desc.links net.links
  ipLinks : ∀ l, Option.Rel (IpItem.Describes desc.devices)
    (desc.links[l.index]?.bind (·.ip)) (net.ip.edges.get? l)
  ospfLinks : ∀ l, net.ospf.edges.get? l = desc.links[l.index]?.bind (·.ospf)
  isisLinks : ∀ l, net.hasLink .isis l ↔ ∃ item, desc.links[l.index]? = some item ∧ item.isis
  sessions : List.Forall₂ (SessionItem.Describes desc.devices) desc.sessions net.sessions
  blocks : net.blocks = desc.blocks

/-- What has been read of a description, up to its blocks. -/
def part (devices : List DeviceItem) (links : List LinkItem) (sessions : List SessionItem) :
    Description :=
  ⟨devices, links, sessions, .empty⟩

theorem empty_mirrors : (part [] [] []).Mirrors Network.empty where
  devices := .nil
  names name := rfl
  loopbacks d := rfl
  ospfDevices d := by simp [part, Network.empty, Network.hasDevice, Overlay.empty,
    SortedMap.contains]
  isisDevices d := rfl
  speakers d := by simp [part, Network.empty, Network.hasDevice, SortedMap.contains]
  links := .nil
  ipLinks l := .none
  ospfLinks l := rfl
  isisLinks l := by simp [part, Network.empty, Network.hasLink, Overlay.empty,
    SortedMap.contains]
  sessions := .nil
  blocks := rfl

end Description

end NetDesign
