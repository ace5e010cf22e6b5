import NetDesign.Address

set_option autoImplicit false

namespace NetDesign

/-- A device of a network, by its place in the order of creation. -/
structure DeviceId where
  index : Nat
deriving DecidableEq, Repr, Inhabited

namespace DeviceId

instance : Ord DeviceId := ⟨compareOn (·.index)⟩
instance : Std.TransOrd DeviceId := inferInstanceAs (Std.TransCmp (compareOn DeviceId.index))

theorem compare_eq (a b : DeviceId) : compare a b = compare a.index b.index := rfl

instance : Std.LawfulEqOrd DeviceId where
  eq_of_compare {a b} same := by
    rw [compare_eq] at same
    cases a
    cases b
    simp_all

def text (d : DeviceId) : String := s!"NodeIndex({d.index})"

end DeviceId

/-- A physical link of a network, by its place in the order of creation. -/
structure LinkId where
  index : Nat
deriving DecidableEq, Repr, Inhabited

namespace LinkId

instance : Ord LinkId := ⟨compareOn (·.index)⟩
instance : Std.TransOrd LinkId := inferInstanceAs (Std.TransCmp (compareOn LinkId.index))

theorem compare_eq (a b : LinkId) : compare a b = compare a.index b.index := rfl

instance : Std.LawfulEqOrd LinkId where
  eq_of_compare {a b} same := by
    rw [compare_eq] at same
    cases a
    cases b
    simp_all

def text (l : LinkId) : String := s!"EdgeIndex({l.index})"

end LinkId

abbrev AsNumber := UInt32

/-- What a device is. Only routers are configured. -/
inductive DeviceKind where
  | router
  | server
  | switch
deriving DecidableEq, Repr, Inhabited

namespace DeviceKind

def all : List DeviceKind := [router, server, switch]

def word : DeviceKind → String
  | router => "router"
  | server => "server"
  | switch => "switch"

def ofWord? (s : String) : Option DeviceKind := all.find? (·.word = s)

end DeviceKind

/-- The configuration language of a router. -/
inductive Dialect where
  | quagga
  | ios
  | ios2
  | junos
deriving DecidableEq, Repr, Inhabited

namespace Dialect

def all : List Dialect := [quagga, ios, ios2, junos]

def word : Dialect → String
  | quagga => "quagga"
  | ios => "ios"
  | ios2 => "ios2"
  | junos => "junos"

def ofWord? (s : String) : Option Dialect := all.find? (·.word = s)

end Dialect

/-- Where a router runs: on an emulator, or as real equipment. -/
inductive Platform where
  | junosphere
  | netkit
  | cisco
  | dynagen
deriving DecidableEq, Repr, Inhabited

namespace Platform

/-- All platforms, in the order in which those of one host are compiled. -/
def all : List Platform := [junosphere, netkit, cisco, dynagen]

def word : Platform → String
  | junosphere => "junosphere"
  | netkit => "netkit"
  | cisco => "cisco"
  | dynagen => "dynagen"

def ofWord? (s : String) : Option Platform := all.find? (·.word = s)

end Platform

/-- A device of the physical network. The name identifies it in a description, the label is what
people call it. -/
structure Device where
  name : String
  label : String
  kind : DeviceKind
  asn : Option AsNumber
  dialect : Option Dialect
  platform : Option Platform
  host : Option String
deriving DecidableEq, Repr, Inhabited

namespace Device

def isRouter (d : Device) : Bool := d.kind = .router

/-- Whether the device has addresses of its own. -/
def isAddressable (d : Device) : Bool := d.kind = .router || d.kind = .server

end Device

/-- A physical link. Both ends may be the same device, and two devices may share several links. -/
structure Link where
  first : DeviceId
  second : DeviceId
deriving DecidableEq, Repr, Inhabited

namespace Link

def touches (l : Link) (d : DeviceId) : Bool := l.first = d || l.second = d

def opposite? (l : Link) (d : DeviceId) : Option DeviceId :=
  if l.first = d then some l.second else if l.second = d then some l.first else none

theorem opposite?_isSome (l : Link) (d : DeviceId) : (l.opposite? d).isSome = l.touches d := by
  unfold opposite? touches
  split <;> simp_all
  split <;> simp_all

end Link

end NetDesign
