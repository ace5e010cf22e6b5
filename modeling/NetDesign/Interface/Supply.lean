import NetDesign.Interface.Id

set_option autoImplicit false

namespace NetDesign

inductive Scheme where
  | junosphere
  | netkit
  | ios
  | ios2
  | dynagen
deriving DecidableEq, Repr, Inhabited

namespace Scheme

/-- Chassis of the IOS families hold seventeen slots. -/
def slots : Nat := 17

/-- Every slot holds five ports. -/
def ports : Nat := 5

/-- The numbers that are never handed out. -/
def reserved : Scheme → List Nat
  | junosphere => [2]
  | _ => []

/-- How many numbers there are, the reserved ones included; `none` if there is no limit. -/
def capacity : Scheme → Option Nat
  | ios | ios2 => some (slots * ports)
  | _ => none

def name (scheme : Scheme) (n : Nat) : String :=
  match scheme with
  | junosphere => "ge-0/0/" ++ n.repr
  | netkit => "eth" ++ n.repr
  | ios => "Ethernet" ++ (n / ports).repr ++ "/" ++ (n % ports).repr
  | ios2 => "GigabitEthernet0/" ++ (n / ports).repr ++ "/" ++ (n % ports).repr
  | dynagen => "gigabitethernet0/0/0/" ++ n.repr

def title : Scheme → String
  | junosphere => "Junosphere"
  | netkit => "Netkit"
  | ios => "IOS"
  | ios2 => "IOS2"
  | dynagen => "Dynagen"

end Scheme

/-- The lowest number from `n` on that is not listed: one more number than the list has entries
cannot all be listed. -/
def firstUnlisted (listed : List Nat) (n : Nat) : Nat :=
  ((List.range' n (listed.length + 1)).find? (· ∉ listed)).getD n

/-- A finite scheme whose numbers are all handed out. -/
structure Exhausted where
  scheme : Scheme
  capacity : Nat
deriving DecidableEq, Repr

namespace Exhausted

def message (e : Exhausted) : String :=
  s!"All {e.capacity} {e.scheme.title} interfaces are allocated"

end Exhausted

/-- The names still to be handed out to one device: those of numbers from `next` on. -/
structure Supply where
  scheme : Scheme
  next : Nat
deriving DecidableEq, Repr

namespace Supply

def ofScheme (scheme : Scheme) : Supply := ⟨scheme, 0⟩

def issue (scheme : Scheme) (n : Nat) : InterfaceId × Supply :=
  (⟨n, scheme.name n⟩, ⟨scheme, n + 1⟩)

/-- Draws the next number that is not reserved. A scheme of limited capacity may have none left. -/
def draw (supply : Supply) : Except Exhausted (InterfaceId × Supply) :=
  let n := firstUnlisted supply.scheme.reserved supply.next
  match supply.scheme.capacity with
  | none => .ok (issue supply.scheme n)
  | some capacity =>
    if n < capacity then .ok (issue supply.scheme n) else .error ⟨supply.scheme, capacity⟩

/-- Draws the next identifier, if there is one. A supply that has ended stays as it is. -/
def draw? (supply : Supply) : Option InterfaceId × Supply :=
  match supply.draw with
  | .ok (id, rest) => (some id, rest)
  | .error _ => (none, supply)

/-- Draws up to a number of identifiers; fewer are drawn when the supply ends. -/
def drawMany (supply : Supply) : Nat → List InterfaceId × Supply
  | 0 => ([], supply)
  | n + 1 =>
    match supply.draw with
    | .error _ => ([], supply)
    | .ok (id, rest) =>
      let (ids, last) := rest.drawMany n
      (id :: ids, last)

def remaining? (supply : Supply) : Option (List InterfaceId) :=
  supply.scheme.capacity.map fun capacity => (supply.drawMany capacity).1

/-- Names the given things in order, until the supply ends. -/
def assign {α : Type} (supply : Supply) : List α → List (α × InterfaceId) × Except Exhausted Supply
  | [] => ([], .ok supply)
  | a :: rest =>
    match supply.draw with
    | .error e => ([], .error e)
    | .ok (id, supply) =>
      let (ids, last) := supply.assign rest
      ((a, id) :: ids, last)

end Supply

end NetDesign
