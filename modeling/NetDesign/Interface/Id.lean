set_option autoImplicit false

namespace NetDesign

/-- An interface name with its place in the sequence of names. -/
structure InterfaceId where
  position : Nat
  name : String
deriving DecidableEq, Repr, Inhabited

namespace InterfaceId

/-- Identifiers are ordered by position, so that `eth10` follows `eth9`; names break ties. -/
instance : Ord InterfaceId := ⟨compareLex (compareOn (·.position)) (compareOn (·.name))⟩

instance : Std.TransOrd InterfaceId :=
  inferInstanceAs (Std.TransCmp (compareLex (compareOn InterfaceId.position)
    (compareOn InterfaceId.name)))

/-- Whether one identifier comes no later than another. -/
def precedes (a b : InterfaceId) : Bool := (compare a b).isLE

def numericSuffix (id : InterfaceId) : String :=
  .ofList (id.name.toList.reverse.takeWhile Char.isDigit).reverse

end InterfaceId

end NetDesign
