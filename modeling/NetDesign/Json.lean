set_option autoImplicit false

namespace NetDesign

/-- The name of an object's member. A name made of decimal digits counts as a number only where it
is written without escapes, so a name remembers how it was written. -/
structure Json.Key where
  text : String
  escaped : Bool
deriving DecidableEq, Repr, Inhabited

/-- A JSON value. Objects keep their members in order, repetitions included. -/
inductive Json where
  | null
  | bool (b : Bool)
  | number (n : Nat)
  | text (s : String)
  | list (items : List Json)
  | object (members : List (Json.Key × Json))
deriving Repr, Inhabited

end NetDesign
