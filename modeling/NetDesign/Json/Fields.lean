import NetDesign.Json

set_option autoImplicit false

namespace NetDesign.Json

def text? : Json → Option String
  | text s => some s
  | _ => none

def bool? : Json → Option Bool
  | bool b => some b
  | _ => none

def word? : Json → Option UInt32
  | number n => if n < UInt32.size then some (.ofNat n) else none
  | _ => none

/-- A position in a list, of at most 64 bits. -/
def position? : Json → Option Nat
  | number n => if n < UInt64.size then some n else none
  | _ => none

def list? {α : Type} (read : Json → Option α) : Json → Option (List α)
  | list items => items.mapM read
  | _ => none

/-- A table: an object whose names are keys. Names may recur. -/
def table? {α β : Type} (readKey : Key → Option α) (read : Json → Option β) :
    Json → Option (List (α × β))
  | object members => members.mapM fun (key, value) =>
    match readKey key, read value with
    | some k, some v => some (k, v)
    | _, _ => none
  | _ => none

/-- One of a set of words, alone or as the only name of an object that holds `null`. -/
def choice? {α : Type} (ofWord? : String → Option α) : Json → Option α
  | text s => ofWord? s
  | object [(key, null)] => ofWord? key.text
  | _ => none

/-- What was given for the fields of a record. -/
structure Fields where
  /-- The fields were listed in order, without their names. -/
  listed : Bool
  given : List (String × Json)
deriving Repr

/-- The fields of a record: members of known names, each at most once, or a list in order, which may
end early. -/
def fields? (names : List String) : Json → Option Fields
  | object members =>
    let keys := members.map (·.1.text)
    if keys.Nodup ∧ ∀ key ∈ keys, key ∈ names then
      some ⟨false, members.map fun (key, value) => (key.text, value)⟩
    else none
  | list items => if items.length ≤ names.length then some ⟨true, names.zip items⟩ else none
  | _ => none

namespace Fields

variable {α : Type}

def required (f : Fields) (name : String) (read : Json → Option α) : Option α :=
  (f.given.lookup name).bind read

/-- A field with a default. It may be left out, but `null` does not stand for the default. -/
def withDefault (f : Fields) (name : String) (default : α) (read : Json → Option α) : Option α :=
  match f.given.lookup name with
  | none => some default
  | some j => read j

/-- A field that may be `null`. It may be left out only where fields are named. -/
def optional (f : Fields) (name : String) (read : Json → Option α) : Option (Option α) :=
  match f.given.lookup name with
  | none => if f.listed then none else some none
  | some null => some none
  | some j => (read j).map some

end Fields

end NetDesign.Json
