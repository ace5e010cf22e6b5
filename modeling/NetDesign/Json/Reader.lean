import NetDesign.Json
import NetDesign.Json.Literal

set_option autoImplicit false

namespace NetDesign.Json

/-- Drops spaces, tabs and line ends. -/
def skipBlank (cs : List Char) : List Char :=
  cs.dropWhile fun c => c = ' ' || c = '\n' || c = '\t' || c = '\r'

def readKey? (cs : List Char) : Option (Key × List Char) :=
  (Piece.scan? cs).bind fun (pieces, rest) =>
    (Piece.text? pieces).map fun text => (⟨.ofList text, !pieces.all Piece.isPlain⟩, rest)

/-- Reads a natural number. Only zero itself begins with the digit zero. Nothing that is read takes
a sign, a fraction or an exponent. -/
def readNumber? (cs : List Char) : Option (Nat × List Char) :=
  let digits := cs.takeWhile Char.isDigit
  if digits = [] ∨ (digits.head? = some '0' ∧ digits ≠ ['0']) then none
  else some (digits.foldl (fun n c => 10 * n + (c.toNat - '0'.toNat)) 0, cs.dropWhile Char.isDigit)

mutual

def readValue? : Nat → List Char → Option (Json × List Char)
  | 0, _ => none
  | fuel + 1, cs =>
    match skipBlank cs with
    | 'n' :: 'u' :: 'l' :: 'l' :: rest => some (.null, rest)
    | 't' :: 'r' :: 'u' :: 'e' :: rest => some (.bool true, rest)
    | 'f' :: 'a' :: 'l' :: 's' :: 'e' :: rest => some (.bool false, rest)
    | '"' :: rest => (readKey? rest).map fun (key, rest) => (.text key.text, rest)
    | '[' :: rest =>
      match skipBlank rest with
      | ']' :: rest => some (.list [], rest)
      | rest => (readItems? fuel rest).map fun (items, rest) => (.list items, rest)
    | '{' :: rest =>
      match skipBlank rest with
      | '}' :: rest => some (.object [], rest)
      | rest => (readMembers? fuel rest).map fun (members, rest) => (.object members, rest)
    | cs => (readNumber? cs).map fun (n, rest) => (.number n, rest)

/-- Reads the items of a list, of which at least one is due, and the closing bracket. -/
def readItems? : Nat → List Char → Option (List Json × List Char)
  | 0, _ => none
  | fuel + 1, cs =>
    (readValue? fuel cs).bind fun (item, rest) =>
      match skipBlank rest with
      | ',' :: rest => (readItems? fuel rest).map fun (items, rest) => (item :: items, rest)
      | ']' :: rest => some ([item], rest)
      | _ => none

/-- Reads the members of an object, of which at least one is due, and the closing brace. -/
def readMembers? : Nat → List Char → Option (List (Key × Json) × List Char)
  | 0, _ => none
  | fuel + 1, cs =>
    match skipBlank cs with
    | '"' :: rest =>
      (readKey? rest).bind fun (key, rest) =>
        match skipBlank rest with
        | ':' :: rest =>
          (readValue? fuel rest).bind fun (value, rest) =>
            match skipBlank rest with
            | ',' :: rest =>
              (readMembers? fuel rest).map fun (members, rest) => ((key, value) :: members, rest)
            | '}' :: rest => some ([(key, value)], rest)
            | _ => none
        | _ => none
    | _ => none

end

/-- Reads a text that holds one value. Every second step of the recursion takes a character, so
twice the length of the text is fuel enough. -/
def ofText? (s : String) : Option Json :=
  let cs := s.toList
  (readValue? (2 * cs.length + 2) cs).bind fun (value, rest) =>
    if skipBlank rest = [] then some value else none

end NetDesign.Json
