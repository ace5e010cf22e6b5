import NetDesign.Json
import NetDesign.Json.Literal

set_option autoImplicit false

namespace NetDesign.Json

def indent (depth : Nat) : List Char := List.replicate (2 * depth) ' '

/-- Entries between brackets, one a line; nothing stands between the brackets of none. -/
def bracket (opening closing : Char) (depth : Nat) (entries : List (List Char)) : List Char :=
  if entries = [] then [opening, closing]
  else
    opening :: '\n' :: [',', '\n'].intercalate (entries.map (indent (depth + 1) ++ ·))
      ++ '\n' :: indent depth ++ [closing]

mutual

/-- The text of a value that stands at a level of nesting. -/
def print (depth : Nat) : Json → List Char
  | null => ['n', 'u', 'l', 'l']
  | bool true => ['t', 'r', 'u', 'e']
  | bool false => ['f', 'a', 'l', 's', 'e']
  | number n => n.repr.toList
  | text s => quote s
  | list items => bracket '[' ']' depth (printItems (depth + 1) items)
  | object members => bracket '\x7b' '\x7d' depth (printMembers (depth + 1) members)

def printItems (depth : Nat) : List Json → List (List Char)
  | [] => []
  | item :: rest => print depth item :: printItems depth rest

def printMembers (depth : Nat) : List (Key × Json) → List (List Char)
  | [] => []
  | (key, value) :: rest =>
    (quote key.text ++ ':' :: ' ' :: print depth value) :: printMembers depth rest

end

def pretty (j : Json) : String := .ofList (j.print 0)

end NetDesign.Json
