import NetDesign.Address

set_option autoImplicit false

namespace NetDesign

/-- A run of `1` to `width` decimal digits below `bound`. -/
def number? (width bound : Nat) (digits : List Char) : Option Nat :=
  if 1 ≤ digits.length ∧ digits.length ≤ width ∧ digits.all Char.isDigit then
    let n := digits.foldl (fun n c => 10 * n + (c.toNat - '0'.toNat)) 0
    if n < bound then some n else none
  else none

namespace Address

def octets (a : Address) : List Nat :=
  [a.value / 16777216, a.value / 65536 % 256, a.value / 256 % 256, a.value % 256]

/-- Four octets in decimal, separated by dots. -/
def text (a : Address) : String := ".".intercalate (a.octets.map Nat.repr)

def ofOctets? : List Nat → Option Address
  | [a, b, c, d] => some (.ofOctets a b c d)
  | _ => none

/-- Reads four octets, whose digits may be padded with zeros. -/
def ofPadded? (chars : List Char) : Option Address :=
  ((chars.splitOn '.').mapM (number? 3 256)).bind ofOctets?

/-- Reads an address written as `Address.text` writes it. -/
def ofText? (s : String) : Option Address :=
  (ofPadded? s.toList).filter fun a => a.text = s

end Address

namespace Net

def text (n : Net) : String := n.address.text ++ "/" ++ n.length.repr

/-- Reads a block, whose length may be padded as well, to two digits. -/
def ofText? (s : String) : Option Net :=
  match s.toList.splitOn '/' with
  | [address, length] =>
    match Address.ofPadded? address, number? 2 33 length with
    | some a, some n => if fits : n ≤ 32 then some ⟨a, n, fits⟩ else none
    | _, _ => none
  | _ => none

end Net

end NetDesign
