set_option autoImplicit false

namespace NetDesign.Json

def hexDigit (n : Nat) : Char := Nat.digitChar n

def hexValue? (c : Char) : Option Nat :=
  if '0' ≤ c ∧ c ≤ '9' then some (c.toNat - '0'.toNat)
  else if 'a' ≤ c ∧ c ≤ 'f' then some (c.toNat - 'a'.toNat + 10)
  else if 'A' ≤ c ∧ c ≤ 'F' then some (c.toNat - 'A'.toNat + 10)
  else none

/-- How a character is written inside quotes. Quotes, backslashes and control characters are
escaped, all others stand for themselves. -/
def escape (c : Char) : List Char :=
  match c with
  | '"' => ['\\', '"']
  | '\\' => ['\\', '\\']
  | '\x08' => ['\\', 'b']
  | '\x0c' => ['\\', 'f']
  | '\n' => ['\\', 'n']
  | '\r' => ['\\', 'r']
  | '\t' => ['\\', 't']
  | c =>
    if c < ' ' then ['\\', 'u', '0', '0', hexDigit (c.toNat / 16), hexDigit (c.toNat % 16)]
    else [c]

def quote (s : String) : List Char := '"' :: (s.toList.flatMap escape ++ ['"'])

/-- What stands at one place of a literal. -/
inductive Piece where
  | plain (c : Char)
  /-- A character named by a letter behind a backslash. -/
  | escape (c : Char)
  /-- A UTF-16 unit, named by four hexadecimal digits. -/
  | unit (code : Nat)
deriving DecidableEq, Repr

namespace Piece

def isPlain : Piece → Bool
  | plain _ => true
  | _ => false

def ofHex? (a b c d : Char) : Option Piece :=
  match hexValue? a, hexValue? b, hexValue? c, hexValue? d with
  | some a, some b, some c, some d => some (unit (((a * 16 + b) * 16 + c) * 16 + d))
  | _, _, _, _ => none

def ofLetter? : Char → Option Piece
  | '"' => some (escape '"')
  | '\\' => some (escape '\\')
  | '/' => some (escape '/')
  | 'b' => some (escape '\x08')
  | 'f' => some (escape '\x0c')
  | 'n' => some (escape '\n')
  | 'r' => some (escape '\r')
  | 't' => some (escape '\t')
  | _ => none

/-- Takes a literal apart, up to its closing quote; the rest follows that quote. -/
def scan? : List Char → Option (List Piece × List Char)
  | [] => none
  | '"' :: rest => some ([], rest)
  | '\\' :: 'u' :: a :: b :: c :: d :: rest =>
    (ofHex? a b c d).bind fun p => (scan? rest).map fun (ps, rest) => (p :: ps, rest)
  | '\\' :: letter :: rest =>
    (ofLetter? letter).bind fun p => (scan? rest).map fun (ps, rest) => (p :: ps, rest)
  | c :: rest =>
    if c < ' ' then none else (scan? rest).map fun (ps, rest) => (plain c :: ps, rest)

def isHigh (code : Nat) : Bool := 0xD800 ≤ code && code < 0xDC00

def isLow (code : Nat) : Bool := 0xDC00 ≤ code && code < 0xE000

/-- The text of a literal. A surrogate pair is one character; half a pair is no text. -/
def text? : List Piece → Option (List Char)
  | [] => some []
  | plain c :: rest | escape c :: rest => (text? rest).map (c :: ·)
  | unit code :: rest =>
    if isHigh code then
      match rest with
      | unit low :: rest =>
        if isLow low then
          let c := Char.ofNat (0x10000 + (code - 0xD800) * 0x400 + (low - 0xDC00))
          (text? rest).map (c :: ·)
        else none
      | _ => none
    else if isLow code then none
    else (text? rest).map (Char.ofNat code :: ·)

end Piece

end NetDesign.Json
