import NetDesign.Inventory.Json
import NetDesign.Json.Reader

set_option autoImplicit false

namespace NetDesign.Json

theorem hexValue?_hexDigit {n : Nat} (single : n < 16) : hexValue? (hexDigit n) = some n := by
  revert n
  decide

namespace Piece

/-- The piece is what the written form of a character is taken apart into. It is plain just where
the character stands for itself. -/
structure Writes (p : Piece) (c : Char) : Prop where
  scan : ∀ rest, scan? (Json.escape c ++ rest) = (scan? rest).map fun r => (p :: r.1, r.2)
  text : ∀ pieces, text? (p :: pieces) = (text? pieces).map (c :: ·)
  plain : p.isPlain = decide (Json.escape c = [c])

theorem ofHex?_control {n : Nat} (control : n < 256) :
    ofHex? '0' '0' (hexDigit (n / 16)) (hexDigit (n % 16)) = some (unit n) := by
  have zero : hexValue? '0' = some 0 := by decide
  have high : hexValue? (hexDigit (n / 16)) = some (n / 16) := hexValue?_hexDigit (by omega)
  have low : hexValue? (hexDigit (n % 16)) = some (n % 16) := hexValue?_hexDigit (by omega)
  have whole : ((0 * 16 + 0) * 16 + n / 16) * 16 + n % 16 = n := by omega
  simp only [ofHex?, zero, high, low, whole]

theorem unit_writes {c : Char} (control : c < ' ')
    (written : Json.escape c =
      ['\\', 'u', '0', '0', hexDigit (c.toNat / 16), hexDigit (c.toNat % 16)]) :
    (unit c.toNat).Writes c := by
  have code : c.toNat < 32 := control
  refine ⟨fun rest => ?_, fun pieces => ?_, ?_⟩
  · simp [written, scan?, ofHex?_control (show c.toNat < 256 by omega)]
  · have notHigh : isHigh c.toNat = false := by simp [isHigh]; omega
    have notLow : isLow c.toNat = false := by simp [isLow]; omega
    rw [text?.eq_def]
    simp [notHigh, notLow]
  · simp [written, isPlain]

theorem escape_writes {c letter : Char} (written : Json.escape c = ['\\', letter])
    (other : letter ≠ 'u') (named : ofLetter? letter = some (escape c)) :
    (escape c).Writes c := by
  refine ⟨fun rest => ?_, fun pieces => by simp [text?], by simp [written, isPlain]⟩
  simp [written, scan?, other, named]

theorem plain_writes {c : Char} (written : Json.escape c = [c]) (quote : c ≠ '"')
    (backslash : c ≠ '\\') (printable : ¬ c < ' ') : (plain c).Writes c := by
  refine ⟨fun rest => ?_, fun pieces => by simp [text?], by simp [written, isPlain]⟩
  simp [written, scan?, backslash, printable]

theorem exists_writes (c : Char) : ∃ p : Piece, p.Writes c := by
  have written := Json.escape.eq_def c
  split at written
  case h_8 quote backslash _ _ _ _ _ =>
    split at written
    case isTrue control => exact ⟨_, unit_writes control written⟩
    case isFalse printable => exact ⟨_, plain_writes written quote backslash printable⟩
  all_goals exact ⟨_, escape_writes written (by decide) rfl⟩

/-- A literal is taken apart up to its own closing quote, whatever follows it. -/
theorem scan?_escaped (chars rest : List Char) :
    ∃ pieces, scan? (chars.flatMap Json.escape ++ '"' :: rest) = some (pieces, rest) ∧
      text? pieces = some chars ∧
      pieces.all isPlain = chars.all fun c => Json.escape c = [c] := by
  induction chars with
  | nil => exact ⟨[], rfl, rfl, rfl⟩
  | cons c chars ih =>
    obtain ⟨pieces, scanned, text, plain⟩ := ih
    obtain ⟨p, writes⟩ := exists_writes c
    refine ⟨p :: pieces, ?_, ?_, ?_⟩
    · rw [List.flatMap_cons, List.append_assoc, writes.scan, scanned, Option.map_some]
    · rw [writes.text, text, Option.map_some]
    · rw [List.all_cons, List.all_cons, writes.plain, plain]

end Piece

/-- A written key is read back as a key of its text, with the escapes that the text needs. -/
theorem readKey?_quoted (s : String) (rest : List Char) :
    readKey? (s.toList.flatMap escape ++ '"' :: rest) = some (.ofText s, rest) := by
  obtain ⟨pieces, scanned, text, plain⟩ := Piece.scan?_escaped s.toList rest
  have escaped : (!pieces.all Piece.isPlain) = s.toList.any fun c => escape c ≠ [c] := by
    rw [plain, List.not_all_eq_any_not]
    simp
  simp [readKey?, scanned, text, escaped, Key.ofText]

end NetDesign.Json
