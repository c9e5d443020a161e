import TokenDesk.Json.Reader
import TokenDesk.Json.Writer

/-! Strings that are written in JSON are read as they were.

Each character is written alone, so it is enough to read what stands for one character
and to go on with what follows it.
-/

set_option autoImplicit false

namespace TokenDesk.Json

def shortControls : List Char := ['\n', '\r', '\t', '\x08', '\x0c']

/-- What is read where a character was written: a code unit for a control character without a short escape. -/
def pieceOf (c : Char) : Piece :=
  if c.toNat < 0x20 ∧ c ∉ shortControls then .unit c.toNat else .character c

variable {c : Char} {text rest : List Char}

theorem codeUnit?_control (control : c.toNat < 0x20) :
    codeUnit? '0' '0' (Text.Hex.digit (c.toNat / 16)) (Text.Hex.digit (c.toNat % 16)) = some c.toNat := by
  have zero : Text.Hex.digit? '0' = some 0 := by decide
  have high : c.toNat / 16 < 16 := by omega
  have low : c.toNat % 16 < 16 := by omega
  have together : c.toNat / 16 * 16 + c.toNat % 16 = c.toNat := by omega
  simp [codeUnit?, zero, Text.Hex.digit?_digit high, Text.Hex.digit?_digit low, together]

theorem pieces_escape (c : Char) (rest : List Char) :
    pieces (escape c ++ rest) = (pieces rest).map fun (more, after) => (pieceOf c :: more, after) := by
  -- One case for each escape of its own, then the control characters and the rest.
  by_cases quote : c = '"'
  · subst quote; rfl
  by_cases backslash : c = '\\'
  · subst backslash; rfl
  by_cases newline : c = '\n'
  · subst newline; rfl
  by_cases carriage : c = '\r'
  · subst carriage; rfl
  by_cases tab : c = '\t'
  · subst tab; rfl
  by_cases backspace : c = '\x08'
  · subst backspace; rfl
  by_cases feed : c = '\x0c'
  · subst feed; rfl
  by_cases control : c.toNat < 0x20
  · simp [pieceOf, shortControls, escape, *, pieces, codeUnit?_control]
  · simp [pieceOf, escape, *, pieces]

theorem pieces_escaped (text rest : List Char) :
    pieces (text.flatMap escape ++ '"' :: rest) = some (text.map pieceOf, rest) := by
  induction text with
  | nil => rfl
  | cons c more ih => simp [List.flatMap_cons, List.append_assoc, pieces_escape, ih]

theorem characters?_map_pieceOf (text : List Char) : characters? (text.map pieceOf) = some text := by
  induction text with
  | nil => rfl
  | cons c more ih =>
    rw [List.map_cons, pieceOf]
    by_cases control : c.toNat < 32 ∧ c ∉ shortControls
    · rw [if_pos control]
      have unpaired : c.toNat < 0xD800 := by omega
      rw [characters?.eq_def]
      simp [unpaired, ih]
    · rw [if_neg control]
      simp [characters?, ih]

theorem stringRest_escaped (text : String) (rest : List Char) :
    stringRest (text.toList.flatMap escape ++ '"' :: rest) = some (text, rest) := by
  simp [stringRest, pieces_escaped, characters?_map_pieceOf]

theorem parse?_string (text : String) : parse? (compact (.string text)) = some (.string text) := by
  have opened : value depthLimit ('"' :: (text.toList.flatMap escape ++ '"' :: [])) =
      (stringRest (text.toList.flatMap escape ++ '"' :: [])).map fun read => (.string read.1, read.2) := rfl
  simp [parse?, readAll?, compact, quoted, opened, stringRest_escaped, skipSpace]

end TokenDesk.Json
