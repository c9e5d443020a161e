import TokenDesk.Text.Literal

/-! Hexadecimal text of byte strings.

Encoding writes two lowercase digits for each byte. Decoding takes digits of
either case and names the first thing wrong: an odd number of bytes of text, a
length that is not the one asked for, or the first character that is no digit.
-/

set_option autoImplicit false

namespace TokenDesk.Text.Hex

inductive Error where
  | oddLength
  | wrongLength
  /-- The first character that is no digit, and how many bytes of text precede it. -/
  | notADigit (found : Char) (position : Nat)
  deriving DecidableEq, Repr

def leadByte (c : Char) : Char :=
  match String.utf8EncodeChar c with
  | [] => c
  | byte :: _ => Char.ofNat byte.toNat

def Error.message : Error → String
  | .oddLength => "Odd number of digits"
  | .wrongLength => "Invalid string length"
  | .notADigit found position =>
    "Invalid character " ++ Literal.quote (leadByte found) ++ " at position " ++ toString position

def digit (n : Nat) : Char :=
  if n < 10 then Char.ofNat (n + 48) else Char.ofNat (n + 87)

def digit? (c : Char) : Option Nat :=
  let n := c.toNat
  if 48 ≤ n ∧ n ≤ 57 then some (n - 48)
  else if 97 ≤ n ∧ n ≤ 102 then some (n - 87)
  else if 65 ≤ n ∧ n ≤ 70 then some (n - 55)
  else none

def encode : List UInt8 → List Char
  | [] => []
  | byte :: rest => digit (byte.toNat / 16) :: digit (byte.toNat % 16) :: encode rest

/-- Read pairs of digits, `position` bytes of text into the whole. -/
def decodePairs (position : Nat) : List Char → Except Error (List UInt8)
  | [] => .ok []
  | [c] => .error (.notADigit c position)
  | high :: low :: rest =>
    match digit? high, digit? low with
    | none, _ => .error (.notADigit high position)
    | _, none => .error (.notADigit low (position + 1))
    | some h, some l => (decodePairs (position + 2) rest).map (UInt8.ofNat (h * 16 + l) :: ·)

def byteLength (text : List Char) : Nat :=
  text.foldr (fun c rest => c.utf8Size + rest) 0

def decode (text : List Char) : Except Error (List UInt8) :=
  if byteLength text % 2 = 1 then .error .oddLength else decodePairs 0 text

def decodeExactly (size : Nat) (text : List Char) : Except Error (List UInt8) :=
  if byteLength text % 2 = 1 then .error .oddLength
  else if byteLength text ≠ 2 * size then .error .wrongLength
  else decodePairs 0 text

theorem digit?_digit {n : Nat} (h : n < 16) : digit? (digit n) = some n := by
  have all : ∀ k ∈ List.range 16, digit? (digit k) = some k := by decide
  exact all n (List.mem_range.2 h)

theorem utf8Size_digit {n : Nat} (h : n < 16) : (digit n).utf8Size = 1 := by
  have all : ∀ k ∈ List.range 16, (digit k).utf8Size = 1 := by decide
  exact all n (List.mem_range.2 h)

@[simp] theorem length_encode (bytes : List UInt8) : (encode bytes).length = 2 * bytes.length := by
  induction bytes with
  | nil => rfl
  | cons byte rest ih => simp [encode, ih]; omega

@[simp] theorem byteLength_encode (bytes : List UInt8) :
    byteLength (encode bytes) = 2 * bytes.length := by
  induction bytes with
  | nil => rfl
  | cons byte rest ih =>
    have bound : byte.toNat < 256 := byte.toNat_lt
    simp only [byteLength] at ih
    simp only [byteLength, encode, List.foldr_cons, ih, List.length_cons,
      utf8Size_digit (show byte.toNat / 16 < 16 by omega),
      utf8Size_digit (show byte.toNat % 16 < 16 by omega)]
    omega

theorem decodePairs_encode (position : Nat) (bytes : List UInt8) :
    decodePairs position (encode bytes) = .ok bytes := by
  induction bytes generalizing position with
  | nil => rfl
  | cons byte rest ih =>
    have bound : byte.toNat < 256 := byte.toNat_lt
    simp only [encode, decodePairs, digit?_digit (show byte.toNat / 16 < 16 by omega),
      digit?_digit (show byte.toNat % 16 < 16 by omega), ih, Except.map,
      show byte.toNat / 16 * 16 + byte.toNat % 16 = byte.toNat by omega, UInt8.ofNat_toNat]

@[simp] theorem decode_encode (bytes : List UInt8) : decode (encode bytes) = .ok bytes := by
  simp [decode, decodePairs_encode]

end TokenDesk.Text.Hex
