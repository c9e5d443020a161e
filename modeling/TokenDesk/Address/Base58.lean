import TokenDesk.Digits
import TokenDesk.Hash.Sha256
import TokenDesk.Text.Hex

/-! Base-58 text of byte strings, plain and with a checksum.

The bytes are one big number written in 58 digits; each leading zero byte is
kept as one leading digit `1`. The checked form appends the first four bytes
of the double SHA-256 hash before it is written.
-/

set_option autoImplicit false

namespace TokenDesk.Base58

inductive Error where
  /-- A character beyond ASCII, and how many bytes of text precede it. -/
  | notAscii (position : Nat)
  | notADigit (found : Char) (position : Nat)
  | noChecksum
  | checksumMismatch
  deriving DecidableEq, Repr

def Error.message : Error → String
  | .notAscii position =>
    "provided string contained non-ascii character starting at byte " ++ toString position
  | .notADigit found position =>
    "provided string contained invalid character " ++ Text.Literal.quote found
      ++ " at byte " ++ toString position
  | .noChecksum => "provided string is too small to contain a checksum"
  | .checksumMismatch => "checksum mismatch"

def alphabet : List Char :=
  "123456789ABCDEFGHJKLMNPQRSTUVWXYZabcdefghijkmnopqrstuvwxyz".toList

def digit (n : Nat) : Char :=
  alphabet.getD n '1'

def digit? (c : Char) : Option Nat :=
  alphabet.idxOf? c

/-- The plain form: a digit `1` for each leading zero byte, then the number. -/
def encode (bytes : List UInt8) : List Char :=
  let zeros := bytes.takeWhile (· == 0)
  zeros.map (fun _ => '1') ++ (Digits.digits 58 (Bytes.toNat bytes)).map digit

/-- The values of the digits, `position` bytes of text into the whole. -/
def digitValues (position : Nat) : List Char → Except Error (List Nat)
  | [] => .ok []
  | c :: rest =>
    if 127 < c.toNat then .error (.notAscii position)
    else match digit? c with
      | none => .error (.notADigit c position)
      | some d => (digitValues (position + 1) rest).map (d :: ·)

def decode (text : List Char) : Except Error (List UInt8) :=
  (digitValues 0 text).map fun ds =>
    let zeros := ds.takeWhile (· == 0)
    zeros.map (fun _ => 0) ++ Bytes.ofNat (Digits.value 58 ds)

def checksum (bytes : List UInt8) : List UInt8 :=
  (Hash.Sha256.hash (Hash.Sha256.hash bytes)).take 4

def encodeChecked (bytes : List UInt8) : List Char :=
  encode (bytes ++ checksum bytes)

def decodeChecked (text : List Char) : Except Error (List UInt8) := do
  let bytes ← decode text
  if bytes.length < 4 then throw .noChecksum
  let payload := bytes.take (bytes.length - 4)
  if bytes.drop (bytes.length - 4) = checksum payload then return payload
  throw .checksumMismatch

end TokenDesk.Base58
