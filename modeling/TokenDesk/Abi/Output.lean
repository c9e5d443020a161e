import TokenDesk.Abi.CallData

/-! Reading the single value that a contract call returns.

Reading is lenient: what follows the value is ignored, only the low bytes of
an address count, offsets and lengths count by their low eight bytes, and an
offset may point anywhere inside the output. It never reads outside.
-/

set_option autoImplicit false

namespace TokenDesk.Abi

def overrun : Error :=
  .undecodable "ABI decoding failed: buffer overrun while deserializing"

def checkLength (output : List UInt8) : Except Error Unit :=
  if output.isEmpty then .error .emptyOutput
  else if output.length < 32 then .error (.shortOutput output.length)
  else .ok ()

def firstWord (output : List UInt8) : Nat :=
  Bytes.toNat (output.take 32)

/-- The word at the front of `bytes`, if all of it is there, and what follows it. -/
def takeWord (bytes : List UInt8) : Except Error (Nat × List UInt8) :=
  if bytes.length < 32 then .error overrun else .ok (firstWord bytes, bytes.drop 32)

def dynamic (output : List UInt8) : Except Error (Nat × List UInt8) := do
  let (offset, _) ← takeWord output
  let place := offset % Nat.pow 2 64
  if output.length < place then throw overrun
  let (length, rest) ← takeWord (output.drop place)
  return (length % Nat.pow 2 64, rest)

def decodeUint (output : List UInt8) : Except Error Amount := do
  checkLength output
  return firstWord output

def decodeUint8 (output : List UInt8) : Except Error UInt8 := do
  let value ← decodeUint output
  if value < 256 then return UInt8.ofNat value
  throw (.outOfRange (Amount.decimal value))

/-- Every word that is not zero is true. -/
def decodeBool (output : List UInt8) : Except Error Bool := do
  let value ← decodeUint output
  return value != 0

def decodeAddress (output : List UInt8) : Except Error Address := do
  checkLength output
  match Address.ofBytes? ((output.drop 12).take 20) with
  | some address => return address
  | none => throw overrun

def decodeString (output : List UInt8) : Except Error String := do
  checkLength output
  let (length, rest) ← dynamic output
  if rest.length < length then throw overrun
  return String.ofList (Text.Utf8.decodeLossy (rest.take length))

def words (bytes : List UInt8) : (count : Nat) → List Amount
  | 0 => []
  | count + 1 => firstWord bytes :: words (bytes.drop 32) count

def decodeUintArray (output : List UInt8) : Except Error (List Amount) := do
  checkLength output
  let (length, rest) ← dynamic output
  if rest.length / 32 < length then throw overrun
  return words rest length

end TokenDesk.Abi
