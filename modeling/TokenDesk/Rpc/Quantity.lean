import TokenDesk.Address.Tagged
import TokenDesk.Amount
import TokenDesk.Json.Mismatch
import TokenDesk.Ledger.Transaction
import TokenDesk.Text.Blank

/-! Byte strings and numbers as a node writes them, and what can be wrong with them.

Both are hexadecimal with `0x` in front. A number is written without leading
zeros, but read with any number of them.
-/

set_option autoImplicit false

namespace TokenDesk.Rpc

inductive WordError where
  | invalidDigit
  | tooLarge
  deriving DecidableEq, Repr

def WordError.message : WordError → String
  | invalidDigit => "invalid digit found in string"
  | tooLarge => "number too large to fit in target type"

inductive Fault where
  | undecodable
  | badHexData (text : String) (cause : Text.Hex.Error)
  | unmarkedQuantity (text : String)
  | emptyQuantity (text : String)
  | badWord (text : String) (cause : WordError)
  | badAmount (text : String) (cause : Text.Hex.Error)
  | badNetworkVersion (text : String)
  /-- A result of another type than the method has. -/
  | wrongResult (method expected : String) (found : Json)
  | notAnAddress (found : Json)
  | badAddress (cause : AddressError)
  | badTransaction (cause : TxId.Fault)
  | badReceipt (cause : Json.Mismatch)
  deriving Repr

def Fault.message : Fault → String
  | undecodable => "error decoding response body"
  | badHexData text cause => "bad hex data '" ++ text ++ "': " ++ cause.message
  | unmarkedQuantity text => "quantity '" ++ text ++ "' lacks 0x prefix"
  | emptyQuantity text => "empty quantity '" ++ text ++ "'"
  | badWord text cause => "bad quantity '" ++ text ++ "': " ++ cause.message
  | badAmount text cause => "bad quantity '" ++ text ++ "': " ++ cause.message
  | badNetworkVersion text => "bad network version '" ++ text ++ "'"
  | wrongResult method expected found =>
    method ++ ": expected " ++ expected ++ ", got " ++ found.compact
  | notAnAddress found => "expected an address, got " ++ found.compact
  | badAddress cause => cause.message
  | badTransaction cause => "invalid ledger response: " ++ cause.message
  | badReceipt cause => cause.message

def bytesText (bytes : List UInt8) : String :=
  String.ofList ('0' :: 'x' :: Text.Hex.encode bytes)

def quantityDigits (n : Nat) : List Char :=
  if n = 0 then ['0'] else (Digits.digits 16 n).map Text.Hex.digit

def quantityText (n : Nat) : String :=
  String.ofList ('0' :: 'x' :: quantityDigits n)

/-- The same of an amount of any size: the digits of its bytes, without the zeros in front. -/
def amountText (amount : Amount) : String :=
  match (Text.Hex.encode amount.toBytes).dropWhile (· == '0') with
  | [] => "0x0"
  | trimmed => String.ofList ('0' :: 'x' :: trimmed)

def parseBytes (text : String) : Except Fault (List UInt8) :=
  (Text.Hex.decode (TxId.withoutMark text.toList)).mapError (.badHexData text)

def markedDigits (text : String) : Except Fault (List Char) :=
  match text.toList with
  | ['0', 'x'] => .error (.emptyQuantity text)
  | '0' :: 'x' :: digits => .ok digits
  | _ => .error (.unmarkedQuantity text)

/-- Read digits behind those that spell `value`, as long as the number stays below 2^64. -/
def wordFrom (value : Nat) : List Char → Except WordError Nat
  | [] => .ok value
  | c :: rest =>
    match Text.Hex.digit? c with
    | none => .error .invalidDigit
    | some d =>
      if value * 16 + d < Nat.pow 2 64 then wordFrom (value * 16 + d) rest else .error .tooLarge

def unsigned : List Char → List Char
  | '+' :: digits => digits
  | digits => digits

/-- Read a number of 64 bits, which may have a plus sign behind the mark. -/
def parseWord (text : String) : Except Fault UInt64 := do
  let digits ← markedDigits text
  let value ← if (unsigned digits).isEmpty then .error (.badWord text .invalidDigit)
    else (wordFrom 0 (unsigned digits)).mapError (.badWord text)
  return UInt64.ofNat value

def parseAmount (text : String) : Except Fault Amount := do
  let digits ← markedDigits text
  let even := if Text.Hex.byteLength digits % 2 = 1 then '0' :: digits else digits
  let bytes ← (Text.Hex.decode even).mapError (.badAmount text)
  return Bytes.toNat bytes

def parseNetworkVersion (text : String) : Except Fault ChainId :=
  match Amount.parse .zero (String.ofList (Text.trim text.toList)) with
  | .ok n => .ok (.ofNat n)
  | .error _ => .error (.badNetworkVersion text)

def parseAddress (text : String) : Except Fault Address :=
  (Address.parseHex text).mapError .badAddress

end TokenDesk.Rpc
