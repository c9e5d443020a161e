import TokenDesk.Address
import TokenDesk.Amount

/-! Call data: a selector or bytecode, followed by encoded arguments.

The arguments have a head of one word each. A fixed argument stands in its
word; a string has there the offset of its tail, which holds the length, the
bytes and zeros up to a whole word. Tails follow the head in order.
-/

set_option autoImplicit false

namespace TokenDesk.Abi

inductive Error where
  | valueTooLarge
  | shortOutput (got : Nat)
  | outOfRange (value : String)
  | undecodable (reason : String)
  | emptyOutput
  deriving DecidableEq, Repr

def Error.message : Error → String
  | valueTooLarge => "value does not fit in uint256"
  | shortOutput got => "contract returned " ++ toString got ++ " bytes, expected at least 32"
  | outOfRange value => "value " ++ value ++ " does not fit the declared result type"
  | undecodable reason => "abi decode failed: " ++ reason
  | emptyOutput => "contract returned no data; is there a contract at this address?"

/-- A number as the 32 bytes of one word; higher bits are lost. -/
def word (n : Nat) : List UInt8 :=
  Bytes.ofNatFixed 32 n

inductive Argument where
  | address (value : Address)
  | uint (value : Amount)
  | uint8 (value : UInt8)
  | string (value : String)
  deriving DecidableEq, Repr

namespace Argument

def fits : Argument → Bool
  | uint value => value < Nat.pow 2 256
  | _ => true

def utf8 (text : String) : List UInt8 :=
  Text.Utf8.encode text.toList

def padded (bytes : List UInt8) : List UInt8 :=
  bytes ++ List.replicate ((32 - bytes.length % 32) % 32) 0

def tail : Argument → List UInt8
  | string value => word (utf8 value).length ++ padded (utf8 value)
  | _ => []

def head (offset : Nat) : Argument → List UInt8
  | address value => word (Bytes.toNat value.bytes)
  | uint value => word value
  | uint8 value => word value.toNat
  | string _ => word offset

/-- The words of the arguments, the first tail of which begins at the given offset. -/
def heads (offset : Nat) : List Argument → List UInt8
  | [] => []
  | argument :: rest => argument.head offset ++ heads (offset + argument.tail.length) rest

def encode (arguments : List Argument) : List UInt8 :=
  heads (32 * arguments.length) arguments ++ arguments.flatMap tail

end Argument

/-- The first four bytes of the hash of a function's signature. -/
def selector (signature : String) : List UInt8 :=
  (Hash.Keccak.hash (Argument.utf8 signature)).take 4

def callData (front : List UInt8) (arguments : List Argument) : Except Error (List UInt8) :=
  if arguments.all Argument.fits then .ok (front ++ Argument.encode arguments)
  else .error .valueTooLarge

end TokenDesk.Abi
