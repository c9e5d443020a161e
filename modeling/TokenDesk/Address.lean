import TokenDesk.Hash.Keccak
import TokenDesk.Text.Hex
import TokenDesk.Text.Utf8

/-! Account addresses: twenty bytes, and their hexadecimal text.

Reading takes forty digits of either case, with or without one `0x` or `0X`.
The checksummed form raises a letter when the digit at its place in the
Keccak-256 hash of the lowercase digits is eight or more.
-/

set_option autoImplicit false

namespace TokenDesk

structure Address where
  bytes : List UInt8
  length_bytes : bytes.length = 20
  deriving DecidableEq, Repr

namespace Address

def ofBytes? (bytes : List UInt8) : Option Address :=
  if h : bytes.length = 20 then some ⟨bytes, h⟩ else none

theorem ofBytes?_eq_some_iff {bytes : List UInt8} {address : Address} :
    ofBytes? bytes = some address ↔ bytes = address.bytes := by
  unfold ofBytes?
  constructor
  · intro held
    split at held
    · cases held
      rfl
    · cases held
  · rintro rfl
    exact dif_pos address.length_bytes

def zero : Address :=
  ⟨List.replicate 20 0, List.length_replicate ..⟩

instance : Inhabited Address := ⟨zero⟩

def isZero (address : Address) : Bool :=
  address = zero

def withoutMark : List Char → List Char
  | '0' :: 'x' :: rest => rest
  | '0' :: 'X' :: rest => rest
  | text => text

def isHexText (text : String) : Bool :=
  let ds := withoutMark text.toList
  ds.length == 40 && ds.all fun c => (Text.Hex.digit? c).isSome

def ofHex? (text : String) : Option Address :=
  if isHexText text then
    (Text.Hex.decode (withoutMark text.toList)).toOption.bind ofBytes?
  else none

def digits (address : Address) : List Char :=
  Text.Hex.encode address.bytes

def lower (address : Address) : String :=
  String.ofList ('0' :: 'x' :: address.digits)

/-- Each letter raised where the digit of the hash at its place is eight or more. -/
def raiseByHash (ds hashDigits : List Char) : List Char :=
  List.zipWith (fun c h => if 8 ≤ (Text.Hex.digit? h).getD 0 then c.toUpper else c) ds hashDigits

def checksummed (address : Address) : String :=
  let hash := Hash.Keccak.hash (Text.Utf8.encode address.digits)
  String.ofList ('0' :: 'x' :: raiseByHash address.digits (Text.Hex.encode hash))

end Address

end TokenDesk
