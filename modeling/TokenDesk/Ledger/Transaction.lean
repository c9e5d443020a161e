import TokenDesk.Text.Hex

/-! The id of a transaction: the 32 bytes of its hash. -/

set_option autoImplicit false

namespace TokenDesk

structure TxId where
  bytes : List UInt8
  length_bytes : bytes.length = 32
  deriving DecidableEq, Repr

namespace TxId

structure Fault where
  text : String
  cause : Text.Hex.Error
  deriving DecidableEq, Repr

def Fault.message (fault : Fault) : String :=
  "bad transaction hash '" ++ fault.text ++ "': " ++ fault.cause.message

def hex (id : TxId) : String :=
  String.ofList ('0' :: 'x' :: Text.Hex.encode id.bytes)

def withoutMark : List Char → List Char
  | '0' :: 'x' :: rest => rest
  | text => text

/-- Read 64 digits of either case, with or without one `0x`. -/
def parse (text : String) : Except Fault TxId :=
  match Text.Hex.decodeExactly 32 (withoutMark text.toList) with
  | .error cause => .error ⟨text, cause⟩
  | .ok bytes =>
    if h : bytes.length = 32 then .ok ⟨bytes, h⟩ else .error ⟨text, .wrongLength⟩

end TxId

end TokenDesk
