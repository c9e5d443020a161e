import TokenDesk.Digits

/-! The id of a chain, as the bytes that tagged addresses carry.

Ids that differ in leading zero bytes are different chains, although they show
the same number.
-/

set_option autoImplicit false

namespace TokenDesk

structure ChainId where
  bytes : List UInt8
  deriving DecidableEq, Repr, Inhabited

namespace ChainId

/-- The id of a chain that goes by a number: its shortest bytes, none for zero. -/
def ofNat (n : Nat) : ChainId :=
  ⟨Bytes.ofNat n⟩

def number (chain : ChainId) : Nat :=
  Bytes.toNat chain.bytes

def text (chain : ChainId) : String :=
  toString chain.number

end ChainId

end TokenDesk
