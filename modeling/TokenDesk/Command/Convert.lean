import TokenDesk.Desk

/-! Converting an address between its hexadecimal and its tagged form. -/

set_option autoImplicit false

namespace TokenDesk

structure ConvertRequest where
  address : String
  /-- The number of the chain; the node is asked for its own if none is given. -/
  chain : Option UInt64
  deriving DecidableEq, Repr

namespace Desk

def converted (text : String) (chain : ChainId) : Except Failure String :=
  match Address.parseHex text with
  | .ok address => .ok (address.tagged chain)
  | .error _ =>
    match Address.parseTagged chain text with
    | .ok address => .ok address.checksummed
    | .error cause => .error (.during (.parseTagged text chain) (.address cause))

variable {m : Type → Type} [Monad m]

def convert (desk : Desk m) (request : ConvertRequest) : Action m Unit := do
  let chain ← match request.chain with
    | some number => pure (ChainId.ofNat number.toNat)
    | none => desk.chainId
  let text ← liftM (converted request.address chain)
  desk.say text

end Desk

end TokenDesk
