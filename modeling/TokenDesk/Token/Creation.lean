import TokenDesk.Token

/-! Creating token contracts: bytecode followed by the arguments of its constructor. -/

set_option autoImplicit false

namespace TokenDesk

structure TokenParams where
  name : String
  symbol : String
  decimals : Decimals
  totalSupply : Amount
  deriving DecidableEq, Repr

namespace TokenParams

/-- The constructor's arguments; only interchangeable units have decimals and a supply. -/
def arguments (params : TokenParams) : TokenKind → List Abi.Argument
  | .fungible =>
    [.string params.name, .string params.symbol, .uint8 (UInt8.ofNat params.decimals.places),
     .uint params.totalSupply]
  | .nonFungible => [.string params.name, .string params.symbol]

def creationData (params : TokenParams) (kind : TokenKind) (bytecode : List UInt8) :
    Except ContractError (List UInt8) :=
  (Abi.callData bytecode (params.arguments kind)).mapError .abi

end TokenParams

variable {m : Type → Type} [Monad m]

def Transport.deploy (transport : Transport m) (options : SendOptions) (kind : TokenKind)
    (bytecode : List UInt8) (params : TokenParams) : ExceptT ContractError m Sent := do
  let data ← params.creationData kind bytecode
  transport.submit options none data

end TokenDesk
