import TokenDesk.Contract

/-! The operations of the two token standards, and contracts of either.

Asking a contract for an operation of the other standard is an error that
names the capability, and no node hears of it.
-/

set_option autoImplicit false

namespace TokenDesk

structure Erc20 (m : Type → Type) where
  contract : Contract m

structure Erc721 (m : Type → Type) where
  contract : Contract m

variable {m : Type → Type} [Monad m]

namespace Erc20

def decimals (token : Erc20 m) : ExceptT ContractError m Decimals := do
  let places ← token.contract.ask "decimals()" [] Abi.decodeUint8
  liftM ((Decimals.ofNat places.toNat).mapError ContractError.amount)

def transfer (token : Erc20 m) (options : SendOptions) (destination : Address) (amount : Amount) :
    ExceptT ContractError m Sent :=
  token.contract.transact options "transfer(address,uint256)" [.address destination, .uint amount]

end Erc20

namespace Erc721

def ownerOf (token : Erc721 m) (id : Amount) : ExceptT ContractError m Address :=
  token.contract.ask "ownerOf(uint256)" [.uint id] Abi.decodeAddress

def «exists» (token : Erc721 m) (id : Amount) : ExceptT ContractError m Bool :=
  token.contract.ask "exists(uint256)" [.uint id] Abi.decodeBool

def tokenUri (token : Erc721 m) (id : Amount) : ExceptT ContractError m String :=
  token.contract.ask "tokenURI(uint256)" [.uint id] Abi.decodeString

def isMinter (token : Erc721 m) (account : Address) : ExceptT ContractError m Bool :=
  token.contract.ask "isMinter(address)" [.address account] Abi.decodeBool

def tokensOfOwner (token : Erc721 m) (owner : Address) : ExceptT ContractError m (List Amount) :=
  token.contract.ask "tokensOfOwner(address)" [.address owner] Abi.decodeUintArray

def transferFrom (token : Erc721 m) (options : SendOptions) (owner destination : Address) (id : Amount) :
    ExceptT ContractError m Sent :=
  token.contract.transact options "transferFrom(address,address,uint256)"
    [.address owner, .address destination, .uint id]

def mint (token : Erc721 m) (options : SendOptions) (destination : Address) (id : Amount) :
    ExceptT ContractError m Sent :=
  token.contract.transact options "mint(address,uint256)" [.address destination, .uint id]

def mintWithUri (token : Erc721 m) (options : SendOptions) (destination : Address) (id : Amount)
    (uri : String) : ExceptT ContractError m Sent :=
  token.contract.transact options "mintWithTokenURI(address,uint256,string)"
    [.address destination, .uint id, .string uri]

end Erc721

structure Token (m : Type → Type) where
  kind : TokenKind
  contract : Contract m

/-- What a token contract tells of itself. Only interchangeable units have decimals. -/
structure TokenSummary where
  kind : TokenKind
  address : Address
  name : String
  symbol : String
  decimals : Option Decimals
  totalSupply : Amount
  deriving DecidableEq, Repr

namespace Token

def asFungible (token : Token m) (capability : String) : Except ContractError (Erc20 m) :=
  match token.kind with
  | .fungible => .ok ⟨token.contract⟩
  | .nonFungible => .error (.wrongKind capability .fungible .nonFungible)

def asNonFungible (token : Token m) (capability : String) : Except ContractError (Erc721 m) :=
  match token.kind with
  | .nonFungible => .ok ⟨token.contract⟩
  | .fungible => .error (.wrongKind capability .nonFungible .fungible)

def decimals (token : Token m) : ExceptT ContractError m Decimals := do
  let fungible ← token.asFungible "decimals"
  fungible.decimals

def summary (token : Token m) : ExceptT ContractError m TokenSummary := do
  let decimals ← match token.kind with
    | .fungible => some <$> (Erc20.mk token.contract).decimals
    | .nonFungible => pure none
  let name ← token.contract.name
  let symbol ← token.contract.symbol
  let totalSupply ← token.contract.totalSupply
  return { kind := token.kind, address := token.contract.address, name, symbol, decimals, totalSupply }

end Token

end TokenDesk
