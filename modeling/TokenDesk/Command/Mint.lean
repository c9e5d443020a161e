import TokenDesk.Desk

/-! Minting a single token. -/

set_option autoImplicit false

namespace TokenDesk

structure MintRequest where
  destination : String
  tokenId : Option String
  uri : Option String
  deriving DecidableEq, Repr

namespace Desk

variable {m : Type → Type} [Monad m]

def idToMint (token : Erc721 (Rpc.Requests m)) : Option String → Action m Amount
  | some text => liftM (parseTokenId text)
  | none => Action.ofContract .readSupply token.contract.totalSupply

def sendMint (token : Erc721 (Rpc.Requests m)) (options : SendOptions) (destination : Address)
    (id : Amount) : Option String → ExceptT ContractError (Rpc.Requests m) Sent
  | some uri => token.mintWithUri options destination id uri
  | none => token.mint options destination id

/-- Mint a token. The payer must be a minter, and the token must not be there yet. -/
def mint (desk : Desk m) (request : MintRequest) : Action m Unit := do
  let token ← liftM desk.token
  let nft ← liftM ((token.asNonFungible "mint").mapError Failure.contract)
  let payer ← desk.payer
  let isMinter ← Action.ofContract .checkMinter (nft.isMinter payer)
  if ¬ isMinter then throw (.refused (.notMinter payer nft.contract.address))
  let destination ← desk.parseAddress request.destination
  let id ← idToMint nft request.tokenId
  let isPresent ← Action.ofContract .checkExistence (nft.exists id)
  if isPresent then throw (.refused (.tokenPresent id))
  desk.unlock payer
  let sent ← Action.ofContract .sendMint (sendMint nft (.of payer) destination id request.uri)
  desk.say ("Mint token " ++ Amount.decimal id ++ " to " ++ destination.checksummed)
  desk.confirm sent true

end Desk

end TokenDesk
