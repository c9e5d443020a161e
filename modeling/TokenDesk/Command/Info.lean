import TokenDesk.Desk
import TokenDesk.Json.Reader
import TokenDesk.Json.Writer

/-! Telling what the contract is, and what one of its tokens is. -/

set_option autoImplicit false

namespace TokenDesk.Desk

def summaryLines (summary : TokenSummary) : List String :=
  ["Contract: " ++ summary.address.checksummed, "Standard: " ++ summary.kind.standard,
    "Name: " ++ summary.name, "Symbol: " ++ summary.symbol]
    ++ match summary.decimals with
      | some decimals =>
        ["Decimals: " ++ toString decimals.places,
          "TotalSupply: " ++ Amount.render decimals summary.totalSupply ++ " " ++ summary.symbol]
      | none => ["TotalSupply: " ++ Amount.decimal summary.totalSupply]

def isWebLink (uri : String) : Bool :=
  (Text.stripStart? "http://".toList uri.toList).isSome
    || (Text.stripStart? "https://".toList uri.toList).isSome

/-- A document laid out for reading if it is JSON, and as it is otherwise. -/
def laidOut (body : String) : String :=
  match Json.parse? body with
  | some json => json.settled.pretty
  | none => body

variable {m : Type → Type} [Monad m]

def sayMetadata (desk : Desk m) (uri : String) : Action m Unit := do
  match ← (desk.host.web.get uri : m (Except String HttpReply)) with
  | .ok reply => if ¬ reply.isFailure then desk.say ("Metadata: " ++ laidOut reply.body)
  | .error _ => pure ()

def tokenInfo (desk : Desk m) (token : Erc721 (Rpc.Requests m)) (id : Amount) : Action m Unit := do
  let isPresent ← Action.ofContract .checkExistence (token.exists id)
  if ¬ isPresent then
    desk.say ("Token " ++ Amount.decimal id ++ " does not exist")
  else
    let owner ← Action.ofContract .readOwner (token.ownerOf id)
    let uri ← Action.ofContract .readUri (token.tokenUri id)
    desk.sayAll ["TokenID: " ++ Amount.decimal id, "Owner: " ++ owner.checksummed, "URI: " ++ uri]
    if isWebLink uri then sayMetadata desk uri

def info (desk : Desk m) (tokenId : Option String) : Action m Unit := do
  let token ← liftM desk.token
  let summary ← Action.ofContract .readSummary token.summary
  desk.sayAll (summaryLines summary)
  if let some text := tokenId then
    let nft ← liftM ((token.asNonFungible "token details").mapError Failure.contract)
    let id ← liftM (parseTokenId text)
    tokenInfo desk nft id

end TokenDesk.Desk
