import TokenDesk.Desk

/-! Paying one address: an amount of interchangeable units, or a single token. -/

set_option autoImplicit false

namespace TokenDesk

structure PayRequest where
  /-- An amount, the word for the whole balance, or a token's id. -/
  amount : String
  destination : String
  waits : Bool
  deriving DecidableEq, Repr

namespace Desk

def isWholeBalance (text : String) : Bool :=
  text.toList.map Char.toLower = ['a', 'l', 'l']

/-- The amount that a text asks to pay, which is positive and covered by the balance. -/
def paymentOf (text : String) (balance : Amount) (decimals : Decimals) : Except Failure Amount := do
  let amount ←
    if isWholeBalance text then .ok balance
    else (Amount.parse decimals text).mapError fun cause =>
      .during (.parsePayment text) (.amount cause)
  if amount = 0 then throw (.refused .zeroPayment)
  if balance < amount then throw (.refused (.balanceTooLow decimals balance amount))
  return amount

variable {m : Type → Type} [Monad m]

def payUnits (desk : Desk m) (token : Erc20 (Rpc.Requests m)) (payer destination : Address)
    (text : String) : Action m Sent := do
  let decimals ← Action.ofContract .readDecimals token.decimals
  let symbol ← Action.ofContract .readSymbol token.contract.symbol
  let balance ← Action.ofContract (.readBalance payer) (token.contract.balanceOf payer)
  let amount ← liftM (paymentOf text balance decimals)
  desk.unlock payer
  let sent ← Action.ofContract .sendTransfer (token.transfer (.of payer) destination amount)
  desk.say ("Pay " ++ Amount.render decimals amount ++ " " ++ symbol ++ " from "
    ++ payer.checksummed ++ " to " ++ destination.checksummed)
  return sent

def payToken (desk : Desk m) (token : Erc721 (Rpc.Requests m)) (payer destination : Address)
    (text : String) : Action m Sent := do
  let id ← liftM (parseTokenId text)
  let owner ← Action.ofContract (.readOwnerOf id) (token.ownerOf id)
  if owner ≠ payer then
    desk.say ("Warning: token " ++ Amount.decimal id ++ " is owned by " ++ owner.checksummed
      ++ ", not by " ++ payer.checksummed)
  desk.unlock payer
  let sent ← Action.ofContract .sendTransfer (token.transferFrom (.of payer) payer destination id)
  desk.say ("Pay token " ++ Amount.decimal id ++ " from " ++ payer.checksummed
    ++ " to " ++ destination.checksummed)
  return sent

def pay (desk : Desk m) (request : PayRequest) : Action m Unit := do
  let token ← liftM desk.token
  let payer ← desk.payer
  let destination ← desk.parseAddress request.destination
  let sent ← match token.kind with
    | .fungible => payUnits desk ⟨token.contract⟩ payer destination request.amount
    | .nonFungible => payToken desk ⟨token.contract⟩ payer destination request.amount
  desk.confirm sent request.waits

end Desk

end TokenDesk
