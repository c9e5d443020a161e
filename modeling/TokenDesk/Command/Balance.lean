import TokenDesk.Desk

/-! Showing how much of a token addresses own. -/

set_option autoImplicit false

namespace TokenDesk.Desk

variable {m : Type → Type} [Monad m]

def validAddresses (desk : Desk m) : List String → Action m (List Address)
  | [] => return []
  | text :: rest => do
    let first ← tryCatch (some <$> desk.parseAddress text) fun _ => pure none
    let others ← validAddresses desk rest
    return first.toList ++ others

/-- Whose balances to show: those of the given addresses, or the payer's if none is given. -/
def owners (desk : Desk m) (given : List String) : Action m (List Address) := do
  if given.isEmpty then return [← desk.payer]
  let addresses ← validAddresses desk given
  if addresses.isEmpty then throw (.refused .noValidAddress)
  return addresses

def sayBalance (desk : Desk m) (owner : Address) (amount symbol : String) : Action m Unit :=
  desk.say (owner.checksummed ++ " " ++ amount ++ " " ++ symbol)

/-- Show the balance of one owner of single tokens, and which tokens these are if the
contract can tell. -/
def sayTokens (desk : Desk m) (token : Erc721 (Rpc.Requests m)) (symbol : String) (owner : Address) :
    Action m Unit := do
  let count ← Action.ofContract (.readBalance owner) (token.contract.balanceOf owner)
  sayBalance desk owner (Amount.decimal count) symbol
  if count ≠ 0 then
    match ← ((token.tokensOfOwner owner).run : Rpc.Requests m (Except ContractError (List Amount))) with
    | .ok ids => desk.say ("\tTokens: " ++ ", ".intercalate (ids.map Amount.decimal))
    | .error _ => pure ()

def balance (desk : Desk m) (given : List String) : Action m Unit := do
  let token ← liftM desk.token
  let owners ← owners desk given
  let symbol ← Action.ofContract .readSymbol token.contract.symbol
  match token.kind with
  | .fungible =>
    let decimals ← Action.ofContract .readDecimals (Erc20.mk token.contract).decimals
    owners.forM fun owner => do
      let amount ← Action.ofContract (.readBalance owner) (token.contract.balanceOf owner)
      sayBalance desk owner (Amount.render decimals amount) symbol
  | .nonFungible => owners.forM (sayTokens desk ⟨token.contract⟩ symbol)

end TokenDesk.Desk
