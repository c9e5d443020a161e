import TokenDesk.Desk

/-! Showing how much of the chain's own currency accounts hold. -/

set_option autoImplicit false

namespace TokenDesk

structure AccountsRequest where
  unit : Option String
  sums : Bool
  addresses : List String
  deriving DecidableEq, Repr

namespace NativeUnit

def ofName (names : UnitNames) (name : String) : Except Failure NativeUnit :=
  let same := fun (known : String) => known.toList.map Char.toLower = name.toList.map Char.toLower
  if same names.major then .ok .major
  else if same names.minor then .ok .minor
  else .error (.refused (.unknownUnit name names))

def renderIn (names : UnitNames) (amount : Amount) : Option NativeUnit → String
  | some unit => unit.renderNamed names amount
  | none => renderSummary names amount

end NativeUnit

namespace Desk

def totalLines (names : UnitNames) (unit : Option NativeUnit) (balances : List Amount) : List String :=
  ["Number Of Accounts: " ++ toString balances.length,
    "Total Balance: " ++ NativeUnit.renderIn names (balances.foldl (· + ·) 0) unit]

variable {m : Type → Type} [Monad m]

/-- Which accounts to show: the given ones, else those of the node, else the payer's. -/
def accountsToShow (desk : Desk m) (given : List String) : Action m (List Address) := do
  if ¬ given.isEmpty then given.mapM desk.parseAddress
  else
    let accounts ← Action.ofNode .listAccounts desk.client.accounts
    if accounts.isEmpty then return [← desk.payer] else return accounts

def sayAccount (desk : Desk m) (unit : Option NativeUnit) (account : Address) : Action m Amount := do
  let balance ← Action.ofNode (.getBalance account) (desk.client.balance account)
  desk.say ("Address[" ++ account.checksummed ++ "] Balance["
    ++ NativeUnit.renderIn desk.units balance unit ++ "]")
  return balance

def accounts (desk : Desk m) (request : AccountsRequest) : Action m Unit := do
  let unit ← liftM (request.unit.mapM (NativeUnit.ofName desk.units))
  let accounts ← accountsToShow desk request.addresses
  let balances ← accounts.mapM (sayAccount desk unit)
  if request.sums || 1 < balances.length then
    desk.sayAll (totalLines desk.units unit balances)

end Desk

end TokenDesk
