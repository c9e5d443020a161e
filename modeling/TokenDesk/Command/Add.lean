import TokenDesk.Desk
import TokenDesk.Settings.Storage

/-! Saving a contract under a symbol. -/

set_option autoImplicit false

namespace TokenDesk

structure AddRequest where
  contract : String
  /-- The symbol; the contract is asked for its own if none is given. -/
  symbol : Option String
  deriving DecidableEq, Repr

namespace Desk

variable {m : Type → Type} [Monad m]

def symbolFor (contract : Contract (Rpc.Requests m)) : Option String → Action m String
  | some symbol => pure symbol
  | none => Action.ofContract .readMissingSymbol contract.symbol

def add (desk : Desk m) (file : SettingsFile) (settingsPath : String) (request : AddRequest) :
    Action m Unit := do
  let address ← liftM <| (Address.parseHex request.contract).mapError fun cause =>
    Failure.during (.parseContract request.contract) (.address cause)
  let symbol ← symbolFor (desk.contractAt address) request.symbol
  match ← liftM ((file.addContract symbol address).mapError SavedContractError.toFailure) with
  | (.added, changed) =>
    Action.ofHost (changed.save desk.host.files settingsPath)
    desk.say ("Contract " ++ address.checksummed ++ " saved as " ++ symbol)
  | (.alreadyPresent, _) =>
    desk.say ("Contract " ++ address.checksummed ++ " was already saved as " ++ symbol)

end Desk

end TokenDesk
