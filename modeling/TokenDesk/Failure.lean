import TokenDesk.Amount.Native
import TokenDesk.Batch.Report
import TokenDesk.Batch.Plan
import TokenDesk.Contract
import TokenDesk.ContractBook
import TokenDesk.Failure.Task
import TokenDesk.Host.Files
import TokenDesk.Ledger.Unlock

/-! Why a command fails: a cause, and what was being done when it arose. -/

set_option autoImplicit false

namespace TokenDesk

inductive Refusal where
  | payerUnset
  | symbolUnset
  | settingsPresent (path : String)
  | zeroPayment
  | balanceTooLow (decimals : Decimals) (balance amount : Amount)
  | noValidAddress
  | notMinter (account contract : Address)
  | tokenPresent (id : Amount)
  | emptyBytecode
  | creationFailed (tx : TxId)
  | contractUnknown (tx : TxId)
  | unknownUnit (name : String) (known : UnitNames)
  | unknownTokenKind (text : String)
  deriving DecidableEq, Repr

def Refusal.message : Refusal → String
  | payerUnset => "the from address is not set, pass --from or set \x60from\x60 in the settings file"
  | symbolUnset => "the token symbol is not set, pass --symbol"
  | settingsPresent path =>
    "settings file " ++ path ++ " already exists, pass --force to overwrite it"
  | zeroPayment => "pay amount must be greater than zero"
  | balanceTooLow decimals balance amount =>
    "balance is " ++ Amount.render decimals balance ++ ", not enough to pay "
      ++ Amount.render decimals amount
  | noValidAddress => "no valid address given"
  | notMinter account contract =>
    account.checksummed ++ " is not a minter of contract " ++ contract.checksummed
  | tokenPresent id => "token " ++ Amount.decimal id ++ " already exists"
  | emptyBytecode => "bytecode is empty"
  | creationFailed tx => "the deploy transaction " ++ tx.hex ++ " failed"
  | contractUnknown tx => "the receipt of " ++ tx.hex ++ " has no contract address"
  | unknownUnit name known =>
    "unknown unit '" ++ name ++ "', expected " ++ known.major ++ " or " ++ known.minor
  | unknownTokenKind text => TokenKind.unknownMessage text

inductive Failure where
  | refused (refusal : Refusal)
  | address (cause : AddressError)
  | amount (cause : AmountError)
  | hex (cause : Text.Hex.Error)
  | config (cause : ConfigError)
  | contract (cause : ContractError)
  | transport (cause : TransportError)
  | ledger (cause : LedgerError)
  | plan (cause : PlanError)
  | batch (cause : Batch.Failure)
  | prompt (cause : PromptError)
  | file (fault : FileFault)
  | malformedDocument
  | during (task : Task) (cause : Failure)
  deriving DecidableEq, Repr

/-- What is said of the failure, from the task down to the last cause. -/
def Failure.causes : Failure → List String
  | refused refusal => [refusal.message]
  | address cause => [cause.message]
  | amount cause => [cause.message]
  | hex cause => [cause.message]
  | config cause => [cause.message]
  | contract (.abi cause) => [(ContractError.abi cause).message, cause.message]
  | contract cause => [cause.message]
  | transport cause => [cause.message]
  | ledger cause => [cause.message]
  | plan (.invalidAddress line text cause) =>
    [(PlanError.invalidAddress line text cause).message, cause.message]
  | plan (.invalidAmount line text cause) =>
    [(PlanError.invalidAmount line text cause).message, cause.message]
  | plan cause => [cause.message]
  | batch cause => [cause.message]
  | prompt cause => [cause.message]
  | file fault => [fault.message]
  | malformedDocument => ["the document is not well formed or has values of the wrong kind"]
  | during task cause => task.message :: cause.causes

end TokenDesk
