import TokenDesk.Abi.Output
import TokenDesk.Contract.Transport
import TokenDesk.Token.Kind

/-! Contracts on a node: reading from them and sending transactions to them. -/

set_option autoImplicit false

namespace TokenDesk

inductive ContractError where
  | transport (cause : TransportError)
  | abi (cause : Abi.Error)
  | wouldAlwaysFail
  | amount (cause : AmountError)
  | wrongKind (capability : String) (expected actual : TokenKind)
  deriving DecidableEq, Repr

namespace ContractError

def message : ContractError → String
  | transport cause => cause.message
  | abi cause => "cannot decode contract output: " ++ cause.message
  | wouldAlwaysFail => LedgerError.alwaysFailsMessage
  | amount cause => cause.message
  | wrongKind capability expected actual =>
    capability ++ " is only supported for " ++ expected.standard ++ " tokens, this contract is "
      ++ actual.standard

def toLedger : ContractError → LedgerError
  | transport cause => cause.toLedger
  | wouldAlwaysFail => .wouldAlwaysFail
  | abi cause => .invalidResponse cause.message
  | amount cause => .invalidResponse cause.message
  | wrongKind capability expected actual =>
    .rejected (wrongKind capability expected actual).message

/-- The failure of an estimate or a submission, of which a node may say that it is certain. -/
def ofSubmission : TransportError → ContractError
  | .rpc code text =>
    if LedgerError.isAlwaysFailing text then .wouldAlwaysFail else .transport (.rpc code text)
  | other => .transport other

end ContractError

structure Contract (m : Type → Type) where
  address : Address
  transport : Transport m

variable {m : Type → Type} [Monad m]

/-- Send data on the given terms. A missing gas price is asked for, and then a missing gas
limit is estimated. -/
def Transport.submit (transport : Transport m) (options : SendOptions)
    (destination : Option Address) (data : List UInt8) : ExceptT ContractError m Sent := do
  let gasPrice ← match options.gasPrice with
    | some price => pure price
    | none => transport.gasPrice.adapt ContractError.transport
  let gasLimit ← match options.gasLimit with
    | some limit => pure limit
    | none =>
      (transport.estimateGas options.sender destination data).adapt ContractError.ofSubmission
  let tx ← (transport.sendTransaction
    { sender := options.sender, destination, data, nonce := options.nonce, gasPrice, gasLimit }).adapt
      ContractError.ofSubmission
  return { tx, gasPrice, gasLimit }

namespace Contract

def dataOf (signature : String) (arguments : List Abi.Argument) : Except ContractError (List UInt8) :=
  (Abi.callData (Abi.selector signature) arguments).mapError .abi

def ask {α : Type} (contract : Contract m) (signature : String) (arguments : List Abi.Argument)
    (read : List UInt8 → Except Abi.Error α) : ExceptT ContractError m α := do
  let data ← dataOf signature arguments
  let output ← (contract.transport.call contract.address data).adapt ContractError.transport
  liftM ((read output).mapError ContractError.abi)

def transact (contract : Contract m) (options : SendOptions) (signature : String)
    (arguments : List Abi.Argument) : ExceptT ContractError m Sent := do
  let data ← dataOf signature arguments
  contract.transport.submit options (some contract.address) data

def name (contract : Contract m) : ExceptT ContractError m String :=
  contract.ask "name()" [] Abi.decodeString

def symbol (contract : Contract m) : ExceptT ContractError m String :=
  contract.ask "symbol()" [] Abi.decodeString

def totalSupply (contract : Contract m) : ExceptT ContractError m Amount :=
  contract.ask "totalSupply()" [] Abi.decodeUint

def balanceOf (contract : Contract m) (owner : Address) : ExceptT ContractError m Amount :=
  contract.ask "balanceOf(address)" [.address owner] Abi.decodeUint

end Contract

end TokenDesk
