import TokenDesk.Address
import TokenDesk.Address.Chain
import TokenDesk.Amount
import TokenDesk.Ledger.Transaction
import TokenDesk.Text.Cut

/-! A token ledger as its user sees it: what it can be asked, and how it fails.

A ledger is a record of actions in any monad, so its answers may depend on
everything that happened before.
-/

set_option autoImplicit false

namespace TokenDesk

inductive LedgerError where
  | wouldAlwaysFail
  | rejected (text : String)
  | transport (text : String)
  | invalidResponse (text : String)
  | confirmationTimeout (tx : TxId)
  | locked (account : Address) (reason : String)
  deriving DecidableEq, Repr

namespace LedgerError

def alwaysFailsMessage : String :=
  "This is a transaction that will always fail. Please check contract and parameters again."

def message : LedgerError → String
  | wouldAlwaysFail => alwaysFailsMessage
  | rejected text => "transaction rejected: " ++ text
  | transport text => "ledger transport error: " ++ text
  | invalidResponse text => "invalid ledger response: " ++ text
  | confirmationTimeout tx => "timed out waiting for transaction " ++ tx.hex
  | locked account reason => "account " ++ account.checksummed ++ " is locked: " ++ reason

/-- The words by which nodes tell that a transaction fails whenever it is run. -/
def signatures : List String :=
  ["gas required exceeds allowance", "always failing transaction"]

def isAlwaysFailing (text : String) : Bool :=
  signatures.any fun signature => Text.contains signature.toList text.toList

def ofSubmission (text : String) : LedgerError :=
  if isAlwaysFailing text then wouldAlwaysFail else rejected text

end LedgerError

structure Transfer where
  payer : Address
  destination : Address
  amount : Amount
  nonce : UInt64
  gasPrice : Amount
  deriving DecidableEq, Repr

structure Submitted where
  tx : TxId
  gasLimit : UInt64
  deriving DecidableEq, Repr

/-- The gas that a mined transaction burnt, and whether it took effect. -/
structure Confirmation where
  gasUsed : UInt64
  success : Bool
  deriving DecidableEq, Repr

structure Ledger (m : Type → Type) where
  balanceOf : Address → ExceptT LedgerError m Amount
  pendingNonce : Address → ExceptT LedgerError m UInt64
  chainId : ExceptT LedgerError m ChainId
  suggestGasPrice : ExceptT LedgerError m Amount
  transfer : Transfer → ExceptT LedgerError m Submitted
  waitConfirmed : TxId → ExceptT LedgerError m Confirmation

end TokenDesk
