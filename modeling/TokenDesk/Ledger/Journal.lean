import TokenDesk.Ledger

/-! A ledger that writes down what it is asked and what it answers. -/

set_option autoImplicit false

namespace TokenDesk

inductive LedgerEvent where
  | balanceOf (owner : Address) (answer : Except LedgerError Amount)
  | pendingNonce (account : Address) (answer : Except LedgerError UInt64)
  | chainId (answer : Except LedgerError ChainId)
  | suggestGasPrice (answer : Except LedgerError Amount)
  | transfer (request : Transfer) (answer : Except LedgerError Submitted)
  | waitConfirmed (tx : TxId) (answer : Except LedgerError Confirmation)

namespace Ledger

variable {m : Type → Type} [Monad m]

def noted {α : Type} (event : Except LedgerError α → LedgerEvent)
    (ask : ExceptT LedgerError m α) : ExceptT LedgerError (StateT (List LedgerEvent) m) α :=
  ExceptT.mk do
    let answer ← (ask.run : m (Except LedgerError α))
    modify fun journal => journal ++ [event answer]
    return answer

theorem run_noted [LawfulMonad m] {α : Type} (event : Except LedgerError α → LedgerEvent)
    (ask : ExceptT LedgerError m α) (journal : List LedgerEvent) :
    (noted event ask).run.run journal =
      (fun answer => (answer, journal ++ [event answer])) <$> ask.run := by
  simp [noted]

def recorded (ledger : Ledger m) : Ledger (StateT (List LedgerEvent) m) where
  balanceOf owner := noted (.balanceOf owner) (ledger.balanceOf owner)
  pendingNonce account := noted (.pendingNonce account) (ledger.pendingNonce account)
  chainId := noted .chainId ledger.chainId
  suggestGasPrice := noted .suggestGasPrice ledger.suggestGasPrice
  transfer request := noted (.transfer request) (ledger.transfer request)
  waitConfirmed tx := noted (.waitConfirmed tx) (ledger.waitConfirmed tx)

end Ledger

end TokenDesk
