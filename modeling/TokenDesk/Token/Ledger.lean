import TokenDesk.Ledger.Unlock
import TokenDesk.Token

/-! A token contract as a ledger, and a node as the keeper of accounts. -/

set_option autoImplicit false

namespace TokenDesk

variable {m : Type → Type} [Monad m]

/-- The ledger whose balances and transfers are those of the contract. Every transfer has
its nonce and gas price fixed, and its gas limit estimated. -/
def Erc20.ledger (token : Erc20 m) : Ledger m where
  balanceOf owner := (token.contract.balanceOf owner).adapt ContractError.toLedger
  pendingNonce account :=
    (token.contract.transport.pendingNonce account).adapt TransportError.toLedger
  chainId := token.contract.transport.networkId.adapt TransportError.toLedger
  suggestGasPrice := token.contract.transport.gasPrice.adapt TransportError.toLedger
  transfer request := do
    let options : SendOptions :=
      { sender := request.payer, nonce := some request.nonce, gasPrice := some request.gasPrice,
        gasLimit := none }
    let sent ← (token.transfer options request.destination request.amount).adapt ContractError.toLedger
    return { tx := sent.tx, gasLimit := sent.gasLimit }
  waitConfirmed tx := do
    let receipt ← (token.contract.transport.waitForReceipt tx).adapt TransportError.toLedger
    return { gasUsed := receipt.gasUsed, success := receipt.success }

def unlockTime : Duration := .ofSeconds 300

def Transport.unlocker (transport : Transport m) : Unlocker m where
  unlock account passphrase := .mk do
    match ← (transport.unlockAccount account passphrase unlockTime).run with
    | .ok true => return .ok ()
    | .ok false => return .error (.locked account "the node refused the passphrase")
    | .error e => return .error (.locked account e.message)

end TokenDesk
