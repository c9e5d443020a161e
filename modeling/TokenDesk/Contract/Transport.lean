import TokenDesk.Ledger
import TokenDesk.Text.Duration

/-! What a node can be asked about contracts and transactions, and how that fails. -/

set_option autoImplicit false

namespace TokenDesk

inductive TransportError where
  | http (text : String)
  | rpc (code : Int) (text : String)
  | invalidResponse (text : String)
  | timeout (tx : TxId) (waited : Duration)
  deriving DecidableEq, Repr

namespace TransportError

def message : TransportError → String
  | http text => "http error: " ++ text
  | rpc code text => "rpc error " ++ toString code ++ ": " ++ text
  | invalidResponse text => "invalid rpc response: " ++ text
  | timeout tx waited => "transaction " ++ tx.hex ++ " not mined within " ++ waited.text

def toLedger : TransportError → LedgerError
  | rpc _ text => .ofSubmission text
  | http text => .transport text
  | invalidResponse text => .invalidResponse text
  | timeout tx _ => .confirmationTimeout tx

end TransportError

structure SendOptions where
  sender : Address
  nonce : Option UInt64
  gasPrice : Option Amount
  gasLimit : Option UInt64
  deriving DecidableEq, Repr

/-- A transaction to send. Without a destination it creates a contract. -/
structure Transaction where
  sender : Address
  destination : Option Address
  data : List UInt8
  nonce : Option UInt64
  gasPrice : Amount
  gasLimit : UInt64
  deriving DecidableEq, Repr

structure Sent where
  tx : TxId
  gasPrice : Amount
  gasLimit : UInt64
  deriving DecidableEq, Repr

structure Receipt where
  tx : TxId
  gasUsed : UInt64
  success : Bool
  contract : Option Address
  deriving DecidableEq, Repr

structure Transport (m : Type → Type) where
  call : (contract : Address) → (data : List UInt8) → ExceptT TransportError m (List UInt8)
  estimateGas : (sender : Address) → (destination : Option Address) → (data : List UInt8) →
    ExceptT TransportError m UInt64
  sendTransaction : Transaction → ExceptT TransportError m TxId
  pendingNonce : Address → ExceptT TransportError m UInt64
  networkId : ExceptT TransportError m ChainId
  gasPrice : ExceptT TransportError m Amount
  waitForReceipt : TxId → ExceptT TransportError m Receipt
  unlockAccount : (account : Address) → (passphrase : String) → (time : Duration) →
    ExceptT TransportError m Bool

end TokenDesk
