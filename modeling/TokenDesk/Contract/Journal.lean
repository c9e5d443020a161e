import TokenDesk.Contract.Transport

/-! A transport that writes down what it is asked and what it answers. -/

set_option autoImplicit false

namespace TokenDesk

inductive TransportEvent where
  | call (contract : Address) (data : List UInt8) (answer : Except TransportError (List UInt8))
  | estimateGas (sender : Address) (destination : Option Address) (data : List UInt8)
      (answer : Except TransportError UInt64)
  | sendTransaction (transaction : Transaction) (answer : Except TransportError TxId)
  | pendingNonce (account : Address) (answer : Except TransportError UInt64)
  | networkId (answer : Except TransportError ChainId)
  | gasPrice (answer : Except TransportError Amount)
  | waitForReceipt (tx : TxId) (answer : Except TransportError Receipt)
  | unlockAccount (account : Address) (passphrase : String) (time : Duration)
      (answer : Except TransportError Bool)

namespace Transport

variable {m : Type → Type} [Monad m]

def noted {α : Type} (event : Except TransportError α → TransportEvent)
    (ask : ExceptT TransportError m α) : ExceptT TransportError (StateT (List TransportEvent) m) α :=
  ExceptT.mk do
    let answer ← (ask.run : m (Except TransportError α))
    modify fun journal => journal ++ [event answer]
    return answer

def recorded (transport : Transport m) : Transport (StateT (List TransportEvent) m) where
  call contract data := noted (.call contract data) (transport.call contract data)
  estimateGas sender destination data :=
    noted (.estimateGas sender destination data) (transport.estimateGas sender destination data)
  sendTransaction transaction :=
    noted (.sendTransaction transaction) (transport.sendTransaction transaction)
  pendingNonce account := noted (.pendingNonce account) (transport.pendingNonce account)
  networkId := noted .networkId transport.networkId
  gasPrice := noted .gasPrice transport.gasPrice
  waitForReceipt tx := noted (.waitForReceipt tx) (transport.waitForReceipt tx)
  unlockAccount account passphrase time :=
    noted (.unlockAccount account passphrase time) (transport.unlockAccount account passphrase time)

end Transport

end TokenDesk
