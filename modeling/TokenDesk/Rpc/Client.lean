import TokenDesk.Rpc.Message

/-! A client of a node.

The client numbers its requests from one, by a counter of 64 bits that wraps, and remembers the
id of the network once the node has told it. A receipt is polled for at fixed intervals until a
deadline, by a clock that only the pauses between polls move.
-/

set_option autoImplicit false

namespace TokenDesk

structure HttpReply where
  status : Nat
  body : String
  deriving DecidableEq, Repr

def HttpReply.isSuccess (reply : HttpReply) : Bool :=
  200 ≤ reply.status && reply.status < 300

def HttpReply.isFailure (reply : HttpReply) : Bool :=
  400 ≤ reply.status && reply.status < 600

/-- The web and the time, as a client needs them. A request can fail with a text. -/
structure Web (m : Type → Type) where
  post : (url : String) → (body : Json) → m (Except String HttpReply)
  get : (url : String) → m (Except String HttpReply)
  sleep : Duration → m Unit

namespace Rpc

structure Session where
  nextId : UInt64 := 1
  network : Option ChainId := none
  deriving DecidableEq, Repr, Inhabited

structure Client (m : Type → Type) where
  web : Web m
  url : String
  pollInterval : Duration := .ofSeconds 1
  pollInterval_pos : 0 < pollInterval.milliseconds := by decide
  confirmationTimeout : Duration := .ofSeconds 180

abbrev Requests (m : Type → Type) := StateT Session m

def invalid (fault : Fault) : TransportError :=
  .invalidResponse fault.message

def resultOf (reply : HttpReply) : Except TransportError Json := do
  if ¬ reply.isSuccess then
    throw (.http ("HTTP " ++ toString reply.status ++ ": " ++ reply.body))
  let response ← (Response.parse reply.body).mapError invalid
  match response.error with
  | some e => throw (.rpc e.code e.text)
  | none => return response.result

variable {m : Type → Type} [Monad m]

def takeId : Requests m UInt64 :=
  modifyGet fun session => (session.nextId, { session with nextId := session.nextId + 1 })

namespace Client

def ask (client : Client m) (method : String) (params : List Json) :
    ExceptT TransportError (Requests m) Json := do
  let id ← (takeId : Requests m UInt64)
  let reply ← (client.web.post client.url (request id method params) : m _)
  let reply ← reply.mapError TransportError.http
  let result ← resultOf reply
  return result

def askText {α : Type} (client : Client m) (method : String) (params : List Json)
    (read : String → Except Fault α) : ExceptT TransportError (Requests m) α := do
  match ← client.ask method params with
  | .string text =>
    let value ← (read text).mapError invalid
    return value
  | other => throw (invalid (.wrongResult method "a string" other))

def balance (client : Client m) (account : Address) : ExceptT TransportError (Requests m) Amount :=
  client.askText "eth_getBalance" [.string account.lower, .string "latest"] parseAmount

def addressOf : Json → Except Fault Address
  | .string text => parseAddress text
  | other => .error (.notAnAddress other)

def accounts (client : Client m) : ExceptT TransportError (Requests m) (List Address) := do
  match ← client.ask "eth_accounts" [] with
  | .array items =>
    let addresses ← (items.mapM addressOf).mapError invalid
    return addresses
  | other => throw (invalid (.wrongResult "eth_accounts" "an array" other))

/-- The id of the network, asked for until the node has told it once. -/
def networkId (client : Client m) : ExceptT TransportError (Requests m) ChainId := do
  match (← get).network with
  | some chain => return chain
  | none =>
    let chain ← client.askText "net_version" [] parseNetworkVersion
    modify fun session => { session with network := some chain }
    return chain

/-- Ask for a receipt, and again after every pause until there is one. A receipt that is not there when
the clock has reached the deadline is given up. -/
def pollReceipt (client : Client m) (tx : TxId) (deadline clock : Nat) :
    ExceptT TransportError (Requests m) Receipt := do
  match ← client.ask "eth_getTransactionReceipt" [.string tx.hex] with
  | .null =>
    if deadline ≤ clock then throw (.timeout tx client.confirmationTimeout)
    else
      (client.web.sleep client.pollInterval : m Unit)
      client.pollReceipt tx deadline (clock + client.pollInterval.milliseconds)
  | json =>
    let receipt ← (parseReceipt tx json).mapError invalid
    return receipt
termination_by deadline - clock
decreasing_by
  have moves := client.pollInterval_pos
  omega

def waitForReceipt (client : Client m) (tx : TxId) : ExceptT TransportError (Requests m) Receipt :=
  client.pollReceipt tx client.confirmationTimeout.milliseconds 0

/-- Unlock an account for a time, of which whole seconds count. -/
def unlockAccount (client : Client m) (account : Address) (passphrase : String) (time : Duration) :
    ExceptT TransportError (Requests m) Bool := do
  let params := [.string account.lower, .string passphrase, .nat time.seconds]
  match ← client.ask "personal_unlockAccount" params with
  | .bool unlocked => return unlocked
  | other => throw (invalid (.wrongResult "personal_unlockAccount" "a bool" other))

def transport (client : Client m) : Transport (Requests m) where
  call contract data :=
    let call := Json.objectOf
      [("to", .string contract.lower), ("data", .string (bytesText data))]
    client.askText "eth_call" [call, .string "pending"] parseBytes
  estimateGas sender destination data :=
    client.askText "eth_estimateGas" [estimateJson sender destination data] parseWord
  sendTransaction transaction :=
    client.askText "eth_sendTransaction" [transactionJson transaction] fun text =>
      (TxId.parse text).mapError .badTransaction
  pendingNonce account :=
    client.askText "eth_getTransactionCount" [.string account.lower, .string "pending"] parseWord
  networkId := client.networkId
  gasPrice := client.askText "eth_gasPrice" [] parseAmount
  waitForReceipt := client.waitForReceipt
  unlockAccount := client.unlockAccount

end Client

end Rpc

end TokenDesk
