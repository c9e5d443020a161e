import TokenDesk.Host
import TokenDesk.Settings
import TokenDesk.Token.Ledger

/-! What every command works with: the settings in effect and the host, and from
these the node, the token contract, and the accounts to unlock. -/

set_option autoImplicit false

namespace TokenDesk

structure Desk (m : Type → Type) where
  settings : Settings
  host : Host m

abbrev Action (m : Type → Type) := ExceptT Failure (Rpc.Requests m)

variable {m : Type → Type} [Monad m]

def Action.ofHost {α : Type} (x : ExceptT Failure m α) : Action m α :=
  .mk (StateT.lift x.run)

def Action.ofContract {α : Type} (task : Task)
    (x : ExceptT ContractError (Rpc.Requests m) α) : Action m α :=
  x.adapt fun cause => .during task (.contract cause)

def Action.ofNode {α : Type} (task : Task)
    (x : ExceptT TransportError (Rpc.Requests m) α) : Action m α :=
  x.adapt fun cause => .during task (.transport cause)

def parseTokenId (text : String) : Except Failure Amount :=
  (Amount.parse .zero text).mapError fun cause => .during (.parseTokenId text) (.amount cause)

def receiptLine (units : UnitNames) (sent : Sent) (receipt : Receipt) : String :=
  let fee := sent.gasPrice * receipt.gasUsed.toNat
  "The transaction " ++ receipt.tx.hex ++ " is confirmed and status is "
    ++ (if receipt.success then "succeed" else "failed")
    ++ ", with GasFee(" ++ NativeUnit.major.renderNamed units fee
    ++ ") = GasPrice(" ++ NativeUnit.minor.renderNamed units sent.gasPrice
    ++ ") x GasUsed(" ++ toString receipt.gasUsed.toNat ++ ")"

def unlockAttempts : Nat := 2

def passphraseMessage (account : Address) (attempt : Nat) : String :=
  if attempt ≤ 1 then "Enter passphrase of " ++ account.checksummed ++ ": "
  else "Wrong passphrase, enter passphrase of " ++ account.checksummed ++ " again: "

namespace Desk

def client (desk : Desk m) : Rpc.Client m where
  web := desk.host.web
  url := desk.settings.rpcUrl

def transport (desk : Desk m) : Transport (Rpc.Requests m) :=
  desk.client.transport

def units (desk : Desk m) : UnitNames :=
  desk.settings.blockchain.units

def say (desk : Desk m) (line : String) : Action m Unit :=
  liftM (desk.host.say line)

def sayAll (desk : Desk m) (lines : List String) : Action m Unit :=
  lines.forM desk.say

def contractAt (desk : Desk m) (address : Address) : Contract (Rpc.Requests m) :=
  ⟨address, desk.transport⟩

def token (desk : Desk m) : Except Failure (Token (Rpc.Requests m)) :=
  desk.settings.contractAddress.map fun address =>
    { kind := desk.settings.kind, contract := desk.contractAt address }

def payer (desk : Desk m) : Action m Address :=
  liftM desk.settings.payer

def chainId (desk : Desk m) : Action m ChainId :=
  .ofNode .getNetworkId desk.client.networkId

/-- Read an address that a person typed. The node is asked for its chain only if the text
looks like a tagged address and the blockchain has them. -/
def parseAddress (desk : Desk m) (text : String) : Action m Address := do
  match Address.parseHex text with
  | .ok address => return address
  | .error _ =>
    let isTagged := (Text.stripStart? Address.tag text.toList).isSome
    let chain ← if desk.settings.blockchain.hasTaggedAddresses && isTagged
      then some <$> desk.chainId
      else pure none
    let address := Address.parseDestination chain text
    liftM (address.mapError fun cause => Failure.during (.parseAddress text) (.address cause))

def prompt (desk : Desk m) : Prompt (Rpc.Requests m) where
  ask account attempt := .mk do
    let answer ← (desk.host.askPassphrase (passphraseMessage account attempt) : m _)
    return answer.mapError PromptError.mk

def unlock (desk : Desk m) (account : Address) : Action m Unit := do
  let outcome ← (desk.transport.unlocker.unlockWithRetries desk.prompt account
    desk.settings.password unlockAttempts : Rpc.Requests m UnlockOutcome)
  match outcome with
  | .unlocked _ => return
  | .exhausted attempts cause => throw (.during (.unlockRepeatedly account attempts) (.ledger cause))
  | .promptFailed cause => throw (.during (.unlock account) (.prompt cause))

def receipt (desk : Desk m) (tx : TxId) : Action m Receipt :=
  .ofNode (.getReceipt tx) (desk.transport.waitForReceipt tx)

/-- Tell of a transaction that was sent, and wait for it unless that is not wanted. -/
def confirm (desk : Desk m) (sent : Sent) (waits : Bool) : Action m Unit := do
  desk.say ("Succeed broadcast transaction, TxID " ++ sent.tx.hex)
  if waits then
    desk.say "Waiting for the transaction to be mined..."
    let receipt ← desk.receipt sent.tx
    desk.say (receiptLine desk.units sent receipt)

end Desk

def SendOptions.of (sender : Address) : SendOptions :=
  { sender, nonce := none, gasPrice := none, gasLimit := none }

end TokenDesk
