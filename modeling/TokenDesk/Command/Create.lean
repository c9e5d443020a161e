import TokenDesk.Desk
import TokenDesk.Settings.Storage
import TokenDesk.Text.Blank
import TokenDesk.Token.Creation

/-! Creating a token contract from compiled bytecode. -/

set_option autoImplicit false

namespace TokenDesk

structure CreateRequest where
  name : String
  total : String
  decimals : UInt8
  bytecodePath : String
  saves : Bool
  deriving DecidableEq, Repr

namespace TokenParams

def ofTexts (name symbol total : String) (decimals : UInt8) : Except Failure TokenParams := do
  let decimals ← (Decimals.ofNat decimals.toNat).mapError Failure.amount
  let totalSupply ← (Amount.parse decimals total).mapError fun cause =>
    Failure.during (.parseSupply total) (.amount cause)
  return { name, symbol, decimals, totalSupply }

end TokenParams

namespace Desk

def parseBytecode (text : String) : Except Failure (List UInt8) :=
  let trimmed := Text.trim text.toList
  let digits := (Text.stripStart? ['0', 'x'] trimmed).getD trimmed
  if digits.isEmpty then .error (.refused .emptyBytecode)
  else (Text.Hex.decode digits).mapError Failure.hex

variable {m : Type → Type} [Monad m]

def readBytecode (files : Files m) (path : String) : ExceptT Failure m (List UInt8) := do
  let text ← (files.readText path).adapt fun fault => .during (.readBytecodeFile path) (.file fault)
  liftM ((parseBytecode text).mapError (Failure.during (.parseBytecodeFile path)))

def createdContract (tx : TxId) (receipt : Receipt) : Except Failure Address :=
  if ¬ receipt.success then .error (.refused (.creationFailed tx))
  else match receipt.contract with
    | some contract => .ok contract
    | none => .error (.refused (.contractUnknown tx))

/-- Create a contract. The first one created becomes the default contract of the settings. -/
def create (desk : Desk m) (file : SettingsFile) (settingsPath : String) (request : CreateRequest) :
    Action m Unit := do
  let some symbol := desk.settings.symbol | throw (.refused .symbolUnset)
  let params ← liftM (TokenParams.ofTexts request.name symbol request.total request.decimals)
  let bytecode ← Action.ofHost (readBytecode desk.host.files request.bytecodePath)
  let payer ← desk.payer
  desk.unlock payer
  let sent ← Action.ofContract .sendCreation
    (desk.transport.deploy (.of payer) desk.settings.kind bytecode params)
  desk.say ("Transaction waiting to be mined: " ++ sent.tx.hex)
  let receipt ← desk.receipt sent.tx
  let contract ← liftM (createdContract sent.tx receipt)
  desk.say ("Contract deploy at address " ++ contract.checksummed)
  desk.say "Contract deploy success"
  if let some changed := file.remember? contract request.saves then
    Action.ofHost (changed.save desk.host.files settingsPath)
    desk.say ("Contract " ++ contract.checksummed ++ " saved as the default contract")

end Desk

end TokenDesk
