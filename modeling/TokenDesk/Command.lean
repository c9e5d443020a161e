import TokenDesk.Command.Accounts
import TokenDesk.Command.Add
import TokenDesk.Command.Balance
import TokenDesk.Command.BatchPay
import TokenDesk.Command.Convert
import TokenDesk.Command.Create
import TokenDesk.Command.Info
import TokenDesk.Command.Init
import TokenDesk.Command.Mint
import TokenDesk.Command.Pay

/-! The commands, and running one of them on a host. -/

set_option autoImplicit false

namespace TokenDesk

inductive Command where
  | init (force : Bool)
  | version
  | info (tokenId : Option String)
  | balance (addresses : List String)
  | pay (request : PayRequest)
  | batchPay (request : BatchPayRequest)
  | mint (request : MintRequest)
  | add (request : AddRequest)
  | convert (request : ConvertRequest)
  | create (request : CreateRequest)
  | accounts (request : AccountsRequest)
  deriving DecidableEq, Repr

namespace Command

def versionLine : String := "tokencommander 0.5.2"

variable {m : Type → Type} [Monad m]

def atDesk (host : Host m) (flags : Flags) (settingsPath : String)
    (action : SettingsFile → Desk m → Action m Unit) : ExceptT Failure m Unit := do
  let file ← SettingsFile.load host.files settingsPath
  let settings ← liftM (Settings.resolve flags file)
  .mk (StateT.run' (action file { settings, host }).run {})

def run (host : Host m) (flags : Flags) (settingsPath : String) :
    Command → ExceptT Failure m Unit
  | .init force => host.initSettings flags settingsPath force
  | .version => host.say versionLine
  | .info tokenId => atDesk host flags settingsPath fun _ desk => desk.info tokenId
  | .balance addresses => atDesk host flags settingsPath fun _ desk => desk.balance addresses
  | .pay request => atDesk host flags settingsPath fun _ desk => desk.pay request
  | .batchPay request => atDesk host flags settingsPath fun _ desk => desk.batchPay request
  | .mint request => atDesk host flags settingsPath fun _ desk => desk.mint request
  | .add request => atDesk host flags settingsPath fun file desk => desk.add file settingsPath request
  | .convert request => atDesk host flags settingsPath fun _ desk => desk.convert request
  | .create request =>
    atDesk host flags settingsPath fun file desk => desk.create file settingsPath request
  | .accounts request => atDesk host flags settingsPath fun _ desk => desk.accounts request

end Command

end TokenDesk
