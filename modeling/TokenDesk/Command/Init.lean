import TokenDesk.Host
import TokenDesk.Settings
import TokenDesk.Settings.Storage

/-! Writing a first settings file. -/

set_option autoImplicit false

namespace TokenDesk

/-- The defaults of a blockchain, with the given settings in their place. A symbol and a
password are never stored. -/
def SettingsFile.initial (flags : Flags) : Except Failure SettingsFile := do
  let file := SettingsFile.defaults (← Blockchain.ofSetting flags.blockchain)
  return { file with
    rpcUrl := flags.rpcUrl.or file.rpcUrl
    mode := flags.mode.or file.mode
    contractAddress := flags.contractAddress
    payer := flags.payer }

variable {m : Type → Type} [Monad m]

def Host.initSettings (host : Host m) (flags : Flags) (settingsPath : String) (force : Bool) :
    ExceptT Failure m Unit := do
  if (← host.files.isPresent settingsPath) && !force then
    throw (.refused (.settingsPresent settingsPath))
  let file ← liftM (SettingsFile.initial flags)
  file.save host.files settingsPath
  host.say ("Initialize settings file " ++ settingsPath)

end TokenDesk
