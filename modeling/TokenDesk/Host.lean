import TokenDesk.Host.Files
import TokenDesk.Rpc.Client

/-! What a command needs of the machine that it runs on. -/

set_option autoImplicit false

namespace TokenDesk

structure Host (m : Type → Type) where
  files : Files m
  web : Web m
  say : (line : String) → m Unit
  askPassphrase : (message : String) → m (Except String String)

end TokenDesk
