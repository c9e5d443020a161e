import TokenDesk.Failure
import TokenDesk.Host.Path
import TokenDesk.Settings.File

/-! Loading and saving the settings file. A file that is missing is an empty one. -/

set_option autoImplicit false

namespace TokenDesk.SettingsFile

variable {m : Type → Type} [Monad m]

def load (files : Files m) (path : String) : ExceptT Failure m SettingsFile := do
  if ← files.isPresent path then
    let text ← (files.readText path).adapt fun fault => .during (.readSettings path) (.file fault)
    match parse? text with
    | some file => return file
    | none => throw (.during (.parseSettings path) .malformedDocument)
  else
    return empty

def save (files : Files m) (path : String) (file : SettingsFile) : ExceptT Failure m Unit := do
  if let some folder := Path.parent? path then
    (files.createFolders folder).adapt fun fault => .during (.createFolder folder) (.file fault)
  (files.writeText path file.text).adapt fun fault => .during (.writeSettings path) (.file fault)

end TokenDesk.SettingsFile
