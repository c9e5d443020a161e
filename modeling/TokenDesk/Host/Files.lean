/-! Files, as the commands see them. -/

set_option autoImplicit false

namespace TokenDesk

inductive FileFault where
  | notFound
  | alreadyThere
  | notDirectory
  | isDirectory
  | nameTooLong
  /-- A path with a zero character, which no system can be asked for. -/
  | zeroInName
  | notText
  | other (text : String)
  deriving DecidableEq, Repr

def FileFault.message : FileFault → String
  | notFound => "No such file or directory (os error 2)"
  | alreadyThere => "File exists (os error 17)"
  | notDirectory => "Not a directory (os error 20)"
  | isDirectory => "Is a directory (os error 21)"
  | nameTooLong => "File name too long (os error 36)"
  | zeroInName => "file name contained an unexpected NUL byte"
  | notText => "stream did not contain valid UTF-8"
  | other text => text

structure Files (m : Type → Type) where
  isPresent : (path : String) → m Bool
  readText : (path : String) → ExceptT FileFault m String
  writeText : (path text : String) → ExceptT FileFault m Unit
  createFolders : (path : String) → ExceptT FileFault m Unit

end TokenDesk
