import TokenDesk.CommandLine

/-! The program: files, the terminal and the clock of the machine that it runs on.

There is no connection to the web here, so every request to a node fails.
-/

set_option autoImplicit false

namespace TokenDesk.System

def faultOf : IO.Error → FileFault
  | .noFileOrDirectory .. => .notFound
  | .alreadyExists .. => .alreadyThere
  | .inappropriateType .. => .notDirectory
  | e => .other (toString e)

def attempt {α : Type} (action : IO α) : ExceptT FileFault IO α :=
  .mk do return (← action.toBaseIO).mapError faultOf

def files : Files IO where
  isPresent path := do
    match ← (attempt (IO.FS.Handle.mk path .read)).run with
    | .ok _ => return true
    | .error fault => return fault != .notFound
  readText path := do
    let bytes ← attempt (IO.FS.readBinFile path)
    match Text.Utf8.decode? bytes.toList with
    | some text => return String.ofList text
    | none => throw .notText
  writeText path text := attempt (IO.FS.writeFile path text)
  createFolders path := attempt (IO.FS.createDirAll path)

def unconnected : Web IO where
  post _ _ := return .error "there is no connection"
  get _ := return .error "there is no connection"
  sleep time := IO.sleep (UInt32.ofNat time.milliseconds)

/-- Ask on standard error, so that the answer can be told from the output. -/
def askPassphrase (message : String) : IO (Except String String) := do
  IO.eprint message
  let line ← (← IO.getStdin).getLine
  if line.isEmpty then return .error "the input has ended"
  return .ok (line.trimAsciiEnd).copy

def host : Host IO where
  files := files
  web := unconnected
  say line := IO.println line
  askPassphrase := askPassphrase

def readEnvironment : IO CommandLine.Given := do
  let options := CommandLine.globalOptions ++ [.bytecode]
  let values ← (options.filterMap CommandLine.OptionSpec.environment).mapM fun name => do
    return (← IO.getEnv name).map fun value => (name, value)
  return values.filterMap id

end TokenDesk.System

open TokenDesk in
def main (words : List String) : IO UInt32 := do
  match CommandLine.parse (← System.readEnvironment) words with
  | .error usage =>
    IO.eprintln usage.message
    return UInt32.ofNat usage.exitCode
  | .ok invocation =>
    match ← (invocation.command.run System.host invocation.flags invocation.settingsPath).run with
    | .ok () => return 0
    | .error failure =>
      failure.causes.forM IO.eprintln
      return 1
