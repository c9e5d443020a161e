import TokenDesk.CommandLine.Grammar

/-! Reading the words of a command line, one after the other.

A command's name opens a new level, in which its own arguments are known and
the global ones too. An argument is settled when the next one begins, and
every level checks its arguments once the words are read, the inner ones first.
-/

set_option autoImplicit false

namespace TokenDesk.CommandLine

/-- Arguments by name. A flag has the empty text. -/
abbrev Given := List (String × String)

inductive Word where
  /-- The two hyphens behind which every word is an operand. -/
  | escape
  | long (name : String) (attached : Option String)
  | letters (letters : List Char)
  | plain
  deriving DecidableEq, Repr

def Word.of (word : String) : Word :=
  match word.toList with
  | ['-', '-'] => .escape
  | '-' :: '-' :: text =>
    match Text.cut? '=' text with
    | some (name, value) => .long (String.ofList name) (some (String.ofList value))
    | none => .long (String.ofList text) none
  | '-' :: c :: text => .letters (c :: text)
  | _ => .plain

inductive Pending where
  | nothing
  | awaiting (name : String) (kind : ValueKind)
  | filled (name : String) (kind : ValueKind) (value : String)
  | operand (operand : Operand) (value : String)
  deriving DecidableEq, Repr

structure Level where
  grammar : Grammar
  options : List OptionSpec
  given : Given
  pending : Pending
  onlyOperands : Bool
  operandsRead : Nat

namespace Level

def ofGrammar (globals : List OptionSpec) (grammar : Grammar) : Level :=
  { grammar, options := grammar.withGlobals globals, given := [], pending := .nothing,
    onlyOperands := false, operandsRead := 0 }

def isAwaiting (level : Level) : Bool :=
  match level.pending with
  | .awaiting _ _ => true
  | _ => false

def enterOnce (name value : String) (check : Except Usage Unit) (level : Level) :
    Except Usage Level := do
  if (level.given.lookup name).isSome then throw .repeated
  check
  return { level with given := level.given ++ [(name, value)], pending := .nothing }

def settle (level : Level) : Except Usage Level :=
  match level.pending with
  | .nothing => .ok level
  | .awaiting _ _ => .error .invalidValue
  | .filled name kind value => level.enterOnce name value (kind.check value)
  | .operand operand value => do
    operand.kind.check value
    return { level with given := level.given ++ [(operand.name, value)], pending := .nothing }

def beginOption (option : OptionSpec) (attached : Option String) (level : Level) :
    Except Usage Level :=
  match option.value, attached with
  | none, some _ => .error .unwantedValue
  | none, none => do
    let level ← level.settle
    level.enterOnce option.name "" (.ok ())
  | some kind, some value => do
    let level ← level.settle
    level.enterOnce option.name value (kind.check value)
  | some kind, none => do
    let level ← level.settle
    return { level with pending := .awaiting option.name kind }

/-- Stop reading, unless the argument that was begun last is wrong. -/
def stop (usage : Usage) (level : Level) : Except Usage Level := do
  let _ ← level.settle
  throw usage

def readLong (name : String) (attached : Option String) (level : Level) : Except Usage Level :=
  if name = "help" ∨ name = "version" then
    if attached.isSome then .error .unwantedValue
    else level.stop (if name = "help" then .help else .version)
  else match level.options.find? fun option => option.name = name with
    | some option => level.beginOption option attached
    | none => .error .unknownArgument

/-- The value attached to a letter: the text behind it, or behind the equals sign after it. -/
def attachedTo : List Char → Option String
  | [] => none
  | '=' :: value => some (String.ofList value)
  | value => some (String.ofList value)

def readLetters (level : Level) : List Char → Except Usage Level
  | [] => .ok level
  | letter :: rest =>
    if letter = 'h' then level.stop .help
    else if letter = 'V' then level.stop .version
    else match level.options.find? fun option => option.letter = some letter with
      | none => .error .unknownArgument
      | some option =>
        if option.value.isSome then level.beginOption option (attachedTo rest)
        else do
          let level ← level.beginOption option none
          level.readLetters rest

/-- Whether a word is the name of a command, or asks for help on one. -/
def isCommand (word : String) (level : Level) : Bool :=
  level.grammar.isMenu && (word = "help" || (level.grammar.commands.lookup word).isSome)

def readOperand (word : String) (level : Level) : Except Usage Level :=
  match level.grammar.operands[level.operandsRead]? with
  | some operand => do
    let level ← level.settle
    let step := if operand.isRepeated then 0 else 1
    return { level with pending := .operand operand word, operandsRead := level.operandsRead + step }
  | none =>
    if level.grammar.isMenu && !(level.onlyOperands && level.isCommand word) then
      .error .unknownCommand
    else .error .unknownArgument

def readWord (word : String) (level : Level) : Except Usage Level :=
  if level.onlyOperands then level.readOperand word
  else match Word.of word, level.pending with
    | .escape, _ => .ok { level with onlyOperands := true }
    | .long name attached, _ => level.readLong name attached
    | .letters letters, _ => level.readLetters letters
    | .plain, .awaiting name kind => .ok { level with pending := .filled name kind word }
    | .plain, _ => level.readOperand word

def standIn? (environment : Given) (option : OptionSpec) : Option String :=
  option.environment.bind fun name => environment.lookup name

def checkEnvironment (environment : Given) (level : Level) : Except Usage Unit :=
  level.options.forM fun option =>
    if (level.given.lookup option.name).isSome then .ok ()
    else match standIn? environment option, option.value with
      | some value, some kind => kind.check value
      | _, _ => .ok ()

def has (environment : Given) (level : Level) (option : OptionSpec) : Bool :=
  (level.given.lookup option.name).isSome || (standIn? environment option).isSome

def checkComplete (environment : Given) (level : Level) : Except Usage Unit :=
  if level.grammar.isMenu then
    if level.given.isEmpty && !level.options.any (level.has environment) then .error .nothingGiven
    else .error .missingCommand
  else
    let missesOption := level.options.any fun option =>
      option.isRequired && !level.has environment option
    let missesOperand := level.grammar.operands.any fun operand =>
      operand.isRequired && (level.given.lookup operand.name).isNone
    if missesOption || missesOperand then .error .missingArgument else .ok ()

def close (environment : Given) (level : Level) : Except Usage Level := do
  let level ← level.settle
  level.checkEnvironment environment
  return level

end Level

/-- The levels that are open, the innermost apart, and the names that led to it. -/
inductive Reading where
  | levels (path : List String) (inner : Level) (outer : List Level)
  | helping (commands : List (String × Grammar))

namespace Reading

def help (word : String) (commands : List (String × Grammar)) : Except Usage Reading :=
  match commands.lookup word with
  | some grammar => .ok (.helping grammar.commands)
  | none => if word = "help" ∧ ¬ commands.isEmpty then .ok (.helping []) else .error .unknownCommand

def step (globals : List OptionSpec) (reading : Reading) (word : String) : Except Usage Reading :=
  match reading with
  | .helping commands => help word commands
  | .levels path inner outer =>
    if !inner.onlyOperands && !inner.isAwaiting && inner.isCommand word then
      match inner.grammar.commands.lookup word with
      | some grammar => .ok (.levels (path ++ [word]) (.ofGrammar globals grammar) (inner :: outer))
      | none => .ok (.helping inner.grammar.commands)
    else (inner.readWord word).map fun inner => .levels path inner outer

def finish (environment : Given) : Reading → Except Usage (List String × Given)
  | .helping _ => .error .help
  | .levels path inner outer => do
    let inner ← inner.close environment
    inner.checkComplete environment
    let outer ← outer.mapM (Level.close environment)
    return (path, inner.given ++ outer.flatMap Level.given)

end Reading

def read (globals : List OptionSpec) (grammar : Grammar) (environment : Given) (words : List String) :
    Except Usage (List String × Given) := do
  let reading ← words.foldlM (Reading.step globals) (.levels [] (.ofGrammar globals grammar) [])
  reading.finish environment

end TokenDesk.CommandLine
