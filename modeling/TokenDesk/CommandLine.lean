import TokenDesk.Command
import TokenDesk.CommandLine.Program
import TokenDesk.CommandLine.Reading

/-! The command line: which command it asks for, with which settings. -/

set_option autoImplicit false

namespace TokenDesk

structure Invocation where
  settingsPath : String
  flags : Flags
  command : Command
  deriving DecidableEq, Repr

namespace CommandLine

structure Arguments where
  given : Given
  environment : Given

namespace Arguments

def get? (arguments : Arguments) (name : String) : Option String :=
  arguments.given.lookup name

def option? (arguments : Arguments) (option : OptionSpec) : Option String :=
  (arguments.get? option.name).or (Level.standIn? arguments.environment option)

def text (arguments : Arguments) (name : String) (default : String) : String :=
  (arguments.get? name).getD default

def flag (arguments : Arguments) (name : String) : Bool :=
  (arguments.get? name).isSome

def all (arguments : Arguments) (name : String) : List String :=
  (arguments.given.filter fun (known, _) => known = name).map Prod.snd

def word? (arguments : Arguments) (name : String) : Option UInt64 :=
  (arguments.get? name).bind ValueKind.word?

def flags (arguments : Arguments) : Flags where
  rpcUrl := arguments.option? .rpcUrl
  contractAddress := arguments.option? .contractAddress
  payer := arguments.option? .payer
  mode := arguments.option? .mode
  symbol := arguments.option? .symbol
  blockchain := arguments.option? .blockchain
  password := arguments.option? .password

end Arguments

def defaultDecimals : UInt8 := 18

def commandOf (arguments : Arguments) : (path : List String) → Option Command
  | ["init"] => some (.init (arguments.flag "force"))
  | ["version"] => some .version
  | ["info"] => some (.info (arguments.get? "token_id"))
  | ["balance"] => some (.balance (arguments.all "addresses"))
  | ["pay"] => some (.pay
      { amount := arguments.text "amount" "", destination := arguments.text "to" ""
        waits := !arguments.flag "nowait" })
  | ["batchpay"] => some (.batchPay
      { path := arguments.text "file" "", gasPrice := arguments.word? "price"
        nonce := arguments.word? "nonce", waits := arguments.flag "wait" })
  | ["mint"] => some (.mint
      { destination := arguments.text "address" "", tokenId := arguments.get? "token_id"
        uri := arguments.get? "uri" })
  | ["add"] => some (.add
      { contract := arguments.text "contract" "", symbol := arguments.get? "symbol" })
  | ["convert"] => some (.convert
      { address := arguments.text "address" "", chain := arguments.word? "chain-id" })
  | ["deploy"] => some (.create
      { name := arguments.text "name" "", total := arguments.text "total" "0"
        decimals := ((arguments.get? "decimals").bind ValueKind.byte?).getD defaultDecimals
        bytecodePath := (arguments.option? .bytecode).getD ""
        saves := arguments.flag "save" })
  | ["account", "balance"] => some (.accounts
      { unit := arguments.get? "unit", sums := arguments.flag "sum"
        addresses := arguments.all "addresses" })
  | _ => none

def parse (environment : Given) (words : List String) : Except Usage Invocation := do
  let (path, given) ← read globalOptions grammar environment words
  let arguments : Arguments := { given, environment }
  match commandOf arguments path with
  | some command =>
    return { settingsPath := (arguments.option? .config).getD defaultSettingsPath
             flags := arguments.flags, command }
  | none => throw .unknownCommand

end CommandLine

end TokenDesk
