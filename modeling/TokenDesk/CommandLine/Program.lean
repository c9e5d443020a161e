import TokenDesk.CommandLine.Grammar

/-! The options and commands of this program. -/

set_option autoImplicit false

namespace TokenDesk.CommandLine

namespace OptionSpec

def of (name : String) (value : ValueKind) : OptionSpec :=
  { name, letter := none, value := some value, isRequired := false, environment := none }

def flag (name : String) : OptionSpec :=
  { name, letter := none, value := none, isRequired := false, environment := none }

def withLetter (letter : Char) (option : OptionSpec) : OptionSpec :=
  { option with letter := some letter }

def required (option : OptionSpec) : OptionSpec :=
  { option with isRequired := true }

def orVariable (name : String) (option : OptionSpec) : OptionSpec :=
  { option with environment := some ("TOKENCOMMANDER_" ++ name) }

def config : OptionSpec := (of "config" .path).withLetter 'c' |>.orVariable "CONFIG"
def rpcUrl : OptionSpec := (of "rpc-url" .text).withLetter 'i' |>.orVariable "RPC_URL"
def contractAddress : OptionSpec :=
  (of "contract-address" .text).withLetter 'a' |>.orVariable "CONTRACT_ADDRESS"
def payer : OptionSpec := (of "from" .text).withLetter 'f' |>.orVariable "FROM"
def mode : OptionSpec := (of "mode" .text).orVariable "MODE"
def symbol : OptionSpec := (of "symbol" .text).withLetter 's'
def blockchain : OptionSpec := (of "blockchain" .text).orVariable "BLOCKCHAIN"
def password : OptionSpec := (of "password" .text).orVariable "PASSWORD"
def logFormat : OptionSpec := (of "log-format" (.oneOf ["pretty", "json"])).orVariable "LOG_FORMAT"
def bytecode : OptionSpec := (of "bytecode" .path).required.orVariable "BYTECODE"

end OptionSpec

namespace Operand

def required (name : String) (kind : ValueKind) : Operand :=
  { name, kind, isRequired := true, isRepeated := false }

def optional (name : String) : Operand :=
  { name, kind := .text, isRequired := false, isRepeated := false }

def repeated (name : String) : Operand :=
  { name, kind := .text, isRequired := false, isRepeated := true }

end Operand

def defaultSettingsPath : String := "./config.toml"

def globalOptions : List OptionSpec :=
  [.config, .rpcUrl, .contractAddress, .payer, .mode, .symbol, .blockchain, .password, .logFormat]

def payGrammar : Grammar :=
  .command [(OptionSpec.of "to" .text).withLetter 't' |>.required, .flag "nowait"]
    [.required "amount" .text]

def batchPayGrammar : Grammar :=
  .command
    [(OptionSpec.of "price" .word).withLetter 'p', (OptionSpec.of "nonce" .word).withLetter 'n',
      .flag "wait"]
    [.required "file" .path]

def mintGrammar : Grammar :=
  .command [.of "uri" .text] [.required "address" .text, .optional "token_id"]

def createGrammar : Grammar :=
  .command
    [(OptionSpec.of "name" .text).withLetter 'n' |>.required,
      (OptionSpec.of "total" .text).withLetter 't', (OptionSpec.of "decimals" .byte).withLetter 'd',
      .bytecode, .flag "save"]
    []

def accountsGrammar : Grammar :=
  .command [(OptionSpec.of "unit" .text).withLetter 'u', .flag "sum"] [.repeated "addresses"]

def grammar : Grammar := .menu [
  ("init", .command [.flag "force"] []),
  ("version", .command [] []),
  ("info", .command [] [.optional "token_id"]),
  ("balance", .command [] [.repeated "addresses"]),
  ("pay", payGrammar),
  ("batchpay", batchPayGrammar),
  ("mint", mintGrammar),
  ("add", .command [] [.required "contract" .text, .optional "symbol"]),
  ("convert", .command [.of "chain-id" .word] [.required "address" .text]),
  ("deploy", createGrammar),
  ("account", .menu [("balance", accountsGrammar)])]

end TokenDesk.CommandLine
