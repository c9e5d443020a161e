import TokenDesk.Address.Tagged
import TokenDesk.ContractBook
import TokenDesk.Toml.Reader

/-! The settings that are kept in a file, as they are written there.

Every key may be absent. Saved contracts have a table of their own, in which
each symbol names an address.
-/

set_option autoImplicit false

namespace TokenDesk

structure SettingsFile where
  walletPath : Option String
  rpcUrl : Option String
  contractAddress : Option String
  payer : Option String
  mode : Option String
  password : Option String
  blockchain : Option String
  contracts : SortedTable String
  deriving DecidableEq, Repr

/-- A saved contract whose address cannot be read, or whose symbol cannot be used. -/
inductive SavedContractError where
  | address (symbol : String) (cause : AddressError)
  | config (cause : ConfigError)
  deriving DecidableEq, Repr

namespace SettingsFile

def empty : SettingsFile :=
  { walletPath := none, rpcUrl := none, contractAddress := none, payer := none, mode := none,
    password := none, blockchain := none, contracts := .empty }

def defaultWalletPath : String := "./wallet/"

def defaults (blockchain : Blockchain) : SettingsFile :=
  { empty with
    walletPath := some defaultWalletPath
    rpcUrl := some blockchain.defaultRpcUrl
    mode := some TokenKind.fungible.standard
    blockchain := some blockchain.name }

/-- The text of a key that may be absent but must not be anything else. -/
def textAt? (document : Toml.Table) (key : String) : Option (Option String) :=
  match document.lookup key with
  | none => some none
  | some (.text value) => some (some value)
  | some _ => none

def textEntries? (entries : Toml.Table) : Option (List (String × String)) :=
  entries.mapM fun
    | (key, .text value) => some (key, value)
    | _ => none

def contractsAt? (document : Toml.Table) : Option (SortedTable String) :=
  match document.lookup "Contracts" with
  | none => some .empty
  | some (.table _ entries) => (textEntries? entries).map .ofList
  | some _ => none

/-- The settings in a document. The password may have a capital letter; keys that mean
nothing here are skipped. -/
def ofDocument? (document : Toml.Table) : Option SettingsFile := do
  let walletPath ← textAt? document "walletPath"
  let rpcUrl ← textAt? document "rpcURL"
  let contractAddress ← textAt? document "contractAddress"
  let payer ← textAt? document "from"
  let mode ← textAt? document "mode"
  let lower ← textAt? document "password"
  let capital ← textAt? document "Password"
  let blockchain ← textAt? document "blockchain"
  let contracts ← contractsAt? document
  if lower.isSome ∧ capital.isSome then none
  return { walletPath, rpcUrl, contractAddress, payer, mode, password := lower.or capital,
           blockchain, contracts }

def parse? (text : String) : Option SettingsFile :=
  (Toml.parse? text).bind ofDocument?

def pairLine (key value : String) : List Char :=
  Toml.writeKey key.toList ++ " = ".toList ++ Toml.writeText value.toList ++ ['\n']

def pairs (file : SettingsFile) : List (String × String) :=
  [("walletPath", file.walletPath), ("rpcURL", file.rpcUrl),
    ("contractAddress", file.contractAddress), ("from", file.payer), ("mode", file.mode),
    ("password", file.password), ("blockchain", file.blockchain)].filterMap
      fun (key, value) => value.map fun value => (key, value)

def writePairs (pairs : List (String × String)) : List Char :=
  pairs.flatMap fun (key, value) => pairLine key value

def text (file : SettingsFile) : String :=
  let keys := writePairs file.pairs
  let gap := if keys.isEmpty then [] else ['\n']
  let contracts :=
    if file.contracts.isEmpty then []
    else gap ++ "[Contracts]\n".toList ++ writePairs file.contracts.entries
  String.ofList (keys ++ contracts)

def addSaved (book : ContractBook) : List (String × String) → Except SavedContractError ContractBook
  | [] => .ok book
  | (symbol, text) :: rest => do
    let address ← (Address.parseHex text).mapError (.address symbol)
    let (_, book) ← (book.insert symbol address).mapError .config
    addSaved book rest

def contractBook (file : SettingsFile) : Except SavedContractError ContractBook :=
  addSaved .empty file.contracts.entries

def addContract (file : SettingsFile) (symbol : String) (address : Address) :
    Except SavedContractError (Addition × SettingsFile) := do
  let book ← file.contractBook
  match ← (book.insert symbol address).mapError .config with
  | (.added, _) =>
    let contracts := file.contracts.insert symbol address.checksummed
    return (.added, { file with contracts })
  | (.alreadyPresent, _) => return (.alreadyPresent, file)

/-- The file with a default contract, if it has none yet or is to change it. -/
def remember? (file : SettingsFile) (contract : Address) (force : Bool) : Option SettingsFile :=
  let isUnset := file.contractAddress.all String.isEmpty
  if force || isUnset then some { file with contractAddress := some contract.checksummed } else none

end SettingsFile

end TokenDesk
