import TokenDesk.Failure
import TokenDesk.Settings.File

/-! The settings in effect: what the command line gives, and else what the file says.

A contract or payer given as the empty text is none. Where no node is named,
the blockchain's own is asked.
-/

set_option autoImplicit false

namespace TokenDesk

structure Flags where
  rpcUrl : Option String
  contractAddress : Option String
  payer : Option String
  mode : Option String
  symbol : Option String
  blockchain : Option String
  password : Option String
  deriving DecidableEq, Repr

structure Settings where
  rpcUrl : String
  blockchain : Blockchain
  kind : TokenKind
  contracts : Contracts
  symbol : Option String
  payer? : Option Address
  password : Option String
  deriving DecidableEq, Repr

def SavedContractError.toFailure : SavedContractError → Failure
  | address symbol cause => .during (.readSavedContract symbol) (.address cause)
  | config cause => .config cause

def Blockchain.ofSetting : Option String → Except Failure Blockchain
  | none => .ok default
  | some name =>
    match Blockchain.parse? name with
    | some blockchain => .ok blockchain
    | none => .error (.config (.unknownBlockchain name))

def TokenKind.ofSetting : Option String → Except Failure TokenKind
  | none => .ok default
  | some name =>
    match TokenKind.parse? name with
    | some kind => .ok kind
    | none => .error (.refused (.unknownTokenKind name))

def Address.ofSetting (task : String → Task) : Option String → Except Failure (Option Address)
  | none => .ok none
  | some text =>
    if text = "" then .ok none
    else ((Address.parseHex text).mapError fun cause => .during (task text) (.address cause)).map some

namespace Settings

def resolve (flags : Flags) (file : SettingsFile) : Except Failure Settings := do
  let blockchain ← Blockchain.ofSetting (flags.blockchain.or file.blockchain)
  let kind ← TokenKind.ofSetting (flags.mode.or file.mode)
  let contract ← Address.ofSetting .readContractSetting
    (flags.contractAddress.or file.contractAddress)
  let payer? ← Address.ofSetting .readPayerSetting (flags.payer.or file.payer)
  let book ← file.contractBook.mapError SavedContractError.toFailure
  return {
    rpcUrl := (flags.rpcUrl.or file.rpcUrl).getD blockchain.defaultRpcUrl
    blockchain, kind, payer?
    contracts := { default? := contract, book }
    symbol := flags.symbol
    password := flags.password.or file.password }

def contractAddress (settings : Settings) : Except Failure Address :=
  (settings.contracts.resolve settings.symbol).mapError .config

def payer (settings : Settings) : Except Failure Address :=
  match settings.payer? with
  | some account => .ok account
  | none => .error (.refused .payerUnset)

end Settings

end TokenDesk
