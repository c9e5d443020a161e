import TokenDesk.Address.Chain
import TokenDesk.Address.Tagged
import TokenDesk.Amount
import TokenDesk.Ledger.Transaction

/-! What a command was doing when something failed. -/

set_option autoImplicit false

namespace TokenDesk

inductive Task where
  | readSettings (path : String)
  | parseSettings (path : String)
  | createFolder (path : String)
  | writeSettings (path : String)
  | readSavedContract (symbol : String)
  | readContractSetting (text : String)
  | readPayerSetting (text : String)
  | getNetworkId
  | parseAddress (text : String)
  | parseContract (text : String)
  | parseTagged (text : String) (chain : ChainId)
  | parseTokenId (text : String)
  | parsePayment (text : String)
  | parseSupply (text : String)
  | unlock (account : Address)
  | unlockRepeatedly (account : Address) (attempts : Nat)
  | getReceipt (tx : TxId)
  | readDecimals
  | readSymbol
  | readMissingSymbol
  | readBalance (owner : Address)
  | readSummary
  | readSupply
  | readOwner
  | readOwnerOf (id : Amount)
  | readUri
  | checkExistence
  | checkMinter
  | sendTransfer
  | sendMint
  | sendCreation
  | readBytecodeFile (path : String)
  | parseBytecodeFile (path : String)
  | readBatchFile (path : String)
  | parseBatchFile (path : String)
  | listAccounts
  | getBalance (account : Address)
  deriving DecidableEq, Repr

def Task.message : Task → String
  | readSettings path => "failed to read settings file " ++ path
  | parseSettings path => "failed to parse settings file " ++ path
  | createFolder path => "failed to create directory " ++ path
  | writeSettings path => "failed to write settings file " ++ path
  | readSavedContract symbol => "invalid address saved for symbol " ++ symbol
  | readContractSetting text => "invalid contract address '" ++ text ++ "'"
  | readPayerSetting text => "invalid from address '" ++ text ++ "'"
  | getNetworkId => "failed to get the network id"
  | parseAddress text => "invalid address '" ++ text ++ "'"
  | parseContract text => "invalid contract address '" ++ text ++ "'"
  | parseTagged text chain =>
    "'" ++ text ++ "' is neither a hex nor a tagged address of chain " ++ chain.text
  | parseTokenId text => "invalid token id '" ++ text ++ "'"
  | parsePayment text => "invalid pay amount '" ++ text ++ "'"
  | parseSupply text => "invalid total supply '" ++ text ++ "'"
  | unlock account => "failed to unlock " ++ account.checksummed
  | unlockRepeatedly account attempts =>
    "failed to unlock " ++ account.checksummed ++ " after " ++ toString attempts ++ " attempts"
  | getReceipt tx => "failed to get the receipt of " ++ tx.hex
  | readDecimals => "failed to read token decimals"
  | readSymbol => "failed to read token symbol"
  | readMissingSymbol => "failed to read the contract symbol, pass one explicitly"
  | readBalance owner => "failed to read the balance of " ++ owner.checksummed
  | readSummary => "failed to read token information"
  | readSupply => "failed to read total supply"
  | readOwner => "failed to read token owner"
  | readOwnerOf id => "failed to read the owner of token " ++ Amount.decimal id
  | readUri => "failed to read token URI"
  | checkExistence => "failed to check token existence"
  | checkMinter => "failed to check the minter role"
  | sendTransfer => "failed to send the transfer"
  | sendMint => "failed to send the mint transaction"
  | sendCreation => "failed to send the deploy transaction"
  | readBytecodeFile path => "failed to read bytecode file " ++ path
  | parseBytecodeFile path => "invalid bytecode in " ++ path
  | readBatchFile path => "failed to read batch file " ++ path
  | parseBatchFile path => "invalid batch file " ++ path
  | listAccounts => "failed to list the node accounts"
  | getBalance account => "failed to get the balance of " ++ account.checksummed

end TokenDesk
