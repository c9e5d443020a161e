import TokenDesk.Amount.Native

/-! The chains that are supported, with the names and addresses that belong to each. -/

set_option autoImplicit false

namespace TokenDesk

inductive Blockchain where
  | ethereum
  | newChain
  deriving DecidableEq, Repr

namespace Blockchain

instance : Inhabited Blockchain := ⟨newChain⟩

def name : Blockchain → String
  | ethereum => "Ethereum"
  | newChain => "NewChain"

def units : Blockchain → UnitNames
  | ethereum => { major := "ETH", minor := "WEI" }
  | newChain => { major := "NEW", minor := "ISAAC" }

def hasTaggedAddresses : Blockchain → Bool
  | ethereum => false
  | newChain => true

def defaultRpcUrl : Blockchain → String
  | ethereum => "https://ethrpc.service.newtonproject.org"
  | newChain => "https://rpc1.newchain.newtonproject.org"

def parse? (text : String) : Option Blockchain :=
  let name := text.toList.map Char.toLower
  if name = "ethereum".toList ∨ name = "eth".toList then some ethereum
  else if name = "newchain".toList ∨ name = "new".toList then some newChain
  else none

def ofName? (text : String) : Option Blockchain :=
  [ethereum, newChain].find? fun chain => chain.name = text

end Blockchain

end TokenDesk
