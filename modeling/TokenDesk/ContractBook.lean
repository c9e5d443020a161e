import TokenDesk.Address
import TokenDesk.Blockchain
import TokenDesk.SortedTable
import TokenDesk.Token.Kind

/-! Contract addresses saved under symbols.

A symbol is bound once and keeps its address.
-/

set_option autoImplicit false

namespace TokenDesk

inductive ConfigError where
  | unknownBlockchain (text : String)
  | unknownSymbol (symbol : String)
  | symbolTaken (symbol : String) (existing : Address)
  | emptySymbol
  | noContract
  deriving DecidableEq, Repr

def ConfigError.message : ConfigError → String
  | unknownBlockchain text => "unknown blockchain '" ++ text ++ "', expected Ethereum|NewChain"
  | unknownSymbol symbol => "contract address of symbol " ++ symbol ++ " not set"
  | symbolTaken symbol existing =>
    "symbol " ++ symbol ++ " is already used by contract " ++ existing.checksummed
      ++ ", please choose a new symbol"
  | emptySymbol => "symbol must not be empty"
  | noContract => "contract address is not set"

inductive Addition where
  | added
  | alreadyPresent
  deriving DecidableEq, Repr

structure ContractBook where
  table : SortedTable Address
  deriving DecidableEq, Repr, Inhabited

namespace ContractBook

def empty : ContractBook := ⟨.empty⟩

def size (book : ContractBook) : Nat :=
  book.table.size

def entries (book : ContractBook) : List (String × Address) :=
  book.table.entries

def get? (book : ContractBook) (symbol : String) : Option Address :=
  book.table.get? symbol

def insert (book : ContractBook) (symbol : String) (address : Address) :
    Except ConfigError (Addition × ContractBook) :=
  if symbol = "" then .error .emptySymbol
  else match book.get? symbol with
    | none => .ok (.added, ⟨book.table.insert symbol address⟩)
    | some existing =>
      if existing = address then .ok (.alreadyPresent, book)
      else .error (.symbolTaken symbol existing)

def resolve (book : ContractBook) (symbol : String) : Except ConfigError Address :=
  match book.get? symbol with
  | some address => .ok address
  | none => .error (.unknownSymbol symbol)

end ContractBook

structure Contracts where
  default? : Option Address
  book : ContractBook
  deriving DecidableEq, Repr

def Contracts.resolve (contracts : Contracts) : (symbol : Option String) → Except ConfigError Address
  | some symbol => contracts.book.resolve symbol
  | none =>
    match contracts.default? with
    | some address => .ok address
    | none => .error .noContract

end TokenDesk
