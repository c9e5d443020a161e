/-! The two standards of token contracts. -/

set_option autoImplicit false

namespace TokenDesk

inductive TokenKind where
  /-- Interchangeable units, ERC-20. -/
  | fungible
  /-- Tokens with an id each, ERC-721. -/
  | nonFungible
  deriving DecidableEq, Repr, Inhabited

namespace TokenKind

def standard : TokenKind → String
  | fungible => "ERC20"
  | nonFungible => "ERC721"

def paysBatches : TokenKind → Bool
  | fungible => true
  | nonFungible => false

def mints : TokenKind → Bool
  | fungible => false
  | nonFungible => true

/-- Read the name of a standard, in any letter case and with hyphens anywhere. -/
def parse? (text : String) : Option TokenKind :=
  let name := (text.toList.map Char.toUpper).filter (· ≠ '-')
  if name = "ERC20".toList then some fungible
  else if name = "ERC721".toList then some nonFungible
  else none

def ofStandard? (text : String) : Option TokenKind :=
  [fungible, nonFungible].find? fun kind => kind.standard = text

def unknownMessage (text : String) : String :=
  "not support mode " ++ text ++ ", only support ERC20|ERC721"

end TokenKind

end TokenDesk
