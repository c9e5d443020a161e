import TokenDesk.Address.Tagged
import TokenDesk.Amount
import TokenDesk.Blockchain
import TokenDesk.Json.Mismatch
import TokenDesk.Token.Kind

/-! The JSON forms of the values that files and nodes exchange: amounts are
strings of decimal digits, since they outgrow every number, addresses their
checksummed text, and the rest exact names. -/

set_option autoImplicit false

namespace TokenDesk

namespace Amount

def toJson (amount : Amount) : Json :=
  .string (decimal amount)

def ofJson (json : Json) : Except Json.Mismatch Amount := do
  let text ← json.asString
  (parse .zero text).mapError fun e => .refused e.message

end Amount

namespace Address

def toJson (address : Address) : Json :=
  .string address.checksummed

def ofJson (json : Json) : Except Json.Mismatch Address := do
  let text ← json.asString
  (parseHex text).mapError fun e => .refused e.message

end Address

namespace TokenKind

def toJson (kind : TokenKind) : Json :=
  .string kind.standard

def ofJson (json : Json) : Except Json.Mismatch TokenKind := do
  let text ← json.asString
  match ofStandard? text with
  | some kind => return kind
  | none => throw (.unknownName text [fungible.standard, nonFungible.standard])

end TokenKind

namespace Blockchain

def toJson (chain : Blockchain) : Json :=
  .string chain.name

def ofJson (json : Json) : Except Json.Mismatch Blockchain := do
  let text ← json.asString
  match ofName? text with
  | some chain => return chain
  | none => throw (.unknownName text [ethereum.name, newChain.name])

end Blockchain

end TokenDesk
