import TokenDesk.Contract.Transport
import TokenDesk.Json.Reader
import TokenDesk.Rpc.Quantity

/-! The JSON-RPC messages that a client and a node exchange. -/

set_option autoImplicit false

namespace TokenDesk.Rpc

def request (id : UInt64) (method : String) (params : List Json) : Json :=
  .object [("jsonrpc", .string "2.0"), ("method", .string method), ("params", .array params),
    ("id", .nat id.toNat)]

structure NodeError where
  code : Int
  text : String
  deriving DecidableEq, Repr

/-- A response. One without a result has the result `null`. -/
structure Response where
  result : Json
  error : Option NodeError
  deriving Repr

/-- The value of a name that occurs once, and nothing inside if it does not occur.
A name that occurs twice is refused. -/
def once (name : String) (members : List (String × Json)) : Option (Option Json) :=
  match members.filter fun member => member.1 = name with
  | [] => some none
  | [(_, value)] => some (some value)
  | _ => none

def integer? : Json → Option Int
  | .number (.natural n) => if n < Nat.pow 2 63 then some n else none
  | .number (.negative n) => some (-(n : Int))
  | _ => none

def text? : Json → Option String
  | .string text => some text
  | _ => none

/-- Read the error of a response: an object, or a list of its two values. -/
def NodeError.ofJson? : Json → Option NodeError
  | .object members => do
    let code ← (← once "code" members).bind integer?
    let text ← (← once "message" members).bind text?
    return ⟨code, text⟩
  | .array [code, text] => do
    return ⟨← integer? code, ← text? text⟩
  | _ => none

def errorOf? : Option Json → Option (Option NodeError)
  | none => some none
  | some .null => some none
  | some json => (NodeError.ofJson? json).map some

/-- Read a response: an object, or a list of a result and an error, either of which may
be left out from the end. -/
def Response.ofJson? : Json → Option Response
  | .object members => do
    let result ← once "result" members
    let error ← errorOf? (← once "error" members)
    return ⟨(result.getD .null).settled, error⟩
  | .array [] => some ⟨.null, none⟩
  | .array [result] => some ⟨result.settled, none⟩
  | .array [result, error] => do
    return ⟨result.settled, ← errorOf? (some error)⟩
  | _ => none

/-- The fields of a response. Of others only the grammar matters, in the response as in its
error. -/
def Response.reader : Json.Reader Json :=
  let inError := Json.value (Json.depthLimit - 2)
  Json.fields [("result", Json.value (Json.depthLimit - 1)),
    ("error", Json.fields [("code", inError), ("message", inError)])]

def Response.parse (body : String) : Except Fault Response :=
  match (Json.readAll? reader body).bind ofJson? with
  | some response => .ok response
  | none => .error .undecodable

structure ReceiptTexts where
  gasUsed : String
  status : Option String
  contract : Option String
  deriving DecidableEq, Repr

def optionalText : Option Json → Except Json.Mismatch (Option String)
  | none => .ok none
  | some .null => .ok none
  | some json => json.asString.map some

/-- Read the texts of a receipt: an object, or a list of gas, status and contract. -/
def ReceiptTexts.ofJson (json : Json) : Except Json.Mismatch ReceiptTexts :=
  match json with
  | .object members => do
    let contract ← optionalText (members.lookup "contractAddress")
    let gasUsed ← (members.lookup "gasUsed").mapM Json.asString
    let status ← optionalText (members.lookup "status")
    match gasUsed with
    | some gasUsed => return { gasUsed, status, contract }
    | none => throw (.missingField "gasUsed")
  | .array [] => .error (.wrongLength 0 "struct RpcReceipt with 3 elements")
  | .array (gasUsed :: more) => do
    let gasUsed ← gasUsed.asString
    let status ← optionalText more[0]?
    let contract ← optionalText more[1]?
    if 2 < more.length then throw (.wrongLength (more.length + 1) "fewer elements in array")
    return { gasUsed, status, contract }
  | other => .error (.wrongType other "struct RpcReceipt")

/-- Read a receipt. Without a status the transaction took effect. -/
def parseReceipt (tx : TxId) (json : Json) : Except Fault Receipt := do
  let texts ← (ReceiptTexts.ofJson json).mapError .badReceipt
  let gasUsed ← parseWord texts.gasUsed
  let status ← texts.status.mapM parseWord
  let contract ← texts.contract.mapM parseAddress
  return { tx, gasUsed, success := status.all (· == 1), contract }

def estimateJson (sender : Address) (destination : Option Address) (data : List UInt8) : Json :=
  Json.objectOf <|
    [("from", .string sender.lower), ("data", .string (bytesText data))]
      ++ (destination.map fun contract => ("to", .string contract.lower)).toList

def transactionJson (t : Transaction) : Json :=
  Json.objectOf <|
    [("from", .string t.sender.lower), ("data", .string (bytesText t.data)),
      ("gas", .string (quantityText t.gasLimit.toNat)),
      ("gasPrice", .string (amountText t.gasPrice))]
      ++ (t.destination.map fun contract => ("to", .string contract.lower)).toList
      ++ (t.nonce.map fun nonce => ("nonce", .string (quantityText nonce.toNat))).toList

end TokenDesk.Rpc
