import TokenDesk.Json.Writer
import TokenDesk.Text.Literal

/-! What is said of a JSON value that has not the form it should have. -/

set_option autoImplicit false

namespace TokenDesk.Json

inductive Mismatch where
  | wrongType (found : Json) (expected : String)
  | missingField (name : String)
  | unknownName (found : String) (known : List String)
  | wrongLength (found : Nat) (expected : String)
  /-- A value of the right type that its own rules refuse, in their words. -/
  | refused (text : String)
  deriving Repr

def described : Json → String
  | null => "null"
  | bool true => "boolean `true`"
  | bool false => "boolean `false`"
  | number (.float bits) => "floating point `" ++ (Number.float bits).text ++ "`"
  | number value => "integer `" ++ value.text ++ "`"
  | string value => "string " ++ Text.Literal.quoteText value
  | array _ => "sequence"
  | object _ => "map"

def Mismatch.message : Mismatch → String
  | wrongType found expected => "invalid type: " ++ described found ++ ", expected " ++ expected
  | missingField name => "missing field `" ++ name ++ "`"
  | unknownName found known =>
    "unknown variant `" ++ found ++ "`, expected "
      ++ " or ".intercalate (known.map fun name => "`" ++ name ++ "`")
  | wrongLength found expected =>
    "invalid length " ++ toString found ++ ", expected " ++ expected
  | refused text => text

def asString : Json → Except Mismatch String
  | string value => .ok value
  | other => .error (.wrongType other "a string")

end TokenDesk.Json
