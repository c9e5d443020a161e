import TokenDesk.CommandLine.Usage
import TokenDesk.Text.Cut

/-! What a program's command line may hold: options, operands and commands. -/

set_option autoImplicit false

namespace TokenDesk.CommandLine

inductive ValueKind where
  | text
  /-- Any text but the empty one. -/
  | path
  | word
  | byte
  | oneOf (choices : List String)
  deriving DecidableEq, Repr

namespace ValueKind

def digits? (text : List Char) : Option Nat :=
  if ¬ text.isEmpty ∧ text.all Char.isDigit then some (Nat.ofDigitChars 10 text 0) else none

def word? (text : String) : Option UInt64 :=
  let number := match text.toList with
    | '+' :: rest => digits? rest
    | rest => digits? rest
  (number.filter (· < UInt64.size)).map UInt64.ofNat

/-- Read a number of eight bits; of the negative ones, only zero is. -/
def byte? (text : String) : Option UInt8 :=
  let number := match text.toList with
    | '+' :: rest => digits? rest
    | '-' :: rest => (digits? rest).filter (· = 0)
    | rest => digits? rest
  (number.filter (· < UInt8.size)).map UInt8.ofNat

def check (text : String) : ValueKind → Except Usage Unit
  | .text => .ok ()
  | .path => if text = "" then .error .invalidValue else .ok ()
  | .word => if (word? text).isSome then .ok () else .error .invalidNumber
  | .byte => if (byte? text).isSome then .ok () else .error .invalidNumber
  | .oneOf choices => if text ∈ choices then .ok () else .error .invalidValue

end ValueKind

structure OptionSpec where
  name : String
  letter : Option Char
  value : Option ValueKind
  isRequired : Bool
  environment : Option String
  deriving DecidableEq, Repr

/-- An argument that goes by its place. The last one may be repeated. -/
structure Operand where
  name : String
  kind : ValueKind
  isRequired : Bool
  isRepeated : Bool
  deriving DecidableEq, Repr

inductive Grammar where
  | command (options : List OptionSpec) (operands : List Operand)
  | menu (commands : List (String × Grammar))

namespace Grammar

def commands : Grammar → List (String × Grammar)
  | command _ _ => []
  | menu commands => commands

def options : Grammar → List OptionSpec
  | command options _ => options
  | menu _ => []

def operands : Grammar → List Operand
  | command _ operands => operands
  | menu _ => []

def isMenu : Grammar → Bool
  | command _ _ => false
  | menu _ => true

def names (grammar : Grammar) : List String :=
  grammar.options.map OptionSpec.name ++ grammar.operands.map Operand.name

/-- The options that may be given to a command: its own, and the global ones unless an
argument of its own has the name. -/
def withGlobals (globals : List OptionSpec) (grammar : Grammar) : List OptionSpec :=
  grammar.options ++ globals.filter fun option => option.name ∉ grammar.names

end Grammar

end TokenDesk.CommandLine
