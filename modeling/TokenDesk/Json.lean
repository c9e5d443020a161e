import TokenDesk.SortedTable

/-! JSON values.

Numbers keep the three forms in which they are told apart: naturals below
2^64, negative integers down to -2^63, and floating point for all others. An
object keeps its members in the order in which they were read, repeated names
included; `Json.settled` is the value in which the last member of a name has
won and members are sorted by name.
-/

set_option autoImplicit false

namespace TokenDesk

namespace Json

inductive Number where
  | natural (n : Nat)
  /-- The number `-n`. -/
  | negative (n : Nat)
  | float (bits : UInt64)
  deriving DecidableEq, Repr

end Json

inductive Json where
  | null
  | bool (value : Bool)
  | number (value : Json.Number)
  | string (value : String)
  | array (items : List Json)
  | object (members : List (String × Json))
  deriving Repr, Inhabited

namespace Json

def nat (n : Nat) : Json :=
  .number (.natural n)

def isNull : Json → Bool
  | null => true
  | _ => false

/-- An object with sorted members, the last of each name. -/
def objectOf (members : List (String × Json)) : Json :=
  .object (SortedTable.ofList members).entries

mutual

/-- The same value with the members of every object sorted, the last of each name. -/
def settled : Json → Json
  | array items => .array (settledItems items)
  | object members => objectOf (settledMembers members)
  | other => other

def settledItems : List Json → List Json
  | [] => []
  | item :: rest => settled item :: settledItems rest

def settledMembers : List (String × Json) → List (String × Json)
  | [] => []
  | (name, value) :: rest => (name, settled value) :: settledMembers rest

end

def member? (name : String) : Json → Option Json
  | object members => members.reverse.lookup name
  | _ => none

end Json

end TokenDesk
