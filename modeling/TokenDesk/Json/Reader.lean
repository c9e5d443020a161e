import TokenDesk.Json.Numeral
import TokenDesk.Text.Hex

/-! Reading JSON text.

The whole text has to be one value with white space around it. Values that are
kept nest at most 127 deep, their numbers are finite and their strings well
formed. Members that are not wanted are passed over: of them only the grammar
matters, whatever their depth, their numbers and their surrogates.
-/

set_option autoImplicit false

namespace TokenDesk.Json

abbrev Reader (α : Type) := List Char → Option (α × List Char)

def skipSpace : List Char → List Char
  | c :: rest => if c = ' ' || c = '\n' || c = '\t' || c = '\r' then skipSpace rest else c :: rest
  | [] => []

def codeUnit? (a b c d : Char) : Option Nat := do
  let a ← Text.Hex.digit? a
  let b ← Text.Hex.digit? b
  let c ← Text.Hex.digit? c
  let d ← Text.Hex.digit? d
  return ((a * 16 + b) * 16 + c) * 16 + d

def shortEscape? (c : Char) : Option Char :=
  if c = '"' then some '"'
  else if c = '\\' then some '\\'
  else if c = '/' then some '/'
  else if c = 'b' then some '\x08'
  else if c = 'f' then some '\x0c'
  else if c = 'n' then some '\n'
  else if c = 'r' then some '\r'
  else if c = 't' then some '\t'
  else none

inductive Piece where
  | character (c : Char)
  | unit (n : Nat)
  deriving DecidableEq, Repr

def pieces : Reader (List Piece)
  | '"' :: rest => some ([], rest)
  | '\\' :: 'u' :: a :: b :: c :: d :: rest =>
    match codeUnit? a b c d with
    | none => none
    | some unit => (pieces rest).map fun (more, after) => (.unit unit :: more, after)
  | '\\' :: c :: rest =>
    match shortEscape? c with
    | none => none
    | some escaped => (pieces rest).map fun (more, after) => (.character escaped :: more, after)
  | c :: rest =>
    if c.toNat < 0x20 ∨ c = '\\' then none
    else (pieces rest).map fun (more, after) => (.character c :: more, after)
  | [] => none

/-- The character that the two halves of a surrogate pair stand for. -/
def surrogatePair? (high low : Nat) : Option Char :=
  if high < 0xDC00 ∧ 0xDC00 ≤ low ∧ low ≤ 0xDFFF then
    some (Char.ofNat (0x10000 + (high - 0xD800) * 0x400 + (low - 0xDC00)))
  else none

/-- The characters of the pieces of a string. Half of a surrogate pair is none. -/
def characters? : List Piece → Option (List Char)
  | [] => some []
  | .character c :: rest => (characters? rest).map (c :: ·)
  | .unit n :: rest =>
    if n < 0xD800 ∨ 0xDFFF < n then (characters? rest).map (Char.ofNat n :: ·)
    else match rest with
      | .unit low :: rest => do
        let c ← surrogatePair? n low
        (characters? rest).map (c :: ·)
      | _ => none

def stringRest : Reader String := fun text => do
  let (read, after) ← pieces text
  let characters ← characters? read
  return (String.ofList characters, after)

def items {α : Type} (item : (place : Nat) → Reader α) (place : Nat) :
    (fuel : Nat) → Reader (List α)
  | 0, _ => none
  | fuel + 1, text => do
    let (first, rest) ← item place text
    match skipSpace rest with
    | ']' :: rest => return ([first], rest)
    | ',' :: rest =>
      let (more, after) ← items item (place + 1) fuel rest
      return (first :: more, after)
    | _ => none

def listRest {α : Type} (item : (place : Nat) → Reader α) : Reader (List α) := fun text =>
  match skipSpace text with
  | ']' :: rest => some ([], rest)
  | rest => items item 0 rest.length rest

def members {ν α : Type} (name : Reader ν) (member : ν → Reader α) :
    (fuel : Nat) → Reader (List (ν × α))
  | 0, _ => none
  | fuel + 1, text => do
    let '"' :: rest := skipSpace text | none
    let (key, rest) ← name rest
    let ':' :: rest := skipSpace rest | none
    let (first, rest) ← member key rest
    match skipSpace rest with
    | '\x7d' :: rest => return ([(key, first)], rest)
    | ',' :: rest =>
      let (more, after) ← members name member fuel rest
      return ((key, first) :: more, after)
    | _ => none

def objectRest {ν α : Type} (name : Reader ν) (member : ν → Reader α) :
    Reader (List (ν × α)) := fun text =>
  match skipSpace text with
  | '\x7d' :: rest => some ([], rest)
  | rest => members name member rest.length rest

/-- How to read values: the parts that hold no others, and what becomes of those that do. -/
structure Reading (ν α : Type) where
  name : Reader ν
  scalar : Reader α
  ofItems : List α → α
  ofMembers : List (ν × α) → α

def Reading.value {ν α : Type} (reading : Reading ν α) : (depth : Nat) → Reader α
  | 0, text => reading.scalar (skipSpace text)
  | depth + 1, text =>
    match skipSpace text with
    | '[' :: rest =>
      (listRest (fun _ => reading.value depth) rest).map fun (items, after) =>
        (reading.ofItems items, after)
    | '\x7b' :: rest =>
      (objectRest reading.name (fun _ => reading.value depth) rest).map fun (members, after) =>
        (reading.ofMembers members, after)
    | rest => reading.scalar rest

def scalarBy {α : Type} (word : Json → α) (string : Reader α) (number : Numeral → Option α) : Reader α
  | 'n' :: 'u' :: 'l' :: 'l' :: rest => some (word .null, rest)
  | 't' :: 'r' :: 'u' :: 'e' :: rest => some (word (.bool true), rest)
  | 'f' :: 'a' :: 'l' :: 's' :: 'e' :: rest => some (word (.bool false), rest)
  | '"' :: rest => string rest
  | rest => do
    let (numeral, after) ← numeral? rest
    let value ← number numeral
    return (value, after)

def scalar : Reader Json :=
  scalarBy id (fun text => (stringRest text).map fun (text, after) => (.string text, after))
    fun numeral => numeral.number?.map .number

def keeping : Reading String Json where
  name := stringRest
  scalar := scalar
  ofItems := .array
  ofMembers := .object

def passing : Reading (List Piece) Unit where
  name := pieces
  scalar := scalarBy (fun _ => ()) (fun text => (pieces text).map fun (_, after) => ((), after))
    fun _ => some ()
  ofItems _ := ()
  ofMembers _ := ()

def value (depth : Nat) : Reader Json :=
  keeping.value depth

def passed : Reader Unit := fun text =>
  passing.value text.length text

/-- Read an object of which only the named fields are wanted, or the list of their values.
What is neither is read as it is. -/
def fields (wanted : List (String × Reader Json)) : Reader Json := fun text =>
  match skipSpace text with
  | '\x7b' :: rest =>
    let member := fun (name : String) (text : List Char) =>
      match wanted.lookup name with
      | some field => (field text).map fun (value, after) => (some value, after)
      | none => (passed text).map fun (_, after) => (none, after)
    (objectRest stringRest member rest).map fun (members, after) =>
      (.object (members.filterMap fun (name, value) => value.map fun value => (name, value)), after)
  | '[' :: rest =>
    let item := fun (place : Nat) => (wanted[place]?.map Prod.snd).getD scalar
    (listRest item rest).map fun (items, after) => (.array items, after)
  | rest => scalar rest

def readAll? {α : Type} (reader : Reader α) (text : String) : Option α := do
  let (value, rest) ← reader text.toList
  if (skipSpace rest).isEmpty then some value else none

def depthLimit : Nat := 127

def parse? : String → Option Json :=
  readAll? (value depthLimit)

end TokenDesk.Json
