import TokenDesk.Toml.Document
import TokenDesk.Toml.Quoted

/-! Reading a TOML document.

Each reader returns what it read and the text behind it. Brackets and braces
nest less than `depthLimit` deep, and a key has fewer parts than that.
-/

set_option autoImplicit false

namespace TokenDesk.Toml

def depthLimit : Nat := 80

abbrev Read (α : Type) := List Char → Option (α × List Char)

def isGap (c : Char) : Bool :=
  c == ' ' || c == '\t'

def afterGaps (text : List Char) : List Char :=
  text.dropWhile isGap

def afterComment : List Char → List Char
  | '#' :: rest => rest.dropWhile isPrintable
  | text => text

/-- What follows a line end; the end of the text is one. -/
def afterLineEnd? : List Char → Option (List Char)
  | [] => some []
  | '\n' :: rest => some rest
  | '\r' :: '\n' :: rest => some rest
  | _ => none

def afterLine? (text : List Char) : Option (List Char) :=
  afterLineEnd? (afterComment (afterGaps text))

def afterBlank (text : List Char) : List Char :=
  match afterLine? text with
  | some rest => if rest.length < text.length then afterBlank rest else rest
  | none => afterComment (afterGaps text)
termination_by text.length

def readKeys (text : List Char) : Option (List String × List Char) := do
  let (key, rest) ← readKey (afterGaps text)
  match afterGaps rest with
  | '.' :: rest =>
    if rest.length < text.length then
      let (keys, rest) ← readKeys rest
      return (String.ofList key :: keys, rest)
    else none
  | rest => return ([String.ofList key], rest)
termination_by text.length

def readPath (text : List Char) : Option ((List String × String) × List Char) := do
  let (keys, rest) ← readKeys text
  let key ← keys.getLast?
  if keys.length < depthLimit then some ((keys.dropLast, key), rest) else none

def endsScalar (c : Char) : Bool :=
  isGap c || c == '\n' || c == '\r' || c == '#' || c == ',' || c == ']' || c == '}'

def readScalar (text : List Char) : Option (Item × List Char) :=
  let word := text.takeWhile (!endsScalar ·)
  let rest := text.drop word.length
  let time := match rest with
    | ' ' :: rest => rest.takeWhile (!endsScalar ·)
    | _ => []
  if isDate word ∧ isZonedTime time then
    some (.scalar (word ++ ' ' :: time), rest.drop (time.length + 1))
  else if isScalar word then some (.scalar word, rest)
  else none

def readItems (readItem : Read Item) (text : List Char) : Option (List Item × List Char) :=
  match afterBlank text with
  | ']' :: rest => some ([], rest)
  | start => do
    let (item, rest) ← readItem start
    match afterBlank rest with
    | ',' :: rest =>
      if rest.length < text.length then
        let (items, rest) ← readItems readItem rest
        return (item :: items, rest)
      else none
    | ']' :: rest => return ([item], rest)
    | _ => none
termination_by text.length

structure Pair where
  path : List String
  key : String
  item : Item

def Pair.enter? (pair : Pair) (entries : Table) : Option Table :=
  entries.insert? pair.key pair.item pair.path

def readPair (readItem : Read Item) (text : List Char) : Option (Pair × List Char) := do
  let ((path, key), rest) ← readPath text
  let (item, rest) ← readItem (afterGaps (← after? '=' rest))
  return (⟨path, key, item⟩, rest)

def readPairs (readItem : Read Item) (entries : Table) (text : List Char) :
    Option (Table × List Char) := do
  let (pair, rest) ← readPair readItem text
  let entries ← pair.enter? entries
  match afterGaps rest with
  | ',' :: rest => if rest.length < text.length then readPairs readItem entries rest else none
  | '}' :: rest => return (entries, rest)
  | _ => none
termination_by text.length

/-- Read a value with fewer than `depth` brackets and braces around its parts. -/
def readItem : (depth : Nat) → Read Item
  | depth, text =>
    match depth, text with
    | _, '"' :: _ => (readText text).map fun (read, rest) => (.text (String.ofList read), rest)
    | _, '\x27' :: _ => (readText text).map fun (read, rest) => (.text (String.ofList read), rest)
    | depth + 1, '[' :: rest =>
      if depth = 0 then none
      else (readItems (readItem depth) rest).map fun (items, rest) => (.array items, rest)
    | depth + 1, '{' :: rest =>
      if depth = 0 then none
      else match afterGaps rest with
        | '}' :: rest => some (.table .braces [], rest)
        | _ => (readPairs (readItem depth) [] rest).map fun (entries, rest) =>
            (.table .braces entries, rest)
    | _, _ => readScalar text

def readHeader (closing : List Char) (text : List Char) :
    Option ((List String × String) × List Char) := do
  let (path, rest) ← readPath text
  let rest ← Text.stripStart? closing rest
  return (path, ← afterLine? rest)

def readLines (root : Table) (here : List String) (text : List Char) : Option Table :=
  let start := afterGaps text
  match start with
  | [] => some root
  | '[' :: '[' :: rest => do
    let ((path, key), rest) ← readHeader [']', ']'] rest
    if rest.length < text.length then
      readLines (← root.openNext? key path) (path ++ [key]) rest
    else none
  | '[' :: rest => do
    let ((path, key), rest) ← readHeader [']'] rest
    if rest.length < text.length then
      readLines (← root.openTable? key path) (path ++ [key]) rest
    else none
  | c :: _ => do
    if c = '#' ∨ c = '\n' ∨ c = '\r' then
      let rest ← afterLine? start
      if rest.length < text.length then readLines root here rest else none
    else
      let (pair, rest) ← readPair (readItem depthLimit) start
      let rest ← afterLine? rest
      if rest.length < text.length then readLines (← root.inside? pair.enter? here) here rest
      else none
termination_by text.length

def parse? (text : String) : Option Table :=
  match text.toList with
  | '\ufeff' :: rest => readLines [] [] rest
  | rest => readLines [] [] rest

end TokenDesk.Toml
