import TokenDesk.Toml.Scalar

/-! The tables of a TOML document, and which of them a line may add to.

A header opens a table that no line before has opened, possibly inside tables
that only other headers imply. A dotted key adds to tables of its own making,
never to one that a header opens, and a table between braces is closed for good.
-/

set_option autoImplicit false

namespace TokenDesk.Toml

inductive Origin where
  | braces
  | header
  | implied
  | dotted
  deriving DecidableEq, Repr

/-- What a key stands for. Numbers, booleans and dates are kept as they are written. -/
inductive Item where
  | text (value : String)
  | scalar (written : List Char)
  | array (items : List Item)
  | table (origin : Origin) (entries : List (String × Item))
  /-- The tables under one repeated header, the latest first. -/
  | tables (all : List (List (String × Item)))

abbrev Table := List (String × Item)

namespace Table

def put (key : String) (item : Item) : Table → Table
  | [] => [(key, item)]
  | (known, old) :: rest =>
    if known = key then (key, item) :: rest else (known, old) :: put key item rest

def add? (key : String) (item : Item) (entries : Table) : Option Table :=
  if (entries.lookup key).isSome then none else some (entries ++ [(key, item)])

end Table

def Item.change? (change : Table → Option Table) : Item → Option Item
  | .table origin entries => if origin = .braces then none else (change entries).map (.table origin)
  | .tables (latest :: earlier) => (change latest).map fun latest => .tables (latest :: earlier)
  | _ => none

def Item.admitsDotted (isLast : Bool) : Item → Bool
  | .table .dotted _ => true
  | .table .implied _ => !isLast
  | .tables _ => !isLast
  | _ => false

namespace Table

/-- Enter a value under a dotted key, whose last part is `key`. -/
def insert? (key : String) (item : Item) : List String → Table → Option Table
  | [], entries => entries.add? key item
  | step :: path, entries =>
    match entries.lookup step with
    | none => (insert? key item path []).map fun inner => entries.put step (.table .dotted inner)
    | some found =>
      if found.admitsDotted path.isEmpty then
        (found.change? (insert? key item path)).map fun found => entries.put step found
      else none

def inside? (change : Table → Option Table) : List String → Table → Option Table
  | [], entries => change entries
  | step :: path, entries =>
    match entries.lookup step with
    | none => (inside? change path []).map fun inner => entries.put step (.table .implied inner)
    | some found => (found.change? (inside? change path)).map fun found => entries.put step found

def openTable? (key : String) (path : List String) (entries : Table) : Option Table :=
  entries.inside? (fun parent =>
    match parent.lookup key with
    | none => some (parent.put key (.table .header []))
    | some (.table .implied inner) => some (parent.put key (.table .header inner))
    | some _ => none) path

def openNext? (key : String) (path : List String) (entries : Table) : Option Table :=
  entries.inside? (fun parent =>
    match parent.lookup key with
    | none => some (parent.put key (.tables [[]]))
    | some (.tables earlier) => some (parent.put key (.tables ([] :: earlier)))
    | some _ => none) path

end Table

end TokenDesk.Toml
