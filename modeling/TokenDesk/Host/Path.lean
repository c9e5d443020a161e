import TokenDesk.Text.Cut

/-! The names that a path leads through.

Empty names and the dots that stand for the same folder lead nowhere, except
for a dot in front.
-/

set_option autoImplicit false

namespace TokenDesk.Path

def here : List Char := ['.']
def up : List Char := ['.', '.']

def names (path : String) : List (List Char) :=
  Text.pieces '/' path.toList

def isAbsolute (path : String) : Bool :=
  path.toList.head? = some '/'

/-- The names that matter. A dot matters only in front of a relative path. -/
def steps (path : String) : List (List Char) :=
  let kept := fun name => !name.isEmpty && name != here
  match names path with
  | [] => []
  | first :: rest =>
    if first = here then first :: rest.filter kept else (first :: rest).filter kept

/-- The names before the last one, if a slash behind that one says that it is a folder's. -/
def beforeFolder? (path : String) : Option (List (List Char)) :=
  match (names path).reverse with
  | [] :: rest =>
    match rest.dropWhile List.isEmpty with
    | [] => none
    | last :: before => if last = here ∨ last = up then none else some before.reverse
  | _ => none

def withoutEnd : List (List Char) → List (List Char)
  | [] => []
  | [first] => [first]
  | name :: rest => if name = [] ∨ name = here then withoutEnd rest else name :: rest

/-- The path of the folder that holds what the path names, if the path tells it. -/
def parent? (path : String) : Option String :=
  match (withoutEnd (names path).reverse).tail with
  | [] => none
  | folder =>
    match withoutEnd folder with
    | [[]] => some "/"
    | folder => some (String.ofList (Text.joinWith '/' folder.reverse))

end TokenDesk.Path
