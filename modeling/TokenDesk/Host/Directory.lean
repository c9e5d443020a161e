import TokenDesk.Host.Files
import TokenDesk.Host.Path
import TokenDesk.SortedTable
import TokenDesk.Text.Utf8

/-! A working directory held in memory.

Files and folders are known by the names that lead to them from the directory.
A path may go through existing folders only, also where it turns back. Of what
lies outside of the directory only the folders above it are known.
-/

set_option autoImplicit false

namespace TokenDesk

abbrev Place := List (List Char)

namespace Place

def root : Place := [[]]

def start (path : String) : Place :=
  if Path.isAbsolute path then root else []

def isAbove (place : Place) : Bool :=
  place = root || place.all (· = Path.up)

def isOutside (place : Place) : Bool :=
  place.getLast? = some [] || place.getLast? = some Path.up

def parent (place : Place) : Place :=
  if place = root then root else if place.isAbove then Path.up :: place else place.tail

end Place

structure Directory where
  files : SortedTable (List UInt8)
  folders : List Place
  deriving DecidableEq, Repr

namespace Directory

def pathOf (place : Place) : String :=
  String.ofList (Text.joinWith '/' place.reverse)

inductive Entry where
  | folder
  | file (bytes : List UInt8)
  | missing
  deriving DecidableEq, Repr

def entry (directory : Directory) (place : Place) : Entry :=
  if place.isAbove ∨ place ∈ directory.folders then .folder
  else match directory.files.get? (pathOf place) with
    | some bytes => .file bytes
    | none => .missing

def requireFolder (directory : Directory) (place : Place) : Except FileFault Unit :=
  match directory.entry place with
  | .missing => .error .notFound
  | .file _ => .error .notDirectory
  | .folder => .ok ()

def nameLimit : Nat := 255
def pathLimit : Nat := 4095

def step (directory : Directory) (place : Place) (name : List Char) : Except FileFault Place := do
  directory.requireFolder place
  if name = [] ∨ name = Path.here then return place
  if name = Path.up then return place.parent
  if nameLimit < (String.ofList name).utf8ByteSize then throw .nameTooLong
  return name :: place

def requirePath (path : String) : Except FileFault Unit :=
  if '\x00' ∈ path.toList then .error .zeroInName
  else if path = "" then .error .notFound
  else if pathLimit < path.utf8ByteSize then .error .nameTooLong
  else .ok ()

def locate (directory : Directory) (path : String) : Except FileFault Place := do
  requirePath path
  (Path.names path).foldlM directory.step (.start path)

def isPresent (directory : Directory) (path : String) : Bool :=
  match directory.locate path with
  | .ok place => directory.entry place ≠ .missing
  | .error _ => false

def readText (directory : Directory) (path : String) : Except FileFault String := do
  match directory.entry (← directory.locate path) with
  | .missing => .error .notFound
  | .folder => .error .isDirectory
  | .file bytes =>
    match Text.Utf8.decode? bytes with
    | some text => .ok (String.ofList text)
    | none => .error .notText

/-- The place that a path to a file leads to, whether or not the file is there. A path with
a slash at its end leads to no file. -/
def locateFile (directory : Directory) (path : String) : Except FileFault Place := do
  requirePath path
  match Path.beforeFolder? path with
  | some names =>
    directory.requireFolder (← names.foldlM directory.step (.start path))
    throw .isDirectory
  | none => (Path.names path).foldlM directory.step (.start path)

def store (directory : Directory) (place : Place) (bytes : List UInt8) : Directory :=
  { directory with files := directory.files.insert (pathOf place) bytes }

def writeText (directory : Directory) (path text : String) : Except FileFault Directory := do
  let place ← directory.locateFile path
  if directory.entry place = .folder then throw .isDirectory
  return directory.store place (Text.Utf8.encode text.toList)

def withFolders (directory : Directory) : Place → Directory
  | [] => directory
  | name :: rest =>
    let directory := directory.withFolders rest
    { directory with folders := (name :: rest) :: directory.folders }

/-- Where the names of a folder lead, the last name first, and the directory with the folder
in it, which must not be there yet. -/
def createFolder (directory : Directory) (start : Place) (names : Place) :
    Except FileFault Directory := do
  let place ← names.reverse.foldlM directory.step start
  if directory.entry place ≠ .missing then throw .alreadyThere
  return { directory with folders := place :: directory.folders }

def leadsToFolder (directory : Directory) (start : Place) (names : Place) : Bool :=
  match names.reverse.foldlM directory.step start with
  | .ok place => directory.entry place = .folder
  | .error _ => false

def ensureFolder (directory : Directory) (start : Place) (names : Place) :
    Directory × Except FileFault Unit :=
  match directory.createFolder start names with
  | .ok changed => (changed, .ok ())
  | .error fault =>
    if fault = .alreadyThere ∧ directory.leadsToFolder start names then (directory, .ok ())
    else (directory, .error fault)

/-- Create a folder, and before it the one that holds it if that is missing. The names are
those of the folder, the last one first. -/
def ensureFolders (directory : Directory) (start : Place) : (names : Place) →
    Directory × Except FileFault Unit
  | [] => (directory, .ok ())
  | name :: rest =>
    match directory.ensureFolder start (name :: rest) with
    | (_, .error .notFound) =>
      match directory.ensureFolders start rest with
      | (changed, .ok ()) => changed.ensureFolder start (name :: rest)
      | failed => failed
    | result => result

/-- What becomes of the attempt to create the folders of a path. Those created before one
fails remain. -/
def createFolders (directory : Directory) (path : String) : Directory × Except FileFault Unit :=
  match requirePath path with
  | .error fault => (directory, .error fault)
  | .ok () => directory.ensureFolders (.start path) (Path.steps path).reverse

def ofFiles (files : List (String × List UInt8)) : Directory :=
  files.foldl (fun directory (path, bytes) =>
    let place := ((Path.steps path).filter (· ≠ Path.here)).reverse
    (directory.withFolders place.tail).store place bytes) ⟨.empty, []⟩

def changes (before after : Directory) : List (String × List UInt8) :=
  after.files.entries.filter fun (path, bytes) =>
    before.files.get? path ≠ some bytes && !Place.isOutside (Path.names path).reverse

variable {m : Type → Type} [Monad m] [MonadStateOf Directory m]

def asFiles : Files m where
  isPresent path := do return (← get).isPresent path
  readText path := .mk do return (← get).readText path
  writeText path text := .mk <| modifyGet fun directory =>
    match directory.writeText path text with
    | .ok changed => (.ok (), changed)
    | .error fault => (.error fault, directory)
  createFolders path := .mk <| modifyGet fun directory =>
    (directory.createFolders path).swap

end Directory

end TokenDesk
