import SchemaCodec.Text.Split

/-! # File trees

A finite tree of files, devices and directories with a working directory. Places are given by their
names from the root down. A path is looked up name by name: every name but the last has to be a
directory, `.` stays, `..` goes up, and a path that ends in a slash has to end at a directory. Names
and paths have a longest length in bytes, and a path with a NUL character cannot be looked up. A
device is read as an empty file and keeps nothing that is written to it.
-/
namespace SchemaCodec
open Text

abbrev Place := List String

inductive PathError where
  | notFound
  | notDirectory
  | isDirectory
  | permissionDenied
  | alreadyExists
  | nameTooLong
  | embeddedNul
  deriving DecidableEq, Repr

/-- How a system reports that it refuses a path. -/
structure SystemReport where
  number : Nat
  text : String
  deriving DecidableEq, Repr

/-- The report of an error; a path that no system can be given has none. -/
def PathError.report? : PathError → Option SystemReport
  | notFound => some ⟨2,"No such file or directory"⟩
  | permissionDenied => some ⟨13,"Permission denied"⟩
  | alreadyExists => some ⟨17,"File exists"⟩
  | notDirectory => some ⟨20,"Not a directory"⟩
  | isDirectory => some ⟨21,"Is a directory"⟩
  | nameTooLong => some ⟨36,"File name too long"⟩
  | embeddedNul => none

inductive Node where
  | file (content : List UInt8)
  | device
  | directory
  deriving DecidableEq, Repr

/-- Files with their places, and the places of devices and of directories that need hold no file. -/
structure FileTree where
  workingDirectory : Place
  files : List (Place × List UInt8)
  directories : List Place := []
  devices : List Place := []
  deriving Repr

def isAbsolute (path : String) : Bool := path.toList.head? == some '/'

/-- The path of `name` seen from `base`; an absolute name stands for itself. -/
def joinPath (base name : String) : String :=
  if isAbsolute name then name
  else if base = "" ∨ base.toList.getLast? = some '/' then base ++ name
  else base ++ "/" ++ name

def pathOf (place : Place) : String := "/" ++ joinStrings "/" place

/-- One name of a path taken as written, without looking at files. -/
def follow (place : Place) (name : String) : Place :=
  if name = "" ∨ name = "." then place
  else if name = ".." then place.dropLast
  else place ++ [name]

def longestName : Nat := 255

def longestPath : Nat := 4095

def pathFault? (path : String) : Option PathError :=
  if '\x00' ∈ path.toList then some .embeddedNul
  else if path = "" then some .notFound
  else if longestPath < path.utf8ByteSize then some .nameTooLong
  else none

namespace FileTree

def node? (tree : FileTree) (place : Place) : Option Node :=
  match tree.files.lookup place with
  | some content => some (.file content)
  | none =>
    if tree.devices.contains place then some .device
    else if place.isPrefixOf tree.workingDirectory
        || tree.files.any (fun (p, _) => place.isPrefixOf p)
        || tree.directories.any (fun p => place.isPrefixOf p) then some .directory
    else none

/-- Where a path leads if all its names are directories: the place it spells. -/
def placeOf (tree : FileTree) (path : String) : Place :=
  let start := if isAbsolute path then [] else tree.workingDirectory
  (splitString '/' path).foldl follow start

def enter (tree : FileTree) (place : Place) (name : String) : Except PathError Place :=
  match tree.node? place with
  | none => .error .notFound
  | some (.file _) | some .device => .error .notDirectory
  | some .directory =>
    if longestName < name.utf8ByteSize then .error .nameTooLong else .ok (follow place name)

def locate (tree : FileTree) (path : String) : Except PathError Place :=
  match pathFault? path with
  | some fault => .error fault
  | none =>
    let start := if isAbsolute path then [] else tree.workingDirectory
    (splitString '/' path).foldlM tree.enter start

def find (tree : FileTree) (path : String) : Except PathError Node := do
  match tree.node? (← tree.locate path) with
  | some node => .ok node
  | none => .error .notFound

def isFile (tree : FileTree) (path : String) : Bool :=
  match tree.find path with
  | .ok (.file _) => true
  | _ => false

def isDirectory (tree : FileTree) (path : String) : Bool :=
  match tree.find path with
  | .ok .directory => true
  | _ => false

def read (tree : FileTree) (path : String) : Except PathError (List UInt8) := do
  match ← tree.find path with
  | .file content => .ok content
  | .device => .ok []
  | .directory => .error .isDirectory

def makeDirectory (tree : FileTree) (path : String) : Except PathError FileTree := do
  let place ← tree.locate path
  match tree.node? place with
  | some _ => .error .alreadyExists
  | none =>
    match tree.node? place.dropLast with
    | some .directory => .ok { tree with directories := place :: tree.directories }
    | some _ => .error .notDirectory
    | none => .error .notFound

def write (tree : FileTree) (path : String) (content : List UInt8) :
    Except PathError FileTree := do
  let place ← tree.locate path
  match tree.node? place with
  | some .directory => .error .isDirectory
  | some .device => .ok tree
  | some (.file _) =>
    .ok { tree with files := tree.files.map fun (p, c) => (p, if p = place then content else c) }
  | none =>
    match tree.node? place.dropLast with
    | some .directory => .ok { tree with files := tree.files ++ [(place, content)] }
    | some _ => .error .notDirectory
    | none => .error .notFound

end FileTree

end SchemaCodec
