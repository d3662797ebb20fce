import SchemaCodec.FileTree
import SchemaCodec.Schema.Build
import SchemaCodec.Text.Line
import SchemaCodec.Text.Utf8

/-! # Loading schema files from a tree

The files asked for are read together with all that they import, in breadth-first order. A file is
known by its import path: its path below an include root. Each file asked for that lies under no
root makes its own directory a further root, and imports are searched in all roots in order.
-/
namespace SchemaCodec
open Text

structure FileRequest where
  location : String
  name : String
  deriving DecidableEq, Repr

/-- An absolute path in normal form. Exactly two slashes at its front are kept apart from one. -/
structure AbsolutePath where
  doubled : Bool
  place : Place
  deriving DecidableEq, Repr

def AbsolutePath.text (path : AbsolutePath) : String :=
  (if path.doubled then "//" else "/") ++ joinStrings "/" path.place

def isDoubled (path : String) : Bool :=
  match path.toList with
  | '/' :: '/' :: '/' :: _ => false
  | '/' :: '/' :: _ => true
  | _ => false

def FileTree.absolute (tree : FileTree) (path : String) : AbsolutePath :=
  ⟨isDoubled path,tree.placeOf path⟩

/-- The path from a root to a place, if the text of the place goes on behind that of the root and a
slash. -/
def importPath? (root path : AbsolutePath) : Option String :=
  if root.place = [] then
    if path.doubled && !root.doubled then
      some (if path.place = [] then "." else joinStrings "/" path.place)
    else none
  else if root.doubled = path.doubled ∧ root.place ≠ path.place
      ∧ root.place.isPrefixOf path.place then
    some (joinStrings "/" (path.place.drop root.place.length))
  else none

/-- The root and import path of a file: of the first root above it, or else its own directory. -/
def importPlace (roots : List AbsolutePath) (path : AbsolutePath) : AbsolutePath × String :=
  match roots.findSome? fun root => (importPath? root path).map fun name => (root, name) with
  | some found => found
  | none => (⟨path.doubled,path.place.dropLast⟩, path.place.getLast?.getD "")

structure Inputs where
  roots : List AbsolutePath
  requests : List FileRequest
  deriving DecidableEq, Repr

def requestIn (root : AbsolutePath) (name : String) : FileRequest := ⟨joinPath root.text name,name⟩

def Inputs.add (inputs : Inputs) (path : AbsolutePath) : Inputs :=
  let (root, name) := importPlace inputs.roots path
  ⟨if root ∈ inputs.roots then inputs.roots else inputs.roots ++ [root],
    inputs.requests ++ [requestIn root name]⟩

/-- The text of a file, with its line ends unified, if its bytes are UTF-8. -/
def fileText? (content : List UInt8) : Option (List Char) :=
  (decodeUtf8? content).map fun text => unifyLineEnds text.toList

namespace FileTree

def inputs (tree : FileTree) (paths includePaths : List String) : Inputs :=
  (paths.map tree.absolute).foldl Inputs.add ⟨includePaths.map tree.absolute,[]⟩

def draft (tree : FileTree) (request : FileRequest) : Except SchemaError FileDraft :=
  match tree.read request.location with
  | .error cause =>
    match cause.report? with
    | some report => .error (.unreadable request.name report.text)
    | none => .error (.unusablePath request.name)
  | .ok content =>
    match fileText? content with
    | some text => draftOf request.name text
    | none => .error (.undecodable request.name)

def importRequest? (tree : FileTree) (roots : List AbsolutePath) (name : String) :
    Option FileRequest :=
  (roots.map fun root => requestIn root name).find? fun request => tree.isFile request.location

def importRequests (tree : FileTree) (roots : List AbsolutePath) (drafts : List FileDraft)
    (draft : FileDraft) : Except SchemaError (List FileRequest) :=
  (draft.imports.filter fun name => !drafts.any (·.path == name)).mapM fun name =>
    match tree.importRequest? roots name with
    | some request => .ok request
    | none => .error (.importNotFound draft.path name)

/-- Drafts the requested files and then what they import, each once, for at most so many files. -/
def draftAll (tree : FileTree) (roots : List AbsolutePath) :
    Nat → List FileRequest → List FileDraft → Except SchemaError (List FileDraft)
  | 0, _, drafts => .ok drafts
  | limit + 1, pending, drafts =>
    match pending.dropWhile fun request => drafts.any (·.path == request.name) with
    | [] => .ok drafts
    | request :: rest => do
      let draft ← tree.draft request
      let imported ← tree.importRequests roots (drafts ++ [draft]) draft
      tree.draftAll roots limit (rest ++ imported) (drafts ++ [draft])

/-- No more names than this can be asked for: every one is an input's or is written in some file of
the tree, where it takes up at least one byte. -/
def requestLimit (tree : FileTree) (requests : List FileRequest) : Nat :=
  tree.files.foldl (fun total (_, content) => total + content.length) requests.length

/-- The descriptors of the files at the given paths and of all that they import; those at the paths
are the ones asked for. -/
def load (tree : FileTree) (paths includePaths : List String) :
    Except SchemaError (List SchemaFile) := do
  let inputs := tree.inputs paths includePaths
  let drafts ← tree.draftAll inputs.roots (tree.requestLimit inputs.requests) inputs.requests []
  buildAll drafts fun name => inputs.requests.any (·.name == name)

end FileTree

end SchemaCodec
