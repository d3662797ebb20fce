import SchemaCodec.FileTree

/-! # Making directories

A path is split at its last slash. Before a file is written the directories on its way are made,
outermost first; those that exist already are left alone.
-/
namespace SchemaCodec

/-- The slashes at the end of a path are dropped, unless there is nothing else. -/
def dropSlashes (path : List Char) : List Char :=
  if path.all (· == '/') then path else (path.reverse.dropWhile (· == '/')).reverse

def splitPath (path : String) : String × String :=
  let name := (path.toList.reverse.takeWhile (· ≠ '/')).reverse
  let rest := path.toList.take (path.toList.length - name.length)
  (String.ofList (dropSlashes rest), String.ofList name)

def directoryOf (path : String) : String := (splitPath path).1

namespace FileTree

/-- Makes one directory; one that exists is fine. -/
def ensureDirectory (tree : FileTree) (path : String) : Except PathError FileTree :=
  match tree.makeDirectory path with
  | .ok made => .ok made
  | .error cause => if tree.isDirectory path then .ok tree else .error cause

def outer? (path : String) : Option (String × String) :=
  let (head, name) := splitPath path
  let (head, name) := if name = "" then splitPath head else (head, name)
  if head = "" ∨ name = "" then none else some (head, name)

def ensureDirectories (tree : FileTree) : Nat → String → Except PathError FileTree
  | 0, path => tree.ensureDirectory path
  | depth + 1, path =>
    match outer? path with
    | none => tree.ensureDirectory path
    | some (head, name) =>
      match tree.find head with
      | .ok _ => tree.ensureDirectory path
      | .error _ => do
        let made ← match tree.ensureDirectories depth head with
          | .ok made => pure made
          | .error .alreadyExists => pure tree
          | .error cause => throw cause
        if name = "." then .ok made else made.ensureDirectory path

def writeBelow (tree : FileTree) (path : String) (content : List UInt8) :
    Except PathError FileTree := do
  let directory := if directoryOf path = "" then "." else directoryOf path
  (← tree.ensureDirectories directory.length directory).write path content

end FileTree

end SchemaCodec
