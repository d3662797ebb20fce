import SchemaCodec.BaseSystem
import SchemaCodec.CommandLine.Run
import SchemaCodec.Plugin.Run

/-! # The program

With arguments the program runs the command they name on the files around its working directory;
without any it is a plugin that answers one request. This layer only fetches files, passes them to
the pure functions that do the work, and carries out what those decide.
-/
namespace SchemaCodec.Host
open Text CommandLine

structure Found where
  files : List (Place × List UInt8) := []
  directories : List Place := []

def Found.append (a b : Found) : Found := ⟨a.files ++ b.files,a.directories ++ b.directories⟩

/-- Everything at a place and at most so deep below it. -/
def gather : Nat → Place → IO Found
  | 0, _ => return {}
  | depth + 1, place => do
    let entry : IO.FS.DirEntry := ⟨"/",joinStrings "/" place⟩
    if ← entry.path.isDir then
      let mut found : Found := ⟨[],[place]⟩
      for inner in ← entry.path.readDir do
        found := found.append (← gather depth (place ++ [inner.fileName]))
      return found
    else if ← entry.path.pathExists then
      return ⟨[(place, (← IO.FS.readBinFile entry.path).toList)],[]⟩
    else return {}

def searchDepth : Nat := 32

/-- The places that a run reads from: the directories of its inputs and its include paths. -/
def sources (tree : FileTree) (inputs protoPaths : List String) : List Place :=
  ((inputs.map fun path => (tree.placeOf path).dropLast) ++ protoPaths.map tree.placeOf).eraseDups

def outermost (places : List Place) : List Place :=
  places.filter fun p => !places.any fun q => q != p && q.isPrefixOf p

def fetch (arguments : List String) : IO FileTree := do
  let here : FileTree := ⟨[],[],[],[]⟩
  let tree := { here with workingDirectory := here.placeOf (← IO.currentDir).toString }
  let places := match invocation arguments with
    | .ok (.gen s) => sources tree s.inputs s.protoPaths
    | .ok (.plan s) => sources tree s.inputs s.protoPaths
    | _ => []
  let mut found : Found := {}
  for place in outermost places do
    found := found.append (← gather searchDepth place)
  return BaseSystem.mount { tree with files := found.files, directories := found.directories }

/-- Writes the files in which a tree differs from the one it was made of. -/
def store (before after : FileTree) : IO Unit := do
  for (place, content) in after.files do
    if before.files.lookup place ≠ some content then
      IO.FS.createDirAll (pathOf place.dropLast)
      IO.FS.writeBinFile (pathOf place) content.toByteArray

def failureText : Failure → String
  | .schema (.undecodable path) => path ++ " is not UTF-8"
  | .schema _ => "malformed literal or repeated statement"
  | .generation (.render cause) => cause.message?.getD "missing declaration"
  | .generation .unusableCommand => "a command cannot hold a NUL character"
  | .report (.plan cause) => cause.message?.getD "missing declaration"
  | .report (.kind cause) => cause.message
  | .report (.unknownType name) => "missing declaration " ++ name
  | .report .longNumber => "a number has too many digits"
  | .path cause => (cause.report?.map (·.text)).getD "a path cannot hold a NUL character"
  | .markup (.unmatched name) => "closing tag " ++ quote name ++ " closes nothing"
  | .markup (.parameter text) => "parameter " ++ quote text ++ " is no literal"
  | .markup .unreadPart => "a colour has a part that writes no number"

def runCommand (arguments : List String) : IO UInt32 := do
  let tree ← fetch arguments
  let ending := CommandLine.run (BaseSystem.launcher tree) tree arguments
  store tree ending.tree
  (← IO.getStdout).putStr ending.output
  (← IO.getStderr).putStr ending.errors
  match ending.failure with
  | some cause => (← IO.getStderr).putStrLn ("fatal: " ++ failureText cause)
  | none => pure ()
  return UInt32.ofNat ending.status

def runPlugin : IO UInt32 := do
  let input ← IO.getStdin
  let bytes ← if ← input.isTty then pure none else some <$> input.readBinToEnd
  match Plugin.run (BaseSystem.launcher BaseSystem.bare) (bytes.map ByteArray.toList) with
  | .ok outcome =>
    (← IO.getStdout).write outcome.output.toByteArray
    (← IO.getStderr).write outcome.errors.toByteArray
    return UInt32.ofNat outcome.status
  | .error _ =>
    (← IO.getStderr).putStrLn "fatal: the request cannot be answered"
    return 1

end SchemaCodec.Host

def main (arguments : List String) : IO UInt32 :=
  if arguments = [] then SchemaCodec.Host.runPlugin else SchemaCodec.Host.runCommand arguments
