import SchemaCodec.Formatter
import SchemaCodec.Text.Utf8

/-! # A base system

The part of a base system that a formatting command may name: three of its programs, the files and
directories around them, and the rule by which a command is found. A command with a slash is a path;
any other is looked up in the search directories, and a candidate that may not be run is reported
only if none can be.
-/
namespace SchemaCodec.BaseSystem
open Text

inductive BaseProgram where
  | echo | succeed | fail
  deriving DecidableEq, Repr

def programNames : List (String × BaseProgram) :=
  [("echo", .echo), ("true", .succeed), ("false", .fail)]

def searchDirectories : List String :=
  ["/usr/local/sbin", "/usr/local/bin", "/usr/sbin", "/usr/bin", "/sbin", "/bin"]

def programs : List (Place × BaseProgram) :=
  programNames.flatMap fun (name, p) => [(["usr", "bin", name], p), (["bin", name], p)]

def plainFiles : List Place :=
  [["etc", "passwd"], ["etc", "group"], ["etc", "hosts"], ["etc", "hostname"],
   ["etc", "resolv.conf"], ["etc", "fstab"], ["etc", "shells"], ["etc", "profile"]]

def directories : List Place :=
  [["usr", "local", "sbin"], ["usr", "local", "bin"], ["usr", "sbin"], ["usr", "bin"], ["sbin"],
   ["bin"], ["etc"], ["tmp"], ["var", "tmp"], ["home"], ["root"], ["opt"], ["srv"], ["mnt"],
   ["media"], ["lib"], ["usr", "lib"], ["usr", "share"], ["usr", "include"], ["proc"], ["sys"],
   ["run"], ["boot"], ["dev", "shm"]]

def devices : List Place := [["dev", "null"], ["dev", "zero"]]

def plainContent : List UInt8 := encodeUtf8 "#\n"

def mount (tree : FileTree) : FileTree :=
  { tree with
    files := tree.files ++ programs.map (fun (p, _) => (p, []))
      ++ plainFiles.map (fun p => (p, plainContent))
    directories := tree.directories ++ directories
    devices := tree.devices ++ devices }

def bare : FileTree := mount ⟨["tmp", "work"],[],[],[]⟩

def runnable (tree : FileTree) (path : String) : Except PathError BaseProgram := do
  let place ← tree.locate path
  match tree.node? place with
  | none => .error .notFound
  | some .directory | some .device => .error .permissionDenied
  | some (.file _) =>
    match programs.lookup place with
    | some p => .ok p
    | none => .error .permissionDenied

def isMissing : PathError → Bool
  | .notFound | .notDirectory => true
  | _ => false

/-- The first candidate that can be run; otherwise the first reason why one cannot, or if all are
missing the last one. -/
def firstRunnable (tree : FileTree) : List String → Except PathError BaseProgram
  | [] => .error .notFound
  | path :: rest =>
    match runnable tree path with
    | .ok p => .ok p
    | .error cause =>
      match rest with
      | [] => .error cause
      | _ =>
        match firstRunnable tree rest with
        | .ok p => .ok p
        | .error later => .error (if isMissing cause then later else cause)

def candidates (name : String) : List String :=
  if '/' ∈ name.toList then [name] else searchDirectories.map (joinPath · name)

def run (p : BaseProgram) (arguments : List String) : ProgramOutcome :=
  match p with
  | .echo => ⟨0,encodeUtf8 (joinStrings " " arguments ++ "\n"),[]⟩
  | .succeed => ⟨0,[],[]⟩
  | .fail => ⟨1,[],[]⟩

/-- Runs the commands of the base system, with paths that are seen from a tree. -/
def launcher (tree : FileTree) : Launcher := fun command _ =>
  match command with
  | [] => .error .notFound
  | name :: arguments =>
    if (name :: arguments).any (fun word => '\x00' ∈ word.toList) then .error .embeddedNul
    else do .ok (run (← firstRunnable tree (candidates name)) arguments)

end SchemaCodec.BaseSystem
