import SchemaCodec.CommandLine.Invocation
import SchemaCodec.CommandLine.PlanReport
import SchemaCodec.Console
import SchemaCodec.DirectoryPath
import SchemaCodec.Generate
import SchemaCodec.Schema.Load
import SchemaCodec.Text.ControlSequence

/-! # Running commands

A command reads schema files from a tree, writes what it generates into the tree and reports on the
way. Faults of schemas are reported and make the exit status 1; anything else that goes wrong ends
the run where it stands.
-/
namespace SchemaCodec.CommandLine
open Text

/-- What ends a run other than a fault of a schema. -/
inductive Failure where
  | schema (cause : SchemaError)
  | generation (cause : GenerationError)
  | report (cause : ReportError)
  | path (cause : PathError)
  | markup (cause : Console.MarkupFault)
  deriving DecidableEq, Repr

structure Session where
  tree : FileTree
  output : String := ""
  errors : String := ""
  deriving Repr

inductive Reason where
  | status (n : Nat)
  | failure (cause : Failure)
  deriving DecidableEq, Repr

structure Stop where
  session : Session
  reason : Reason
  deriving Repr

abbrev Progress := Except Stop Session

namespace Session

def say (s : Session) (text : String) : Session :=
  { s with output := s.output ++ plainString text ++ "\n" }

def stop {α : Type} (s : Session) (reason : Reason) : Except Stop α := .error ⟨s,reason⟩

def fail {α : Type} (s : Session) (cause : Failure) : Except Stop α := s.stop (.failure cause)

def print (s : Session) : ReportLine → Progress
  | .row text => .ok { s with output := s.output ++ text ++ "\n" }
  | .markup text =>
    match Console.shown text with
    | .ok shown => .ok { s with output := s.output ++ shown ++ "\n" }
    | .error cause => s.fail (.markup cause)

def printError (s : Session) (text : String) : Progress :=
  match Console.shown ("[bold red]error:[/bold red] " ++ text) with
  | .ok shown => .ok { s with errors := s.errors ++ shown ++ "\n" }
  | .error cause => s.fail (.markup cause)

/-- The files at some paths with all they import; what is wrong with a schema is reported. -/
def load (s : Session) (inputs protoPaths : List String) : Except Stop (List SchemaFile) :=
  match s.tree.load inputs protoPaths with
  | .ok files => .ok files
  | .error cause =>
    match cause.message? with
    | some message => do (← s.printError message).stop (.status 1)
    | none => s.fail (.schema cause)

def write (s : Session) (directory : String) (file : GeneratedFile) : Progress :=
  let path := joinPath directory file.path
  match s.tree.writeBelow path file.content with
  | .ok tree => .ok ({ s with tree := tree }.say ("Generated " ++ path))
  | .error cause => s.fail (.path cause)

def gen (launch : Launcher) (s : Session) (settings : GenSettings) : Progress := do
  let files ← s.load settings.inputs settings.protoPaths
  match generate files (settings.formatter.formatter launch) with
  | .error cause => s.fail (.generation cause)
  | .ok result => do
    let s ← result.files.foldlM (fun s file => s.write settings.output file) s
    let s ← result.errors.foldlM (fun s e => s.printError e.describe) s
    if result.ok then .ok s else s.stop (.status 1)

def reports (s : Session) (files : List SchemaFile) : Except Stop (List (String × FileReport)) :=
  let index := TypeIndex.ofFiles files
  (files.filter (·.generate)).mapM fun file =>
    match fileReport index file with
    | .ok report => .ok (file.path, report)
    | .error cause => s.fail (.report cause)

def printReport (s : Session) (path : String) (report : FileReport) : Progress :=
  (pathLine path :: report.lines).foldlM print s

def plan (s : Session) (settings : PlanSettings) : Progress := do
  let files ← s.load settings.inputs settings.protoPaths
  let reports := mergeNames (← s.reports files)
  let s ←
    if settings.asJson then
      match Json.pretty? (.object (reports.map fun (path, r) => (path, r.toJson))) with
      | some text => .ok (s.say text)
      | none => s.fail (.report .longNumber)
    else reports.foldlM (fun s (path, r) => s.printReport path r) s
  if reports.any (·.2.isError) then s.stop (.status 1) else .ok s

end Session

/-- How a run ended: its status, what it printed, the tree it left, and the failure that ended
it. -/
structure Ending where
  status : Nat
  output : String
  errors : String
  tree : FileTree
  failure : Option Failure
  deriving Repr

def endingOf : Progress → Ending
  | .ok s => ⟨0,s.output,s.errors,s.tree,none⟩
  | .error ⟨s,.status n⟩ => ⟨n,s.output,s.errors,s.tree,none⟩
  | .error ⟨s,.failure cause⟩ => ⟨1,s.output,s.errors,s.tree,some cause⟩

/-- Runs the program with these arguments on a tree. -/
def run (launch : Launcher) (tree : FileTree) (arguments : List String) : Ending :=
  match invocation arguments with
  | .error e => ⟨2,"",plainString e.report,tree,none⟩
  | .ok .nothing => ⟨2,"",Page.program.help,tree,none⟩
  | .ok (.help page) => ⟨0,page.help,"",tree,none⟩
  | .ok (.gen settings) => endingOf (Session.gen launch ⟨tree,"",""⟩ settings)
  | .ok (.plan settings) => endingOf (Session.plan ⟨tree,"",""⟩ settings)

end SchemaCodec.CommandLine
