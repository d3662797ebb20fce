import SchemaCodec.FileTree
import SchemaCodec.Text.Quoted

/-! # Formatters

A formatter turns generated source into its final form or reports why it cannot. One keeps the
source as it is; another hands it to a formatting program and takes what the program prints.
-/
namespace SchemaCodec
open Text

structure FormatError where
  message : String
  diagnostics : List UInt8 := []
  deriving DecidableEq, Repr

/-- What keeps a formatter from a result: it fails on the source, or nothing can be told to run. -/
inductive FormatFault where
  | failed (cause : FormatError)
  | unusableCommand
  deriving DecidableEq, Repr

abbrev Formatter := List UInt8 → Except FormatFault (List UInt8)

namespace Formatter

def keep : Formatter := fun source => .ok source

end Formatter

structure ProgramOutcome where
  status : Nat
  output : List UInt8 := []
  errors : List UInt8 := []
  deriving DecidableEq, Repr

/-- Runs the program named by the first word of a command on an input. -/
abbrev Launcher := (command : List String) → (input : List UInt8) → Except PathError ProgramOutcome

/-- A formatting program with the edition of the language that it is told to expect. -/
structure Program where
  executable : String := "rustfmt"
  edition : String := "2021"
  deriving DecidableEq, Repr

namespace Program

def command (p : Program) : List String := [p.executable, "--edition", p.edition]

def launchError (p : Program) (report : SystemReport) : FormatError :=
  ⟨"Could not run " ++ p.executable ++ ": [Errno " ++ toString report.number ++ "] " ++ report.text
    ++ ": " ++ quote p.executable,[]⟩

def statusError (p : Program) (outcome : ProgramOutcome) : FormatError :=
  ⟨p.executable ++ " exited with status " ++ toString outcome.status,
    outcome.errors ++ outcome.output⟩

def formatter (p : Program) (launch : Launcher) : Formatter := fun source =>
  match launch p.command source with
  | .error cause =>
    match cause.report? with
    | some report => .error (.failed (p.launchError report))
    | none => .error .unusableCommand
  | .ok outcome =>
    if outcome.status = 0 then .ok outcome.output else .error (.failed (p.statusError outcome))

end Program

structure FormatChoice where
  format : Bool := true
  program : Program := {}
  deriving DecidableEq, Repr

def FormatChoice.formatter (choice : FormatChoice) (launch : Launcher) : Formatter :=
  if choice.format then choice.program.formatter launch else .keep

end SchemaCodec
