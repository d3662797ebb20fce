import SchemaCodec.Formatter
import SchemaCodec.Rendering.Source
import SchemaCodec.Text.Utf8

/-! # Generating code for schema files

Every file that is asked for is rendered and formatted by itself. A schema that cannot be expressed
and a formatter that fails are faults of their file alone; any other error ends the run.
-/
namespace SchemaCodec
open Text

structure GeneratedFile where
  path : String
  content : List UInt8
  deriving DecidableEq, Repr

inductive FileFault where
  | unsupported (cause : Rendering.Unsupported)
  | format (cause : FormatError)
  deriving DecidableEq, Repr

structure FileError where
  path : String
  fault : FileFault
  deriving DecidableEq, Repr

def FileFault.message : FileFault → String
  | unsupported cause => cause.message
  | format cause => cause.message

def FileFault.diagnostics : FileFault → List UInt8
  | unsupported _ => []
  | format cause => cause.diagnostics

/-- The report of a failed file, with what the formatter said below it. -/
def FileError.describe (e : FileError) : String :=
  let report := e.path ++ ": " ++ e.fault.message
  if e.fault.diagnostics.isEmpty then report
  else report ++ "\n" ++ decodeUtf8 e.fault.diagnostics

/-- What a run made of the files that were asked for. -/
structure GenerationResult where
  files : List GeneratedFile
  errors : List FileError
  deriving DecidableEq, Repr

def GenerationResult.ok (r : GenerationResult) : Bool := r.errors.isEmpty

abbrev FileOutcome := Except FileError GeneratedFile

/-- What ends a run. -/
inductive GenerationError where
  | render (cause : Rendering.RenderError)
  | unusableCommand
  deriving DecidableEq, Repr

def generateFile (index : TypeIndex) (format : Formatter) (file : SchemaFile) :
    Except GenerationError FileOutcome :=
  match Rendering.render index file with
  | .error e =>
    match e.unsupported? with
    | some cause => .ok (.error ⟨file.path,.unsupported cause⟩)
    | none => .error (.render e)
  | .ok source =>
    match format (encodeUtf8 source) with
    | .error (.failed cause) => .ok (.error ⟨file.path,.format cause⟩)
    | .error .unusableCommand => .error .unusableCommand
    | .ok content => .ok (.ok ⟨file.outputPath,content⟩)

def FileOutcome.generated? : FileOutcome → Option GeneratedFile
  | .ok file => some file
  | .error _ => none

def FileOutcome.error? : FileOutcome → Option FileError
  | .ok _ => none
  | .error e => some e

def generate (files : List SchemaFile) (format : Formatter) :
    Except GenerationError GenerationResult := do
  let index := TypeIndex.ofFiles files
  let outcomes ← (files.filter (·.generate)).mapM (generateFile index format)
  .ok ⟨outcomes.filterMap FileOutcome.generated?,outcomes.filterMap FileOutcome.error?⟩

end SchemaCodec
