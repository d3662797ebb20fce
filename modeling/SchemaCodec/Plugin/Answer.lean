import SchemaCodec.Descriptor.Convert
import SchemaCodec.Generate
import SchemaCodec.Plugin.Parameter

/-! # Answering requests

A schema compiler asks a plugin to generate code for some of the files it describes. The answer
holds either all the generated files or one error that reports everything that went wrong.
-/
namespace SchemaCodec.Plugin
open Text

/-- What a schema compiler asks for: descriptors, and the names of the files that want code. -/
structure Request where
  wanted : List String
  parameter : String
  files : List Descriptor.File
  deriving Repr

structure AnsweredFile where
  name : String
  content : String
  deriving DecidableEq, Repr

structure Answer where
  error : Option String
  supportedFeatures : Nat
  files : List AnsweredFile
  deriving DecidableEq, Repr

/-- The feature that the plugin supports: optional fields. -/
def optionalFields : Nat := 1

def refuse (reason : String) : Answer := ⟨some reason,optionalFields,[]⟩

inductive RequestError where
  | conversion (cause : Descriptor.ConversionError)
  | generation (cause : GenerationError)
  | undecodable (path : String)
  deriving DecidableEq, Repr

def Request.schemaFiles (r : Request) : Except Descriptor.ConversionError (List SchemaFile) :=
  r.files.mapM fun f => f.toSchema (r.wanted.contains f.name)

/-- The text of a generated file, which a formatting program may have left without one. -/
def answerFile (file : GeneratedFile) : Except RequestError AnsweredFile :=
  match decodeUtf8? file.content with
  | some text => .ok ⟨file.path,text⟩
  | none => .error (.undecodable file.path)

def answerResult (result : GenerationResult) : Except RequestError Answer :=
  if result.ok then do
    let files ← result.files.mapM answerFile
    .ok ⟨none,optionalFields,files⟩
  else .ok (refuse (joinStrings "\n" (result.errors.map FileError.describe)))

def answer (launch : Launcher) (r : Request) : Except RequestError Answer :=
  match formatChoice r.parameter with
  | .error unknown => .ok (refuse unknown.message)
  | .ok choice =>
    match r.schemaFiles with
    | .error cause =>
      match cause.message? with
      | some reason => .ok (refuse reason)
      | none => .error (.conversion cause)
    | .ok files =>
      match generate files (choice.formatter launch) with
      | .error cause => .error (.generation cause)
      | .ok result => answerResult result

end SchemaCodec.Plugin
