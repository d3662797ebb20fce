import SchemaCodec.Wire.Request

/-! # Running the plugin

A run takes one encoded request from its input and leaves the encoded answer as its output. The
plugin is meant for a schema compiler: started at a terminal it only says so.
-/
namespace SchemaCodec.Plugin
open Text

inductive RunError where
  | malformed
  | request (cause : RequestError)
  deriving DecidableEq, Repr

def usage : String :=
  "protoc-gen-polyglot-rs is a protoc plugin, run it through protoc:\n"
    ++ "  protoc --polyglot-rs_out=./src schema.proto\n"

/-- One run of the plugin on an input, which is missing at a terminal. -/
def run (launch : Launcher) (input : Option (List UInt8)) : Except RunError ProgramOutcome :=
  match input with
  | none => .ok ⟨1,[],encodeUtf8 usage⟩
  | some bytes =>
    match Wire.readRequest bytes with
    | none => .error .malformed
    | some request =>
      match answer launch request with
      | .error cause => .error (.request cause)
      | .ok a => .ok ⟨0,Wire.writeAnswer a,[]⟩

end SchemaCodec.Plugin
