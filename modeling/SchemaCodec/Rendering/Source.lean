import SchemaCodec.Dependency.Plan
import SchemaCodec.Rendering.Block
import SchemaCodec.Rendering.EnumLayout
import SchemaCodec.Text.Blank
import SchemaCodec.Text.Line

/-! # Source text of a schema file

The generated source of a file: a heading, the uses it needs, and its blocks in emission order.
Comments of the schema become documentation lines and appear nowhere else.
-/
namespace SchemaCodec.Rendering
open Codec Text

def version : String := "0.3.0"

def docLines (comment : Option String) : List String :=
  (lines (trim (comment.getD "").toList)).map fun line =>
    String.ofList (trimEnd ("/// ".toList ++ line))

def nested (level : Nat) (text : String) : String := indentation level ++ text

def EnumBlock.lines (b : EnumBlock) (first : String) : List String :=
  docLines b.comment
    ++ ["#[derive(Debug, Clone, Copy, PartialEq, Eq, Hash)]", "#[repr(u32)]",
      "pub enum " ++ b.name ++ " \x7b"]
    ++ b.variants.map (fun (v, n) => nested 1 (v ++ " = " ++ toString n ++ ","))
    ++ ["\x7d", "",
      "impl Default for " ++ b.name ++ " \x7b",
      nested 1 "fn default() -> Self \x7b",
      nested 2 (b.name ++ "::" ++ first),
      nested 1 "\x7d", "\x7d", "",
      "impl TryFrom<u32> for " ++ b.name ++ " \x7b",
      nested 1 "type Error = DecodingError;", "",
      nested 1 "fn try_from(value: u32) -> Result<Self, Self::Error> \x7b",
      nested 2 "match value \x7b"]
    ++ b.variants.map (fun (v, n) =>
      nested 3 (toString n ++ " => Ok(" ++ b.name ++ "::" ++ v ++ "),"))
    ++ [nested 3 "_ => Err(DecodingError::InvalidEnum),",
      nested 2 "\x7d", nested 1 "\x7d", "\x7d"]

def OneofBlock.lines (b : OneofBlock) : List String :=
  ["#[derive(Debug, Clone, PartialEq)]", "pub enum " ++ b.name ++ " \x7b"]
    ++ b.variants.map (fun (v, type) => nested 1 (v ++ "(" ++ type ++ "),"))
    ++ ["\x7d", ""]

def StructField.lines (f : StructField) : List String :=
  (docLines f.comment).map (nested 1) ++ [nested 1 ("pub " ++ f.name ++ ": " ++ f.type ++ ",")]

def StructBlock.lines (b : StructBlock) : List String :=
  b.oneofs.flatMap OneofBlock.lines
    ++ docLines b.comment
    ++ ["#[derive(Debug, Clone, PartialEq)]", "pub struct " ++ b.name ++ " \x7b"]
    ++ b.fields.flatMap StructField.lines
    ++ ["\x7d", "",
      "impl Default for " ++ b.name ++ " \x7b",
      nested 1 "fn default() -> Self \x7b",
      nested 2 (b.name ++ " \x7b")]
    ++ b.fields.map (fun f => nested 3 (f.name ++ ": " ++ f.initial ++ ","))
    ++ [nested 2 "\x7d", nested 1 "\x7d", "\x7d", "",
      "impl " ++ b.name ++ " \x7b",
      nested 1 "pub fn encode(&self, mut e: Cursor<Vec<u8>>) -> Cursor<Vec<u8>> \x7b"]
    ++ b.encode.map (nested 2)
    ++ [nested 2 "e", nested 1 "\x7d", "",
      nested 1 ("pub fn decode(d: &mut Cursor<&mut Vec<u8>>) -> Result<" ++ b.name
        ++ ", Box<dyn Error>> \x7b"),
      nested 2 "if let Ok(error) = d.decode_error() \x7b",
      nested 3 "return Err(error);",
      nested 2 "\x7d",
      nested 2 ("let mut x = " ++ b.name ++ "::default();")]
    ++ b.decode.map (nested 2)
    ++ [nested 2 "Ok(x)", nested 1 "\x7d", "\x7d"]

inductive RenderError where
  | enumLayout (path : String) (fault : EnumFault)
  | plan (cause : PlanError)
  | codec (cause : CodecError)
  | enumWithoutDefault (name : String)
  deriving DecidableEq, Repr

/-- A schema that cannot be expressed in the generated language: the file's path, what is wrong, and
the types that take part in it. -/
structure Unsupported where
  path : String
  text : String
  members : List String
  deriving DecidableEq, Repr

def Unsupported.message (u : Unsupported) : String := u.path ++ ": " ++ u.text

/-- The part of the errors that is a fault of one file's schema. -/
def RenderError.unsupported? : RenderError → Option Unsupported
  | enumLayout path fault => fault.message?.map fun text => ⟨path,text,[]⟩
  | plan (.inlineCycles path cycles members) => some ⟨path,PlanError.cycleText cycles,members⟩
  | _ => none

/-- The report of an error; a missing name and a number with too many digits have none. -/
def RenderError.message? : RenderError → Option String
  | enumLayout path fault => fault.message?.map fun text => path ++ ": " ++ text
  | plan cause => cause.message?
  | codec cause => cause.message?
  | enumWithoutDefault _ => none

def Block.lines : Block → Except RenderError (List String)
  | .struct b => .ok b.lines
  | .enum b =>
    match b.variants with
    | [] => .error (.enumWithoutDefault b.name)
    | (first, _) :: _ => .ok (b.lines first)

def blockOf (index : TypeIndex) : Declaration → Except CodecError (Block × Bool)
  | .enum decl => do .ok (.enum (← enumBlock index decl), false)
  | .message decl => do
    let encode ← encodeTable index decl
    let decode ← decodeTable index decl
    .ok (.struct (← structBlock index decl encode decode), encode.any (·.kind.usesMap))

def plannedDeclaration (index : TypeIndex) (name : String) : Except CodecError Declaration :=
  match index.find? name with
  | some entry => .ok entry.declaration
  | none => .error (.unknownType name)

def liftCodec {α : Type} : Except CodecError α → Except RenderError α
  | .ok a => .ok a
  | .error e => .error (.codec e)

def headingLines (file : SchemaFile) (plan : EmissionPlan) (usesMap : Bool) (version : String) :
    List String :=
  ["// Code generated by polyglot-gen " ++ version ++ ", DO NOT EDIT.",
    "// source: " ++ file.path]
    ++ (if file.package = "" then [] else ["// package: " ++ file.package])
    ++ ["use polyglot_rs::\x7bDecoder, DecodingError, Encoder, Kind\x7d;"]
    ++ (if usesMap then ["use std::collections::HashMap;"] else [])
    ++ ["use std::error::Error;", "use std::io::Cursor;"]
    ++ plan.imports.map (fun ref => "use " ++ ref.rustPath ++ ";")

def terminateLines (lines : List String) : String :=
  String.ofList (lines.flatMap fun line => line.toList ++ ['\n'])

def render (index : TypeIndex) (file : SchemaFile) (version : String := version) :
    Except RenderError String :=
  match layoutFault? file with
  | some fault => .error (.enumLayout file.path fault)
  | none =>
    match file.plan index with
    | .error cause => .error (.plan cause)
    | .ok plan => do
      let blocks ← plan.order.mapM fun name =>
        liftCodec (do blockOf index (← plannedDeclaration index name))
      let texts ← blocks.mapM fun (block, _) => block.lines
      .ok (terminateLines (headingLines file plan (blocks.any (·.2)) version
        ++ texts.flatMap ("" :: ·)))

end SchemaCodec.Rendering
