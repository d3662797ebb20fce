import SchemaCodec.Document.Shape
import SchemaCodec.Json.Print
import SchemaCodec.Schema.Basic

/-! # Writing schema files as documents

A schema file is written as a JSON object with a member for every part, in the order of the parts.
-/
namespace SchemaCodec

namespace Document
open Json

def ofValueType (v : ValueType) : Json :=
  .object [("type", .string v.type.name), ("type_name", ofOption v.typeName)]

def ofField (f : Field) : Json :=
  .object [("name", .string f.name), ("number", .int f.number),
    ("cardinality", .string f.cardinality.name), ("value", ofValueType f.value),
    ("key", (f.key.map ofValueType).getD .null), ("oneof", ofOption f.oneof),
    ("comment", ofOption f.comment)]

def ofEnumValue (v : EnumValue) : Json :=
  .object [("name", .string v.name), ("number", .int v.number), ("comment", ofOption v.comment)]

def ofEnum (e : EnumDecl) : Json :=
  .object [("name", .string e.name), ("full_name", .string e.fullName),
    ("values", .array (e.values.map ofEnumValue)), ("comment", ofOption e.comment)]

mutual

def ofMessage : Message → Json
  | ⟨name,fullName,fields,messages,enums,comment⟩ =>
    .object [("name", .string name), ("full_name", .string fullName),
      ("fields", .array (fields.map ofField)), ("messages", .array (ofMessages messages)),
      ("enums", .array (enums.map ofEnum)), ("comment", ofOption comment)]

def ofMessages : List Message → List Json
  | [] => []
  | m :: rest => ofMessage m :: ofMessages rest

end

def membersOf (f : SchemaFile) : List (String × Json) :=
  [("path", .string f.path), ("package", .string f.package),
    ("dependencies", .array (f.dependencies.map .string)),
    ("messages", .array (ofMessages f.messages)), ("enums", .array (f.enums.map ofEnum)),
    ("generate", .bool f.generate)]

def ofFile (f : SchemaFile) : Json := .object (membersOf f)

end Document

/-- The document of a schema file, as text. -/
def SchemaFile.toDocument (f : SchemaFile) : Except DocumentError String :=
  match (Document.ofFile f).line? with
  | some text => .ok text
  | none => .error .longNumber

end SchemaCodec
