import SchemaCodec.Codec.Binding
import SchemaCodec.Rendering.Type

/-! # Blocks of generated code

A block is one declaration of the generated code with all that its text needs: an enum with its
values, or a struct with its fields, its oneofs, its initial values and its two methods.
-/
namespace SchemaCodec.Rendering
open Codec

structure EnumBlock where
  name : String
  comment : Option String
  variants : List (String × Int)
  deriving DecidableEq, Repr

structure OneofBlock where
  name : String
  variants : List (String × String)
  deriving DecidableEq, Repr

structure StructField where
  name : String
  type : String
  comment : Option String
  initial : String
  deriving DecidableEq, Repr

structure StructBlock where
  name : String
  comment : Option String
  fields : List StructField
  oneofs : List OneofBlock
  encode : List String
  decode : List String
  deriving DecidableEq, Repr

inductive Block where
  | enum (block : EnumBlock)
  | struct (block : StructBlock)
  deriving DecidableEq, Repr

def enumBlock (index : TypeIndex) (decl : EnumDecl) : Except CodecError EnumBlock := do
  .ok ⟨← identifierOf index decl.fullName,decl.comment,
    decl.values.map fun v => (Identifier.camel v.name, v.number)⟩

/-- The binding that a field's name is bound to last. -/
def bindingOf? (table : List (Binding Decoding)) (field : Field) : Option (Binding Decoding) :=
  table.reverse.find? fun b => b.field.name == field.name

def boundFields (table : List (Binding Decoding)) (fields : List Field) :
    List (Field × Binding Decoding) :=
  fields.filterMap fun f => (bindingOf? table f).map (f, ·)

/-- The struct fields of a message; a oneof takes the place of its first member. `groups` are the
oneofs that have their place already. -/
def structFields (index : TypeIndex) (message : Message) :
    (groups : List String) → List (Field × Binding Decoding) → Except CodecError (List StructField)
  | _, [] => .ok []
  | groups, (f, b) :: rest =>
    match b.group? with
    | some g =>
      if g ∈ groups then structFields index message groups rest
      else do
        let type ← groupIdentifier index message g
        let rest ← structFields index message (g :: groups) rest
        .ok (⟨Identifier.escape g,"Option<" ++ type ++ ">",none,"None"⟩ :: rest)
    | none => do
      let type ← fieldTypeText index b.kind
      let rest ← structFields index message groups rest
      .ok (⟨Identifier.escape f.name,type,f.comment,b.code.initial⟩ :: rest)

def oneofBlock (index : TypeIndex) (message : Message) (fields : List (Field × Binding Decoding))
    (group : String) : Except CodecError OneofBlock := do
  let name ← groupIdentifier index message group
  let members := fields.filter fun (_, b) => b.group? == some group
  let variants ← members.mapM fun (f, b) => do
    .ok (variantIdentifier f, ← typeText index b.kind)
  .ok ⟨name,variants⟩

def structBlock (index : TypeIndex) (message : Message) (encode : List (Binding FieldWriter))
    (decode : List (Binding Decoding)) : Except CodecError StructBlock := do
  let bound := boundFields decode message.fields
  let fields ← structFields index message [] bound
  let groups := (bound.filterMap fun (_, b) => b.group?).eraseDups
  let oneofs ← groups.mapM (oneofBlock index message bound)
  .ok ⟨← identifierOf index message.fullName,message.comment,fields,oneofs,
    encodeBody encode,decodeBody decode⟩

end SchemaCodec.Rendering
