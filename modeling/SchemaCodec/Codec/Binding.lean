import SchemaCodec.Codec.Reader
import SchemaCodec.Codec.Writer
import SchemaCodec.Text.Split

/-! # Code of a message's fields

Every field of a message is bound to the code that writes it and to the code that reads it, in the
order of field numbers. A field that is absent travels as a none marker. The members of a oneof
share one match, which stands where the member of the lowest number would.
-/
namespace SchemaCodec.Codec
open Text

def groupIdentifier (index : TypeIndex) (message : Message) (group : String) :
    Except CodecError String := do
  .ok ((← identifierOf index message.fullName) ++ Identifier.camel group)

def variantIdentifier (field : Field) : String := Identifier.camel field.name

def variantOf (index : TypeIndex) (message : Message) (field : Field) (group : String) :
    Except CodecError Variant := do
  .ok ⟨← groupIdentifier index message group,field.name⟩

def isMessage : Kind → Bool
  | .message _ => true
  | _ => false

/-- Code that writes a field: a message that may be absent, a member of a oneof, or a plain
value. -/
inductive FieldWriter where
  | optional (field : String)
  | member (variant : Variant) (number : Int) (body : Writer)
  | plain (body : Writer)
  deriving DecidableEq, Repr

inductive FieldReader where
  | member (number : Int) (body : Reader)
  | guarded (body : Reader)

def fieldWriter (index : TypeIndex) (message : Message) (field : Field) (kind : Kind) :
    Except CodecError FieldWriter :=
  match kind with
  | .message _ => .ok (.optional field.name)
  | .oneof group number inner => do
    let variant ← variantOf index message field group
    .ok (.member variant number (← writer inner (.bound (.item 1)) 2))
  | kind => do .ok (.plain (← writer kind (.field field.name) 1))

def fieldReader (index : TypeIndex) (message : Message) (field : Field) (kind : Kind) :
    Except CodecError FieldReader :=
  match kind with
  | .message name => do
    .ok (.guarded (← reader index (.message name) (.storeSome field.name) 1))
  | .oneof group number inner => do
    let variant ← variantOf index message field group
    let sink := .storeVariant group variant (isMessage inner)
    .ok (.member number (← reader index inner sink 1))
  | kind => do .ok (.guarded (← reader index kind (.store field.name) 1))

def FieldWriter.lines : FieldWriter → List String
  | .optional field =>
    ["e = match &" ++ (Place.field field).text ++ " \x7b",
      indentation 1 ++ "Some(v) => v.encode(e),", indentation 1 ++ "None => e.encode_none(),",
      "\x7d;"]
  | .member variant number body =>
    ["Some(" ++ variant.text ++ "(" ++ (Local.item 1).text ++ ")) => \x7b",
      indentation 1 ++ "e = e.encode_" ++ Primitive.enumNumber.suffix ++ "(" ++ toString number
        ++ ");"]
      ++ indent 1 body.lines ++ ["\x7d"]
  | .plain body => body.lines

def FieldReader.lines : FieldReader → List String
  | .member number body => [toString number ++ " => \x7b"] ++ indent 1 body.lines ++ ["\x7d"]
  | .guarded body => ["if !d.decode_none() \x7b"] ++ indent 1 body.lines ++ ["\x7d"]

structure Binding (α : Type) where
  field : Field
  kind : Kind
  code : α

def Binding.group? {α : Type} (b : Binding α) : Option String :=
  match b.kind with
  | .oneof group _ _ => some group
  | _ => none

/-- What a field holds before anything is read, with the code that reads it. -/
structure Decoding where
  reader : FieldReader
  initial : String

def byNumber (fields : List Field) : List Field :=
  fields.mergeSort fun a b => decide (a.number ≤ b.number)

theorem byNumber_perm (fields : List Field) : (byNumber fields).Perm fields :=
  List.mergeSort_perm fields _

theorem mem_byNumber {fields : List Field} {f : Field} : f ∈ byNumber fields ↔ f ∈ fields :=
  (byNumber_perm fields).mem_iff

def kindOf (field : Field) : Except CodecError Kind :=
  match field.kind with
  | .ok kind => .ok kind
  | .error cause => .error (.unfit cause)

def bindWriter (index : TypeIndex) (message : Message) (field : Field) :
    Except CodecError (Binding FieldWriter) := do
  let kind ← kindOf field
  .ok ⟨field,kind,← fieldWriter index message field kind⟩

def bindReader (index : TypeIndex) (message : Message) (field : Field) :
    Except CodecError (Binding Decoding) := do
  let kind ← kindOf field
  let code ← fieldReader index message field kind
  .ok ⟨field,kind,code,← defaultText index kind⟩

def encodeTable (index : TypeIndex) (message : Message) :
    Except CodecError (List (Binding FieldWriter)) :=
  (byNumber message.fields).mapM (bindWriter index message)

def decodeTable (index : TypeIndex) (message : Message) :
    Except CodecError (List (Binding Decoding)) :=
  (byNumber message.fields).mapM (bindReader index message)

/-- A plain field, or all members of one oneof. -/
inductive Run (α : Type) where
  | plain (binding : Binding α)
  | group (name : String) (first : Binding α) (more : List (Binding α))

namespace Run

/-- The run of a list of bindings, which the first of them tells. -/
def ofBindings {α : Type} : List (Binding α) → Option (Run α)
  | [] => none
  | first :: more =>
    match first.group? with
    | none => some (.plain first)
    | some g => some (.group g first more)

end Run

/-- The runs on their way, and which of them belongs to which oneof. -/
structure Grouping (α : Type) where
  runs : List (List (Binding α)) := []
  groups : List (String × Nat) := []

namespace Grouping

def add {α : Type} (s : Grouping α) (b : Binding α) : Grouping α :=
  match b.group? with
  | none => { s with runs := s.runs ++ [[b]] }
  | some g =>
    match s.groups.lookup g with
    | some i => { s with runs := s.runs.modify i (· ++ [b]) }
    | none => ⟨s.runs ++ [[b]],s.groups ++ [(g,s.runs.length)]⟩

end Grouping

/-- The bindings in runs: the members of a oneof come together where the first of them stands. -/
def runs {α : Type} (bs : List (Binding α)) : List (Run α) :=
  (bs.foldl Grouping.add {}).runs.filterMap Run.ofBindings

/-- Lines of code, cut where the code itself holds a line feed. -/
def cutLines (lines : List String) : List String := lines.flatMap (splitString '\n')

def encodeBody (table : List (Binding FieldWriter)) : List String :=
  (runs table).flatMap fun
    | .plain b => cutLines b.code.lines
    | .group name first more =>
      ["match &" ++ (Place.field name).text ++ " \x7b"]
        ++ (first :: more).flatMap (fun b => indent 1 (cutLines b.code.lines))
        ++ [indentation 1 ++ "None => e = e.encode_none(),", "\x7d"]

def decodeBody (table : List (Binding Decoding)) : List String :=
  (runs table).flatMap fun
    | .plain b => cutLines b.code.reader.lines
    | .group _ first more =>
      ["if !d.decode_none() \x7b", indentation 1 ++ "match d.decode_u32()? \x7b"]
        ++ (first :: more).flatMap (fun b => indent 2 (cutLines b.code.reader.lines))
        ++ [indentation 2 ++ "_ => return Err(DecodingError::InvalidStruct.into()),",
          indentation 1 ++ "\x7d", "\x7d"]

end SchemaCodec.Codec
