/-! # Schema descriptors

A schema file declares messages and enums, nested to any depth. The types here describe a file as
it is delivered by a loader, a descriptor set or a document: types are referred to by full name,
and nothing but the shape is promised.
-/
namespace SchemaCodec

inductive ScalarType where
  | double | float | int32 | int64 | uint32 | uint64 | sint32 | sint64
  | fixed32 | fixed64 | sfixed32 | sfixed64 | bool | string | bytes
  deriving DecidableEq, Repr, Inhabited

inductive FieldType where
  | scalar (type : ScalarType)
  | enum
  | message
  deriving DecidableEq, Repr, Inhabited

namespace ScalarType

def all : List ScalarType :=
  [.double, .float, .int32, .int64, .uint32, .uint64, .sint32, .sint64,
   .fixed32, .fixed64, .sfixed32, .sfixed64, .bool, .string, .bytes]

def name : ScalarType → String
  | double => "double" | float => "float" | int32 => "int32" | int64 => "int64"
  | uint32 => "uint32" | uint64 => "uint64" | sint32 => "sint32" | sint64 => "sint64"
  | fixed32 => "fixed32" | fixed64 => "fixed64" | sfixed32 => "sfixed32" | sfixed64 => "sfixed64"
  | bool => "bool" | string => "string" | bytes => "bytes"

def ofName? (s : String) : Option ScalarType := all.find? fun t => t.name == s

theorem ofName?_name (t : ScalarType) : ofName? t.name = some t := by cases t <;> decide

def isMapKey : ScalarType → Bool
  | double | float | bytes => false
  | _ => true

end ScalarType

namespace FieldType

def name : FieldType → String
  | scalar t => t.name
  | enum => "enum"
  | message => "message"

def ofName? (s : String) : Option FieldType :=
  if s = "enum" then some enum
  else if s = "message" then some message
  else (ScalarType.ofName? s).map scalar

def isNamed : FieldType → Bool
  | scalar _ => false
  | _ => true

def isMapKey : FieldType → Bool
  | scalar t => t.isMapKey
  | _ => false

end FieldType

/-- How many values a field holds and how they are held. -/
inductive Cardinality where
  | singular | repeated | map | oneof
  deriving DecidableEq, Repr, Inhabited

namespace Cardinality

def name : Cardinality → String
  | singular => "singular" | repeated => "repeated" | map => "map" | oneof => "oneof"

def ofName? (s : String) : Option Cardinality :=
  [singular, repeated, map, oneof].find? fun c => c.name == s

theorem ofName?_name (c : Cardinality) : ofName? c.name = some c := by cases c <;> decide

end Cardinality

/-- The type of a value; `typeName` is the full name of an enum or message, without leading dot. -/
structure ValueType where
  type : FieldType
  typeName : Option String := none
  deriving DecidableEq, Repr, Inhabited

/-- A field of a message. A map has a `key`, a member of a oneof names its group in `oneof`. -/
structure Field where
  name : String
  number : Int
  cardinality : Cardinality
  value : ValueType
  key : Option ValueType := none
  oneof : Option String := none
  comment : Option String := none
  deriving DecidableEq, Repr, Inhabited

structure EnumValue where
  name : String
  number : Int
  comment : Option String := none
  deriving DecidableEq, Repr, Inhabited

structure EnumDecl where
  name : String
  fullName : String
  values : List EnumValue
  comment : Option String := none
  deriving DecidableEq, Repr, Inhabited

structure Message where
  name : String
  fullName : String
  fields : List Field
  messages : List Message := []
  enums : List EnumDecl := []
  comment : Option String := none
  deriving Repr, Inhabited

/-- A schema file. `generate` is false for a file that is loaded only because another needs it. -/
structure SchemaFile where
  path : String
  package : String
  dependencies : List String
  messages : List Message
  enums : List EnumDecl
  generate : Bool := true
  deriving Repr, Inhabited

inductive Declaration where
  | enum (decl : EnumDecl)
  | message (decl : Message)
  deriving Repr, Inhabited

def Declaration.fullName : Declaration → String
  | enum d => d.fullName
  | message d => d.fullName

def Declaration.name : Declaration → String
  | enum d => d.name
  | message d => d.name

mutual

/-- A message, its enums and then its nested messages, each in the same way. -/
def Message.declarations : Message → List Declaration
  | m@⟨_,_,_,messages,enums,_⟩ =>
    .message m :: enums.map .enum ++ Message.declarationsOf messages

def Message.declarationsOf : List Message → List Declaration
  | [] => []
  | m :: rest => m.declarations ++ Message.declarationsOf rest

end

theorem Message.declarationsOf_eq_flatMap (ms : List Message) :
    Message.declarationsOf ms = ms.flatMap Message.declarations := by
  induction ms with
  | nil => simp [Message.declarationsOf]
  | cons m rest ih => simp [Message.declarationsOf, ih]

/-- Every declaration of a file: its enums first, then its messages depth first. -/
def SchemaFile.declarations (file : SchemaFile) : List Declaration :=
  file.enums.map .enum ++ Message.declarationsOf file.messages

/-- A name inside a scope; the empty scope adds nothing. -/
def qualify (scope name : String) : String :=
  if scope = "" then name else scope ++ "." ++ name

end SchemaCodec
