import SchemaCodec.Schema.Basic

/-! # Kinds of field values

A kind is the shape of a value: a scalar, a named type, or a container with the kinds of what it
holds. `Field.kind` reads it off a field's description and refuses descriptions that fit no shape.
-/
namespace SchemaCodec

inductive Kind where
  | integer (bits : Nat) (signed : Bool)
  | float (bits : Nat)
  | bool
  | string
  | bytes
  | enum (typeName : String)
  | message (typeName : String)
  | repeated (element : Kind)
  | map (key value : Kind)
  | oneof (group : String) (number : Int) (inner : Kind)
  deriving DecidableEq, Repr, Inhabited

namespace Kind

def ofScalar : ScalarType → Kind
  | .int32 | .sint32 | .sfixed32 => .integer 32 true
  | .int64 | .sint64 | .sfixed64 => .integer 64 true
  | .uint32 | .fixed32 => .integer 32 false
  | .uint64 | .fixed64 => .integer 64 false
  | .float => .float 32
  | .double => .float 64
  | .bool => .bool
  | .string => .string
  | .bytes => .bytes

def tag : Kind → String
  | integer _ _ => "integer" | float _ => "float" | bool => "bool" | string => "string"
  | bytes => "bytes" | enum _ => "enum" | message _ => "message" | repeated _ => "repeated"
  | map _ _ => "map" | oneof _ _ _ => "oneof"

def integerName (signed : Bool) (bits : Nat) : String :=
  (if signed then "i" else "u") ++ toString bits

/-- A kind in words, such as `map<string, repeated<enum Color>>`. -/
def describe : Kind → String
  | integer bits signed => integerName signed bits
  | float bits => "f" ++ toString bits
  | bool => "bool"
  | string => "string"
  | bytes => "bytes"
  | enum name => "enum " ++ name
  | message name => "message " ++ name
  | repeated element => "repeated<" ++ element.describe ++ ">"
  | map key value => "map<" ++ key.describe ++ ", " ++ value.describe ++ ">"
  | oneof group _ inner => "oneof " ++ group ++ "<" ++ inner.describe ++ ">"

def isMapKey : Kind → Bool
  | integer _ _ | bool | string => true
  | _ => false

/-- Whether a map occurs where the value itself is stored. -/
def usesMap : Kind → Bool
  | map _ _ => true
  | repeated element => element.usesMap
  | oneof _ _ inner => inner.usesMap
  | _ => false

theorem isMapKey_ofScalar (t : ScalarType) : (ofScalar t).isMapKey = t.isMapKey := by
  cases t <;> rfl

end Kind

inductive KindError where
  | unnamedType (type : FieldType)
  | memberWithoutGroup (field : String)
  | mapWithoutKey (field : String)
  | invalidMapKey (field : String) (type : FieldType)
  deriving DecidableEq, Repr

def KindError.message : KindError → String
  | unnamedType type => type.name ++ " value type has no type name"
  | memberWithoutGroup field => "Oneof member " ++ field ++ " has no group"
  | mapWithoutKey field => "Map field " ++ field ++ " has no key type"
  | invalidMapKey field type => "Map field " ++ field ++ " has invalid key type " ++ type.name

def nonempty? (name : Option String) : Option String := name.filter (· ≠ "")

def ValueType.kind (value : ValueType) : Except KindError Kind :=
  match value.type with
  | .scalar t => .ok (.ofScalar t)
  | .enum =>
    match nonempty? value.typeName with
    | some name => .ok (.enum name)
    | none => .error (.unnamedType .enum)
  | .message =>
    match nonempty? value.typeName with
    | some name => .ok (.message name)
    | none => .error (.unnamedType .message)

/-- The kind of a field: its group comes first, then its key, then repetition. -/
def Field.kind (field : Field) : Except KindError Kind := do
  let value ← field.value.kind
  match field.cardinality with
  | .oneof =>
    match nonempty? field.oneof with
    | some group => .ok (.oneof group field.number value)
    | none => .error (.memberWithoutGroup field.name)
  | .map =>
    match field.key with
    | none => .error (.mapWithoutKey field.name)
    | some keyType =>
      let key ← keyType.kind
      if key.isMapKey then .ok (.map key value)
      else .error (.invalidMapKey field.name keyType.type)
  | .repeated => .ok (.repeated value)
  | .singular => .ok value

def Field.references (field : Field) : List String :=
  (field.key.toList ++ [field.value]).filterMap fun value =>
    if value.type.isNamed then nonempty? value.typeName else none

/-- Whether the field's value is stored in its message. Repeated values and maps live on the heap
and members of a oneof are boxed. -/
def Field.isInline (field : Field) : Bool := field.cardinality == .singular

end SchemaCodec
