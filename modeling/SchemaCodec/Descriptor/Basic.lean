import SchemaCodec.Schema.Basic

/-! # File descriptors

What a schema compiler says about a file: its declarations with all names resolved, map fields in
their lowered form as repeated fields of a nested entry message, and comments kept apart, each
addressed by the path of numbers that leads to its declaration.
-/
namespace SchemaCodec

namespace Descriptor

/-- The type of a field; `group` is the type that schema files of today do without. -/
inductive FieldSort where
  | scalar (type : ScalarType)
  | enum | message | group
  deriving DecidableEq, Repr

namespace FieldSort

def number : FieldSort → Nat
  | scalar .double => 1 | scalar .float => 2 | scalar .int64 => 3 | scalar .uint64 => 4
  | scalar .int32 => 5 | scalar .fixed64 => 6 | scalar .fixed32 => 7 | scalar .bool => 8
  | scalar .string => 9 | group => 10 | message => 11 | scalar .bytes => 12
  | scalar .uint32 => 13 | enum => 14 | scalar .sfixed32 => 15 | scalar .sfixed64 => 16
  | scalar .sint32 => 17 | scalar .sint64 => 18

def all : List FieldSort := ScalarType.all.map scalar ++ [enum, message, group]

def ofNumber? (n : Int) : Option FieldSort := all.find? fun s => Int.ofNat s.number == n

end FieldSort

inductive Label where
  | optional | required | repeated
  deriving DecidableEq, Repr

namespace Label

def number : Label → Nat
  | optional => 1 | required => 2 | repeated => 3

def ofNumber? (n : Int) : Option Label :=
  [optional, required, repeated].find? fun l => Int.ofNat l.number == n

end Label

structure Field where
  name : String
  number : Int
  label : Label := .optional
  sort : FieldSort := .scalar .double
  typeName : String := ""
  oneofIndex : Option Int := none
  proto3Optional : Bool := false
  deriving DecidableEq, Repr

structure Value where
  name : String
  number : Int
  deriving DecidableEq, Repr

structure Enum where
  name : String
  values : List Value
  deriving DecidableEq, Repr

structure Message where
  name : String
  fields : List Field
  messages : List Message
  enums : List Enum
  oneofs : List String
  isMapEntry : Bool
  deriving Repr, Inhabited

/-- The comments of the declaration at a path. -/
structure Location where
  path : List Int
  leading : String := ""
  trailing : String := ""
  deriving DecidableEq, Repr

structure File where
  name : String
  package : String
  dependencies : List String
  messages : List Message
  enums : List Enum
  locations : List Location
  deriving Repr

end Descriptor

end SchemaCodec
