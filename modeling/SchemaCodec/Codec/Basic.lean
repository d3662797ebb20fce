import SchemaCodec.Kind
import SchemaCodec.Schema.Index

/-! # Vocabulary of generated codecs

Generated code writes to an encoder `e` and reads from a decoder `d`. It names the runtime's calls
by primitive type, announces what an array or map holds by a wire kind, and binds local variables
that are numbered by the depth of the container that binds them.
-/
namespace SchemaCodec.Codec

inductive Primitive where
  | integer (bits : Nat) (signed : Bool)
  | float (bits : Nat)
  | bool
  | string
  | bytes
  deriving DecidableEq, Repr

namespace Primitive

def suffix : Primitive → String
  | integer bits signed => Kind.integerName signed bits
  | float bits => "f" ++ toString bits
  | bool => "bool"
  | string => "string"
  | bytes => "bytes"

/-- Numbers and truth values are passed by value, the rest by reference. -/
def isCopied : Primitive → Bool
  | integer _ _ | float _ | bool => true
  | string | bytes => false

def enumNumber : Primitive := integer 32 false

end Primitive

/-- What the header of an array or map says about its elements. -/
inductive WireKind where
  | integer (bits : Nat) (signed : Bool)
  | float (bits : Nat)
  | bool
  | string
  | bytes
  | any
  | array
  | map
  deriving DecidableEq, Repr

def WireKind.text : WireKind → String
  | integer bits signed => "Kind::" ++ (if signed then "I" else "U") ++ toString bits
  | float bits => "Kind::F" ++ toString bits
  | bool => "Kind::Bool"
  | string => "Kind::String"
  | bytes => "Kind::Bytes"
  | any => "Kind::Any"
  | array => "Kind::Array"
  | map => "Kind::Map"

inductive CodecError where
  | oneofOnWire
  | oneofInside
  | enumWithoutValues (name : String)
  | unknownType (name : String)
  | notAnEnum (name : String)
  | unfit (cause : KindError)
  deriving DecidableEq, Repr

/-- The report of an error; that a name is missing from the index has none. -/
def CodecError.message? : CodecError → Option String
  | oneofOnWire => some "oneof kinds have no wire kind"
  | oneofInside => some "oneof kinds only appear at field level"
  | enumWithoutValues name => some ("Enum " ++ name ++ " has no values")
  | unfit cause => some cause.message
  | unknownType _ | notAnEnum _ => none

def wireKind : Kind → Except CodecError WireKind
  | .integer bits signed => .ok (.integer bits signed)
  | .float bits => .ok (.float bits)
  | .bool => .ok .bool
  | .string => .ok .string
  | .bytes => .ok .bytes
  | .enum _ => .ok (.integer 32 false)
  | .message _ => .ok .any
  | .repeated _ => .ok .array
  | .map _ _ => .ok .map
  | .oneof _ _ _ => .error .oneofOnWire

inductive Local where
  | item (depth : Nat)
  | key (depth : Nat)
  | size (depth : Nat)
  | array (depth : Nat)
  | map (depth : Nat)
  deriving DecidableEq, Repr

namespace Local

def depth : Local → Nat
  | item n | key n | size n | array n | map n => n

def text : Local → String
  | item n => "v" ++ toString n
  | key n => "k" ++ toString n
  | size n => "n" ++ toString n
  | array n => "a" ++ toString n
  | map n => "m" ++ toString n

end Local

def indentation (level : Nat) : String := String.ofList (List.replicate (4 * level) ' ')

/-- The lines moved right by some levels; an empty line stays empty. -/
def indent (level : Nat) (lines : List String) : List String :=
  lines.map fun line => if line = "" then line else indentation level ++ line

def identifierOf (index : TypeIndex) (fullName : String) : Except CodecError String :=
  match index.find? fullName with
  | some entry => .ok entry.identifier
  | none => .error (.unknownType fullName)

structure TypeUse where
  fullName : String
  identifier : String
  deriving DecidableEq, Repr

def typeUse (index : TypeIndex) (fullName : String) : Except CodecError TypeUse := do
  .ok ⟨fullName,← identifierOf index fullName⟩

structure Variant where
  owner : String
  member : String
  deriving DecidableEq, Repr

def Variant.text (v : Variant) : String := v.owner ++ "::" ++ Identifier.camel v.member

def enumDeclaration (index : TypeIndex) (fullName : String) : Except CodecError EnumDecl :=
  match index.find? fullName with
  | some ⟨_,_,.enum decl,_⟩ => .ok decl
  | some ⟨_,_,.message _,_⟩ => .error (.notAnEnum fullName)
  | none => .error (.unknownType fullName)

/-- What a field holds when nothing was read for it. -/
def defaultText (index : TypeIndex) : Kind → Except CodecError String
  | .integer _ _ => .ok "0"
  | .float _ => .ok "0.0"
  | .bool => .ok "false"
  | .string => .ok "String::new()"
  | .bytes | .repeated _ => .ok "Vec::new()"
  | .map _ _ => .ok "HashMap::new()"
  | .message _ | .oneof _ _ _ => .ok "None"
  | .enum name => do
    match (← enumDeclaration index name).values with
    | [] => .error (.enumWithoutValues name)
    | first :: _ => .ok ((← identifierOf index name) ++ "::" ++ Identifier.camel first.name)

end SchemaCodec.Codec
