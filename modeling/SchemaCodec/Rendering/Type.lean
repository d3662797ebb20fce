import SchemaCodec.Codec.Basic

/-! # Types of the generated code

Every kind has a type for a present value. A message that a field holds directly is optional, and a
message in a oneof is boxed.
-/
namespace SchemaCodec.Rendering
open Codec

def typeText (index : TypeIndex) : Kind → Except CodecError String
  | .integer bits signed => .ok (Kind.integerName signed bits)
  | .float bits => .ok ("f" ++ toString bits)
  | .bool => .ok "bool"
  | .string => .ok "String"
  | .bytes => .ok "Vec<u8>"
  | .enum name => identifierOf index name
  | .message name => identifierOf index name
  | .repeated element => do .ok ("Vec<" ++ (← typeText index element) ++ ">")
  | .map key value => do
    let keyText ← typeText index key
    .ok ("HashMap<" ++ keyText ++ ", " ++ (← typeText index value) ++ ">")
  | .oneof _ _ inner => do
    let text ← typeText index inner
    .ok (match inner with
      | .message _ => "Box<" ++ text ++ ">"
      | _ => text)

def fieldTypeText (index : TypeIndex) (kind : Kind) : Except CodecError String := do
  let text ← typeText index kind
  .ok (match kind with
    | .message _ => "Option<" ++ text ++ ">"
    | _ => text)

end SchemaCodec.Rendering
