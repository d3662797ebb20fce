import SchemaCodec.Codec.Basic

/-! # Writing a value

A `Writer` is the part of an encode method that writes one present value. It follows the value's
kind: a container announces its length and what it holds, and then writes each element in a loop.
-/
namespace SchemaCodec.Codec

/-- Where a value to be written stands: an expression of the caller, which may be a reference, a
field of the message, or a variable bound by a loop or a match, which always is a reference. -/
inductive Place where
  | given (text : String) (byRef : Bool)
  | field (name : String)
  | bound (v : Local)
  deriving DecidableEq, Repr

namespace Place

def text : Place → String
  | given text _ => text
  | field name => "self." ++ Identifier.escape name
  | bound v => v.text

def byRef : Place → Bool
  | given _ byRef => byRef
  | field _ => false
  | bound _ => true

def value (p : Place) : String := if p.byRef then "*" ++ p.text else p.text

def borrowed (p : Place) : String := if p.byRef then p.text else "&" ++ p.text

end Place

inductive Writer where
  | primitive (type : Primitive) (source : Place)
  | enumNumber (source : Place)
  | message (source : Place)
  | array (source : Place) (element : WireKind) (item : Local) (body : Writer)
  | map (source : Place) (keyKind valueKind : WireKind) (key item : Local)
    (keyBody valueBody : Writer)
  deriving DecidableEq, Repr

/-- Writes the value at `source`; containers bind variables numbered from `depth`. -/
def writer : Kind → (source : Place) → (depth : Nat) → Except CodecError Writer
  | .integer bits signed, source, _ => .ok (.primitive (.integer bits signed) source)
  | .float bits, source, _ => .ok (.primitive (.float bits) source)
  | .bool, source, _ => .ok (.primitive .bool source)
  | .string, source, _ => .ok (.primitive .string source)
  | .bytes, source, _ => .ok (.primitive .bytes source)
  | .enum _, source, _ => .ok (.enumNumber source)
  | .message _, source, _ => .ok (.message source)
  | .repeated element, source, depth => do
    let kind ← wireKind element
    let body ← writer element (.bound (.item depth)) (depth + 1)
    .ok (.array source kind (.item depth) body)
  | .map key value, source, depth => do
    let keyKind ← wireKind key
    let valueKind ← wireKind value
    let keyBody ← writer key (.bound (.key depth)) (depth + 1)
    let valueBody ← writer value (.bound (.item depth)) (depth + 1)
    .ok (.map source keyKind valueKind (.key depth) (.item depth) keyBody valueBody)
  | .oneof _ _ _, _, _ => .error .oneofInside

def Writer.lines : Writer → List String
  | .primitive type source =>
    let argument := if type.isCopied then source.value else source.borrowed
    ["e = e.encode_" ++ type.suffix ++ "(" ++ argument ++ ");"]
  | .enumNumber source =>
    ["e = e.encode_" ++ Primitive.enumNumber.suffix ++ "(" ++ source.value ++ " as u32);"]
  | .message source => ["e = " ++ source.text ++ ".encode(e);"]
  | .array source element item body =>
    ["e = e.encode_array(" ++ source.text ++ ".len(), " ++ element.text ++ ");",
      "for " ++ item.text ++ " in " ++ source.text ++ ".iter() \x7b"]
      ++ indent 1 body.lines ++ ["\x7d"]
  | .map source keyKind valueKind key item keyBody valueBody =>
    ["e = e.encode_map(" ++ source.text ++ ".len(), " ++ keyKind.text ++ ", " ++ valueKind.text
        ++ ");",
      "for (" ++ key.text ++ ", " ++ item.text ++ ") in " ++ source.text ++ ".iter() \x7b"]
      ++ indent 1 keyBody.lines ++ indent 1 valueBody.lines ++ ["\x7d"]

end SchemaCodec.Codec
