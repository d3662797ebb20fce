import SchemaCodec.Codec.Basic

/-! # Reading a value

A `Reader` is the part of a decode method that reads one value and hands it on. What is done with
the value is a `Sink`: a container binds or collects what it reads, and only the whole value reaches
the sink of the caller.
-/
namespace SchemaCodec.Codec

/-- What becomes of a value that was read. -/
inductive Sink where
  | given (assign : String → String)
  | bind (v : Local)
  | push (items : Local)
  | insert (entries key : Local)
  | store (field : String)
  | storeSome (field : String)
  | storeVariant (group : String) (variant : Variant) (boxed : Bool)

def Sink.line : Sink → (value : String) → String
  | given assign, value => assign value
  | bind v, value => "let " ++ v.text ++ " = " ++ value ++ ";"
  | push items, value => items.text ++ ".push(" ++ value ++ ");"
  | insert entries key, value =>
    entries.text ++ ".insert(" ++ key.text ++ ", " ++ value ++ ");"
  | store field, value => "x." ++ Identifier.escape field ++ " = " ++ value ++ ";"
  | storeSome field, value => "x." ++ Identifier.escape field ++ " = Some(" ++ value ++ ");"
  | storeVariant group variant boxed, value =>
    let payload := if boxed then "Box::new(" ++ value ++ ")" else value
    "x." ++ Identifier.escape group ++ " = Some(" ++ variant.text ++ "(" ++ payload ++ "));"

inductive Reader where
  | primitive (type : Primitive) (sink : Sink)
  | enumNumber (type : TypeUse) (sink : Sink)
  | message (type : TypeUse) (sink : Sink)
  | array (element : WireKind) (size items : Local) (body : Reader) (sink : Sink)
  | map (keyKind valueKind : WireKind) (size entries : Local) (keyBody valueBody : Reader)
      (sink : Sink)

/-- Reads a value and hands it to `sink`; containers bind variables numbered from `depth`. -/
def reader (index : TypeIndex) :
    Kind → (sink : Sink) → (depth : Nat) → Except CodecError Reader
  | .integer bits signed, sink, _ => .ok (.primitive (.integer bits signed) sink)
  | .float bits, sink, _ => .ok (.primitive (.float bits) sink)
  | .bool, sink, _ => .ok (.primitive .bool sink)
  | .string, sink, _ => .ok (.primitive .string sink)
  | .bytes, sink, _ => .ok (.primitive .bytes sink)
  | .enum name, sink, _ => do .ok (.enumNumber (← typeUse index name) sink)
  | .message name, sink, _ => do .ok (.message (← typeUse index name) sink)
  | .repeated element, sink, depth => do
    let kind ← wireKind element
    let body ← reader index element (.push (.array depth)) (depth + 1)
    .ok (.array kind (.size depth) (.array depth) body sink)
  | .map key value, sink, depth => do
    let keyKind ← wireKind key
    let valueKind ← wireKind value
    let keyBody ← reader index key (.bind (.key depth)) (depth + 1)
    let valueBody ← reader index value (.insert (.map depth) (.key depth)) (depth + 1)
    .ok (.map keyKind valueKind (.size depth) (.map depth) keyBody valueBody sink)
  | .oneof _ _ _, _, _ => .error .oneofInside

def Reader.lines : Reader → List String
  | .primitive type sink => [sink.line ("d.decode_" ++ type.suffix ++ "()?")]
  | .enumNumber type sink =>
    let number := "d.decode_" ++ Primitive.enumNumber.suffix ++ "()?"
    [sink.line (type.identifier ++ "::try_from(" ++ number ++ ")?")]
  | .message type sink => [sink.line (type.identifier ++ "::decode(d)?")]
  | .array element size items body sink =>
    ["let " ++ size.text ++ " = d.decode_array(" ++ element.text ++ ")?;",
      "let mut " ++ items.text ++ " = Vec::with_capacity(" ++ size.text ++ ");",
      "for _ in 0.." ++ size.text ++ " \x7b"]
      ++ indent 1 body.lines ++ ["\x7d", sink.line items.text]
  | .map keyKind valueKind size entries keyBody valueBody sink =>
    ["let " ++ size.text ++ " = d.decode_map(" ++ keyKind.text ++ ", " ++ valueKind.text ++ ")?;",
      "let mut " ++ entries.text ++ " = HashMap::with_capacity(" ++ size.text ++ ");",
      "for _ in 0.." ++ size.text ++ " \x7b"]
      ++ indent 1 keyBody.lines ++ indent 1 valueBody.lines ++ ["\x7d", sink.line entries.text]

end SchemaCodec.Codec
