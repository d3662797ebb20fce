import SchemaCodec.Proofs.Semantics.Encoding

/-! # What decode code does

Decode code takes tokens from a stream, binds what it reads to variables and stores it in the slots
of the message that is being read. Where a call of the runtime does not find its token, where a
number stands for no variant or no member, and where a method of a message fails, the method fails.
-/
namespace SchemaCodec.Codec

/-- The state of decode code. -/
structure Memory where
  stream : List Token
  locals : Local → Option Value
  slots : Slot → Value

def storeSlot (slots : Slot → Value) (s : Slot) (x : Value) : Slot → Value :=
  fun t => if t = s then x else slots t

def setLocal (locals : Local → Option Value) (v : Local) (x : Value) : Local → Option Value :=
  fun l => if l = v then some x else locals l

namespace Memory

def store (mem : Memory) (s : Slot) (x : Value) : Memory :=
  { mem with slots := storeSlot mem.slots s x }

def set (mem : Memory) (v : Local) (x : Value) : Memory :=
  { mem with locals := setLocal mem.locals v x }

end Memory

def Sink.apply : Sink → Value → Memory → Option Memory
  | .given _,_,_ => none
  | .bind v,x,mem => some (mem.set v x)
  | .push items,x,mem =>
    match mem.locals items with
    | some (.array xs) => some (mem.set items (.array (xs ++ [x])))
    | _ => none
  | .insert entries key,x,mem =>
    match mem.locals entries,mem.locals key with
    | some (.map es),some (.datum k) => some (mem.set entries (.map (insertEntry es (k,x))))
    | _,_ => none
  | .store field,x,mem => some (mem.store (.field field) x)
  | .storeSome field,x,mem => some (mem.store (.field field) (.some x))
  | .storeVariant group variant _,x,mem =>
    some (mem.store (.group group) (.member variant.member x))

/-- The methods of messages: what they return for a stream, and what they leave of it. -/
abbrev Methods := (name : String) → List Token → Option (Value × List Token)

def readDatum (type : Primitive) : List Token → Option (Datum × List Token)
  | .scalar d :: rest => if d.type = type then some (d,rest) else none
  | _ => none

def readArray (element : WireKind) : List Token → Option (ℕ × List Token)
  | .array n e :: rest => if e = element then some (n,rest) else none
  | _ => none

def readMap (key value : WireKind) : List Token → Option (ℕ × List Token)
  | .map n k v :: rest => if k = key ∧ v = value then some (n,rest) else none
  | _ => none

/-- The variants of an enum that generated code lists. -/
def variantsOf (index : TypeIndex) (name : String) : Option (List EnumValue) :=
  (enumDeclaration index name).toOption.map (·.values)

/-- The variant of a number. -/
def readVariant (index : TypeIndex) (name : String) (stream : List Token) :
    Option (Value × List Token) := do
  let (d,rest) ← readDatum Primitive.enumNumber stream
  let variants ← variantsOf index name
  let v ← variants.find? fun v => d.payload = .number v.number
  some (.variant v.name v.number,rest)

/-- The same step some number of times. -/
def repeatStep (step : Memory → Option Memory) : ℕ → Memory → Option Memory
  | 0,mem => some mem
  | n + 1,mem => (step mem).bind (repeatStep step n)

def Reader.run (index : TypeIndex) (method : Methods) : Reader → Memory → Option Memory
  | .primitive type sink,mem => do
    let (d,rest) ← readDatum type mem.stream
    sink.apply (.datum d) { mem with stream := rest }
  | .enumNumber type sink,mem => do
    let (v,rest) ← readVariant index type.fullName mem.stream
    sink.apply v { mem with stream := rest }
  | .message type sink,mem => do
    let (v,rest) ← method type.fullName mem.stream
    sink.apply v { mem with stream := rest }
  | .array element _ items body sink,mem => do
    let (n,rest) ← readArray element mem.stream
    let mem ← repeatStep (body.run index method) n
      (Memory.set { mem with stream := rest } items (.array []))
    sink.apply (← mem.locals items) mem
  | .map keyKind valueKind _ entries keyBody valueBody sink,mem => do
    let (n,rest) ← readMap keyKind valueKind mem.stream
    let mem ← repeatStep (fun mem => (keyBody.run index method mem).bind (valueBody.run index method))
      n (Memory.set { mem with stream := rest } entries (.map []))
    sink.apply (← mem.locals entries) mem

/-- A none marker at the head of the stream is taken and ends the code; else `step` goes on. -/
def unlessNone {α : Type} (absent : List Token → α) (step : List Token → α) : List Token → α
  | .none :: rest => absent rest
  | stream => step stream

theorem unlessNone_of_head {α : Type} {stream : List Token} (h : stream.head? ≠ some .none)
    (absent step : List Token → α) : unlessNone absent step stream = step stream := by
  cases stream with
  | nil => rfl
  | cons t rest =>
    cases t with
    | none => exact absurd rfl h
    | _ => rfl

/-- What the code of a plain field does; the arm of a match is no statement of its own. -/
def FieldReader.run (index : TypeIndex) (method : Methods) :
    FieldReader → Memory → Option Memory
  | .member _ _,_ => none
  | .guarded body,mem =>
    unlessNone (fun rest => some { mem with stream := rest })
      (fun _ => body.run index method mem) mem.stream

/-- The code of an arm, if it is the one of a number. -/
def FieldReader.arm? (d : Datum) : FieldReader → Option Reader
  | .member number body => if d.payload = .number number then some body else none
  | .guarded _ => none

def Run.read (index : TypeIndex) (method : Methods) (mem : Memory) :
    Run Decoding → Option Memory
  | .plain b => b.code.reader.run index method mem
  | .group _ first more =>
    unlessNone (fun rest => some { mem with stream := rest })
      (fun stream => do
        let (d,rest) ← readDatum Primitive.enumNumber stream
        let body ← (first :: more).findSome? fun b => b.code.reader.arm? d
        body.run index method { mem with stream := rest }) mem.stream

theorem fits_zero (bits : ℕ) (signed : Bool) :
    Payload.fits (.integer bits signed) (.number 0) = true := by
  cases signed with
  | false =>
    have hpos : (0 : Int) < 2 ^ bits := by positivity
    simp [Payload.fits,hpos]
  | true =>
    have hpos : (0 : Int) < 2 ^ (bits - 1) := by positivity
    simp [Payload.fits,hpos,hpos.le]

theorem fits_zeroPattern (bits : ℕ) : Payload.fits (.float bits) (.pattern 0) = true := by
  have hpos : 0 < 2 ^ bits := by positivity
  simp [Payload.fits,hpos]

/-- The value of the expression that a slot of some kind is initialized by. -/
def initialValue (index : TypeIndex) (text : String) : Kind → Option Value
  | .integer bits signed =>
    if text = "0" then some (.datum ⟨.integer bits signed,.number 0,fits_zero bits signed⟩) else none
  | .float bits =>
    if text = "0.0" then some (.datum ⟨.float bits,.pattern 0,fits_zeroPattern bits⟩) else none
  | .bool => if text = "false" then some (.datum ⟨.bool,.flag false,rfl⟩) else none
  | .string => if text = "String::new()" then some (.datum ⟨.string,.text "",rfl⟩) else none
  | .bytes => if text = "Vec::new()" then some (.datum ⟨.bytes,.bytes [],rfl⟩) else none
  | .repeated _ => if text = "Vec::new()" then some (.array []) else none
  | .map _ _ => if text = "HashMap::new()" then some (.map []) else none
  | .message _ | .oneof _ _ _ => if text = "None" then some .none else none
  | .enum name => do
    let identifier ← (identifierOf index name).toOption
    let variants ← variantsOf index name
    let v ← variants.find? fun v => identifier ++ "::" ++ Identifier.camel v.name == text
    some (.variant v.name v.number)

/-- The slot of a field. -/
def slotOf (field : Field) : Kind → Slot
  | .oneof group _ _ => .group group
  | _ => .field field.name

/-- The slots of a message with their values before anything is read. -/
def initialEntries (index : TypeIndex) (table : List (Binding Decoding)) :
    Option (List (Slot × Value)) :=
  table.mapM fun b => (initialValue index b.code.initial b.kind).map (slotOf b.field b.kind,·)

def initialSlots (entries : List (Slot × Value)) (s : Slot) : Value := (entries.lookup s).getD .none

/-- What a message's decode method returns, and what it leaves of the stream, if its calls of other
methods may be nested `depth` deep. -/
def decodeRun (index : TypeIndex) : (depth : ℕ) → Methods
  | 0,_,_ => none
  | depth + 1,name,stream => do
    let m ← messageOf? index name
    let table ← (decodeTable index m).toOption
    if stream.head? = some .error then none
    else do
      let entries ← initialEntries index table
      let mem ← (runs table).foldlM (Run.read index (decodeRun index depth))
        ⟨stream,fun _ => none,initialSlots entries⟩
      some (.struct name mem.slots,mem.stream)

/-- The decode method returns the value and leaves `rest`, once calls may be nested as deep as it
takes. -/
def Decodes (index : TypeIndex) (name : String) (stream : List Token) (v : Value)
    (rest : List Token) : Prop :=
  ∃ least, ∀ depth ≥ least, decodeRun index depth name stream = some (v,rest)

theorem Decodes.unique {index : TypeIndex} {name : String} {stream restA restB : List Token}
    {a b : Value} (ha : Decodes index name stream a restA) (hb : Decodes index name stream b restB) :
    a = b ∧ restA = restB := by
  obtain ⟨m,hm⟩ := ha
  obtain ⟨n,hn⟩ := hb
  have he := (hm (max m n) (Nat.le_max_left m n)).symm.trans (hn _ (Nat.le_max_right m n))
  exact Prod.ext_iff.mp (Option.some.inj he)

end SchemaCodec.Codec
