import SchemaCodec.Descriptor.Basic
import SchemaCodec.Text.Blank

/-! # From descriptors to schema files

A repeated field whose type is an entry message nested in its own message becomes a map field again,
and the entry message disappears. Comments are brought back to the declarations they belong to.
-/
namespace SchemaCodec.Descriptor
open Text

inductive ConversionError where
  | unsupportedType (path field : String) (sort : FieldSort)
  | incompleteEntry (name : String) (number : Int)
  | missingOneof (index : Int)
  deriving DecidableEq, Repr

def ConversionError.message? : ConversionError → Option String
  | unsupportedType path field sort =>
    some (path ++ ": field " ++ field ++ " has unsupported type " ++ toString sort.number)
  | incompleteEntry _ _ | missingOneof _ => none

/-- The numbers that stand in paths for the parts of files, messages and enums. -/
inductive Part where
  | fileMessage | fileEnum | field | nestedMessage | nestedEnum | value
  deriving DecidableEq, Repr

def Part.number : Part → Int
  | fileMessage => 4 | fileEnum => 5
  | field => 2 | nestedMessage => 3 | nestedEnum => 4
  | value => 2

def step (path : List Int) (part : Part) (position : Nat) : List Int :=
  path ++ [part.number, Int.ofNat position]

/-- The leading comment, or if that is blank the trailing one, unless that is blank too. -/
def Location.comment? (l : Location) : Option String :=
  let leading := trim l.leading.toList
  let text := if leading = [] then trim l.trailing.toList else leading
  if text = [] then none else some (String.ofList text)

/-- The comment at a path; the last location that has one counts. -/
def commentAt (locations : List Location) (path : List Int) : Option String :=
  (locations.filter (·.path == path)).reverse.findSome? Location.comment?

/-- The name that a reference means, which is written with a dot in front. -/
def referredName (ref : String) : String := String.ofList (ref.toList.dropWhile (· == '.'))

def Field.valueType (f : Field) (path : String) : Except ConversionError ValueType :=
  match f.sort with
  | .scalar t => .ok ⟨.scalar t,none⟩
  | .enum => .ok ⟨.enum,some (referredName f.typeName)⟩
  | .message => .ok ⟨.message,some (referredName f.typeName)⟩
  | .group => .error (.unsupportedType path f.name .group)

/-- The member of a list at an index that may count from the end. -/
def atIndex? {α : Type} (l : List α) (i : Int) : Option α :=
  if 0 ≤ i then l[i.toNat]? else if -i ≤ l.length then l[(l.length + i).toNat]? else none

namespace Message

def entries (fullName : String) (nested : List Message) : List (String × Message) :=
  (nested.filter (·.isMapEntry)).map fun m => (qualify fullName m.name, m)

/-- The field of an entry that holds its keys or values; the last one with the number counts. -/
def entryField (m : Message) (number : Int) : Except ConversionError Field :=
  match m.fields.reverse.find? fun f => f.number == number with
  | some f => .ok f
  | none => .error (.incompleteEntry m.name number)

end Message

inductive Shape where
  | singular
  | repeated
  | map (entry : Message)
  | member (index : Int)

def Field.shape (f : Field) (entries : List (String × Message)) : Shape :=
  let entry? :=
    if f.label = .repeated then entries.reverse.lookup (referredName f.typeName) else none
  match entry?, f.oneofIndex with
  | some entry, _ => .map entry
  | none, some i =>
    if f.proto3Optional then (if f.label = .repeated then .repeated else .singular) else .member i
  | none, none => if f.label = .repeated then .repeated else .singular

structure Context where
  path : String
  locations : List Location

namespace Context

def comment (ctx : Context) (path : List Int) : Option String := commentAt ctx.locations path

def enum (ctx : Context) (scope : String) (path : List Int) (e : Enum) : EnumDecl :=
  ⟨e.name,qualify scope e.name,
    e.values.mapIdx fun i v => ⟨v.name,v.number,ctx.comment (step path .value i)⟩,
    ctx.comment path⟩

def enums (ctx : Context) (scope : String) (path : List Int) (part : Part) (es : List Enum) :
    List EnumDecl :=
  es.mapIdx fun i e => ctx.enum scope (step path part i) e

def field (ctx : Context) (oneofs : List String) (entries : List (String × Message))
    (path : List Int) (f : Field) : Except ConversionError SchemaCodec.Field := do
  let comment := ctx.comment path
  match f.shape entries with
  | .map entry => do
    let key ← (← entry.entryField 1).valueType ctx.path
    let value ← (← entry.entryField 2).valueType ctx.path
    .ok ⟨f.name,f.number,.map,value,some key,none,comment⟩
  | .member i =>
    match atIndex? oneofs i with
    | none => .error (.missingOneof i)
    | some group => do
      .ok ⟨f.name,f.number,.oneof,← f.valueType ctx.path,none,some group,comment⟩
  | .repeated => do .ok ⟨f.name,f.number,.repeated,← f.valueType ctx.path,none,none,comment⟩
  | .singular => do .ok ⟨f.name,f.number,.singular,← f.valueType ctx.path,none,none,comment⟩

def fields (ctx : Context) (oneofs : List String) (entries : List (String × Message))
    (path : List Int) (fs : List Field) : Except ConversionError (List SchemaCodec.Field) :=
  (fs.mapIdx fun i f => (step path .field i, f)).mapM fun (p, f) => ctx.field oneofs entries p f

mutual

def message (ctx : Context) (scope : String) (path : List Int) :
    Message → Except ConversionError SchemaCodec.Message
  | ⟨name,fields,nested,enums,oneofs,_⟩ => do
    let full := qualify scope name
    let fields ← ctx.fields oneofs (Message.entries full nested) path fields
    let nested ← ctx.messages full path .nestedMessage 0 nested
    .ok ⟨name,full,fields,nested,ctx.enums full path .nestedEnum enums,ctx.comment path⟩

/-- Messages of a scope, the first of which has this position; nested entries are left out. -/
def messages (ctx : Context) (scope : String) (path : List Int) (part : Part) :
    Nat → List Message → Except ConversionError (List SchemaCodec.Message)
  | _, [] => .ok []
  | i, m :: rest =>
    if part = .nestedMessage ∧ m.isMapEntry then ctx.messages scope path part (i + 1) rest
    else do
      let m ← ctx.message scope (step path part i) m
      .ok (m :: (← ctx.messages scope path part (i + 1) rest))

end

end Context

def File.toSchema (f : File) (generate : Bool) : Except ConversionError SchemaFile := do
  let ctx : Context := ⟨f.name,f.locations⟩
  let messages ← ctx.messages f.package [] .fileMessage 0 f.messages
  let enums := ctx.enums f.package [] .fileEnum f.enums
  .ok ⟨f.name,f.package,f.dependencies,messages,enums,generate⟩

end SchemaCodec.Descriptor
