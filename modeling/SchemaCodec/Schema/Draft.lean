import SchemaCodec.Grammar.Literal
import SchemaCodec.Grammar.Tree
import SchemaCodec.Text.Line
import SchemaCodec.Text.Split

/-! # Drafts of schema files

A draft is what a file declares by itself, before the types it refers to are known. It is made from
the file's syntax tree by giving each literal its value. The fields of a message are put in the
order of their lines.
-/
namespace SchemaCodec
open Grammar Text

inductive FieldShape where
  | singular
  | repeated
  | map (key : String)
  | member (group : String)
  deriving DecidableEq, Repr

structure FieldDraft where
  name : String
  number : Int
  type : String
  shape : FieldShape
  line : Nat
  deriving DecidableEq, Repr

structure ValueDraft where
  name : String
  number : Int
  line : Nat
  deriving DecidableEq, Repr

/-- Names and numbers that may not be used; both ends of a range belong to it. -/
structure ReservedDraft where
  ranges : List (Int × Int)
  names : List String
  deriving DecidableEq, Repr

def ReservedDraft.covers (r : ReservedDraft) (name : String) (number : Int) : Bool :=
  r.names.contains name || r.ranges.any fun (lo, hi) => lo ≤ number && number ≤ hi

structure EnumDraft where
  name : String
  values : List ValueDraft
  reserved : List ReservedDraft
  line : Nat
  deriving DecidableEq, Repr

structure MessageDraft where
  name : String
  fields : List FieldDraft
  messages : List MessageDraft
  enums : List EnumDraft
  reserved : List ReservedDraft
  line : Nat
  deriving Repr

structure FileDraft where
  path : String
  package : String
  imports : List String
  messages : List MessageDraft
  enums : List EnumDraft
  lines : List (List Char)
  deriving Repr

/-- The largest field number, which `max` stands for in reserved ranges. -/
def maxFieldNumber : Int := 536870911

namespace Draft

def ofDotted (p : Dotted) : String := joinStrings "." p.words

def ofTypeRef (r : TypeRef) : String := if r.rooted then "." ++ ofDotted r.path else ofDotted r.path

/-- A setting draws no value into the draft, but its literals need one. -/
def checkSetting (s : Setting) : Option Unit :=
  match s.value with
  | .path _ => some ()
  | .text literal => (textValue? literal).map fun _ => ()
  | .number _ (.float _) => some ()
  | .number sign (.int spelling) => (signedValue? sign spelling).map fun _ => ()

def checkSlot (slot : Slot) : Option Unit := do
  for s in slot.settings do
    checkSetting s

def slotNumber (slot : Slot) : Option Int := do
  checkSlot slot
  intValue? slot.number

def ofField (f : FieldTree) : Option FieldDraft := do
  let shape := if f.label = some .repeated then .repeated else .singular
  some ⟨f.slot.name,← slotNumber f.slot,ofTypeRef f.type,shape,f.line⟩

def ofMap (m : MapTree) : Option FieldDraft := do
  some ⟨m.slot.name,← slotNumber m.slot,ofTypeRef m.value,.map (ofTypeRef m.key),m.line⟩

def ofMember (group : String) (m : MemberTree) : Option FieldDraft := do
  some ⟨m.slot.name,← slotNumber m.slot,ofTypeRef m.type,.member group,m.line⟩

def ofValue (v : ValueTree) : Option ValueDraft := do
  checkSlot v.slot
  let sign := if v.negative then some Sign.minus else none
  some ⟨v.slot.name,← signedValue? sign v.slot.number,v.line⟩

def ofRange (r : Range) : Option (Int × Int) := do
  let first ← intValue? r.first
  match r.last with
  | none => some (first, first)
  | some .max => some (first, maxFieldNumber)
  | some (.number spelling) => some (first, ← intValue? spelling)

def ofReserved : Reserved → Option ReservedDraft
  | .ranges rs => do some ⟨← rs.mapM ofRange,[]⟩
  | .names literals => do some ⟨[],← literals.mapM textValue?⟩

def membersOf (group : String) : OneofItem → Option (List FieldDraft)
  | .member m => (ofMember group m).map ([·])
  | .option s => (checkSetting s).map fun _ => []
  | .empty => some []

def addEnumItem (draft : EnumDraft) : EnumItem → Option EnumDraft
  | .value v => do some { draft with values := draft.values ++ [← ofValue v] }
  | .option s => do
    checkSetting s
    some draft
  | .reserved r => do some { draft with reserved := draft.reserved ++ [← ofReserved r] }
  | .empty => some draft

def ofEnum (e : EnumTree) : Option EnumDraft :=
  e.items.foldlM addEnumItem ⟨e.name,[],[],e.line⟩

def byLine (fields : List FieldDraft) : List FieldDraft :=
  fields.mergeSort fun a b => decide (a.line ≤ b.line)

/-- What the items of a message declare, with the members of oneofs apart from the other fields. -/
structure Body where
  fields : List FieldDraft := []
  members : List FieldDraft := []
  messages : List MessageDraft := []
  enums : List EnumDraft := []
  reserved : List ReservedDraft := []

/-- The draft of a message with this body; members of oneofs come behind fields of their line. -/
def Body.toMessage (body : Body) (name : String) (line : Nat) : MessageDraft :=
  ⟨name,byLine (body.fields ++ body.members),body.messages,body.enums,body.reserved,line⟩

def Body.prepend (body : Body) : MessageItem → Option Body
  | .field f => do some { body with fields := (← ofField f) :: body.fields }
  | .map m => do some { body with fields := (← ofMap m) :: body.fields }
  | .oneof name items => do
    some { body with members := (← items.mapM (membersOf name)).flatten ++ body.members }
  | .enum e => do some { body with enums := (← ofEnum e) :: body.enums }
  | .reserved r => do some { body with reserved := (← ofReserved r) :: body.reserved }
  | .option s => do
    checkSetting s
    some body
  | .message _ _ _ | .empty => some body

def bodyOf : List MessageItem → Option Body
  | [] => some {}
  | .message line name items :: rest => do
    let nested ← bodyOf items
    let body ← bodyOf rest
    some { body with messages := nested.toMessage name line :: body.messages }
  | item :: rest => do (← bodyOf rest).prepend item

end Draft

/-- Why a file has no draft, though its text is well formed. -/
inductive DraftError where
  | malformedLiteral
  | repeatedSyntax
  | unsupportedSyntax (value : String)
  | repeatedPackage
  deriving DecidableEq, Repr

namespace Draft

structure Contents where
  syntaxes : List String := []
  packages : List String := []
  imports : List String := []
  messages : List MessageDraft := []
  enums : List EnumDraft := []

def Contents.add (c : Contents) : Statement → Option Contents
  | .syntaxIs literal => do some { c with syntaxes := c.syntaxes ++ [← textValue? literal] }
  | .package name => some { c with packages := c.packages ++ [ofDotted name] }
  | .imports _ literal => do some { c with imports := c.imports ++ [← textValue? literal] }
  | .option s => do
    checkSetting s
    some c
  | .message line name items => do
    some { c with messages := c.messages ++ [(← bodyOf items).toMessage name line] }
  | .enum e => do some { c with enums := c.enums ++ [← ofEnum e] }
  | .empty => some c

/-- The value of the only member of a list; an empty list has none. -/
def only? (values : List String) (repeated : DraftError) : Except DraftError (Option String) :=
  match values with
  | [] => .ok none
  | [v] => .ok (some v)
  | _ => .error repeated

def ofStatements (path : String) (text : List Char) (statements : List Statement) :
    Except DraftError FileDraft :=
  match statements.foldlM Contents.add {} with
  | none => .error .malformedLiteral
  | some c => do
    match ← only? c.syntaxes .repeatedSyntax with
    | some version =>
      if version ≠ "proto2" ∧ version ≠ "proto3" then throw (.unsupportedSyntax version)
    | none => pure ()
    let package ← only? c.packages .repeatedPackage
    .ok ⟨path,package.getD "",c.imports,c.messages,c.enums,lines text⟩

end Draft

end SchemaCodec
