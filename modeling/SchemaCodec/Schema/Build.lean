import SchemaCodec.Grammar.Read
import SchemaCodec.Schema.Basic
import SchemaCodec.Schema.Error
import SchemaCodec.Schema.Resolve
import SchemaCodec.Text.Comment

/-! # Building schema files

Drafts become descriptors in two passes over all files: first every declaration of every file is
registered under its full name, then the fields of each file are checked and their types resolved
among all the names registered.
-/
namespace SchemaCodec
open Text

inductive TypeSort where
  | enum | message
  deriving DecidableEq, Repr

def TypeSort.fieldType : TypeSort → FieldType
  | enum => .enum
  | message => .message

/-- The names declared so far, latest first. -/
abbrev Declared := List (String × TypeSort)

def Declared.sort? (declared : Declared) (name : String) : Option TypeSort := declared.lookup name

namespace EnumDraft

def fullName (draft : EnumDraft) (scope : String) : String := qualify scope draft.name

end EnumDraft

namespace MessageDraft

def fullName (draft : MessageDraft) (scope : String) : String := qualify scope draft.name

end MessageDraft

structure NamedSort where
  name : String
  sort : TypeSort
  deriving DecidableEq, Repr

def enumNames (scope : String) (enums : List EnumDraft) : List NamedSort :=
  enums.map fun e => ⟨e.fullName scope,.enum⟩

def messageNames (scope : String) : List MessageDraft → List NamedSort
  | [] => []
  | ⟨name,_,messages,enums,_,_⟩ :: rest =>
    let full := qualify scope name
    (⟨full,.message⟩ :: enumNames full enums ++ messageNames full messages)
      ++ messageNames scope rest

def FileDraft.names (draft : FileDraft) : List NamedSort :=
  enumNames draft.package draft.enums ++ messageNames draft.package draft.messages

def declare (path : String) (declared : Declared) (n : NamedSort) : Except SchemaError Declared :=
  if (declared.sort? n.name).isSome then .error (.alreadyDefined path n.name)
  else .ok ((n.name, n.sort) :: declared)

def declareAll (drafts : List FileDraft) : Except SchemaError Declared :=
  drafts.foldlM (fun declared d => d.names.foldlM (declare d.path) declared) []

/-- The field numbers that the language keeps for itself. -/
def isKeptNumber (number : Int) : Bool := 19000 ≤ number && number ≤ 19999

/-- The fault of a field, given the fields of its message before it. -/
def fieldFault? (reserved : List ReservedDraft) (before : List FieldDraft) (f : FieldDraft) :
    Option DeclarationError :=
  if f.number < 1 ∨ maxFieldNumber < f.number then some (.numberOutOfRange f.name f.number)
  else if isKeptNumber f.number then some (.reservedNumber f.name f.number)
  else match before.find? fun g => g.number == f.number with
    | some g => some (.reusedNumber f.name f.number g.name)
    | none =>
      if before.any fun g => g.name == f.name then some (.duplicateField f.name)
      else if reserved.any fun r => r.covers f.name f.number then some (.reservedField f.name)
      else none

def fieldsFault? (reserved : List ReservedDraft) :
    (before rest : List FieldDraft) → Option (Nat × DeclarationError)
  | _, [] => none
  | before, f :: rest =>
    match fieldFault? reserved before f with
    | some cause => some (f.line, cause)
    | none => fieldsFault? reserved (before ++ [f]) rest

structure BuildContext where
  path : String
  lines : List (List Char)
  declared : Declared

namespace BuildContext

def fail {α : Type} (ctx : BuildContext) (line : Nat) (cause : DeclarationError) :
    Except SchemaError α :=
  .error (.declaration ctx.path line cause)

def comment (ctx : BuildContext) (line : Nat) : Option String :=
  (commentAt ctx.lines line).map String.ofList

def valueType (ctx : BuildContext) (ref scope : String) (line : Nat) :
    Except SchemaError ValueType :=
  match ScalarType.ofName? ref with
  | some t => .ok ⟨.scalar t,none⟩
  | none =>
    match resolve? (fun n => (ctx.declared.sort? n).isSome) ref scope with
    | none => ctx.fail line (.unknownType ref)
    | some name =>
      match ctx.declared.sort? name with
      | some sort => .ok ⟨sort.fieldType,some name⟩
      | none => ctx.fail line (.unknownType ref)

/-- The key type that a reference means; only integers, truth values and strings are keys. -/
def keyType (ctx : BuildContext) (ref scope : String) (line : Nat) :
    Except SchemaError ValueType := do
  let key ← ctx.valueType ref scope line
  if key.type.isMapKey then .ok key else ctx.fail line (.invalidMapKey ref)

def field (ctx : BuildContext) (scope : String) (d : FieldDraft) : Except SchemaError Field := do
  let value ← ctx.valueType d.type scope d.line
  let comment := ctx.comment d.line
  match d.shape with
  | .singular => .ok ⟨d.name,d.number,.singular,value,none,none,comment⟩
  | .repeated => .ok ⟨d.name,d.number,.repeated,value,none,none,comment⟩
  | .member group => .ok ⟨d.name,d.number,.oneof,value,none,some group,comment⟩
  | .map ref => do
    let key ← ctx.keyType ref scope d.line
    .ok ⟨d.name,d.number,.map,value,some key,none,comment⟩

def reservedValue? (d : EnumDraft) : Option ValueDraft :=
  d.values.find? fun v => d.reserved.any fun r => r.covers v.name v.number

def enum (ctx : BuildContext) (scope : String) (d : EnumDraft) : Except SchemaError EnumDecl :=
  match reservedValue? d with
  | some v => ctx.fail v.line (.reservedValue v.name)
  | none =>
    .ok ⟨d.name,d.fullName scope,
      d.values.map fun v => ⟨v.name,v.number,ctx.comment v.line⟩,ctx.comment d.line⟩

def checkFields (ctx : BuildContext) (reserved : List ReservedDraft) (fields : List FieldDraft) :
    Except SchemaError Unit :=
  match fieldsFault? reserved [] fields with
  | some (line, cause) => ctx.fail line cause
  | none => .ok ()

/-- Some messages of a scope. The fields of each are checked before anything in it is built. -/
def messages (ctx : BuildContext) (scope : String) :
    List MessageDraft → Except SchemaError (List Message)
  | [] => .ok []
  | ⟨name,fields,nested,enums,reserved,line⟩ :: rest => do
    let full := qualify scope name
    ctx.checkFields reserved fields
    let fields ← fields.mapM (ctx.field full)
    let nested ← ctx.messages full nested
    let enums ← enums.mapM (ctx.enum full)
    let rest ← ctx.messages scope rest
    .ok (⟨name,full,fields,nested,enums,ctx.comment line⟩ :: rest)

end BuildContext

def FileDraft.build (draft : FileDraft) (declared : Declared) (generate : Bool) :
    Except SchemaError SchemaFile := do
  let ctx : BuildContext := ⟨draft.path,draft.lines,declared⟩
  let messages ← ctx.messages draft.package draft.messages
  let enums ← draft.enums.mapM (ctx.enum draft.package)
  .ok ⟨draft.path,draft.package,draft.imports,messages,enums,generate⟩

/-- The descriptors of files that may refer to each other; `generate` says which are asked for. -/
def buildAll (drafts : List FileDraft) (generate : String → Bool) :
    Except SchemaError (List SchemaFile) := do
  let declared ← declareAll drafts
  drafts.mapM fun d => d.build declared (generate d.path)

def draftOf (path : String) (text : List Char) : Except SchemaError FileDraft :=
  match Grammar.read text with
  | .error place => .error (.unexpectedInput path place)
  | .ok statements =>
    match Draft.ofStatements path text statements with
    | .ok draft => .ok draft
    | .error .malformedLiteral => .error .malformedLiteral
    | .error .repeatedSyntax => .error .repeatedSyntax
    | .error .repeatedPackage => .error .repeatedPackage
    | .error (.unsupportedSyntax value) => .error (.unsupportedSyntax path value)

def missingImport? (paths : List String) (drafts : List FileDraft) : Option (String × String) :=
  (drafts.flatMap fun d => d.imports.map fun i => (d.path, i)).find? fun (_, i) =>
    !decide (i ∈ paths)

/-- The descriptors of files given by path and text, all of which are asked for. -/
def parseAll (sources : List (String × String)) : Except SchemaError (List SchemaFile) := do
  let drafts ← sources.mapM fun (path, text) => draftOf path text.toList
  match missingImport? (sources.map (·.1)) drafts with
  | some (path, imported) => .error (.importNotFound path imported)
  | none => buildAll drafts fun _ => true

end SchemaCodec
