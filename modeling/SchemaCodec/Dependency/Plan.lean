import SchemaCodec.Dependency.Cycle
import SchemaCodec.Kind
import SchemaCodec.Schema.Index

/-! # Emission plans

The plan of a file lists its declarations in emission order together with the types that it takes
from other files. Only what a message stores inline orders declarations; a file whose types contain
each other inline has no plan.
-/
namespace SchemaCodec
open Dependency Text

structure ImportRef where
  source : String
  fullName : String
  rustPath : String
  deriving DecidableEq, Repr

/-- The order of a file's declarations and the types it imports. -/
structure EmissionPlan where
  order : List String
  imports : List ImportRef
  deriving DecidableEq, Repr

inductive PlanError where
  | inlineCycles (path : String) (cycles : List (List String)) (members : List String)
  | unresolvedReference (message field name : String)
  | unordered (cause : OrderError)
  deriving DecidableEq, Repr

def PlanError.cycleText (cycles : List (List String)) : String :=
  "types contain each other inline (" ++ joinStrings "; " (cycles.map (joinStrings " -> "))
    ++ "); make one of the references repeated, a map or a oneof member"

/-- The report of an error; that a name has no place in the file has none. -/
def PlanError.message? : PlanError → Option String
  | inlineCycles path cycles _ => some (path ++ ": " ++ cycleText cycles)
  | unresolvedReference message field name =>
    some (message ++ "." ++ field ++ " references unresolved type " ++ name)
  | unordered _ => none

structure Reference where
  owner : String
  field : Field
  target : String

def SchemaFile.references (file : SchemaFile) : List Reference :=
  file.declarations.flatMap fun
    | .enum _ => []
    | .message m => m.fields.flatMap fun f => f.references.map fun t => ⟨m.fullName,f,t⟩

def SchemaFile.declaredNames (file : SchemaFile) : List String :=
  file.declarations.map Declaration.fullName

def SchemaFile.typeNames (file : SchemaFile) : List String := file.declaredNames.eraseDups

def importOf (entry : TypeEntry) (fullName : String) : ImportRef :=
  ⟨entry.file.path,fullName,entry.file.modulePath ++ "::" ++ entry.identifier⟩

def ImportRef.before (a b : ImportRef) : Bool :=
  a.source < b.source || (a.source == b.source && !decide (b.fullName < a.fullName))

def SchemaFile.unresolved? (file : SchemaFile) (index : TypeIndex) : Option Reference :=
  file.references.find? fun r => !index.contains r.target

def TypeIndex.isForeign (index : TypeIndex) (path fullName : String) : Bool :=
  ((index.find? fullName).map fun e => e.file.path != path).getD false

def SchemaFile.imports (file : SchemaFile) (index : TypeIndex) : List ImportRef :=
  let names := ((file.references.map (·.target)).filter (index.isForeign file.path)).eraseDups
  (names.filterMap fun n => (index.find? n).map (importOf · n)).mergeSort ImportRef.before

/-- Which types of the file each message stores inline. -/
def SchemaFile.inlineGraph (file : SchemaFile) (index : TypeIndex) : Graph :=
  file.typeNames.map fun name =>
    let inline := file.references.filter fun r =>
      r.owner == name && r.field.isInline && !index.isForeign file.path r.target
    (name, (inline.map (·.target)).eraseDups)

/-- The place of a name's last occurrence. -/
def lastPosition (names : List String) (name : String) : Option Int :=
  if name ∈ names then some (Int.ofNat (names.length - 1 - names.reverse.idxOf name)) else none

def byPosition (names selected : List String) : List String :=
  selected.mergeSort fun a b =>
    decide ((lastPosition names a).getD 0 ≤ (lastPosition names b).getD 0)

def SchemaFile.plan (file : SchemaFile) (index : TypeIndex) : Except PlanError EmissionPlan :=
  match file.unresolved? index with
  | some r => .error (.unresolvedReference r.owner r.field.name r.target)
  | none =>
    let graph := file.inlineGraph index
    let names := file.declaredNames
    match emissionOrder graph (lastPosition names) with
    | .error e => .error (.unordered e)
    | .ok order =>
      if order.length = graph.length then .ok ⟨order,file.imports index⟩
      else
        let remaining := graph.nodes.filter fun n => !decide (n ∈ order)
        let found := (cycles graph remaining).map (byPosition names)
        .error (.inlineCycles file.path found (byPosition names found.flatten))

end SchemaCodec
