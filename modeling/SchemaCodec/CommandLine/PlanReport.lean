import SchemaCodec.Console.Table
import SchemaCodec.Dependency.Plan
import SchemaCodec.Json.Print

/-! # Reports of plans

What the plan of a file comes to: the path of its code, its declarations in emission order with
their values or fields, and its imports. A report is shown as a document or as a table.
-/
namespace SchemaCodec.CommandLine
open Text Console

structure FieldRow where
  name : String
  number : Int
  kind : String
  deriving DecidableEq, Repr

inductive TypeReport where
  | enum (values : List (String × Int))
  | message (fields : List FieldRow)
  deriving DecidableEq, Repr

structure PlanReport where
  output : String
  order : List String
  imports : List String
  types : List (String × TypeReport)
  deriving DecidableEq, Repr

/-- What there is to say about a file; cycles make it an error with the types on them. -/
inductive FileReport where
  | cyclic (message : String) (members : List String)
  | planned (report : PlanReport)
  deriving DecidableEq, Repr

def FileReport.isError : FileReport → Bool
  | cyclic _ _ => true
  | planned _ => false

inductive ReportError where
  | plan (cause : PlanError)
  | kind (cause : KindError)
  | unknownType (name : String)
  | longNumber
  deriving DecidableEq, Repr

/-- Every name once, at its first place and with its last value. -/
def mergeNames {α : Type} (members : List (String × α)) : List (String × α) :=
  (members.map (·.1)).eraseDups.filterMap fun name =>
    (members.reverse.lookup name).map fun value => (name, value)

def fieldRow (f : Field) : Except ReportError FieldRow :=
  match f.kind with
  | .ok kind => .ok ⟨f.name,f.number,kind.describe⟩
  | .error cause => .error (.kind cause)

def typeReport : Declaration → Except ReportError TypeReport
  | .enum decl => .ok (.enum (mergeNames (decl.values.map fun v => (v.name, v.number))))
  | .message decl => do
    let fields := decl.fields.mergeSort fun a b => decide (a.number ≤ b.number)
    let rows ← fields.mapM fieldRow
    .ok (.message ((mergeNames (rows.map fun r => (r.name, r))).map (·.2)))

def namedReport (index : TypeIndex) (name : String) : Except ReportError (String × TypeReport) :=
  match index.find? name with
  | some entry => do .ok (name, ← typeReport entry.declaration)
  | none => .error (.unknownType name)

def fileReport (index : TypeIndex) (file : SchemaFile) : Except ReportError FileReport :=
  match file.plan index with
  | .error (.inlineCycles path cycles members) =>
    .ok (.cyclic (path ++ ": " ++ PlanError.cycleText cycles) members)
  | .error cause => .error (.plan cause)
  | .ok plan => do
    let types ← plan.order.mapM (namedReport index)
    .ok (.planned ⟨file.outputPath,plan.order,plan.imports.map (·.rustPath),types⟩)

/-! ## Documents -/

def texts (items : List String) : Json := .array (items.map .string)

def FieldRow.toJson (r : FieldRow) : String × Json :=
  (r.name, .object [("number", .int r.number), ("kind", .string r.kind)])

def TypeReport.toJson : TypeReport → Json
  | enum values =>
    .object [("kind", .string "enum"), ("values", .object (values.map fun (n, v) => (n, .int v)))]
  | message fields =>
    .object [("kind", .string "message"), ("fields", .object (fields.map FieldRow.toJson))]

def FileReport.toJson : FileReport → Json
  | cyclic message members => .object [("error", .string message), ("members", texts members)]
  | planned r =>
    .object [("output", .string r.output), ("order", texts r.order), ("imports", texts r.imports),
      ("types", .object (r.types.map fun (name, t) => (name, t.toJson)))]

/-! ## Tables -/

def planColumns : List Column :=
  [⟨"#",true⟩, ⟨"Type",false⟩, ⟨"Field",false⟩, ⟨"No.",true⟩, ⟨"Kind",false⟩]

def FieldRow.cells (r : FieldRow) : List String := ["", "", r.name, toString r.number, r.kind]

def typeRows (position : Nat) (name : String) : TypeReport → List (List String)
  | .enum _ => [[toString position, name, "", "", "enum"]]
  | .message fields =>
    [toString position, name, "", "", "message"] :: fields.map FieldRow.cells

def PlanReport.rows (r : PlanReport) : List (List String) :=
  (r.types.mapIdx fun i (name, t) => typeRows (i + 1) name t).flatten

/-- A line of a report: one for the console to read, or one of a table, where nothing is markup. -/
inductive ReportLine where
  | markup (text : String)
  | row (text : String)
  deriving DecidableEq, Repr

def pathLine (path : String) : ReportLine := .markup ("[bold cyan]" ++ path ++ "[/bold cyan]")

def FileReport.lines : FileReport → List ReportLine
  | cyclic message _ => [.markup ("  [red]" ++ message ++ "[/red]"), .row ""]
  | planned r =>
    let imports := r.imports.map fun path => .markup ("  " ++ path)
    (if r.imports = [] then [] else .markup "[dim]Imports[/dim]" :: imports)
      ++ (tableLines planColumns r.rows).map .row ++ [.row ""]

end SchemaCodec.CommandLine
