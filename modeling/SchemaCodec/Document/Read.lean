import SchemaCodec.Document.Shape
import SchemaCodec.Document.Write
import SchemaCodec.Json.Read
import SchemaCodec.Schema.Path

/-! # Reading schema files from documents

A settled document is a schema file unless it leaves a part blank that code depends on. A blank
package is the empty one, blank dependencies are none, and a blank mark leaves a file out of what is
generated.
-/
namespace SchemaCodec

namespace Document
open Json

abbrev Members := List (String × Json)

def members (j : Json) : Except DocumentError Members :=
  match j with
  | .object ms => .ok ms
  | _ => .error .blank

def member (ms : Members) (name : String) : Json := (member? ms name).getD .null

def text (j : Json) : Except DocumentError String :=
  match j with
  | .string s => .ok s
  | _ => .error .blank

def number (j : Json) : Except DocumentError Int :=
  match j with
  | .int n => .ok n
  | .bool b => .ok (if b then 1 else 0)
  | _ => .error .blank

def items (j : Json) : Except DocumentError (List Json) :=
  match j with
  | .array l => .ok l
  | _ => .error .blank

def word {α : Type} (ofName? : String → Option α) (j : Json) : Except DocumentError α := do
  match ofName? (← text j) with
  | some a => .ok a
  | none => .error .blank

/-- What a part holds that may be blank. -/
def optional {α : Type} (read : Json → Except DocumentError α) (j : Json) :
    Except DocumentError (Option α) :=
  match j with
  | .null => .ok none
  | j => (read j).map some

def readValueType (j : Json) : Except DocumentError ValueType := do
  let ms ← members j
  let type ← word FieldType.ofName? (member ms "type")
  .ok ⟨type,← optional text (member ms "type_name")⟩

def readField (j : Json) : Except DocumentError Field := do
  let ms ← members j
  let name ← text (member ms "name")
  let num ← number (member ms "number")
  let cardinality ← word Cardinality.ofName? (member ms "cardinality")
  let value ← readValueType (member ms "value")
  let key ← optional readValueType (member ms "key")
  let oneof ← optional text (member ms "oneof")
  .ok ⟨name,num,cardinality,value,key,oneof,← optional text (member ms "comment")⟩

def readEnumValue (j : Json) : Except DocumentError EnumValue := do
  let ms ← members j
  let name ← text (member ms "name")
  let num ← number (member ms "number")
  .ok ⟨name,num,← optional text (member ms "comment")⟩

def readEnum (j : Json) : Except DocumentError EnumDecl := do
  let ms ← members j
  let name ← text (member ms "name")
  let fullName ← text (member ms "full_name")
  let values ← (← items (member ms "values")).mapM readEnumValue
  .ok ⟨name,fullName,values,← optional text (member ms "comment")⟩

/-- Reads a message with others nested in it at most `depth` deep. -/
def readMessage : (depth : Nat) → Json → Except DocumentError Message
  | 0, _ => .error .blank
  | depth + 1, j => do
    let ms ← members j
    let name ← text (member ms "name")
    let fullName ← text (member ms "full_name")
    let fields ← (← items (member ms "fields")).mapM readField
    let messages ← (← items (member ms "messages")).mapM (readMessage depth)
    let enums ← (← items (member ms "enums")).mapM readEnum
    .ok ⟨name,fullName,fields,messages,enums,← optional text (member ms "comment")⟩

def readFile (j : Json) : Except DocumentError SchemaFile := do
  let ms ← members j
  let path ← text (member ms "path")
  let package ← optional text (member ms "package")
  let dependencies ← optional items (member ms "dependencies")
  let dependencies ← (dependencies.getD []).mapM text
  let messages ← (← items (member ms "messages")).mapM (readMessage (depth j))
  let enums ← (← items (member ms "enums")).mapM readEnum
  .ok ⟨path,package.getD "",dependencies,messages,enums,(member ms "generate").isSet⟩

def toFile (j : Json) : Except DocumentError SchemaFile := do readFile (← settleFile j)

def toField (j : Json) : Except DocumentError Field := do
  readField (← settleObject fieldParts j)

structure Placement where
  outputPath : String
  modulePath : String
  deriving DecidableEq, Repr

def placementOf (path package : String) : Placement :=
  let file : SchemaFile := ⟨path,package,[],[],[],true⟩
  ⟨file.outputPath,file.modulePath⟩

/-- Where the code of a settled document goes, which depends on its path and package alone. -/
def placement (j : Json) : Except DocumentError Placement := do
  let ms ← members j
  match member ms "path", member ms "package" with
  | .string path, .string package => .ok (placementOf path package)
  | .string path, _ => .ok (placementOf path "")
  | _, _ => .error .notObject

def settled (s : String) : Except DocumentError Json :=
  match Json.read s with
  | .error .malformed => .error .malformed
  | .error .longNumber => .error .longNumber
  | .ok j => settleFile j

end Document

def SchemaFile.ofDocument (s : String) : Except DocumentError SchemaFile := do
  Document.readFile (← Document.settled s)

end SchemaCodec
