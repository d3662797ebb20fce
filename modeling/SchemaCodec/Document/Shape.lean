import SchemaCodec.Json.Display
import SchemaCodec.Schema.Basic
import SchemaCodec.Text.Digit

/-! # The shape of documents

A document is settled before anything is read from it: every part is put in its place and in its
form, and what belongs to no part is left out. Parts are lenient about their form. A text takes any
value, a number takes a text that writes one, a list takes whatever has items, and null stays null
everywhere. Only words of a closed vocabulary and objects have to be what they are.
-/
namespace SchemaCodec

/-- Why a document is no schema file, or a schema file has no document. -/
inductive DocumentError where
  | malformed
  | longNumber
  | missing (member : String)
  | unknownWord (word : String)
  | notObject
  | notList
  | notNumber
  | infinite
  | blank
  deriving DecidableEq, Repr

namespace Document
open Json Text Decimal

abbrev Settle := Json → Except DocumentError Json

def settleText : Settle := fun j => .ok (.string j.asText)

def settleFlag : Settle := fun j => .ok (.bool j.isSet)

/-- A whole number; the fraction of any other one is dropped, and a truth value stays one. -/
def settleNumber : Settle
  | .string s =>
    match whole? s.toList with
    | some n => .ok (.int n)
    | none => .error .notNumber
  | .decimal spelling =>
    match Binary64.ofSpelling spelling with
    | .finite negative significand exponent =>
      .ok (.int (Binary64.whole negative significand exponent))
    | .infinite _ => .error .infinite
    | .undefined => .error .notNumber
  | .array _ | .object _ => .error .notList
  | j => .ok j

def settleWord {α : Type} (ofName? : String → Option α) : Settle
  | .string s => if (ofName? s).isSome then .ok (.string s) else .error (.unknownWord s)
  | _ => .error (.unknownWord "")

/-- What can be taken for the items of a list. -/
def itemsOf : Json → Except DocumentError (List Json)
  | .array l => .ok l
  | .string s => .ok (s.toList.map fun c => .string (String.ofList [c]))
  | .object ms => .ok (ms.map fun (name, _) => .string name)
  | _ => .error .notList

def settleList (item : Settle) : Settle := fun j => do .ok (.array (← (← itemsOf j).mapM item))

def orNull (settle : Settle) : Settle
  | .null => .ok .null
  | j => settle j

/-- A part of an object, which may be missing if it has a default. -/
structure Part where
  name : String
  settle : Settle
  default : Option Json := none

def settlePart (ms : List (String × Json)) (p : Part) : Except DocumentError (String × Json) :=
  match member? ms p.name, p.default with
  | some j, _ => do .ok (p.name, ← orNull p.settle j)
  | none, some j => .ok (p.name, j)
  | none, none => .error (.missing p.name)

def settleObject (parts : List Part) : Settle
  | .object ms => do .ok (.object (← parts.mapM (settlePart ms)))
  | _ => .error .notObject

def settleObjects (parts : List Part) : Settle := settleList (orNull (settleObject parts))

/-! ## Schema files -/

def optionalText (name : String) : Part := ⟨name,settleText,some .null⟩

def valueTypeParts : List Part :=
  [⟨"type",settleWord FieldType.ofName?,none⟩, optionalText "type_name"]

def fieldParts : List Part :=
  [⟨"name",settleText,none⟩, ⟨"number",settleNumber,none⟩,
    ⟨"cardinality",settleWord Cardinality.ofName?,none⟩,
    ⟨"value",settleObject valueTypeParts,none⟩,
    ⟨"key",settleObject valueTypeParts,some .null⟩, optionalText "oneof", optionalText "comment"]

def enumValueParts : List Part :=
  [⟨"name",settleText,none⟩, ⟨"number",settleNumber,none⟩, optionalText "comment"]

def enumParts : List Part :=
  [⟨"name",settleText,none⟩, ⟨"full_name",settleText,none⟩,
    ⟨"values",settleObjects enumValueParts,none⟩, optionalText "comment"]

def settleMessage : (depth : Nat) → Settle
  | 0 => fun _ => .error .notObject
  | depth + 1 =>
    settleObject [⟨"name",settleText,none⟩, ⟨"full_name",settleText,none⟩,
      ⟨"fields",settleObjects fieldParts,none⟩,
      ⟨"messages",settleList (orNull (settleMessage depth)),some (.array [])⟩,
      ⟨"enums",settleObjects enumParts,some (.array [])⟩, optionalText "comment"]

mutual

def depth : Json → Nat
  | .array l => depthOfItems l + 1
  | .object ms => depthOfMembers ms + 1
  | _ => 0

def depthOfItems : List Json → Nat
  | [] => 0
  | j :: rest => max (depth j) (depthOfItems rest)

def depthOfMembers : List (String × Json) → Nat
  | [] => 0
  | (_, j) :: rest => max (depth j) (depthOfMembers rest)

end

def fileParts (depth : Nat) : List Part :=
  [⟨"path",settleText,none⟩, ⟨"package",settleText,none⟩,
    ⟨"dependencies",settleList settleText,none⟩,
    ⟨"messages",settleList (orNull (settleMessage (depth + 1))),none⟩,
    ⟨"enums",settleObjects enumParts,none⟩, ⟨"generate",settleFlag,some (.bool true)⟩]

def settleFile : Settle := fun j => settleObject (fileParts (depth j)) j

end Document

end SchemaCodec
