import SchemaCodec.Formatter
import SchemaCodec.Text.Blank
import SchemaCodec.Text.Split

/-! # Parameters of the plugin

A parameter string is a list of items between commas. An item is a name, or a name and a value with
an equals sign between them; blanks around items and blank items count for nothing. Later items
overrule earlier ones.
-/
namespace SchemaCodec.Plugin
open Text

structure UnknownParameter where
  item : String
  deriving DecidableEq, Repr

def UnknownParameter.message (e : UnknownParameter) : String :=
  "Unknown plugin parameter: " ++ e.item

def items (parameter : String) : List String :=
  ((split ',' parameter.toList).map trim).filter (· ≠ []) |>.map String.ofList

/-- The name of an item and its value, which is empty if there is none. -/
def nameAndValue (item : String) : String × String :=
  let (name, rest) := item.toList.span (· ≠ '=')
  (String.ofList name, String.ofList rest.tail)

def applyItem (choice : FormatChoice) (item : String) : Except UnknownParameter FormatChoice :=
  let (name, value) := nameAndValue item
  if name = "no_format" then .ok { choice with format := false }
  else if name = "rustfmt" ∧ value ≠ "" then
    .ok { choice with program := { choice.program with executable := value } }
  else if name = "edition" ∧ value ≠ "" then
    .ok { choice with program := { choice.program with edition := value } }
  else .error ⟨item⟩

def formatChoice (parameter : String) : Except UnknownParameter FormatChoice :=
  (items parameter).foldlM applyItem {}

end SchemaCodec.Plugin
