import SchemaCodec.Decimal.Shortest
import SchemaCodec.Json.Basic
import SchemaCodec.Text.Quoted
import SchemaCodec.Text.Split

/-! # Values as text

Where a text is wanted any value will do: a string is taken as it is, and any other value is written
out, with the strings inside it in quotes.
-/
namespace SchemaCodec.Json
open Text Decimal

mutual

def display : Json → String
  | null => "None"
  | bool b => if b then "True" else "False"
  | int n => toString n
  | decimal spelling => (Binary64.ofSpelling spelling).text
  | string s => quote s
  | array items => "[" ++ joinStrings ", " (displayItems items) ++ "]"
  | object members => "\x7b" ++ joinStrings ", " (displayMembers members) ++ "\x7d"

def displayItems : List Json → List String
  | [] => []
  | item :: rest => display item :: displayItems rest

def displayMembers : List (String × Json) → List String
  | [] => []
  | (name, value) :: rest => (quote name ++ ": " ++ display value) :: displayMembers rest

end

def asText : Json → String
  | string s => s
  | value => value.display

/-- Whether a value counts as set: zero and what is empty do not. -/
def isSet : Json → Bool
  | null => false
  | bool b => b
  | int n => n ≠ 0
  | decimal spelling => !(Binary64.ofSpelling spelling).isZero
  | string s => s ≠ ""
  | array items => !items.isEmpty
  | object members => !members.isEmpty

end SchemaCodec.Json
