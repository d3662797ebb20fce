import SchemaCodec.Json.Basic
import SchemaCodec.Text.Quoted
import SchemaCodec.Text.Radix
import SchemaCodec.Text.Split

/-! # Printing JSON

Documents are printed in ASCII: any other character becomes an escape of its UTF-16 units. They are
printed on one line, or with every item on a line of its own. A whole number with too many digits
cannot be printed, and neither can a document that holds one.
-/
namespace SchemaCodec.Json
open Text

def units (n : Nat) : List Nat :=
  if n < 0x10000 then [n]
  else [0xD800 + (n - 0x10000) / 0x400, 0xDC00 + (n - 0x10000) % 0x400]

def escapeUnit (n : Nat) : List Char := '\\' :: 'u' :: hexDigits 4 n

def escapeChar (c : Char) : List Char :=
  if c = '"' then ['\\', '"']
  else if c = '\\' then ['\\', '\\']
  else if c = '\n' then ['\\', 'n']
  else if c = '\r' then ['\\', 'r']
  else if c = '\t' then ['\\', 't']
  else if c = '\x08' then ['\\', 'b']
  else if c = '\x0c' then ['\\', 'f']
  else if 0x20 ≤ c.toNat ∧ c.toNat < 0x7F then [c]
  else (units c.toNat).flatMap escapeUnit

def printString (s : String) : List Char := '"' :: s.toList.flatMap escapeChar ++ ['"']

def printInt (n : Int) : List Char := (toString n).toList

/-- How the items of an array or object are set apart. -/
structure Layout where
  indent : Option Nat

def newline (width : Nat) : List Char := '\n' :: List.replicate width ' '

/-- The text between an opening bracket and its first item, `depth` levels deep. -/
def Layout.opening (layout : Layout) (depth : Nat) : List Char :=
  match layout.indent with
  | none => []
  | some n => newline (n * (depth + 1))

def Layout.between (layout : Layout) (depth : Nat) : List Char :=
  match layout.indent with
  | none => [',', ' ']
  | some n => ',' :: newline (n * (depth + 1))

def Layout.closing (layout : Layout) (depth : Nat) : List Char :=
  match layout.indent with
  | none => []
  | some n => newline (n * depth)

mutual

/-- The text of a value, `depth` levels deep. -/
def print (layout : Layout) (depth : Nat) : Json → List Char
  | null => "null".toList
  | bool b => if b then "true".toList else "false".toList
  | int n => printInt n
  | decimal spelling => spelling.toList
  | string s => printString s
  | array [] => "[]".toList
  | array (item :: rest) =>
    '[' :: layout.opening depth ++ print layout (depth + 1) item
      ++ printItems layout depth rest ++ layout.closing depth ++ [']']
  | object [] => ['{', '}']
  | object ((name, value) :: rest) =>
    '{' :: layout.opening depth ++ printString name ++ [':', ' '] ++ print layout (depth + 1) value
      ++ printMembers layout depth rest ++ layout.closing depth ++ ['}']

def printItems (layout : Layout) (depth : Nat) : List Json → List Char
  | [] => []
  | item :: rest =>
    layout.between depth ++ print layout (depth + 1) item ++ printItems layout depth rest

def printMembers (layout : Layout) (depth : Nat) : List (String × Json) → List Char
  | [] => []
  | (name, value) :: rest =>
    layout.between depth ++ printString name ++ [':', ' '] ++ print layout (depth + 1) value
      ++ printMembers layout depth rest

end

def text? (layout : Layout) (j : Json) : Option String :=
  if j.integers.all isWritable then some (String.ofList (print layout 0 j)) else none

def line? (j : Json) : Option String := text? ⟨none⟩ j

def pretty? (j : Json) : Option String := text? ⟨some 2⟩ j

end SchemaCodec.Json
