import SchemaCodec.Text.Blank
import SchemaCodec.Text.Line

/-! # Comments of declarations

The comment of a declaration is the block of comment lines directly above its line, or else the
comment behind it on that line. A `//` inside a quoted text opens no comment.
-/
namespace SchemaCodec.Text

/-- What follows the first `//` outside quotes; `quote` is the quote that is open. -/
def afterSlashes : (quote : Option Char) → List Char → Option (List Char)
  | _, [] => none
  | some q, '\\' :: _ :: rest => afterSlashes (some q) rest
  | some q, c :: rest =>
    if c = '\\' then none else afterSlashes (if c = q then none else some q) rest
  | none, '/' :: '/' :: rest => some rest
  | none, c :: rest => afterSlashes (if c = '"' ∨ c = '\'' then some c else none) rest

def commentBehind (line : List Char) : Option (List Char) :=
  match afterSlashes none line with
  | none => none
  | some rest => if trim rest = [] then none else some (trim rest)

def isCommentLine (line : List Char) : Bool := "//".toList.isPrefixOf (trim line)

/-- The block of comment lines directly above a line, top to bottom. -/
def commentBlock (lines : List (List Char)) (line : Nat) : List (List Char) :=
  ((lines.take (line - 1)).reverse.takeWhile isCommentLine).reverse

def commentBody (line : List Char) : List Char := trim ((trim line).drop 2)

def joinLines : List (List Char) → List Char
  | [] => []
  | [line] => line
  | line :: rest => line ++ '\n' :: joinLines rest

def commentAt (lines : List (List Char)) (line : Nat) : Option (List Char) :=
  match commentBlock lines line with
  | [] => commentBehind (if line = 0 then [] else (lines[line - 1]?).getD [])
  | block => some (joinLines (block.map commentBody))

end SchemaCodec.Text
