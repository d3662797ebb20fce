import SchemaCodec.Text.Alphanumeric
import SchemaCodec.Text.Case

/-! # Identifiers of the generated code

Schema names become type names by `camel` and module names by `snake`; field names are kept and
only escaped where the generated language has taken the word.
-/
namespace SchemaCodec.Identifier
open Text

def words : List Char → List (List Char)
  | [] => []
  | [c] => if isAlphanumeric c then [[c]] else []
  | c :: d :: rest =>
    if isAlphanumeric c then
      if isAlphanumeric d then (words (d :: rest)).modifyHead (c :: ·)
      else [c] :: words (d :: rest)
    else words (d :: rest)

/-- A word with its first letter raised; a word all in capitals keeps only that one. -/
def capitalize (word : List Char) : List Char :=
  match if isUpperText word then lower word else word with
  | [] => []
  | c :: rest => upperChar c ++ rest

def camelChars (name : List Char) : List Char := (words name).flatMap capitalize

def camel (name : String) : String := String.ofList (camelChars name.toList)

/-- A new word starts between `a` and `b` where a capital follows a small letter or a digit, or
where the last capital of several starts a word of small letters. -/
def startsWord (a b : Char) (rest : List Char) : Bool :=
  ((a.isLower || a.isDigit) && b.isUpper) ||
    (a.isUpper && b.isUpper && (rest.head?.map Char.isLower).getD false)

def separateWords : List Char → List Char
  | [] => []
  | [a] => [a]
  | a :: b :: rest =>
    if startsWord a b rest then a :: '_' :: separateWords (b :: rest)
    else a :: separateWords (b :: rest)

def hyphenToUnderscore (c : Char) : Char := if c = '-' then '_' else c

def snakeChars (name : List Char) : List Char :=
  lower ((separateWords name).map hyphenToUnderscore)

def snake (name : String) : String := String.ofList (snakeChars name.toList)

def keywords : List String :=
  ["as", "async", "await", "break", "const", "continue", "dyn", "else", "enum", "extern", "false",
   "fn", "for", "if", "impl", "in", "let", "loop", "match", "mod", "move", "mut", "pub", "ref",
   "return", "static", "struct", "trait", "true", "type", "unsafe", "use", "where", "while",
   "abstract", "become", "box", "do", "final", "macro", "override", "priv", "try", "typeof",
   "unsized", "virtual", "yield"]

/-- Words that not even a raw identifier may spell. -/
def pathWords : List String := ["crate", "self", "super", "Self"]

/-- The name as an identifier that is no keyword. -/
def escape (name : String) : String :=
  if name ∈ pathWords then name ++ "_"
  else if name ∈ keywords then "r#" ++ name
  else name

end SchemaCodec.Identifier
