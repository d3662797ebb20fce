import SchemaCodec.Console.PictureTable
import SchemaCodec.Text.Blank
import SchemaCodec.Text.Case
import SchemaCodec.Text.Radix
import SchemaCodec.Text.Split

/-! # Pictures

A name between two colons stands for a picture. Behind the name a hyphen and a word may ask for the
picture as text or in colour. What names no picture stays as it is, and so do its colons, which open
and close no other name.
-/
namespace SchemaCodec.Console
open Text

/-- Looks for a name in a table of at most so many characters. -/
def findPicture? (name : List Char) : (count : Nat) → List Char → Option (List Char)
  | 0, _ => none
  | count + 1, cs =>
    let (entry, rest) := cs.span (· ≠ ' ')
    let (known, points) := entry.span (· ≠ '=')
    if known = name then
      some ((split '+' (points.drop 1)).map fun digits => Char.ofNat (ofDigits 16 digits))
    else
      match rest with
      | [] => none
      | _ :: rest => findPicture? name count rest

def picture? (name : List Char) : Option (List Char) :=
  if name = [] then none
  else findPicture? (lower name) pictureTable.length pictureTable.toList

/-- What a word behind the name of a picture adds to it. -/
structure Presentation where
  word : String
  selector : Char

def presentations : List Presentation := [⟨"-emoji",'\uFE0F'⟩, ⟨"-text",'\uFE0E'⟩]

def namedPicture? (name : List Char) : Option (List Char) :=
  match presentations.find? fun p => p.word.toList.isSuffixOf name with
  | some p =>
    (picture? (name.take (name.length - p.word.length))).map fun drawn => drawn ++ [p.selector]
  | none => picture? name

def putPicturesIn : (count : Nat) → List Char → List Char
  | 0, cs => cs
  | _ + 1, [] => []
  | count + 1, c :: cs =>
    if c ≠ ':' then c :: putPicturesIn count cs
    else
      match cs.span fun d => d ≠ ':' ∧ !isBlank d with
      | (name, ':' :: rest) =>
        (namedPicture? name).getD (':' :: name ++ [':']) ++ putPicturesIn count rest
      | _ => ':' :: putPicturesIn count cs

def putPictures (cs : List Char) : List Char := putPicturesIn cs.length cs

end SchemaCodec.Console
