import SchemaCodec.Console.Literal
import SchemaCodec.Console.Picture
import SchemaCodec.Console.Style
import SchemaCodec.Text.Alphanumeric

/-! # Markup

A tag in square brackets sets a style and is not shown; a backslash before it keeps it as text. A
closing tag takes back the latest style of its name, or without a name the latest of all, and it has
to find one. A tag whose name begins with `@` names a handler, and its parameter is read when it is
closed. Between the tags pictures take the place of their names, and the control characters that
would move the cursor are dropped.
-/
namespace SchemaCodec.Console
open Text

inductive MarkupFault where
  /-- A closing tag finds no open tag of its name. -/
  | unmatched (name : String)
  /-- The parameter of a handler cannot be read. -/
  | parameter (text : String)
  /-- A colour has a part that writes no number. -/
  | unreadPart
  deriving DecidableEq, Repr

inductive Piece where
  | text (content : List Char)
  | opening (name : List Char) (parameter : Option (List Char))
  | closing (name : List Char)
  deriving DecidableEq, Repr

/-! ## Pieces -/

def opensTag (c : Char) : Bool :=
  ('a' ≤ c && c ≤ 'z') || c == '#' || c == '/' || c == '@'

def tag? (cs : List Char) : Option (List Char × List Char) :=
  match cs with
  | [] => none
  | c :: _ =>
    if opensTag c then
      match cs.span fun d => d ≠ '[' ∧ d ≠ ']' with
      | (tag, ']' :: rest) => some (tag, rest)
      | _ => none
    else none

def pieceOfTag (tag : List Char) : Piece :=
  let (name, behind) := tag.span (· ≠ '=')
  match name, behind with
  | '/' :: name, _ => .closing (trim name)
  | name, [] => .opening name none
  | name, _ :: parameter => .opening name (some parameter)

/-- The pieces of a text of at most `count` characters behind the plain text `before`, which is in
reverse. Of the backslashes before a tag every second is shown, and an odd one keeps the tag as
text; of those before any other bracket the last is dropped. -/
def piecesFrom (before : List Char) : (count : Nat) → List Char → List Piece
  | 0, _ | _ + 1, [] => [.text before.reverse]
  | count + 1, c :: cs =>
    let (slashes, rest) := (c :: cs).span (· == '\\')
    match rest with
    | [] => [.text (before.reverse ++ slashes)]
    | '[' :: inside =>
      match tag? inside with
      | some (tag, rest) =>
        let piece :=
          if slashes.length % 2 = 1 then .text ('[' :: tag ++ [']']) else pieceOfTag tag
        .text before.reverse :: .text (List.replicate (slashes.length / 2) '\\') :: piece ::
          piecesFrom [] count rest
      | none => piecesFrom ('[' :: (slashes.drop 1 ++ before)) count inside
    | d :: rest => piecesFrom (d :: (slashes ++ before)) count rest

def pieces (cs : List Char) : List Piece := piecesFrom [] cs.length cs

/-! ## Tags -/

/-- A tag that is not closed yet, with the normal form of its name and the place where it stands in
the text that is said. -/
structure OpenTag where
  name : List Char
  parameter : Option (List Char)
  start : Nat
  deriving DecidableEq, Repr

structure Span where
  words : List Char
  start : Nat
  stop : Nat
  deriving DecidableEq, Repr

namespace OpenTag

def span (t : OpenTag) (stop : Nat) : Span :=
  ⟨t.name ++ (t.parameter.map fun parameter => ' ' :: parameter).getD [],t.start,stop⟩

def namesHandler (t : OpenTag) : Bool := t.name.head? = some '@'

def isWordPart (c : Char) : Bool := isAlphanumeric c || c == '_'

def checkHandler (t : OpenTag) : Except MarkupFault Unit :=
  match t.parameter with
  | none | some [] => .ok ()
  | some parameter =>
    if isHandler isWordPart (trim parameter) then .ok ()
    else .error (.parameter (String.ofList parameter))

end OpenTag

/-- The normal form of words that can be tried as a style. -/
def normalName (words : List Char) : Except MarkupFault (List Char) :=
  match Style.normal words with
  | .ok name => .ok name
  | .error _ => .error .unreadPart

/-- Controls that ring or move the cursor, other than to the next column or line. -/
def isControl (c : Char) : Bool :=
  let n := c.toNat
  n == 7 || n == 8 || (11 ≤ n && n ≤ 13)

/-- What the pieces so far have come to: a text, the tags that are still open, the latest first,
and the spans of the styles that are closed. -/
structure Rendering where
  text : List Char := []
  openTags : List OpenTag := []
  spans : List Span := []
  deriving DecidableEq, Repr

namespace Rendering

def say (r : Rendering) (content : List Char) : Rendering :=
  { r with text := r.text ++ (putPictures content).filter fun c => !isControl c }

def push (r : Rendering) (name : List Char) (parameter : Option (List Char)) :
    Except MarkupFault Rendering := do
  return { r with openTags := ⟨← normalName name,parameter,r.text.length⟩ :: r.openTags }

def pop (r : Rendering) (name : List Char) (wanted : OpenTag → Bool) :
    Except MarkupFault Rendering :=
  match r.openTags.find? wanted with
  | none => .error (.unmatched (String.ofList name))
  | some tag =>
    let r := { r with openTags := r.openTags.eraseP wanted }
    if tag.namesHandler then do
      tag.checkHandler
      return r
    else .ok { r with spans := tag.span r.text.length :: r.spans }

def close (r : Rendering) (name : List Char) : Except MarkupFault Rendering :=
  if name = [] then r.pop name fun _ => true
  else do
    let normal ← normalName name
    r.pop normal fun tag => tag.name == normal

def step (r : Rendering) : Piece → Except MarkupFault Rendering
  | .text content => .ok (r.say content)
  | .opening name parameter => r.push name parameter
  | .closing name => r.close name

/-- The spans of all styles; what is not closed goes on to the end. -/
def allSpans (r : Rendering) : List Span :=
  r.openTags.map (fun tag => tag.span r.text.length) ++ r.spans

/-- Whether a span covers something other than line ends. -/
def covers (r : Rendering) (span : Span) : Bool :=
  ((r.text.drop span.start).take (span.stop - span.start)).any (· ≠ '\n')

end Rendering

def render (cs : List Char) : Except MarkupFault Rendering :=
  (pieces cs).foldlM Rendering.step {}

def Span.check (span : Span) : Except MarkupFault Unit :=
  match Style.read span.words with
  | .error .unreadPart => .error .unreadPart
  | _ => .ok ()

end SchemaCodec.Console
