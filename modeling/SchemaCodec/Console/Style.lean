import SchemaCodec.Console.ColorTable
import SchemaCodec.Text.Blank
import SchemaCodec.Text.Case
import SchemaCodec.Text.Digit
import SchemaCodec.Text.Radix
import SchemaCodec.Text.Split

/-! # Styles

A style is written in words: attributes, which `not` turns off, a colour for the text, one for the
background behind `on`, and an address behind `link`. Of two words on the same matter the later one
counts. Styles that look the same have the same normal form; words that are no style stay as they
are, in small letters.
-/
namespace SchemaCodec.Console
open Text

inductive Attribute where
  | bold | dim | italic | underline | blink | blink2 | reverse | conceal | strike
  | underline2 | frame | encircle | overline
  deriving DecidableEq, Repr

namespace Attribute

def all : List Attribute :=
  [bold, dim, italic, underline, blink, blink2, reverse, conceal, strike, underline2, frame,
   encircle, overline]

def word : Attribute → String
  | bold => "bold" | dim => "dim" | italic => "italic" | underline => "underline"
  | blink => "blink" | blink2 => "blink2" | reverse => "reverse" | conceal => "conceal"
  | strike => "strike" | underline2 => "underline2" | frame => "frame" | encircle => "encircle"
  | overline => "overline"

def shortWords : List (String × Attribute) :=
  [("b", bold), ("d", dim), ("i", italic), ("u", underline), ("r", reverse), ("c", conceal),
   ("s", strike), ("uu", underline2), ("o", overline)]

def ofWord? (w : String) : Option Attribute :=
  match all.find? fun a => a.word == w with
  | some a => some a
  | none => shortWords.lookup w

end Attribute

/-- Why words are no style. In a colour of three parts a part that writes no number is worse than an
unknown word: no style can be tried at all. -/
inductive StyleFault where
  | unknown
  | unreadPart
  deriving DecidableEq, Repr

structure Style where
  attributes : List (Attribute × Bool) := []
  color : Option String := none
  background : Option String := none
  link : Option String := none
  deriving DecidableEq, Repr

namespace Style

def colorNames : List String := splitString ' ' colorTable

def enclosed? (front : String) (cs : List Char) : Option (List Char) :=
  if front.toList.isPrefixOf cs ∧ front.length < cs.length ∧ cs.getLast? = some ')' then
    some ((cs.drop front.length).dropLast)
  else none

def isHexColor : List Char → Bool
  | '#' :: digits => digits.length == 6 && digits.all fun c => c.isDigit || ('a' ≤ c && c ≤ 'f')
  | _ => false

/-- Whether a text is a number of at most three digits up to 255. -/
def isPaletteNumber (cs : List Char) : Bool :=
  cs ≠ [] && cs.length ≤ 3 && cs.all Char.isDigit && ofDigits 10 cs ≤ 255

/-- Three numbers up to 255 with commas between them. -/
def checkParts (cs : List Char) : Except StyleFault Unit :=
  if cs = [] ∨ !cs.all (fun c => isDecimal c || c == ',') then .error .unknown
  else
    let parts := split ',' cs
    if parts.length ≠ 3 then .error .unknown
    else
      match parts.mapM natural? with
      | none => .error .unreadPart
      | some values => if values.all (· ≤ 255) then .ok () else .error .unknown

def readColor (word : String) : Except StyleFault String := do
  let cs := lower word.toList
  let name := String.ofList cs
  if name = "default" ∨ colorNames.contains name ∨ isHexColor cs then return name
  match enclosed? "color(" cs, enclosed? "rgb(" cs with
  | some number, _ => if isPaletteNumber number then return name else throw .unknown
  | none, some parts => do checkParts parts; return name
  | none, none => throw .unknown

def withAttribute (s : Style) (a : Attribute) (on : Bool) : Style :=
  { s with attributes := (a, on) :: s.attributes }

def readWords (s : Style) : List String → Except StyleFault Style
  | [] => .ok s
  | word :: rest =>
    match String.ofList (lower word.toList), rest with
    | "on", [] | "not", [] | "link", [] => .error .unknown
    | "on", color :: rest => do readWords { s with background := some (← readColor color) } rest
    | "not", name :: rest =>
      match Attribute.ofWord? name with
      | some a => readWords (s.withAttribute a false) rest
      | none => .error .unknown
    | "link", address :: rest => readWords { s with link := some address } rest
    | word, rest =>
      match Attribute.ofWord? word with
      | some a => readWords (s.withAttribute a true) rest
      | none => do readWords { s with color := some (← readColor word) } rest

def wordsOf : (count : Nat) → List Char → List String
  | 0, _ => []
  | count + 1, cs =>
    let (word, rest) := (dropBlanks cs).span fun c => !isBlank c
    if word = [] then [] else String.ofList word :: wordsOf count rest

def read (cs : List Char) : Except StyleFault Style :=
  if trim cs = "none".toList then .ok {} else readWords {} (wordsOf cs.length cs)

def words (s : Style) : List String :=
  let attributes := Attribute.all.flatMap fun a =>
    match s.attributes.lookup a with
    | some true => [a.word]
    | some false => ["not", a.word]
    | none => []
  attributes ++ s.color.toList ++ (s.background.map fun c => ["on", c]).getD []
    ++ (s.link.map fun l => ["link", l]).getD []

def text (s : Style) : List Char :=
  if s.words = [] then "none".toList else (joinStrings " " s.words).toList

/-- The normal form of a text. -/
def normal (cs : List Char) : Except StyleFault (List Char) :=
  match read cs with
  | .ok s => .ok s.text
  | .error .unknown => .ok (lower (trim cs))
  | .error .unreadPart => .error .unreadPart

end Style

end SchemaCodec.Console
