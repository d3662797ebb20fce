import SchemaCodec.Console.Cluster
import SchemaCodec.Text.Blank
import SchemaCodec.Text.Split

/-! # Layout

The console is a thousand cells wide. Tabs become spaces up to the next stop. A line that is too
long is broken between words, and within a word that is longer than a whole line; blanks that stick
out at the end of a line are cut off.
-/
namespace SchemaCodec.Console
open Text

def lineCells : Nat := 1000

def tabCells : Nat := 8

/-- The parts of a line that stood between tabs, the first of them at this position. In the place of
a tab there is a space, and more of them up to the next stop. -/
def joinAtStops (position : Nat) : List (List Char) → List Char
  | [] => []
  | [part] => part
  | part :: rest =>
    let reached := position + cells (part ++ [' '])
    let missing := (tabCells - reached % tabCells) % tabCells
    part ++ List.replicate (missing + 1) ' ' ++ joinAtStops (reached + missing) rest

def expandTabs (line : List Char) : List Char := joinAtStops 0 (split '\t' line)

/-! ## Words -/

def firstWord? (cs : List Char) : Option (List Char × List Char) :=
  let (before, rest) := cs.span isBlank
  let (word, rest) := rest.span fun c => !isBlank c
  let (behind, rest) := rest.span isBlank
  if word = [] then none else some (before ++ word ++ behind, rest)

/-- The words of a text with the blanks around them; at most `count`. -/
def spacedWords : (count : Nat) → List Char → List (List Char)
  | 0, _ => []
  | count + 1, cs =>
    match firstWord? cs with
    | some (word, rest) => word :: spacedWords count rest
    | none => []

def chop (line : List Char) (taken : Nat) : List Cluster → List (List Char)
  | [] => [line]
  | k :: rest =>
    if taken + k.width ≤ lineCells then chop (line ++ k.text) (taken + k.width) rest
    else line :: chop k.text k.width rest

def fill (line : List Char) (taken : Nat) : List (List Char) → List (List Char)
  | [] => [line]
  | word :: words =>
    let needed := cells (trimEnd word)
    if taken + needed ≤ lineCells then fill (line ++ word) (taken + cells word) words
    else if needed ≤ lineCells then line :: fill word (cells word) words
    else
      let parts := chop [] 0 (clusters word)
      let last := parts.getLastD []
      (if line = [] then [] else [line]) ++ parts.dropLast ++ fill last (cells last) words

def wrap (cs : List Char) : List (List Char) :=
  match spacedWords cs.length cs with
  | [] => [cs]
  | words => fill [] 0 words

/-! ## Ends of lines -/

/-- Cuts off blanks at the end of a line as long as it has more characters than there are cells. -/
def cutBlanks (room : Nat) (line : List Char) : List Char :=
  line.take (line.length - min (line.length - (trimEnd line).length) (line.length - room))

def cropLine (line : List Char) : List Char :=
  if cells line ≤ lineCells then line else takeCells lineCells line

def layout (cs : List Char) : List (List Char) :=
  (split '\n' cs).flatMap fun line =>
    (wrap (expandTabs line)).map fun part => cropLine (cutBlanks lineCells part)

end SchemaCodec.Console
