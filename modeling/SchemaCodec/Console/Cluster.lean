import SchemaCodec.Console.CellWidth

/-! # Clusters of characters

Characters that are shown as one cannot be put on different lines. A mark belongs to the character
before it, a joiner also takes the character behind it, and a picture selector makes the character
before it wide where that has a picture. What a joiner takes has no width of its own.
-/
namespace SchemaCodec.Console
open Text

def joiner : Char := '\u200D'

def pictureSelector : Char := '\uFE0F'

/-- The cells that a selector adds to the last character with a width. -/
def addedCells : Option Char → Nat
  | some base => if pictorialPoints.contains base.toNat then 1 else 0
  | none => 0

/-! ## Widths of texts -/

/-- How many cells a text takes behind a character that a selector can still widen. -/
def cellsBehind (last : Option Char) : List Char → Nat
  | [] => 0
  | c :: cs =>
    if c = joiner then
      match cs with
      | [] => 0
      | _ :: rest => cellsBehind last rest
    else if c = pictureSelector then addedCells last + cellsBehind none cs
    else
      let width := cellWidth c
      width + cellsBehind (if width = 0 then last else some c) cs

def cells (cs : List Char) : Nat := cellsBehind none cs

/-! ## Clusters -/

structure Cluster where
  text : List Char
  width : Nat
  deriving DecidableEq, Repr

def Cluster.orNothing (k : Cluster) : List Cluster := if k.text = [] then [] else [k]

def clustersBehind (last : Option Char) (k : Cluster) : List Char → List Cluster
  | [] => k.orNothing
  | c :: cs =>
    if k.text ≠ [] ∧ c = joiner then
      match cs with
      | [] => [⟨k.text ++ [c],k.width⟩]
      | d :: rest => clustersBehind last ⟨k.text ++ [c, d],k.width⟩ rest
    else if k.text ≠ [] ∧ c = pictureSelector then
      let added := addedCells last
      clustersBehind (if added = 0 then last else none) ⟨k.text ++ [c],k.width + added⟩ cs
    else
      let width := cellWidth c
      if width = 0 then clustersBehind last ⟨k.text ++ [c],k.width⟩ cs
      else k.orNothing ++ clustersBehind (some c) ⟨[c],width⟩ cs

def clusters (cs : List Char) : List Cluster := clustersBehind none ⟨[],0⟩ cs

/-- The characters that fit into so many cells, with a space in the place of half a cluster. -/
def takeClusters : (room : Nat) → List Cluster → List Char
  | 0, _ | _, [] => []
  | room, k :: rest =>
    if k.width ≤ room then k.text ++ takeClusters (room - k.width) rest else [' ']

def takeCells (room : Nat) (cs : List Char) : List Char := takeClusters room (clusters cs)

end SchemaCodec.Console
