import SchemaCodec.Console.Layout

/-! # Tables

A table has no borders; every column is as wide as its widest cell, with a gap behind it, and the
headings come first. Where the console is too narrow for that the widest columns give way, down to
the width of the next, and the words of their cells go to lines of their own; a word that is still
too long ends in an ellipsis.
-/
namespace SchemaCodec.Console
open Text

structure Column where
  heading : String
  atRight : Bool := false
  deriving DecidableEq, Repr

def gapCells : Nat := 2

def blanks (n : Nat) : List Char := List.replicate n ' '

/-! ## Widths -/

/-- A quotient to the nearest whole number, and to the even one of two that are as near. -/
def nearestQuotient (n k : Nat) : Nat :=
  let q := n / k
  let twice := 2 * (n % k)
  if twice < k ∨ (twice = k ∧ q % 2 = 0) then q else q + 1

/-- Takes cells from the columns of one width, of which there are `count`: from each its share of
the excess, but at most `limit`. -/
def narrow (widest limit : Nat) : (excess count : Nat) → List Nat → List Nat
  | _, _, [] => []
  | excess, count, width :: widths =>
    if width = widest then
      let share := min limit (nearestQuotient excess count)
      (width - share) :: narrow widest limit (excess - share) (count - 1) widths
    else width :: narrow widest limit excess count widths

def total (widths : List Nat) : Nat := widths.foldl (· + ·) 0

def fitWidths : (steps : Nat) → List Nat → List Nat
  | 0, widths => widths
  | steps + 1, widths =>
    let excess := total widths - lineCells
    if excess = 0 then widths
    else
      let widest := widths.foldl max 0
      let next := (widths.filter (· ≠ widest)).foldl max 0
      let limit := min excess (widest - next)
      fitWidths steps (narrow widest limit excess (widths.count widest) widths)

def columnWidths (rows : List (List (List Char))) (count : Nat) : List Nat :=
  let widths := (List.range count).map fun i =>
    min lineCells ((rows.map fun row => cells (row.getD i [])).foldl max 0 + gapCells)
  fitWidths (count + 1) widths

/-! ## Cells -/

/-- The lines of words behind a line that takes so many cells of a column; no word is cut. -/
def fillCell (width : Nat) (line : List Char) (taken : Nat) : List (List Char) → List (List Char)
  | [] => [line]
  | word :: words =>
    let needed := cells (trimEnd word)
    if taken + needed ≤ width then fillCell width (line ++ word) (taken + cells word) words
    else (if line = [] then [] else [line]) ++ fillCell width word (cells word) words

def shorten (width : Nat) (line : List Char) : List Char :=
  if cells line ≤ width then line else takeCells (width - 1) line ++ ['…']

def alignLine (column : Column) (width : Nat) (line : List Char) : List Char :=
  let line := shorten width (if column.atRight then trimEnd line else line)
  let padding := blanks (width - cells line)
  if column.atRight then padding ++ line else line ++ padding

def cellLines (column : Column) (width : Nat) (text : List Char) : List (List Char) :=
  (fillCell width [] 0 (spacedWords text.length text)).map fun line =>
    alignLine column width (cutBlanks width line)

/-! ## Rows -/

/-- The lines of a row; a cell that has fewer than another is filled up with blanks. -/
def rowLines (columns : List Column) (widths : List Nat) (row : List (List Char)) :
    List (List Char) :=
  let parts := (columns.zip (widths.zip row)).map fun (column, width, text) =>
    (width, cellLines column (width - gapCells) text)
  let height := (parts.map fun (_, lines) => lines.length).foldl max 0
  (List.range height).map fun i =>
    (parts.map fun (width, lines) =>
      (lines.getD i (blanks (width - gapCells))) ++ blanks gapCells).flatten

def tableLines (columns : List Column) (rows : List (List String)) : List String :=
  let all := (columns.map (·.heading) :: rows).map fun row => row.map String.toList
  let widths := columnWidths all columns.length
  (all.flatMap (rowLines columns widths)).map String.ofList

end SchemaCodec.Console
