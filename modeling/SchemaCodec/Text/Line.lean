/-! # Lines of a text

A text is cut at every line end that Unicode knows: line feed, carriage return (one end together
with a line feed after it), vertical tab, form feed, the file, group and record separators, next
line, line separator and paragraph separator. The last line needs no end, and an end at the very
end of the text opens no further line.
-/
namespace SchemaCodec.Text

def isLineEnd (c : Char) : Bool :=
  let n := c.toNat
  (10 ≤ n && n ≤ 13) || (28 ≤ n && n ≤ 30) || n == 0x85 || n == 0x2028 || n == 0x2029

def lines : List Char → List (List Char)
  | [] => []
  | '\r' :: '\n' :: rest => [] :: lines rest
  | c :: rest =>
    if isLineEnd c then [] :: lines rest
    else match lines rest with
      | [] => [[c]]
      | line :: more => (c :: line) :: more

/-- The text with a carriage return, alone or before a line feed, replaced by a line feed. -/
def unifyLineEnds : List Char → List Char
  | [] => []
  | '\r' :: '\n' :: rest => '\n' :: unifyLineEnds rest
  | '\r' :: rest => '\n' :: unifyLineEnds rest
  | c :: rest => c :: unifyLineEnds rest

end SchemaCodec.Text
