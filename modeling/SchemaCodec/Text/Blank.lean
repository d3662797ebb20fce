/-! # Blank characters

Space, tab, line ends, the information separators and the other separators of Unicode are blank.
Trimming removes blanks from the ends of a text and leaves those inside it.
-/
namespace SchemaCodec.Text

/-- Separators, and the controls that move to another column or line. -/
def isBlank (c : Char) : Bool :=
  let n := c.toNat
  (9 ≤ n && n ≤ 13) || (28 ≤ n && n ≤ 32) || n == 0x85 || n == 0xA0 || n == 0x1680 ||
    (0x2000 ≤ n && n ≤ 0x200A) || n == 0x2028 || n == 0x2029 || n == 0x202F || n == 0x205F ||
    n == 0x3000

def dropBlanks (cs : List Char) : List Char := cs.dropWhile isBlank

def trimEnd (cs : List Char) : List Char := (dropBlanks cs.reverse).reverse

def trim (cs : List Char) : List Char := trimEnd (dropBlanks cs)

end SchemaCodec.Text
