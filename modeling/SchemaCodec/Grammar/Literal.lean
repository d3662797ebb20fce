import SchemaCodec.Grammar.Token
import SchemaCodec.Grammar.Tree
import SchemaCodec.Text.Escape

/-! # Values of literals

A number is decimal, hexadecimal after `0x`, or octal after a leading zero; a digit that the base
does not have leaves it without a value, and so do too many decimal digits. A sign may stand before
it. A text is what its quotes enclose, with escapes replaced.
-/
namespace SchemaCodec.Grammar
open Text

def natValue? : List Char → Option Nat
  | '0' :: x :: rest =>
    if x = 'x' ∨ x = 'X' then some (ofDigits 16 rest)
    else if (x :: rest).all isOctalDigit then some (ofDigits 8 (x :: rest))
    else none
  | digits => ofDecimal? digits

def intValue? (spelling : String) : Option Int := (natValue? spelling.toList).map Int.ofNat

def signedValue? (sign : Option Sign) (spelling : String) : Option Int :=
  (intValue? spelling).map fun n => if sign = some .minus then -n else n

/-- The value of a text literal, whose first and last characters are its quotes. -/
def textValue? (literal : String) : Option String :=
  (unescape? (literal.toList.drop 1).dropLast).map String.ofList

end SchemaCodec.Grammar
