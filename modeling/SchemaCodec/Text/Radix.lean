/-! # Numbers in a base

Digits of base sixteen and below, and the numbers that rows of them write. Decimal numbers are read
and written up to a limit on their digits.
-/
namespace SchemaCodec.Text

def isHexDigit (c : Char) : Bool :=
  c.isDigit || ('a' ≤ c && c ≤ 'f') || ('A' ≤ c && c ≤ 'F')

def isOctalDigit (c : Char) : Bool := '0' ≤ c && c ≤ '7'

def isBinaryDigit (c : Char) : Bool := c == '0' || c == '1'

def digitValue (c : Char) : Nat :=
  if c.isDigit then c.toNat - 48
  else if 'a' ≤ c && c ≤ 'f' then c.toNat - 87
  else c.toNat - 55

def ofDigits (base : Nat) (digits : List Char) : Nat :=
  digits.foldl (fun n c => base * n + digitValue c) 0

/-- The decimal digits that a number may have where it is read or written. -/
def digitLimit : Nat := 4300

/-- The number that decimal digits write, unless they are too many. -/
def ofDecimal? (digits : List Char) : Option Nat :=
  if digits.length ≤ digitLimit then some (ofDigits 10 digits) else none

def isWritable (n : Int) : Bool := (Nat.toDigits 10 n.natAbs).length ≤ digitLimit

def decimalText? (n : Int) : Option String := if isWritable n then some (toString n) else none

end SchemaCodec.Text
