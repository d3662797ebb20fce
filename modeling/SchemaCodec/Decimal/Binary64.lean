/-! # Binary floating-point numbers

A decimal spelling is read as the binary number of 53 significant bits that lies nearest to it; a
tie goes to the even significand. All arithmetic is exact: the spelling is a fraction of natural
numbers, and the significand is that fraction rounded at the right power of two.
-/
namespace SchemaCodec.Decimal

/-- A binary number. A finite one is its significand times a power of two. -/
inductive Binary64 where
  | finite (negative : Bool) (significand : Nat) (exponent : Int)
  | infinite (negative : Bool)
  | undefined
  deriving DecidableEq, Repr

/-- A quotient rounded to the nearest whole number; a tie goes to the even one. -/
def roundQuotient (n d : Nat) : Nat :=
  let q := n / d
  let r := n % d
  if d < 2 * r ∨ (2 * r = d ∧ q % 2 = 1) then q + 1 else q

structure Fraction where
  num : Nat
  den : Nat
  deriving DecidableEq, Repr

def Fraction.scale (f : Fraction) (base : Nat) (exponent : Int) : Fraction :=
  if 0 ≤ exponent then ⟨f.num * base.pow exponent.toNat,f.den⟩
  else ⟨f.num,f.den * base.pow (-exponent).toNat⟩

def Fraction.inUnits (f : Fraction) (exponent : Int) : Nat :=
  let g := f.scale 2 (-exponent)
  roundQuotient g.num g.den

def leastExponent : Int := -1074

def greatestExponent : Int := 971

/-- The least significand of 53 bits. -/
def leadingBit : Nat := 0x10000000000000

namespace Binary64

/-- A number with this significand, which may have one bit too many. -/
def ofParts (negative : Bool) (significand : Nat) (exponent : Int) : Binary64 :=
  let carried := significand = 2 * leadingBit
  let exponent := if carried then exponent + 1 else exponent
  if greatestExponent < exponent then infinite negative
  else finite negative (if carried then leadingBit else significand) exponent

def ofFraction (negative : Bool) (f : Fraction) : Binary64 :=
  if f.num = 0 then finite negative 0 leastExponent
  else
    let low := Int.ofNat f.num.log2 - Int.ofNat f.den.log2 - 53
    let low := if low < leastExponent then leastExponent else low
    let significand := f.inUnits low
    if significand < 2 * leadingBit then ofParts negative significand low
    else ofParts negative (f.inUnits (low + 1)) (low + 1)

end Binary64

/-! ## Spellings -/

def digitsValue (cs : List Char) : Nat := cs.foldl (fun n c => 10 * n + (c.toNat - 48)) 0

def signedValue : List Char → Int
  | '-' :: cs => -Int.ofNat (digitsValue cs)
  | '+' :: cs => Int.ofNat (digitsValue cs)
  | cs => Int.ofNat (digitsValue cs)

/-- Powers of ten beyond which only zero or infinity is near. -/
def farthestPower : Int := 400

namespace Binary64

def ofDigits (negative : Bool) (digits : List Char) (power : Int) : Binary64 :=
  let digits := digits.dropWhile (· == '0')
  let size := power + Int.ofNat digits.length
  if digits = [] ∨ size < -farthestPower then finite negative 0 leastExponent
  else if farthestPower < size then infinite negative
  else ofFraction negative (Fraction.scale ⟨digitsValue digits,1⟩ 10 power)

def ofUnsigned (negative : Bool) (cs : List Char) : Binary64 :=
  let (mantissa, exponent) := cs.span fun c => c ≠ 'e' ∧ c ≠ 'E'
  let (whole, fraction) := mantissa.span (· ≠ '.')
  let fraction := fraction.drop 1
  ofDigits negative (whole ++ fraction) (signedValue (exponent.drop 1) - Int.ofNat fraction.length)

def ofSpelling (spelling : String) : Binary64 :=
  if spelling = "NaN" then undefined
  else if spelling = "Infinity" then infinite false
  else if spelling = "-Infinity" then infinite true
  else
    match spelling.toList with
    | '-' :: cs => ofUnsigned true cs
    | cs => ofUnsigned false cs

def isZero : Binary64 → Bool
  | finite _ significand _ => significand == 0
  | _ => false

def whole (negative : Bool) (significand : Nat) (exponent : Int) : Int :=
  let f := Fraction.scale ⟨significand,1⟩ 2 exponent
  let n := Int.ofNat (f.num / f.den)
  if negative then -n else n

end Binary64

end SchemaCodec.Decimal
