import SchemaCodec.Decimal.Binary64

/-! # Shortest decimal text

A finite number is shown with the fewest significant digits that are read back as the same number,
and of several such decimals with the one nearest to it. The decimals of a given number of digits
form a grid; if any point of the grid is read back as the number, one of the two neighbours of the
number is, so only these are tried.
-/
namespace SchemaCodec.Decimal

/-- A decimal: a whole number times a power of ten. -/
structure Grid where
  digits : Nat
  power : Int
  deriving DecidableEq, Repr

/-- The reals that are read as one number, in units of a quarter of its last bit. -/
structure Interval where
  low : Nat
  value : Nat
  high : Nat
  closed : Bool
  exponent : Int
  deriving DecidableEq, Repr

def intervalOf (significand : Nat) (exponent : Int) : Interval :=
  ⟨if significand = leadingBit ∧ leastExponent < exponent then 4 * significand - 1
    else 4 * significand - 2,
    4 * significand,4 * significand + 2,significand % 2 = 0,exponent - 2⟩

def Grid.inUnits (g : Grid) (exponent : Int) : Fraction :=
  (Fraction.scale ⟨g.digits,1⟩ 10 g.power).scale 2 (-exponent)

def Interval.contains (i : Interval) (f : Fraction) : Bool :=
  if i.closed then i.low * f.den ≤ f.num && f.num ≤ i.high * f.den
  else i.low * f.den < f.num && f.num < i.high * f.den

/-- How far a fraction is from the number, in parts of its denominator. -/
def Interval.distance (i : Interval) (f : Fraction) : Nat :=
  (f.num - i.value * f.den) + (i.value * f.den - f.num)

def Interval.fraction (i : Interval) : Fraction := Fraction.scale ⟨i.value,1⟩ 2 i.exponent

def leadingPower (f : Fraction) : Int :=
  let powers := (List.range 640).map fun k => 310 - Int.ofNat k
  (powers.find? fun p =>
    let g := f.scale 10 (-p)
    g.den ≤ g.num).getD (-330)

def neighbour? (i : Interval) (power : Int) : Option Grid :=
  let f := i.fraction.scale 10 (-power)
  let below : Grid := ⟨f.num / f.den,power⟩
  let above : Grid := ⟨f.num / f.den + 1,power⟩
  let b := below.inUnits i.exponent
  let a := above.inUnits i.exponent
  match i.contains b, i.contains a with
  | false, false => none
  | true, false => some below
  | false, true => some above
  | true, true =>
    let near := i.distance b
    let far := i.distance a
    if near < far ∨ (near = far ∧ below.digits % 2 = 0) then some below else some above

/-- The decimal with the fewest digits; seventeen are always enough. -/
def shortest (significand : Nat) (exponent : Int) : Grid :=
  let i := intervalOf significand exponent
  let lead := leadingPower i.fraction
  ((List.range 17).findSome? fun k => neighbour? i (lead - Int.ofNat k)).getD
    ⟨significand,exponent⟩

def significantDigits (n : Nat) : List Char :=
  ((toString n).toList.reverse.dropWhile (· == '0')).reverse

def zeros (n : Nat) : List Char := List.replicate n '0'

def exponentText (e : Int) : List Char :=
  let digits := (toString e.natAbs).toList
  (if e < 0 then '-' else '+') :: zeros (2 - digits.length) ++ digits

/-- Digits whose first one stands at a power of ten: positional from a ten-thousandth up to sixteen
digits before the point, and with an exponent otherwise. -/
def layOut (digits : List Char) (lead : Int) : List Char :=
  if lead < -4 ∨ 16 ≤ lead then
    match digits with
    | [d] => d :: 'e' :: exponentText lead
    | ds => ds.take 1 ++ '.' :: ds.drop 1 ++ 'e' :: exponentText lead
  else if lead < 0 then '0' :: '.' :: zeros ((-lead).toNat - 1) ++ digits
  else
    let n := lead.toNat + 1
    let whole := digits.take n ++ zeros (n - digits.length)
    let fraction := digits.drop n
    whole ++ '.' :: (if fraction = [] then ['0'] else fraction)

namespace Binary64

def text : Binary64 → String
  | undefined => "nan"
  | infinite negative => if negative then "-inf" else "inf"
  | finite negative significand exponent =>
    let body :=
      if significand = 0 then ['0', '.', '0']
      else
        let g := shortest significand exponent
        let lead := g.power + Int.ofNat (toString g.digits).length - 1
        layOut (significantDigits g.digits) lead
    String.ofList (if negative then '-' :: body else body)

end Binary64

end SchemaCodec.Decimal
