import SchemaCodec.Json.Basic
import SchemaCodec.Text.Radix

/-! # Reading JSON

A document is one value with blanks around it. Of members that share a name the last one counts, in
the place of the first. Besides the numbers of the standard, the words for infinities and for an
undefined number are read. A whole number with too many digits ends the reading where it stands.
-/
namespace SchemaCodec.Json
open Text

inductive ReadFault where
  | malformed
  | longNumber
  deriving DecidableEq, Repr

def orMalformed {α : Type} : Option α → Except ReadFault α
  | some a => .ok a
  | none => .error .malformed

def isJsonBlank (c : Char) : Bool := c == ' ' || c == '\t' || c == '\n' || c == '\r'

def skipBlanks (cs : List Char) : List Char := cs.dropWhile isJsonBlank

def readUnit? : List Char → Option (Nat × List Char)
  | a :: b :: c :: d :: rest =>
    if [a, b, c, d].all isHexDigit then some (ofDigits 16 [a, b, c, d], rest) else none
  | _ => none

/-- The character of a unit that is no half of a pair; a lone half is shown as unknown. -/
def charOfUnit (n : Nat) : Char := if n.isValidChar then Char.ofNat n else '\uFFFD'

/-- The character of an escape, whose second half may follow the first, and what comes behind it. -/
def readEscapedUnits? (cs : List Char) : Option (Char × List Char) := do
  let (high, rest) ← readUnit? cs
  if 0xD800 ≤ high ∧ high < 0xDC00 then
    match rest with
    | '\\' :: 'u' :: more =>
      match readUnit? more with
      | some (low, behind) =>
        if 0xDC00 ≤ low ∧ low < 0xE000 then
          some (Char.ofNat (0x10000 + (high - 0xD800) * 0x400 + (low - 0xDC00)), behind)
        else some (charOfUnit high, rest)
      | none => some (charOfUnit high, rest)
    | _ => some (charOfUnit high, rest)
  else some (charOfUnit high, rest)

def simpleEscape? : Char → Option Char
  | '"' => some '"'
  | '\\' => some '\\'
  | '/' => some '/'
  | 'b' => some '\x08'
  | 'f' => some '\x0c'
  | 'n' => some '\n'
  | 'r' => some '\r'
  | 't' => some '\t'
  | _ => none

def readStringRest? : (count : Nat) → List Char → Option (List Char × List Char)
  | 0, _ => none
  | _, [] => none
  | _, '"' :: rest => some ([], rest)
  | count + 1, '\\' :: 'u' :: rest => do
    let (c, rest) ← readEscapedUnits? rest
    let (s, rest) ← readStringRest? count rest
    some (c :: s, rest)
  | count + 1, '\\' :: e :: rest => do
    let c ← simpleEscape? e
    let (s, rest) ← readStringRest? count rest
    some (c :: s, rest)
  | count + 1, c :: rest =>
    if c = '\\' ∨ c.toNat < 0x20 then none
    else do
      let (s, rest) ← readStringRest? count rest
      some (c :: s, rest)

def readString? (cs : List Char) : Option (String × List Char) :=
  (readStringRest? (cs.length + 1) cs).map fun (s, rest) => (String.ofList s, rest)

def digitCount (cs : List Char) : Nat := (cs.takeWhile Char.isDigit).length

/-- The length of a whole number without sign; a zero stands alone. -/
def wholeLength : List Char → Nat
  | '0' :: _ => 1
  | cs => digitCount cs

def fractionLength : List Char → Nat
  | '.' :: rest => if digitCount rest = 0 then 0 else 1 + digitCount rest
  | _ => 0

def exponentLength : List Char → Nat
  | e :: rest =>
    if e = 'e' ∨ e = 'E' then
      let sign := match rest with
        | '+' :: _ | '-' :: _ => 1
        | _ => 0
      let digits := digitCount (rest.drop sign)
      if digits = 0 then 0 else 1 + sign + digits
    else 0
  | [] => 0

/-- Reads a number without sign; `negative` says whether one stood before it. -/
def readNumber (negative : Bool) (cs : List Char) : Except ReadFault (Json × List Char) :=
  let whole := wholeLength cs
  if whole = 0 then .error .malformed
  else
    let fraction := fractionLength (cs.drop whole)
    let exponent := exponentLength (cs.drop (whole + fraction))
    let n := whole + fraction + exponent
    if n = whole then
      match ofDecimal? (cs.take whole) with
      | some value => .ok (int (if negative then -value else value), cs.drop whole)
      | none => .error .longNumber
    else
      let sign := if negative then ['-'] else []
      .ok (decimal (String.ofList (sign ++ cs.take n)), cs.drop n)

def words : List (String × Json) :=
  [("null", null), ("true", bool true), ("false", bool false), ("NaN", decimal "NaN"),
   ("Infinity", decimal "Infinity"), ("-Infinity", decimal "-Infinity")]

def readWord (cs : List Char) : Except ReadFault (Json × List Char) :=
  orMalformed (words.findSome? fun (word, value) =>
    if word.toList.isPrefixOf cs then some (value, cs.drop word.length) else none)

def readNumberOrWord (negative : Bool) (cs : List Char) : Except ReadFault (Json × List Char) :=
  match readNumber negative cs with
  | .error .malformed => readWord (if negative then '-' :: cs else cs)
  | r => r

mutual

def readValue : (depth : Nat) → List Char → Except ReadFault (Json × List Char)
  | 0, _ => .error .malformed
  | depth + 1, cs =>
    match cs with
    | '"' :: rest => (orMalformed (readString? rest)).map fun (s, rest) => (string s, rest)
    | '[' :: rest =>
      match skipBlanks rest with
      | ']' :: rest => .ok (array [], rest)
      | rest => (readItems depth rest).map fun (items, rest) => (array items, rest)
    | '{' :: rest =>
      match skipBlanks rest with
      | '}' :: rest => .ok (object [], rest)
      | rest => (readMembers depth [] rest).map fun (members, rest) => (object members, rest)
    | '-' :: rest => readNumberOrWord true rest
    | cs => readNumberOrWord false cs

def readItems : (depth : Nat) → List Char → Except ReadFault (List Json × List Char)
  | 0, _ => .error .malformed
  | depth + 1, cs => do
    let (item, rest) ← readValue depth cs
    match skipBlanks rest with
    | ']' :: rest => .ok ([item], rest)
    | ',' :: rest => do
      let (items, rest) ← readItems depth (skipBlanks rest)
      .ok (item :: items, rest)
    | _ => .error .malformed

/-- Reads the members of an object up to its end, behind those already read. -/
def readMembers : (depth : Nat) → List (String × Json) → List Char →
    Except ReadFault (List (String × Json) × List Char)
  | 0, _, _ => .error .malformed
  | depth + 1, before, cs =>
    match cs with
    | '"' :: rest => do
      let (name, rest) ← orMalformed (readString? rest)
      match skipBlanks rest with
      | ':' :: rest => do
        let (value, rest) ← readValue depth (skipBlanks rest)
        let members := setMember before name value
        match skipBlanks rest with
        | '}' :: rest => .ok (members, rest)
        | ',' :: rest => readMembers depth members (skipBlanks rest)
        | _ => .error .malformed
      | _ => .error .malformed
    | _ => .error .malformed

end

def read (text : String) : Except ReadFault Json := do
  let (value, rest) ← readValue (text.toList.length + 1) (skipBlanks text.toList)
  if skipBlanks rest = [] then .ok value else .error .malformed

end SchemaCodec.Json
