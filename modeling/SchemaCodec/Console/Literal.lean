import SchemaCodec.Text.Escape

/-! # Literals of handlers

The parameter of a handler is a literal: a number, a text, a truth value or a collection of
literals, with blanks and comments in between. A sign may stand before a number, and a real and an
imaginary number may be added or subtracted once. Keys, and the members of a set, cannot be or hold
sets and dictionaries. Only whether a parameter is a literal matters here, and of what sort.
-/
namespace SchemaCodec.Console
open Text

inductive LiteralSort where
  | real | imaginary | signedReal | plain | collection
  deriving DecidableEq, Repr

abbrev ReadLiteral := Option (LiteralSort × List Char)

/-- Leaves out what may stand between parts; `inside` brackets line ends and comments may. -/
def skipBetween (inside : Bool) : (count : Nat) → List Char → List Char
  | 0, cs => cs
  | count + 1, cs =>
    match cs with
    | ' ' :: rest | '\t' :: rest | '\x0c' :: rest => skipBetween inside count rest
    | '\\' :: '\n' :: c :: rest => skipBetween inside count (c :: rest)
    | '\n' :: rest => if inside then skipBetween inside count rest else cs
    | '#' :: rest =>
      if inside then skipBetween inside count (rest.dropWhile (· ≠ '\n')) else cs
    | _ => cs

def skip (inside : Bool) (cs : List Char) : List Char := skipBetween inside cs.length cs

/-! ## Numbers -/

/-- Digits of a kind with single underscores between them, and what follows. -/
def readDigits (isDigit : Char → Bool) : List Char → List Char × List Char
  | '_' :: c :: rest =>
    if isDigit c then
      let (digits, rest) := readDigits isDigit rest
      (c :: digits, rest)
    else ([], '_' :: c :: rest)
  | c :: rest =>
    if isDigit c then
      let (digits, rest) := readDigits isDigit rest
      (c :: digits, rest)
    else ([], c :: rest)
  | [] => ([], [])

def readDigitPart (cs : List Char) : List Char × List Char :=
  match cs with
  | '_' :: _ => ([], cs)
  | _ => readDigits Char.isDigit cs

def afterExponent? : List Char → Option (List Char)
  | e :: rest =>
    if e = 'e' ∨ e = 'E' then
      let rest := match rest with
        | '+' :: more | '-' :: more => more
        | _ => rest
      match readDigitPart rest with
      | ([], _) => none
      | (_, behind) => some behind
    else none
  | [] => none

def endNumber (sort : LiteralSort) : List Char → LiteralSort × List Char
  | c :: rest => if c = 'j' ∨ c = 'J' then (.imaginary, rest) else (sort, c :: rest)
  | [] => (sort, [])

def readDecimal? (cs : List Char) : ReadLiteral :=
  let (whole, rest) := readDigitPart cs
  let (pointed, fraction, rest) := match rest with
    | '.' :: more => let (f, more) := readDigitPart more; (true, f, more)
    | _ => (false, [], rest)
  if whole = [] ∧ fraction = [] then none
  else
    match afterExponent? rest with
    | some behind => some (endNumber .real behind)
    | none =>
      match endNumber .real rest with
      | (.imaginary, behind) => some (.imaginary, behind)
      | (_, behind) =>
        if pointed ∨ whole.all (· = '0') then some (.real, behind)
        else if whole.head? = some '0' ∨ digitLimit < whole.length then none
        else some (.real, behind)

def baseDigit? (c : Char) : Option (Char → Bool) :=
  if c = 'x' ∨ c = 'X' then some isHexDigit
  else if c = 'o' ∨ c = 'O' then some isOctalDigit
  else if c = 'b' ∨ c = 'B' then some isBinaryDigit
  else none

def readNumber? (cs : List Char) : ReadLiteral :=
  match cs with
  | '0' :: c :: rest =>
    match baseDigit? c with
    | some isDigit =>
      match readDigits isDigit rest with
      | ([], _) => none
      | (_, behind) => some (.real, behind)
    | none => readDecimal? cs
  | _ => readDecimal? cs

/-! ## Texts -/

structure TextFront where
  bytes : Bool
  raw : Bool

def textFront? (letters : List Char) : Option TextFront :=
  match String.ofList (letters.map Char.toLower) with
  | "" | "u" => some ⟨false,false⟩
  | "r" => some ⟨false,true⟩
  | "b" => some ⟨true,false⟩
  | "br" | "rb" => some ⟨true,true⟩
  | _ => none

/-- What stands before the closing quote, which is `width` quotes long, and what follows it. -/
def readBody? (quote : Char) (width : Nat) : List Char → Option (List Char × List Char)
  | [] => none
  | '\\' :: c :: rest => do
    let (body, behind) ← readBody? quote width rest
    some ('\\' :: c :: body, behind)
  | c :: rest =>
    if (List.replicate width quote).isPrefixOf (c :: rest) then some ([], rest.drop (width - 1))
    else if c = '\n' ∧ width = 1 then none
    else do
      let (body, behind) ← readBody? quote width rest
      some (c :: body, behind)

def bytesEscaped : List Char → Bool
  | '\\' :: 'x' :: rest => (hexEscape? 2 rest).isSome && bytesEscaped rest
  | '\\' :: _ :: rest => bytesEscaped rest
  | _ :: rest => bytesEscaped rest
  | [] => true

def isBody (front : TextFront) (body : List Char) : Bool :=
  if front.bytes then body.all (fun c => c.toNat < 128) && (front.raw || bytesEscaped body)
  else front.raw || (unescape? body).isSome

def readQuoted? (front : TextFront) (cs : List Char) : Option (List Char) := do
  let (quote, rest) ← match cs with
    | '\'' :: rest => some ('\'', rest)
    | '"' :: rest => some ('"', rest)
    | _ => none
  let width := if [quote, quote].isPrefixOf rest then 3 else 1
  let (body, behind) ← readBody? quote width (rest.drop (width - 1))
  if isBody front body then some behind else none

def readText? (cs : List Char) : Option (Bool × List Char) := do
  let (letters, rest) := cs.span Char.isAlpha
  let front ← textFront? letters
  some (front.bytes, ← readQuoted? front rest)

/-- What follows texts that stand one behind the other, all of bytes or none. -/
def readTexts? (inside bytes : Bool) : (count : Nat) → List Char → Option (List Char)
  | 0, _ => none
  | count + 1, cs =>
    let (letters, rest) := (skip inside cs).span Char.isAlpha
    match textFront? letters, rest with
    | some front, c :: _ =>
      if c = '\'' ∨ c = '"' then
        if front.bytes = bytes then
          match readQuoted? front rest with
          | some behind => readTexts? inside bytes count behind
          | none => none
        else none
      else some cs
    | _, _ => some cs

/-! ## Literals -/

def isNamePart (c : Char) : Bool := c.isAlphanum || c == '_'

def readWord? (inside : Bool) (cs : List Char) : ReadLiteral :=
  let (word, rest) := cs.span isNamePart
  match String.ofList word with
  | "None" | "True" | "False" => some (.plain, rest)
  | "set" =>
    match skip inside rest with
    | '(' :: more =>
      match skip true more with
      | ')' :: behind => some (.collection, behind)
      | _ => none
    | _ => none
  | _ => none

def readSimple? (inside : Bool) (cs : List Char) : ReadLiteral :=
  match cs with
  | '.' :: '.' :: '.' :: rest => some (.plain, rest)
  | c :: _ =>
    if c.isDigit ∨ c = '.' then readNumber? cs
    else
      match readText? cs with
      | some (bytes, behind) =>
        (readTexts? inside bytes (behind.length + 1) behind).map fun rest => (.plain, rest)
      | none => readWord? inside cs
  | [] => none

def sign? : Char → Bool
  | '+' | '-' => true
  | _ => false

def tupleSort (sorts : List LiteralSort) : LiteralSort :=
  if sorts.contains .collection then .collection else .plain

mutual

def readAtom? (inside : Bool) : (fuel : Nat) → List Char → ReadLiteral
  | 0, _ => none
  | fuel + 1, cs =>
    match cs with
    | '(' :: rest =>
      match skip true rest with
      | ')' :: behind => some (.plain, behind)
      | rest => do
        let (sort, rest) ← readSum? true fuel rest
        match skip true rest with
        | ')' :: behind => some (sort, behind)
        | ',' :: rest => do
          let (sorts, rest) ← readMembers? true fuel rest
          match rest with
          | ')' :: behind => some (tupleSort (sort :: sorts), behind)
          | _ => none
        | _ => none
    | '\x7b' :: rest =>
      match skip true rest with
      | '\x7d' :: behind => some (.collection, behind)
      | rest => do
        let (sort, rest) ← readSum? true fuel rest
        if sort = .collection then none
        else
          match skip true rest with
          | ':' :: rest => readEntries? fuel rest
          | ',' :: rest => do
            let (sorts, rest) ← readMembers? true fuel rest
            match rest with
            | '\x7d' :: behind =>
              if sorts.contains .collection then none else some (.collection, behind)
            | _ => none
          | '\x7d' :: behind => some (.collection, behind)
          | _ => none
    | cs => readSimple? inside cs

def readSigned? (inside : Bool) : (fuel : Nat) → List Char → ReadLiteral
  | 0, _ => none
  | fuel + 1, cs =>
    match cs with
    | c :: rest =>
      if sign? c then
        match readAtom? inside fuel (skip inside rest) with
        | some (.real, rest) => some (.signedReal, rest)
        | some (.imaginary, rest) => some (.plain, rest)
        | _ => none
      else readAtom? inside fuel cs
    | [] => none

/-- A literal, or a real number with an imaginary one added to it or subtracted from it. -/
def readSum? (inside : Bool) : (fuel : Nat) → List Char → ReadLiteral
  | 0, _ => none
  | fuel + 1, cs => do
    let (sort, rest) ← readSigned? inside fuel (skip inside cs)
    match skip inside rest with
    | c :: more =>
      if sign? c then
        match sort, readAtom? inside fuel (skip inside more) with
        | .real, some (.imaginary, rest) | .signedReal, some (.imaginary, rest) =>
          some (.plain, rest)
        | _, _ => none
      else some (sort, rest)
    | [] => some (sort, rest)

/-- Literals with commas between them and perhaps one behind the last, up to something else. -/
def readMembers? (inside : Bool) : (fuel : Nat) → List Char →
    Option (List LiteralSort × List Char)
  | 0, _ => none
  | fuel + 1, cs =>
    match skip inside cs with
    | [] => some ([], [])
    | c :: rest =>
      if c = ')' ∨ c = '\x7d' ∨ c = '\n' ∨ c = '#' then some ([], c :: rest)
      else do
        let (sort, rest) ← readSum? inside fuel (c :: rest)
        match skip inside rest with
        | ',' :: rest => do
          let (sorts, rest) ← readMembers? inside fuel rest
          some (sort :: sorts, rest)
        | rest => some ([sort], rest)

def readEntries? : (fuel : Nat) → List Char → ReadLiteral
  | 0, _ => none
  | fuel + 1, cs => do
    let (_, rest) ← readSum? true fuel cs
    match skip true rest with
    | '\x7d' :: behind => some (.collection, behind)
    | ',' :: rest =>
      match skip true rest with
      | '\x7d' :: behind => some (.collection, behind)
      | rest => do
        let (key, rest) ← readSum? true fuel rest
        if key = .collection then none
        else
          match skip true rest with
          | ':' :: rest => readEntries? fuel rest
          | _ => none
    | _ => none

end

def isRemainder (cs : List Char) : Bool :=
  match cs with
  | [] => true
  | '\n' :: _ | '#' :: _ => skip true cs == []
  | _ => false

def unifyLines : List Char → List Char
  | '\r' :: '\n' :: rest => '\n' :: unifyLines rest
  | c :: rest => (if c = '\r' then '\n' else c) :: unifyLines rest
  | [] => []

/-- Whether a text is a literal; a tuple needs no brackets. -/
def isLiteral (text : List Char) : Bool :=
  let cs := unifyLines text
  if '\x00' ∈ cs then false
  else
    match readSum? false (4 * cs.length + 4) cs with
    | none => false
    | some (_, rest) =>
      match skip false rest with
      | ',' :: rest =>
        match readMembers? false (4 * cs.length + 4) rest with
        | some (_, rest) => isRemainder (skip false rest)
        | none => false
      | rest => isRemainder rest

/-- Whether a parameter is that of a handler: a name with dots, a literal in brackets behind a name,
or a literal. -/
def isHandler (isWordPart : Char → Bool) (parameter : List Char) : Bool :=
  match parameter.dropWhile fun c => isWordPart c || c == '.' with
  | [] => true
  | rest =>
    if rest.head? = some '(' ∧ rest.getLast? = some ')' ∧ '\n' ∉ rest then isLiteral rest
    else isLiteral parameter

end SchemaCodec.Console
