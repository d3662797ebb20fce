import SchemaCodec.Text.Radix

/-! # Tokens of the schema language

What each kind of token looks like at the start of a text, given as the number of characters that
it takes there; zero means that it does not match. Blanks and comments stand between tokens and are
skipped. Which token is read depends on which ones are acceptable: a word counts as a keyword only
when that keyword is acceptable, and where no other word is, a keyword may be followed by anything.
-/
namespace SchemaCodec.Grammar
open Text

inductive Keyword where
  | syntaxKw | packageKw | importKw | publicKw | weakKw | optionKw | messageKw | enumKw
  | repeatedKw | optionalKw | requiredKw | mapKw | oneofKw | reservedKw | toKw | maxKw
  deriving DecidableEq, Repr

def Keyword.spelling : Keyword → String
  | syntaxKw => "syntax" | packageKw => "package" | importKw => "import" | publicKw => "public"
  | weakKw => "weak" | optionKw => "option" | messageKw => "message" | enumKw => "enum"
  | repeatedKw => "repeated" | optionalKw => "optional" | requiredKw => "required"
  | mapKw => "map" | oneofKw => "oneof" | reservedKw => "reserved" | toKw => "to" | maxKw => "max"

inductive Mark where
  | semicolon | equals | openBrace | closeBrace | openAngle | closeAngle | openBracket
  | closeBracket | openParen | closeParen | comma | dot | minus | plus
  deriving DecidableEq, Repr

def Mark.spelling : Mark → Char
  | semicolon => ';' | equals => '=' | openBrace => '{' | closeBrace => '}' | openAngle => '<'
  | closeAngle => '>' | openBracket => '[' | closeBracket => ']' | openParen => '('
  | closeParen => ')' | comma => ',' | dot => '.' | minus => '-' | plus => '+'

inductive Terminal where
  | keyword (k : Keyword)
  | mark (m : Mark)
  | word
  | int
  | float
  | text
  deriving DecidableEq, Repr

def isWordStart (c : Char) : Bool := c.isAlpha || c == '_'

def isWordPart (c : Char) : Bool := c.isAlphanum || c == '_'

def wordLength : List Char → Nat
  | c :: rest => if isWordStart c then 1 + (rest.takeWhile isWordPart).length else 0
  | [] => 0

def digitsLength (cs : List Char) : Nat := (cs.takeWhile Char.isDigit).length

/-- A hexadecimal number after its mark, or a run of decimal digits. -/
def intLength : List Char → Nat
  | '0' :: x :: rest =>
    let digits := (rest.takeWhile isHexDigit).length
    if (x == 'x' || x == 'X') && 0 < digits then 2 + digits else digitsLength ('0' :: x :: rest)
  | cs => digitsLength cs

def exponentLength : List Char → Nat
  | e :: rest =>
    if e == 'e' || e == 'E' then
      let sign := match rest with
        | s :: _ => if s == '+' || s == '-' then 1 else 0
        | [] => 0
      let digits := digitsLength (rest.drop sign)
      if digits = 0 then 0 else 1 + sign + digits
    else 0
  | [] => 0

/-- Digits, and a point with more digits and an exponent, or an exponent alone. -/
def floatLength (cs : List Char) : Nat :=
  let whole := digitsLength cs
  if whole = 0 then 0
  else match cs.drop whole with
    | '.' :: rest =>
      let fraction := digitsLength rest
      whole + 1 + fraction + exponentLength (rest.drop fraction)
    | rest =>
      let exponent := exponentLength rest
      if exponent = 0 then 0 else whole + exponent

/-- The length of what follows an opening quote, up to and with the closing one. -/
def quotedLength? (quote : Char) : List Char → Option Nat
  | [] => none
  | '\\' :: c :: rest => if c = '\n' then none else (quotedLength? quote rest).map (· + 2)
  | c :: rest =>
    if c = quote then some 1
    else if c = '\n' || c = '\\' then none
    else (quotedLength? quote rest).map (· + 1)

def textLength : List Char → Nat
  | c :: rest =>
    if c = '"' || c = '\'' then ((quotedLength? c rest).map (· + 1)).getD 0 else 0
  | [] => 0

def keywordLength (k : Keyword) (cs : List Char) : Nat :=
  if k.spelling.toList.isPrefixOf cs then k.spelling.length else 0

def markLength (m : Mark) (cs : List Char) : Nat := if cs.head? = some m.spelling then 1 else 0

def Terminal.length : Terminal → List Char → Nat
  | keyword k => keywordLength k
  | mark m => markLength m
  | word => wordLength
  | int => intLength
  | float => floatLength
  | text => textLength

def keywordOf? (acceptable : List Terminal) (word : List Char) : Option Keyword :=
  acceptable.findSome? fun
    | .keyword k => if k.spelling.toList = word then some k else none
    | _ => none

/-- The terminal read at the start of a text, and its length. A number with a point or an exponent
comes before one without; where words are acceptable a keyword has to be a whole word. -/
def recognize (acceptable : List Terminal) (cs : List Char) : Option (Terminal × Nat) :=
  let matching := acceptable.filter fun t => 0 < t.length cs
  if .float ∈ matching then some (.float, floatLength cs)
  else if .word ∈ matching then
    let n := wordLength cs
    match keywordOf? acceptable (cs.take n) with
    | some k => some (.keyword k, n)
    | none => some (.word, n)
  else matching.head?.map fun t => (t, t.length cs)

/-- Space, tab, form feed, carriage return and line feed. -/
def isSpace (c : Char) : Bool := c == ' ' || c == '\t' || c == '\x0c' || c == '\r' || c == '\n'

def blockLength? : List Char → Option Nat
  | [] => none
  | '*' :: '/' :: _ => some 2
  | _ :: rest => (blockLength? rest).map (· + 1)

def ignoredLength : List Char → Nat
  | '/' :: '/' :: rest => 2 + (rest.takeWhile (· ≠ '\n')).length
  | '/' :: '*' :: rest => ((blockLength? rest).map (· + 2)).getD 0
  | cs => (cs.takeWhile isSpace).length

structure Position where
  line : Nat
  column : Nat
  deriving DecidableEq, Repr, Inhabited

namespace Position

def start : Position := ⟨1,1⟩

/-- The place after a character; only a line feed opens a line. -/
def step (p : Position) (c : Char) : Position :=
  if c = '\n' then ⟨p.line + 1,1⟩ else ⟨p.line,p.column + 1⟩

def after (p : Position) (cs : List Char) : Position := cs.foldl step p

end Position

structure Cursor where
  rest : List Char
  position : Position
  deriving Repr

namespace Cursor

def ofText (text : List Char) : Cursor := ⟨text,.start⟩

def advance (c : Cursor) (n : Nat) : Cursor :=
  ⟨c.rest.drop n,c.position.after (c.rest.take n)⟩

theorem length_advance (c : Cursor) (n : Nat) :
    (c.advance n).rest.length = c.rest.length - n := by
  simp [advance]

def skip (c : Cursor) : Cursor :=
  let n := ignoredLength c.rest
  if n = 0 ∨ c.rest = [] then c else (c.advance n).skip
termination_by c.rest.length
decreasing_by
  rename_i h
  rw [length_advance]
  have : 0 < c.rest.length := List.length_pos_iff.mpr fun e => h (Or.inr e)
  omega

theorem length_skip_le (c : Cursor) : c.skip.rest.length ≤ c.rest.length := by
  fun_induction skip c with
  | case1 => exact Nat.le_refl _
  | case2 c _ _ ih => rw [length_advance] at ih; omega

end Cursor

structure Token where
  terminal : Terminal
  text : String
  position : Position
  deriving DecidableEq, Repr

def Cursor.next? (c : Cursor) (acceptable : List Terminal) : Option (Token × Cursor) :=
  match recognize acceptable c.rest with
  | none => none
  | some (t, n) =>
    if n = 0 then none
    else some (⟨t,String.ofList (c.rest.take n),c.position⟩, c.advance n)

/-- A token is what is recognized, with its text and its place. -/
theorem Cursor.next?_eq_some {c d : Cursor} {acceptable : List Terminal} {t : Token}
    (h : c.next? acceptable = some (t, d)) : ∃ u n, recognize acceptable c.rest = some (u, n) ∧
      n ≠ 0 ∧ t = ⟨u,String.ofList (c.rest.take n),c.position⟩ ∧ d = c.advance n := by
  unfold Cursor.next? at h
  split at h
  · cases h
  · rename_i u n hu
    split at h <;> cases h
    exact ⟨u,n,hu,‹_›,rfl,rfl⟩

theorem Cursor.length_next? {c d : Cursor} {acceptable : List Terminal} {t : Token}
    (hne : c.rest ≠ []) (h : c.next? acceptable = some (t, d)) :
    d.rest.length < c.rest.length := by
  obtain ⟨_,_,-,hn,-,rfl⟩ := Cursor.next?_eq_some h
  have hpos : 0 < c.rest.length := List.length_pos_iff.mpr hne
  rw [Cursor.length_advance]
  omega

end SchemaCodec.Grammar
