import SchemaCodec.Text.CharacterName
import SchemaCodec.Text.Radix

/-! # Escapes

A backslash in a literal and what follows it stand for another character: a letter for a control, a
number in base eight or sixteen for the character with that code point, a name in braces behind an
`N` for the character of that name. An escape that lacks digits, or names no character, leaves the
literal without a value, and an unknown one stands for itself.
-/
namespace SchemaCodec.Text

/-- The character of a code point; one that stands for no character is shown as unknown. -/
def charOf (n : Nat) : Char := if n.isValidChar then Char.ofNat n else '\uFFFD'

def simpleEscape? : Char → Option Char
  | '\\' => some '\\'
  | '\'' => some '\''
  | '"' => some '"'
  | 'a' => some '\x07'
  | 'b' => some '\x08'
  | 'f' => some '\x0c'
  | 'n' => some '\n'
  | 'r' => some '\r'
  | 't' => some '\t'
  | 'v' => some '\x0b'
  | _ => none

def hexWidth? : Char → Option Nat
  | 'x' => some 2
  | 'u' => some 4
  | 'U' => some 8
  | _ => none

def hexEscape? (width : Nat) (cs : List Char) : Option Nat :=
  let digits := cs.take width
  if digits.length = width ∧ digits.all isHexDigit ∧ ofDigits 16 digits < 0x110000 then
    some (ofDigits 16 digits)
  else none

def bracedName? : List Char → Option (List Char)
  | '\x7b' :: rest =>
    let name := rest.takeWhile (· ≠ '\x7d')
    if name.length < rest.length then some name else none
  | _ => none

/-- The text with its escapes replaced. An unknown escape stands for itself, and a backslash before
a line end joins two lines. -/
def unescape? : List Char → Option (List Char)
  | [] => some []
  | ['\\'] => none
  | '\\' :: c :: rest =>
    match simpleEscape? c, hexWidth? c with
    | some d, _ => (unescape? rest).map (d :: ·)
    | none, some width =>
      match hexEscape? width rest with
      | some n => (unescape? (rest.drop width)).map (charOf n :: ·)
      | none => none
    | none, none =>
      if c = '\r' ∨ c = '\n' then unescape? rest
      else if c = '\x00' then none
      else if c = 'N' then
        match bracedName? rest with
        | none => none
        | some name =>
          match characterNamed? name with
          | some d => (unescape? (rest.drop (name.length + 2))).map (d :: ·)
          | none => none
      else if isOctalDigit c then
        let more := (rest.take 2).takeWhile isOctalDigit
        (unescape? (rest.drop more.length)).map (charOf (ofDigits 8 (c :: more)) :: ·)
      else (unescape? rest).map fun out => '\\' :: c :: out
  | c :: rest => if c = '\r' ∨ c = '\x00' then none else (unescape? rest).map (c :: ·)
termination_by cs => cs.length
decreasing_by all_goals simp +arith

end SchemaCodec.Text
