/-! # Reading UTF-8

Bytes are read as UTF-8, strictly or not. Where they are not UTF-8, the strict reading fails, and in
the other the longest stretch that some character begins with, or else a single byte, is read as one
replacement character.
-/
namespace SchemaCodec.Text

/-- A character that is begun: how many bytes it lacks, the bounds of the next one, and the value of
those read. -/
structure Unfinished where
  lacking : Nat
  low : Nat
  high : Nat
  value : Nat
  deriving DecidableEq, Repr

def replacement : Char := '\uFFFD'

def leadByte (b : Nat) : List Char × Option Unfinished :=
  if b < 0x80 then ([Char.ofNat b], none)
  else if 0xC2 ≤ b ∧ b ≤ 0xDF then ([], some ⟨1,0x80,0xBF,b - 0xC0⟩)
  else if b = 0xE0 then ([], some ⟨2,0xA0,0xBF,0⟩)
  else if b = 0xED then ([], some ⟨2,0x80,0x9F,0xD⟩)
  else if 0xE1 ≤ b ∧ b ≤ 0xEF then ([], some ⟨2,0x80,0xBF,b - 0xE0⟩)
  else if b = 0xF0 then ([], some ⟨3,0x90,0xBF,0⟩)
  else if 0xF1 ≤ b ∧ b ≤ 0xF3 then ([], some ⟨3,0x80,0xBF,b - 0xF0⟩)
  else if b = 0xF4 then ([], some ⟨3,0x80,0x8F,4⟩)
  else ([replacement], none)

def nextByte (u : Unfinished) (b : Nat) : List Char × Option Unfinished :=
  if u.low ≤ b ∧ b ≤ u.high then
    let value := u.value * 64 + (b - 0x80)
    if u.lacking ≤ 1 then ([Char.ofNat value], none)
    else ([], some ⟨u.lacking - 1,0x80,0xBF,value⟩)
  else
    let (out, next) := leadByte b
    (replacement :: out, next)

def decodeFrom : Option Unfinished → List UInt8 → List Char
  | none, [] => []
  | some _, [] => [replacement]
  | none, b :: rest =>
    let (out, next) := leadByte b.toNat
    out ++ decodeFrom next rest
  | some u, b :: rest =>
    let (out, next) := nextByte u b.toNat
    out ++ decodeFrom next rest

/-- The text that bytes hold, with replacement characters. -/
def decodeUtf8 (bytes : List UInt8) : String := String.ofList (decodeFrom none bytes)

def encodeUtf8 (s : String) : List UInt8 := s.toUTF8.toList

/-- The text whose bytes these are, if they are UTF-8. -/
def decodeUtf8? (bytes : List UInt8) : Option String :=
  let text := decodeUtf8 bytes
  if encodeUtf8 text = bytes then some text else none

end SchemaCodec.Text
