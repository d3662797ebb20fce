/-! # Records on the wire

An encoded message is a sequence of records, each a field number with a payload. The number and the
kind of payload share one base-128 number in front. Groups of records between two marks are read
and dropped, for no message of today's schemas has any.
-/
namespace SchemaCodec.Wire

abbrev Bytes := List UInt8

inductive Payload where
  | number (value : Nat)
  | bytes (content : Bytes)
  | other
  deriving DecidableEq, Repr

structure Record where
  field : Nat
  payload : Payload
  deriving DecidableEq, Repr

def readDigits : Nat → Bytes → Option (Nat × Bytes)
  | 0, _ | _ + 1, [] => none
  | n + 1, b :: rest =>
    if b.toNat < 128 then some (b.toNat, rest)
    else do
      let (high, rest) ← readDigits n rest
      some (b.toNat - 128 + 128 * high, rest)

/-- A number of 64 bits; bits beyond them are lost. -/
def readNumber (bytes : Bytes) : Option (Nat × Bytes) := do
  let (n, rest) ← readDigits 10 bytes
  some (n % 0x10000000000000000, rest)

/-- The front of a record: its field, which is not zero, and the code of its kind. -/
def readTag (bytes : Bytes) : Option (Nat × Nat × Bytes) := do
  let (tag, rest) ← readDigits 5 bytes
  if tag < 8 ∨ 0x100000000 ≤ tag then none else some (tag / 8, tag % 8, rest)

def takeBytes (n : Nat) (bytes : Bytes) : Option (Bytes × Bytes) :=
  if n ≤ bytes.length then some (bytes.splitAt n) else none

inductive Item where
  | record (r : Record)
  | opening (field : Nat)
  | closing (field : Nat)
  deriving DecidableEq, Repr

def readItem (bytes : Bytes) : Option (Item × Bytes) := do
  let (field, kind, rest) ← readTag bytes
  match kind with
  | 0 => do
    let (n, rest) ← readNumber rest
    some (.record ⟨field,.number n⟩, rest)
  | 1 => do
    let (_, rest) ← takeBytes 8 rest
    some (.record ⟨field,.other⟩, rest)
  | 2 => do
    let (n, rest) ← readNumber rest
    let (content, rest) ← takeBytes n rest
    some (.record ⟨field,.bytes content⟩, rest)
  | 3 => some (.opening field, rest)
  | 4 => some (.closing field, rest)
  | 5 => do
    let (_, rest) ← takeBytes 4 rest
    some (.record ⟨field,.other⟩, rest)
  | _ => none

/-- The records of a message inside some open groups, the innermost first. Every item takes up at
least one byte, which bounds their number. -/
def readItems : Nat → List Nat → Bytes → Option (List Record)
  | _, [], [] => some []
  | _, _ :: _, [] | 0, _, _ :: _ => none
  | n + 1, groups, b :: bytes => do
    let (item, rest) ← readItem (b :: bytes)
    match item, groups with
    | .record r, [] => do some (r :: (← readItems n [] rest))
    | .record _, group :: groups => readItems n (group :: groups) rest
    | .opening field, groups => readItems n (field :: groups) rest
    | .closing field, group :: groups => if field = group then readItems n groups rest else none
    | .closing _, [] => none

def readRecords (bytes : Bytes) : Option (List Record) := readItems bytes.length [] bytes

/-! ## Looking at the records of a message -/

def numbers (field : Nat) (records : List Record) : List Nat :=
  records.filterMap fun r =>
    match r.payload with
    | .number n => if r.field = field then some n else none
    | _ => none

def contents (field : Nat) (records : List Record) : List Bytes :=
  records.filterMap fun r =>
    match r.payload with
    | .bytes content => if r.field = field then some content else none
    | _ => none

/-- The integer of 32 bits that a number stands for. -/
def signed32 (n : Nat) : Int := (Int.ofNat n).bmod 0x100000000

def lastInteger? (field : Nat) (records : List Record) : Option Int :=
  (numbers field records).getLast?.map signed32

def lastFlag (field : Nat) (records : List Record) : Bool :=
  match (numbers field records).getLast? with
  | some n => n ≠ 0
  | none => false

def readPacked : Nat → Bytes → Option (List Int)
  | _, [] => some []
  | 0, _ :: _ => none
  | n + 1, b :: bytes => do
    let (value, rest) ← readNumber (b :: bytes)
    some (signed32 value :: (← readPacked n rest))

/-- The integers of a repeated field, whether they have a record each or are packed in one. -/
def integers (field : Nat) (records : List Record) : Option (List Int) := do
  let parts ← (records.filter (·.field = field)).mapM fun r =>
    match r.payload with
    | .number n => some [signed32 n]
    | .bytes content => readPacked content.length content
    | .other => some []
  some parts.flatten

/-- The records of a field that holds one message; what it is given in parts is merged. -/
def merged (field : Nat) (records : List Record) : Option (List Record) := do
  some (← (contents field records).mapM readRecords).flatten

def holdMessages (fields : List Nat) (records : List Record) : Bool :=
  fields.all fun field => (merged field records).isSome

/-! ## Writing records -/

def writeNumber (n : Nat) : Bytes :=
  if n < 128 then [UInt8.ofNat n] else UInt8.ofNat (n % 128 + 128) :: writeNumber (n / 128)
termination_by n
decreasing_by omega

def writeNumberRecord (field value : Nat) : Bytes :=
  writeNumber (field * 8) ++ writeNumber value

def writeBytesRecord (field : Nat) (content : Bytes) : Bytes :=
  writeNumber (field * 8 + 2) ++ writeNumber content.length ++ content

end SchemaCodec.Wire
