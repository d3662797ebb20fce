import SchemaCodec.Plugin.Answer
import SchemaCodec.Text.Utf8
import SchemaCodec.Wire.Record

/-! # Requests and answers on the wire

The encoded form of what a schema compiler and its plugins tell each other. A request is read with
all its descriptors; fields that play no part here are passed over, but where they hold messages
these have to be well formed.
-/
namespace SchemaCodec.Wire
open Text Plugin

def textOf (field : Nat) (records : List Record) : String :=
  match (contents field records).getLast? with
  | some content => decodeUtf8 content
  | none => ""

def textsOf (field : Nat) (records : List Record) : List String :=
  (contents field records).map decodeUtf8

def integerOf (field : Nat) (records : List Record) : Int := (lastInteger? field records).getD 0

/-- The last value of a field whose numbers stand for the values of a type; numbers that stand for
none are passed over. -/
def chosen? {α : Type} (ofNumber? : Int → Option α) (field : Nat) (records : List Record) :
    Option α :=
  ((numbers field records).filterMap fun n => ofNumber? (signed32 n)).getLast?

def repeatedOf {α : Type} (read : List Record → Option α) (field : Nat) (records : List Record) :
    Option (List α) :=
  (contents field records).mapM fun content => do read (← readRecords content)

def check (fields : List Nat) (records : List Record) : Option Unit :=
  if holdMessages fields records then some () else none

def readField (rs : List Record) : Option Descriptor.Field := do
  check [8] rs
  some
    { name := textOf 1 rs
      number := integerOf 3 rs
      label := (chosen? Descriptor.Label.ofNumber? 4 rs).getD .optional
      sort := (chosen? Descriptor.FieldSort.ofNumber? 5 rs).getD (.scalar .double)
      typeName := textOf 6 rs
      oneofIndex := lastInteger? 9 rs
      proto3Optional := lastFlag 17 rs }

def readValue (rs : List Record) : Option Descriptor.Value := do
  check [3] rs
  some ⟨textOf 1 rs,integerOf 2 rs⟩

def readEnum (rs : List Record) : Option Descriptor.Enum := do
  check [3, 4] rs
  some ⟨textOf 1 rs,← repeatedOf readValue 2 rs⟩

def readOneof (rs : List Record) : Option String := do
  check [2] rs
  some (textOf 1 rs)

def readLocation (rs : List Record) : Option Descriptor.Location := do
  let path ← integers 1 rs
  let _ ← integers 2 rs
  some ⟨path,textOf 3 rs,textOf 4 rs⟩

/-- A message that is nested less deep than the given bound. -/
def readMessage : Nat → List Record → Option Descriptor.Message
  | 0, _ => none
  | depth + 1, rs => do
    check [5, 6, 9] rs
    let fields ← repeatedOf readField 2 rs
    let nested ← repeatedOf (readMessage depth) 3 rs
    let enums ← repeatedOf readEnum 4 rs
    let options ← merged 7 rs
    let oneofs ← repeatedOf readOneof 8 rs
    some ⟨textOf 1 rs,fields,nested,enums,oneofs,lastFlag 7 options⟩

/-- A bound on nesting that is part of the format. -/
def maxDepth : Nat := 100

def readFile (rs : List Record) : Option Descriptor.File := do
  check [6, 7, 8] rs
  let messages ← repeatedOf (readMessage (maxDepth - 1)) 4 rs
  let enums ← repeatedOf readEnum 5 rs
  let locations ← repeatedOf readLocation 1 (← merged 9 rs)
  some ⟨textOf 1 rs,textOf 2 rs,textsOf 3 rs,messages,enums,locations⟩

def readRequest (bytes : Bytes) : Option Request := do
  let rs ← readRecords bytes
  check [3, 17] rs
  some ⟨textsOf 1 rs,textOf 2 rs,← repeatedOf readFile 15 rs⟩

def writeFile (f : AnsweredFile) : Bytes :=
  writeBytesRecord 1 (encodeUtf8 f.name) ++ writeBytesRecord 15 (encodeUtf8 f.content)

def writeAnswer (a : Answer) : Bytes :=
  (match a.error with
    | some reason => writeBytesRecord 1 (encodeUtf8 reason)
    | none => [])
    ++ writeNumberRecord 2 a.supportedFeatures
    ++ a.files.flatMap fun f => writeBytesRecord 15 (writeFile f)

end SchemaCodec.Wire
