import Mathlib.Data.List.Basic
import SchemaCodec.Codec.Reader
import SchemaCodec.Codec.Writer

/-! # Wire steps of generated code

What lines of generated code do on the wire, read off their text. A line of encode code begins with
the runtime's call, or sends a value to a message's own method; a line of decode code may hand the
result of a call on in any way. The steps that a kind asks for are given beside it.
-/
namespace SchemaCodec.Codec

/-- What a line of codec code does on the wire. -/
inductive WireStep where
  | scalar (suffix : String)
  | array (element : String)
  | map (key value : String)
  | message
  | loopBegin
  | loopEnd
  deriving DecidableEq, Repr

/-- The kind that a header announces. -/
def announced (kind : Kind) : String :=
  match wireKind kind with
  | .ok wire => wire.text
  | .error _ => ""

/-- The steps that write or read one value of a kind. -/
def wireSteps : Kind → List WireStep
  | .integer bits signed => [.scalar (Kind.integerName signed bits)]
  | .float bits => [.scalar ("f" ++ toString bits)]
  | .bool => [.scalar "bool"]
  | .string => [.scalar "string"]
  | .bytes => [.scalar "bytes"]
  | .enum _ => [.scalar "u32"]
  | .message _ => [.message]
  | .repeated element =>
    .array (announced element) :: .loopBegin :: wireSteps element ++ [.loopEnd]
  | .map key value => .map (announced key) (announced value) :: .loopBegin ::
      (wireSteps key ++ wireSteps value) ++ [.loopEnd]
  | .oneof _ _ _ => []

def holdsOneof : Kind → Bool
  | .oneof _ _ _ => true
  | .repeated element => holdsOneof element
  | .map key value => holdsOneof key || holdsOneof value
  | _ => false

theorem wireKind_eq_ok {kind : Kind} (h : holdsOneof kind = false) :
    ∃ wire, wireKind kind = .ok wire := by
  cases kind with
  | oneof group number inner => cases h
  | _ => exact ⟨_,rfl⟩

def namedTypes : Kind → List String
  | .enum name | .message name => [name]
  | .repeated element => namedTypes element
  | .map key value => namedTypes key ++ namedTypes value
  | .oneof _ _ inner => namedTypes inner
  | _ => []

def upTo (mark : Char) (text : List Char) : List Char := text.takeWhile (· ≠ mark)

def behind (mark : Char) (text : List Char) : List Char := (text.dropWhile (· ≠ mark)).drop 1

def lastWord (text : List Char) : List Char := (upTo ' ' text.reverse).reverse

def beforeLastWord (text : List Char) : List Char := (behind ' ' text.reverse).reverse

/-- A variable that a loop binds: a letter and the depth of the loop. -/
def isLoopVariable : List Char → Bool
  | c :: digits => (c == 'v' || c == 'k') && !digits.isEmpty && digits.all Char.isDigit
  | [] => false

/-- What stands between two texts, if these begin and end a text. -/
def between? (before after : String) (text : List Char) : Option (List Char) :=
  (text.dropPrefix? before.toList).bind fun rest =>
    (rest.reverse.dropPrefix? after.toList.reverse).map List.reverse

/-- The value that a line sends to its own method, if the line does just that. -/
def receiver? (text : List Char) : Option (List Char) :=
  (text.dropPrefix? "e = ".toList).bind fun rest =>
    (rest.reverse.dropPrefix? ".encode(e);".toList.reverse).map List.reverse

/-- Whether a line writes a message that is the value of `source` or of a loop's variable. -/
def writesMessage (source text : List Char) : Bool :=
  match receiver? text with
  | some value => value == source || isLoopVariable value
  | none => false

/-- The kind that the last word of a line names, less what closes the call. -/
def announcedBy (text : List Char) (closing : String) : String :=
  String.ofList ((lastWord text).take ((lastWord text).length - closing.length))

def stepOfCall (name text : List Char) : WireStep :=
  if name = "array".toList then .array (announcedBy text ");")
  else if name = "map".toList then
    .map (announcedBy (beforeLastWord text) ",") (announcedBy text ");")
  else .scalar (String.ofList name)

/-- The steps of a line of encode code for the value of `source`. -/
def encodedSteps (source line : List Char) : List WireStep :=
  let text := line.dropWhile (· = ' ')
  if text = ['\x7d'] then [.loopEnd]
  else if "for ".toList.isPrefixOf text then [.loopBegin]
  else if writesMessage source text then [.message]
  else match text.dropPrefix? "e = e.encode_".toList with
    | some call => [stepOfCall (upTo '(' call) text]
    | none => []

/-- What a line of encode code passes to a call or loops over, and whether a number or truth value is
wanted, which is passed by value. -/
structure Argument where
  copied : Bool
  text : List Char
  deriving DecidableEq

def argument? (line : List Char) : Option Argument :=
  let text := line.dropWhile (· = ' ')
  if "for ".toList.isPrefixOf text then
    some ⟨false,upTo '.' (lastWord (beforeLastWord text))⟩
  else match text.dropPrefix? "e = e.encode_".toList with
    | some call =>
      let name := upTo '(' call
      let passed := upTo ' ' (behind '(' call)
      if name = "array".toList ∨ name = "map".toList then some ⟨false,upTo '.' passed⟩
      else some ⟨name != "string".toList && name != "bytes".toList,upTo ')' passed⟩
    | none => (receiver? text).map fun value => ⟨false,value⟩

/-- A line that closes a loop, or uses one variable bound by a loop: by its value exactly where a
number, a truth value or an enum is written. -/
def UsesLoopVariable (line : List Char) : Prop :=
  line.dropWhile (· = ' ') = ['\x7d'] ∨ ∃ v copied, isLoopVariable v = true ∧
    argument? line = some ⟨copied,if copied then '*' :: v else v⟩

def callAt? (text : List Char) : Option WireStep :=
  match text.dropPrefix? "d.decode_".toList with
  | some call =>
    let name := upTo '(' call
    let kinds := upTo ')' (behind '(' call)
    some (if name = "array".toList then .array (String.ofList kinds)
      else if name = "map".toList then
        .map (String.ofList (upTo ',' kinds)) (String.ofList ((behind ',' kinds).drop 1))
      else .scalar (String.ofList name))
  | none => if "::decode(d)".toList.isPrefixOf text then some .message else none

def calls : List Char → List WireStep
  | [] => []
  | c :: rest => (callAt? (c :: rest)).toList ++ calls rest

def decodedSteps (line : List Char) : List WireStep :=
  let text := line.dropWhile (· = ' ')
  if text = ['\x7d'] then [.loopEnd]
  else if "for ".toList.isPrefixOf text then [.loopBegin]
  else calls text

def stepsOf (read : List Char → List WireStep) (lines : List String) : List WireStep :=
  lines.flatMap fun line => read line.toList

end SchemaCodec.Codec
