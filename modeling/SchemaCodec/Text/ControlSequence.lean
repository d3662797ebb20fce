/-! # Control sequences

A terminal takes an escape character and a bracket for the start of a command that ends at the next
letter. What is not meant for a terminal is written without such commands.
-/
namespace SchemaCodec.Text

def isEscape (c : Char) : Bool := c == '\x1b'

/-- The characters between the bracket and the letter. -/
def isParameter (c : Char) : Bool := c.isDigit || c == ';' || c == '?'

def afterSequence? : List Char → Option (List Char)
  | c :: '[' :: rest =>
    if isEscape c then
      match rest.dropWhile isParameter with
      | d :: more => if d.isAlpha then some more else none
      | [] => none
    else none
  | _ => none

def plainAfter : (count : Nat) → List Char → List Char
  | 0, _ => []
  | _, [] => []
  | count + 1, c :: cs =>
    match afterSequence? (c :: cs) with
    | some rest => plainAfter count rest
    | none => c :: plainAfter count cs

def plainString (s : String) : String := String.ofList (plainAfter s.toList.length s.toList)

end SchemaCodec.Text
