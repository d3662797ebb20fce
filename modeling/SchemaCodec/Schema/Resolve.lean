import SchemaCodec.Text.Split

/-! # Resolution of type references

A reference is looked up in the scope that holds it and then in each enclosing one, up to the
outermost; a leading dot asks for the outermost at once.
-/
namespace SchemaCodec
open Text

/-- Tries the scope whose components are given innermost first, then the enclosing ones. -/
def resolveIn (declared : String → Bool) (ref : String) : List String → Option String
  | [] => if declared ref then some ref else none
  | inner :: outer =>
    let candidate := joinStrings "." ((inner :: outer).reverse ++ [ref])
    if declared candidate then some candidate else resolveIn declared ref outer

def resolve? (declared : String → Bool) (ref scope : String) : Option String :=
  match ref.toList with
  | '.' :: rest => if declared (String.ofList rest) then some (String.ofList rest) else none
  | _ =>
    let parts := if scope = "" then [] else splitString '.' scope
    resolveIn declared ref parts.reverse

end SchemaCodec
