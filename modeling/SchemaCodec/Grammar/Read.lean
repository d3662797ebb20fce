import SchemaCodec.Grammar.State

/-! # Reading a schema file

The text is read to its end, one token at a time, each of the kinds that are acceptable after those
before it. Reading stops at the first place where no acceptable token stands or the token leads
nowhere; a text that ends too early is blamed on its last token.
-/
namespace SchemaCodec.Grammar

/-- Reads from a cursor on; `last` is the place of the token before it. -/
def readFrom (state : State) (cursor : Cursor) (last : Position) :
    Except Position (List Statement) :=
  let c := cursor.skip
  if _h : c.rest = [] then
    match state.statements? with
    | some statements => .ok statements
    | none => .error last
  else
    match _hn : c.next? state.expected with
    | none => .error c.position
    | some (token, behind) =>
      match state.step token with
      | none => .error token.position
      | some next => readFrom next behind token.position
termination_by cursor.rest.length
decreasing_by
  exact Nat.lt_of_lt_of_le (Cursor.length_next? _h _hn) (Cursor.length_skip_le cursor)

def read (text : List Char) : Except Position (List Statement) :=
  readFrom .start (.ofText text) .start

end SchemaCodec.Grammar
