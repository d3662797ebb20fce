/-! # JSON documents

Values of JSON. Whole numbers are kept as such and any other number by its spelling. The members of
an object are in order and have distinct names.
-/
namespace SchemaCodec

inductive Json where
  | null
  | bool (b : Bool)
  | int (n : Int)
  | decimal (spelling : String)
  | string (s : String)
  | array (items : List Json)
  | object (members : List (String × Json))
  deriving Repr, Inhabited

namespace Json

def member? (members : List (String × Json)) (name : String) : Option Json := members.lookup name

/-- Puts a member in the place of the one of its name, or at the end. -/
def setMember (members : List (String × Json)) (name : String) (value : Json) :
    List (String × Json) :=
  match members with
  | [] => [(name, value)]
  | (n, v) :: rest => if n = name then (n, value) :: rest else (n, v) :: setMember rest name value

mutual

/-- The whole numbers in a value. -/
def integers : Json → List Int
  | int n => [n]
  | array items => integersOfItems items
  | object members => integersOfMembers members
  | _ => []

def integersOfItems : List Json → List Int
  | [] => []
  | item :: rest => integers item ++ integersOfItems rest

def integersOfMembers : List (String × Json) → List Int
  | [] => []
  | (_, value) :: rest => integers value ++ integersOfMembers rest

end

def ofOption (s : Option String) : Json := (s.map string).getD null

end Json

end SchemaCodec
