import SchemaCodec.Dependency.Order

/-! # Cycles of a dependency graph

A depth-first search numbers names as it enters them and keeps those whose group is not known yet on
a stack. For each name it finds the least number on the stack that the name leads back to; where this
is the name's own number, the name and what lies above it on the stack form a group. The groups that
are cycles are listed in the order in which they are found.
-/
namespace SchemaCodec.Dependency

/-- A search on its way. Tables and the stack have their latest entries first. -/
structure Search where
  counter : Nat := 0
  num : List (String × Nat) := []
  low : List (String × Nat) := []
  stack : List String := []
  onStack : List String := []
  components : List (List String) := []
  deriving DecidableEq, Repr

namespace Search

def entered (s : Search) : List String := s.num.map (·.1)

def numOf (s : Search) (name : String) : Nat := (s.num.lookup name).getD 0

def lowOf (s : Search) (name : String) : Nat := (s.low.lookup name).getD 0

def enter (s : Search) (node : String) : Search :=
  { s with
    counter := s.counter + 1
    num := (node,s.counter) :: s.num
    low := (node,s.counter) :: s.low
    stack := node :: s.stack
    onStack := node :: s.onStack }

def lower (s : Search) (node : String) (number : Nat) : Search :=
  { s with low := (node,min (s.lowOf node) number) :: s.low }

/-- Follows a dependency of a name, which is visited unless it was entered before. -/
def follow (visit : Search → String → Search) (node : String) (s : Search) (dependency : String) :
    Search :=
  if dependency ∉ s.entered then
    let s := visit s dependency
    s.lower node (s.lowOf dependency)
  else if dependency ∈ s.onStack then s.lower node (s.numOf dependency)
  else s

def popTo (node : String) : List String → List String × List String
  | [] => ([],[])
  | member :: rest =>
    if member = node then ([member],rest)
    else
      let (component,left) := popTo node rest
      (member :: component,left)

/-- Leaves a name; if it leads back to nothing below it, its group is taken from the stack. -/
def leave (graph : Graph) (s : Search) (node : String) : Search :=
  if s.lowOf node = s.numOf node then
    let (component,stack) := popTo node s.stack
    let s := { s with stack, onStack := s.onStack.filter (· ∉ component) }
    if 1 < component.length ∨ node ∈ graph.successors node then
      { s with components := s.components ++ [component] }
    else s
  else s

end Search

def ascending (names : List String) : List String :=
  names.mergeSort fun a b => !decide (b < a)

/-- Visits a name that was not entered, and what it leads to among `nodes`, `depth` levels deep. -/
def visit (graph : Graph) (nodes : List String) : (depth : Nat) → Search → String → Search
  | 0, s, _ => s
  | depth + 1, s, node =>
    let dependencies := ascending ((graph.successors node).filter (· ∈ nodes))
    let s := dependencies.foldl (Search.follow (visit graph nodes depth) node) (s.enter node)
    s.leave graph node

/-- The cycles among `nodes`, each listed when the search leaves the first of its names. -/
def cycles (graph : Graph) (nodes : List String) : List (List String) :=
  let search := (ascending nodes).foldl
    (fun s node => if node ∉ s.entered then visit graph nodes nodes.length s node else s) {}
  search.components

end SchemaCodec.Dependency
