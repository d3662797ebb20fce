/-! # Emission order

Names are listed so that each comes after all it depends on; where several could come next, the one
of least position does. Each name has a counter of the dependencies that are not listed yet, and a
name whose counter reaches zero joins the queue of those that can come next. Names on a cycle, or
that depend on one, are left out.
-/
namespace SchemaCodec.Dependency

abbrev Graph := List (String × List String)

namespace Graph

def nodes (graph : Graph) : List String := graph.map (·.1)

def successors (graph : Graph) (node : String) : List String := (graph.lookup node).getD []

end Graph

inductive OrderError where
  | unknownDependency (name : String)
  | unknownPosition (name : String)
  deriving DecidableEq, Repr

/-! ## Dependents -/

namespace Graph

def addDependent (name : String) (table : Graph) (dependency : String) :
    Except OrderError Graph :=
  if dependency ∈ table.nodes then
    .ok (table.map fun (n,names) => (n,if n = dependency then names ++ [name] else names))
  else .error (.unknownDependency dependency)

def alone (graph : Graph) : Graph := graph.map fun (name,_) => (name,[])

def addRow (table : Graph) (row : String × List String) : Except OrderError Graph :=
  row.2.foldlM (addDependent row.1) table

def dependents (graph : Graph) : Except OrderError Graph := graph.foldlM addRow graph.alone

end Graph

/-! ## The queue -/

/-- A name with its position; positions are compared first, then names. -/
abbrev Placed := Int × String

def Placed.before (a b : Placed) : Bool := a.1 < b.1 || (a.1 == b.1 && a.2 < b.2)

/-- Puts a name into a queue, whose head is the least of its names. -/
def enqueue (a : Placed) : List Placed → List Placed
  | [] => [a]
  | b :: rest => if Placed.before b a then b :: enqueue a rest else a :: b :: rest

def place (position : String → Option Int) (name : String) : Except OrderError Placed :=
  match position name with
  | some p => .ok (p,name)
  | none => .error (.unknownPosition name)

/-! ## Listing -/

/-- An order on its way: how many dependencies each name still waits for, the names that can come
next, and those listed. -/
structure Listing where
  pending : List (String × Int)
  ready : List Placed
  order : List String
  deriving DecidableEq, Repr

namespace Listing

def count (s : Listing) (name : String) : Int := (s.pending.lookup name).getD 0

def setCount (s : Listing) (name : String) (count : Int) : Listing :=
  { s with pending := s.pending.map fun (n,c) => (n,if n = name then count else c) }

def release (position : String → Option Int) (s : Listing) (name : String) :
    Except OrderError Listing := do
  let left := s.count name - 1
  let s := s.setCount name left
  if left = 0 then .ok { s with ready := enqueue (← place position name) s.ready } else .ok s

def run (dependents : Graph) (position : String → Option Int) :
    (limit : Nat) → Listing → Except OrderError Listing
  | 0, s => .ok s
  | limit + 1, s =>
    match s.ready with
    | [] => .ok s
    | (_,name) :: rest => do
      let s := { s with ready := rest, order := s.order ++ [name] }
      run dependents position limit
        (← (dependents.successors name).foldlM (release position) s)

end Listing

/-- The names that can be ordered, each after its dependencies and otherwise by position. -/
def emissionOrder (graph : Graph) (position : String → Option Int) :
    Except OrderError (List String) := do
  let dependents ← graph.dependents
  let pending := graph.map fun (name,dependencies) => (name,Int.ofNat dependencies.length)
  let free ← (pending.filter (·.2 == 0)).mapM fun (name,_) => place position name
  let s ← Listing.run dependents position graph.length ⟨pending,free.foldr enqueue [],[]⟩
  .ok s.order

end SchemaCodec.Dependency
