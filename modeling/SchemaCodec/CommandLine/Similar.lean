/-! # Similar words

The likeness of two words is the share of their characters that match: those of the longest common
stretch, and then by the same rule those to the left and those to the right of it.
-/
namespace SchemaCodec.CommandLine

def commonLength : List Char → List Char → Nat
  | a :: as, b :: bs => if a = b then commonLength as bs + 1 else 0
  | _, _ => 0

structure Stretch where
  left : Nat
  right : Nat
  length : Nat
  deriving DecidableEq, Repr

/-- The longest common stretch, the leftmost of several. -/
def longestStretch (as bs : List Char) : Stretch :=
  let starts := (List.range as.length).flatMap fun i => (List.range bs.length).map fun j => (i, j)
  starts.foldl (fun best (i, j) =>
    let n := commonLength (as.drop i) (bs.drop j)
    if best.length < n then ⟨i,j,n⟩ else best) ⟨0,0,0⟩

/-- The number of matching characters, found in at most so many rounds. -/
def matching : Nat → List Char → List Char → Nat
  | 0, _, _ => 0
  | n + 1, as, bs =>
    let s := longestStretch as bs
    if s.length = 0 then 0
    else matching n (as.take s.left) (bs.take s.right) + s.length
      + matching n (as.drop (s.left + s.length)) (bs.drop (s.right + s.length))

structure Likeness where
  word : String
  matched : Nat
  total : Nat
  deriving DecidableEq, Repr

def likeness (target word : String) : Likeness :=
  let as := word.toList
  let bs := target.toList
  ⟨word,2 * matching as.length as bs,as.length + bs.length⟩

def Likeness.isClose (l : Likeness) : Bool := 6 * l.total ≤ 10 * l.matched

/-- The more alike word first, and of two that are equally alike the later in the alphabet. -/
def Likeness.before (a b : Likeness) : Bool :=
  a.matched * b.total > b.matched * a.total
    || (a.matched * b.total == b.matched * a.total && !decide (a.word < b.word))

def similar (target : String) (words : List String) : List String :=
  let close := ((words.map (likeness target)).filter Likeness.isClose).mergeSort Likeness.before
  ((close.take 3).map (·.word)).mergeSort fun a b => !decide (b < a)

end SchemaCodec.CommandLine
