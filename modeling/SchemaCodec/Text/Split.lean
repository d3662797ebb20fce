/-! # Cutting a text at a separator

`split sep` cuts at every occurrence of `sep` and keeps empty pieces, so it never returns an empty
list, and `join` puts the pieces together again.
-/
namespace SchemaCodec.Text

/-- The pieces between the occurrences of `sep`, in order. -/
def split (sep : Char) : List Char → List (List Char)
  | [] => [[]]
  | c :: rest =>
    if c = sep then [] :: split sep rest
    else match split sep rest with
      | [] => [[c]]
      | piece :: more => (c :: piece) :: more

theorem split_ne_nil (sep : Char) (cs : List Char) : split sep cs ≠ [] := by
  cases cs with
  | nil => simp [split]
  | cons c rest =>
    simp only [split]
    split
    · simp
    · split <;> simp

def join (sep : List Char) : List (List Char) → List Char
  | [] => []
  | [piece] => piece
  | piece :: more => piece ++ sep ++ join sep more

theorem join_split (sep : Char) (cs : List Char) : join [sep] (split sep cs) = cs := by
  induction cs with
  | nil => rfl
  | cons c rest ih =>
    cases hs : split sep rest with
    | nil => exact absurd hs (split_ne_nil sep rest)
    | cons piece more =>
      rw [hs] at ih
      by_cases h : c = sep
      · simp [split, h, hs, join, ih]
      · cases more with
        | nil => simpa [split, h, hs, join] using ih
        | cons next more => simpa [split, h, hs, join] using ih

def splitString (sep : Char) (s : String) : List String :=
  (split sep s.toList).map String.ofList

def joinStrings (sep : String) (pieces : List String) : String :=
  String.ofList (join sep.toList (pieces.map String.toList))

end SchemaCodec.Text
