import Mathlib.Data.List.Infix
import SchemaCodec.Schema.Basic
import SchemaCodec.Schema.Resolve

/-! # What a reference may mean

A reference stands for the first of its candidates that is declared. The candidates are the
reference inside each of the scopes around it, from the innermost outwards, or the rooted name
alone.
-/
namespace SchemaCodec
open Text

theorem qualify_ne_empty (scope : String) {name : String} (h : name ≠ "") :
    qualify scope name ≠ "" := by
  unfold qualify
  split
  · exact h
  · simp [String.append_eq_empty_iff]

theorem qualify_injective (scope : String) : Function.Injective (qualify scope) := by
  intro a b h
  unfold qualify at h
  split at h
  · exact h
  · have hlist := congrArg String.toList h
    simp only [String.toList_append,List.append_right_inj] at hlist
    exact String.toList_injective hlist

/-- The scopes around a reference, innermost first, each by the names on its way. -/
def enclosingScopes (scope : String) : List (List String) :=
  (if scope = "" then [] else splitString '.' scope).inits.reverse

/-- The full names that a reference may mean inside a scope, in the order in which they are tried.
-/
def candidates (ref scope : String) : List String :=
  match ref.toList with
  | '.' :: rest => [String.ofList rest]
  | _ => (enclosingScopes scope).map fun outer => joinStrings "." (outer ++ [ref])

theorem resolveIn_eq_find? (declared : String → Bool) (ref : String) (parts : List String) :
    resolveIn declared ref parts =
      (parts.tails.map fun outer => joinStrings "." (outer.reverse ++ [ref])).find? declared := by
  induction parts with
  | nil =>
    have hself : joinStrings "." [ref] = ref := by simp [joinStrings,join]
    by_cases h : declared ref = true <;> simp [resolveIn,hself,h]
  | cons inner outer ih =>
    rw [resolveIn,ih,List.tails_cons,List.map_cons,List.find?_cons]
    cases h : declared (joinStrings "." ((inner :: outer).reverse ++ [ref])) <;> rfl

/-- A reference means the first candidate that is declared. -/
theorem resolve?_eq_find? (declared : String → Bool) (ref scope : String) :
    resolve? declared ref scope = (candidates ref scope).find? declared := by
  unfold resolve? candidates
  generalize ref.toList = cs
  split
  · rename_i rest
    cases h : declared (String.ofList rest) <;> simp [h]
  · rw [resolveIn_eq_find?,enclosingScopes,List.tails_reverse,List.map_reverse,List.map_map]
    simp only [Function.comp_def,List.reverse_reverse,List.map_reverse]

theorem exists_resolve?_iff (declared : String → Bool) (ref scope : String) :
    (∃ name, resolve? declared ref scope = some name) ↔
      ∃ c ∈ candidates ref scope, declared c = true := by
  rw [resolve?_eq_find?,← Option.isSome_iff_exists,List.find?_isSome]

theorem mem_of_resolve? {declared : String → Bool} {ref scope name : String}
    (h : resolve? declared ref scope = some name) :
    name ∈ candidates ref scope ∧ declared name = true := by
  rw [resolve?_eq_find?] at h
  exact ⟨List.mem_of_find?_eq_some h,List.find?_some h⟩

end SchemaCodec
