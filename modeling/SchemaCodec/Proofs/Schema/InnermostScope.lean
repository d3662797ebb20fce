import Mathlib.Data.List.Infix
import SchemaCodec.Proofs.FileTree
import SchemaCodec.Proofs.Schema.Resolution

/-! # Resolution by the innermost scope

A relative reference means its name in the longest scope that has it. Another way to say where a
name is to be sought looks at the first part of the reference alone: the innermost scope that knows
this part has to know the rest of the reference as well. Where that rule finds a declaration, it is
the one of the longest scope.
-/
namespace SchemaCodec
open Text

/-- The names on the way to a scope, outermost first. -/
def scopeParts (scope : String) : List String :=
  if scope = "" then [] else splitString '.' scope

def inside (parts : List String) (ref : String) : String := joinStrings "." (parts ++ [ref])

def firstPart (ref : String) : String := (splitString '.' ref).headD ""

/-- The name is declared, or it is a package around something declared. -/
def Known (declared : String → Bool) (name : String) : Prop :=
  declared name = true ∨ ∃ inner, declared (name ++ "." ++ inner) = true

/-- The name is that of `ref` in a scope on the way that satisfies `p`, and no longer one does. -/
def InnermostWith (p : List String → Prop) (scope : String) (parts : List String) : Prop :=
  parts <+: scopeParts scope ∧ p parts ∧
    ∀ longer, longer <+: scopeParts scope → parts.length < longer.length → ¬ p longer

/-- The innermost scope that knows the first part of the reference declares all of it. -/
def FirstPartFinds (declared : String → Bool) (ref scope name : String) : Prop :=
  ∃ parts, InnermostWith (fun parts => Known declared (inside parts (firstPart ref))) scope parts ∧
    name = inside parts ref ∧ declared name = true

@[simp] theorem inside_nil (ref : String) : inside [] ref = ref := by
  simp [inside,joinStrings,join]

@[simp] theorem inside_cons (part : String) (parts : List String) (ref : String) :
    inside (part :: parts) ref = part ++ "." ++ inside parts ref := by
  apply String.toList_injective
  cases parts <;> simp [inside,joinStrings,join]

theorem inside_append_dot (parts : List String) (ref rest : String) :
    inside parts (ref ++ "." ++ rest) = inside parts ref ++ "." ++ rest := by
  induction parts with
  | nil => simp
  | cons part parts ih =>
    rw [inside_cons,ih,inside_cons]
    simp only [String.append_assoc]

theorem candidates_of_rooted (name scope : String) : candidates ("." ++ name) scope = [name] := by
  have h : ("." ++ name).toList = '.' :: name.toList := by simp [String.toList_append]
  simp [candidates,h]

theorem candidates_of_relative {ref : String} (h : ∀ rest, ref ≠ "." ++ rest) (scope : String) :
    candidates ref scope = (scopeParts scope).inits.reverse.map (inside · ref) := by
  unfold candidates
  split
  · rename_i rest hrest
    refine absurd ?_ (h (String.ofList rest))
    apply String.toList_injective
    simpa [String.toList_append] using hrest
  · rfl

/-- The first hit among the prefixes of a list, longest first, is at its longest prefix with one. -/
theorem find?_reverse_inits_eq_some {α : Type} (p : List α → Bool) (l found : List α) :
    l.inits.reverse.find? p = some found ↔ found <+: l ∧ p found = true ∧
      ∀ longer, longer <+: l → found.length < longer.length → ¬ p longer = true := by
  induction l using List.reverseRecOn generalizing found with
  | nil =>
    have hinits : ([] : List α).inits.reverse = [[]] := rfl
    rw [hinits,List.find?_singleton,List.prefix_nil]
    constructor
    · intro h
      split at h
      · cases h
        refine ⟨rfl,‹_›,fun longer hl hlt => ?_⟩
        rw [List.prefix_nil.mp hl] at hlt
        exact absurd hlt (Nat.lt_irrefl _)
      · cases h
    · rintro ⟨rfl,hp,-⟩
      rw [if_pos hp]
  | append_singleton l a ih =>
    have hinits : (l ++ [a]).inits.reverse = (l ++ [a]) :: l.inits.reverse := by
      simp [List.inits_append]
    rw [hinits,List.find?_cons]
    cases hp : p (l ++ [a]) with
    | true =>
      constructor
      · rintro h
        cases h
        exact ⟨List.prefix_rfl,hp,fun longer hl hlt => absurd hl.length_le (Nat.not_le.mpr hlt)⟩
      · rintro ⟨hfound,-,hmax⟩
        rcases List.prefix_concat_iff.mp hfound with rfl | hshort
        · rfl
        · have hlt : found.length < (l ++ [a]).length := by
            simpa using Nat.lt_succ_of_le hshort.length_le
          exact absurd hp (hmax _ List.prefix_rfl hlt)
    | false =>
      rw [ih]
      constructor
      · rintro ⟨hfound,hp',hmax⟩
        refine ⟨hfound.trans (List.prefix_append l [a]),hp',fun longer hl hlt => ?_⟩
        rcases List.prefix_concat_iff.mp hl with rfl | hl
        · simp [hp]
        · exact hmax longer hl hlt
      · rintro ⟨hfound,hp',hmax⟩
        rcases List.prefix_concat_iff.mp hfound with rfl | hfound
        · rw [hp] at hp'; cases hp'
        · exact ⟨hfound,hp',fun longer hl => hmax longer (hl.trans (List.prefix_append l [a]))⟩

variable (declared : String → Bool) {ref scope : String}

theorem resolve?_rooted (name scope : String) :
    resolve? declared ("." ++ name) scope = if declared name = true then some name else none := by
  rw [resolve?_eq_find?,candidates_of_rooted]
  cases h : declared name <;> simp [h]

/-- A relative reference means its name in the longest scope on the way that declares it. -/
theorem resolve?_relative_eq_some (h : ∀ rest, ref ≠ "." ++ rest) (name : String) :
    resolve? declared ref scope = some name ↔
      ∃ parts, InnermostWith (fun parts => declared (inside parts ref) = true) scope parts ∧
        name = inside parts ref := by
  rw [resolve?_eq_find?,candidates_of_relative h,List.find?_map,Option.map_eq_some_iff]
  simp only [find?_reverse_inits_eq_some,InnermostWith,Function.comp_apply,
    eq_comm (a := inside _ ref)]

theorem resolve?_relative_eq_none (h : ∀ rest, ref ≠ "." ++ rest) :
    resolve? declared ref scope = none ↔
      ∀ parts, parts <+: scopeParts scope → ¬ declared (inside parts ref) = true := by
  rw [resolve?_eq_find?,candidates_of_relative h]
  simp [List.find?_eq_none]

theorem firstPart_cases (ref : String) :
    ref = firstPart ref ∨ ∃ rest, ref = firstPart ref ++ "." ++ rest := by
  have hjoin := join_split '.' ref.toList
  cases hs : split '.' ref.toList with
  | nil => exact absurd hs (split_ne_nil _ _)
  | cons piece more =>
    have hfirst : firstPart ref = String.ofList piece := by simp [firstPart,splitString,hs]
    rw [hs] at hjoin
    cases more with
    | nil =>
      left
      apply String.toList_injective
      simpa [hfirst,join] using hjoin.symm
    | cons next more =>
      right
      refine ⟨String.ofList (join ['.'] (next :: more)),String.toList_injective ?_⟩
      simpa [hfirst,join] using hjoin.symm

theorem known_firstPart {parts : List String} (h : declared (inside parts ref) = true) :
    Known declared (inside parts (firstPart ref)) := by
  rcases firstPart_cases ref with heq | ⟨rest,heq⟩
  · exact .inl (heq ▸ h)
  · rw [heq,inside_append_dot] at h
    exact .inr ⟨rest,h⟩

/-- The scope that the first part leads to is the longest one that declares the reference. -/
theorem innermostWith_of_firstPart {parts : List String}
    (h : InnermostWith (fun parts => Known declared (inside parts (firstPart ref))) scope parts)
    (hdecl : declared (inside parts ref) = true) :
    InnermostWith (fun parts => declared (inside parts ref) = true) scope parts :=
  ⟨h.1,hdecl,fun longer hl hlt hd => h.2.2 longer hl hlt (known_firstPart declared hd)⟩

theorem resolve?_of_firstPartFinds (hrel : ∀ rest, ref ≠ "." ++ rest) {name : String}
    (h : FirstPartFinds declared ref scope name) : resolve? declared ref scope = some name := by
  obtain ⟨parts,hparts,rfl,hdecl⟩ := h
  exact (resolve?_relative_eq_some declared hrel _).mpr
    ⟨parts,innermostWith_of_firstPart declared hparts hdecl,rfl⟩

/-- The first part of a rooted reference is empty, so what it finds by it has an empty part. -/
theorem mem_splitString_of_firstPartFinds {rest name : String}
    (h : FirstPartFinds declared ("." ++ rest) scope name) : "" ∈ splitString '.' name := by
  obtain ⟨parts,-,rfl,-⟩ := h
  induction parts with
  | nil =>
    have hlist : ("." ++ rest).toList = '.' :: rest.toList := by simp [String.toList_append]
    simp [splitString,hlist,split]
  | cons part parts ih =>
    have hlist : (part ++ "." ++ inside parts ("." ++ rest)).toList =
        part.toList ++ '.' :: (inside parts ("." ++ rest)).toList := by
      simp [String.toList_append]
    rw [inside_cons,splitString,hlist,split_append,List.map_append]
    exact List.mem_append_right _ ih

/-- A rooted reference means the name behind its dot. Any other means its name in the longest
prefix of the scope that declares it, and nothing exactly if no prefix does. Where the scope that
is found by the first part of the reference gives a name, the reference means that name. For a
rooted reference this rule is that of the outermost scope; read with its empty first part, it finds
nothing but names with an empty part. -/
theorem resolve?_innermost (declared : String → Bool) (ref scope : String) :
    (∀ name, ref = "." ++ name →
      resolve? declared ref scope = if declared name = true then some name else none) ∧
    ((∀ name, ref ≠ "." ++ name) →
      (∀ name, resolve? declared ref scope = some name ↔
        ∃ parts, InnermostWith (fun parts => declared (inside parts ref) = true) scope parts ∧
          name = inside parts ref) ∧
      (resolve? declared ref scope = none ↔
        ∀ parts, parts <+: scopeParts scope → ¬ declared (inside parts ref) = true) ∧
      ∀ name, FirstPartFinds declared ref scope name →
        resolve? declared ref scope = some name) ∧
    ∀ name, ref = "." ++ name → ∀ found, FirstPartFinds declared ref scope found →
      "" ∈ splitString '.' found := by
  refine ⟨?_,fun hrel => ⟨?_,?_,?_⟩,?_⟩
  · rintro name rfl
    exact resolve?_rooted declared name scope
  · exact resolve?_relative_eq_some declared hrel
  · exact resolve?_relative_eq_none declared hrel
  · exact fun name h => resolve?_of_firstPartFinds declared hrel h
  · rintro name rfl found h
    exact mem_splitString_of_firstPartFinds declared h

end SchemaCodec
