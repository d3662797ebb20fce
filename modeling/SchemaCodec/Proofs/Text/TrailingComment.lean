import Mathlib.Data.List.Basic
import SchemaCodec.Text.Comment

/-! # The comment at the end of a line

The scan for the comment behind the code of a line knows quotes and slashes only. It comes to a
given pair of slashes exactly if, reading the code before them, it is outside quotes there and has
passed no slashes.
-/
namespace SchemaCodec.Text

/-- A comment without the blanks around it; there is none if nothing is left. -/
def nonBlank (cs : List Char) : Option (List Char) := if trim cs = [] then none else some (trim cs)

theorem commentBehind_eq (line : List Char) :
    commentBehind line = (afterSlashes none line).bind nonBlank := by
  unfold commentBehind
  cases afterSlashes none line <;> rfl

/-! ## Slashes outlast trimming -/

theorem count_dropBlanks (cs : List Char) : (dropBlanks cs).count '/' = cs.count '/' := by
  induction cs with
  | nil => rfl
  | cons c cs ih =>
    by_cases hc : isBlank c = true
    · have hne : c ≠ '/' := by rintro rfl; exact absurd hc (by decide)
      rw [dropBlanks,List.dropWhile_cons_of_pos hc,List.count_cons_of_ne hne]
      exact ih
    · rw [dropBlanks,List.dropWhile_cons_of_neg hc]

theorem count_trim (cs : List Char) : (trim cs).count '/' = cs.count '/' := by
  rw [trim,trimEnd,List.count_reverse,count_dropBlanks,List.count_reverse,count_dropBlanks]

/-- What differs in the number of its slashes differs as a comment. -/
theorem nonBlank_ne {cs ds : List Char} (h : cs.count '/' < ds.count '/') :
    nonBlank ds ≠ nonBlank cs := by
  have hcount : (trim ds).count '/' ≠ (trim cs).count '/' := by
    rw [count_trim,count_trim]
    omega
  have hds : trim ds ≠ [] := by
    intro he
    have hzero := count_trim ds
    rw [he,List.count_nil] at hzero
    omega
  intro he
  unfold nonBlank at he
  rw [if_neg hds] at he
  split at he
  · cases he
  · exact hcount (congrArg (List.count '/') (Option.some.inj he))

/-! ## The scan -/

variable {quote : Option Char} {cs more : List Char}

theorem afterSlashes_quoted {q c : Char} (hc : c ≠ '\\') (rest : List Char) :
    afterSlashes (some q) (c :: rest) = afterSlashes (if c = q then none else some q) rest := by
  rw [afterSlashes,if_neg hc]
  rintro _ _ rfl
  exact absurd rfl hc

theorem afterSlashes_code {c : Char} {rest : List Char}
    (h : ∀ tail, c = '/' → rest ≠ '/' :: tail) : afterSlashes none (c :: rest) =
      afterSlashes (if c = '"' ∨ c = '\'' then some c else none) rest := by
  rw [afterSlashes]
  exact fun tail hc he => h tail hc he

/-- The scan goes on behind the first slashes that it finds. -/
theorem afterSlashes_append {rest : List Char} (h : afterSlashes quote cs = some rest) :
    afterSlashes quote (cs ++ more) = some (rest ++ more) := by
  fun_induction afterSlashes quote cs with
  | case1 => cases h
  | case2 q c cs ih => simpa [afterSlashes] using ih h
  | case3 => cases h
  | case4 q c cs _ hc ih =>
    rw [List.cons_append,afterSlashes_quoted hc]
    exact ih h
  | case5 cs =>
    cases h
    rfl
  | case6 c cs hne ih =>
    rw [List.cons_append,afterSlashes_code]
    · exact ih h
    rintro tail rfl he
    cases cs with
    | nil => simp [afterSlashes] at h
    | cons d cs => exact hne cs rfl (by rw [(List.cons.inj he).1])

theorem exists_slashes {rest : List Char} (h : afterSlashes quote cs = some rest) :
    ∃ before, cs = before ++ '/' :: '/' :: rest := by
  fun_induction afterSlashes quote cs with
  | case1 => cases h
  | case2 q c cs ih =>
    obtain ⟨before,rfl⟩ := ih h
    exact ⟨'\\' :: c :: before,rfl⟩
  | case3 => cases h
  | case4 q c cs _ _ ih =>
    obtain ⟨before,rfl⟩ := ih h
    exact ⟨c :: before,rfl⟩
  | case5 cs =>
    cases h
    exact ⟨[],rfl⟩
  | case6 c cs _ ih =>
    obtain ⟨before,rfl⟩ := ih h
    exact ⟨c :: before,rfl⟩

/-- Slashes that the scan does not see stand inside quotes. -/
theorem afterSlashes_of_hidden (hquote : ∀ q ∈ quote, q = '"' ∨ q = '\'')
    (h : afterSlashes quote (cs ++ ['/','/']) = none) : ∃ q, ∀ more,
      afterSlashes quote (cs ++ '/' :: '/' :: more) = afterSlashes (some q) more := by
  have hslash {q : Char} (hq : q = '"' ∨ q = '\'') (more : List Char) :
      afterSlashes (some q) ('/' :: more) = afterSlashes (some q) more := by
    rcases hq with rfl | rfl <;> simp [afterSlashes]
  fun_induction afterSlashes quote cs with
  | case1 quote =>
    cases quote with
    | none => simp [afterSlashes] at h
    | some q =>
      have hq := hquote q rfl
      exact ⟨q,fun more => by rw [List.nil_append,hslash hq,hslash hq]⟩
  | case2 q c cs ih => exact ih hquote (by simpa [afterSlashes] using h)
  | case3 q cs hne =>
    cases cs with
    | nil =>
      refine ⟨q,fun more => ?_⟩
      rw [List.singleton_append,afterSlashes,hslash (hquote q rfl)]
    | cons c cs => exact absurd rfl (hne c cs rfl)
  | case4 q c cs _ hc ih =>
    rw [List.cons_append,afterSlashes_quoted hc] at h
    obtain ⟨q',hq'⟩ := ih (by split <;> simp_all) h
    exact ⟨q',fun more => by rw [List.cons_append,afterSlashes_quoted hc,hq']⟩
  | case5 cs => simp [afterSlashes] at h
  | case6 c cs hne ih =>
    have hapart (more tail : List Char) (hc : c = '/') : cs ++ '/' :: '/' :: more ≠ '/' :: tail := by
      subst hc
      cases cs with
      | nil => simp [afterSlashes] at h
      | cons d cs => exact fun he => hne cs rfl (by rw [(List.cons.inj he).1])
    rw [List.cons_append,afterSlashes_code (hapart [])] at h
    obtain ⟨q,hq⟩ := ih (by split <;> simp_all) h
    exact ⟨q,fun more => by rw [List.cons_append,afterSlashes_code (hapart more),hq]⟩

/-- Behind some code stands a comment. The scan has it exactly if the slashes that it finds are the
comment's own, or it finds none and the comment is blank. -/
theorem commentBehind_eq_iff (code comment : List Char) :
    commentBehind (code ++ '/' :: '/' :: comment) = nonBlank comment ↔
      afterSlashes none (code ++ ['/','/']) = some [] ∨
        afterSlashes none (code ++ ['/','/']) = none ∧ nonBlank comment = none := by
  have hline (rest : List Char) : code ++ '/' :: '/' :: rest = code ++ ['/','/'] ++ rest := by simp
  rw [commentBehind_eq]
  cases h : afterSlashes none (code ++ ['/','/']) with
  | none =>
    obtain ⟨q,hq⟩ := afterSlashes_of_hidden (by simp) h
    rw [hq comment]
    cases hfound : afterSlashes (some q) comment with
    | none => simp [eq_comm]
    | some rest =>
      obtain ⟨before,rfl⟩ := exists_slashes hfound
      have hne : nonBlank rest ≠ nonBlank (before ++ '/' :: '/' :: rest) :=
        (nonBlank_ne (by simp; omega)).symm
      have hcount : (before ++ '/' :: '/' :: rest).count '/' ≠ 0 := by simp
      have hlt : List.count '/' [] < (before ++ '/' :: '/' :: rest).count '/' :=
        Nat.pos_of_ne_zero hcount
      have hsome : nonBlank (before ++ '/' :: '/' :: rest) ≠ none := nonBlank_ne hlt
      simp [hne,hsome]
  | some rest =>
    rw [hline,afterSlashes_append h]
    simp only [Option.bind_some,Option.some.injEq,reduceCtorEq,false_and,or_false]
    constructor
    · intro he
      by_contra hne
      obtain ⟨before,hbefore⟩ := exists_slashes h
      obtain ⟨tail,d,rfl⟩ := (List.eq_nil_or_concat rest).resolve_left hne
      have hd : code ++ ['/'] ++ ['/'] = before ++ '/' :: '/' :: tail ++ [d] := by
        simpa using hbefore
      have hlast : d = '/' := (List.cons.inj (List.append_inj' hd rfl).2).1.symm
      refine nonBlank_ne ?_ he
      simp [hlast]
      omega
    · rintro rfl
      rfl

/-- A line is without a comment exactly if no slashes are found or nothing stands behind them. -/
theorem commentBehind_eq_none_iff {line : List Char} : commentBehind line = none ↔
    ∀ rest, afterSlashes none line = some rest → nonBlank rest = none := by
  rw [commentBehind_eq,Option.bind_eq_none_iff]

/-! ## Calm code -/

/-- Code that leaves the scan as it was: outside quotes, with no slashes passed. -/
def Calm (cs : List Char) : Prop := ∀ rest, afterSlashes none (cs ++ rest) = afterSlashes none rest

theorem calm_nil : Calm [] := fun _ => rfl

theorem Calm.append {as bs : List Char} (ha : Calm as) (hb : Calm bs) : Calm (as ++ bs) :=
  fun rest => by rw [List.append_assoc,ha,hb]

theorem calm_of_forall (h : ∀ c ∈ cs, c ≠ '"' ∧ c ≠ '\'' ∧ c ≠ '/') : Calm cs := by
  induction cs with
  | nil => exact calm_nil
  | cons c cs ih =>
    obtain ⟨hc,hcs⟩ := List.forall_mem_cons.mp h
    intro rest
    rw [List.cons_append,afterSlashes_code fun _ hslash => absurd hslash hc.2.2,
      if_neg (by simp [hc.1,hc.2.1])]
    exact ih hcs rest

/-- The scan comes to a comment behind calm code. -/
theorem Calm.afterSlashes_eq (h : Calm cs) : afterSlashes none (cs ++ ['/','/']) = some [] := h _

theorem Calm.afterSlashes_eq_none (h : Calm cs) : afterSlashes none cs = none := by
  have hrest := h []
  rwa [List.append_nil] at hrest

end SchemaCodec.Text
