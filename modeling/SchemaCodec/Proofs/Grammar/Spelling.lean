import Mathlib.Data.List.Infix
import Mathlib.Data.List.TakeWhile
import SchemaCodec.Proofs.Grammar.Rules

/-! # How tokens are spelled

The spellings of each kind of token, and the stretches that are ignored, are described without
regard to how they are found. What is recognized at the start of a text is spelled so, and what is
spelled so is recognized where a space or the end follows.
-/
namespace SchemaCodec.Grammar
open Text

def IsWord (cs : List Char) : Prop :=
  ∃ c rest, isWordStart c = true ∧ (∀ d ∈ rest, isWordPart d = true) ∧ cs = c :: rest

instance (cs : List Char) : Decidable (IsWord cs) :=
  match cs with
  | [] => isFalse fun ⟨_,_,_,_,h⟩ => nomatch h
  | c :: rest => decidable_of_iff (isWordStart c = true ∧ rest.all isWordPart = true)
      ⟨fun h => ⟨c,rest,h.1,List.all_eq_true.mp h.2,rfl⟩,fun ⟨_,_,hc,hrest,h⟩ => by
        cases h
        exact ⟨hc,List.all_eq_true.mpr hrest⟩⟩

def IsDigits (cs : List Char) : Prop := cs ≠ [] ∧ ∀ c ∈ cs, c.isDigit = true

/-- Decimal digits, or hexadecimal ones behind their mark. -/
def IsInt (cs : List Char) : Prop :=
  IsDigits cs ∨ ∃ x digits, (x = 'x' ∨ x = 'X') ∧ digits ≠ [] ∧
    (∀ c ∈ digits, isHexDigit c = true) ∧ cs = '0' :: x :: digits

def IsExponent (cs : List Char) : Prop :=
  ∃ e sign digits, (e = 'e' ∨ e = 'E') ∧ (sign = [] ∨ sign = ['+'] ∨ sign = ['-']) ∧
    IsDigits digits ∧ cs = e :: (sign ++ digits)

/-- Digits with a point behind them and perhaps more digits and an exponent, or with an exponent. -/
def IsFloat (cs : List Char) : Prop :=
  (∃ whole fraction exponent, IsDigits whole ∧ (∀ c ∈ fraction, c.isDigit = true) ∧
    (exponent = [] ∨ IsExponent exponent) ∧ cs = whole ++ '.' :: (fraction ++ exponent)) ∨
  ∃ whole exponent, IsDigits whole ∧ IsExponent exponent ∧ cs = whole ++ exponent

/-- What may stand between two quotes: no line feed, and the quote only behind a backslash. -/
inductive InQuotes (quote : Char) : List Char → Prop
  | nil : InQuotes quote []
  | plain (c : Char) (rest : List Char) (hquote : c ≠ quote) (hline : c ≠ '\n')
      (hescape : c ≠ '\\') (hrest : InQuotes quote rest) : InQuotes quote (c :: rest)
  | escaped (c : Char) (rest : List Char) (hline : c ≠ '\n') (hrest : InQuotes quote rest) :
      InQuotes quote ('\\' :: c :: rest)

def IsText (cs : List Char) : Prop :=
  ∃ quote inside, (quote = '"' ∨ quote = '\'') ∧ InQuotes quote inside ∧
    cs = quote :: (inside ++ [quote])

/-- The spellings of a kind of token. -/
def Terminal.Spells : Terminal → List Char → Prop
  | keyword k, cs => cs = k.spelling.toList
  | mark m, cs => cs = [m.spelling]
  | word, cs => IsWord cs
  | int, cs => IsInt cs
  | float, cs => IsFloat cs
  | text, cs => IsText cs

def Lexeme.Spelled (l : Lexeme) : Prop := l.terminal.Spells l.spelling.toList

/-- A stretch of blanks, or a comment to the end of its line or to its first closing mark. -/
inductive Ignored : List Char → Prop
  | blanks (cs : List Char) (h : ∀ c ∈ cs, isSpace c = true) : Ignored cs
  | line (cs : List Char) (h : ∀ c ∈ cs, c ≠ '\n') : Ignored ('/' :: '/' :: cs)
  | block (cs : List Char) (h : ¬ ['*','/'] <:+: cs ++ ['*']) :
      Ignored ('/' :: '*' :: (cs ++ ['*','/']))

/-! ## What is recognized is spelled so -/

theorem take_takeWhile (p : Char → Bool) (cs : List Char) :
    cs.take (cs.takeWhile p).length = cs.takeWhile p :=
  (List.prefix_iff_eq_take.mp (List.takeWhile_prefix p)).symm

theorem isWord_take {cs : List Char} (h : 0 < wordLength cs) :
    IsWord (cs.take (wordLength cs)) := by
  cases cs with
  | nil => cases h
  | cons c rest =>
    by_cases hc : isWordStart c = true
    · refine ⟨c,rest.takeWhile isWordPart,hc,fun _ => List.mem_takeWhile_imp,?_⟩
      rw [wordLength,if_pos hc,Nat.add_comm,List.take_succ_cons,take_takeWhile]
    · simp [wordLength,hc] at h

theorem isDigits_take {cs : List Char} (h : 0 < digitsLength cs) :
    IsDigits (cs.take (digitsLength cs)) := by
  rw [digitsLength,take_takeWhile]
  exact ⟨List.length_pos_iff.mp h,fun _ => List.mem_takeWhile_imp⟩

theorem isInt_take {cs : List Char} (h : 0 < intLength cs) : IsInt (cs.take (intLength cs)) := by
  unfold intLength at h ⊢
  split at h
  · rename_i x rest
    by_cases hx : ((x == 'x' || x == 'X') && decide (0 < (rest.takeWhile isHexDigit).length)) = true
    · simp only [hx,if_true]
      simp only [Bool.and_eq_true,Bool.or_eq_true,beq_iff_eq,decide_eq_true_eq] at hx
      refine .inr ⟨x,rest.takeWhile isHexDigit,hx.1,List.length_pos_iff.mp hx.2,
        fun _ => List.mem_takeWhile_imp,?_⟩
      rw [Nat.add_comm,List.take_succ_cons,List.take_succ_cons,take_takeWhile]
    · simp only [hx,Bool.false_eq_true,if_false] at h ⊢
      exact .inl (isDigits_take h)
  · exact .inl (isDigits_take h)

/-- An exponent has a sign or none, and counts only with digits behind it. -/
theorem exists_sign (e : Char) (rest : List Char) : ∃ sign : List Char,
    (sign = [] ∨ sign = ['+'] ∨ sign = ['-']) ∧ sign = rest.take sign.length ∧
      exponentLength (e :: rest) =
        if (e == 'e' || e == 'E') = true then
          if digitsLength (rest.drop sign.length) = 0 then 0
          else 1 + sign.length + digitsLength (rest.drop sign.length)
        else 0 := by
  cases rest with
  | nil => exact ⟨[],.inl rfl,rfl,rfl⟩
  | cons s rest =>
    by_cases hs : (s == '+' || s == '-') = true
    · refine ⟨[s],by simpa using hs,rfl,?_⟩
      simp only [exponentLength,hs,if_true,List.length_singleton]
    · refine ⟨[],.inl rfl,rfl,?_⟩
      simp only [exponentLength,hs,Bool.false_eq_true,if_false,List.length_nil]

theorem isExponent_take {cs : List Char} (h : 0 < exponentLength cs) :
    IsExponent (cs.take (exponentLength cs)) := by
  cases cs with
  | nil => cases h
  | cons e rest =>
    obtain ⟨sign,hsign,htake,hlength⟩ := exists_sign e rest
    rw [hlength] at h ⊢
    by_cases he : (e == 'e' || e == 'E') = true
    · by_cases hd : digitsLength (rest.drop sign.length) = 0
      · simp [hd] at h
      · rw [if_pos he,if_neg hd]
        have hdigits := isDigits_take (Nat.pos_of_ne_zero hd)
        refine ⟨e,sign,_,by simpa using he,hsign,hdigits,?_⟩
        rw [Nat.add_assoc,Nat.add_comm,List.take_succ_cons,List.take_add,← htake]
    · simp [he] at h

theorem isFloat_take {cs : List Char} (h : 0 < floatLength cs) :
    IsFloat (cs.take (floatLength cs)) := by
  unfold floatLength at h ⊢
  by_cases hw : digitsLength cs = 0
  · simp [hw] at h
  have hwhole := isDigits_take (Nat.pos_of_ne_zero hw)
  simp only [hw,if_false] at h ⊢
  split at h
  · rename_i rest hrest
    have hfraction : rest.take (digitsLength rest) = rest.takeWhile Char.isDigit :=
      take_takeWhile Char.isDigit rest
    let exponent := rest.drop (digitsLength rest)
    refine .inl ⟨_,rest.takeWhile Char.isDigit,exponent.take (exponentLength exponent),hwhole,
      fun _ => List.mem_takeWhile_imp,?_,?_⟩
    · rcases Nat.eq_zero_or_pos (exponentLength exponent) with he | he
      · exact .inl (by rw [he,List.take_zero])
      · exact .inr (isExponent_take he)
    · rw [Nat.add_assoc,Nat.add_assoc,List.take_add,hrest,Nat.add_comm 1,List.take_succ_cons,
        List.take_add,hfraction]
  · by_cases he : exponentLength (cs.drop (digitsLength cs)) = 0
    · simp [he] at h
    · rw [if_neg he]
      refine .inr ⟨_,_,hwhole,isExponent_take (Nat.pos_of_ne_zero he),?_⟩
      rw [List.take_add]

theorem inQuotes_take {quote : Char} {cs : List Char} {n : ℕ}
    (h : quotedLength? quote cs = some n) :
    ∃ inside, InQuotes quote inside ∧ cs.take n = inside ++ [quote] := by
  fun_induction quotedLength? quote cs generalizing n with
  | case1 => cases h
  | case2 rest => cases h
  | case3 c rest hc ih =>
    obtain ⟨m,hm,rfl⟩ := Option.map_eq_some_iff.mp h
    obtain ⟨inside,hin,htake⟩ := ih hm
    exact ⟨_,.escaped c inside hc hin,by rw [List.take_succ_cons,List.take_succ_cons,htake]; rfl⟩
  | case4 rest =>
    cases h
    exact ⟨[],.nil,rfl⟩
  | case5 => cases h
  | case6 c rest _ hquote hplain ih =>
    obtain ⟨m,hm,rfl⟩ := Option.map_eq_some_iff.mp h
    obtain ⟨inside,hin,htake⟩ := ih hm
    simp only [Bool.or_eq_true,decide_eq_true_eq,not_or] at hplain
    exact ⟨_,.plain c inside hquote hplain.1 hplain.2 hin,by rw [List.take_succ_cons,htake]; rfl⟩

theorem isText_take {cs : List Char} (h : 0 < textLength cs) :
    IsText (cs.take (textLength cs)) := by
  cases cs with
  | nil => cases h
  | cons c rest =>
    by_cases hc : (decide (c = '"') || decide (c = '\'')) = true
    · cases hq : quotedLength? c rest with
      | none => simp [textLength,hq] at h
      | some n =>
        obtain ⟨inside,hin,htake⟩ := inQuotes_take hq
        refine ⟨c,inside,by simpa using hc,hin,?_⟩
        simp [textLength,hc,hq,htake]
    · simp [textLength,hc] at h

/-- What is found at the start of a text is spelled as that kind of token. -/
theorem spells_take {t : Terminal} {cs : List Char} (h : 0 < t.length cs) :
    t.Spells (cs.take (t.length cs)) := by
  cases t with
  | keyword k =>
    by_cases hk : k.spelling.toList.isPrefixOf cs = true
    · simp only [Terminal.Spells,Terminal.length,keywordLength,hk,if_true]
      rw [← String.length_toList]
      exact (List.prefix_iff_eq_take.mp (List.isPrefixOf_iff_prefix.mp hk)).symm
    · simp [Terminal.length,keywordLength,hk] at h
  | mark m =>
    by_cases hm : cs.head? = some m.spelling
    · obtain ⟨rest,rfl⟩ := List.head?_eq_some_iff.mp hm
      simp [Terminal.Spells,Terminal.length,markLength]
    · simp [Terminal.length,markLength,hm] at h
  | word => exact isWord_take h
  | int => exact isInt_take h
  | float => exact isFloat_take h
  | text => exact isText_take h

theorem keywordOf?_eq_some {acceptable : List Terminal} {word : List Char} {k : Keyword}
    (h : keywordOf? acceptable word = some k) :
    .keyword k ∈ acceptable ∧ k.spelling.toList = word := by
  obtain ⟨t,ht,hk⟩ := List.exists_of_findSome?_eq_some h
  cases t with
  | keyword k' =>
    by_cases hs : k'.spelling.toList = word
    · simp only [hs,if_true,Option.some.injEq] at hk
      exact ⟨hk ▸ ht,hk ▸ hs⟩
    · simp [hs] at hk
  | _ => cases hk

/-- What is recognized is acceptable, and spelled as its kind of token. -/
theorem spells_recognize {acceptable : List Terminal} {cs : List Char} {t : Terminal} {n : ℕ}
    (h : recognize acceptable cs = some (t,n)) (hn : n ≠ 0) :
    t ∈ acceptable ∧ t.Spells (cs.take n) := by
  have hmatching {u : Terminal} (hu : u ∈ acceptable.filter fun t => 0 < t.length cs) :
      u ∈ acceptable ∧ u.Spells (cs.take (u.length cs)) := by
    obtain ⟨hmem,hpos⟩ := List.mem_filter.mp hu
    exact ⟨hmem,spells_take (of_decide_eq_true hpos)⟩
  unfold recognize at h
  dsimp only at h
  split at h
  · rename_i hf
    cases h
    exact hmatching hf
  · split at h
    · rename_i hw
      split at h <;> cases h
      · rename_i hk
        obtain ⟨hmem,hs⟩ := keywordOf?_eq_some hk
        exact ⟨hmem,hs.symm⟩
      · exact hmatching hw
    · obtain ⟨u,hu,he⟩ := Option.map_eq_some_iff.mp h
      cases he
      exact hmatching (List.mem_of_head? hu)

end SchemaCodec.Grammar
