import SchemaCodec.Proofs.FileTree
import SchemaCodec.Proofs.Grammar.Reading
import SchemaCodec.Text.Line

/-! # Places in a text

A place is counted in the line feeds before it and in the characters behind the last of them. Tokens
begin where they are read, and reading goes on behind them.
-/
namespace SchemaCodec.Grammar
open Text

/-- What stands behind the last line feed. -/
def lastLine (cs : List Char) : List Char := (cs.reverse.takeWhile (· ≠ '\n')).reverse

theorem lastLine_append_of_mem {ys : List Char} (xs : List Char) (h : '\n' ∈ ys) :
    lastLine (xs ++ ys) = lastLine ys := by
  rw [lastLine,lastLine,List.reverse_append,List.takeWhile_append,if_neg]
  intro hlength
  have hall := List.takeWhile_eq_self_iff.mp
    ((List.takeWhile_prefix (· ≠ '\n')).eq_of_length hlength)
  simpa using hall '\n' (List.mem_reverse.mpr h)

theorem lastLine_append_of_not_mem {ys : List Char} (xs : List Char) (h : '\n' ∉ ys) :
    lastLine (xs ++ ys) = lastLine xs ++ ys := by
  rw [lastLine,lastLine,List.reverse_append,List.takeWhile_append_of_pos,List.reverse_append,
    List.reverse_reverse]
  intro c hc
  have hne : c ≠ '\n' := fun he => h (he ▸ List.mem_reverse.mp hc)
  simpa using hne

theorem lastLine_of_not_mem {cs : List Char} (h : '\n' ∉ cs) : lastLine cs = cs :=
  lastLine_append_of_not_mem [] h

theorem lastLine_line_feed (before : List Char) {rest : List Char} (h : '\n' ∉ rest) :
    lastLine (before ++ '\n' :: rest) = rest := by
  rw [lastLine_append_of_mem _ List.mem_cons_self]
  exact lastLine_append_of_not_mem ['\n'] h

theorem lastLine_cons {c : Char} {cs : List Char} (h : c ≠ '\n' → '\n' ∈ cs) :
    lastLine (c :: cs) = lastLine cs := by
  by_cases hcs : '\n' ∈ cs
  · exact lastLine_append_of_mem [c] hcs
  · obtain rfl : c = '\n' := by
      by_contra hc
      exact hcs (h hc)
    exact (lastLine_line_feed [] hcs).trans (lastLine_of_not_mem hcs).symm

theorem mem_of_mem_lastLine {c : Char} {cs : List Char} (h : c ∈ lastLine cs) : c ∈ cs :=
  List.mem_reverse.mp ((List.takeWhile_sublist _).mem (List.mem_reverse.mp h))

namespace Position

theorem after_append (p : Position) (xs ys : List Char) :
    p.after (xs ++ ys) = (p.after xs).after ys := List.foldl_append

/-- A place is counted in the line feeds before it and in the characters behind the last one. -/
theorem start_after (cs : List Char) :
    start.after cs = ⟨1 + cs.count '\n',1 + (lastLine cs).length⟩ := by
  induction cs using List.reverseRecOn with
  | nil => rfl
  | append_singleton cs c ih =>
    rw [after_append,ih]
    by_cases hc : c = '\n'
    · simp [after,step,lastLine,hc,Nat.add_assoc]
    · simp [after,step,lastLine,hc,Nat.add_assoc]

end Position

/-! ## Lines -/

theorem length_split (sep : Char) (cs : List Char) : (split sep cs).length = cs.count sep + 1 := by
  induction cs with
  | nil => rfl
  | cons c cs ih =>
    by_cases hc : c = sep
    · rw [split,if_pos hc,List.length_cons,ih,hc,List.count_cons_self]
    · rw [split,if_neg hc,List.count_cons_of_ne hc]
      obtain ⟨piece,more,hsplit⟩ := List.exists_cons_of_ne_nil (split_ne_nil sep cs)
      rw [hsplit] at ih ⊢
      exact ih

/-- A line is what stands behind the last line feed of the text up to its end. -/
theorem split_eq {before line rest : List Char} (hline : '\n' ∉ line)
    (hrest : ∀ c ∈ rest.head?, c = '\n') :
    (split '\n' (before ++ line ++ rest))[before.count '\n']? = some (lastLine before ++ line) := by
  have hlast : (split '\n' (before ++ line))[before.count '\n']? =
      some (lastLine before ++ line) := by
    by_cases hbefore : '\n' ∈ before
    · obtain ⟨last,front,he,hlast⟩ := List.eq_append_cons_of_mem (List.mem_reverse.mpr hbefore)
      obtain rfl : before = front.reverse ++ '\n' :: last.reverse := by
        rw [← List.reverse_reverse before,he]
        simp
      have hlast : '\n' ∉ last.reverse := by simpa using hlast
      have hcount : (front.reverse ++ '\n' :: last.reverse).count '\n' =
          (split '\n' front.reverse).length := by
        rw [length_split,List.count_append,List.count_cons_self,List.count_eq_zero_of_not_mem hlast]
      rw [hcount,lastLine_line_feed _ hlast,List.append_assoc,List.cons_append,split_append,
        List.getElem?_append_right le_rfl,Nat.sub_self,split_of_not_mem]
      · rfl
      · simpa [hline] using hlast
    · rw [List.count_eq_zero_of_not_mem hbefore,lastLine_of_not_mem hbefore,split_of_not_mem]
      · rfl
      · simp [hbefore,hline]
  cases rest with
  | nil => rwa [List.append_nil]
  | cons c rest =>
    rw [hrest c rfl,split_append,List.getElem?_append_left]
    · exact hlast
    · exact (List.getElem?_eq_some_iff.mp hlast).1

/-- Every line ends at a line feed or with the text. -/
theorem exists_of_split {text line : List Char} {i : ℕ} (h : (split '\n' text)[i]? = some line) :
    ∃ before rest, text = before ++ rest ∧ lastLine before = line ∧ before.count '\n' = i ∧
      ∀ c ∈ rest.head?, c = '\n' := by
  induction text generalizing line i with
  | nil =>
    cases i with
    | zero =>
      cases h
      exact ⟨[],[],rfl,rfl,rfl,by simp⟩
    | succ i => cases h
  | cons c text ih =>
    by_cases hc : c = '\n'
    · rw [split,if_pos hc] at h
      subst hc
      cases i with
      | zero =>
        cases h
        exact ⟨[],'\n' :: text,rfl,rfl,rfl,by simp⟩
      | succ i =>
        obtain ⟨before,rest,rfl,hlast,hcount,hrest⟩ := ih h
        exact ⟨'\n' :: before,rest,rfl,(lastLine_cons (absurd rfl)).trans hlast,
          by simp [hcount],hrest⟩
    · rw [split,if_neg hc] at h
      obtain ⟨piece,more,hsplit⟩ := List.exists_cons_of_ne_nil (split_ne_nil '\n' text)
      rw [hsplit] at h ih
      cases i with
      | zero =>
        cases h
        obtain ⟨before,rest,rfl,hlast,hcount,hrest⟩ := ih (i := 0) rfl
        have hnone : '\n' ∉ before := List.count_eq_zero.mp hcount
        have hcons : '\n' ∉ c :: before := by simp [hnone,Ne.symm hc]
        refine ⟨c :: before,rest,rfl,?_,List.count_eq_zero.mpr hcons,hrest⟩
        rw [lastLine_of_not_mem hcons,← hlast,lastLine_of_not_mem hnone]
      | succ i =>
        obtain ⟨before,rest,rfl,hlast,hcount,hrest⟩ := ih (i := i + 1) h
        have hmem : '\n' ∈ before := List.count_pos_iff.mp (by omega)
        exact ⟨c :: before,rest,rfl,(lastLine_cons fun _ => hmem).trans hlast,
          by simp [hcount,hc],hrest⟩

/-- Where only line feeds end lines, a text is cut at its line feeds; a last line that is empty does
not count. -/
theorem lines_eq_split {text : List Char} (h : ∀ c ∈ text, isLineEnd c = true → c = '\n') :
    split '\n' text = Text.lines text ∨ split '\n' text = Text.lines text ++ [[]] := by
  induction text with
  | nil => exact .inr rfl
  | cons c rest ih =>
    obtain ⟨hc,hrest⟩ := List.forall_mem_cons.mp h
    by_cases hfeed : c = '\n'
    · subst hfeed
      have hlines : Text.lines ('\n' :: rest) = [] :: Text.lines rest := by
        rw [Text.lines,if_pos (by decide)]
        simp
      rw [split,if_pos rfl,hlines]
      exact (ih hrest).imp (congrArg _) (congrArg _)
    · have hend : isLineEnd c = false := by
        by_contra he
        exact hfeed (hc (by simpa using he))
      have hreturn (tail : List Char) (hc : c = '\r') (_ : rest = '\n' :: tail) : False := by
        subst hc
        exact absurd hend (by decide)
      have hlines := Text.lines.eq_3 c rest hreturn
      rw [if_neg (by simp [hend])] at hlines
      rw [split,if_neg hfeed,hlines]
      rcases ih hrest with hsplit | hsplit
      · obtain ⟨piece,more,hpieces⟩ := List.exists_cons_of_ne_nil (split_ne_nil '\n' rest)
        rw [← hsplit,hpieces]
        exact .inl rfl
      · rw [hsplit]
        cases Text.lines rest with
        | nil => exact .inl rfl
        | cons line more => exact .inr rfl

/-! ## Tokens -/

/-- What is recognized takes characters. -/
theorem recognize_pos {acceptable : List Terminal} {cs : List Char} {t : Terminal} {n : ℕ}
    (h : recognize acceptable cs = some (t,n)) : n ≠ 0 := by
  have hmatching {u : Terminal} (hu : u ∈ acceptable.filter fun t => 0 < t.length cs) :
      u.length cs ≠ 0 := Nat.ne_of_gt (of_decide_eq_true (List.mem_filter.mp hu).2)
  unfold recognize at h
  dsimp only at h
  split at h
  · rename_i hf
    cases h
    exact hmatching hf
  · split at h
    · rename_i hw
      split at h <;> cases h <;> exact hmatching hw
    · obtain ⟨u,hu,he⟩ := Option.map_eq_some_iff.mp h
      cases he
      exact hmatching (List.mem_of_head? hu)

/-- A token begins where it is read, and reading goes on behind it. -/
theorem place_of_next? {c d : Cursor} {acceptable : List Terminal} {t : Token}
    (h : c.next? acceptable = some (t,d)) :
    t.position = c.position ∧ d.position = c.position.after t.lexeme.spelling.toList := by
  obtain ⟨-,-,hrest⟩ := next?_sound h
  obtain ⟨u,n,-,-,rfl,rfl⟩ := Cursor.next?_eq_some h
  refine ⟨rfl,?_⟩
  rw [Cursor.advance] at hrest ⊢
  rw [List.append_cancel_right (hrest.symm.trans (List.take_append_drop n c.rest).symm)]

end SchemaCodec.Grammar
