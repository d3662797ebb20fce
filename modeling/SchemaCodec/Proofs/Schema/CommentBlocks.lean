import Mathlib.Data.List.DropRight
import SchemaCodec.Proofs.Schema.DeclarationLines
import SchemaCodec.Proofs.Schema.SyntaxFaults

/-! # Comments above declarations

A text is cut into lines at more ends than line feeds, so a line that is counted in line feeds is
always among its lines. The comment above it is the longest block of comment lines that ends there.
-/
namespace SchemaCodec
open Grammar Text

/-! ## Lines of both counts -/

namespace Text

theorem length_lines_le_cons (c : Char) (cs : List Char) :
    (lines cs).length ≤ (lines (c :: cs)).length := by
  by_cases hpair : c = '\r' ∧ cs.head? = some '\n'
  · obtain ⟨rfl,hcs⟩ := hpair
    obtain ⟨rest,rfl⟩ := List.head?_eq_some_iff.mp hcs
    have hend : isLineEnd '\n' = true := by decide
    rw [lines,lines,if_pos hend]
    · simp
  · have hnot : ∀ rest, c = '\r' → cs ≠ '\n' :: rest := by
      rintro rest rfl rfl
      exact hpair ⟨rfl,rfl⟩
    rw [lines]
    · split
      · simp
      · split <;> simp_all
    · exact hnot

theorem length_lines_line_feed (cs : List Char) :
    (lines ('\n' :: cs)).length = (lines cs).length + 1 := by
  have hend : isLineEnd '\n' = true := by decide
  rw [lines,if_pos hend,List.length_cons]
  rintro _ ⟨⟩

theorem lines_ne_nil {cs : List Char} (h : cs ≠ []) : lines cs ≠ [] := by
  fun_cases lines cs <;> simp_all

/-- Each line feed ends a line, and what is left behind the last one is on a line as well. -/
theorem count_lt_length_lines {rest : List Char} (h : rest ≠ []) (before : List Char) :
    before.count '\n' < (lines (before ++ rest)).length := by
  induction before with
  | nil => exact List.length_pos_of_ne_nil (lines_ne_nil h)
  | cons c before ih =>
    by_cases hc : c = '\n'
    · subst hc
      rw [List.cons_append,length_lines_line_feed,List.count_cons_self]
      omega
    · have hmono := length_lines_le_cons c (before ++ rest)
      rw [List.cons_append,List.count_cons_of_ne hc]
      omega

theorem joinLines_eq_join (ls : List (List Char)) : joinLines ls = join ['\n'] ls := by
  induction ls using joinLines.induct with
  | case1 => rfl
  | case2 line => rfl
  | case3 line rest hrest ih =>
    obtain ⟨next,more,rfl⟩ := List.exists_cons_of_ne_nil hrest
    rw [joinLines,ih,join_cons_cons,List.append_assoc]
    · rfl
    · exact hrest

/-- The longest block of comment lines at the end of some lines. -/
structure ClosingBlock (above block : List (List Char)) : Prop where
  ends : ∃ others, above = others ++ block ∧ ∀ line ∈ others.getLast?, isCommentLine line = false
  comments : ∀ line ∈ block, isCommentLine line = true

theorem closingBlock_commentBlock (ls : List (List Char)) (line : ℕ) :
    ClosingBlock (ls.take (line - 1)) (commentBlock ls line) where
  ends := by
    have hwhole : (ls.take (line - 1)).rdropWhile isCommentLine ++ commentBlock ls line =
        ls.take (line - 1) := List.rdropWhile_append_rtakeWhile
    refine ⟨_,hwhole.symm,fun last hlast => ?_⟩
    obtain ⟨hne,he⟩ := List.mem_getLast?_eq_getLast hlast
    rw [he]
    exact Bool.not_eq_true _ ▸ List.rdropWhile_last_not isCommentLine _ hne
  comments := fun line hline => List.mem_rtakeWhile_imp hline

/-- Below a comment line, the comment of a line is the whole block that ends there. -/
theorem commentAt_of_above {ls : List (List Char)} {line : ℕ} {above : List Char}
    (hline : 2 ≤ line) (habove : ls[line - 2]? = some above) (h : isCommentLine above = true) :
    ∃ block, ClosingBlock (ls.take (line - 1)) block ∧ block.getLast? = some above ∧
      commentAt ls line = some (join ['\n'] (block.map commentBody)) := by
  have htake : ls.take (line - 1) = ls.take (line - 2) ++ [above] := by
    rw [show line - 1 = line - 2 + 1 by omega,List.take_add_one,habove]
    rfl
  have hblock : commentBlock ls line =
      (ls.take (line - 2)).rtakeWhile isCommentLine ++ [above] := by
    rw [commentBlock,htake]
    exact List.rtakeWhile_concat_pos isCommentLine _ above h
  refine ⟨commentBlock ls line,closingBlock_commentBlock ls line,?_,?_⟩
  · rw [hblock,List.getLast?_concat]
  · rw [commentAt,← joinLines_eq_join]
    split
    · next hnone =>
      rw [hnone] at hblock
      exact absurd hblock.symm (by simp)
    · rfl

end Text

/-! ## Tokens of a text -/

namespace Grammar

/-- A token stands in a text behind as many line feeds as its line tells. -/
def Token.StandsIn (text : List Char) (t : Token) : Prop :=
  ∃ before rest, text = before ++ (t.lexeme.spelling.toList ++ rest) ∧ t.lexeme.spelling ≠ "" ∧
    t.position.line = before.count '\n' + 1

/-- Every token is read somewhere behind the cursor that reading began at. -/
theorem exists_of_mem_tokensFrom {s : State} {c : Cursor} {t : Token} (h : t ∈ tokensFrom s c) :
    ∃ before rest, c.rest = before ++ (t.lexeme.spelling.toList ++ rest) ∧
      t.lexeme.spelling ≠ "" ∧ t.position = c.position.after before := by
  fun_induction tokensFrom s c with
  | case1 | case2 | case3 => simp at h
  | case4 s c d hne u behind hn next hs ih =>
    obtain ⟨-,-,hspelled⟩ := next?_sound hn
    obtain ⟨hplace,hbehind⟩ := place_of_next? hn
    obtain ⟨skipped,hskip,hat,-⟩ := between_skip c
    rcases List.mem_cons.mp h with rfl | h
    · refine ⟨skipped,behind.rest,?_,?_,hplace.trans hat⟩
      · rw [hskip,hspelled]
      · intro hempty
        have hshorter := Cursor.length_next? hne hn
        rw [hspelled,hempty] at hshorter
        simp at hshorter
    · obtain ⟨before,rest,hrest,hlexeme,hposition⟩ := ih h
      refine ⟨skipped ++ (u.lexeme.spelling.toList ++ before),rest,?_,hlexeme,?_⟩
      · rw [hskip,hspelled,hrest]
        simp
      · rw [hposition,hbehind,hat,Position.after_append,Position.after_append]

theorem standsIn_of_mem_tokens {text : List Char} {t : Token} (h : t ∈ tokens text) :
    t.StandsIn text := by
  obtain ⟨before,rest,htext,hne,hplace⟩ := exists_of_mem_tokensFrom h
  refine ⟨before,rest,htext,hne,?_⟩
  have hline := congrArg Position.line (hplace.trans (Position.start_after before))
  rw [hline]
  exact Nat.add_comm 1 _

/-- The line of a token is among the lines of its text. -/
theorem Token.StandsIn.line_le {text : List Char} {t : Token} (h : t.StandsIn text) :
    1 ≤ t.position.line ∧ t.position.line ≤ (Text.lines text).length := by
  obtain ⟨before,rest,rfl,hne,hline⟩ := h
  have hrest : t.lexeme.spelling.toList ++ rest ≠ [] := by simp [hne]
  have hlines := count_lt_length_lines hrest before
  omega

end Grammar

/-- Every declaration of an accepted text begins on one of the lines of the text, that of its first
token. Below a comment line it has the longest block of comment lines that ends there for its
comment. -/
theorem comments_of_draftOf {path : String} {text : List Char} {draft : FileDraft}
    (h : draftOf path text = .ok draft) : ∃ statements, read text = .ok statements ∧
      List.Forall₂ Marked.Fits (statements.flatMap Statement.marked) (tokens text) ∧
      (∀ t ∈ tokens text, t.StandsIn text) ∧
      (statements.flatMap (Statement.located draft.package)).map Located.line =
        (statements.flatMap Statement.marked).filterMap Marked.begins ∧
      draft.located.Perm (statements.flatMap (Statement.located draft.package)) ∧
      draft.lines = Text.lines text ∧
      (∀ d ∈ draft.located, 1 ≤ d.line ∧ d.line ≤ draft.lines.length ∧
        ∀ above, 2 ≤ d.line → draft.lines[d.line - 2]? = some above → isCommentLine above = true →
          ∃ block, ClosingBlock (draft.lines.take (d.line - 1)) block ∧
            block.getLast? = some above ∧
            commentAt draft.lines d.line = some (join ['\n'] (block.map commentBody))) ∧
      ∀ declared asked file, draft.build declared asked = .ok file →
        file.commented = draft.located.map fun d =>
          ⟨d.named,(commentAt draft.lines d.line).map String.ofList⟩ := by
  obtain ⟨statements,hread,hlines,hperm⟩ := located_draftOf h
  refine ⟨statements,hread,fits_of_read hread,fun t => standsIn_of_mem_tokens,
    line_located _ _,hperm,hlines,fun d hd => ?_,fun declared asked file hfile => ?_⟩
  · obtain ⟨t,ht,hline⟩ := exists_token hread (hperm.mem_iff.mp hd)
    obtain ⟨hpos,hle⟩ := (standsIn_of_mem_tokens ht).line_le
    refine ⟨hline ▸ hpos,hlines ▸ hline ▸ hle,fun above habove hsome hcomment => ?_⟩
    exact commentAt_of_above habove hsome hcomment
  · exact (commented_build hfile).2

def tabbedSource : String := "// one\x0b// two\nmessage A \x7b\x7d\n"

def tabbedDraft : FileDraft :=
  ⟨"a.proto","",[],[⟨"A",[],[],[],[],2⟩],[],Text.lines tabbedSource.toList⟩

theorem read_tabbedSource : read tabbedSource.toList = .ok [.message 2 "A" []] := by
  with_unfolding_all rfl

theorem draftOf_tabbedSource :
    draftOf "a.proto" tabbedSource.toList = .ok tabbedDraft :=
  draftOf_of_plain none read_tabbedSource rfl rfl

theorem lines_tabbedSource : tabbedDraft.lines =
    ["// one".toList,"// two".toList,"message A \x7b\x7d".toList] := by
  decide

/-- The tab ends a line but is no line feed, so the second comment is on the line of the message. -/
theorem tabbedSource_commented :
    draftOf "a.proto" tabbedSource.toList = .ok tabbedDraft ∧
    ⟨.message "A",2⟩ ∈ tabbedDraft.located ∧ tabbedDraft.lines[1]? = some "// two".toList ∧
    commentAt tabbedDraft.lines 2 = some "one".toList := by
  obtain ⟨statements,-,-,-,-,-,-,hcomments,-⟩ := comments_of_draftOf draftOf_tabbedSource
  have hlocated : tabbedDraft.located = [⟨.message "A",2⟩] := by
    simp [tabbedDraft,FileDraft.located,locatedWithin,qualify]
  have hd : ⟨.message "A",2⟩ ∈ tabbedDraft.located := hlocated ▸ List.mem_singleton_self _
  obtain ⟨-,-,habove⟩ := hcomments _ hd
  obtain ⟨block,hblock,hlast,hcomment⟩ := habove "// one".toList le_rfl
    (by rw [lines_tabbedSource]; rfl) (by decide)
  refine ⟨draftOf_tabbedSource,hd,by rw [lines_tabbedSource]; rfl,?_⟩
  have hone : block = ["// one".toList] := by
    obtain ⟨others,habove,-⟩ := hblock.ends
    have hfirst : tabbedDraft.lines.take 1 = ["// one".toList] := by rw [lines_tabbedSource]; rfl
    rcases List.append_eq_singleton_iff.mp (habove.symm.trans hfirst) with ⟨-,h⟩ | ⟨-,rfl⟩
    · exact h
    · simp at hlast
  rw [hcomment,hone]
  decide

end SchemaCodec
