import SchemaCodec.Proofs.Grammar.Places
import SchemaCodec.Proofs.Grammar.Viability
import SchemaCodec.Schema.Build

/-! # Where a text departs from the grammar

A text that is not read is refused where no beginning of a sentence goes on: the tokens before that
place begin a sentence, and what stands there continues none. A text that ends too early is blamed
on its last token.
-/
namespace SchemaCodec.Grammar
open Text

/-! ## What is found at a place -/

theorem digitsLength_pos {c : Char} {cs : List Char} (hc : c.isDigit = true) :
    0 < digitsLength (c :: cs) := by
  simp [digitsLength,hc]

theorem intLength_pos {c : Char} {cs : List Char} (hc : c.isDigit = true) :
    0 < intLength (c :: cs) := by
  have hpos : 0 < digitsLength (c :: cs) := digitsLength_pos hc
  unfold intLength
  split
  · rename_i x rest he
    rw [he] at hpos
    dsimp only
    split
    · omega
    · exact hpos
  · exact hpos

theorem exponentLength_pos {cs : List Char} (h : IsExponent cs) (more : List Char) :
    0 < exponentLength (cs ++ more) := by
  obtain ⟨e,sign,digits,he,hsign,hdigits,rfl⟩ := h
  obtain ⟨d,digits,rfl⟩ := List.exists_cons_of_ne_nil hdigits.1
  have hd := hdigits.2 d List.mem_cons_self
  have hmark : (e == 'e' || e == 'E') = true := by simpa using he
  have hne : digitsLength (d :: (digits ++ more)) ≠ 0 := Nat.ne_of_gt (digitsLength_pos hd)
  rcases hsign with rfl | rfl | rfl
  · have hplus : (d == '+') = false := by rw [beq_eq_false_iff_ne]; rintro rfl; cases hd
    have hminus : (d == '-') = false := by rw [beq_eq_false_iff_ne]; rintro rfl; cases hd
    simp only [exponentLength,List.cons_append,List.nil_append,hmark,hplus,hminus,Bool.or_false,
      Bool.false_eq_true,if_true,if_false,List.drop_zero,hne]
    omega
  all_goals
    simp only [exponentLength,List.cons_append,List.nil_append,hmark,beq_self_eq_true,Bool.or_true,
      Bool.true_or,if_true,if_false,List.drop_succ_cons,List.drop_zero,hne]
    omega

theorem isDigit_exponent {cs : List Char} (h : IsExponent cs) :
    ∃ e more, cs = e :: more ∧ e.isDigit = false ∧ e ≠ '.' := by
  obtain ⟨e,sign,digits,rfl | rfl,-,-,rfl⟩ := h
  · exact ⟨'e',_,rfl,rfl,by decide⟩
  · exact ⟨'E',_,rfl,rfl,by decide⟩

theorem floatLength_pos {cs more : List Char} (h : IsFloat cs) : 0 < floatLength (cs ++ more) := by
  rcases h with ⟨whole,fraction,exponent,hw,-,-,rfl⟩ | ⟨whole,exponent,hw,he,rfl⟩
  · have hlength : digitsLength (whole ++ ('.' :: (fraction ++ exponent) ++ more)) =
        whole.length := by
      rw [digitsLength,takeWhile_stop hw.2 (by simp)]
    have hne : whole.length ≠ 0 := fun h0 => hw.1 (List.length_eq_zero_iff.mp h0)
    rw [List.append_assoc]
    simp only [floatLength,hlength,hne,if_false,List.drop_left]
    show 0 < whole.length + 1 + _ + _
    omega
  · obtain ⟨e,tail,hcons,hdigit,hdot⟩ := isDigit_exponent he
    have hlength : digitsLength (whole ++ (exponent ++ more)) = whole.length := by
      rw [digitsLength,takeWhile_stop hw.2 (by simp [hcons,hdigit])]
    have hne : whole.length ≠ 0 := fun h0 => hw.1 (List.length_eq_zero_iff.mp h0)
    have hpos := exponentLength_pos he more
    rw [List.append_assoc]
    simp only [floatLength,hlength,hne,if_false,List.drop_left]
    rw [hcons,List.cons_append] at hpos ⊢
    split
    · rename_i hhead
      exact absurd (List.cons.inj hhead).1 hdot
    · rename_i hhead
      split <;> omega

/-- What is spelled as a kind of token is found as one at the start of a text. -/
theorem length_pos_of_spells {t : Terminal} {cs : List Char} (h : t.Spells cs)
    (more : List Char) : 0 < t.length (cs ++ more) := by
  obtain ⟨c,tail,hcons,hopens⟩ := exists_opens_of_spells h
  cases t with
  | keyword k =>
    rw [show cs = k.spelling.toList from h] at hcons ⊢
    have hpos : 0 < k.spelling.length := by simp [← String.length_toList,hcons]
    simpa [Terminal.length,keywordLength,List.isPrefixOf_iff_prefix] using hpos
  | mark m =>
    have hc : c = m.spelling := hopens
    simp [hcons,Terminal.length,markLength,hc]
  | word =>
    have hc : isWordStart c = true := hopens
    rw [hcons,List.cons_append,Terminal.length,wordLength,if_pos hc]
    omega
  | int =>
    rw [hcons]
    exact intLength_pos hopens
  | float => exact floatLength_pos h
  | text =>
    rw [Terminal.length,textLength_append h,hcons]
    exact Nat.succ_pos _

/-- Where nothing is recognized, no acceptable kind of token is found. -/
theorem length_eq_zero_of_recognize {acceptable : List Terminal} {cs : List Char}
    (h : recognize acceptable cs = none) {t : Terminal} (ht : t ∈ acceptable) :
    t.length cs = 0 := by
  unfold recognize at h
  dsimp only at h
  split at h
  · cases h
  · split at h
    · split at h <;> cases h
    · have hnone := List.head?_eq_none_iff.mp (Option.map_eq_none_iff.mp h)
      simpa using List.filter_eq_nil_iff.mp hnone t ht

theorem recognize_of_next? {c : Cursor} {acceptable : List Terminal}
    (h : c.next? acceptable = none) : recognize acceptable c.rest = none := by
  unfold Cursor.next? at h
  split at h
  · assumption
  · rename_i u n hu
    rw [if_neg (recognize_pos hu)] at h
    cases h

/-! ## Stretches of a text -/

theorem Woven.append {as bs : List Char} {ls ks : List Lexeme} (ha : Woven as ls)
    (hb : Woven bs ks) : Woven (as ++ bs) (ls ++ ks) := by
  induction ha with
  | done => exact hb
  | ignored h _ ih =>
    rw [List.append_assoc]
    exact .ignored h ih
  | lexeme _ ih =>
    rw [List.append_assoc]
    exact .lexeme ih

/-- These lexemes with what is ignored between them stand between two places. -/
def Between (c : Cursor) (ls : List Lexeme) (d : Cursor) : Prop :=
  ∃ stretch, c.rest = stretch ++ d.rest ∧ d.position = c.position.after stretch ∧ Woven stretch ls

theorem Between.refl (c : Cursor) : Between c [] c := ⟨[],rfl,rfl,.done⟩

theorem Between.trans {c d e : Cursor} {ls ks : List Lexeme} (h : Between c ls d)
    (h' : Between d ks e) : Between c (ls ++ ks) e := by
  obtain ⟨as,hrest,hplace,ha⟩ := h
  obtain ⟨bs,hrest',hplace',hb⟩ := h'
  refine ⟨as ++ bs,?_,?_,ha.append hb⟩
  · rw [hrest,hrest',List.append_assoc]
  · rw [hplace',hplace,Position.after_append]

theorem between_skip (c : Cursor) : Between c [] c.skip := by
  fun_induction Cursor.skip c with
  | case1 c => exact .refl c
  | case2 c _ _ ih =>
    have hstep : Between c [] (c.advance (ignoredLength c.rest)) := by
      refine ⟨c.rest.take (ignoredLength c.rest),(List.take_append_drop ..).symm,rfl,?_⟩
      have hwoven := Woven.ignored (ignored_take c.rest) .done
      rwa [List.append_nil] at hwoven
    exact hstep.trans ih

theorem between_next? {c d : Cursor} {acceptable : List Terminal} {t : Token}
    (h : c.next? acceptable = some (t,d)) : Between c [t.lexeme] d := by
  refine ⟨t.lexeme.spelling.toList,(next?_sound h).2.2,(place_of_next? h).2,?_⟩
  have hwoven := Woven.lexeme (l := t.lexeme) .done
  rwa [List.append_nil] at hwoven

/-! ## Steps over tokens -/

/-- Reading steps over these tokens. -/
inductive Reads : State → Cursor → List Token → State → Cursor → Prop
  | done (s : State) (c : Cursor) : Reads s c [] s c
  | token {s s' s'' : State} {c d e : Cursor} {t : Token} {ts : List Token}
      (hn : c.skip.next? s.expected = some (t,d)) (hs : s.step t = some s')
      (h : Reads s' d ts s'' e) : Reads s c (t :: ts) s'' e

namespace Reads
variable {s s' : State} {c d : Cursor} {ts : List Token} {t : Token}

theorem run (h : Reads s c ts s' d) : ts.foldlM State.step s = some s' := by
  induction h with
  | done => rfl
  | token _ hs _ ih =>
    rw [List.foldlM_cons,hs]
    exact ih

theorem genuine (h : Reads s c ts s' d) : ∀ t ∈ ts, t.Genuine := by
  induction h with
  | done => simp
  | token hn _ _ ih =>
    obtain ⟨htoken,hspelled,-⟩ := next?_sound hn
    exact List.forall_mem_cons.mpr ⟨⟨htoken,hspelled⟩,ih⟩

theorem between (h : Reads s c ts s' d) : Between c (ts.map Token.lexeme) d := by
  induction h with
  | done s c => exact .refl c
  | token hn _ _ ih => exact (between_skip _).trans ((between_next? hn).trans ih)

/-- The last token is read behind the others. -/
theorem of_concat (h : Reads s c (ts ++ [t]) s' d) :
    ∃ mid e, Reads s c ts mid e ∧ e.skip.next? mid.expected = some (t,d) := by
  induction ts generalizing s c with
  | nil =>
    cases h with
    | token hn hs h =>
      cases h
      exact ⟨s,c,.done s c,hn⟩
  | cons u ts ih =>
    cases h with
    | token hn hs h =>
      obtain ⟨mid,e,hreads,hlast⟩ := ih h
      exact ⟨mid,e,.token hn hs hreads,hlast⟩

end Reads

theorem tokensFrom_fault {s : State} {c : Cursor}
    (h : ∀ t d, c.skip.next? s.expected = some (t,d) → s.step t = none) : tokensFrom s c = [] := by
  rw [tokensFrom]
  split
  · rfl
  · split
    · rfl
    · rename_i hsome
      rw [h _ _ hsome]

/-- Reading fails behind the tokens that it has stepped over: at the end of the text, blamed on the
last of them, or where no token leads on. -/
theorem reads_of_error {s : State} {c : Cursor} {last place : Position}
    (h : readFrom s c last = .error place) :
    ∃ s' d, Reads s c (tokensFrom s c) s' d ∧
      ((d.skip.rest = [] ∧ s'.statements? = none ∧
          place = ((tokensFrom s c).getLast?.map Token.position).getD last) ∨
        (d.skip.rest ≠ [] ∧ place = d.skip.position ∧
          ∀ t e, d.skip.next? s'.expected = some (t,e) → s'.step t = none)) := by
  fun_induction readFrom s c last with
  | case1 => cases h
  | case2 s c last d hend hnone =>
    cases h
    rw [tokensFrom_end hend]
    exact ⟨s,c,.done s c,.inl ⟨hend,hnone,rfl⟩⟩
  | case3 s c last d hne hn =>
    cases h
    have hfault (t : Token) (e : Cursor) (he : c.skip.next? s.expected = some (t,e)) :
        s.step t = none := by cases hn.symm.trans he
    rw [tokensFrom_fault hfault]
    exact ⟨s,c,.done s c,.inr ⟨hne,rfl,hfault⟩⟩
  | case4 s c last d hne t behind hn hs =>
    cases h
    have hfault (u : Token) (e : Cursor) (he : c.skip.next? s.expected = some (u,e)) :
        s.step u = none := by
      cases hn.symm.trans he
      exact hs
    rw [tokensFrom_fault hfault]
    exact ⟨s,c,.done s c,.inr ⟨hne,(place_of_next? hn).1,hfault⟩⟩
  | case5 s c last d hne t behind hn s' hs ih =>
    obtain ⟨s'',e,hreads,hfault⟩ := ih h
    rw [tokensFrom_token hne hn hs]
    refine ⟨s'',e,.token hn hs hreads,?_⟩
    simpa [List.getLast?_cons] using hfault

/-! ## Faults of texts -/

/-- No sentence goes on from the tokens of a text with what stands at a place: no kind of token that
could come next is spelled there, or a token is read there that cannot come next. -/
def Astray (text rest : List Char) (place : Position) : Prop :=
  (∀ l, Starts (lexemes text ++ [l]) → ∀ cs, l.terminal.Spells cs → ¬ cs <+: rest) ∨
    ∃ s t behind, (tokens text).foldlM State.step .start = some s ∧
      (Cursor.mk rest place).next? s.expected = some (t,behind) ∧
        ¬ Starts (lexemes text ++ [t.lexeme])

/-- The tokens of a text end before its sentence does, and `rest` begins with the last of them. -/
structure Unfinished (text before rest : List Char) : Prop where
  woven : Woven text (lexemes text)
  incomplete : ¬ Sentence (lexemes text)
  last : ∃ ls l stretch, lexemes text = ls ++ [l] ∧ Woven before ls ∧
    rest = l.spelling.toList ++ stretch ∧ Woven stretch []

theorem astray_of_next? {text : List Char} {s : State} {c : Cursor}
    (hs : (tokens text).foldlM State.step .start = some s) (hts : ∀ t ∈ tokens text, t.Genuine)
    (hfault : ∀ t e, c.next? s.expected = some (t,e) → s.step t = none) :
    Astray text c.rest c.position := by
  cases hn : c.next? s.expected with
  | none =>
    refine .inl fun l hl cs hcs hprefix => ?_
    obtain ⟨more,hrest⟩ := hprefix
    have hpos := length_pos_of_spells hcs more
    have hzero := length_eq_zero_of_recognize (recognize_of_next? hn) (hl.next hts hs).1
    rw [hrest,hzero] at hpos
    exact Nat.lt_irrefl 0 hpos
  | some found =>
    obtain ⟨t,behind⟩ := found
    refine .inr ⟨s,t,behind,hs,hn,fun hl => ?_⟩
    obtain ⟨next,hstep⟩ := (hl.next hts hs).2 t.position
    rw [← (next?_sound hn).1,hfault t behind hn] at hstep
    cases hstep

theorem unfinished_of_reads {text : List Char} {s : State} {d : Cursor}
    (hreads : Reads .start (.ofText text) (tokens text) s d) (hend : d.skip.rest = [])
    (hnone : s.statements? = none) : ∃ before rest, text = before ++ rest ∧
      ((tokens text).getLast?.map Token.position).getD .start = Position.start.after before ∧
        Unfinished text before rest := by
  have hrun := hreads.run
  rcases List.eq_nil_or_concat (tokens text) with hnil | ⟨ts,t,hconcat⟩
  · rw [hnil] at hrun
    cases hrun
    cases hnone
  rw [List.concat_eq_append] at hconcat
  obtain ⟨mid,e,hbefore,hlast⟩ := Reads.of_concat (hconcat ▸ hreads)
  obtain ⟨before,htext,hplace,hwoven⟩ := hbefore.between.trans (between_skip e)
  obtain ⟨stretch,hstretch,-,hignored⟩ := between_skip d
  obtain ⟨whole,hwhole,-,hall⟩ := hreads.between.trans (between_skip d)
  rw [hend,List.append_nil] at hstretch hwhole
  refine ⟨before,e.skip.rest,htext,?_,?_,fun hsentence => ?_,?_⟩
  · rw [hconcat,List.getLast?_concat,Option.map_some,Option.getD_some,(place_of_next? hlast).1,
      hplace]
    rfl
  · rw [List.append_nil,← hwhole] at hall
    exact hall
  · obtain ⟨statements,hs⟩ := atEnd_of_sentence hreads.genuine hrun hsentence
    rw [hnone] at hs
    cases hs
  · refine ⟨ts.map Token.lexeme,t.lexeme,stretch,?_,?_,?_,hignored⟩
    · rw [lexemes,hconcat,List.map_append,List.map_singleton]
    · rwa [List.append_nil] at hwoven
    · rw [(next?_sound hlast).2.2,hstretch]

/-- Where a text is refused, the tokens before begin a sentence that does not go on so. -/
theorem departs_of_error {text : List Char} {place : Position} (h : read text = .error place) :
    Starts (lexemes text) ∧ ∃ before rest, text = before ++ rest ∧
      place = Position.start.after before ∧
        (rest ≠ [] ∧ Woven before (lexemes text) ∧ Astray text rest place ∨
          Unfinished text before rest) := by
  obtain ⟨s,d,hreads,hfault⟩ := reads_of_error h
  have hstarts := starts_of_run hreads.genuine hreads.run
  rcases hfault with ⟨hend,hnone,hplace⟩ | ⟨hne,hplace,hfault⟩
  · obtain ⟨before,rest,htext,hlast,hunfinished⟩ := unfinished_of_reads hreads hend hnone
    exact ⟨hstarts,before,rest,htext,hplace.trans hlast,.inr hunfinished⟩
  · obtain ⟨before,htext,hafter,hwoven⟩ := hreads.between.trans (between_skip d)
    rw [List.append_nil] at hwoven
    refine ⟨hstarts,before,d.skip.rest,htext,hplace.trans hafter,.inl ⟨hne,hwoven,?_⟩⟩
    rw [hplace]
    exact astray_of_next? hreads.run hreads.genuine hfault

end SchemaCodec.Grammar

namespace SchemaCodec
open Grammar

/-- A syntax error points at the first place that no sentence goes on with. The tokens read before
it begin a sentence; where the text ends too early it points at the last of them. -/
theorem unexpectedInput_place {path : String} {text : List Char} {place : Position}
    (h : draftOf path text = .error (.unexpectedInput path place)) :
    ∃ before rest, text = before ++ rest ∧
      place.line = 1 + before.count '\n' ∧ place.column = 1 + (lastLine before).length ∧
      (SchemaError.unexpectedInput path place).message? =
        some (path ++ ":" ++ toString place.line ++ ":" ++ toString place.column
          ++ ": unexpected input") ∧
      Starts (lexemes text) ∧
      (rest ≠ [] ∧ Woven before (lexemes text) ∧ Astray text rest place ∨
        Unfinished text before rest) := by
  have hread : read text = .error place := by
    unfold draftOf at h
    split at h
    · rename_i hread
      cases h
      exact hread
    · split at h <;> cases h
  obtain ⟨hstarts,before,rest,htext,hplace,hfault⟩ := departs_of_error hread
  rw [Position.start_after] at hplace
  exact ⟨before,rest,htext,by rw [hplace],by rw [hplace],rfl,hstarts,hfault⟩

/-- A field whose name is missing, in the second line. -/
def namelessText : List Char := "message A \x7b\n  int32 = 1;\n\x7d\n".toList

theorem read_namelessText : read namelessText = .error ⟨2,9⟩ := by with_unfolding_all rfl

theorem namelessText_place :
    draftOf "a.proto" namelessText = .error (.unexpectedInput "a.proto" ⟨2,9⟩) ∧
      ∃ before rest, namelessText = before ++ rest ∧ 2 = 1 + before.count '\n' ∧
        9 = 1 + (lastLine before).length ∧ Starts (lexemes namelessText) := by
  have hdraft : draftOf "a.proto" namelessText = .error (.unexpectedInput "a.proto" ⟨2,9⟩) := by
    rw [draftOf,read_namelessText]
  obtain ⟨before,rest,htext,hline,hcolumn,-,hstarts,-⟩ := unexpectedInput_place hdraft
  exact ⟨hdraft,before,rest,htext,hline,hcolumn,hstarts⟩

end SchemaCodec
