import SchemaCodec.Proofs.Grammar.Places
import SchemaCodec.Proofs.Text.TrailingComment

/-! # The pieces of a text

A text that is read is cut into pieces: its tokens and, between them, blanks and comments. Where no
block comment touches a line, the scan for the comment of the line comes to the one among the pieces.
-/
namespace SchemaCodec.Grammar
open Text

/-- What is read in one: a token, blanks or a comment. -/
structure Piece where
  position : Position
  text : List Char
  deriving DecidableEq, Repr

/-- The pieces that are skipped at a cursor. -/
def Cursor.skipped (c : Cursor) : List Piece :=
  let n := ignoredLength c.rest
  if n = 0 ∨ c.rest = [] then [] else ⟨c.position,c.rest.take n⟩ :: (c.advance n).skipped
termination_by c.rest.length
decreasing_by
  rename_i h
  rw [length_advance]
  have : 0 < c.rest.length := List.length_pos_iff.mpr fun e => h (Or.inr e)
  omega

/-- The pieces from a cursor on, to the end of the text or its first fault. -/
def piecesFrom (state : State) (cursor : Cursor) : List Piece :=
  let c := cursor.skip
  cursor.skipped ++
    if _h : c.rest = [] then []
    else
      match _hn : c.next? state.expected with
      | none => []
      | some (token,behind) =>
        match state.step token with
        | none => []
        | some next => ⟨token.position,token.text.toList⟩ :: piecesFrom next behind
termination_by cursor.rest.length
decreasing_by
  exact Nat.lt_of_lt_of_le (Cursor.length_next? _h _hn) (Cursor.length_skip_le cursor)

def pieces (text : List Char) : List Piece := piecesFrom .start (.ofText text)

/-- The text of a comment to the end of its line. -/
def Piece.comment? (x : Piece) : Option (List Char) :=
  match x.text with
  | '/' :: '/' :: comment => some comment
  | _ => none

def Piece.IsBlock (x : Piece) : Prop := ['/','*'] <+: x.text

instance (x : Piece) : Decidable x.IsBlock := inferInstanceAs (Decidable (['/','*'] <+: x.text))

/-- A piece that begins on a line or before it, and ends on it or behind it. -/
def Piece.Touches (x : Piece) (line : ℕ) : Prop :=
  x.position.line ≤ line ∧ line ≤ (x.position.after x.text).line

/-- The comment among some pieces that begins on a line. -/
def commentAmong (xs : List Piece) (line : ℕ) : Option (List Char) :=
  (xs.filter (·.position.line = line)).findSome? Piece.comment?

/-- No block comment has a part on the line. -/
def BlockFree (xs : List Piece) (line : ℕ) : Prop := ∀ x ∈ xs, x.IsBlock → ¬ x.Touches line

def textOf (xs : List Piece) : List Char := xs.flatMap Piece.text

@[simp] theorem textOf_nil : textOf [] = [] := rfl

@[simp] theorem textOf_cons (x : Piece) (xs : List Piece) : textOf (x :: xs) = x.text ++ textOf xs :=
  List.flatMap_cons

@[simp] theorem textOf_append (xs ys : List Piece) : textOf (xs ++ ys) = textOf xs ++ textOf ys :=
  List.flatMap_append

/-! ## Kinds of pieces -/

/-- What is read in one before some rest. -/
inductive Shape (rest : List Char) : List Char → Prop
  | blanks (cs : List Char) (h : ∀ c ∈ cs, isSpace c = true) : Shape rest cs
  | comment (cs : List Char) (h : '\n' ∉ cs) (hrest : ∀ c ∈ rest.head?, c = '\n') :
      Shape rest ('/' :: '/' :: cs)
  | block (cs : List Char) : Shape rest ('/' :: '*' :: cs)
  | token (l : Lexeme) (h : l.Spelled) : Shape rest l.spelling.toList

theorem shape_ignored (cs : List Char) :
    Shape (cs.drop (ignoredLength cs)) (cs.take (ignoredLength cs)) := by
  unfold ignoredLength
  split
  · rename_i rest
    rw [Nat.add_comm,List.take_succ_cons,List.take_succ_cons,take_takeWhile,List.drop_succ_cons,
      List.drop_succ_cons]
    refine .comment _ (fun hc => by simpa using List.mem_takeWhile_imp hc) fun c hc => ?_
    have hdrop : rest.drop (rest.takeWhile (· ≠ '\n')).length = rest.dropWhile (· ≠ '\n') := by
      conv => lhs; arg 2; rw [← List.takeWhile_append_dropWhile (p := (· ≠ '\n')) (l := rest)]
      exact List.drop_left
    rw [hdrop] at hc
    have hhead := List.head?_dropWhile_not (· ≠ '\n') rest
    rw [hc] at hhead
    simpa using hhead
  · rename_i rest
    cases hb : blockLength? rest with
    | none => exact .blanks _ (by simp)
    | some n =>
      rw [Option.map_some,Option.getD_some,List.take_succ_cons,List.take_succ_cons]
      exact .block _
  · rw [take_takeWhile]
    exact .blanks _ fun _ => List.mem_takeWhile_imp

/-- No quote and no slash opens anything in these, and no line ends. -/
def IsPlain (c : Char) : Prop := c ≠ '"' ∧ c ≠ '\'' ∧ c ≠ '/' ∧ c ≠ '\n'

instance (c : Char) : Decidable (IsPlain c) :=
  inferInstanceAs (Decidable (c ≠ '"' ∧ c ≠ '\'' ∧ c ≠ '/' ∧ c ≠ '\n'))

/-- Characters of a kind without quotes, slashes and line feeds are plain. -/
theorem isPlain_of_kind {kind : Char → Bool} {c : Char}
    (hk : kind '"' = false ∧ kind '\'' = false ∧ kind '/' = false ∧ kind '\n' = false)
    (h : kind c = true) : IsPlain c := by
  refine ⟨?_,?_,?_,?_⟩ <;> rintro rfl
  · exact absurd h (by simp [hk.1])
  · exact absurd h (by simp [hk.2.1])
  · exact absurd h (by simp [hk.2.2.1])
  · exact absurd h (by simp [hk.2.2.2])

theorem isPlain_of_isDigit {c : Char} (h : c.isDigit = true) : IsPlain c :=
  isPlain_of_kind (by decide) h

theorem isPlain_word {cs : List Char} (h : IsWord cs) : ∀ c ∈ cs, IsPlain c := by
  obtain ⟨c,rest,hc,hrest,rfl⟩ := h
  have hpart (d : Char) (hd : d ∈ rest) : IsPlain d := isPlain_of_kind (by decide) (hrest d hd)
  exact List.forall_mem_cons.mpr ⟨isPlain_of_kind (by decide) hc,hpart⟩

theorem isPlain_int {cs : List Char} (h : IsInt cs) : ∀ c ∈ cs, IsPlain c := by
  rcases h with h | ⟨x,digits,hx,-,hdigits,rfl⟩
  · exact fun c hc => isPlain_of_isDigit (h.2 c hc)
  · have hmark : IsPlain x := by rcases hx with rfl | rfl <;> decide
    exact List.forall_mem_cons.mpr ⟨by decide,List.forall_mem_cons.mpr
      ⟨hmark,fun c hc => isPlain_of_kind (by decide) (hdigits c hc)⟩⟩

theorem isPlain_exponent {cs : List Char} (h : IsExponent cs) : ∀ c ∈ cs, IsPlain c := by
  obtain ⟨e,sign,digits,he,hsign,hdigits,rfl⟩ := h
  have hmark : IsPlain e := by rcases he with rfl | rfl <;> decide
  refine List.forall_mem_cons.mpr ⟨hmark,List.forall_mem_append.mpr ⟨?_,?_⟩⟩
  · rcases hsign with rfl | rfl | rfl <;> simp [IsPlain]
  · exact fun c hc => isPlain_of_isDigit (hdigits.2 c hc)

theorem isPlain_float {cs : List Char} (h : IsFloat cs) : ∀ c ∈ cs, IsPlain c := by
  rcases h with ⟨whole,fraction,exponent,hw,hf,he,rfl⟩ | ⟨whole,exponent,hw,he,rfl⟩
  · refine List.forall_mem_append.mpr ⟨fun c hc => isPlain_of_isDigit (hw.2 c hc),
      List.forall_mem_cons.mpr ⟨by decide,List.forall_mem_append.mpr
        ⟨fun c hc => isPlain_of_isDigit (hf c hc),?_⟩⟩⟩
    rcases he with rfl | he
    · simp
    · exact isPlain_exponent he
  · exact List.forall_mem_append.mpr ⟨fun c hc => isPlain_of_isDigit (hw.2 c hc),
      isPlain_exponent he⟩

theorem afterSlashes_inQuotes {quote : Char} {inside : List Char} (h : InQuotes quote inside)
    (hquote : quote ≠ '\\') (rest : List Char) :
    afterSlashes (some quote) (inside ++ quote :: rest) = afterSlashes none rest := by
  induction h with
  | nil => rw [List.nil_append,afterSlashes_quoted hquote,if_pos rfl]
  | plain c cs hc _ hescape _ ih =>
    rw [List.cons_append,afterSlashes_quoted hescape,if_neg hc]
    exact ih
  | escaped c cs _ _ ih => simpa [afterSlashes] using ih

theorem newline_not_mem_inQuotes {quote : Char} {inside : List Char} (h : InQuotes quote inside) :
    '\n' ∉ inside := by
  induction h with
  | nil => simp
  | plain c cs _ hline _ _ ih => simp [ih,Ne.symm hline]
  | escaped c cs hline _ ih => simp [ih,Ne.symm hline]

/-- The scan passes over a token, and a token ends no line. -/
theorem calm_spelled {l : Lexeme} (h : l.Spelled) :
    Calm l.spelling.toList ∧ '\n' ∉ l.spelling.toList := by
  have hplain (hall : ∀ c ∈ l.spelling.toList, IsPlain c) :
      Calm l.spelling.toList ∧ '\n' ∉ l.spelling.toList :=
    ⟨calm_of_forall fun c hc => ⟨(hall c hc).1,(hall c hc).2.1,(hall c hc).2.2.1⟩,
      fun hc => (hall _ hc).2.2.2 rfl⟩
  cases l with
  | keyword k => exact hplain (isPlain_word (isWord_keyword k))
  | mark m =>
    refine hplain ?_
    rw [show (Lexeme.mark m).spelling.toList = [m.spelling] by simp [Lexeme.spelling]]
    refine List.forall_mem_singleton.mpr ?_
    cases m <;> decide
  | word w => exact hplain (isPlain_word h)
  | int s => exact hplain (isPlain_int h)
  | float s => exact hplain (isPlain_float h)
  | text s =>
    obtain ⟨quote,inside,hquote,hinside,hs⟩ := h
    have hescape : quote ≠ '\\' := by rcases hquote with rfl | rfl <;> decide
    have hslash : quote ≠ '/' := by rcases hquote with rfl | rfl <;> decide
    have hline : quote ≠ '\n' := by rcases hquote with rfl | rfl <;> decide
    rw [hs]
    refine ⟨fun rest => ?_,?_⟩
    · rw [List.cons_append,List.append_assoc,afterSlashes_code fun _ he => absurd he hslash,
        if_pos hquote]
      exact afterSlashes_inQuotes hinside hescape rest
    · simp [newline_not_mem_inQuotes hinside,Ne.symm hline]

theorem calm_blanks {cs : List Char} (h : ∀ c ∈ cs, isSpace c = true) : Calm cs := by
  refine calm_of_forall fun c hc => ?_
  have hc := h c hc
  refine ⟨?_,?_,?_⟩ <;> rintro rfl <;> exact absurd hc (by decide)

/-- What begins with two slashes is a comment up to the end of its line. -/
theorem Shape.of_slashes {rest cs : List Char} (h : Shape rest ('/' :: '/' :: cs)) :
    '\n' ∉ cs ∧ ∀ c ∈ rest.head?, c = '\n' := by
  generalize hx : '/' :: '/' :: cs = x at h
  cases h with
  | blanks _ h => exact absurd (h '/' (hx ▸ List.mem_cons_self)) (by decide)
  | comment cs' hline hrest =>
    cases hx
    exact ⟨hline,hrest⟩
  | block cs' => cases hx
  | token l h =>
    obtain ⟨c,more,hcons,hopens⟩ := exists_opens_of_spells h
    rw [hcons] at hx
    exact absurd (List.cons.inj hx).1.symm (not_ignored_of_opens hopens).2

/-! ## Cutting a text -/

/-- A text is cut into pieces, each where the ones before it end. -/
structure CutInto (p : Position) (text : List Char) (xs : List Piece) : Prop where
  whole : textOf xs = text
  each : ∀ before x behind, xs = before ++ x :: behind →
    x.position = p.after (textOf before) ∧ Shape (textOf behind) x.text

theorem cutInto_nil (p : Position) : CutInto p [] [] := ⟨rfl,by simp⟩

theorem CutInto.cons {p : Position} {cs rest : List Char} {xs : List Piece} (h : Shape rest cs)
    (hxs : CutInto (p.after cs) rest xs) : CutInto p (cs ++ rest) (⟨p,cs⟩ :: xs) where
  whole := by rw [textOf_cons,hxs.whole]
  each := by
    intro before x behind he
    cases before with
    | nil =>
      obtain ⟨rfl,rfl⟩ := List.cons.inj he
      exact ⟨rfl,hxs.whole ▸ h⟩
    | cons y before =>
      obtain ⟨rfl,hrest⟩ := List.cons.inj he
      obtain ⟨hplace,hshape⟩ := hxs.each before x behind hrest
      exact ⟨by rw [hplace,textOf_cons,Position.after_append],hshape⟩

theorem cutInto_skipped {c : Cursor} {xs : List Piece}
    (h : CutInto c.skip.position c.skip.rest xs) : CutInto c.position c.rest (c.skipped ++ xs) := by
  fun_induction Cursor.skip c with
  | case1 c _ hstop =>
    rw [Cursor.skipped,if_pos hstop]
    exact h
  | case2 c _ hgo ih =>
    rw [Cursor.skipped,if_neg hgo]
    conv => arg 2; rw [← List.take_append_drop (ignoredLength c.rest) c.rest]
    exact .cons (shape_ignored c.rest) (ih h)

theorem piecesFrom_token {s s' : State} {c d : Cursor} {t : Token} (h : c.skip.rest ≠ [])
    (hn : c.skip.next? s.expected = some (t,d)) (hs : s.step t = some s') :
    piecesFrom s c = c.skipped ++ ⟨t.position,t.text.toList⟩ :: piecesFrom s' d := by
  rw [piecesFrom]
  simp only [h,dite_false]
  split
  · rename_i hnone
    rw [hn] at hnone
    cases hnone
  · rename_i hsome
    rw [hn] at hsome
    cases hsome
    rw [hs]

theorem cutInto_of_readFrom {s : State} {c : Cursor} {last : Position}
    {statements : List Statement} (h : readFrom s c last = .ok statements) :
    CutInto c.position c.rest (piecesFrom s c) := by
  fun_induction readFrom s c last with
  | case1 s c last d hend =>
    have hend : c.skip.rest = [] := hend
    rw [piecesFrom]
    simp only [hend,dite_true]
    exact cutInto_skipped (hend ▸ cutInto_nil _)
  | case2 => cases h
  | case3 => cases h
  | case4 => cases h
  | case5 s c last d hne t behind hn s' hs ih =>
    obtain ⟨htoken,hspelled,hrest⟩ := next?_sound hn
    obtain ⟨hplace,hbehind⟩ := place_of_next? hn
    have htext : t.text = t.lexeme.spelling := congrArg Token.text htoken
    have hmore := ih h
    rw [hbehind] at hmore
    rw [piecesFrom_token hne hn hs,hplace,htext]
    refine cutInto_skipped ?_
    rw [show c.skip.rest = _ from hrest]
    exact .cons (.token t.lexeme hspelled) hmore

theorem cutInto_of_read {text : List Char} {statements : List Statement}
    (h : read text = .ok statements) : CutInto .start text (pieces text) :=
  cutInto_of_readFrom h

/-! ## Lines -/

/-- No comment begins on the line. -/
def CommentFree (xs : List Piece) (line : ℕ) : Prop :=
  ∀ x ∈ xs, x.position.line = line → x.comment? = none

/-- The code of a line is calm where no comment has a part in it. -/
theorem calm_lastLine {text : List Char} {before behind : List Piece} {line : ℕ}
    (h : CutInto .start text (before ++ behind))
    (hline : 1 + (textOf before).count '\n' = line) (hblock : BlockFree before line)
    (hcomment : CommentFree before line) : Calm (lastLine (textOf before)) := by
  induction before using List.reverseRecOn generalizing behind with
  | nil => exact calm_nil
  | append_singleton before x ih =>
    rw [List.append_assoc] at h
    obtain ⟨hplace,hshape⟩ := h.each before x behind rfl
    rw [Position.start_after] at hplace
    obtain ⟨hblocks,hblock⟩ := List.forall_mem_append.mp hblock
    obtain ⟨hcomments,hcomment⟩ := List.forall_mem_append.mp hcomment
    have hblock := hblock x (List.mem_singleton_self x)
    have hcomment := hcomment x (List.mem_singleton_self x)
    rw [textOf_append,textOf_cons,textOf_nil,List.append_nil] at hline ⊢
    rw [List.count_append] at hline
    -- a piece that ends no line goes on with the code before it
    have hgoes (hcalm : Calm x.text) (hnone : '\n' ∉ x.text) :
        Calm (lastLine (textOf before ++ x.text)) := by
      rw [lastLine_append_of_not_mem _ hnone]
      rw [List.count_eq_zero_of_not_mem hnone] at hline
      exact (ih h hline hblocks hcomments).append hcalm
    obtain ⟨position,cs⟩ := x
    dsimp only at hline hplace hgoes hshape ⊢
    subst hplace
    cases hshape with
    | blanks _ hspace =>
      by_cases hmem : '\n' ∈ cs
      · rw [lastLine_append_of_mem _ hmem]
        exact calm_blanks fun c hc => hspace c (mem_of_mem_lastLine hc)
      · exact hgoes (calm_blanks hspace) hmem
    | comment cs hnone =>
      have hcount : ('/' :: '/' :: cs).count '\n' = 0 :=
        List.count_eq_zero_of_not_mem (by simp [hnone])
      rw [hcount] at hline
      cases hcomment hline
    | block cs =>
      refine absurd ⟨by dsimp only; omega,?_⟩ (hblock ⟨cs,rfl⟩)
      rw [← Position.start_after,← Position.after_append,Position.start_after,List.count_append]
      dsimp only
      omega
    | token l hl => exact hgoes (calm_spelled hl).1 (calm_spelled hl).2

theorem comment?_eq_some {x : Piece} {comment : List Char} (h : x.comment? = some comment) :
    x.text = '/' :: '/' :: comment := by
  unfold Piece.comment? at h
  split at h
  · rename_i htext
    rw [htext,Option.some.inj h]
  · cases h

/-- What stands behind a comment begins below it. -/
theorem line_lt_of_comment {text : List Char} {before behind : List Piece} {x y : Piece}
    (h : CutInto .start text (before ++ x :: behind)) (hy : y ∈ before) {comment : List Char}
    (hcomment : y.comment? = some comment) {c : Char} {more : List Char} (hx : x.text = c :: more)
    (hc : c ≠ '\n') : y.position.line < x.position.line := by
  obtain ⟨front,between,rfl⟩ := List.append_of_mem hy
  obtain ⟨hplace,-⟩ := h.each (front ++ y :: between) x behind rfl
  obtain ⟨hplace',hshape⟩ := h.each front y (between ++ x :: behind) (by simp)
  rw [comment?_eq_some hcomment] at hshape
  have hfeed := hshape.of_slashes.2
  rw [textOf_append,textOf_cons,hx] at hfeed
  cases hb : textOf between with
  | nil =>
    rw [hb] at hfeed
    exact absurd (hfeed c rfl) hc
  | cons d rest =>
    rw [hb] at hfeed
    obtain rfl := hfeed d rfl
    rw [hplace,hplace',Position.start_after,Position.start_after,textOf_append,textOf_cons,hb]
    simp only [List.count_append,List.count_cons_self]
    omega

/-- The code before a comment and the comment are the line on which it begins. -/
theorem line_of_comment {text : List Char} {xs : List Piece} (h : CutInto .start text xs)
    {x : Piece} (hx : x ∈ xs) {comment : List Char} (hcomment : x.comment? = some comment) :
    ∃ code, (split '\n' text)[x.position.line - 1]? = some (code ++ '/' :: '/' :: comment) ∧
      (BlockFree xs x.position.line → Calm code) := by
  obtain ⟨before,behind,rfl⟩ := List.append_of_mem hx
  obtain ⟨hplace,hshape⟩ := h.each before x behind rfl
  have htext := comment?_eq_some hcomment
  rw [htext] at hshape
  obtain ⟨hline,hrest⟩ := hshape.of_slashes
  have hposition : x.position.line = 1 + (textOf before).count '\n' := by
    rw [hplace,Position.start_after]
  refine ⟨lastLine (textOf before),?_,fun hblock => ?_⟩
  · rw [hposition,Nat.add_sub_cancel_left,← h.whole,textOf_append,textOf_cons,htext,
      ← List.append_assoc]
    exact split_eq (by simpa using hline) hrest
  · refine calm_lastLine h hposition.symm (fun y hy => hblock y (List.mem_append_left _ hy)) ?_
    intro y hy hyline
    by_contra hne
    obtain ⟨other,hother⟩ := Option.ne_none_iff_exists'.mp hne
    exact absurd hyline (line_lt_of_comment h hy hother htext (by decide)).ne

/-- Where a character stands in the text of some pieces, it stands in one of them. -/
theorem exists_piece {xs : List Piece} {before behind : List Char} {c : Char}
    (h : textOf xs = before ++ c :: behind) : ∃ ys x zs front rest, xs = ys ++ x :: zs ∧
      x.text = front ++ c :: rest ∧ before = textOf ys ++ front := by
  induction xs generalizing before with
  | nil => simp at h
  | cons x xs ih =>
    rw [textOf_cons,List.append_eq_append_iff] at h
    rcases h with ⟨more,rfl,hmore⟩ | ⟨rest,hrest,hcons⟩
    · obtain ⟨ys,y,zs,front,rest,rfl,hy,rfl⟩ := ih hmore
      exact ⟨x :: ys,y,zs,front,rest,rfl,hy,by simp⟩
    · cases rest with
      | nil =>
        rw [List.append_nil] at hrest
        have hwhole : textOf xs = [] ++ c :: behind := hcons.symm
        obtain ⟨ys,y,zs,front,rest,rfl,hy,hfront⟩ := ih hwhole
        refine ⟨x :: ys,y,zs,front,rest,rfl,hy,?_⟩
        rw [textOf_cons,List.append_assoc,← hfront,List.append_nil,hrest]
      | cons d rest =>
        obtain ⟨rfl,-⟩ := List.cons.inj hcons
        exact ⟨[],x,xs,before,rest,rfl,hrest,by simp⟩

/-- A line on which no comment begins is calm if no block comment touches it. -/
theorem calm_line {text line : List Char} {xs : List Piece} (h : CutInto .start text xs) {i : ℕ}
    (hline : (split '\n' text)[i]? = some line) (hblock : BlockFree xs (1 + i))
    (hcomment : CommentFree xs (1 + i)) : Calm line := by
  obtain ⟨before,rest,htext,rfl,rfl,hrest⟩ := exists_of_split hline
  cases rest with
  | nil =>
    rw [List.append_nil,← h.whole] at htext
    subst htext
    rw [← List.append_nil xs] at h
    exact calm_lastLine h rfl hblock hcomment
  | cons c rest =>
    rw [hrest c rfl,← h.whole] at htext
    obtain ⟨ys,x,zs,front,more,rfl,hx,rfl⟩ := exists_piece htext
    obtain ⟨hplace,hshape⟩ := h.each ys x zs rfl
    have hmem : '\n' ∈ x.text := by simp [hx]
    have hxs : x ∈ ys ++ x :: zs := by simp
    rw [Position.start_after] at hplace
    obtain ⟨position,cs⟩ := x
    dsimp only at hplace hshape hx hmem
    subst hplace
    cases hshape with
    | blanks _ hspace =>
      have hfront : ∀ c ∈ front, isSpace c = true := fun c hc => hspace c (by simp [hx,hc])
      by_cases hfeed : '\n' ∈ front
      · rw [lastLine_append_of_mem _ hfeed]
        exact calm_blanks fun c hc => hfront c (mem_of_mem_lastLine hc)
      · rw [List.count_append,List.count_eq_zero_of_not_mem hfeed] at hblock hcomment
        rw [lastLine_append_of_not_mem _ hfeed]
        refine (calm_lastLine h rfl (fun y hy => hblock y (List.mem_append_left _ hy)) ?_).append
          (calm_blanks hfront)
        exact fun y hy => hcomment y (List.mem_append_left _ hy)
    | comment cs hnone => simp [hnone] at hmem
    | block cs =>
      refine absurd ⟨?_,?_⟩ (hblock _ hxs ⟨cs,rfl⟩)
      · simp only [List.count_append]
        omega
      · rw [← Position.start_after,← Position.after_append,Position.start_after,hx]
        simp only [List.count_append]
        omega
    | token l hl => exact absurd hmem (calm_spelled hl).2

/-! ## The scan of a line -/

/-- A line of a text, counted from one. -/
def lineAt (text : List Char) (line : ℕ) : List Char := ((Text.lines text)[line - 1]?).getD []

/-- The comment that begins on a line, if it is not blank. -/
def lexedComment (text : List Char) (line : ℕ) : Option (List Char) :=
  (commentAmong (pieces text) line).bind nonBlank

/-- The scan of a line sees its comment: the slashes that it comes to are those of the comment, or
it comes to none and the comment is blank. Without a comment, nothing stands behind the slashes that
it comes to. -/
def Seen (text : List Char) (line : ℕ) : Prop :=
  match commentAmong (pieces text) line with
  | some comment => ∃ code, lineAt text line = code ++ '/' :: '/' :: comment ∧
      (afterSlashes none (code ++ ['/','/']) = some [] ∨
        afterSlashes none (code ++ ['/','/']) = none ∧ nonBlank comment = none)
  | none => ∀ rest, afterSlashes none (lineAt text line) = some rest → nonBlank rest = none

theorem commentAmong_eq_some {xs : List Piece} {line : ℕ} {comment : List Char}
    (h : commentAmong xs line = some comment) :
    ∃ x ∈ xs, x.position.line = line ∧ x.comment? = some comment := by
  obtain ⟨x,hx,hcomment⟩ := List.exists_of_findSome?_eq_some h
  obtain ⟨hmem,hline⟩ := List.mem_filter.mp hx
  exact ⟨x,hmem,of_decide_eq_true hline,hcomment⟩

theorem commentFree_of_eq_none {xs : List Piece} {line : ℕ} (h : commentAmong xs line = none) :
    CommentFree xs line := fun x hx hline =>
  List.findSome?_eq_none_iff.mp h x (List.mem_filter.mpr ⟨hx,decide_eq_true hline⟩)

theorem lineAt_eq {text : List Char} (h : ∀ c ∈ text, isLineEnd c = true → c = '\n') (i : ℕ) :
    lineAt text (1 + i) = ((split '\n' text)[i]?).getD [] := by
  rw [lineAt,Nat.add_sub_cancel_left]
  rcases lines_eq_split h with he | he
  · rw [he]
  · rw [he,List.getElem?_append]
    split
    · rfl
    · rename_i hlength
      rw [List.getElem?_eq_none (Nat.le_of_not_lt hlength)]
      cases hi : ([[]] : List (List Char))[i - (Text.lines text).length]? with
      | none => rfl
      | some piece =>
        obtain rfl := List.mem_singleton.mp (List.mem_of_getElem? hi)
        rfl

/-- The scan makes of a line what the pieces of the text have there exactly if it sees the comment
of the line; it does where no block comment touches the line. -/
theorem commentBehind_lineAt_iff {text : List Char} {statements : List Statement}
    (h : read text = .ok statements) (hends : ∀ c ∈ text, isLineEnd c = true → c = '\n') {line : ℕ}
    (hline : 1 ≤ line) :
    (commentBehind (lineAt text line) = lexedComment text line ↔ Seen text line) ∧
      (BlockFree (pieces text) line → Seen text line) := by
  obtain ⟨i,rfl⟩ := Nat.exists_eq_add_of_le hline
  have hcut := cutInto_of_read h
  rw [lexedComment,Seen]
  cases hfound : commentAmong (pieces text) (1 + i) with
  | some comment =>
    obtain ⟨x,hx,hxline,hcomment⟩ := commentAmong_eq_some hfound
    obtain ⟨code,hcode,hcalm⟩ := line_of_comment hcut hx hcomment
    rw [hxline,Nat.add_sub_cancel_left] at hcode
    have htext : lineAt text (1 + i) = code ++ '/' :: '/' :: comment := by
      rw [lineAt_eq hends,hcode]
      rfl
    rw [htext,Option.bind_some,commentBehind_eq_iff]
    have hunique (other : List Char) (he : code ++ '/' :: '/' :: comment =
        other ++ '/' :: '/' :: comment) : code = other := List.append_cancel_right he
    refine ⟨⟨fun hseen => ⟨code,rfl,hseen⟩,?_⟩,fun hblock => ⟨code,rfl,.inl ?_⟩⟩
    · rintro ⟨other,he,hseen⟩
      rwa [hunique other he]
    · exact (hcalm (hxline ▸ hblock)).afterSlashes_eq
  | none =>
    refine ⟨commentBehind_eq_none_iff,fun hblock rest hrest => ?_⟩
    have hcalm : Calm (lineAt text (1 + i)) := by
      rw [lineAt_eq hends]
      cases hi : (split '\n' text)[i]? with
      | none => exact calm_nil
      | some found => exact calm_line hcut hi hblock (commentFree_of_eq_none hfound)
    rw [hcalm.afterSlashes_eq_none] at hrest
    cases hrest

end SchemaCodec.Grammar
