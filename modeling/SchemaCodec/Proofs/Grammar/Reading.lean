import SchemaCodec.Grammar.Read
import SchemaCodec.Proofs.Grammar.Acceptance
import SchemaCodec.Proofs.Grammar.Recognition
import SchemaCodec.Text.Split

/-! # The tokens of a text

The tokens that reading steps over make up the text together with what is ignored between them. A
row of lexemes with single spaces between them is read as that row.
-/
namespace SchemaCodec.Grammar
open Text

/-- The tokens stepped over from a cursor on, to the end of the text or its first fault. -/
def tokensFrom (state : State) (cursor : Cursor) : List Token :=
  let c := cursor.skip
  if _h : c.rest = [] then []
  else
    match _hn : c.next? state.expected with
    | none => []
    | some (token,behind) =>
      match state.step token with
      | none => []
      | some next => token :: tokensFrom next behind
termination_by cursor.rest.length
decreasing_by
  exact Nat.lt_of_lt_of_le (Cursor.length_next? _h _hn) (Cursor.length_skip_le cursor)

def tokens (text : List Char) : List Token := tokensFrom .start (.ofText text)

def lexemes (text : List Char) : List Lexeme := (tokens text).map Token.lexeme

/-- A text that is put together from the spellings of lexemes and from ignored stretches. -/
inductive Woven : List Char → List Lexeme → Prop
  | done : Woven [] []
  | ignored {stretch rest : List Char} {ls : List Lexeme} (h : Ignored stretch)
      (hrest : Woven rest ls) : Woven (stretch ++ rest) ls
  | lexeme {l : Lexeme} {rest : List Char} {ls : List Lexeme} (hrest : Woven rest ls) :
      Woven (l.spelling.toList ++ rest) (l :: ls)

/-! ## From texts to tokens -/

theorem block_take {cs : List Char} {n : ℕ} (h : blockLength? cs = some n) :
    ∃ inside, ¬ ['*','/'] <:+: inside ++ ['*'] ∧ cs.take n = inside ++ ['*','/'] := by
  fun_induction blockLength? cs generalizing n with
  | case1 => cases h
  | case2 rest =>
    cases h
    exact ⟨[],by decide,rfl⟩
  | case3 c rest hne ih =>
    obtain ⟨m,hm,rfl⟩ := Option.map_eq_some_iff.mp h
    obtain ⟨inside,hin,htake⟩ := ih hm
    refine ⟨c :: inside,fun hinfix => ?_,by rw [List.take_succ_cons,htake]; rfl⟩
    rcases List.infix_cons_iff.mp hinfix with hp | hp
    · -- a closing mark at the front would have been found there
      obtain ⟨more,he⟩ := hp
      obtain rfl := (List.cons.inj he).1
      cases inside with
      | nil => cases he
      | cons d inside =>
        have hd := (List.cons.inj (List.cons.inj he).2).1
        cases rest with
        | nil => simp at htake
        | cons e rest =>
          cases m with
          | zero => cases htake
          | succ m =>
            have he := (List.cons.inj htake).1
            exact hne rest rfl (by rw [he,← hd])
    · exact hin hp

theorem ignored_take (cs : List Char) : Ignored (cs.take (ignoredLength cs)) := by
  unfold ignoredLength
  split
  · rename_i rest
    rw [Nat.add_comm,List.take_succ_cons,List.take_succ_cons,take_takeWhile]
    refine .line _ fun c hc => ?_
    simpa using List.mem_takeWhile_imp hc
  · rename_i rest
    cases hb : blockLength? rest with
    | none => exact .blanks _ (by simp)
    | some n =>
      obtain ⟨inside,hin,htake⟩ := block_take hb
      rw [Option.map_some,Option.getD_some,List.take_succ_cons,List.take_succ_cons,htake]
      exact .block inside hin
  · rw [take_takeWhile]
    exact .blanks _ fun _ => List.mem_takeWhile_imp

theorem Woven.of_skip {c : Cursor} {ls : List Lexeme} (h : Woven c.skip.rest ls) :
    Woven c.rest ls := by
  fun_induction Cursor.skip c with
  | case1 => exact h
  | case2 c _ _ ih =>
    rw [← List.take_append_drop (ignoredLength c.rest) c.rest]
    exact .ignored (ignored_take c.rest) (ih h)

theorem Lexeme.spelling_of_spells {t : Token} (h : t.terminal.Spells t.text.toList) :
    t.lexeme.spelling = t.text := by
  obtain ⟨terminal,text,_⟩ := t
  cases terminal with
  | keyword k => exact (String.ext h).symm
  | mark m => exact String.ext (by simpa [Token.lexeme,Lexeme.spelling] using h.symm)
  | _ => rfl

/-- A token is spelled as its kind, and stands at the start of the text. -/
theorem next?_sound {c d : Cursor} {acceptable : List Terminal} {t : Token}
    (h : c.next? acceptable = some (t,d)) :
    t = t.lexeme.token t.position ∧ t.lexeme.Spelled ∧
      c.rest = t.lexeme.spelling.toList ++ d.rest := by
  obtain ⟨u,n,hu,hn,rfl,rfl⟩ := Cursor.next?_eq_some h
  have hspells : (Token.mk u (String.ofList (c.rest.take n)) c.position).terminal.Spells
      (String.ofList (c.rest.take n)).toList := by
    rw [String.toList_ofList]
    exact (spells_recognize hu hn).2
  have hs := Lexeme.spelling_of_spells hspells
  refine ⟨?_,?_,?_⟩
  · rw [Lexeme.token,Token.terminal_lexeme,hs]
  · rw [Lexeme.Spelled,Token.terminal_lexeme,hs]
    exact hspells
  · rw [hs]
    simp [Cursor.advance]

variable {s s' : State} {c d : Cursor} {t : Token}

theorem tokensFrom_end (h : c.skip.rest = []) : tokensFrom s c = [] := by
  rw [tokensFrom]
  simp [h]

theorem tokensFrom_token (h : c.skip.rest ≠ []) (hn : c.skip.next? s.expected = some (t,d))
    (hs : s.step t = some s') : tokensFrom s c = t :: tokensFrom s' d := by
  rw [tokensFrom]
  simp only [h,dite_false]
  split
  · rename_i hnone
    rw [hn] at hnone
    cases hnone
  · rename_i hsome
    rw [hn] at hsome
    cases hsome
    rw [hs]

theorem readFrom_token {last : Position} (h : c.skip.rest ≠ [])
    (hn : c.skip.next? s.expected = some (t,d)) (hs : s.step t = some s') :
    readFrom s c last = readFrom s' d t.position := by
  rw [readFrom]
  simp only [h,dite_false]
  split
  · rename_i hnone
    rw [hn] at hnone
    cases hnone
  · rename_i hsome
    rw [hn] at hsome
    cases hsome
    rw [hs]

/-- A token as it stands in a text: with the spelling of its lexeme, which is one of its kind. -/
def Token.Genuine (t : Token) : Prop := t = t.lexeme.token t.position ∧ t.lexeme.Spelled

/-- The tokens of a text that is read make it up, and lead to its statements. -/
theorem readFrom_sound {last : Position} {statements : List Statement}
    (h : readFrom s c last = .ok statements) :
    Woven c.rest ((tokensFrom s c).map Token.lexeme) ∧ (∀ t ∈ tokensFrom s c, t.Genuine) ∧
      ∃ s', (tokensFrom s c).foldlM State.step s = some s' ∧
        s'.statements? = some statements := by
  fun_induction readFrom s c last with
  | case1 s c last d hend sts hs =>
    cases h
    have hskip : c.skip.rest = [] := hend
    rw [tokensFrom_end hskip]
    exact ⟨.of_skip (hskip ▸ .done),by simp,s,rfl,hs⟩
  | case2 => cases h
  | case3 => cases h
  | case4 => cases h
  | case5 s c last d hne t behind hn s' hs ih =>
    obtain ⟨hwoven,hgenuine,s'',hrun,hdone⟩ := ih h
    obtain ⟨htoken,hspelled,hrest⟩ := next?_sound hn
    have hrest : c.skip.rest = _ := hrest
    rw [tokensFrom_token hne hn hs]
    refine ⟨.of_skip ?_,List.forall_mem_cons.mpr ⟨⟨htoken,hspelled⟩,hgenuine⟩,s'',?_,hdone⟩
    · rw [hrest]
      exact .lexeme hwoven
    · rw [List.foldlM_cons,hs]
      exact hrun

/-! ## From lexemes to texts -/

def spaced (ls : List Lexeme) : List Char := join [' '] (ls.map fun l => l.spelling.toList)

theorem spaced_cons (l : Lexeme) (ls : List Lexeme) : ∃ rest, Apart rest ∧
    spaced (l :: ls) = l.spelling.toList ++ rest ∧
      (rest = spaced ls ∨ rest = ' ' :: spaced ls) := by
  cases ls with
  | nil => exact ⟨[],.inl rfl,by simp [spaced,join],.inl rfl⟩
  | cons l' ls => exact ⟨' ' :: spaced (l' :: ls),.inr ⟨_,rfl⟩,by simp [spaced,join],.inr rfl⟩

theorem not_ignored_of_opens {t : Terminal} {c : Char} (h : t.Opens c) :
    isSpace c = false ∧ c ≠ '/' := by
  have hplain {c : Char} (hc : isWordStart c = true ∨ c.isDigit = true) :
      isSpace c = false ∧ c ≠ '/' := by
    constructor
    · by_contra hs
      simp only [Bool.not_eq_false,isSpace,Bool.or_eq_true,beq_iff_eq] at hs
      rcases hs with (((rfl | rfl) | rfl) | rfl) | rfl <;> rcases hc with hc | hc <;> cases hc
    · rintro rfl
      rcases hc with hc | hc <;> cases hc
  cases t with
  | keyword k => exact hplain (.inl (isWordStart_of_opens_keyword h))
  | word => exact hplain (.inl h)
  | mark m =>
    rw [show c = m.spelling from h]
    cases m <;> decide
  | text => rcases h with rfl | rfl <;> decide
  | int => exact hplain (.inr h)
  | float => exact hplain (.inr h)

theorem ignoredLength_lexeme {c : Char} (more : List Char) (hspace : isSpace c = false)
    (hslash : c ≠ '/') : ignoredLength (c :: more) = 0 ∧ ignoredLength (' ' :: c :: more) = 1 := by
  have hstart : isSpace ' ' = true := rfl
  constructor
  · unfold ignoredLength
    split <;> simp_all
  · unfold ignoredLength
    split <;> simp_all

/-- Up to one space is skipped before a lexeme. -/
theorem skip_lexeme {c : Cursor} {l : Lexeme} {rest : List Char} (hl : l.Spelled)
    (h : c.rest = l.spelling.toList ++ rest ∨ c.rest = ' ' :: (l.spelling.toList ++ rest)) :
    c.skip.rest = l.spelling.toList ++ rest := by
  obtain ⟨a,more,hs,hopens⟩ := exists_opens_of_spells hl
  obtain ⟨hspace,hslash⟩ := not_ignored_of_opens hopens
  obtain ⟨hzero,hone⟩ := ignoredLength_lexeme (more ++ rest) hspace hslash
  rw [hs,List.cons_append] at h ⊢
  have hstop (d : Cursor) (hd : d.rest = a :: (more ++ rest)) :
      d.skip.rest = a :: (more ++ rest) := by
    rw [Cursor.skip]
    simp [hd,hzero]
  rcases h with h | h
  · exact hstop c h
  · rw [Cursor.skip]
    simp only [h,hone,Nat.one_ne_zero,List.cons_ne_nil,or_self,if_false]
    exact hstop _ (by simp [Cursor.advance,h])

theorem TypeProgress.keyword_not_mem (p : TypeProgress) (k : Keyword) :
    .keyword k ∉ p.expected := by
  cases p <;> simp [expected]

theorem OptionProgress.keyword_not_mem (p : OptionProgress) (k : Keyword) :
    .keyword k ∉ p.expected := by
  cases p with
  | extension name type => simp [expected,type.keyword_not_mem]
  | _ => simp [expected]

/-- Where two keywords that begin alike are told apart, words are too. -/
theorem word_mem_expected (s : State) (h : .keyword .optionalKw ∈ s.expected) :
    .word ∈ s.expected := by
  obtain ⟨nest,p⟩ := s
  cases p with
  | item e =>
    cases e with
    | own =>
      cases hi : nest.inner <;> cases hm : nest.messages <;>
        simp_all [State.expected,itemVocabulary,bodyVocabulary,itemMarks,fileKeywords]
    | shared => simp [State.expected,itemVocabulary]
    | reserved => simp [State.expected,itemVocabulary]
  | type line use p => cases use <;> simp_all [State.expected,afterType,p.keyword_not_mem]
  | setting n done p => simp_all [State.expected,p.keyword_not_mem]
  | option p => simp_all [State.expected,p.keyword_not_mem]
  | equals line head name negative => cases head <;> cases negative <;> simp [State.expected] at h
  | _ => simp [State.expected] at h

/-- A lexeme that is expected is read where a space or the end follows. -/
theorem next?_lexeme {s : State} {c : Cursor} {l : Lexeme} {rest : List Char} (hl : l.Spelled)
    (hdistinct : l.Distinct) (hmem : l.terminal ∈ s.expected) (hr : Apart rest)
    (hc : c.rest = l.spelling.toList ++ rest) :
    ∃ d : Cursor, c.next? s.expected = some (l.token c.position,d) ∧ d.rest = rest := by
  have hrec := recognize_append hl hdistinct hmem (word_mem_expected s) hr
  obtain ⟨a,more,hs,-⟩ := exists_opens_of_spells hl
  have hpos : l.spelling.toList.length ≠ 0 := by rw [hs]; exact Nat.succ_ne_zero _
  refine ⟨c.advance l.spelling.toList.length,?_,?_⟩
  · rw [Cursor.next?,hc,hrec]
    simp [hpos,Lexeme.token]
  · simp [Cursor.advance,hc]

/-- Lexemes that drive the states along are read from their spaced text. -/
theorem readFrom_spaced {s : State} {c : Cursor} {ls : List Lexeme} {P : State → Prop}
    (h : State.machine.Drives s ls P) (hls : ∀ l ∈ ls, l.Spelled ∧ l.Distinct)
    (hc : c.rest = spaced ls ∨ c.rest = ' ' :: spaced ls) :
    (tokensFrom s c).map Token.lexeme = ls ∧ ∃ s', P s' ∧ ∀ last statements,
      s'.statements? = some statements → readFrom s c last = .ok statements := by
  induction ls generalizing s c with
  | nil =>
    have hskip : c.skip.rest = [] := by
      rcases hc with hc | hc
      · rw [Cursor.skip]
        simp [show c.rest = [] from hc]
      · rw [Cursor.skip,Cursor.skip]
        simp [show c.rest = [' '] from hc,Cursor.advance,ignoredLength,isSpace]
    refine ⟨by rw [tokensFrom_end hskip]; rfl,s,Machine.drives_nil_iff.mp h,fun last sts hs => ?_⟩
    rw [readFrom]
    simp [hskip,hs]
  | cons l ls ih =>
    obtain ⟨rest,hapart,htext,hrest⟩ := spaced_cons l ls
    obtain ⟨⟨hl,hdistinct⟩,hmore⟩ := List.forall_mem_cons.mp hls
    rw [htext] at hc
    have hskip := skip_lexeme hl hc
    have hne : c.skip.rest ≠ [] := by
      obtain ⟨a,more,hs,-⟩ := exists_opens_of_spells hl
      rw [hskip,hs]
      exact List.cons_ne_nil _ _
    obtain ⟨hmem,hstep⟩ := Machine.drives_cons_iff.mp h
    obtain ⟨d,hnext,hd⟩ := next?_lexeme hl hdistinct hmem hapart hskip
    obtain ⟨s',hs',hdrives⟩ := hstep c.skip.position
    have hd' : d.rest = spaced ls ∨ d.rest = ' ' :: spaced ls := hd ▸ hrest
    obtain ⟨htokens,s'',hP,hread⟩ := ih hdrives hmore hd'
    refine ⟨?_,s'',hP,fun last sts hs => ?_⟩
    · rw [tokensFrom_token hne hnext hs',List.map_cons,Lexeme.lexeme_token,htokens]
    · rw [readFrom_token hne hnext hs']
      exact hread _ sts hs

/-! ## Derivations of texts -/

/-- A derivation of a whole file with these lexemes at its leaves. -/
structure Derives (d : Derivation) (ls : List Lexeme) : Prop where
  valid : d.Valid
  root : d.root = .rule .file
  yield : d.yield = ls

/-- The statements of a text are a derivation of its lexemes, which make it up. -/
theorem derives_of_read {text : List Char} {statements : List Statement}
    (h : read text = .ok statements) : Woven text (lexemes text) ∧
      (∀ l ∈ lexemes text, l.Spelled) ∧ Derives (fileDerivation statements) (lexemes text) := by
  obtain ⟨hwoven,hgenuine,s',hrun,hdone⟩ := readFrom_sound h
  obtain ⟨hsound,hconsumed⟩ := State.sound_run State.sound_start hrun
  obtain ⟨hvalid,hyield⟩ := State.derivation_of_statements? hsound hdone
  refine ⟨hwoven,?_,hvalid,rfl,hyield.trans hconsumed⟩
  rintro _ hl
  obtain ⟨t,ht,rfl⟩ := List.mem_map.mp hl
  exact (hgenuine t ht).2

theorem Machine.Drives.run {s : State} {ts : List Token} {P : State → Prop}
    (h : State.machine.Drives s (ts.map Token.lexeme) P) (hts : ∀ t ∈ ts, t.Genuine) :
    ∃ s', ts.foldlM State.step s = some s' ∧ P s' := by
  induction ts generalizing s with
  | nil => exact ⟨s,rfl,Machine.drives_nil_iff.mp h⟩
  | cons t ts ih =>
    obtain ⟨ht,hmore⟩ := List.forall_mem_cons.mp hts
    obtain ⟨-,hstep⟩ := Machine.drives_cons_iff.mp h
    obtain ⟨s',hs',hdrives⟩ := hstep t.position
    rw [← ht.1] at hs'
    obtain ⟨s'',hrun,hP⟩ := ih hdrives hmore
    exact ⟨s'',by rw [List.foldlM_cons,show s.step t = some s' from hs']; exact hrun,hP⟩

/-- The tokens of a text have no second derivation. -/
theorem derivation_unique {text : List Char} {statements : List Statement}
    (h : read text = .ok statements) {d : Derivation}
    (hd : Derives d (lexemes text)) : d = fileDerivation statements := by
  obtain ⟨-,hgenuine,s',hrun,hdone⟩ := readFrom_sound h
  have hdrives := drives_file hd.valid hd.root
  rw [hd.yield] at hdrives
  obtain ⟨s'',hrun',others,hothers,he⟩ := hdrives.run hgenuine
  have hs : s' = s'' := Option.some.inj (hrun.symm.trans hrun')
  rw [← hs] at hothers
  have hsame : statements = others := Option.some.inj (hdone.symm.trans hothers)
  rw [hsame,he]

/-- Lexemes that have a derivation are read from their spaced text, as that derivation. -/
theorem read_spaced {d : Derivation} {ls : List Lexeme} (hd : Derives d ls)
    (hls : ∀ l ∈ ls, l.Spelled ∧ l.Distinct) : lexemes (spaced ls) = ls ∧
      ∃ statements, read (spaced ls) = .ok statements ∧ d = fileDerivation statements := by
  have hdrives := drives_file hd.valid hd.root
  rw [hd.yield] at hdrives
  have hstart : (Cursor.ofText (spaced ls)).rest = spaced ls := rfl
  obtain ⟨htokens,s',⟨statements,hs,-⟩,hread⟩ := readFrom_spaced hdrives hls (.inl hstart)
  have hlexemes : lexemes (spaced ls) = ls := htokens
  have hread : read (spaced ls) = .ok statements := hread _ statements hs
  refine ⟨hlexemes,statements,hread,derivation_unique hread ?_⟩
  rw [hlexemes]
  exact hd

end SchemaCodec.Grammar
