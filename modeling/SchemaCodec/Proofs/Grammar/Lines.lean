import SchemaCodec.Proofs.Grammar.Reading

/-! # Lines of declarations

A declaration that keeps a line keeps that of its first token. Each lexeme that a reading state
stands for is marked by the line of the declaration that begins with it, if there is one; each step
adds one lexeme, and the mark it carries is the line of the token. The lines of tokens do not
descend.
-/
namespace SchemaCodec.Grammar

/-- A lexeme, with the line of the declaration that it begins. -/
structure Marked where
  lexeme : Lexeme
  begins : Option ℕ

/-- The lexemes of a part, the first of which carries the line of the part. -/
def mark (line : Option ℕ) : List Lexeme → List Marked
  | [] => []
  | l :: ls => ⟨l,line⟩ :: ls.map (⟨·,none⟩)

theorem lexemes_mark (line : Option ℕ) (ls : List Lexeme) :
    (mark line ls).map Marked.lexeme = ls := by
  cases ls with
  | nil => rfl
  | cons l ls => simp [mark,Function.comp_def]

/-- A lexeme behind the first carries no line. -/
theorem mark_concat {line : Option ℕ} {ls : List Lexeme} (h : ls = [] → line = none) (l : Lexeme) :
    mark line (ls ++ [l]) = mark line ls ++ [⟨l,none⟩] := by
  cases ls with
  | nil => rw [h rfl]; rfl
  | cons first ls => simp [mark]

/-! ## Trees -/

def OneofItem.line? : OneofItem → Option ℕ
  | member m => some m.line
  | _ => none

def OneofItem.marked (i : OneofItem) : List Marked := mark i.line? i.derivation.yield

def EnumItem.line? : EnumItem → Option ℕ
  | value v => some v.line
  | _ => none

def EnumItem.marked (i : EnumItem) : List Marked := mark i.line? i.derivation.yield

/-- A declaration with a name and a body of marked lexemes. -/
def markedBlock (line : Option ℕ) (k : Keyword) (name : String) (body : List Marked) :
    List Marked :=
  mark line (opening k name) ++ body ++ mark none [.mark .closeBrace]

def EnumTree.marked (e : EnumTree) : List Marked :=
  markedBlock (some e.line) .enumKw e.name (e.items.flatMap EnumItem.marked)

namespace MessageItem

mutual

def marked : MessageItem → List Marked
  | field f => mark (some f.line) f.derivation.yield
  | map m => mark (some m.line) m.derivation.yield
  | oneof name items => markedBlock none .oneofKw name (items.flatMap OneofItem.marked)
  | message line name items => markedBlock (some line) .messageKw name (markedAll items)
  | enum e => e.marked
  | option s => mark none s.alone.yield
  | reserved r => mark none r.derivation.yield
  | empty => mark none emptyDerivation.yield

def markedAll : List MessageItem → List Marked
  | [] => []
  | item :: rest => item.marked ++ markedAll rest

end

theorem markedAll_eq_flatMap (items : List MessageItem) : markedAll items = items.flatMap marked := by
  induction items with
  | nil => rfl
  | cons item rest ih => rw [markedAll,ih,List.flatMap_cons]

end MessageItem

def Statement.marked : Statement → List Marked
  | message line name items =>
    markedBlock (some line) .messageKw name (items.flatMap MessageItem.marked)
  | enum e => e.marked
  | s => mark none s.derivation.yield

theorem marked_message (line : ℕ) (name : String) (items : List MessageItem) :
    (Statement.message line name items).marked = (MessageItem.message line name items).marked := by
  rw [Statement.marked,MessageItem.marked,MessageItem.markedAll_eq_flatMap]

theorem lexemes_markedBlock (line : Option ℕ) (k : Keyword) (name : String) (body : List Marked) :
    (markedBlock line k name body).map Marked.lexeme =
      opening k name ++ body.map Marked.lexeme ++ [.mark .closeBrace] := by
  simp [markedBlock,lexemes_mark]

theorem OneofItem.lexemes_marked (i : OneofItem) :
    i.marked.map Marked.lexeme = i.derivation.yield := lexemes_mark _ _

theorem EnumItem.lexemes_marked (i : EnumItem) :
    i.marked.map Marked.lexeme = i.derivation.yield := lexemes_mark _ _

theorem lexemes_flatMap {α : Type} {marked : α → List Marked} {derivation : α → Derivation}
    (h : ∀ a, (marked a).map Marked.lexeme = (derivation a).yield) (as : List α) :
    (as.flatMap marked).map Marked.lexeme = Derivation.yields (as.map derivation) := by
  induction as with
  | nil => rfl
  | cons a rest ih => rw [List.flatMap_cons,List.map_append,h,ih,List.map_cons,Derivation.yields_cons]

theorem EnumTree.lexemes_marked (e : EnumTree) :
    e.marked.map Marked.lexeme = e.derivation.yield := by
  rw [EnumTree.marked,lexemes_markedBlock,lexemes_flatMap EnumItem.lexemes_marked,
    EnumTree.derivation,yield_block]

mutual

theorem MessageItem.lexemes_marked (i : MessageItem) :
    i.marked.map Marked.lexeme = i.derivation.yield := by
  cases i with
  | field | map | option | reserved | empty =>
    rw [MessageItem.marked,lexemes_mark,MessageItem.derivation]
  | enum e => exact e.lexemes_marked
  | oneof name items =>
    rw [MessageItem.marked,lexemes_markedBlock,lexemes_flatMap OneofItem.lexemes_marked,
      MessageItem.derivation,yield_block]
  | message line name items =>
    rw [MessageItem.marked,lexemes_markedBlock,MessageItem.lexemes_markedAll items,
      MessageItem.derivation,yield_block]

theorem MessageItem.lexemes_markedAll (items : List MessageItem) :
    (MessageItem.markedAll items).map Marked.lexeme =
      Derivation.yields (MessageItem.derivations items) := by
  cases items with
  | nil => rfl
  | cons i rest =>
    rw [MessageItem.markedAll,List.map_append,MessageItem.lexemes_marked i,
      MessageItem.lexemes_markedAll rest,MessageItem.derivations,Derivation.yields_cons]

end

theorem Statement.lexemes_marked (s : Statement) :
    s.marked.map Marked.lexeme = s.derivation.yield := by
  cases s with
  | message line name items => rw [marked_message,MessageItem.lexemes_marked,derivation_message]
  | enum e => exact e.lexemes_marked
  | _ => rw [Statement.marked,lexemes_mark] <;> simp

/-! ## States -/

def OpenMessage.marked (m : OpenMessage) : List Marked :=
  mark (some m.line) (opening .messageKw m.name) ++ m.items.reverse.flatMap MessageItem.marked

theorem OpenMessage.lexemes_marked (m : OpenMessage) :
    m.marked.map Marked.lexeme = m.consumed := by
  rw [OpenMessage.marked,List.map_append,lexemes_mark,lexemes_flatMap MessageItem.lexemes_marked,
    OpenMessage.consumed]

def Inner.marked : Inner → List Marked
  | none => []
  | oneof name items => mark .none (opening .oneofKw name) ++ items.reverse.flatMap OneofItem.marked
  | enum line name items =>
    mark (some line) (opening .enumKw name) ++ items.reverse.flatMap EnumItem.marked

/-- The line of the declaration at hand. -/
def Progress.line? : Progress → Option ℕ
  | messageWord line | messageName line _ | enumWord line | enumName line _ | mapWord line
  | type line _ _ | mapTypes line _ _ | named line _ _ | equals line _ _ _ => some line
  | numbered n | setting n _ _ | settingsClosed n _ => some n.line
  | _ => none

def Progress.marked (p : Progress) : List Marked := mark p.line? p.consumed

namespace Nest

def marked (nest : Nest) : List Marked :=
  nest.statements.reverse.flatMap Statement.marked
    ++ nest.messages.reverse.flatMap OpenMessage.marked ++ nest.inner.marked

theorem lexemes_marked (nest : Nest) : nest.marked.map Marked.lexeme = nest.consumed := by
  have hinner : nest.inner.marked.map Marked.lexeme = nest.inner.consumed := by
    cases nest.inner with
    | none => rfl
    | oneof name items =>
      rw [Inner.marked,List.map_append,lexemes_mark,lexemes_flatMap OneofItem.lexemes_marked,
        Inner.consumed]
    | enum line name items =>
      rw [Inner.marked,List.map_append,lexemes_mark,lexemes_flatMap EnumItem.lexemes_marked,
        Inner.consumed]
  rw [marked,List.map_append,List.map_append,lexemes_flatMap Statement.lexemes_marked,hinner,
    List.map_flatMap,consumed]
  simp only [OpenMessage.lexemes_marked]

variable {nest next : Nest}

theorem marked_addStatement (hm : nest.messages = []) (hi : nest.inner = .none) (s : Statement) :
    (nest.addStatement s).marked = nest.marked ++ s.marked := by
  simp [marked,addStatement,hm,hi,Inner.marked]

theorem marked_addMessageItem {i : MessageItem} (hi : nest.inner = .none)
    (hn : nest.addMessageItem i = some next) : next.marked = nest.marked ++ i.marked := by
  cases hm : nest.messages with
  | nil => simp [addMessageItem,hm] at hn
  | cons m outer =>
    simp only [addMessageItem,hm,Option.some.injEq] at hn
    subst hn
    simp [marked,OpenMessage.marked,hm,hi,Inner.marked]

theorem marked_addBlock {i : MessageItem} {s : Statement} (he : s.marked = i.marked)
    (hi : nest.inner = .none) : (nest.addBlock i s).marked = nest.marked ++ i.marked := by
  cases hm : nest.messages with
  | nil =>
    have hadd : nest.addBlock i s = nest.addStatement s := by
      simp [addBlock,addStatement,hm,hi]
    rw [hadd,marked_addStatement hm hi,he]
  | cons m outer =>
    refine marked_addMessageItem hi ?_
    simp [addBlock,addMessageItem,hm,hi]

theorem marked_oneofItem {name : String} {items : List OneofItem}
    (hi : nest.inner = .oneof name items) (i : OneofItem) :
    marked { nest with inner := .oneof name (i :: items) } = nest.marked ++ i.marked := by
  simp [marked,hi,Inner.marked]

theorem marked_enumItem {line : ℕ} {name : String} {items : List EnumItem}
    (hi : nest.inner = .enum line name items) (i : EnumItem) :
    marked { nest with inner := .enum line name (i :: items) } = nest.marked ++ i.marked := by
  simp [marked,hi,Inner.marked]

/-- From one nest to another, lexemes are closed that begin with a line. -/
def MarksMore (nest : Nest) (line : Option ℕ) (next : Nest) : Prop :=
  ∃ ls, next.marked = nest.marked ++ mark line ls

/-- A statement of a file carries no line, unless it is a message or an enum. -/
theorem marksMore_addStatement (h : nest.inner = .none ∧ nest.messages = []) {s : Statement}
    (hs : s.marked = mark none s.derivation.yield) : nest.MarksMore none (nest.addStatement s) :=
  ⟨s.derivation.yield,hs ▸ marked_addStatement h.2 h.1 s⟩

theorem marksMore_addOption (nest : Nest) (s : Setting) :
    nest.MarksMore none (nest.addOption s) := by
  unfold addOption
  split
  · rename_i hi
    exact ⟨s.alone.yield,marked_addBlock (i := .option s) rfl hi⟩
  · rename_i hi
    exact ⟨_,marked_oneofItem hi (.option s)⟩
  · rename_i hi
    exact ⟨_,marked_enumItem hi (.option s)⟩

theorem marksMore_addEmpty (nest : Nest) : nest.MarksMore none nest.addEmpty := by
  unfold addEmpty
  split
  · rename_i hi
    exact ⟨emptyDerivation.yield,marked_addBlock (i := .empty) rfl hi⟩
  · rename_i hi
    exact ⟨_,marked_oneofItem hi .empty⟩
  · rename_i hi
    exact ⟨_,marked_enumItem hi .empty⟩

theorem marksMore_addReserved {r : Reserved} (hn : nest.addReserved r = some next) :
    nest.MarksMore none next := by
  unfold addReserved at hn
  split at hn
  · rename_i hi
    exact ⟨r.derivation.yield,marked_addMessageItem (i := .reserved r) hi hn⟩
  · cases hn
  · rename_i hi
    cases hn
    exact ⟨_,marked_enumItem hi (.reserved r)⟩

theorem marksMore_addNumbered {n : Numbered} {settings : List Setting}
    (hn : nest.addNumbered n settings = some next) : nest.MarksMore (some n.line) next := by
  unfold addNumbered at hn
  split at hn
  · rename_i label type hi hhead
    let f : FieldTree := ⟨n.line,label,type,⟨n.name,n.number,settings⟩⟩
    exact ⟨f.derivation.yield,marked_addMessageItem (i := .field f) hi hn⟩
  · rename_i key value hi hhead
    let m : MapTree := ⟨n.line,key,value,⟨n.name,n.number,settings⟩⟩
    exact ⟨m.derivation.yield,marked_addMessageItem (i := .map m) hi hn⟩
  · rename_i name items type hi hhead
    cases hn
    exact ⟨_,marked_oneofItem hi (.member ⟨n.line,type,⟨n.name,n.number,settings⟩⟩)⟩
  · rename_i hi hhead
    cases hn
    exact ⟨_,marked_enumItem hi (.value ⟨n.line,n.negative,⟨n.name,n.number,settings⟩⟩)⟩
  · cases hn

/-- A brace closes the body that is open innermost. -/
theorem marksMore_close {ended : Ended} (hn : Closing nest ended next) :
    nest.MarksMore none next := by
  refine ⟨[.mark .closeBrace],?_⟩
  cases hn with
  | enum =>
    rw [marked_addBlock (by rfl) rfl]
    simp [marked,Inner.marked,MessageItem.marked,EnumTree.marked,markedBlock]
  | oneof hadd =>
    rw [marked_addMessageItem rfl hadd]
    simp [marked,Inner.marked,MessageItem.marked,markedBlock]
  | @message _ m _ =>
    rw [marked_addBlock (marked_message m.line m.name _) rfl]
    simp [marked,Inner.marked,MessageItem.marked,MessageItem.markedAll_eq_flatMap,
      OpenMessage.marked,markedBlock]

end Nest

namespace State

def marked (s : State) : List Marked := s.nest.marked ++ s.progress.marked

/-- What a step on a token does to the lines: it goes on within the declaration at hand, or begins
one, or closes the one at hand. -/
inductive Moves (s : State) (t : Token) (next : State) : Prop
  | goes (hnest : next.nest = s.nest) (hline : next.progress.line? = s.progress.line?)
  | begins (hnest : next.nest = s.nest) (hitem : s.progress.consumed = [])
      (hline : ∀ line ∈ next.progress.line?, line = t.position.line)
  | closes (hmore : s.nest.MarksMore s.progress.line? next.nest)
      (hitem : ∃ ended, next.progress = .item ended)

variable {nest : Nest} {t : Token} {next : State}

theorem line?_stepItemKeyword {k : Keyword} {line : ℕ} {p : Progress}
    (h : stepItemKeyword nest k line = some p) : ∀ line' ∈ p.line?, line' = line := by
  unfold stepItemKeyword at h
  split at h
  case h_11 =>
    obtain ⟨l,-,rfl⟩ := Option.map_eq_some_iff.mp h
    simp [Progress.line?]
  all_goals cases h
  all_goals simp [Progress.line?]

theorem moves_stepItem {ended : Ended} (hs : stepItem nest t = some next) :
    Moves ⟨nest,.item ended⟩ t next := by
  cases beginning_of_stepItem hs with
  | keyword _ hp => exact .begins rfl rfl (line?_stepItemKeyword hp)
  | empty => exact .closes nest.marksMore_addEmpty ⟨_,rfl⟩
  | close _ hc => exact .closes (Nest.marksMore_close hc) ⟨_,rfl⟩
  | value | type => exact .begins rfl rfl (by simp [Progress.line?])

theorem moves_finishNumbered {p : Progress} {n : Numbered} {settings : List Setting}
    (hp : p.line? = some n.line) (hs : finishNumbered nest n settings = some next) :
    Moves ⟨nest,p⟩ t next := by
  obtain ⟨after,hadd,rfl⟩ := Option.map_eq_some_iff.mp hs
  exact .closes (hp ▸ Nest.marksMore_addNumbered hadd) ⟨_,rfl⟩

theorem moves_finishReserved {p : Progress} {r : Reserved} (hp : p.line? = none)
    (hs : finishReserved nest r = some next) : Moves ⟨nest,p⟩ t next := by
  obtain ⟨after,hadd,rfl⟩ := Option.map_eq_some_iff.mp hs
  exact .closes (hp ▸ Nest.marksMore_addReserved hadd) ⟨_,rfl⟩

theorem line?_goes {p q : Progress} (h : p.Goes t q) : q.line? = p.line? := by
  cases h with
  | typed _ hs =>
    unfold stepAfterType at hs
    split at hs <;> cases hs <;> rfl
  | _ => rfl

theorem moves_step {s : State} (h : s.Sound) (hs : s.step t = some next) : Moves s t next := by
  obtain ⟨nest,p⟩ := s
  have hp := h.progress
  replace hs := transition_of_step hs
  cases hs with
  | item hs => exact moves_stepItem hs
  | goes hgoes => exact .goes rfl (line?_goes hgoes)
  | statement hsaid =>
    cases hsaid <;> exact .closes (Nest.marksMore_addStatement hp rfl) ⟨_,rfl⟩
  | @message line name =>
    have hinner : nest.inner = .none := hp
    refine .closes ⟨opening .messageKw name,?_⟩ ⟨_,rfl⟩
    simp [Nest.marked,OpenMessage.marked,hinner,Inner.marked,Progress.line?]
  | @enum line name =>
    have hinner : nest.inner = .none := hp
    refine .closes ⟨opening .enumKw name,?_⟩ ⟨_,rfl⟩
    simp [Nest.marked,hinner,Inner.marked,Progress.line?]
  | @oneof name =>
    have hinner : nest.inner = .none := hp
    refine .closes ⟨opening .oneofKw name,?_⟩ ⟨_,rfl⟩
    simp [Nest.marked,hinner,Inner.marked,Progress.line?]
  | numbered hnumbers _ hs => cases hnumbers <;> exact moves_finishNumbered rfl hs
  | option => exact .closes (nest.marksMore_addOption _) ⟨_,rfl⟩
  | reserved hreserves _ hs => cases hreserves <;> exact moves_finishReserved rfl hs

/-- A declaration at hand has a lexeme before the next one. -/
def Begun (s : State) : Prop := s.progress.consumed = [] → s.progress.line? = none

/-- Each step adds the lexeme of its token, and if that carries a line it is the token's. -/
theorem marked_step {s : State} (h : s.Sound) (hb : s.Begun) (hs : s.step t = some next) :
    next.Begun ∧ ∃ x, (∀ line ∈ x, line = t.position.line) ∧
      next.marked = s.marked ++ [⟨t.lexeme,x⟩] := by
  have hc := (follows_step h hs).consumed
  rw [consumed,consumed,List.append_assoc] at hc
  have hgoes (hnest : next.nest = s.nest) :
      next.progress.consumed = s.progress.consumed ++ [t.lexeme] := by
    rw [hnest] at hc
    exact List.append_cancel_left hc
  cases moves_step h hs with
  | goes hnest hline =>
    have hp := hgoes hnest
    refine ⟨fun he => by simp [hp] at he,none,by simp,?_⟩
    rw [marked,marked,Progress.marked,Progress.marked,hnest,hline,hp,mark_concat hb,
      List.append_assoc]
  | begins hnest hitem hline =>
    have hp := hgoes hnest
    refine ⟨fun he => by simp [hp] at he,next.progress.line?,hline,?_⟩
    rw [marked,marked,Progress.marked,Progress.marked,hnest,hp,hitem]
    simp [mark]
  | closes hmore hitem =>
    obtain ⟨ls,hmarked⟩ := hmore
    obtain ⟨ended,hitem⟩ := hitem
    refine ⟨fun _ => by rw [hitem]; rfl,none,by simp,?_⟩
    have hls : ls = s.progress.consumed ++ [t.lexeme] := by
      have hlexemes := congrArg (List.map Marked.lexeme) hmarked
      rw [List.map_append,lexemes_mark,Nest.lexemes_marked,Nest.lexemes_marked] at hlexemes
      rw [hitem,hlexemes,Progress.consumed,List.append_nil] at hc
      exact List.append_cancel_left hc
    rw [marked,marked,Progress.marked,Progress.marked,hitem,hmarked,hls,mark_concat hb]
    simp [Progress.consumed,mark]

end State

/-! ## Texts -/

/-- A marked lexeme is a token: the lexeme is the token's, and so is the line that it carries. -/
def Marked.Fits (m : Marked) (t : Token) : Prop :=
  m.lexeme = t.lexeme ∧ ∀ line ∈ m.begins, line = t.position.line

theorem State.fits_run {ts before : List Token} {s s' : State} (h : s.Sound) (hb : s.Begun)
    (hfits : List.Forall₂ Marked.Fits s.marked before) (hs : ts.foldlM State.step s = some s') :
    List.Forall₂ Marked.Fits s'.marked (before ++ ts) := by
  rw [foldlM_eq_some_iff] at hs
  induction hs generalizing before with
  | nil => simpa using hfits
  | @cons s next _ t rest hnext _ ih =>
    obtain ⟨hbegun,x,hx,hmarked⟩ := marked_step h hb hnext
    have hfits : List.Forall₂ Marked.Fits next.marked (before ++ [t]) :=
      hmarked ▸ List.rel_append hfits (.cons ⟨rfl,hx⟩ .nil)
    have hrest := ih (follows_step h hnext).sound hbegun hfits
    rwa [List.append_assoc] at hrest

theorem State.marked_of_statements? {s : State} {statements : List Statement}
    (hs : s.statements? = some statements) : s.marked = statements.flatMap Statement.marked := by
  obtain ⟨nest,p⟩ := s
  unfold statements? at hs
  split at hs <;> cases hs
  rename_i hm hi hp
  simp only at hm hi hp
  simp [marked,Nest.marked,hm,hi,hp,Inner.marked,Progress.marked,Progress.consumed,mark]

/-- What a text declares, its lexemes in order with the lines of declarations, is its tokens. -/
theorem fits_of_read {text : List Char} {statements : List Statement}
    (h : read text = .ok statements) :
    List.Forall₂ Marked.Fits (statements.flatMap Statement.marked) (tokens text) := by
  obtain ⟨-,-,s,hrun,hdone⟩ := readFrom_sound h
  have hnone : List.Forall₂ Marked.Fits State.start.marked [] := .nil
  have hfits := State.fits_run State.sound_start (fun _ => rfl) hnone hrun
  rwa [State.marked_of_statements? hdone] at hfits

theorem Position.line_le_after (p : Position) (cs : List Char) : p.line ≤ (p.after cs).line := by
  induction cs generalizing p with
  | nil => exact le_rfl
  | cons c cs ih =>
    have hstep : p.line ≤ (p.step c).line := by
      unfold step
      split <;> simp
    exact hstep.trans (ih _)

theorem Cursor.line_le_skip (c : Cursor) : c.position.line ≤ c.skip.position.line := by
  fun_induction Cursor.skip c with
  | case1 => exact le_rfl
  | case2 c _ _ ih => exact (Position.line_le_after _ _).trans ih

theorem Cursor.line_of_next? {c d : Cursor} {acceptable : List Terminal} {t : Token}
    (h : c.next? acceptable = some (t,d)) :
    t.position = c.position ∧ c.position.line ≤ d.position.line := by
  obtain ⟨_,_,-,-,rfl,rfl⟩ := Cursor.next?_eq_some h
  exact ⟨rfl,Position.line_le_after _ _⟩

/-- The lines of tokens do not descend. -/
theorem lines_tokensFrom (s : State) (c : Cursor) :
    (∀ t ∈ tokensFrom s c, c.position.line ≤ t.position.line) ∧
      (tokensFrom s c).Pairwise fun t u => t.position.line ≤ u.position.line := by
  fun_induction tokensFrom s c with
  | case1 | case2 | case3 => simp
  | case4 s c d hne t behind hn next hs ih =>
    obtain ⟨hplace,hbehind⟩ := Cursor.line_of_next? hn
    obtain ⟨hrest,hpairs⟩ := ih
    have hfirst : c.position.line ≤ t.position.line := hplace ▸ c.line_le_skip
    have hmore : ∀ u ∈ tokensFrom next behind, t.position.line ≤ u.position.line :=
      fun u hu => hplace ▸ hbehind.trans (hrest u hu)
    refine ⟨List.forall_mem_cons.mpr ⟨hfirst,fun u hu => hfirst.trans (hmore u hu)⟩,?_⟩
    exact List.pairwise_cons.mpr ⟨hmore,hpairs⟩

theorem lines_sublist {ms : List Marked} {ts : List Token} (h : List.Forall₂ Marked.Fits ms ts) :
    (ms.filterMap Marked.begins).Sublist (ts.map (·.position.line)) := by
  induction h with
  | nil => exact .slnil
  | @cons m t ms ts hfits _ ih =>
    rw [List.map_cons]
    cases hm : m.begins with
    | none =>
      rw [List.filterMap_cons_none hm]
      exact ih.cons _
    | some line =>
      rw [List.filterMap_cons_some hm,hfits.2 line hm]
      exact ih.cons_cons _

/-- The lines of the declarations of a text do not descend. -/
theorem lines_ascend {text : List Char} {statements : List Statement}
    (h : read text = .ok statements) :
    ((statements.flatMap Statement.marked).filterMap Marked.begins).Pairwise (· ≤ ·) :=
  (List.pairwise_map.mpr (lines_tokensFrom _ _).2).sublist (lines_sublist (fits_of_read h))

end SchemaCodec.Grammar
