import SchemaCodec.Proofs.Grammar.Reading

/-! # What has begun can be finished

Wherever reading has come to, some lexemes lead on to the end of a file: a statement at hand can
stand where it does, and what is open can be closed. So the lexemes that have been read begin a
sentence. Conversely what a sentence goes on with is expected and leads on.
-/
namespace SchemaCodec.Grammar
open Grammar.Derivation

/-! ## Leading on -/

theorem spelled_mark (m : Mark) : (Lexeme.mark m).Spelled := by
  simp [Lexeme.Spelled,Lexeme.spelling,Lexeme.terminal,Terminal.Spells]

theorem spelled_word : (Lexeme.word "a").Spelled := ⟨'a',[],rfl,by simp,rfl⟩

/-- Spelled lexemes lead from here to where the property holds. -/
inductive Leads {σ : Type} (step : σ → Token → Option σ) (P : σ → Prop) : σ → Prop
  | here {s : σ} (h : P s) : Leads step P s
  | on {s s' : σ} (l : Lexeme) (hl : l.Spelled) (hs : step s (l.token .start) = some s')
      (h : Leads step P s') : Leads step P s

namespace Leads
variable {σ τ : Type} {step : σ → Token → Option σ} {P : σ → Prop} {s s' : σ}

theorem exists_run (h : Leads step P s) : ∃ ts : List Token, (∀ t ∈ ts, t.lexeme.Spelled) ∧
    ∃ s', ts.foldlM step s = some s' ∧ P s' := by
  induction h with
  | here h => exact ⟨[],by simp,_,rfl,h⟩
  | on l hl hs _ ih =>
    obtain ⟨ts,hts,s'',hrun,hP⟩ := ih
    have hfirst : (l.token .start).lexeme.Spelled := by rwa [Lexeme.lexeme_token]
    refine ⟨l.token .start :: ts,List.forall_mem_cons.mpr ⟨hfirst,hts⟩,s'',?_,hP⟩
    rw [List.foldlM_cons,hs]
    exact hrun

/-- What leads a part on leads the whole on. -/
theorem inside {step' : τ → Token → Option τ} {Q : τ → Prop} {f : σ → τ} (h : Leads step P s)
    (hstep : ∀ s t s', step s t = some s' → step' (f s) t = some (f s'))
    (hP : ∀ s, P s → Leads step' Q (f s)) : Leads step' Q (f s) := by
  induction h with
  | here h => exact hP _ h
  | on l hl hs _ ih => exact .on l hl (hstep _ _ _ hs) ih

theorem mark (m : Mark) (hs : step s ((Lexeme.mark m).token .start) = some s')
    (h : Leads step P s') : Leads step P s := .on (.mark m) (spelled_mark m) hs h

theorem word (hs : step s ((Lexeme.word "a").token .start) = some s') (h : Leads step P s') :
    Leads step P s := .on (.word "a") spelled_word hs h

theorem int (hs : step s ((Lexeme.int "0").token .start) = some s') (h : Leads step P s') :
    Leads step P s := .on (.int "0") (.inl ⟨by decide,List.forall_mem_singleton.mpr rfl⟩)
    hs h

theorem text (hs : step s ((Lexeme.text "\"\"").token .start) = some s') (h : Leads step P s') :
    Leads step P s := .on (.text "\"\"") ⟨'"',[],.inl rfl,.nil,rfl⟩ hs h

end Leads

theorem TypeProgress.leads (p : TypeProgress) : Leads step (fun q => ∃ r, q.done? = some r) p := by
  cases p with
  | start => exact .word rfl (.here ⟨_,rfl⟩)
  | rooted => exact .word rfl (.here ⟨_,rfl⟩)
  | word r => exact .here ⟨r,rfl⟩
  | dot r => exact .word rfl (.here ⟨_,rfl⟩)

namespace OptionProgress

theorem leads_part (name : List OptionPart) :
    Leads step (fun q => ∃ s, q.done? = some s) (.part name) :=
  .mark .equals rfl (.word rfl (.here ⟨_,rfl⟩))

theorem leads (p : OptionProgress) : Leads step (fun q => ∃ s, q.done? = some s) p := by
  cases p with
  | start name => exact .word rfl (leads_part _)
  | extension name type =>
    refine type.leads.inside (fun _ _ _ hs => step_extension name hs) ?_
    rintro q ⟨r,hr⟩
    refine .mark .closeParen ?_ (leads_part (name ++ [.extension r]))
    have hstep : q.step ((Lexeme.mark .closeParen).token .start) = none :=
      TypeProgress.step_of_done? hr (by simp [Lexeme.token,Lexeme.terminal])
    simp only [step,hstep,hr]
    rfl
  | part name => exact leads_part name
  | equals name => exact .word rfl (.here ⟨_,rfl⟩)
  | sign name s => exact .int rfl (.here ⟨_,rfl⟩)
  | path name p => exact .here ⟨_,rfl⟩
  | pathDot name p => exact .word rfl (.here ⟨_,rfl⟩)
  | done s => exact .here ⟨s,rfl⟩

end OptionProgress

/-! ## What can be closed -/

namespace Nest

/-- An open oneof stands in a message. -/
def Closable (nest : Nest) : Prop := ∀ name items, nest.inner = .oneof name items → nest.messages ≠ []

/-- A numbered declaration that begins so belongs in the innermost body. -/
def Takes (nest : Nest) (head : Head) : Prop :=
  ∀ (n : Numbered) settings, n.head = head → ∃ after, nest.addNumbered n settings = some after

def TakesReserved (nest : Nest) : Prop := ∀ r, ∃ after, nest.addReserved r = some after

variable {nest next : Nest}

theorem closable_of_none (h : nest.inner = .none) : nest.Closable :=
  fun _ _ he => by rw [h] at he; cases he

theorem closable_of_messages (h : nest.messages ≠ []) : nest.Closable := fun _ _ _ => h

theorem closable_of_enum {line : Nat} {name : String} {items : List EnumItem}
    (h : nest.inner = .enum line name items) : nest.Closable :=
  fun _ _ he => by rw [h] at he; cases he

theorem Closable.addStatement (h : nest.Closable) (s : Statement) :
    (nest.addStatement s).Closable := h

theorem inner_addBlock (nest : Nest) (i : MessageItem) (s : Statement) :
    (nest.addBlock i s).inner = .none := by
  unfold addBlock
  split <;> rfl

theorem messages_addMessageItem {i : MessageItem} (h : nest.addMessageItem i = some next) :
    next.messages ≠ [] ∧ nest.messages ≠ [] := by
  unfold addMessageItem at h
  split at h <;> cases h
  rename_i hm
  exact ⟨List.cons_ne_nil _ _,by simp [hm]⟩

theorem Closable.addOption (h : nest.Closable) (s : Setting) : (nest.addOption s).Closable := by
  unfold Nest.addOption
  split
  · exact closable_of_none (inner_addBlock ..)
  · rename_i hi
    exact closable_of_messages (h _ _ hi)
  · exact closable_of_enum rfl

theorem Closable.addEmpty (h : nest.Closable) : nest.addEmpty.Closable := by
  unfold Nest.addEmpty
  split
  · exact closable_of_none (inner_addBlock ..)
  · rename_i hi
    exact closable_of_messages (h _ _ hi)
  · exact closable_of_enum rfl

theorem closable_addReserved {r : Reserved} (h : nest.addReserved r = some next) :
    next.Closable := by
  unfold addReserved at h
  split at h
  · exact closable_of_messages (messages_addMessageItem h).1
  · cases h
  · cases h
    exact closable_of_enum rfl

theorem closable_addNumbered (hn : nest.Closable) {n : Numbered} {settings : List Setting}
    (h : nest.addNumbered n settings = some next) : next.Closable := by
  unfold addNumbered at h
  split at h
  · exact closable_of_messages (messages_addMessageItem h).1
  · exact closable_of_messages (messages_addMessageItem h).1
  · rename_i hi _
    cases h
    exact closable_of_messages (hn _ _ hi)
  · cases h
    exact closable_of_enum rfl
  · cases h

theorem closable_close {e : Ended} (h : Closing nest e next) : next.Closable := by
  cases h with
  | oneof hadd => exact closable_of_messages (messages_addMessageItem hadd).1
  | enum | message => exact closable_of_none (inner_addBlock ..)

theorem takes_field {m : OpenMessage} {outer : List OpenMessage} (hi : nest.inner = .none)
    (hm : nest.messages = m :: outer) (label : Option Label) (type : TypeRef) :
    nest.Takes (.field label type) := by
  rintro n settings hn
  simp [addNumbered,addMessageItem,hi,hm,hn]

theorem takes_map {m : OpenMessage} {outer : List OpenMessage} (hi : nest.inner = .none)
    (hm : nest.messages = m :: outer) (key value : TypeRef) : nest.Takes (.map key value) := by
  rintro n settings hn
  simp [addNumbered,addMessageItem,hi,hm,hn]

theorem takes_member {name : String} {items : List OneofItem} (hi : nest.inner = .oneof name items)
    (type : TypeRef) : nest.Takes (.member type) := by
  rintro n settings hn
  simp [addNumbered,hi,hn]

theorem takes_value {line : Nat} {name : String} {items : List EnumItem}
    (hi : nest.inner = .enum line name items) : nest.Takes .value := by
  rintro n settings hn
  simp [addNumbered,hi,hn]

theorem takesReserved_enum {line : Nat} {name : String} {items : List EnumItem}
    (hi : nest.inner = .enum line name items) : nest.TakesReserved := by
  rintro r
  simp [addReserved,hi]

theorem takesReserved_message {m : OpenMessage} {outer : List OpenMessage}
    (hi : nest.inner = .none) (hm : nest.messages = m :: outer) : nest.TakesReserved := by
  rintro r
  simp [addReserved,addMessageItem,hi,hm]

end Nest

/-- What a type is read for belongs in the innermost body. -/
def TypeUse.Closable (nest : Nest) : TypeUse → Prop
  | field label => ∀ type, nest.Takes (.field label type)
  | member => ∀ type, nest.Takes (.member type)
  | mapKey => ∀ key value, nest.Takes (.map key value)
  | mapValue key => ∀ value, nest.Takes (.map key value)

/-- The statement at hand can be finished where it stands. -/
def Progress.Closable (nest : Nest) : Progress → Prop
  | oneofWord | oneofName _ => nest.messages ≠ []
  | mapWord _ => ∀ key value, nest.Takes (.map key value)
  | type _ use _ => use.Closable nest
  | mapTypes _ key value => nest.Takes (.map key value)
  | named _ head _ | equals _ head _ _ => nest.Takes head
  | numbered n | setting n _ _ | settingsClosed n _ => nest.Takes n.head
  | reservedWord | rangeFirst _ _ | rangeTo _ _ | rangeDone _ | rangeComma _ | reservedName _
  | reservedComma _ => nest.TakesReserved
  | _ => True

namespace State

structure Closable (s : State) : Prop where
  nest : s.nest.Closable
  progress : s.progress.Closable s.nest

variable {nest : Nest} {t : Token} {next : State}

theorem closable_stepItemKeyword {k : Keyword} {line : Nat} {p : Progress}
    (h : stepItemKeyword nest k line = some p) : p.Closable nest := by
  unfold stepItemKeyword at h
  split at h
  case h_2 hi => cases h; exact Nest.takesReserved_enum hi
  case h_8 hi hm => cases h; exact Nest.takes_map hi hm
  case h_9 hi hm => cases h; exact by simp [Progress.Closable,hm]
  case h_10 hi hm => cases h; exact Nest.takesReserved_message hi hm
  case h_11 =>
    obtain ⟨l,-,rfl⟩ := Option.map_eq_some_iff.mp h
    exact Nest.takes_field ‹_› ‹_› _
  all_goals
    cases h
    try trivial

theorem closable_typeUse? {use : TypeUse} (h : typeUse? nest = some use) : use.Closable nest := by
  unfold typeUse? at h
  split at h <;> cases h
  · rename_i hi hm
    exact Nest.takes_field hi hm _
  · rename_i hi
    exact Nest.takes_member hi

theorem closable_stepItem (hn : nest.Closable) (hs : stepItem nest t = some next) :
    next.Closable := by
  cases beginning_of_stepItem hs with
  | keyword _ hp => exact ⟨hn,closable_stepItemKeyword hp⟩
  | empty => exact ⟨hn.addEmpty,trivial⟩
  | close _ hc => exact ⟨Nest.closable_close hc,trivial⟩
  | value _ hi => exact ⟨hn,Nest.takes_value hi⟩
  | type huse => exact ⟨hn,closable_typeUse? huse⟩

theorem closable_stepAfterType {line : Nat} {use : TypeUse} {ref : TypeRef} {p : Progress}
    (huse : use.Closable nest) (h : stepAfterType line use ref t = some p) : p.Closable nest := by
  unfold stepAfterType at h
  split at h <;> cases h <;> exact huse _

theorem closable_finishNumbered {n : Numbered} {settings : List Setting} (hn : nest.Closable)
    (hs : finishNumbered nest n settings = some next) : next.Closable := by
  obtain ⟨after,hadd,rfl⟩ := Option.map_eq_some_iff.mp hs
  exact ⟨Nest.closable_addNumbered hn hadd,trivial⟩

theorem closable_finishReserved {r : Reserved} (hs : finishReserved nest r = some next) :
    next.Closable := by
  obtain ⟨after,hadd,rfl⟩ := Option.map_eq_some_iff.mp hs
  exact ⟨Nest.closable_addReserved hadd,trivial⟩

theorem closable_goes {p q : Progress} (h : p.Goes t q) (hp : p.Closable nest) :
    q.Closable nest := by
  cases h with
  | typed _ hs => exact closable_stepAfterType hp hs
  | _ => exact hp

/-- Each step leaves what can be closed. -/
theorem closable_step {s : State} (h : s.Closable) (hs : s.step t = some next) :
    next.Closable := by
  obtain ⟨nest,p⟩ := s
  have hn := h.nest
  have hp := h.progress
  replace hs := transition_of_step hs
  cases hs with
  | item hs => exact closable_stepItem hn hs
  | goes hgoes => exact ⟨hn,closable_goes hgoes hp⟩
  | statement => exact ⟨Nest.Closable.addStatement hn _,trivial⟩
  | message => exact ⟨Nest.closable_of_messages (List.cons_ne_nil _ _),trivial⟩
  | enum => exact ⟨Nest.closable_of_enum rfl,trivial⟩
  | oneof => exact ⟨Nest.closable_of_messages hp,trivial⟩
  | numbered _ _ hs => exact closable_finishNumbered hn hs
  | option => exact ⟨hn.addOption _,trivial⟩
  | reserved _ _ hs => exact closable_finishReserved hs

theorem closable_start : start.Closable := ⟨Nest.closable_of_none rfl,trivial⟩

theorem closable_run {ts : List Token} {s s' : State} (h : s.Closable)
    (hs : ts.foldlM State.step s = some s') : s'.Closable := by
  rw [foldlM_eq_some_iff] at hs
  induction hs with
  | nil => exact h
  | cons hmid _ ih => exact ih (closable_step h hmid)

/-! ## To the end of a file -/

/-- A file may end here. -/
def AtEnd (s : State) : Prop := ∃ statements, s.statements? = some statements

/-- Open messages are closed one by one. -/
theorem leads_messages (messages : List OpenMessage) (statements : List Statement) (e : Ended) :
    Leads step AtEnd ⟨⟨statements,messages,.none⟩,.item e⟩ := by
  induction hn : messages.length generalizing messages statements e with
  | zero =>
    obtain rfl := List.length_eq_zero_iff.mp hn
    exact .here ⟨_,rfl⟩
  | succ n ih =>
    obtain ⟨m,outer,rfl⟩ := List.exists_cons_of_length_eq_add_one hn
    have hlength : outer.length = n := by simpa using hn
    cases outer with
    | nil => exact .mark .closeBrace rfl (ih [] _ _ hlength)
    | cons m' outer => exact .mark .closeBrace rfl (ih (_ :: outer) _ _ hlength)

theorem leads_item (h : nest.Closable) (e : Ended) : Leads step AtEnd ⟨nest,.item e⟩ := by
  obtain ⟨statements,messages,inner⟩ := nest
  cases inner with
  | none => exact leads_messages messages statements e
  | oneof name items =>
    cases messages with
    | nil => exact absurd rfl (h name items rfl)
    | cons m outer => exact .mark .closeBrace rfl (leads_messages ..)
  | enum line name items =>
    cases messages with
    | nil => exact .mark .closeBrace rfl (leads_messages ..)
    | cons m outer => exact .mark .closeBrace rfl (leads_messages ..)

theorem leads_finishNumbered {p : Progress} {n : Numbered} (hn : nest.Closable)
    (hhead : nest.Takes n.head) (settings : List Setting)
    (hs : State.step ⟨nest,p⟩ ((Lexeme.mark .semicolon).token .start) =
      finishNumbered nest n settings) : Leads step AtEnd ⟨nest,p⟩ := by
  obtain ⟨after,hadd⟩ := hhead n settings rfl
  rw [finishNumbered,hadd] at hs
  exact .mark .semicolon hs (leads_item (Nest.closable_addNumbered hn hadd) _)

theorem leads_finishReserved {p : Progress} (hr : nest.TakesReserved) (r : Reserved)
    (hs : State.step ⟨nest,p⟩ ((Lexeme.mark .semicolon).token .start) = finishReserved nest r) :
    Leads step AtEnd ⟨nest,p⟩ := by
  obtain ⟨after,hadd⟩ := hr r
  rw [finishReserved,hadd] at hs
  exact .mark .semicolon hs (leads_item (Nest.closable_addReserved hadd) _)

theorem leads_equals (hn : nest.Closable) {head : Head} (hhead : nest.Takes head) (line : Nat)
    (name : String) (negative : Bool) :
    Leads step AtEnd ⟨nest,.equals line head name negative⟩ := by
  have hstep : State.step ⟨nest,.equals line head name negative⟩ ((Lexeme.int "0").token .start) =
      some ⟨nest,.numbered ⟨line,head,name,negative,"0"⟩⟩ := by
    cases head <;> cases negative <;> rfl
  exact .int hstep (leads_finishNumbered hn hhead [] rfl)

theorem leads_named (hn : nest.Closable) {head : Head} (hhead : nest.Takes head) (line : Nat)
    (name : String) : Leads step AtEnd ⟨nest,.named line head name⟩ :=
  .mark .equals rfl (leads_equals hn hhead line name false)

/-- A type reference is finished, and then what it is read for. -/
theorem leads_type {line : Nat} {use : TypeUse}
    (h : ∀ r, ∃ (l : Lexeme) (q : Progress), l.Spelled ∧ l.terminal ≠ .mark .dot ∧
      stepAfterType line use r (l.token .start) = some q ∧ Leads step AtEnd ⟨nest,q⟩)
    (p : TypeProgress) : Leads step AtEnd ⟨nest,.type line use p⟩ := by
  refine p.leads.inside (f := fun p => State.mk nest (.type line use p))
    (fun _ _ _ hs => by rw [step_type,hs]) ?_
  rintro q ⟨r,hr⟩
  obtain ⟨l,q',hl,hdot,hstep,hq⟩ := h r
  refine .on l hl ?_ hq
  rw [step_type,TypeProgress.step_of_done? hr hdot,hr]
  simp [hstep]

theorem leads_mapValue (hn : nest.Closable) {key : TypeRef}
    (h : ∀ value, nest.Takes (.map key value)) (line : Nat) (p : TypeProgress) :
    Leads step AtEnd ⟨nest,.type line (.mapValue key) p⟩ := by
  refine leads_type (fun r => ?_) p
  refine ⟨.mark .closeAngle,.mapTypes line key r,spelled_mark _,by simp [Lexeme.terminal],rfl,?_⟩
  exact .word rfl (leads_named hn (h r) line "a")

theorem leads_use (hn : nest.Closable) (use : TypeUse) (h : use.Closable nest) (line : Nat)
    (p : TypeProgress) : Leads step AtEnd ⟨nest,.type line use p⟩ := by
  cases use with
  | field label =>
    refine leads_type (fun r => ?_) p
    exact ⟨.word "a",.named line (.field label r) "a",spelled_word,by simp [Lexeme.terminal],rfl,
      leads_named hn (h r) line "a"⟩
  | member =>
    refine leads_type (fun r => ?_) p
    exact ⟨.word "a",.named line (.member r) "a",spelled_word,by simp [Lexeme.terminal],rfl,
      leads_named hn (h r) line "a"⟩
  | mapKey =>
    refine leads_type (fun r => ?_) p
    exact ⟨.mark .comma,.type line (.mapValue r) .start,spelled_mark _,by simp [Lexeme.terminal],
      rfl,leads_mapValue hn (h r) line .start⟩
  | mapValue key => exact leads_mapValue hn h line p

theorem leads_setting (hn : nest.Closable) {n : Numbered} (hhead : nest.Takes n.head)
    (done : List Setting) (p : OptionProgress) :
    Leads step AtEnd ⟨nest,.setting n done p⟩ := by
  refine p.leads.inside (f := fun p => State.mk nest (.setting n done p))
    (fun _ _ _ hs => by rw [step_setting,hs]) ?_
  rintro q ⟨s,hs⟩
  have hstep : State.step ⟨nest,.setting n done q⟩ ((Lexeme.mark .closeBracket).token .start) =
      some ⟨nest,.settingsClosed n (done ++ [s])⟩ := by
    rw [step_setting,OptionProgress.step_of_done? hs (by simp [Lexeme.token,Lexeme.terminal]),hs]
    rfl
  exact .mark .closeBracket hstep (leads_finishNumbered hn hhead _ rfl)

theorem leads_option (hn : nest.Closable) (p : OptionProgress) :
    Leads step AtEnd ⟨nest,.option p⟩ := by
  refine p.leads.inside (f := fun p => State.mk nest (.option p))
    (fun _ _ _ hs => by rw [step_option,hs]) ?_
  rintro q ⟨s,hs⟩
  refine .mark .semicolon ?_ (leads_item (hn.addOption s) .shared)
  rw [step_option,OptionProgress.step_of_done? hs (by simp [Lexeme.token,Lexeme.terminal]),hs]
  rfl

/-- What can be closed leads on to the end of a file. -/
theorem leads_of_closable {s : State} (h : s.Closable) : Leads step AtEnd s := by
  obtain ⟨nest,p⟩ := s
  have hn := h.nest
  have hp := h.progress
  have hmore (s : Statement) : Leads step AtEnd ⟨nest.addStatement s,.item .own⟩ :=
    leads_item (Nest.Closable.addStatement hn s) .own
  have hmessage (m : OpenMessage) :
      Leads step AtEnd ⟨{ nest with messages := m :: nest.messages },.item .own⟩ :=
    leads_item (Nest.closable_of_messages (List.cons_ne_nil _ _)) .own
  have henum (line : Nat) (name : String) :
      Leads step AtEnd ⟨{ nest with inner := .enum line name [] },.item .own⟩ :=
    leads_item (Nest.closable_of_enum rfl) .own
  have honeof (hm : nest.messages ≠ []) (name : String) :
      Leads step AtEnd ⟨{ nest with inner := .oneof name [] },.item .own⟩ :=
    leads_item (Nest.closable_of_messages (by exact hm)) .own
  cases p with
  | item e => exact leads_item hn e
  | syntaxWord => exact .mark .equals rfl (.text rfl (.mark .semicolon rfl (hmore _)))
  | syntaxEquals => exact .text rfl (.mark .semicolon rfl (hmore _))
  | syntaxText literal => exact .mark .semicolon rfl (hmore _)
  | packageWord => exact .word rfl (.mark .semicolon rfl (hmore _))
  | package name => exact .mark .semicolon rfl (hmore _)
  | packageDot name => exact .word rfl (.mark .semicolon rfl (hmore _))
  | importWord => exact .text rfl (.mark .semicolon rfl (hmore _))
  | importKind modifier => exact .text rfl (.mark .semicolon rfl (hmore _))
  | importText modifier literal => exact .mark .semicolon rfl (hmore _)
  | messageWord line => exact .word rfl (.mark .openBrace rfl (hmessage _))
  | messageName line name => exact .mark .openBrace rfl (hmessage _)
  | enumWord line => exact .word rfl (.mark .openBrace rfl (henum _ _))
  | enumName line name => exact .mark .openBrace rfl (henum _ _)
  | oneofWord => exact .word rfl (.mark .openBrace rfl (honeof hp _))
  | oneofName name => exact .mark .openBrace rfl (honeof hp _)
  | mapWord line => exact .mark .openAngle rfl (leads_use hn .mapKey hp line .start)
  | type line use p => exact leads_use hn use hp line p
  | mapTypes line key value => exact .word rfl (leads_named hn hp line _)
  | named line head name => exact leads_named hn hp line name
  | equals line head name negative => exact leads_equals hn hp line name negative
  | numbered n => exact leads_finishNumbered hn hp [] rfl
  | setting n done p => exact leads_setting hn hp done p
  | settingsClosed n settings => exact leads_finishNumbered hn hp settings rfl
  | option p => exact leads_option hn p
  | reservedWord => exact .text rfl (leads_finishReserved hp _ rfl)
  | rangeFirst done first => exact leads_finishReserved hp _ rfl
  | rangeTo done first => exact .int rfl (leads_finishReserved hp _ rfl)
  | rangeDone done => exact leads_finishReserved hp _ rfl
  | rangeComma done => exact .int rfl (leads_finishReserved hp _ rfl)
  | reservedName names => exact leads_finishReserved hp _ rfl
  | reservedComma names => exact .text rfl (leads_finishReserved hp _ rfl)

end State

/-! ## Beginnings of sentences -/

/-- Lexemes of a whole file, each spelled as its kind of token. -/
def Sentence (ls : List Lexeme) : Prop := (∀ l ∈ ls, l.Spelled) ∧ ∃ d, Derives d ls

/-- Some lexemes more make a sentence. -/
def Starts (ls : List Lexeme) : Prop := ∃ more, Sentence (ls ++ more)

variable {ts : List Token} {s : State}

/-- The lexemes that have been read begin a sentence. -/
theorem starts_of_run (hts : ∀ t ∈ ts, t.Genuine)
    (hs : ts.foldlM State.step .start = some s) : Starts (ts.map Token.lexeme) := by
  have hclosable := State.closable_run State.closable_start hs
  obtain ⟨more,hmore,s',hrun,statements,hend⟩ := (State.leads_of_closable hclosable).exists_run
  have hboth : (ts ++ more).foldlM State.step .start = some s' := by
    rw [List.foldlM_append,hs]
    exact hrun
  obtain ⟨hsound,hconsumed⟩ := State.sound_run State.sound_start hboth
  obtain ⟨hvalid,hyield⟩ := State.derivation_of_statements? hsound hend
  refine ⟨more.map Token.lexeme,?_,fileDerivation statements,hvalid,rfl,?_⟩
  · simp only [List.mem_append,List.mem_map]
    rintro _ (⟨t,ht,rfl⟩ | ⟨t,ht,rfl⟩)
    · exact (hts t ht).2
    · exact hmore t ht
  · rw [hyield,hconsumed,List.map_append]
    rfl

/-- Only where a file may end are its lexemes a sentence. -/
theorem atEnd_of_sentence (hts : ∀ t ∈ ts, t.Genuine)
    (hs : ts.foldlM State.step .start = some s) (h : Sentence (ts.map Token.lexeme)) :
    s.AtEnd := by
  obtain ⟨-,d,hd⟩ := h
  have hdrives := drives_file hd.valid hd.root
  rw [hd.yield] at hdrives
  obtain ⟨s',hrun,statements,hend,-⟩ := hdrives.run hts
  obtain rfl : s = s' := Option.some.inj (hs.symm.trans hrun)
  exact ⟨statements,hend⟩

/-- Tokens whose lexemes drive the states along lead to where the next one is told apart. -/
theorem Machine.Drives.next {P : State → Prop} {s s' : State} {l : Lexeme} {more : List Lexeme}
    (h : State.machine.Drives s (ts.map Token.lexeme ++ l :: more) P)
    (hts : ∀ t ∈ ts, t.Genuine) (hs : ts.foldlM State.step s = some s') :
    l.terminal ∈ s'.expected ∧ ∀ p, ∃ next, s'.step (l.token p) = some next := by
  induction ts generalizing s with
  | nil =>
    cases hs
    obtain ⟨hmem,hstep⟩ := Machine.drives_cons_iff.mp h
    exact ⟨hmem,fun p => (hstep p).imp fun _ h => h.1⟩
  | cons t ts ih =>
    obtain ⟨ht,hmore⟩ := List.forall_mem_cons.mp hts
    obtain ⟨-,hstep⟩ := Machine.drives_cons_iff.mp h
    obtain ⟨mid,hmid,hdrives⟩ := hstep t.position
    rw [← ht.1] at hmid
    rw [List.foldlM_cons,show s.step t = some mid from hmid] at hs
    exact ih hdrives hmore hs

/-- What a sentence goes on with is told apart and leads on. -/
theorem Starts.next {l : Lexeme} (hts : ∀ t ∈ ts, t.Genuine)
    (hs : ts.foldlM State.step .start = some s) (h : Starts (ts.map Token.lexeme ++ [l])) :
    l.terminal ∈ s.expected ∧ ∀ p, ∃ next, s.step (l.token p) = some next := by
  obtain ⟨more,-,d,hd⟩ := h
  have hdrives := drives_file hd.valid hd.root
  rw [hd.yield,List.append_assoc] at hdrives
  exact hdrives.next hts hs

end SchemaCodec.Grammar
