import SchemaCodec.Proofs.Grammar.Consumption

/-! # What follows the grammar is accepted

A machine is driven by lexemes if each is among those told apart where it is read and leads on,
wherever in the text it stands. What follows the grammar drives the reading states through, and the
statements they hold at the end have the derivation that was read.
-/
namespace SchemaCodec.Grammar
open Grammar.Derivation

structure Machine (σ : Type) where
  step : σ → Token → Option σ
  expected : σ → List Terminal

namespace Machine
variable {σ τ : Type} (m : Machine σ)

/-- These lexemes lead from a state to one with the property. -/
def Drives : σ → List Lexeme → (σ → Prop) → Prop
  | s, [], P => P s
  | s, l :: ls, P =>
    l.terminal ∈ m.expected s ∧ ∀ p, ∃ s', m.step s (l.token p) = some s' ∧ Drives s' ls P

variable {m} {s : σ} {P Q : σ → Prop} {ls k : List Lexeme}

@[simp] theorem drives_nil_iff : m.Drives s [] P ↔ P s := by rw [Drives]

@[simp] theorem drives_cons_iff {l : Lexeme} : m.Drives s (l :: ls) P ↔
    l.terminal ∈ m.expected s ∧ ∀ p, ∃ s', m.step s (l.token p) = some s' ∧ m.Drives s' ls P := by
  rw [Drives]

theorem Drives.cons {l : Lexeme} {f : Position → σ} (he : l.terminal ∈ m.expected s)
    (hs : ∀ p, m.step s (l.token p) = some (f p)) (hrest : ∀ p, m.Drives (f p) ls P) :
    m.Drives s (l :: ls) P :=
  drives_cons_iff.mpr ⟨he,fun p => ⟨f p,hs p,hrest p⟩⟩

theorem Drives.mono (h : m.Drives s ls P) (hPQ : ∀ s, P s → Q s) : m.Drives s ls Q := by
  induction ls generalizing s with
  | nil => exact drives_nil_iff.mpr (hPQ s (drives_nil_iff.mp h))
  | cons l ls ih =>
    obtain ⟨he,hs⟩ := drives_cons_iff.mp h
    refine drives_cons_iff.mpr ⟨he,fun p => ?_⟩
    obtain ⟨s',hstep,hrest⟩ := hs p
    exact ⟨s',hstep,ih hrest⟩

theorem Drives.append (h : m.Drives s ls P) (hP : ∀ s, P s → m.Drives s k Q) :
    m.Drives s (ls ++ k) Q := by
  induction ls generalizing s with
  | nil => exact hP s (drives_nil_iff.mp h)
  | cons l ls ih =>
    obtain ⟨he,hs⟩ := drives_cons_iff.mp h
    refine drives_cons_iff.mpr ⟨he,fun p => ?_⟩
    obtain ⟨s',hstep,hrest⟩ := hs p
    exact ⟨s',hstep,ih hrest⟩

/-- A machine that runs inside another drives it along. -/
theorem Drives.inside {n : Machine τ} {f : σ → τ}
    (hstep : ∀ s t s', m.step s t = some s' → n.step (f s) t = some (f s'))
    (hexp : ∀ s, m.expected s ⊆ n.expected (f s)) (h : m.Drives s ls P) :
    n.Drives (f s) ls fun t => ∃ s', t = f s' ∧ P s' := by
  induction ls generalizing s with
  | nil => exact drives_nil_iff.mpr ⟨s,rfl,drives_nil_iff.mp h⟩
  | cons l ls ih =>
    obtain ⟨he,hs⟩ := drives_cons_iff.mp h
    refine drives_cons_iff.mpr ⟨hexp s he,fun p => ?_⟩
    obtain ⟨s',hs',hrest⟩ := hs p
    exact ⟨f s',hstep s _ s' hs',ih hrest⟩

end Machine
open Machine

/-! ## Type references and options -/

attribute [local simp] Lexeme.token Lexeme.terminal Lexeme.spelling

def TypeProgress.machine : Machine TypeProgress := ⟨step,expected⟩

def OptionProgress.machine : Machine OptionProgress := ⟨step,expected⟩

theorem OptionProgress.step_extension (name : List OptionPart) {p q : TypeProgress} {t : Token}
    (h : p.step t = some q) : (extension name p).step t = some (extension name q) := by
  simp only [step,h]

section Parts

attribute [local simp] TypeProgress.machine TypeProgress.step TypeProgress.expected
  TypeProgress.done? OptionProgress.machine OptionProgress.step OptionProgress.expected
  OptionProgress.done? OptionProgress.stepValue

theorem drives_words (r : TypeRef) (words : List String) :
    TypeProgress.machine.Drives (.word r) (words.flatMap fun w => [.mark .dot,.word w])
      (· = .word (words.foldl TypeRef.extend r)) := by
  induction words generalizing r with
  | nil => simp
  | cons w rest ih => simpa using ih (r.extend w)

theorem foldl_extend (rooted : Bool) (head : String) (tail words : List String) :
    words.foldl TypeRef.extend ⟨rooted,⟨head,tail⟩⟩ = ⟨rooted,⟨head,tail ++ words⟩⟩ := by
  induction words generalizing tail with
  | nil => simp
  | cons w rest ih => simp [TypeRef.extend,Dotted.extend,ih]

theorem Dotted.yields_children (p : Dotted) :
    yields p.children = .word p.head :: p.tail.flatMap fun w => [.mark .dot,.word w] := by
  simp [Dotted.children,Dotted.words,separate,yields_eq_flatMap,List.flatMap_map,List.flatMap_assoc]

theorem drives_typeRef (r : TypeRef) :
    TypeProgress.machine.Drives .start r.derivation.yield (· = .word r) := by
  obtain ⟨rooted,head,tail⟩ := r
  have h := drives_words ⟨rooted,⟨head,[]⟩⟩ tail
  rw [foldl_extend,List.nil_append] at h
  cases rooted <;> simpa [TypeRef.derivation,Dotted.yields_children] using h

theorem drives_optionPart (name : List OptionPart) (part : OptionPart) :
    OptionProgress.machine.Drives (.start name) (yields part.children)
      (· = .part (name ++ [part])) := by
  cases part with
  | word w => simp [OptionPart.children]
  | extension r =>
    have hin := (drives_typeRef r).inside (n := OptionProgress.machine) (f := .extension name)
      (fun _ _ _ hs => OptionProgress.step_extension name hs) (fun s => by simp)
    have hclose := hin.append (k := [.mark .closeParen]) (Q := (· = .part (name ++ [.extension r])))
      (by rintro _ ⟨_,rfl,rfl⟩; simp)
    simpa [OptionPart.children] using hclose

theorem drives_optionName {name : List OptionPart} (hne : name ≠ []) :
    OptionProgress.machine.Drives (.start [])
      (yields (separate .dot (name.map OptionPart.children))) (· = .part name) := by
  have hmore (done rest : List OptionPart) : OptionProgress.machine.Drives (.part done)
      (rest.flatMap fun p => .mark .dot :: yields p.children) (· = .part (done ++ rest)) := by
    induction rest generalizing done with
    | nil => simp
    | cons p rest ih =>
      have h := (drives_optionPart done p).append (Q := (· = .part (done ++ p :: rest)))
        (by rintro _ rfl; simpa using ih (done ++ [p]))
      simpa using h
  obtain ⟨p,rest,rfl⟩ := List.exists_cons_of_ne_nil hne
  have h := (drives_optionPart [] p).append (Q := (· = .part (p :: rest)))
    (by rintro _ rfl; exact hmore [p] rest)
  simpa [separate,yields_eq_flatMap,List.flatMap_map,List.flatMap_assoc] using h

theorem drives_constant (name : List OptionPart) (c : Constant) :
    OptionProgress.machine.Drives (.equals name) c.derivation.yield
      (·.done? = some ⟨name,c⟩) := by
  cases c with
  | path p =>
    have hmore (p : Dotted) (words : List String) : OptionProgress.machine.Drives (.path name p)
        (words.flatMap fun w => [.mark .dot,.word w])
        (·.done? = some ⟨name,.path ⟨p.head,p.tail ++ words⟩⟩) := by
      induction words generalizing p with
      | nil => simp
      | cons w rest ih => simpa [Dotted.extend] using ih (p.extend w)
    simpa [Constant.derivation,Dotted.derivation,Dotted.yields_children] using
      hmore ⟨p.head,[]⟩ p.tail
  | number sign n =>
    rcases sign with _ | ⟨_ | _⟩ <;> cases n <;>
      simp [Constant.derivation,Number.derivation,Sign.derivation,OptionProgress.signOf?,
        OptionProgress.numberOf?]
  | text s => simp [Constant.derivation]

theorem drives_setting {s : Setting} (hs : s.Proper) :
    OptionProgress.machine.Drives (.start []) (yields s.children) (·.done? = some s) := by
  have h := (drives_optionName hs).append (k := .mark .equals :: s.value.derivation.yield)
    (Q := (·.done? = some s)) (by rintro _ rfl; simpa using drives_constant s.name s.value)
  simpa [Setting.children] using h

end Parts

/-! ## Declarations -/

def State.machine : Machine State := ⟨step,expected⟩

theorem TypeProgress.step_of_done? {p : TypeProgress} {r : TypeRef} {t : Token}
    (h : p.done? = some r) (ht : t.terminal ≠ .mark .dot) : p.step t = none := by
  cases p <;> cases h
  obtain ⟨terminal,_,_⟩ := t
  unfold step
  split <;> simp_all

theorem OptionProgress.step_of_done? {p : OptionProgress} {s : Setting} {t : Token}
    (h : p.done? = some s) (ht : t.terminal ≠ .mark .dot) : p.step t = none := by
  cases p <;> cases h <;> simp [step,ht]

@[simp] theorem State.machine_step (s : State) (t : Token) : State.machine.step s t = s.step t :=
  rfl

@[simp] theorem State.machine_expected (s : State) : State.machine.expected s = s.expected := rfl

section Statement
variable {nest : Nest}

attribute [local simp] State.expected

theorem step_type (line : Nat) (use : TypeUse) (p : TypeProgress) (t : Token) :
    State.step ⟨nest,.type line use p⟩ t =
      match p.step t with
      | some next => some ⟨nest,.type line use next⟩
      | none => p.done?.bind fun r => (stepAfterType line use r t).bind fun q => some ⟨nest,q⟩ :=
  rfl

theorem step_setting (n : Numbered) (done : List Setting) (p : OptionProgress) (t : Token) :
    State.step ⟨nest,.setting n done p⟩ t =
      match p.step t with
      | some next => some ⟨nest,.setting n done next⟩
      | none =>
        match p.done?, t.terminal with
        | some s, .mark .comma => some ⟨nest,.setting n (done ++ [s]) (.start [])⟩
        | some s, .mark .closeBracket => some ⟨nest,.settingsClosed n (done ++ [s])⟩
        | _, _ => none := rfl

theorem step_option (p : OptionProgress) (t : Token) :
    State.step ⟨nest,.option p⟩ t =
      match p.step t with
      | some next => some ⟨nest,.option next⟩
      | none =>
        match p.done?, t.terminal with
        | some s, .mark .semicolon => some ⟨nest.addOption s,.item .shared⟩
        | _, _ => none := rfl

/-- A type reference inside a declaration. -/
theorem drives_type (nest : Nest) (line : Nat) (use : TypeUse) (r : TypeRef) :
    State.machine.Drives ⟨nest,.type line use .start⟩ r.derivation.yield
      (· = ⟨nest,.type line use (.word r)⟩) := by
  have h := (drives_typeRef r).inside (n := State.machine) (f := fun p => ⟨nest,.type line use p⟩)
    (fun s t s' (hs : s.step t = some s') => by rw [State.machine_step,step_type,hs])
    (fun s => by simp [TypeProgress.machine])
  exact h.mono (by rintro _ ⟨_,rfl,rfl⟩; rfl)

theorem drives_option (nest : Nest) {s : Setting} (hs : s.Proper) :
    State.machine.Drives ⟨nest,.option (.start [])⟩ (yields s.children ++ [.mark .semicolon])
      (· = ⟨nest.addOption s,.item .shared⟩) := by
  have h := (drives_setting hs).inside (n := State.machine) (f := fun p => ⟨nest,.option p⟩)
    (fun s t s' (hs : s.step t = some s') => by rw [State.machine_step,step_option,hs])
    (fun s => by simp [OptionProgress.machine])
  refine h.append ?_
  rintro _ ⟨o,rfl,ho⟩
  refine .cons (by simp [ho]) (fun p => ?_) fun _ => drives_nil_iff.mpr rfl
  rw [State.machine_step,step_option,OptionProgress.step_of_done? ho (by simp),ho]
  rfl

/-- A setting in brackets up to the mark behind it. -/
theorem drives_inBrackets (nest : Nest) (n : Numbered) (done : List Setting) {s : Setting}
    (hs : s.Proper) :
    State.machine.Drives ⟨nest,.setting n done (.start [])⟩ (yields s.children)
      (fun st => ∃ o : OptionProgress, o.done? = some s ∧ st = ⟨nest,.setting n done o⟩) := by
  have h := (drives_setting hs).inside (n := State.machine)
    (f := fun p => ⟨nest,.setting n done p⟩)
    (fun s t s' (hs : s.step t = some s') => by rw [State.machine_step,step_setting,hs])
    (fun s => by simp [OptionProgress.machine])
  refine h.mono ?_
  rintro _ ⟨o,rfl,ho⟩
  exact ⟨o,ho,rfl⟩

/-- Settings in brackets, from inside the opening bracket. -/
theorem drives_settings (nest : Nest) (n : Numbered) (done : List Setting) {s : Setting}
    {rest : List Setting} (hs : ∀ t ∈ s :: rest, t.Proper) :
    State.machine.Drives ⟨nest,.setting n done (.start [])⟩
      (yields (separate .comma (Setting.rows (s :: rest))) ++ [.mark .closeBracket])
      (· = ⟨nest,.settingsClosed n (done ++ s :: rest)⟩) := by
  have hfirst := drives_inBrackets nest n done (hs s (by simp))
  induction rest generalizing s done with
  | nil =>
    have h := hfirst.append (k := [.mark .closeBracket])
      (Q := (· = ⟨nest,.settingsClosed n (done ++ [s])⟩)) (by
        rintro _ ⟨o,ho,rfl⟩
        refine .cons (by simp [ho]) (fun p => ?_) fun _ => drives_nil_iff.mpr rfl
        rw [State.machine_step,step_setting,OptionProgress.step_of_done? ho (by simp),ho]
        rfl)
    simpa [Setting.rows,Setting.inBrackets] using h
  | cons s' rest ih =>
    have hs' : ∀ t ∈ s' :: rest, t.Proper := fun t ht => hs t (List.mem_cons_of_mem _ ht)
    have hmore := ih (done ++ [s]) hs' (drives_inBrackets nest n _ (hs' s' (by simp)))
    have h := hfirst.append (k := .mark .comma ::
        (yields (separate .comma (Setting.rows (s' :: rest))) ++ [.mark .closeBracket]))
      (Q := (· = ⟨nest,.settingsClosed n (done ++ s :: s' :: rest)⟩)) (by
        rintro _ ⟨o,ho,rfl⟩
        refine .cons (by simp [ho]) (fun p => ?_) fun _ => by simpa using hmore
        rw [State.machine_step,step_setting,OptionProgress.step_of_done? ho (by simp),ho]
        rfl)
    simpa [Setting.rows,Setting.inBrackets,separate] using h

/-- From the number of a declaration to its semicolon. -/
theorem drives_numbered {n : Numbered} {settings : List Setting} {after : Nest}
    (hs : ∀ t ∈ settings, t.Proper) (hn : nest.addNumbered n settings = some after) :
    State.machine.Drives ⟨nest,.numbered n⟩ (yields (bracketed settings) ++ [.mark .semicolon])
      (· = ⟨after,.item .own⟩) := by
  have hfinish : finishNumbered nest n settings = some ⟨after,.item .own⟩ := by
    rw [finishNumbered,hn]
    rfl
  cases settings with
  | nil => exact .cons (by simp) (fun _ => hfinish) fun _ => drives_nil_iff.mpr rfl
  | cons s rest =>
    have h := (drives_settings nest n [] hs).append (k := [.mark .semicolon])
      (Q := (· = ⟨after,.item .own⟩)) (by
        rintro _ rfl
        exact .cons (by simp) (fun _ => hfinish) fun _ => drives_nil_iff.mpr rfl)
    have hopen := Drives.cons (l := .mark .openBracket) (s := ⟨nest,.numbered n⟩)
      (m := State.machine) (by simp) (fun _ => rfl) fun _ => h
    simpa [bracketed,Setting.rows] using hopen

/-- From the name of a declaration without a sign to its semicolon. -/
theorem drives_slot {line : Nat} {head : Head} {s : Slot} {after : Nest} (hs : s.Proper)
    (hn : nest.addNumbered ⟨line,head,s.name,false,s.number⟩ s.settings = some after) :
    State.machine.Drives ⟨nest,.named line head s.name⟩
      ([.mark .equals,.int s.number] ++ yields (bracketed s.settings) ++ [.mark .semicolon])
      (· = ⟨after,.item .own⟩) := by
  have h := drives_numbered hs hn
  refine .cons (by simp) (fun _ => rfl) fun _ => ?_
  refine .cons ?_ (fun _ => ?_) fun _ => h
  · cases head <;> simp
  · cases head <;> rfl

end Statement

/-! ## Items -/

section Item
variable {e : Ended}

theorem optionKw_mem_expected (nest : Nest) (e : Ended) :
    .keyword .optionKw ∈ State.expected ⟨nest,.item e⟩ := by
  cases e with
  | own => cases hi : nest.inner <;> cases hm : nest.messages <;>
      simp [State.expected,itemVocabulary,bodyVocabulary,hi,hm,fileKeywords,messageKeywords]
  | shared => simp [State.expected,itemVocabulary,fileKeywords]
  | reserved => simp [State.expected,itemVocabulary,messageKeywords]

theorem semicolon_mem_expected (nest : Nest) (e : Ended) :
    .mark .semicolon ∈ State.expected ⟨nest,.item e⟩ := by
  simp [State.expected,itemMarks]

/-- Where a numbered declaration may begin with its type, both of its beginnings are told apart. -/
theorem mem_expected_of_typeUse? {use : TypeUse} (h : typeUse? nest = some use) (e : Ended) :
    .word ∈ State.expected ⟨nest,.item e⟩ ∧ .mark .dot ∈ State.expected ⟨nest,.item e⟩ := by
  have hdot : .mark .dot ∈ State.expected ⟨nest,.item e⟩ := by
    simp [State.expected,itemMarks,h]
  refine ⟨?_,hdot⟩
  cases e with
  | own =>
    unfold typeUse? at h
    split at h <;> cases h <;>
      simp_all [State.expected,itemVocabulary,bodyVocabulary]
  | shared => simp [State.expected,itemVocabulary]
  | reserved => simp [State.expected,itemVocabulary]

theorem step_item_keyword (k : Keyword) (p : Position) :
    State.step ⟨nest,.item e⟩ (Lexeme.token (.keyword k) p) =
      (stepItemKeyword nest k p.line).map fun q => ⟨nest,q⟩ := rfl

theorem drives_alone {s : Setting} (hs : s.Proper) :
    State.machine.Drives ⟨nest,.item e⟩ s.alone.yield
      (· = ⟨nest.addOption s,.item .shared⟩) := by
  have h := drives_option nest hs
  refine .cons (optionKw_mem_expected nest e) (fun _ => ?_) fun _ => by simpa using h
  rw [State.machine_step,step_item_keyword]
  simp [stepItemKeyword]

theorem drives_empty :
    State.machine.Drives ⟨nest,.item e⟩ emptyDerivation.yield (· = ⟨nest.addEmpty,.item .own⟩) := by
  exact .cons (semicolon_mem_expected nest e) (fun _ => rfl) fun _ => drives_nil_iff.mpr rfl

theorem step_item_type {use : TypeUse} (huse : typeUse? nest = some use) (e : Ended) {t : Token}
    {q : TypeProgress} (h : TypeProgress.start.step t = some q) :
    State.step ⟨nest,.item e⟩ t = some ⟨nest,.type t.position.line use q⟩ := by
  have hinner (line : Nat) (name : String) (items : List EnumItem) :
      nest.inner ≠ .enum line name items := by
    rintro hi
    simp [typeUse?,hi] at huse
  have hstep : State.step ⟨nest,.item e⟩ t = stepItem nest t := by
    obtain ⟨terminal,_,_⟩ := t
    rfl
  rw [hstep]
  unfold TypeProgress.step at h
  split at h
  case h_1 =>
    cases h
    simp [stepItem,huse,TypeProgress.step]
  case h_2 =>
    cases h
    unfold stepItem
    cases hi : nest.inner with
    | enum line name items => exact absurd hi (hinner line name items)
    | none => simp [huse,TypeProgress.step]
    | oneof => simp [huse,TypeProgress.step]
  all_goals simp_all

/-- A declaration that begins with its type. -/
theorem drives_item_type {use : TypeUse} (huse : typeUse? nest = some use) (r : TypeRef) :
    State.machine.Drives ⟨nest,.item e⟩ r.derivation.yield
      (fun s => ∃ line, s = ⟨nest,.type line use (.word r)⟩) := by
  have h (line : Nat) := drives_type nest line use r
  obtain ⟨hword,hdot⟩ := mem_expected_of_typeUse? huse e
  obtain ⟨rooted,w⟩ := r
  cases rooted with
  | false =>
    simp only [TypeRef.derivation,yield_node,yields_append,Dotted.yields_children] at h ⊢
    refine drives_cons_iff.mpr ⟨hword,fun p => ?_⟩
    obtain ⟨s',hs',hrest⟩ := (drives_cons_iff.mp (h p.line)).2 p
    cases hs'
    have hfirst := step_item_type huse e (t := (Lexeme.word w.head).token p) rfl
    exact ⟨_,hfirst,hrest.mono fun _ hs => ⟨p.line,hs⟩⟩
  | true =>
    simp only [TypeRef.derivation,yield_node,yields_append,Dotted.yields_children] at h ⊢
    refine drives_cons_iff.mpr ⟨hdot,fun p => ?_⟩
    obtain ⟨s',hs',hrest⟩ := (drives_cons_iff.mp (h p.line)).2 p
    cases hs'
    have hfirst := step_item_type huse e (t := (Lexeme.mark .dot).token p) rfl
    exact ⟨_,hfirst,hrest.mono fun _ hs => ⟨p.line,hs⟩⟩

theorem Slot.yields_children (s : Slot) : yields s.children =
    .word s.name :: ([.mark .equals,.int s.number] ++ yields (bracketed s.settings)
      ++ [.mark .semicolon]) := by
  simp [Slot.children]

/-- From behind the type of a field or a member to its semicolon. -/
theorem drives_behind_type {line : Nat} {use : TypeUse} {head : Head} {r : TypeRef} {s : Slot}
    {after : Nest} (hs : s.Proper)
    (huse : (∃ label, use = .field label ∧ head = .field label r) ∨
      (use = .member ∧ head = .member r))
    (hn : nest.addNumbered ⟨line,head,s.name,false,s.number⟩ s.settings = some after) :
    State.machine.Drives ⟨nest,.type line use (.word r)⟩ (yields s.children)
      (· = ⟨after,.item .own⟩) := by
  have h := drives_slot hs hn
  rw [Slot.yields_children]
  rcases huse with ⟨label,rfl,rfl⟩ | ⟨rfl,rfl⟩
  all_goals
    refine .cons ?_ (fun _ => rfl) fun _ => h
    simp [State.expected,TypeProgress.done?,afterType]

end Item

/-! ## Bodies -/

/-- A body that is open: the nest with some items so far, latest first, and what they may end
with. -/
structure OpenBody (ι : Type) where
  nest : List ι → Nest
  derivation : ι → Derivation
  Proper : Ended → Prop

namespace OpenBody
variable {ι : Type}

/-- What is read as one item more. -/
def Adds (b : OpenBody ι) (d : Derivation) : Prop :=
  ∀ items e, b.Proper e → State.machine.Drives ⟨b.nest items,.item e⟩ d.yield fun s =>
    ∃ i e', b.Proper e' ∧ b.derivation i = d ∧ s = ⟨b.nest (i :: items),.item e'⟩

variable {b : OpenBody ι}

/-- A row of items is read as such a row. -/
theorem drives {ds : List Derivation} (h : ∀ d ∈ ds, b.Adds d) (items : List ι) {e : Ended}
    (he : b.Proper e) : State.machine.Drives ⟨b.nest items,.item e⟩ (yields ds) fun s =>
      ∃ (more : List ι) (e' : Ended), b.Proper e' ∧ more.map b.derivation = ds ∧
        s = ⟨b.nest (more.reverse ++ items),.item e'⟩ := by
  induction ds generalizing items e with
  | nil => exact drives_nil_iff.mpr ⟨[],e,he,rfl,rfl⟩
  | cons d rest ih =>
    obtain ⟨hd,hrest⟩ := List.forall_mem_cons.mp h
    rw [yields_cons]
    refine (hd items e he).append ?_
    rintro _ ⟨i,e',he',rfl,rfl⟩
    refine (ih hrest (i :: items) he').mono ?_
    rintro _ ⟨more,e'',he'',rfl,rfl⟩
    exact ⟨i :: more,e'',he'',rfl,by simp⟩

theorem adds_alone {s : Setting} (hs : s.Proper) (i : ι) (hi : b.derivation i = s.alone)
    (hp : b.Proper .shared) (hb : ∀ items, (b.nest items).addOption s = b.nest (i :: items)) :
    b.Adds s.alone := by
  intro items e _
  refine (drives_alone hs).mono ?_
  rintro _ rfl
  exact ⟨i,.shared,hp,hi,by rw [hb]⟩

theorem adds_empty (i : ι) (hi : b.derivation i = emptyDerivation) (hp : b.Proper .own)
    (hb : ∀ items, (b.nest items).addEmpty = b.nest (i :: items)) : b.Adds emptyDerivation := by
  intro items e _
  refine drives_empty.mono ?_
  rintro _ rfl
  exact ⟨i,.own,hp,hi,by rw [hb]⟩

end OpenBody

def fileBody : OpenBody Statement where
  nest statements := ⟨statements,[],.none⟩
  derivation := Statement.derivation
  Proper e := e ≠ .reserved

def messageBody (statements : List Statement) (outer : List OpenMessage) (line : Nat)
    (name : String) : OpenBody MessageItem where
  nest items := ⟨statements,⟨line,name,items⟩ :: outer,.none⟩
  derivation := MessageItem.derivation
  Proper _ := True

def oneofBody (nest : Nest) (name : String) : OpenBody OneofItem where
  nest items := { nest with inner := .oneof name items }
  derivation := OneofItem.derivation
  Proper _ := True

def enumBody (nest : Nest) (line : Nat) (name : String) : OpenBody EnumItem where
  nest items := { nest with inner := .enum line name items }
  derivation := EnumItem.derivation
  Proper _ := True

section Bodies

/-- The words of enums and oneofs are words where one of their items may begin. -/
theorem word_mem_expected_enum (nest : Nest) (line : Nat) (name : String) (items : List EnumItem)
    (e : Ended) :
    .word ∈ State.expected ⟨{ nest with inner := .enum line name items },.item e⟩ := by
  cases e <;> simp [State.expected,itemVocabulary,bodyVocabulary]

theorem adds_value {nest : Nest} {line : Nat} {name : String} {v : ValueTree}
    (hs : v.slot.Proper) : (enumBody nest line name).Adds v.derivation := by
  intro items e _
  obtain ⟨l₀,negative,slot⟩ := v
  have h (l : Nat) : State.machine.Drives ⟨{ nest with inner := .enum line name items },
      .numbered ⟨l,.value,slot.name,negative,slot.number⟩⟩
      (yields (bracketed slot.settings) ++ [.mark .semicolon]) fun s => ∃ i e', True ∧
        EnumItem.derivation i = (ValueTree.mk l₀ negative slot).derivation ∧
          s = ⟨(enumBody nest line name).nest (i :: items),.item e'⟩ := by
    refine (drives_numbered hs rfl).mono ?_
    rintro _ rfl
    exact ⟨.value ⟨l,negative,slot⟩,.own,trivial,rfl,rfl⟩
  have hlexemes : (ValueTree.mk l₀ negative slot).derivation.yield =
      .word slot.name :: .mark .equals :: (signLexemes negative ++
        .int slot.number :: (yields (bracketed slot.settings) ++ [.mark .semicolon])) := by
    cases negative <;> simp [ValueTree.derivation,signLexemes]
  rw [hlexemes]
  refine .cons (word_mem_expected_enum ..) (fun _ => rfl) fun p => ?_
  refine .cons (by simp [State.expected]) (fun _ => rfl) fun _ => ?_
  cases negative with
  | false => exact .cons (by simp [State.expected]) (fun _ => rfl) fun _ => h p.line
  | true =>
    refine .cons (by simp [State.expected]) (fun _ => rfl) fun _ => ?_
    exact .cons (by simp [State.expected]) (fun _ => rfl) fun _ => h p.line

theorem adds_member {nest : Nest} {name : String} {m : MemberTree} (hs : m.slot.Proper) :
    (oneofBody nest name).Adds m.derivation := by
  intro items e _
  have huse : typeUse? { nest with inner := .oneof name items } = some .member := rfl
  have h := drives_item_type (e := e) huse m.type
  rw [MemberTree.derivation,yield_node,yields_cons]
  refine h.append ?_
  rintro _ ⟨l,rfl⟩
  refine (drives_behind_type hs (.inr ⟨rfl,rfl⟩) rfl).mono ?_
  rintro _ rfl
  exact ⟨.member ⟨l,m.type,m.slot⟩,.own,trivial,rfl,rfl⟩

variable {statements : List Statement} {outer : List OpenMessage} {line : Nat} {name : String}
  {items : List MessageItem} {e : Ended}

/-- The words that begin the items of a message are told apart inside one. -/
theorem mem_expected_message {k : Keyword} (hk : k ∈ messageKeywords) (e : Ended) :
    .keyword k ∈ State.expected ⟨⟨statements,⟨line,name,items⟩ :: outer,.none⟩,.item e⟩ := by
  cases e <;> simp [State.expected,itemVocabulary,bodyVocabulary,hk]

def Label.keyword : Label → Keyword
  | repeated => .repeatedKw
  | optional => .optionalKw
  | required => .requiredKw

theorem Label.yield_derivation (l : Label) : l.derivation.yield = [.keyword l.keyword] := by
  cases l <;> rfl

theorem Label.keyword_mem (l : Label) : l.keyword ∈ messageKeywords := by cases l <;> decide

theorem step_label (l : Label) (p : Position) :
    State.step ⟨⟨statements,⟨line,name,items⟩ :: outer,.none⟩,.item e⟩
      ((Lexeme.keyword l.keyword).token p) =
        some ⟨⟨statements,⟨line,name,items⟩ :: outer,.none⟩,
          .type p.line (.field (some l)) .start⟩ := by
  cases l <;> rfl

theorem adds_field {f : FieldTree} (hs : f.slot.Proper) :
    (messageBody statements outer line name).Adds f.derivation := by
  intro items e _
  obtain ⟨l₀,label,type,slot⟩ := f
  have hbehind (l : Nat) : State.machine.Drives
      ⟨⟨statements,⟨line,name,items⟩ :: outer,.none⟩,.type l (.field label) (.word type)⟩
      (yields slot.children) fun s => ∃ i e', True ∧
        MessageItem.derivation i = (FieldTree.mk l₀ label type slot).derivation ∧
          s = ⟨(messageBody statements outer line name).nest (i :: items),.item e'⟩ := by
    refine (drives_behind_type hs (.inl ⟨label,rfl,rfl⟩) rfl).mono ?_
    rintro _ rfl
    exact ⟨.field ⟨l,label,type,slot⟩,.own,trivial,rfl,rfl⟩
  rw [FieldTree.derivation,yield_node]
  cases label with
  | none =>
    refine (drives_item_type rfl type).append ?_
    rintro _ ⟨l,rfl⟩
    exact hbehind l
  | some l =>
    simp only [Option.map_some,Option.toList_some,List.singleton_append,yields_cons,
      Label.yield_derivation]
    refine .cons (mem_expected_message l.keyword_mem e) (step_label l) fun p => ?_
    refine (drives_type _ p.line _ type).append ?_
    rintro _ rfl
    exact hbehind p.line

theorem adds_map {m : MapTree} (hs : m.slot.Proper) :
    (messageBody statements outer line name).Adds m.derivation := by
  intro items e _
  have hslot (l : Nat) : State.machine.Drives
      ⟨⟨statements,⟨line,name,items⟩ :: outer,.none⟩,.mapTypes l m.key m.value⟩
      (yields m.slot.children) fun s => ∃ i e', True ∧
        MessageItem.derivation i = m.derivation ∧
          s = ⟨(messageBody statements outer line name).nest (i :: items),.item e'⟩ := by
    rw [Slot.yields_children]
    refine .cons (by simp [State.expected]) (fun _ => rfl) fun _ => ?_
    refine (drives_slot hs rfl).mono ?_
    rintro _ rfl
    exact ⟨.map ⟨l,m.key,m.value,m.slot⟩,.own,trivial,rfl,rfl⟩
  rw [MapTree.derivation,yield_node]
  refine .cons (mem_expected_message (by decide) e) (fun _ => rfl) fun p => ?_
  refine .cons (by simp [State.expected,Lexeme.terminal]) (fun _ => rfl) fun _ => ?_
  refine (drives_type _ p.line .mapKey m.key).append ?_
  rintro _ rfl
  refine .cons ?_ (fun _ => rfl) fun _ => ?_
  · simp [State.expected,Lexeme.terminal,TypeProgress.done?,afterType]
  refine (drives_type _ p.line (.mapValue m.key) m.value).append ?_
  rintro _ rfl
  refine .cons ?_ (fun _ => rfl) fun _ => hslot p.line
  simp [State.expected,Lexeme.terminal,TypeProgress.done?,afterType]

/-- What the last range leaves open: its end may still follow, or it is whole. -/
def BehindRange (nest : Nest) (rs : List Range) (s : State) : Prop :=
  s = ⟨nest,.rangeDone rs⟩ ∨
    ∃ done first, rs = done ++ [⟨first,none⟩] ∧ s = ⟨nest,.rangeFirst done first⟩

theorem drives_range {nest : Nest} (done : List Range) (r : Range) {p : Progress}
    (hexp : .int ∈ State.expected ⟨nest,p⟩)
    (hstep : ∀ q s, State.step ⟨nest,p⟩ ((Lexeme.int s).token q) = some ⟨nest,.rangeFirst done s⟩) :
    State.machine.Drives ⟨nest,p⟩ r.derivation.yield (BehindRange nest (done ++ [r])) := by
  obtain ⟨first,last⟩ := r
  rcases last with _ | ⟨last | _⟩
  · refine .cons hexp (fun q => hstep q first) fun _ => ?_
    exact drives_nil_iff.mpr (.inr ⟨done,first,rfl,rfl⟩)
  all_goals
    refine .cons hexp (fun q => hstep q first) fun _ => ?_
    refine .cons (by simp [State.expected,Lexeme.terminal]) (fun _ => rfl) fun _ => ?_
    refine .cons (by simp [State.expected,Lexeme.terminal]) (fun _ => rfl) fun _ => ?_
    exact drives_nil_iff.mpr (.inl rfl)

theorem BehindRange.finish {nest after : Nest} {rs : List Range} {s : State}
    (h : BehindRange nest rs s) (hafter : nest.addReserved (.ranges rs) = some after) :
    State.machine.Drives s [.mark .semicolon] (· = ⟨after,.item .reserved⟩) := by
  have hfinish : finishReserved nest (.ranges rs) = some ⟨after,.item .reserved⟩ := by
    rw [finishReserved,hafter]
    rfl
  rcases h with rfl | ⟨done,first,rfl,rfl⟩
  all_goals
    refine .cons (by simp [State.expected,Lexeme.terminal]) (fun _ => hfinish) fun _ => ?_
    exact drives_nil_iff.mpr rfl

theorem BehindRange.comma {nest : Nest} {rs : List Range} {s : State} {ls : List Lexeme}
    {P : State → Prop} (h : BehindRange nest rs s)
    (hmore : State.machine.Drives ⟨nest,.rangeComma rs⟩ ls P) :
    State.machine.Drives s (.mark .comma :: ls) P := by
  rcases h with rfl | ⟨done,first,rfl,rfl⟩
  all_goals
    exact .cons (by simp [State.expected,Lexeme.terminal]) (fun _ => rfl) fun _ => hmore

theorem drives_ranges {nest after : Nest} (done : List Range) {r : Range} {rest : List Range}
    {p : Progress} (hexp : .int ∈ State.expected ⟨nest,p⟩)
    (hstep : ∀ q s, State.step ⟨nest,p⟩ ((Lexeme.int s).token q) = some ⟨nest,.rangeFirst done s⟩)
    (hafter : nest.addReserved (.ranges (done ++ r :: rest)) = some after) :
    State.machine.Drives ⟨nest,p⟩ (yields (separate .comma (Range.rows (r :: rest)))
      ++ [.mark .semicolon]) (· = ⟨after,.item .reserved⟩) := by
  have hfirst := drives_range done r hexp hstep
  induction rest generalizing r done p with
  | nil => simpa [Range.rows] using hfirst.append fun _ h => h.finish hafter
  | cons r' rest ih =>
    have hmore := ih (done ++ [r]) (r := r') (p := .rangeComma (done ++ [r]))
      (by simp [State.expected]) (fun _ _ => rfl) (by simpa using hafter)
      (drives_range _ _ (by simp [State.expected]) fun _ _ => rfl)
    simpa [Range.rows,separate] using hfirst.append fun _ h => h.comma hmore

theorem drives_names {nest after : Nest} (done : List String) {a : String} {rest : List String}
    {p : Progress} (hexp : .text ∈ State.expected ⟨nest,p⟩)
    (hstep : ∀ q s, State.step ⟨nest,p⟩ ((Lexeme.text s).token q) =
      some ⟨nest,.reservedName (done ++ [s])⟩)
    (hafter : nest.addReserved (.names (done ++ a :: rest)) = some after) :
    State.machine.Drives ⟨nest,p⟩ (yields (separate .comma (nameRows (a :: rest)))
      ++ [.mark .semicolon]) (· = ⟨after,.item .reserved⟩) := by
  induction rest generalizing a done p with
  | nil =>
    have hfinish : finishReserved nest (.names (done ++ [a])) = some ⟨after,.item .reserved⟩ := by
      rw [finishReserved,hafter]
      rfl
    refine .cons hexp (fun q => hstep q a) fun _ => ?_
    refine .cons (by simp [State.expected,Lexeme.terminal]) (fun _ => hfinish) fun _ => ?_
    exact drives_nil_iff.mpr rfl
  | cons a' rest ih =>
    have hmore := ih (done ++ [a]) (a := a') (p := .reservedComma (done ++ [a]))
      (by simp [State.expected]) (fun _ _ => rfl) (by simpa using hafter)
    refine .cons hexp (fun q => hstep q a) fun _ => ?_
    exact .cons (by simp [State.expected,Lexeme.terminal]) (fun _ => rfl) fun _ => hmore

/-- Reserved numbers or names, where their word is told apart. -/
theorem drives_reserved {nest after : Nest} {r : Reserved} (hr : r.Proper)
    (hexp : .keyword .reservedKw ∈ State.expected ⟨nest,.item e⟩)
    (hword : ∀ line, stepItemKeyword nest .reservedKw line = some .reservedWord)
    (hafter : nest.addReserved r = some after) :
    State.machine.Drives ⟨nest,.item e⟩ r.derivation.yield (· = ⟨after,.item .reserved⟩) := by
  have hlexemes : r.derivation.yield =
      .keyword .reservedKw :: (yields (separate .comma r.members) ++ [.mark .semicolon]) := by
    simp [Reserved.derivation]
  rw [hlexemes]
  refine .cons hexp (f := fun _ => ⟨nest,.reservedWord⟩) (fun p => ?_) fun _ => ?_
  · rw [State.machine_step,step_item_keyword,hword]
    rfl
  cases r with
  | ranges rs =>
    have hne : rs ≠ [] := by simpa [Reserved.Proper,Reserved.members] using hr
    obtain ⟨r,rest,rfl⟩ := List.exists_cons_of_ne_nil hne
    exact drives_ranges [] (by simp [State.expected]) (fun _ _ => rfl) hafter
  | names literals =>
    have hne : literals ≠ [] := by simpa [Reserved.Proper,Reserved.members] using hr
    obtain ⟨s,rest,rfl⟩ := List.exists_cons_of_ne_nil hne
    exact drives_names [] (by simp [State.expected]) (fun _ _ => rfl) hafter

theorem closeBrace_mem_expected {nest : Nest} (h : nest.inner = .none → nest.messages ≠ [])
    (e : Ended) : .mark .closeBrace ∈ State.expected ⟨nest,.item e⟩ := by
  cases hi : nest.inner <;> cases hm : nest.messages <;> simp_all [State.expected,itemMarks]

/-- The items of an enum are read as such. -/
theorem adds_enumItem {nest : Nest} {d : Derivation} (hd : Phrase .enumItem [d]) :
    (enumBody nest line name).Adds d := by
  rcases phrase_enumItem_iff.mp hd with ⟨v,hv,rfl⟩ | ⟨s,hs,rfl⟩ | ⟨r,hr,rfl⟩ | rfl
  · exact adds_value hv
  · exact OpenBody.adds_alone hs (.option s) rfl trivial fun _ => rfl
  · intro items e _
    refine (drives_reserved hr ?_ (fun _ => rfl) rfl).mono ?_
    · cases e <;> simp [State.expected,itemVocabulary,bodyVocabulary,enumBody,messageKeywords]
    · rintro _ rfl
      exact ⟨.reserved r,.reserved,trivial,rfl,rfl⟩
  · exact OpenBody.adds_empty .empty rfl trivial fun _ => rfl

theorem adds_oneofItem {nest : Nest} {d : Derivation} (hd : Phrase .oneofItem [d]) :
    (oneofBody nest name).Adds d := by
  rcases phrase_oneofItem_iff.mp hd with ⟨m,hm,rfl⟩ | ⟨s,hs,rfl⟩ | rfl
  · exact adds_member hm
  · exact OpenBody.adds_alone hs (.option s) rfl trivial fun _ => rfl
  · exact OpenBody.adds_empty .empty rfl trivial fun _ => rfl

theorem drives_enum {nest : Nest} {d : Derivation} (hd : Phrase (.rule .enum) [d])
    (hinner : nest.inner = .none) (hexp : .keyword .enumKw ∈ State.expected ⟨nest,.item e⟩) :
    State.machine.Drives ⟨nest,.item e⟩ d.yield fun s => ∃ tree : EnumTree, tree.derivation = d ∧
      s = ⟨nest.addBlock (.enum tree) (.enum tree),.item .shared⟩ := by
  obtain ⟨name,body,hbody,he⟩ := phrase_enum_iff.mp hd
  cases he
  rw [yield_block,List.append_assoc]
  refine .cons hexp (f := fun p => ⟨nest,.enumWord p.line⟩) (fun p => ?_) fun p => ?_
  · rw [State.machine_step,step_item_keyword]
    simp [stepItemKeyword,hinner]
  refine .cons (by simp [State.expected,Lexeme.terminal]) (fun _ => rfl) fun _ => ?_
  refine .cons (by simp [State.expected,Lexeme.terminal]) (fun _ => rfl) fun _ => ?_
  refine (OpenBody.drives (b := enumBody nest p.line name) (fun d hd => adds_enumItem (hbody d hd))
    [] (e := .own) trivial).append ?_
  rintro _ ⟨items,e',-,rfl,rfl⟩
  refine .cons (closeBrace_mem_expected (by simp [enumBody]) e') (fun _ => rfl) fun _ => ?_
  refine drives_nil_iff.mpr ⟨⟨p.line,name,items⟩,rfl,?_⟩
  simp [enumBody,Nest.addBlock]

theorem drives_oneof {d : Derivation} (hd : Phrase (.rule .oneof) [d]) :
    (messageBody statements outer line name).Adds d := by
  obtain ⟨group,body,hbody,he⟩ := phrase_oneof_iff.mp hd
  cases he
  intro items e _
  rw [yield_block,List.append_assoc]
  refine .cons (mem_expected_message (by decide) e) (fun _ => rfl) fun _ => ?_
  refine .cons (by simp [State.expected,Lexeme.terminal]) (fun _ => rfl) fun _ => ?_
  refine .cons (by simp [State.expected,Lexeme.terminal]) (fun _ => rfl) fun _ => ?_
  refine (OpenBody.drives (b := oneofBody ⟨statements,⟨line,name,items⟩ :: outer,.none⟩ group)
    (fun d hd => adds_oneofItem (hbody d hd)) [] (e := .own) trivial).append ?_
  rintro _ ⟨more,e',-,rfl,rfl⟩
  refine .cons (closeBrace_mem_expected (by simp [oneofBody]) e') (fun _ => rfl) fun _ => ?_
  refine drives_nil_iff.mpr ⟨.oneof group more,.own,trivial,rfl,?_⟩
  simp [messageBody,oneofBody]

/-- A message is read wherever its word is told apart; the induction is on its derivation. -/
theorem drives_message {d : Derivation} (hd : Phrase (.rule .message) [d]) {nest : Nest} {e : Ended}
    (hinner : nest.inner = .none) (hexp : .keyword .messageKw ∈ State.expected ⟨nest,.item e⟩) :
    State.machine.Drives ⟨nest,.item e⟩ d.yield fun s => ∃ line name items,
      (MessageItem.message line name items).derivation = d ∧
        s = ⟨nest.addBlock (.message line name items) (.message line name items),
          .item .shared⟩ := by
  have hv : d.Valid := hd.2 d (List.mem_singleton_self d)
  induction hv generalizing nest e with
  | leaf l =>
    obtain ⟨_,-,he⟩ := phrase_rule_iff.mp hd
    cases he
  | node r children hroots hc ih =>
    obtain ⟨name,body,hbody,he⟩ := phrase_message_iff.mp hd
    have heq : node r children = block .message .messageKw name body := (List.cons.inj he).1
    have hadds (line : Nat) (d : Derivation) (hdb : d ∈ body) :
        (messageBody nest.statements nest.messages line name).Adds d := by
      have hmem : d ∈ children := by
        cases he
        simp [hdb]
      rcases phrase_messageItem_iff.mp (hbody d hdb) with ⟨f,hf,rfl⟩ | ⟨m,hm,rfl⟩ | ho | hm | hen |
        ⟨s,hs,rfl⟩ | ⟨r,hr,rfl⟩ | rfl
      · exact adds_field hf
      · exact adds_map hm
      · exact drives_oneof ho
      · intro items e _
        refine (ih d hmem hm rfl (mem_expected_message (by decide) e)).mono ?_
        rintro _ ⟨l,n,inside,hi,rfl⟩
        exact ⟨.message l n inside,.shared,trivial,hi,rfl⟩
      · intro items e _
        refine (drives_enum hen rfl (mem_expected_message (by decide) e)).mono ?_
        rintro _ ⟨tree,rfl,rfl⟩
        exact ⟨.enum tree,.shared,trivial,rfl,rfl⟩
      · exact OpenBody.adds_alone hs (.option s) rfl trivial fun _ => rfl
      · intro items e _
        refine (drives_reserved hr (mem_expected_message (by decide) e) (fun _ => rfl) rfl).mono ?_
        rintro _ rfl
        exact ⟨.reserved r,.reserved,trivial,rfl,rfl⟩
      · exact OpenBody.adds_empty .empty rfl trivial fun _ => rfl
    rw [heq,yield_block,List.append_assoc]
    refine .cons hexp (f := fun p => ⟨nest,.messageWord p.line⟩) (fun p => ?_) fun p => ?_
    · rw [State.machine_step,step_item_keyword]
      simp [stepItemKeyword,hinner]
    refine .cons (by simp [State.expected,Lexeme.terminal]) (fun _ => rfl) fun _ => ?_
    refine .cons (by simp [State.expected,Lexeme.terminal]) (fun _ => rfl) fun _ => ?_
    obtain ⟨statements,messages,inner⟩ := nest
    cases hinner
    refine (OpenBody.drives (hadds p.line) [] (e := .own) trivial).append ?_
    rintro _ ⟨items,e',-,rfl,rfl⟩
    refine .cons (closeBrace_mem_expected (by simp [messageBody]) e') (fun _ => rfl) fun _ => ?_
    refine drives_nil_iff.mpr ⟨p.line,name,items,?_,?_⟩
    · simp [MessageItem.derivation,MessageItem.derivations_eq_map,messageBody]
    · simp [messageBody]

/-- The words that begin the statements of a file are told apart where a statement may begin. -/
theorem mem_expected_file {k : Keyword} (hk : k ∈ fileKeywords) {e : Ended} (he : e ≠ .reserved) :
    .keyword k ∈ State.expected ⟨⟨statements,[],.none⟩,.item e⟩ := by
  cases e <;> simp_all [State.expected,itemVocabulary,bodyVocabulary]

theorem drives_package (p : Dotted) :
    State.machine.Drives ⟨⟨statements,[],.none⟩,.packageWord⟩
      (p.derivation.yield ++ [.mark .semicolon])
      (· = ⟨⟨.package p :: statements,[],.none⟩,.item .own⟩) := by
  have hmore (p : Dotted) (words : List String) :
      State.machine.Drives ⟨⟨statements,[],.none⟩,.package p⟩
        (words.flatMap fun w => [.mark .dot,.word w])
        (· = ⟨⟨statements,[],.none⟩,.package ⟨p.head,p.tail ++ words⟩⟩) := by
    induction words generalizing p with
    | nil => simp
    | cons w rest ih =>
      refine .cons (by simp [State.expected,Lexeme.terminal]) (fun _ => rfl) fun _ => ?_
      refine .cons (by simp [State.expected,Lexeme.terminal]) (fun _ => rfl) fun _ => ?_
      have h := ih (p.extend w)
      rw [Dotted.extend,List.append_assoc] at h
      exact h
  rw [Dotted.derivation,yield_node,Dotted.yields_children]
  refine .cons (by simp [State.expected,Lexeme.terminal]) (fun _ => rfl) fun _ => ?_
  refine (hmore ⟨p.head,[]⟩ p.tail).append ?_
  rintro _ rfl
  refine .cons (by simp [State.expected,Lexeme.terminal]) (fun _ => rfl) fun _ => ?_
  exact drives_nil_iff.mpr rfl

theorem drives_imports (modifier : Option ImportModifier) (literal : String) :
    State.machine.Drives ⟨⟨statements,[],.none⟩,.importWord⟩
      (yields (modifier.map ImportModifier.derivation).toList ++ [.text literal,.mark .semicolon])
      (· = ⟨⟨.imports modifier literal :: statements,[],.none⟩,.item .own⟩) := by
  rcases modifier with _ | ⟨_ | _⟩
  case none =>
    refine .cons (by simp [State.expected,Lexeme.terminal]) (fun _ => rfl) fun _ => ?_
    refine .cons (by simp [State.expected,Lexeme.terminal]) (fun _ => rfl) fun _ => ?_
    exact drives_nil_iff.mpr rfl
  all_goals
    refine .cons (by simp [State.expected,Lexeme.terminal]) (fun _ => rfl) fun _ => ?_
    refine .cons (by simp [State.expected,Lexeme.terminal]) (fun _ => rfl) fun _ => ?_
    refine .cons (by simp [State.expected,Lexeme.terminal]) (fun _ => rfl) fun _ => ?_
    exact drives_nil_iff.mpr rfl

/-- What follows the rules of statements is read as such. -/
theorem adds_statement {d : Derivation} (hd : Phrase .statement [d]) : fileBody.Adds d := by
  have hown : Ended.own ≠ .reserved := by decide
  have hshared : Ended.shared ≠ .reserved := by decide
  rcases phrase_statement_iff.mp hd with ⟨s,rfl⟩ | ⟨p,rfl⟩ | ⟨m,s,rfl⟩ | ⟨s,hs,rfl⟩ | hm | hen | rfl
  · intro statements e he
    refine .cons (mem_expected_file (by decide) he) (fun _ => rfl) fun _ => ?_
    refine .cons (by simp [State.expected,Lexeme.terminal]) (fun _ => rfl) fun _ => ?_
    refine .cons (by simp [State.expected,Lexeme.terminal]) (fun _ => rfl) fun _ => ?_
    refine .cons (by simp [State.expected,Lexeme.terminal]) (fun _ => rfl) fun _ => ?_
    exact drives_nil_iff.mpr ⟨.syntaxIs s,.own,hown,rfl,rfl⟩
  · intro statements e he
    rw [Statement.derivation,yield_node]
    refine .cons (mem_expected_file (by decide) he) (fun _ => rfl) fun _ => ?_
    refine (drives_package p).mono ?_
    rintro _ rfl
    exact ⟨.package p,.own,hown,rfl,rfl⟩
  · intro statements e he
    have hlexemes : (Statement.imports m s).derivation.yield = .keyword .importKw ::
        (yields (m.map ImportModifier.derivation).toList ++ [.text s,.mark .semicolon]) := by
      simp [Statement.derivation]
    rw [hlexemes]
    refine .cons (mem_expected_file (by decide) he) (fun _ => rfl) fun _ => ?_
    refine (drives_imports m s).mono ?_
    rintro _ rfl
    exact ⟨.imports m s,.own,hown,rfl,rfl⟩
  · exact OpenBody.adds_alone hs (.option s) rfl hshared fun _ => rfl
  · intro statements e he
    refine (drives_message hm rfl (mem_expected_file (by decide) he)).mono ?_
    rintro _ ⟨line,name,items,hi,rfl⟩
    exact ⟨.message line name items,.shared,hshared,(derivation_message ..).trans hi,rfl⟩
  · intro statements e he
    refine (drives_enum hen rfl (mem_expected_file (by decide) he)).mono ?_
    rintro _ ⟨tree,rfl,rfl⟩
    exact ⟨.enum tree,.shared,hshared,rfl,rfl⟩
  · exact OpenBody.adds_empty .empty rfl hown fun _ => rfl

/-- What follows the grammar is read as statements with just that derivation. -/
theorem drives_file {d : Derivation} (hv : d.Valid) (hroot : d.root = .rule .file) :
    State.machine.Drives .start d.yield fun s =>
      ∃ statements, s.statements? = some statements ∧ fileDerivation statements = d := by
  cases hv with
  | leaf l => cases hroot
  | node r children hroots hc =>
    obtain rfl : r = .file := by simpa [root] using hroot
    have hs := valid_file_iff.mp (.node _ children hroots hc)
    rw [yield_node]
    refine (OpenBody.drives (b := fileBody) (fun d hd => adds_statement (hs d hd)) []
      (e := .own) (by simp [fileBody])).mono ?_
    rintro _ ⟨more,e,-,rfl,rfl⟩
    exact ⟨more,by simp [State.statements?,fileBody],rfl⟩

end Bodies

end SchemaCodec.Grammar
