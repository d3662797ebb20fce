import SchemaCodec.Grammar.State
import SchemaCodec.Proofs.Grammar.Derivations
import SchemaCodec.Proofs.Outcome

/-! # What a reading state stands for

A state stands for the lexemes that led to it: those of the parts that are closed and those of the
parts still open. Each step adds the lexeme of its token, and what it closes follows its rule.
-/
namespace SchemaCodec.Grammar
open Grammar.Derivation

/-- The members of a row, each with a mark behind it. -/
def followed (m : Mark) (rows : List (List Derivation)) : List Lexeme :=
  rows.flatMap fun ds => yields ds ++ [.mark m]

@[simp] theorem followed_nil (m : Mark) : followed m [] = [] := rfl

@[simp] theorem followed_concat (m : Mark) (rows : List (List Derivation)) (ds : List Derivation) :
    followed m (rows ++ [ds]) = followed m rows ++ yields ds ++ [.mark m] := by
  simp [followed]

theorem yields_separate_concat (m : Mark) (rows : List (List Derivation)) (ds : List Derivation) :
    yields (separate m (rows ++ [ds])) = followed m rows ++ yields ds := by
  simp [separate_concat,followed,yields_eq_flatMap,List.flatMap_assoc]

@[simp] theorem separate_singleton (m : Mark) (ds : List Derivation) : separate m [ds] = ds :=
  List.append_nil ds

/-- The row with marks between becomes one with marks behind by a last mark. -/
theorem yields_separate_mark {m : Mark} {rows : List (List Derivation)} (h : rows ≠ []) :
    yields (separate m rows) ++ [.mark m] = followed m rows := by
  obtain ⟨rows,ds,rfl⟩ := (List.eq_nil_or_concat rows).resolve_left h
  simp [yields_separate_concat]

/-! ## Type references and options -/

theorem yield_extend (r : TypeRef) (w : String) :
    (r.extend w).derivation.yield = r.derivation.yield ++ [.mark .dot,.word w] := by
  obtain ⟨_ | _,p⟩ := r <;>
  simp [TypeRef.derivation,TypeRef.extend,Dotted.extend,Dotted.children,Dotted.words,separate,
    yields_eq_flatMap]

theorem Dotted.yield_extend (p : Dotted) (w : String) :
    (p.extend w).derivation.yield = p.derivation.yield ++ [.mark .dot,.word w] := by
  simp [Dotted.derivation,Dotted.extend,Dotted.children,Dotted.words,separate,yields_eq_flatMap]

@[simp] theorem Dotted.yield_single (w : String) :
    (Dotted.derivation ⟨w,[]⟩).yield = [.word w] := rfl

namespace TypeProgress

def consumed : TypeProgress → List Lexeme
  | start => []
  | rooted => [.mark .dot]
  | word ref => ref.derivation.yield
  | dot ref => ref.derivation.yield ++ [.mark .dot]

theorem consumed_step {p q : TypeProgress} {t : Token} (h : p.step t = some q) :
    q.consumed = p.consumed ++ [t.lexeme] := by
  unfold step at h
  split at h <;> cases h
  · rfl
  · rfl
  · rfl
  · rfl
  · simp [consumed,yield_extend,Token.lexeme]

theorem consumed_of_done? {p : TypeProgress} {r : TypeRef} (h : p.done? = some r) :
    p.consumed = r.derivation.yield := by
  cases p <;> cases h
  rfl

end TypeProgress

namespace OptionProgress

def nameLexemes (name : List OptionPart) : List Lexeme :=
  yields (separate .dot (name.map OptionPart.children))

def consumed : OptionProgress → List Lexeme
  | start name => followed .dot (name.map OptionPart.children)
  | extension name type =>
    followed .dot (name.map OptionPart.children) ++ [.mark .openParen] ++ type.consumed
  | part name => nameLexemes name
  | equals name => nameLexemes name ++ [.mark .equals]
  | sign name s => nameLexemes name ++ [.mark .equals] ++ s.derivation.yield
  | path name p => nameLexemes name ++ [.mark .equals] ++ p.derivation.yield
  | pathDot name p =>
    nameLexemes name ++ [.mark .equals] ++ p.derivation.yield ++ [.mark .dot]
  | done s => yields s.children

/-- Behind its name, an option has one. -/
def Sound : OptionProgress → Prop
  | start _ | extension _ _ => True
  | part name | equals name | sign name _ | path name _ | pathDot name _ => name ≠ []
  | done s => s.Proper

theorem nameLexemes_concat (name : List OptionPart) (p : OptionPart) :
    nameLexemes (name ++ [p]) =
      followed .dot (name.map OptionPart.children) ++ yields p.children := by
  rw [nameLexemes,List.map_append,List.map_singleton,yields_separate_concat]

theorem yield_of_signOf? {t : Token} {s : Sign} (h : signOf? t.terminal = some s) :
    s.derivation.yield = [t.lexeme] := by
  unfold signOf? at h
  split at h <;> cases h
  all_goals rename_i ht; simp [Sign.derivation,Token.lexeme,ht]

theorem yield_of_numberOf? {t : Token} {n : Number} (h : numberOf? t = some n) :
    n.derivation.yield = [t.lexeme] := by
  unfold numberOf? at h
  split at h <;> cases h <;> rfl

theorem sound_stepValue {name : List OptionPart} {t : Token} {q : OptionProgress}
    (hname : name ≠ []) (h : stepValue name t = some q) :
    q.Sound ∧ q.consumed = nameLexemes name ++ [.mark .equals] ++ [t.lexeme] := by
  unfold stepValue at h
  split at h
  · rename_i ht
    cases h
    exact ⟨hname,by simp [consumed,Token.lexeme,ht]⟩
  · rename_i ht
    cases h
    refine ⟨hname,?_⟩
    simp [consumed,Setting.children,Constant.derivation,nameLexemes,Token.lexeme,ht]
  · split at h
    · rename_i hs
      cases h
      exact ⟨hname,by rw [consumed,yield_of_signOf? hs]⟩
    · obtain ⟨n,hn,rfl⟩ := Option.map_eq_some_iff.mp h
      refine ⟨hname,?_⟩
      simp [consumed,Setting.children,Constant.derivation,nameLexemes,yield_of_numberOf? hn]

theorem sound_step {p q : OptionProgress} {t : Token} (hp : p.Sound) (h : p.step t = some q) :
    q.Sound ∧ q.consumed = p.consumed ++ [t.lexeme] := by
  cases p with
  | start name =>
    simp only [step] at h
    split at h <;> cases h
    · rename_i ht
      refine ⟨by simp [Sound],?_⟩
      simp [consumed,nameLexemes_concat,OptionPart.children,Token.lexeme,ht]
    · rename_i ht
      exact ⟨trivial,by simp [consumed,TypeProgress.consumed,Token.lexeme,ht]⟩
  | extension name type =>
    simp only [step] at h
    split at h
    · rename_i hs
      cases h
      exact ⟨trivial,by simp [consumed,TypeProgress.consumed_step hs]⟩
    · split at h <;> cases h
      rename_i ht hd
      refine ⟨by simp [Sound],?_⟩
      simp [consumed,nameLexemes_concat,OptionPart.children,TypeProgress.consumed_of_done? hd,
        Token.lexeme,ht]
  | part name =>
    simp only [step] at h
    split at h <;> cases h
    · rename_i ht
      have hne : name.map OptionPart.children ≠ [] := fun he => hp (List.map_eq_nil_iff.mp he)
      refine ⟨trivial,?_⟩
      rw [consumed,consumed,nameLexemes,Token.lexeme,ht,yields_separate_mark hne]
    · rename_i ht
      exact ⟨hp,by simp [consumed,Token.lexeme,ht]⟩
  | equals name => exact sound_stepValue hp h
  | sign name s =>
    obtain ⟨n,hn,rfl⟩ := Option.map_eq_some_iff.mp h
    refine ⟨hp,?_⟩
    simp [consumed,Setting.children,Constant.derivation,nameLexemes,yield_of_numberOf? hn]
  | path name p =>
    simp only [step] at h
    split at h <;> cases h
    rename_i ht
    exact ⟨hp,by simp [consumed,Token.lexeme,ht]⟩
  | pathDot name p =>
    simp only [step] at h
    split at h <;> cases h
    rename_i ht
    exact ⟨hp,by simp [consumed,Dotted.yield_extend,Token.lexeme,ht]⟩
  | done s => cases h

theorem sound_of_done? {p : OptionProgress} {s : Setting} (hp : p.Sound) (h : p.done? = some s) :
    s.Proper ∧ p.consumed = yields s.children := by
  cases p <;> cases h
  · exact ⟨hp,by simp [consumed,Setting.children,Constant.derivation,nameLexemes]⟩
  · exact ⟨hp,rfl⟩

end OptionProgress

/-! ## What is open -/

def Head.consumed : Head → List Lexeme
  | field label type => yields (label.map Label.derivation).toList ++ type.derivation.yield
  | map k v =>
    [.keyword .mapKw,.mark .openAngle] ++ k.derivation.yield ++ [.mark .comma]
      ++ v.derivation.yield ++ [.mark .closeAngle]
  | member type => type.derivation.yield
  | value => []

def TypeUse.consumed : TypeUse → List Lexeme
  | field label => yields (label.map Label.derivation).toList
  | member => []
  | mapKey => [.keyword .mapKw,.mark .openAngle]
  | mapValue key =>
    [.keyword .mapKw,.mark .openAngle] ++ key.derivation.yield ++ [.mark .comma]

def signLexemes (negative : Bool) : List Lexeme := if negative then [.mark .minus] else []

def Numbered.consumed (n : Numbered) : List Lexeme :=
  n.head.consumed ++ [.word n.name,.mark .equals] ++ signLexemes n.negative ++ [.int n.number]

/-- Only the values of enums have signs. -/
def Numbered.Sound (n : Numbered) : Prop := n.negative = true → n.head = .value

def Setting.rows (settings : List Setting) : List (List Derivation) :=
  settings.map fun s => [s.inBrackets]

def Range.rows (rs : List Range) : List (List Derivation) := rs.map fun r => [r.derivation]

def nameRows (literals : List String) : List (List Derivation) :=
  literals.map fun s => [leaf (.text s)]

@[simp] theorem Setting.rows_nil : Setting.rows [] = [] := rfl

@[simp] theorem Setting.rows_concat (done : List Setting) (s : Setting) :
    Setting.rows (done ++ [s]) = Setting.rows done ++ [[s.inBrackets]] := List.map_append

@[simp] theorem Range.rows_nil : Range.rows [] = [] := rfl

@[simp] theorem Range.rows_concat (done : List Range) (r : Range) :
    Range.rows (done ++ [r]) = Range.rows done ++ [[r.derivation]] := List.map_append

@[simp] theorem nameRows_single (s : String) : nameRows [s] = [[leaf (.text s)]] := rfl

@[simp] theorem nameRows_concat (names : List String) (s : String) :
    nameRows (names ++ [s]) = nameRows names ++ [[leaf (.text s)]] := List.map_append

@[simp] theorem Range.yield_single (first : String) :
    (Range.derivation ⟨first,none⟩).yield = [.int first] := rfl

@[simp] theorem Range.yield_number (first last : String) :
    (Range.derivation ⟨first,some (.number last)⟩).yield =
      [.int first,.keyword .toKw,.int last] := rfl

@[simp] theorem Range.yield_max (first : String) :
    (Range.derivation ⟨first,some .max⟩).yield =
      [.int first,.keyword .toKw,.keyword .maxKw] := rfl

@[simp] theorem consumed_start : (OptionProgress.start []).consumed = [] := rfl

namespace Progress

def consumed : Progress → List Lexeme
  | item _ => []
  | syntaxWord => [.keyword .syntaxKw]
  | syntaxEquals => [.keyword .syntaxKw,.mark .equals]
  | syntaxText literal => [.keyword .syntaxKw,.mark .equals,.text literal]
  | packageWord => [.keyword .packageKw]
  | package name => .keyword .packageKw :: name.derivation.yield
  | packageDot name => .keyword .packageKw :: name.derivation.yield ++ [.mark .dot]
  | importWord => [.keyword .importKw]
  | importKind modifier => .keyword .importKw :: modifier.derivation.yield
  | importText modifier literal =>
    .keyword .importKw :: yields (modifier.map ImportModifier.derivation).toList ++ [.text literal]
  | messageWord _ => [.keyword .messageKw]
  | messageName _ name => [.keyword .messageKw,.word name]
  | enumWord _ => [.keyword .enumKw]
  | enumName _ name => [.keyword .enumKw,.word name]
  | oneofWord => [.keyword .oneofKw]
  | oneofName name => [.keyword .oneofKw,.word name]
  | mapWord _ => [.keyword .mapKw]
  | type _ use progress => use.consumed ++ progress.consumed
  | mapTypes _ key value => (Head.map key value).consumed
  | named _ head name => head.consumed ++ [.word name]
  | equals _ head name negative =>
    head.consumed ++ [.word name,.mark .equals] ++ signLexemes negative
  | numbered n => n.consumed
  | setting n done progress =>
    n.consumed ++ [.mark .openBracket] ++ followed .comma (Setting.rows done) ++ progress.consumed
  | settingsClosed n settings => n.consumed ++ yields (bracketed settings)
  | option progress => .keyword .optionKw :: progress.consumed
  | reservedWord => [.keyword .reservedKw]
  | rangeFirst done first =>
    .keyword .reservedKw :: followed .comma (Range.rows done) ++ [.int first]
  | rangeTo done first =>
    .keyword .reservedKw :: followed .comma (Range.rows done) ++ [.int first,.keyword .toKw]
  | rangeDone done => .keyword .reservedKw :: yields (separate .comma (Range.rows done))
  | rangeComma done => .keyword .reservedKw :: followed .comma (Range.rows done)
  | reservedName names => .keyword .reservedKw :: yields (separate .comma (nameRows names))
  | reservedComma names => .keyword .reservedKw :: followed .comma (nameRows names)

/-- What is closed in the statement at hand follows its rules, and the statement may stand where it
does. -/
def Sound (nest : Nest) : Progress → Prop
  | syntaxWord | syntaxEquals | syntaxText _ | packageWord | package _ | packageDot _
  | importWord | importKind _ | importText _ _ => nest.inner = .none ∧ nest.messages = []
  | messageWord _ | messageName _ _ | enumWord _ | enumName _ _ | oneofWord | oneofName _ =>
    nest.inner = .none
  | equals _ head _ negative => negative = true → head = .value
  | numbered n => n.Sound
  | setting n done progress => n.Sound ∧ (∀ s ∈ done, s.Proper) ∧ progress.Sound
  | settingsClosed n settings => n.Sound ∧ ∀ s ∈ settings, s.Proper
  | option progress => progress.Sound
  | rangeDone done => done ≠ []
  | reservedName names => names ≠ []
  | _ => True

end Progress

/-- What a declaration with a name and a body begins with. -/
def opening (k : Keyword) (name : String) : List Lexeme :=
  [.keyword k,.word name,.mark .openBrace]

theorem yield_block (r : Rule) (k : Keyword) (name : String) (body : List Derivation) :
    (block r k name body).yield = opening k name ++ yields body ++ [.mark .closeBrace] := by
  simp [block,opening]

def OpenMessage.consumed (m : OpenMessage) : List Lexeme :=
  opening .messageKw m.name ++ yields (m.items.reverse.map MessageItem.derivation)

def OpenMessage.Sound (m : OpenMessage) : Prop :=
  ∀ i ∈ m.items, Phrase .messageItem [i.derivation]

namespace Inner

def consumed : Inner → List Lexeme
  | none => []
  | oneof name items => opening .oneofKw name ++ yields (items.reverse.map OneofItem.derivation)
  | enum _ name items => opening .enumKw name ++ yields (items.reverse.map EnumItem.derivation)

def Sound : Inner → Prop
  | none => True
  | oneof _ items => ∀ i ∈ items, Phrase .oneofItem [i.derivation]
  | enum _ _ items => ∀ i ∈ items, Phrase .enumItem [i.derivation]

end Inner

namespace Nest

def consumed (nest : Nest) : List Lexeme :=
  yields (nest.statements.reverse.map Statement.derivation)
    ++ nest.messages.reverse.flatMap OpenMessage.consumed ++ nest.inner.consumed

structure Sound (nest : Nest) : Prop where
  statements : ∀ s ∈ nest.statements, Phrase .statement [s.derivation]
  messages : ∀ m ∈ nest.messages, m.Sound
  inner : nest.inner.Sound

/-- From one nest to another, these lexemes more are closed. -/
structure Closes (nest : Nest) (ls : List Lexeme) (next : Nest) : Prop where
  sound : next.Sound
  consumed : next.consumed = nest.consumed ++ ls

variable {nest next : Nest}

theorem closes_addStatement (h : nest.Sound) {s : Statement}
    (hs : Phrase .statement [s.derivation]) (hm : nest.messages = []) (hi : nest.inner = .none) :
    nest.Closes s.derivation.yield (nest.addStatement s) where
  sound := ⟨List.forall_mem_cons.mpr ⟨hs,h.statements⟩,h.messages,h.inner⟩
  consumed := by simp [Nest.consumed,addStatement,hm,hi,Inner.consumed]

theorem addBlock_eq (nest : Nest) (i : MessageItem) (s : Statement) :
    nest.addBlock i s = { nest with inner := .none }.addBlock i s := by
  cases hm : nest.messages <;> simp [addBlock,hm]

theorem closes_addMessageItem (h : nest.Sound) {i : MessageItem}
    (hi : Phrase .messageItem [i.derivation]) (hinner : nest.inner = .none)
    (hn : nest.addMessageItem i = some next) : nest.Closes i.derivation.yield next := by
  cases hm : nest.messages with
  | nil => simp [addMessageItem,hm] at hn
  | cons m outer =>
    simp only [addMessageItem,hm,Option.some.injEq] at hn
    subst hn
    obtain ⟨hfirst,houter⟩ := List.forall_mem_cons.mp (hm ▸ h.messages)
    constructor
    · refine ⟨h.statements,List.forall_mem_cons.mpr ⟨?_,houter⟩,h.inner⟩
      exact List.forall_mem_cons.mpr ⟨hi,hfirst⟩
    · simp [Nest.consumed,OpenMessage.consumed,hm,hinner,Inner.consumed]

theorem closes_addBlock (h : nest.Sound) {i : MessageItem} {s : Statement}
    (hi : Phrase .messageItem [i.derivation]) (hs : Phrase .statement [s.derivation])
    (he : s.derivation = i.derivation) (hinner : nest.inner = .none) :
    nest.Closes i.derivation.yield (nest.addBlock i s) := by
  cases hm : nest.messages with
  | nil =>
    have hadd : nest.addBlock i s = nest.addStatement s := by
      simp [addBlock,addStatement,hm,hinner]
    rw [hadd,← he]
    exact closes_addStatement h hs hm hinner
  | cons m outer =>
    refine closes_addMessageItem h hi hinner ?_
    simp [addBlock,addMessageItem,hm,hinner]

/-- An item of the innermost oneof. -/
theorem closes_oneofItem (h : nest.Sound) {name : String} {items : List OneofItem} {i : OneofItem}
    (hi : Phrase .oneofItem [i.derivation]) (hinner : nest.inner = .oneof name items) :
    nest.Closes i.derivation.yield { nest with inner := .oneof name (i :: items) } where
  sound := ⟨h.statements,h.messages,
    List.forall_mem_cons.mpr ⟨hi,by simpa [hinner,Inner.Sound] using h.inner⟩⟩
  consumed := by simp [Nest.consumed,hinner,Inner.consumed]

/-- An item of the innermost enum. -/
theorem closes_enumItem (h : nest.Sound) {line : Nat} {name : String} {items : List EnumItem}
    {i : EnumItem} (hi : Phrase .enumItem [i.derivation])
    (hinner : nest.inner = .enum line name items) :
    nest.Closes i.derivation.yield { nest with inner := .enum line name (i :: items) } where
  sound := ⟨h.statements,h.messages,
    List.forall_mem_cons.mpr ⟨hi,by simpa [hinner,Inner.Sound] using h.inner⟩⟩
  consumed := by simp [Nest.consumed,hinner,Inner.consumed]

theorem closes_addOption (h : nest.Sound) {s : Setting} (hs : s.Proper) :
    nest.Closes s.alone.yield (nest.addOption s) := by
  have hp : Phrase (.rule .option) [s.alone] := phrase_option_iff.mpr ⟨s,hs,rfl⟩
  unfold addOption
  split
  · rename_i hinner
    exact closes_addBlock (i := .option s) h (phrase_messageItem_of_rule (by simp) hp)
      (phrase_statement_of_rule (by simp) hp) rfl hinner
  · rename_i hinner
    exact closes_oneofItem (i := .option s) h (phrase_oneofItem_iff.mpr (.inr (.inl ⟨s,hs,rfl⟩)))
      hinner
  · rename_i hinner
    exact closes_enumItem (i := .option s) h (phrase_enumItem_iff.mpr (.inr (.inl ⟨s,hs,rfl⟩)))
      hinner

theorem closes_addEmpty (h : nest.Sound) : nest.Closes [.mark .semicolon] nest.addEmpty := by
  have hp : Phrase (.mark .semicolon) [emptyDerivation] := phrase_mark_iff.mpr rfl
  unfold addEmpty
  split
  · rename_i hinner
    exact closes_addBlock (i := .empty) h (phrase_add_iff.mpr (.inr hp))
      (phrase_add_iff.mpr (.inr hp)) rfl hinner
  · rename_i hinner
    exact closes_oneofItem (i := .empty) h (phrase_add_iff.mpr (.inr hp)) hinner
  · rename_i hinner
    exact closes_enumItem (i := .empty) h (phrase_add_iff.mpr (.inr hp)) hinner

theorem closes_addReserved (h : nest.Sound) {r : Reserved} (hr : r.Proper)
    (hn : nest.addReserved r = some next) : nest.Closes r.derivation.yield next := by
  have hp : Phrase (.rule .reserved) [r.derivation] := phrase_reserved_iff.mpr ⟨r,hr,rfl⟩
  unfold addReserved at hn
  split at hn
  · rename_i hinner
    exact closes_addMessageItem (i := .reserved r) h (phrase_messageItem_of_rule (by simp) hp)
      hinner hn
  · cases hn
  · rename_i hinner
    cases hn
    exact closes_enumItem (i := .reserved r) h
      (phrase_enumItem_iff.mpr (.inr (.inr (.inl ⟨r,hr,rfl⟩)))) hinner

theorem closes_addNumbered (h : nest.Sound) {n : Numbered} {settings : List Setting}
    (hsign : n.Sound) (hs : ∀ s ∈ settings, s.Proper)
    (hn : nest.addNumbered n settings = some next) :
    nest.Closes (n.consumed ++ yields (bracketed settings) ++ [.mark .semicolon]) next := by
  obtain ⟨line,head,name,negative,number⟩ := n
  have hplus (hv : head ≠ .value) : negative = false := by
    cases negative with
    | false => rfl
    | true => exact absurd (hsign rfl) hv
  have hslot : Slot.Proper ⟨name,number,settings⟩ := hs
  unfold addNumbered at hn
  split at hn
  · rename_i label type hinner hhead
    simp only at hhead
    subst hhead
    have hc := closes_addMessageItem (i := .field ⟨line,label,type,⟨name,number,settings⟩⟩) h
      (phrase_messageItem_of_rule (by simp) (phrase_field_iff.mpr ⟨_,hslot,rfl⟩)) hinner hn
    refine ⟨hc.sound,hc.consumed.trans ?_⟩
    simp [MessageItem.derivation,FieldTree.derivation,Slot.children,Numbered.consumed,
      Head.consumed,hplus,signLexemes]
  · rename_i key value hinner hhead
    simp only at hhead
    subst hhead
    have hc := closes_addMessageItem (i := .map ⟨line,key,value,⟨name,number,settings⟩⟩) h
      (phrase_messageItem_of_rule (by simp) (phrase_mapField_iff.mpr ⟨_,hslot,rfl⟩)) hinner hn
    refine ⟨hc.sound,hc.consumed.trans ?_⟩
    simp [MessageItem.derivation,MapTree.derivation,Slot.children,Numbered.consumed,
      Head.consumed,hplus,signLexemes]
  · rename_i group items type hinner hhead
    simp only at hhead
    subst hhead
    cases hn
    have hc := closes_oneofItem (i := .member ⟨line,type,⟨name,number,settings⟩⟩) h
      (phrase_oneofItem_iff.mpr (.inl ⟨_,hslot,rfl⟩)) hinner
    refine ⟨hc.sound,hc.consumed.trans ?_⟩
    simp [OneofItem.derivation,MemberTree.derivation,Slot.children,Numbered.consumed,
      Head.consumed,hplus,signLexemes]
  · rename_i hinner hhead
    simp only at hhead
    subst hhead
    cases hn
    have hc := closes_enumItem (i := .value ⟨line,negative,⟨name,number,settings⟩⟩) h
      (phrase_enumItem_iff.mpr (.inl ⟨_,hslot,rfl⟩)) hinner
    refine ⟨hc.sound,hc.consumed.trans ?_⟩
    cases negative <;> simp [EnumItem.derivation,ValueTree.derivation,Numbered.consumed,
      Head.consumed,signLexemes]
  · cases hn

/-- The innermost body is closed, and the declaration that it is of is added around it. -/
inductive Closing : Nest → Ended → Nest → Prop
  | enum {statements : List Statement} {messages : List OpenMessage} {line : Nat} {name : String}
      {items : List EnumItem} :
    Closing ⟨statements,messages,.enum line name items⟩ .shared
      (addBlock ⟨statements,messages,.none⟩ (.enum ⟨line,name,items.reverse⟩)
        (.enum ⟨line,name,items.reverse⟩))
  | oneof {statements : List Statement} {messages : List OpenMessage} {name : String}
      {items : List OneofItem} {next : Nest}
      (hadd : addMessageItem ⟨statements,messages,.none⟩ (.oneof name items.reverse) = some next) :
    Closing ⟨statements,messages,.oneof name items⟩ .own next
  | message {statements : List Statement} {m : OpenMessage} {outer : List OpenMessage} :
    Closing ⟨statements,m :: outer,.none⟩ .shared
      (addBlock ⟨statements,outer,.none⟩ (.message m.line m.name m.items.reverse)
        (.message m.line m.name m.items.reverse))

theorem closing_of_close {ended : Ended} (hn : nest.close = some (next,ended)) :
    Closing nest ended next := by
  obtain ⟨statements,messages,inner⟩ := nest
  cases inner with
  | none =>
    cases messages with
    | nil => cases hn
    | cons m outer =>
      cases hn
      exact .message
  | oneof name items =>
    obtain ⟨next,hadd,he⟩ := Option.map_eq_some_iff.mp hn
    cases he
    exact .oneof hadd
  | enum line name items =>
    cases hn
    rw [addBlock_eq]
    exact .enum

/-- The brace that closes the innermost body. -/
theorem closes_close (h : nest.Sound) {ended : Ended} (hn : Closing nest ended next) :
    nest.Closes [.mark .closeBrace] next := by
  cases hn with
  | @enum statements messages line name items =>
    have hp : Phrase (.rule .enum) [EnumTree.derivation ⟨line,name,items.reverse⟩] := by
      refine phrase_enum_iff.mpr ⟨name,_,?_,rfl⟩
      simpa [Inner.Sound] using h.inner
    have hopen : Nest.Sound ⟨statements,messages,.none⟩ := ⟨h.statements,h.messages,trivial⟩
    have hc := closes_addBlock (i := .enum ⟨line,name,items.reverse⟩)
      (s := .enum ⟨line,name,items.reverse⟩) hopen (phrase_messageItem_of_rule (by simp) hp)
      (phrase_statement_of_rule (by simp) hp) rfl rfl
    refine ⟨hc.sound,hc.consumed.trans ?_⟩
    simp [Nest.consumed,Inner.consumed,MessageItem.derivation,EnumTree.derivation,yield_block]
  | @oneof statements messages name items _ hadd =>
    have hp : Phrase (.rule .oneof) [(MessageItem.oneof name items.reverse).derivation] := by
      refine phrase_oneof_iff.mpr ⟨name,_,?_,rfl⟩
      simpa [Inner.Sound] using h.inner
    have hopen : Nest.Sound ⟨statements,messages,.none⟩ := ⟨h.statements,h.messages,trivial⟩
    have hc := closes_addMessageItem (i := .oneof name items.reverse) hopen
      (phrase_messageItem_of_rule (by simp) hp) rfl hadd
    refine ⟨hc.sound,hc.consumed.trans ?_⟩
    simp [Nest.consumed,Inner.consumed,MessageItem.derivation,yield_block]
  | @message statements m outer =>
    obtain ⟨hfirst,houter⟩ := List.forall_mem_cons.mp h.messages
    have hp : Phrase (.rule .message)
        [(MessageItem.message m.line m.name m.items.reverse).derivation] := by
      refine phrase_message_iff.mpr ⟨m.name,_,?_,rfl⟩
      simpa [MessageItem.derivations_eq_map,OpenMessage.Sound] using hfirst
    have he := derivation_message m.line m.name m.items.reverse
    have hopen : Nest.Sound ⟨statements,outer,.none⟩ := ⟨h.statements,houter,trivial⟩
    have hc := closes_addBlock hopen (phrase_messageItem_of_rule (by simp) hp)
      (phrase_statement_of_rule (r := .message) (by simp) (he ▸ hp)) he rfl
    refine ⟨hc.sound,hc.consumed.trans ?_⟩
    simp [Nest.consumed,Inner.consumed,MessageItem.derivation,MessageItem.derivations_eq_map,
      yield_block,OpenMessage.consumed]

end Nest

/-! ## Cases of a step

A token begins an item or a statement, or goes on with the one at hand, or opens a body, or ends
what it is in. -/

/-- What a token does where an item or a statement may begin. -/
inductive Beginning (nest : Nest) (t : Token) : State → Prop
  | keyword {k : Keyword} {p : Progress} (ht : t.terminal = .keyword k)
      (hp : stepItemKeyword nest k t.position.line = some p) : Beginning nest t ⟨nest,p⟩
  | empty (ht : t.terminal = .mark .semicolon) : Beginning nest t ⟨nest.addEmpty,.item .own⟩
  | close {outer : Nest} {ended : Ended} (ht : t.terminal = .mark .closeBrace)
      (hc : nest.Closing ended outer) : Beginning nest t ⟨outer,.item ended⟩
  | value {line : Nat} {name : String} {items : List EnumItem} (ht : t.terminal = .word)
      (hi : nest.inner = .enum line name items) :
    Beginning nest t ⟨nest,.named t.position.line .value t.text⟩
  | type {use : TypeUse} {p : TypeProgress} (huse : typeUse? nest = some use)
      (hs : TypeProgress.start.step t = some p) : Beginning nest t ⟨nest,.type t.position.line use p⟩

theorem beginning_of_stepItem {nest : Nest} {t : Token} {next : State}
    (hs : stepItem nest t = some next) : Beginning nest t next := by
  unfold stepItem at hs
  split at hs
  · rename_i k ht
    obtain ⟨p,hp,rfl⟩ := Option.map_eq_some_iff.mp hs
    exact .keyword ht hp
  · rename_i ht
    cases hs
    exact .empty ht
  · rename_i ht
    obtain ⟨⟨outer,ended⟩,hc,rfl⟩ := Option.map_eq_some_iff.mp hs
    exact .close ht (Nest.closing_of_close hc)
  · rename_i ht
    split at hs
    · rename_i hi
      cases hs
      exact .value ht hi
    · split at hs <;> cases hs
      rename_i huse htype
      exact .type huse htype
  · split at hs <;> cases hs
    rename_i huse htype
    exact .type huse htype
  · cases hs

/-- The statement at hand goes on, and nothing is closed. -/
inductive Progress.Goes (t : Token) : Progress → Progress → Prop
  | syntaxEquals (ht : t.terminal = .mark .equals) : Goes t .syntaxWord .syntaxEquals
  | syntaxText (ht : t.terminal = .text) : Goes t .syntaxEquals (.syntaxText t.text)
  | package (ht : t.terminal = .word) : Goes t .packageWord (.package ⟨t.text,[]⟩)
  | packageDot {name : Dotted} (ht : t.terminal = .mark .dot) :
    Goes t (.package name) (.packageDot name)
  | packagePart {name : Dotted} (ht : t.terminal = .word) :
    Goes t (.packageDot name) (.package (name.extend t.text))
  | importPublic (ht : t.terminal = .keyword .publicKw) : Goes t .importWord (.importKind .publicly)
  | importWeak (ht : t.terminal = .keyword .weakKw) : Goes t .importWord (.importKind .weakly)
  | importText (ht : t.terminal = .text) : Goes t .importWord (.importText none t.text)
  | importKind {m : ImportModifier} (ht : t.terminal = .text) :
    Goes t (.importKind m) (.importText (some m) t.text)
  | messageName {line : Nat} (ht : t.terminal = .word) :
    Goes t (.messageWord line) (.messageName line t.text)
  | enumName {line : Nat} (ht : t.terminal = .word) : Goes t (.enumWord line) (.enumName line t.text)
  | oneofName (ht : t.terminal = .word) : Goes t .oneofWord (.oneofName t.text)
  | mapKey {line : Nat} (ht : t.terminal = .mark .openAngle) :
    Goes t (.mapWord line) (.type line .mapKey .start)
  | type {line : Nat} {use : TypeUse} {p q : TypeProgress} (hs : p.step t = some q) :
    Goes t (.type line use p) (.type line use q)
  | typed {line : Nat} {use : TypeUse} {p : TypeProgress} {ref : TypeRef} {q : Progress}
      (hd : p.done? = some ref) (hs : stepAfterType line use ref t = some q) :
    Goes t (.type line use p) q
  | mapName {line : Nat} {key value : TypeRef} (ht : t.terminal = .word) :
    Goes t (.mapTypes line key value) (.named line (.map key value) t.text)
  | equals {line : Nat} {head : Head} {name : String} (ht : t.terminal = .mark .equals) :
    Goes t (.named line head name) (.equals line head name false)
  | minus {line : Nat} {name : String} (ht : t.terminal = .mark .minus) :
    Goes t (.equals line .value name false) (.equals line .value name true)
  | number {line : Nat} {head : Head} {name : String} {negative : Bool} (ht : t.terminal = .int) :
    Goes t (.equals line head name negative) (.numbered ⟨line,head,name,negative,t.text⟩)
  | openBracket {n : Numbered} (ht : t.terminal = .mark .openBracket) :
    Goes t (.numbered n) (.setting n [] (.start []))
  | setting {n : Numbered} {done : List Setting} {p q : OptionProgress} (hs : p.step t = some q) :
    Goes t (.setting n done p) (.setting n done q)
  | settingComma {n : Numbered} {done : List Setting} {p : OptionProgress} {s : Setting}
      (hd : p.done? = some s) (ht : t.terminal = .mark .comma) :
    Goes t (.setting n done p) (.setting n (done ++ [s]) (.start []))
  | closeBracket {n : Numbered} {done : List Setting} {p : OptionProgress} {s : Setting}
      (hd : p.done? = some s) (ht : t.terminal = .mark .closeBracket) :
    Goes t (.setting n done p) (.settingsClosed n (done ++ [s]))
  | option {p q : OptionProgress} (hs : p.step t = some q) : Goes t (.option p) (.option q)
  | rangeFirst (ht : t.terminal = .int) : Goes t .reservedWord (.rangeFirst [] t.text)
  | reservedName (ht : t.terminal = .text) : Goes t .reservedWord (.reservedName [t.text])
  | rangeTo {done : List Range} {first : String} (ht : t.terminal = .keyword .toKw) :
    Goes t (.rangeFirst done first) (.rangeTo done first)
  | firstComma {done : List Range} {first : String} (ht : t.terminal = .mark .comma) :
    Goes t (.rangeFirst done first) (.rangeComma (done ++ [⟨first,none⟩]))
  | rangeLast {done : List Range} {first : String} (ht : t.terminal = .int) :
    Goes t (.rangeTo done first) (.rangeDone (done ++ [⟨first,some (.number t.text)⟩]))
  | rangeMax {done : List Range} {first : String} (ht : t.terminal = .keyword .maxKw) :
    Goes t (.rangeTo done first) (.rangeDone (done ++ [⟨first,some .max⟩]))
  | rangeComma {done : List Range} (ht : t.terminal = .mark .comma) :
    Goes t (.rangeDone done) (.rangeComma done)
  | rangeNext {done : List Range} (ht : t.terminal = .int) :
    Goes t (.rangeComma done) (.rangeFirst done t.text)
  | nameComma {names : List String} (ht : t.terminal = .mark .comma) :
    Goes t (.reservedName names) (.reservedComma names)
  | nameNext {names : List String} (ht : t.terminal = .text) :
    Goes t (.reservedComma names) (.reservedName (names ++ [t.text]))

/-- A semicolon makes this a statement that only a file can hold. -/
inductive Progress.Says : Progress → Statement → Prop
  | syntaxIs (literal : String) : Says (.syntaxText literal) (.syntaxIs literal)
  | package (name : Dotted) : Says (.package name) (.package name)
  | imports (m : Option ImportModifier) (literal : String) :
    Says (.importText m literal) (.imports m literal)

/-- A semicolon makes this a numbered declaration with its settings. -/
inductive Progress.Numbers : Progress → Numbered → List Setting → Prop
  | bare (n : Numbered) : Numbers (.numbered n) n []
  | settings (n : Numbered) (settings : List Setting) :
    Numbers (.settingsClosed n settings) n settings

/-- A semicolon makes this a reserved statement. -/
inductive Progress.Reserves : Progress → Reserved → Prop
  | single (done : List Range) (first : String) :
    Reserves (.rangeFirst done first) (.ranges (done ++ [⟨first,none⟩]))
  | ranges (done : List Range) : Reserves (.rangeDone done) (.ranges done)
  | names (names : List String) : Reserves (.reservedName names) (.names names)

/-- What a token makes of the statement at hand and of what is open. -/
inductive Transition (nest : Nest) (t : Token) : Progress → State → Prop
  | item {ended : Ended} {next : State} (hs : stepItem nest t = some next) :
    Transition nest t (.item ended) next
  | goes {p q : Progress} (hgoes : p.Goes t q) : Transition nest t p ⟨nest,q⟩
  | statement {p : Progress} {s : Statement} (hsaid : p.Says s)
      (ht : t.terminal = .mark .semicolon) : Transition nest t p ⟨nest.addStatement s,.item .own⟩
  | message {line : Nat} {name : String} (ht : t.terminal = .mark .openBrace) :
    Transition nest t (.messageName line name)
      ⟨{ nest with messages := ⟨line,name,[]⟩ :: nest.messages },.item .own⟩
  | enum {line : Nat} {name : String} (ht : t.terminal = .mark .openBrace) :
    Transition nest t (.enumName line name) ⟨{ nest with inner := .enum line name [] },.item .own⟩
  | oneof {name : String} (ht : t.terminal = .mark .openBrace) :
    Transition nest t (.oneofName name) ⟨{ nest with inner := .oneof name [] },.item .own⟩
  | numbered {p : Progress} {n : Numbered} {settings : List Setting} {next : State}
      (hnumbers : p.Numbers n settings) (ht : t.terminal = .mark .semicolon)
      (hs : finishNumbered nest n settings = some next) : Transition nest t p next
  | option {p : OptionProgress} {s : Setting} (hd : p.done? = some s)
      (ht : t.terminal = .mark .semicolon) :
    Transition nest t (.option p) ⟨nest.addOption s,.item .shared⟩
  | reserved {p : Progress} {r : Reserved} {next : State} (hreserves : p.Reserves r)
      (ht : t.terminal = .mark .semicolon) (hs : finishReserved nest r = some next) :
    Transition nest t p next

theorem transition_of_step {nest : Nest} {p : Progress} {t : Token} {next : State}
    (hs : State.step ⟨nest,p⟩ t = some next) : Transition nest t p next := by
  unfold State.step at hs
  dsimp only at hs
  -- the cases are numbered as the branches of a step; those at the end only go on
  split at hs
  case h_1 => exact .item hs
  case h_4 literal ht => cases hs; exact .statement (.syntaxIs literal) ht
  case h_7 name ht => cases hs; exact .statement (.package name) ht
  case h_13 m literal ht => cases hs; exact .statement (.imports m literal) ht
  case h_15 ht => cases hs; exact .message ht
  case h_17 ht => cases hs; exact .enum ht
  case h_19 ht => cases hs; exact .oneof ht
  case h_21 =>
    split at hs
    · cases hs
      exact .goes (.type ‹_›)
    · obtain ⟨ref,hd,hs⟩ := Option.bind_eq_some_iff.mp hs
      obtain ⟨q,hq,hs⟩ := Option.bind_eq_some_iff.mp hs
      cases hs
      exact .goes (.typed hd hq)
  case h_27 n ht => exact .numbered (.bare n) ht hs
  case h_28 =>
    split at hs
    · cases hs
      exact .goes (.setting ‹_›)
    · split at hs <;> cases hs
      · rename_i hd ht
        exact .goes (.settingComma hd ht)
      · rename_i hd ht
        exact .goes (.closeBracket hd ht)
  case h_29 n settings ht => exact .numbered (.settings n settings) ht hs
  case h_30 =>
    split at hs
    · cases hs
      exact .goes (.option ‹_›)
    · split at hs <;> cases hs
      rename_i hd ht
      exact .option hd ht
  case h_35 done first ht => exact .reserved (.single done first) ht hs
  case h_39 done ht => exact .reserved (.ranges done) ht hs
  case h_42 names ht => exact .reserved (.names names) ht hs
  case h_44 => cases hs
  all_goals
    rename_i ht
    cases hs
    exact .goes (by constructor; exact ht)

/-! ## Steps -/

namespace State

def consumed (s : State) : List Lexeme := s.nest.consumed ++ s.progress.consumed

structure Sound (s : State) : Prop where
  nest : s.nest.Sound
  progress : s.progress.Sound s.nest

/-- What a step on a token promises of the state behind it. -/
structure Follows (s : State) (t : Token) (next : State) : Prop where
  sound : next.Sound
  consumed : next.consumed = s.consumed ++ [t.lexeme]

variable {nest : Nest} {t : Token} {next : State}

theorem follows_go {p q : Progress} (h : nest.Sound) (hq : q.Sound nest)
    (hc : q.consumed = p.consumed ++ [t.lexeme]) : Follows ⟨nest,p⟩ t ⟨nest,q⟩ :=
  ⟨⟨h,hq⟩,by simp [State.consumed,hc]⟩

theorem follows_close {p : Progress} {after : Nest} {ended : Ended} {ls : List Lexeme}
    (hc : nest.Closes ls after) (hp : ls = p.consumed ++ [t.lexeme]) :
    Follows ⟨nest,p⟩ t ⟨after,.item ended⟩ :=
  ⟨⟨hc.sound,trivial⟩,by simp [State.consumed,Progress.consumed,hc.consumed,hp]⟩

theorem sound_stepItemKeyword {k : Keyword} {line : Nat} {p : Progress}
    (h : stepItemKeyword nest k line = some p) : p.Sound nest ∧ p.consumed = [.keyword k] := by
  unfold stepItemKeyword at h
  split at h
  case h_11 =>
    obtain ⟨l,hl,rfl⟩ := Option.map_eq_some_iff.mp h
    unfold labelOf? at hl
    split at hl <;> cases hl <;> exact ⟨trivial,rfl⟩
  all_goals cases h
  all_goals exact ⟨by simp_all [Progress.Sound,OptionProgress.Sound],
    by simp [Progress.consumed,OptionProgress.consumed]⟩

theorem follows_type (h : nest.Sound) {ended : Ended} {use : TypeUse} {type : TypeProgress}
    (huse : typeUse? nest = some use) (htype : TypeProgress.start.step t = some type) :
    Follows ⟨nest,.item ended⟩ t ⟨nest,.type t.position.line use type⟩ := by
  have hempty : use.consumed = [] := by
    unfold typeUse? at huse
    split at huse <;> cases huse <;> rfl
  refine follows_go h trivial ?_
  have hc := TypeProgress.consumed_step htype
  simpa [Progress.consumed,hempty,TypeProgress.consumed] using hc

theorem follows_stepItem (h : nest.Sound) {ended : Ended} (hs : stepItem nest t = some next) :
    Follows ⟨nest,.item ended⟩ t next := by
  cases beginning_of_stepItem hs with
  | keyword ht hp =>
    obtain ⟨hsound,hc⟩ := sound_stepItemKeyword hp
    exact follows_go h hsound (by rw [hc,Token.lexeme,ht]; rfl)
  | empty ht =>
    exact follows_close (Nest.closes_addEmpty h) (by simp [Token.lexeme,ht,Progress.consumed])
  | close ht hc =>
    exact follows_close (Nest.closes_close h hc) (by simp [Token.lexeme,ht,Progress.consumed])
  | value ht =>
    exact follows_go h trivial (by simp [Progress.consumed,Head.consumed,Token.lexeme,ht])
  | type huse htype => exact follows_type h huse htype

theorem consumed_stepAfterType {line : Nat} {use : TypeUse} {ref : TypeRef} {p : Progress}
    (h : stepAfterType line use ref t = some p) :
    p.Sound nest ∧ p.consumed = use.consumed ++ ref.derivation.yield ++ [t.lexeme] := by
  unfold stepAfterType at h
  split at h <;> cases h
  all_goals
    rename_i ht
    refine ⟨trivial,?_⟩
    simp [Progress.consumed,Head.consumed,TypeUse.consumed,TypeProgress.consumed,Token.lexeme,ht]

/-- What opens a body stands for the lexemes before it. -/
theorem follows_open {p : Progress} {after : Nest} (hn : after.Sound)
    (hc : after.consumed = nest.consumed ++ p.consumed ++ [t.lexeme]) :
    Follows ⟨nest,p⟩ t ⟨after,.item .own⟩ :=
  ⟨⟨hn,trivial⟩,by simp [State.consumed,Progress.consumed,hc]⟩

theorem follows_statement {p : Progress} {s : Statement} (h : nest.Sound)
    (hplace : nest.inner = .none ∧ nest.messages = []) (hs : Phrase .statement [s.derivation])
    (hc : s.derivation.yield = p.consumed ++ [t.lexeme]) :
    Follows ⟨nest,p⟩ t ⟨nest.addStatement s,.item .own⟩ :=
  follows_close (Nest.closes_addStatement h hs hplace.2 hplace.1) hc

theorem follows_finishNumbered {p : Progress} {n : Numbered} {settings : List Setting}
    (h : nest.Sound) (hn : n.Sound) (hss : ∀ s ∈ settings, s.Proper)
    (hp : p.consumed = n.consumed ++ yields (bracketed settings))
    (ht : t.terminal = .mark .semicolon) (hs : finishNumbered nest n settings = some next) :
    Follows ⟨nest,p⟩ t next := by
  obtain ⟨after,hadd,rfl⟩ := Option.map_eq_some_iff.mp hs
  exact follows_close (Nest.closes_addNumbered h hn hss hadd) (by simp [hp,Token.lexeme,ht])

theorem follows_finishReserved {p : Progress} {r : Reserved} (h : nest.Sound) (hr : r.Proper)
    (hp : p.consumed = .keyword .reservedKw :: yields (separate .comma r.members))
    (ht : t.terminal = .mark .semicolon) (hs : finishReserved nest r = some next) :
    Follows ⟨nest,p⟩ t next := by
  obtain ⟨after,hadd,rfl⟩ := Option.map_eq_some_iff.mp hs
  refine follows_close (Nest.closes_addReserved h hr hadd) ?_
  simp [Reserved.derivation,hp,Token.lexeme,ht]

theorem bracketed_concat (done : List Setting) (s : Setting) :
    yields (bracketed (done ++ [s])) =
      [.mark .openBracket] ++ followed .comma (Setting.rows done) ++ yields s.children
        ++ [.mark .closeBracket] := by
  have h : bracketed (done ++ [s]) = [node .fieldOptions ([leaf (.mark .openBracket)]
      ++ separate .comma (Setting.rows (done ++ [s])) ++ [leaf (.mark .closeBracket)])] := by
    cases done <;> rfl
  simp [h,yields_separate_concat,Setting.inBrackets]

theorem sound_goes {p q : Progress} (h : p.Goes t q) (hp : p.Sound nest) : q.Sound nest := by
  have hmore {done : List Setting} {s : Setting} (hdone : ∀ s' ∈ done, s'.Proper) (hs : s.Proper) :
      ∀ s' ∈ done ++ [s], s'.Proper := List.forall_mem_append.mpr ⟨hdone,by simpa using hs⟩
  cases h with
  | typed _ hs => exact (consumed_stepAfterType hs).1
  | setting hs => exact ⟨hp.1,hp.2.1,(OptionProgress.sound_step hp.2.2 hs).1⟩
  | settingComma hd =>
    exact ⟨hp.1,hmore hp.2.1 (OptionProgress.sound_of_done? hp.2.2 hd).1,trivial⟩
  | closeBracket hd => exact ⟨hp.1,hmore hp.2.1 (OptionProgress.sound_of_done? hp.2.2 hd).1⟩
  | option hs => exact (OptionProgress.sound_step hp hs).1
  | _ => simp_all [Progress.Sound,Numbered.Sound,OptionProgress.Sound]

theorem consumed_goes {p q : Progress} (h : p.Goes t q) (hp : p.Sound nest) :
    q.consumed = p.consumed ++ [t.lexeme] := by
  cases h with
  | type hs => simp [Progress.consumed,TypeProgress.consumed_step hs]
  | typed hd hs =>
    have hc := (@consumed_stepAfterType nest t _ _ _ _ hs).2
    rw [hc,Progress.consumed,TypeProgress.consumed_of_done? hd]
  | setting hs => simp [Progress.consumed,(OptionProgress.sound_step hp.2.2 hs).2]
  | settingComma hd ht =>
    have hc := (OptionProgress.sound_of_done? hp.2.2 hd).2
    simp [Progress.consumed,hc,Setting.inBrackets,Token.lexeme,ht]
  | closeBracket hd ht =>
    have hc := (OptionProgress.sound_of_done? hp.2.2 hd).2
    simp [Progress.consumed,hc,bracketed_concat,Token.lexeme,ht]
  | option hs => simp [Progress.consumed,(OptionProgress.sound_step hp hs).2]
  | @rangeComma done ht =>
    have hne : Range.rows done ≠ [] := fun he => hp (List.map_eq_nil_iff.mp he)
    simp [Progress.consumed,Token.lexeme,ht,← yields_separate_mark hne]
  | @nameComma names ht =>
    have hne : nameRows names ≠ [] := fun he => hp (List.map_eq_nil_iff.mp he)
    simp [Progress.consumed,Token.lexeme,ht,← yields_separate_mark hne]
  | _ =>
    rename_i ht
    simp [Progress.consumed,Token.lexeme,ht,ImportModifier.derivation,signLexemes,
      Numbered.consumed,Dotted.yield_extend,TypeUse.consumed,TypeProgress.consumed,
      yields_separate_concat]

theorem follows_said {p : Progress} {s : Statement} (h : nest.Sound) (hp : p.Sound nest)
    (hsaid : p.Says s) (ht : t.terminal = .mark .semicolon) :
    Follows ⟨nest,p⟩ t ⟨nest.addStatement s,.item .own⟩ := by
  cases hsaid with
  | syntaxIs literal =>
    refine follows_statement h hp (phrase_statement_iff.mpr (.inl ⟨literal,rfl⟩)) ?_
    simp [Statement.derivation,Progress.consumed,Token.lexeme,ht]
  | package name =>
    refine follows_statement h hp (phrase_statement_iff.mpr (.inr (.inl ⟨name,rfl⟩))) ?_
    simp [Statement.derivation,Progress.consumed,Token.lexeme,ht]
  | imports m literal =>
    have hphrase := phrase_statement_iff.mpr (.inr (.inr (.inl ⟨m,literal,rfl⟩)))
    refine follows_statement h hp hphrase ?_
    simp [Statement.derivation,Progress.consumed,Token.lexeme,ht]

theorem follows_reserves {p : Progress} {r : Reserved} (h : nest.Sound) (hp : p.Sound nest)
    (hreserves : p.Reserves r) (ht : t.terminal = .mark .semicolon)
    (hs : finishReserved nest r = some next) : Follows ⟨nest,p⟩ t next := by
  cases hreserves with
  | single done first =>
    refine follows_finishReserved h (by simp [Reserved.Proper,Reserved.members]) ?_ ht hs
    simp [Progress.consumed,Reserved.members,yields_separate_concat,Range.rows]
  | ranges done =>
    have hproper : (Reserved.ranges done).Proper := by
      simpa [Progress.Sound,Reserved.Proper,Reserved.members] using hp
    exact follows_finishReserved h hproper rfl ht hs
  | names names =>
    have hproper : (Reserved.names names).Proper := by
      simpa [Progress.Sound,Reserved.Proper,Reserved.members] using hp
    exact follows_finishReserved h hproper rfl ht hs

/-- Each step adds the lexeme of its token. -/
theorem follows_step {s : State} (h : s.Sound) (hs : s.step t = some next) :
    Follows s t next := by
  obtain ⟨nest,p⟩ := s
  have hn := h.nest
  have hp := h.progress
  replace hs := transition_of_step hs
  cases hs with
  | item hs => exact follows_stepItem hn hs
  | goes hgoes => exact follows_go hn (sound_goes hgoes hp) (consumed_goes hgoes hp)
  | statement hsaid ht => exact follows_said hn hp hsaid ht
  | message ht =>
    have hinner : nest.inner = .none := hp
    refine follows_open ⟨hn.statements,List.forall_mem_cons.mpr ⟨?_,hn.messages⟩,hn.inner⟩ ?_
    · simp [OpenMessage.Sound]
    · simp [Nest.consumed,OpenMessage.consumed,hinner,Inner.consumed,Progress.consumed,opening,
        Token.lexeme,ht]
  | enum ht | oneof ht =>
    have hinner : nest.inner = .none := hp
    refine follows_open ⟨hn.statements,hn.messages,by simp [Inner.Sound]⟩ ?_
    simp [Nest.consumed,hinner,Inner.consumed,Progress.consumed,opening,Token.lexeme,ht]
  | numbered hnumbers ht hs =>
    cases hnumbers with
    | bare n =>
      exact follows_finishNumbered hn hp (by simp) (by simp [Progress.consumed,bracketed]) ht hs
    | settings n settings => exact follows_finishNumbered hn hp.1 hp.2 rfl ht hs
  | option hd ht =>
    obtain ⟨hproper,hc⟩ := OptionProgress.sound_of_done? hp hd
    refine follows_close (Nest.closes_addOption hn hproper) ?_
    simp [Setting.alone,Progress.consumed,hc,Token.lexeme,ht]
  | reserved hreserves ht hs => exact follows_reserves hn hp hreserves ht hs

/-- Steps over tokens add their lexemes. -/
theorem sound_run {ts : List Token} {s s' : State} (h : s.Sound)
    (hs : ts.foldlM State.step s = some s') :
    s'.Sound ∧ s'.consumed = s.consumed ++ ts.map Token.lexeme := by
  rw [foldlM_eq_some_iff] at hs
  induction hs with
  | nil => exact ⟨h,(List.append_nil _).symm⟩
  | cons hmid _ ih =>
    have hf := follows_step h hmid
    obtain ⟨hsound,hc⟩ := ih hf.sound
    exact ⟨hsound,by simp [hc,hf.consumed]⟩

theorem sound_start : State.start.Sound where
  nest := ⟨by simp [start],by simp [start],trivial⟩
  progress := trivial

/-- Statements that may end where they do stand for all lexemes before. -/
theorem derivation_of_statements? {s : State} (h : s.Sound) {statements : List Statement}
    (hs : s.statements? = some statements) :
    (fileDerivation statements).Valid ∧ (fileDerivation statements).yield = s.consumed := by
  obtain ⟨nest,p⟩ := s
  unfold statements? at hs
  split at hs <;> cases hs
  rename_i hm hi hp
  simp only at hm hi hp
  constructor
  · refine valid_file_iff.mpr fun d hd => ?_
    obtain ⟨s,hs,rfl⟩ := List.mem_map.mp hd
    exact h.nest.statements s (List.mem_reverse.mp hs)
  · simp [fileDerivation,consumed,hp,Nest.consumed,hm,hi,Inner.consumed,Progress.consumed]

end State

end SchemaCodec.Grammar
