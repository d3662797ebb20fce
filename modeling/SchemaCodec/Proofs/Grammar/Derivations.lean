import SchemaCodec.Grammar.Tree
import SchemaCodec.Proofs.Grammar.Rules

/-! # Derivations of syntax trees

Every part of a syntax tree has the derivation that it stands for, and what follows a rule is the
derivation of such a part.
-/
namespace SchemaCodec.Grammar
open Grammar.Derivation

/-- Rows of derivations with a mark between neighbours. -/
def separate (m : Mark) : List (List Derivation) → List Derivation
  | [] => []
  | ds :: rest => ds ++ rest.flatMap fun es => leaf (.mark m) :: es

theorem separate_concat (m : Mark) (rows : List (List Derivation)) (ds : List Derivation) :
    separate m (rows ++ [ds]) = rows.flatMap (· ++ [leaf (.mark m)]) ++ ds := by
  have h (rows : List (List Derivation)) :
      rows.flatMap (fun es => leaf (.mark m) :: es) ++ leaf (.mark m) :: ds =
        leaf (.mark m) :: (rows.flatMap (· ++ [leaf (.mark m)]) ++ ds) := by
    induction rows with
    | nil => rfl
    | cons es rest ih => simp only [List.flatMap_cons,List.cons_append,List.append_assoc,ih,
        List.nil_append]
  cases rows with
  | nil => simp [separate]
  | cons es rest => simp [separate,h]

def Dotted.children (p : Dotted) : List Derivation :=
  separate .dot (p.words.map fun w => [leaf (.word w)])

def Dotted.derivation (p : Dotted) : Derivation := node .fullIdent p.children

def TypeRef.derivation (r : TypeRef) : Derivation :=
  node .typeRef ((if r.rooted then [leaf (.mark .dot)] else []) ++ r.path.children)

def OptionPart.children : OptionPart → List Derivation
  | word w => [leaf (.word w)]
  | extension ref => [leaf (.mark .openParen),ref.derivation,leaf (.mark .closeParen)]

def Sign.derivation : Sign → Derivation
  | minus => leaf (.mark .minus)
  | plus => leaf (.mark .plus)

def Number.derivation : Number → Derivation
  | int s => leaf (.int s)
  | float s => leaf (.float s)

def Constant.derivation : Constant → Derivation
  | path p => node .constant [p.derivation]
  | number sign n =>
    node .constant [node .signedNumber ((sign.map Sign.derivation).toList ++ [n.derivation])]
  | text literal => node .constant [leaf (.text literal)]

namespace Setting

def children (s : Setting) : List Derivation :=
  [node .optionName (separate .dot (s.name.map OptionPart.children)),leaf (.mark .equals),
    s.value.derivation]

/-- A setting in brackets behind a declaration. -/
def inBrackets (s : Setting) : Derivation := node .fieldOption s.children

/-- A setting as a statement or an item. -/
def alone (s : Setting) : Derivation :=
  node .option (leaf (.keyword .optionKw) :: s.children ++ [leaf (.mark .semicolon)])

end Setting

def bracketed : List Setting → List Derivation
  | [] => []
  | s :: rest =>
    [node .fieldOptions ([leaf (.mark .openBracket)]
      ++ separate .comma ((s :: rest).map fun s => [s.inBrackets])
      ++ [leaf (.mark .closeBracket)])]

def Slot.children (s : Slot) : List Derivation :=
  [leaf (.word s.name),leaf (.mark .equals),leaf (.int s.number)] ++ bracketed s.settings
    ++ [leaf (.mark .semicolon)]

def Label.derivation : Label → Derivation
  | repeated => node .label [leaf (.keyword .repeatedKw)]
  | optional => node .label [leaf (.keyword .optionalKw)]
  | required => node .label [leaf (.keyword .requiredKw)]

def ImportModifier.derivation : ImportModifier → Derivation
  | publicly => node .importModifier [leaf (.keyword .publicKw)]
  | weakly => node .importModifier [leaf (.keyword .weakKw)]

def FieldTree.derivation (f : FieldTree) : Derivation :=
  node .field ((f.label.map Label.derivation).toList ++ f.type.derivation :: f.slot.children)

def MapTree.derivation (m : MapTree) : Derivation :=
  node .mapField ([leaf (.keyword .mapKw),leaf (.mark .openAngle),m.key.derivation,
    leaf (.mark .comma),m.value.derivation,leaf (.mark .closeAngle)] ++ m.slot.children)

def MemberTree.derivation (m : MemberTree) : Derivation :=
  node .oneofField (m.type.derivation :: m.slot.children)

def ValueTree.derivation (v : ValueTree) : Derivation :=
  node .enumValue ([leaf (.word v.slot.name),leaf (.mark .equals),
    node .signedInt ((if v.negative then [leaf (.mark .minus)] else [])
      ++ [leaf (.int v.slot.number)])] ++ bracketed v.slot.settings ++ [leaf (.mark .semicolon)])

def RangeEnd.derivation : RangeEnd → Derivation
  | number s => node .rangeEnd [leaf (.int s)]
  | max => node .rangeEnd [leaf (.keyword .maxKw)]

def Range.derivation (r : Range) : Derivation :=
  node .range (leaf (.int r.first) ::
    match r.last with
    | none => []
    | some e => [leaf (.keyword .toKw),e.derivation])

def Reserved.members : Reserved → List (List Derivation)
  | ranges rs => rs.map fun r => [r.derivation]
  | names literals => literals.map fun s => [leaf (.text s)]

def Reserved.derivation (r : Reserved) : Derivation :=
  node .reserved ([leaf (.keyword .reservedKw)] ++ separate .comma r.members
    ++ [leaf (.mark .semicolon)])

def emptyDerivation : Derivation := leaf (.mark .semicolon)

/-- A declaration with a name and a body. -/
def block (r : Rule) (k : Keyword) (name : String) (body : List Derivation) : Derivation :=
  node r ([leaf (.keyword k),leaf (.word name),leaf (.mark .openBrace)] ++ body
    ++ [leaf (.mark .closeBrace)])

def OneofItem.derivation : OneofItem → Derivation
  | member m => m.derivation
  | option s => s.alone
  | empty => emptyDerivation

def EnumItem.derivation : EnumItem → Derivation
  | value v => v.derivation
  | option s => s.alone
  | reserved r => r.derivation
  | empty => emptyDerivation

def EnumTree.derivation (e : EnumTree) : Derivation :=
  block .enum .enumKw e.name (e.items.map EnumItem.derivation)

namespace MessageItem

mutual

def derivation : MessageItem → Derivation
  | field f => f.derivation
  | map m => m.derivation
  | oneof name items => block .oneof .oneofKw name (items.map OneofItem.derivation)
  | message _ name items => block .message .messageKw name (derivations items)
  | enum e => e.derivation
  | option s => s.alone
  | reserved r => r.derivation
  | empty => emptyDerivation

def derivations : List MessageItem → List Derivation
  | [] => []
  | item :: rest => item.derivation :: derivations rest

end

theorem derivations_eq_map (items : List MessageItem) :
    derivations items = items.map derivation := by
  induction items with
  | nil => rfl
  | cons item rest ih => rw [derivations,ih,List.map_cons]

end MessageItem

def Statement.derivation : Statement → Derivation
  | syntaxIs literal =>
    node .syntaxLine [leaf (.keyword .syntaxKw),leaf (.mark .equals),leaf (.text literal),
      leaf (.mark .semicolon)]
  | package name =>
    node .package [leaf (.keyword .packageKw),name.derivation,leaf (.mark .semicolon)]
  | imports modifier literal =>
    node .imports ([leaf (.keyword .importKw)]
      ++ (modifier.map ImportModifier.derivation).toList
      ++ [leaf (.text literal),leaf (.mark .semicolon)])
  | option s => s.alone
  | message _ name items =>
    block .message .messageKw name (items.map MessageItem.derivation)
  | enum e => e.derivation
  | empty => emptyDerivation

/-- A message is derived alike in a file and in a message. -/
theorem derivation_message (line : Nat) (name : String) (items : List MessageItem) :
    (Statement.message line name items).derivation =
      (MessageItem.message line name items).derivation := by
  rw [Statement.derivation,MessageItem.derivation,MessageItem.derivations_eq_map]

/-- The derivation of a whole file. -/
def fileDerivation (statements : List Statement) : Derivation :=
  node .file (statements.map Statement.derivation)

/-! ## What follows the rules -/

variable {ds : List Derivation}

theorem phrase_separated_iff {α : Type} {p : Pattern} {Q : α → Prop} {f : α → List Derivation}
    {m : Mark} (h : ∀ xs, Phrase p xs ↔ ∃ a, Q a ∧ xs = f a) :
    Phrase (.separated m p) ds ↔
      ∃ as : List α, as ≠ [] ∧ (∀ a ∈ as, Q a) ∧ ds = separate m (as.map f) := by
  have hmore (xs : List Derivation) : Phrase (.mark m * p) xs ↔
      ∃ a, Q a ∧ xs = leaf (.mark m) :: f a := by
    simp only [phrase_mul_iff,phrase_mark_iff,h]
    constructor
    · rintro ⟨_,_,rfl,⟨a,ha,rfl⟩,rfl⟩
      exact ⟨a,ha,rfl⟩
    · rintro ⟨a,ha,rfl⟩
      exact ⟨_,_,rfl,⟨a,ha,rfl⟩,rfl⟩
  rw [Pattern.separated,phrase_mul_iff]
  simp only [phrase_star_iff hmore,h]
  constructor
  · rintro ⟨_,_,⟨a,ha,rfl⟩,⟨as,has,rfl⟩,rfl⟩
    refine ⟨a :: as,List.cons_ne_nil _ _,List.forall_mem_cons.mpr ⟨ha,has⟩,?_⟩
    rw [List.map_cons,separate,List.flatMap_map]
  · rintro ⟨as,hne,has,rfl⟩
    obtain ⟨a,as,rfl⟩ := List.exists_cons_of_ne_nil hne
    obtain ⟨ha,hrest⟩ := List.forall_mem_cons.mp has
    refine ⟨f a,_,⟨a,ha,rfl⟩,⟨as,hrest,rfl⟩,?_⟩
    rw [List.map_cons,separate,List.flatMap_map]

theorem phrase_words_iff :
    Phrase (.separated .dot .word) ds ↔ ∃ p : Dotted, ds = p.children := by
  rw [phrase_separated_iff (Q := fun _ => True) (f := fun w => [leaf (.word w)]) (by simp)]
  constructor
  · rintro ⟨as,hne,-,rfl⟩
    obtain ⟨w,ws,rfl⟩ := List.exists_cons_of_ne_nil hne
    exact ⟨⟨w,ws⟩,rfl⟩
  · rintro ⟨p,rfl⟩
    exact ⟨p.words,List.cons_ne_nil _ _,fun _ _ => trivial,rfl⟩

@[simp] theorem phrase_fullIdent_iff :
    Phrase (.rule .fullIdent) ds ↔ ∃ p : Dotted, ds = [p.derivation] := by
  simp only [phrase_rule_iff,Rule.pattern,phrase_words_iff]
  constructor
  · rintro ⟨_,⟨p,rfl⟩,rfl⟩
    exact ⟨p,rfl⟩
  · rintro ⟨p,rfl⟩
    exact ⟨_,⟨p,rfl⟩,rfl⟩

@[simp] theorem phrase_typeRef_iff :
    Phrase (.rule .typeRef) ds ↔ ∃ r : TypeRef, ds = [r.derivation] := by
  simp only [phrase_rule_iff,Rule.pattern,phrase_mul_iff,phrase_optional_iff,phrase_mark_iff,
    phrase_words_iff]
  constructor
  · rintro ⟨_,⟨_,_,rfl | rfl,⟨p,rfl⟩,rfl⟩,rfl⟩
    · exact ⟨⟨false,p⟩,rfl⟩
    · exact ⟨⟨true,p⟩,rfl⟩
  · rintro ⟨⟨_ | _,p⟩,rfl⟩
    · exact ⟨_,⟨[],_,.inl rfl,⟨p,rfl⟩,rfl⟩,rfl⟩
    · exact ⟨_,⟨_,_,.inr rfl,⟨p,rfl⟩,rfl⟩,rfl⟩

@[simp] theorem phrase_optionName_iff :
    Phrase (.rule .optionName) ds ↔ ∃ name : List OptionPart, name ≠ [] ∧
      ds = [node .optionName (separate .dot (name.map OptionPart.children))] := by
  have hpart (xs : List Derivation) :
      Phrase .optionPart xs ↔ ∃ part : OptionPart, True ∧ xs = part.children := by
    simp only [Pattern.optionPart,phrase_add_iff,phrase_mul_iff,phrase_word_iff,phrase_mark_iff,
      phrase_typeRef_iff,true_and]
    constructor
    · rintro (⟨w,rfl⟩ | ⟨_,_,⟨_,_,rfl,⟨r,rfl⟩,rfl⟩,rfl,rfl⟩)
      · exact ⟨.word w,rfl⟩
      · exact ⟨.extension r,rfl⟩
    · rintro ⟨w | r,rfl⟩
      · exact .inl ⟨w,rfl⟩
      · exact .inr ⟨_,_,⟨_,_,rfl,⟨r,rfl⟩,rfl⟩,rfl,rfl⟩
  simp only [phrase_rule_iff,Rule.pattern,phrase_separated_iff hpart]
  constructor
  · rintro ⟨_,⟨name,hne,-,rfl⟩,rfl⟩
    exact ⟨name,hne,rfl⟩
  · rintro ⟨name,hne,rfl⟩
    exact ⟨_,⟨name,hne,fun _ _ => trivial,rfl⟩,rfl⟩

@[simp] theorem phrase_signedNumber_iff :
    Phrase (.rule .signedNumber) ds ↔ ∃ (sign : Option Sign) (n : Number),
      ds = [node .signedNumber ((sign.map Sign.derivation).toList ++ [n.derivation])] := by
  simp only [phrase_rule_iff,Rule.pattern,phrase_mul_iff,phrase_optional_iff,phrase_add_iff,
    phrase_mark_iff,phrase_int_iff,phrase_float_iff]
  constructor
  · rintro ⟨_,⟨_,_,rfl | rfl | rfl,⟨s,rfl⟩ | ⟨s,rfl⟩,rfl⟩,rfl⟩
    · exact ⟨none,.int s,rfl⟩
    · exact ⟨none,.float s,rfl⟩
    · exact ⟨some .minus,.int s,rfl⟩
    · exact ⟨some .minus,.float s,rfl⟩
    · exact ⟨some .plus,.int s,rfl⟩
    · exact ⟨some .plus,.float s,rfl⟩
  · rintro ⟨sign,n,rfl⟩
    refine ⟨_,⟨_,_,?_,?_,rfl⟩,rfl⟩
    · rcases sign with _ | ⟨_ | _⟩ <;> simp [Sign.derivation]
    · cases n <;> simp [Number.derivation]

@[simp] theorem phrase_constant_iff :
    Phrase (.rule .constant) ds ↔ ∃ c : Constant, ds = [c.derivation] := by
  simp only [phrase_rule_iff (r := .constant),Rule.pattern,phrase_add_iff,phrase_fullIdent_iff,
    phrase_signedNumber_iff,phrase_text_iff]
  constructor
  · rintro ⟨_,(⟨p,rfl⟩ | ⟨sign,n,rfl⟩) | ⟨s,rfl⟩,rfl⟩
    · exact ⟨.path p,rfl⟩
    · exact ⟨.number sign n,rfl⟩
    · exact ⟨.text s,rfl⟩
  · rintro ⟨p | ⟨sign,n⟩ | s,rfl⟩
    · exact ⟨_,.inl (.inl ⟨p,rfl⟩),rfl⟩
    · exact ⟨_,.inl (.inr ⟨sign,n,rfl⟩),rfl⟩
    · exact ⟨_,.inr ⟨s,rfl⟩,rfl⟩

/-- A setting needs a name. -/
def Setting.Proper (s : Setting) : Prop := s.name ≠ []

theorem phrase_setting_iff :
    Phrase (.rule .optionName * .mark .equals * .rule .constant) ds ↔
      ∃ s : Setting, s.Proper ∧ ds = s.children := by
  simp only [phrase_mul_iff,phrase_optionName_iff,phrase_mark_iff,phrase_constant_iff]
  constructor
  · rintro ⟨_,_,⟨_,_,⟨name,hne,rfl⟩,rfl,rfl⟩,⟨c,rfl⟩,rfl⟩
    exact ⟨⟨name,c⟩,hne,rfl⟩
  · rintro ⟨s,hne,rfl⟩
    exact ⟨_,_,⟨_,_,⟨s.name,hne,rfl⟩,rfl,rfl⟩,⟨s.value,rfl⟩,rfl⟩

@[simp] theorem phrase_fieldOption_iff :
    Phrase (.rule .fieldOption) ds ↔ ∃ s : Setting, s.Proper ∧ ds = [s.inBrackets] := by
  rw [phrase_rule_iff,Rule.pattern]
  simp only [phrase_setting_iff]
  constructor
  · rintro ⟨_,⟨s,hs,rfl⟩,rfl⟩
    exact ⟨s,hs,rfl⟩
  · rintro ⟨s,hs,rfl⟩
    exact ⟨_,⟨s,hs,rfl⟩,rfl⟩

@[simp] theorem phrase_option_iff :
    Phrase (.rule .option) ds ↔ ∃ s : Setting, s.Proper ∧ ds = [s.alone] := by
  simp only [phrase_rule_iff (r := .option),Rule.pattern,phrase_mul_iff,phrase_keyword_iff,
    phrase_optionName_iff,phrase_mark_iff,phrase_constant_iff]
  constructor
  · rintro ⟨_,⟨_,_,⟨_,_,⟨_,_,⟨_,_,rfl,⟨name,hne,rfl⟩,rfl⟩,rfl,rfl⟩,⟨c,rfl⟩,rfl⟩,rfl,rfl⟩,rfl⟩
    exact ⟨⟨name,c⟩,hne,rfl⟩
  · rintro ⟨s,hne,rfl⟩
    exact ⟨_,⟨_,_,⟨_,_,⟨_,_,⟨_,_,rfl,⟨s.name,hne,rfl⟩,rfl⟩,rfl,rfl⟩,⟨s.value,rfl⟩,rfl⟩,rfl,rfl⟩,
      rfl⟩

@[simp] theorem phrase_fieldOptions_iff :
    Phrase (.optional (.rule .fieldOptions)) ds ↔
      ∃ settings : List Setting, (∀ s ∈ settings, s.Proper) ∧ ds = bracketed settings := by
  simp only [phrase_optional_iff,phrase_rule_iff (r := .fieldOptions),Rule.pattern,phrase_mul_iff,
    phrase_mark_iff,phrase_separated_iff fun _ => phrase_fieldOption_iff]
  constructor
  · rintro (rfl | ⟨_,⟨_,_,⟨_,_,rfl,⟨ss,hne,hss,rfl⟩,rfl⟩,rfl,rfl⟩,rfl⟩)
    · exact ⟨[],by simp,rfl⟩
    · obtain ⟨s,ss,rfl⟩ := List.exists_cons_of_ne_nil hne
      exact ⟨s :: ss,hss,rfl⟩
  · rintro ⟨_ | ⟨s,ss⟩,hss,rfl⟩
    · exact .inl rfl
    · exact .inr ⟨_,⟨_,_,⟨_,_,rfl,⟨s :: ss,List.cons_ne_nil _ _,hss,rfl⟩,rfl⟩,rfl,rfl⟩,rfl⟩

def Slot.Proper (s : Slot) : Prop := ∀ t ∈ s.settings, t.Proper

@[simp] theorem phrase_slot_iff : Phrase .slot ds ↔ ∃ s : Slot, s.Proper ∧ ds = s.children := by
  simp only [Pattern.slot,phrase_mul_iff,phrase_word_iff,phrase_mark_iff,phrase_int_iff,
    phrase_fieldOptions_iff]
  constructor
  · rintro ⟨_,_,⟨_,_,⟨_,_,⟨_,_,⟨name,rfl⟩,rfl,rfl⟩,⟨number,rfl⟩,rfl⟩,⟨ss,hss,rfl⟩,rfl⟩,rfl,rfl⟩
    exact ⟨⟨name,number,ss⟩,hss,rfl⟩
  · rintro ⟨s,hs,rfl⟩
    exact ⟨_,_,⟨_,_,⟨_,_,⟨_,_,⟨s.name,rfl⟩,rfl,rfl⟩,⟨s.number,rfl⟩,rfl⟩,⟨s.settings,hs,rfl⟩,rfl⟩,
      rfl,rfl⟩

@[simp] theorem phrase_label_iff :
    Phrase (.optional (.rule .label)) ds ↔
      ∃ label : Option Label, ds = (label.map Label.derivation).toList := by
  simp only [phrase_optional_iff,phrase_rule_iff,Rule.pattern,phrase_add_iff,phrase_keyword_iff]
  constructor
  · rintro (rfl | ⟨_,(rfl | rfl) | rfl,rfl⟩)
    · exact ⟨none,rfl⟩
    · exact ⟨some .repeated,rfl⟩
    · exact ⟨some .optional,rfl⟩
    · exact ⟨some .required,rfl⟩
  · rintro ⟨_ | ⟨_ | _ | _⟩,rfl⟩ <;> simp [Label.derivation]

@[simp] theorem phrase_importModifier_iff :
    Phrase (.optional (.rule .importModifier)) ds ↔
      ∃ modifier : Option ImportModifier, ds = (modifier.map ImportModifier.derivation).toList := by
  simp only [phrase_optional_iff,phrase_rule_iff,Rule.pattern,phrase_add_iff,phrase_keyword_iff]
  constructor
  · rintro (rfl | ⟨_,rfl | rfl,rfl⟩)
    · exact ⟨none,rfl⟩
    · exact ⟨some .publicly,rfl⟩
    · exact ⟨some .weakly,rfl⟩
  · rintro ⟨_ | ⟨_ | _⟩,rfl⟩ <;> simp [ImportModifier.derivation]

@[simp] theorem phrase_field_iff :
    Phrase (.rule .field) ds ↔ ∃ f : FieldTree, f.slot.Proper ∧ ds = [f.derivation] := by
  simp only [phrase_rule_iff (r := .field),Rule.pattern,phrase_mul_iff,phrase_label_iff,
    phrase_typeRef_iff,phrase_slot_iff]
  constructor
  · rintro ⟨_,⟨_,_,⟨_,_,⟨label,rfl⟩,⟨type,rfl⟩,rfl⟩,⟨slot,hs,rfl⟩,rfl⟩,rfl⟩
    exact ⟨⟨0,label,type,slot⟩,hs,by simp [FieldTree.derivation]⟩
  · rintro ⟨f,hs,rfl⟩
    exact ⟨_,⟨_,_,⟨_,_,⟨f.label,rfl⟩,⟨f.type,rfl⟩,rfl⟩,⟨f.slot,hs,rfl⟩,rfl⟩,
      by simp [FieldTree.derivation]⟩

@[simp] theorem phrase_mapField_iff :
    Phrase (.rule .mapField) ds ↔ ∃ m : MapTree, m.slot.Proper ∧ ds = [m.derivation] := by
  simp only [phrase_rule_iff (r := .mapField),Rule.pattern,phrase_mul_iff,phrase_keyword_iff,
    phrase_mark_iff,phrase_typeRef_iff,phrase_slot_iff]
  constructor
  · rintro ⟨_,⟨_,_,⟨_,_,⟨_,_,⟨_,_,⟨_,_,⟨_,_,rfl,rfl,rfl⟩,⟨key,rfl⟩,rfl⟩,rfl,rfl⟩,⟨value,rfl⟩,rfl⟩,
      rfl,rfl⟩,⟨slot,hs,rfl⟩,rfl⟩,rfl⟩
    exact ⟨⟨0,key,value,slot⟩,hs,rfl⟩
  · rintro ⟨m,hs,rfl⟩
    exact ⟨_,⟨_,_,⟨_,_,⟨_,_,⟨_,_,⟨_,_,⟨_,_,rfl,rfl,rfl⟩,⟨m.key,rfl⟩,rfl⟩,rfl,rfl⟩,⟨m.value,rfl⟩,
      rfl⟩,rfl,rfl⟩,⟨m.slot,hs,rfl⟩,rfl⟩,rfl⟩

@[simp] theorem phrase_oneofField_iff :
    Phrase (.rule .oneofField) ds ↔ ∃ m : MemberTree, m.slot.Proper ∧ ds = [m.derivation] := by
  simp only [phrase_rule_iff (r := .oneofField),Rule.pattern,phrase_mul_iff,phrase_typeRef_iff,
    phrase_slot_iff]
  constructor
  · rintro ⟨_,⟨_,_,⟨type,rfl⟩,⟨slot,hs,rfl⟩,rfl⟩,rfl⟩
    exact ⟨⟨0,type,slot⟩,hs,rfl⟩
  · rintro ⟨m,hs,rfl⟩
    exact ⟨_,⟨_,_,⟨m.type,rfl⟩,⟨m.slot,hs,rfl⟩,rfl⟩,rfl⟩

@[simp] theorem phrase_signedInt_iff :
    Phrase (.rule .signedInt) ds ↔ ∃ (negative : Bool) (s : String),
      ds = [node .signedInt ((if negative then [leaf (.mark .minus)] else [])
        ++ [leaf (.int s)])] := by
  simp only [phrase_rule_iff,Rule.pattern,phrase_mul_iff,phrase_optional_iff,phrase_mark_iff,
    phrase_int_iff]
  constructor
  · rintro ⟨_,⟨_,_,rfl | rfl,⟨s,rfl⟩,rfl⟩,rfl⟩
    · exact ⟨false,s,rfl⟩
    · exact ⟨true,s,rfl⟩
  · rintro ⟨_ | _,s,rfl⟩ <;> simp

@[simp] theorem phrase_enumValue_iff :
    Phrase (.rule .enumValue) ds ↔ ∃ v : ValueTree, v.slot.Proper ∧ ds = [v.derivation] := by
  simp only [phrase_rule_iff (r := .enumValue),Rule.pattern,phrase_mul_iff,phrase_word_iff,
    phrase_mark_iff,phrase_signedInt_iff,phrase_fieldOptions_iff]
  constructor
  · rintro ⟨_,⟨_,_,⟨_,_,⟨_,_,⟨_,_,⟨name,rfl⟩,rfl,rfl⟩,⟨negative,number,rfl⟩,rfl⟩,⟨ss,hss,rfl⟩,rfl⟩,
      rfl,rfl⟩,rfl⟩
    exact ⟨⟨0,negative,⟨name,number,ss⟩⟩,hss,rfl⟩
  · rintro ⟨v,hs,rfl⟩
    exact ⟨_,⟨_,_,⟨_,_,⟨_,_,⟨_,_,⟨v.slot.name,rfl⟩,rfl,rfl⟩,⟨v.negative,v.slot.number,rfl⟩,rfl⟩,
      ⟨v.slot.settings,hs,rfl⟩,rfl⟩,rfl,rfl⟩,rfl⟩

@[simp] theorem phrase_range_iff :
    Phrase (.rule .range) ds ↔ ∃ r : Range, ds = [r.derivation] := by
  simp only [phrase_rule_iff,Rule.pattern,phrase_mul_iff,phrase_optional_iff,phrase_add_iff,
    phrase_keyword_iff,phrase_int_iff]
  constructor
  · rintro ⟨_,⟨_,_,⟨first,rfl⟩,rfl | ⟨_,_,rfl,⟨_,⟨s,rfl⟩ | rfl,rfl⟩,rfl⟩,rfl⟩,rfl⟩
    · exact ⟨⟨first,none⟩,rfl⟩
    · exact ⟨⟨first,some (.number s)⟩,rfl⟩
    · exact ⟨⟨first,some .max⟩,rfl⟩
  · rintro ⟨⟨first,_ | ⟨s | _⟩⟩,rfl⟩ <;> simp [Range.derivation,RangeEnd.derivation]

/-- Reserved numbers or names, at least one. -/
def Reserved.Proper (r : Reserved) : Prop := r.members ≠ []

@[simp] theorem phrase_reserved_iff :
    Phrase (.rule .reserved) ds ↔ ∃ r : Reserved, r.Proper ∧ ds = [r.derivation] := by
  have hrange (xs : List Derivation) :
      Phrase (.rule .range) xs ↔ ∃ r : Range, True ∧ xs = [r.derivation] := by simp
  have hname (xs : List Derivation) :
      Phrase .text xs ↔ ∃ s : String, True ∧ xs = [leaf (.text s)] := by simp
  simp only [phrase_rule_iff (r := .reserved),Rule.pattern,phrase_mul_iff,phrase_add_iff,
    phrase_keyword_iff,phrase_mark_iff,phrase_separated_iff hrange,phrase_separated_iff hname]
  constructor
  · rintro ⟨_,⟨_,_,⟨_,_,rfl,⟨rs,hne,-,rfl⟩ | ⟨ls,hne,-,rfl⟩,rfl⟩,rfl,rfl⟩,rfl⟩
    · exact ⟨.ranges rs,by simpa [Reserved.Proper,Reserved.members] using hne,rfl⟩
    · exact ⟨.names ls,by simpa [Reserved.Proper,Reserved.members] using hne,rfl⟩
  · rintro ⟨rs | ls,hne,rfl⟩
    · have hne' : rs ≠ [] := by simpa [Reserved.Proper,Reserved.members] using hne
      exact ⟨_,⟨_,_,⟨_,_,rfl,.inl ⟨rs,hne',fun _ _ => trivial,rfl⟩,rfl⟩,rfl,rfl⟩,rfl⟩
    · have hne' : ls ≠ [] := by simpa [Reserved.Proper,Reserved.members] using hne
      exact ⟨_,⟨_,_,⟨_,_,rfl,.inr ⟨ls,hne',fun _ _ => trivial,rfl⟩,rfl⟩,rfl,rfl⟩,rfl⟩

/-- Only single derivations match. -/
def Single (p : Pattern) : Prop := ∀ xs, Phrase p xs → ∃ d, xs = [d]

theorem single_rule (r : Rule) : Single (.rule r) := by
  intro xs h
  obtain ⟨_,-,rfl⟩ := phrase_rule_iff.mp h
  exact ⟨_,rfl⟩

theorem single_mark (m : Mark) : Single (.mark m) := fun _ h => ⟨_,phrase_mark_iff.mp h⟩

theorem Single.add {p q : Pattern} (hp : Single p) (hq : Single q) : Single (p + q) :=
  fun xs h => (phrase_add_iff.mp h).elim (hp xs) (hq xs)

theorem single_statement : Single .statement :=
  (((((single_rule _).add (single_rule _)).add (single_rule _)).add (single_rule _)).add
    (single_rule _)).add (single_rule _) |>.add (single_mark _)

theorem single_messageItem : Single .messageItem :=
  ((((((single_rule _).add (single_rule _)).add (single_rule _)).add (single_rule _)).add
    (single_rule _)).add (single_rule _)).add (single_rule _) |>.add (single_mark _)

theorem single_oneofItem : Single .oneofItem :=
  ((single_rule _).add (single_rule _)).add (single_mark _)

theorem single_enumItem : Single .enumItem :=
  (((single_rule _).add (single_rule _)).add (single_rule _)).add (single_mark _)

theorem Single.phrase_iff {p : Pattern} (hp : Single p) (xs : List Derivation) :
    Phrase p xs ↔ ∃ d, Phrase p [d] ∧ xs = [d] := by
  constructor
  · intro h
    obtain ⟨d,rfl⟩ := hp xs h
    exact ⟨d,h,rfl⟩
  · rintro ⟨d,h,rfl⟩
    exact h

theorem Single.phrase_star_iff {p : Pattern} (hp : Single p) :
    Phrase (.star p) ds ↔ ∀ d ∈ ds, Phrase p [d] := by
  rw [Grammar.phrase_star_iff hp.phrase_iff]
  constructor
  · rintro ⟨as,has,rfl⟩
    simpa using has
  · exact fun h => ⟨ds,h,by simp⟩

/-- The rule of a declaration with a name and a body of such items. -/
def IsBlock (r : Rule) (k : Keyword) (item : Pattern) : Prop :=
  r.pattern = .keyword k * .word * .mark .openBrace * .star item * .mark .closeBrace

theorem phrase_block_iff {r : Rule} {k : Keyword} {item : Pattern} (hr : IsBlock r k item)
    (hitem : Single item) :
    Phrase (.rule r) ds ↔
      ∃ name body, (∀ d ∈ body, Phrase item [d]) ∧ ds = [block r k name body] := by
  rw [IsBlock] at hr
  simp only [phrase_rule_iff,hr,phrase_mul_iff,phrase_keyword_iff,phrase_word_iff,phrase_mark_iff,
    hitem.phrase_star_iff]
  constructor
  · rintro ⟨_,⟨_,_,⟨_,_,⟨_,_,⟨_,_,rfl,⟨name,rfl⟩,rfl⟩,rfl,rfl⟩,hb,rfl⟩,rfl,rfl⟩,rfl⟩
    exact ⟨name,_,hb,rfl⟩
  · rintro ⟨name,body,hb,rfl⟩
    exact ⟨_,⟨_,_,⟨_,_,⟨_,_,⟨_,_,rfl,⟨name,rfl⟩,rfl⟩,rfl,rfl⟩,hb,rfl⟩,rfl,rfl⟩,rfl⟩

theorem phrase_message_iff : Phrase (.rule .message) ds ↔ ∃ name body,
    (∀ d ∈ body, Phrase .messageItem [d]) ∧ ds = [block .message .messageKw name body] :=
  phrase_block_iff rfl single_messageItem

theorem phrase_oneof_iff : Phrase (.rule .oneof) ds ↔ ∃ name body,
    (∀ d ∈ body, Phrase .oneofItem [d]) ∧ ds = [block .oneof .oneofKw name body] :=
  phrase_block_iff rfl single_oneofItem

theorem phrase_enum_iff : Phrase (.rule .enum) ds ↔ ∃ name body,
    (∀ d ∈ body, Phrase .enumItem [d]) ∧ ds = [block .enum .enumKw name body] :=
  phrase_block_iff rfl single_enumItem

theorem phrase_oneofItem_iff {d : Derivation} : Phrase .oneofItem [d] ↔
    (∃ m : MemberTree, m.slot.Proper ∧ d = m.derivation) ∨
      (∃ s : Setting, s.Proper ∧ d = s.alone) ∨ d = emptyDerivation := by
  simp only [Pattern.oneofItem,phrase_add_iff,phrase_oneofField_iff,phrase_option_iff,
    phrase_mark_iff,List.cons.injEq,and_true,or_assoc,emptyDerivation]

theorem phrase_enumItem_iff {d : Derivation} : Phrase .enumItem [d] ↔
    (∃ v : ValueTree, v.slot.Proper ∧ d = v.derivation) ∨
      (∃ s : Setting, s.Proper ∧ d = s.alone) ∨
      (∃ r : Reserved, r.Proper ∧ d = r.derivation) ∨ d = emptyDerivation := by
  simp only [Pattern.enumItem,phrase_add_iff,phrase_enumValue_iff,phrase_option_iff,
    phrase_reserved_iff,phrase_mark_iff,List.cons.injEq,and_true,or_assoc,emptyDerivation]

theorem phrase_messageItem_iff {d : Derivation} : Phrase .messageItem [d] ↔
    (∃ f : FieldTree, f.slot.Proper ∧ d = f.derivation) ∨
      (∃ m : MapTree, m.slot.Proper ∧ d = m.derivation) ∨
      Phrase (.rule .oneof) [d] ∨ Phrase (.rule .message) [d] ∨ Phrase (.rule .enum) [d] ∨
      (∃ s : Setting, s.Proper ∧ d = s.alone) ∨
      (∃ r : Reserved, r.Proper ∧ d = r.derivation) ∨ d = emptyDerivation := by
  simp only [Pattern.messageItem,phrase_add_iff,phrase_field_iff,phrase_mapField_iff,
    phrase_option_iff,phrase_reserved_iff,phrase_mark_iff,List.cons.injEq,and_true,or_assoc,
    emptyDerivation]

theorem phrase_statement_iff {d : Derivation} : Phrase .statement [d] ↔
    (∃ literal, d = (Statement.syntaxIs literal).derivation) ∨
      (∃ name, d = (Statement.package name).derivation) ∨
      (∃ modifier literal, d = (Statement.imports modifier literal).derivation) ∨
      (∃ s : Setting, s.Proper ∧ d = s.alone) ∨
      Phrase (.rule .message) [d] ∨ Phrase (.rule .enum) [d] ∨ d = emptyDerivation := by
  have hversion : Phrase (.rule .syntaxLine) [d] ↔
      ∃ literal, d = (Statement.syntaxIs literal).derivation := by
    simp only [phrase_rule_iff,Rule.pattern,phrase_mul_iff,phrase_keyword_iff,phrase_mark_iff,
      phrase_text_iff,List.cons.injEq,and_true]
    constructor
    · rintro ⟨_,⟨_,_,⟨_,_,⟨_,_,rfl,rfl,rfl⟩,⟨s,rfl⟩,rfl⟩,rfl,rfl⟩,rfl⟩
      exact ⟨s,rfl⟩
    · rintro ⟨s,rfl⟩
      exact ⟨_,⟨_,_,⟨_,_,⟨_,_,rfl,rfl,rfl⟩,⟨s,rfl⟩,rfl⟩,rfl,rfl⟩,rfl⟩
  have hpackage : Phrase (.rule .package) [d] ↔
      ∃ name, d = (Statement.package name).derivation := by
    simp only [phrase_rule_iff (r := .package),Rule.pattern,phrase_mul_iff,phrase_keyword_iff,
      phrase_mark_iff,phrase_fullIdent_iff,List.cons.injEq,and_true]
    constructor
    · rintro ⟨_,⟨_,_,⟨_,_,rfl,⟨p,rfl⟩,rfl⟩,rfl,rfl⟩,rfl⟩
      exact ⟨p,rfl⟩
    · rintro ⟨p,rfl⟩
      exact ⟨_,⟨_,_,⟨_,_,rfl,⟨p,rfl⟩,rfl⟩,rfl,rfl⟩,rfl⟩
  have himports : Phrase (.rule .imports) [d] ↔
      ∃ modifier literal, d = (Statement.imports modifier literal).derivation := by
    simp only [phrase_rule_iff (r := .imports),Rule.pattern,phrase_mul_iff,phrase_keyword_iff,
      phrase_mark_iff,phrase_importModifier_iff,phrase_text_iff,List.cons.injEq,and_true]
    constructor
    · rintro ⟨_,⟨_,_,⟨_,_,⟨_,_,rfl,⟨m,rfl⟩,rfl⟩,⟨s,rfl⟩,rfl⟩,rfl,rfl⟩,rfl⟩
      exact ⟨m,s,by simp [Statement.derivation]⟩
    · rintro ⟨m,s,rfl⟩
      exact ⟨_,⟨_,_,⟨_,_,⟨_,_,rfl,⟨m,rfl⟩,rfl⟩,⟨s,rfl⟩,rfl⟩,rfl,rfl⟩,by simp [Statement.derivation]⟩
  simp only [Pattern.statement,phrase_add_iff,hversion,hpackage,himports,phrase_option_iff,
    phrase_mark_iff,List.cons.injEq,and_true,or_assoc,emptyDerivation]

theorem phrase_statement_of_rule {r : Rule}
    (hr : r ∈ [.syntaxLine,.package,.imports,.option,.message,.enum])
    (h : Phrase (.rule r) ds) : Phrase .statement ds := by
  simp only [List.mem_cons,List.not_mem_nil,or_false] at hr
  simp only [Pattern.statement,phrase_add_iff]
  rcases hr with rfl | rfl | rfl | rfl | rfl | rfl <;> simp only [h,true_or,or_true]

theorem phrase_messageItem_of_rule {r : Rule}
    (hr : r ∈ [.field,.mapField,.oneof,.message,.enum,.option,.reserved])
    (h : Phrase (.rule r) ds) : Phrase .messageItem ds := by
  simp only [List.mem_cons,List.not_mem_nil,or_false] at hr
  simp only [Pattern.messageItem,phrase_add_iff]
  rcases hr with rfl | rfl | rfl | rfl | rfl | rfl | rfl <;> simp only [h,true_or,or_true]

theorem valid_file_iff : (node .file ds).Valid ↔ ∀ d ∈ ds, Phrase .statement [d] := by
  rw [valid_node_iff,Rule.pattern,single_statement.phrase_star_iff]

end SchemaCodec.Grammar
