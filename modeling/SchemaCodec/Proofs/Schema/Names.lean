import SchemaCodec.Proofs.FileTree
import SchemaCodec.Proofs.Schema.Literals
import SchemaCodec.Proofs.Schema.Validation

/-! # Names in accepted schemas

Whatever an accepted schema names is a word of the text that names it: a declaration, a field, a
oneof, a value or a part of the package. So no name is empty, and the kind of every field can be
told.
-/
namespace SchemaCodec
open Grammar Grammar.Derivation

def IsName (name : String) : Prop := IsWord name.toList

instance (name : String) : Decidable (IsName name) := inferInstanceAs (Decidable (IsWord _))

theorem IsName.ne_empty {name : String} (h : IsName name) : name ≠ "" := by
  rintro rfl
  obtain ⟨c,rest,-,-,he⟩ := h
  cases he

/-- A field as texts declare it. -/
structure Field.Named (f : Field) : Prop where
  name : IsName f.name
  group : ∀ g, f.oneof = some g → IsName g
  key : f.cardinality = .map → ∃ k key, f.key = some k ∧ k.kind = .ok key ∧ key.isMapKey = true

/-- A declaration as texts declare it, with its fields if it is a message. -/
structure Declaration.Named (d : Declaration) : Prop where
  fullName : d.fullName ≠ ""
  fields : ∀ m, d = .message m → ∀ f ∈ m.fields, f.Named

/-- A character of a word, or a dot between words. -/
def IsPathChar (c : Char) : Prop := isWordPart c = true ∨ c = '.'

/-- A declaration as texts spell it: whatever it names is a word, and the words of its full name are
joined by dots. -/
structure Declaration.Spelled (d : Declaration) : Prop where
  named : d.Named
  path : ∀ c ∈ d.fullName.toList, IsPathChar c
  values : ∀ e, d = .enum e → ∀ v ∈ e.values, IsName v.name

/-- A package as texts spell it: none, or words joined by dots. -/
def IsPackage (package : String) : Prop :=
  package = "" ∨ ∃ p : Dotted, (∀ w ∈ p.words, IsName w) ∧ package = Draft.ofDotted p

section Paths

theorem IsName.isWordPart {name : String} (h : IsName name) :
    ∀ c ∈ name.toList, isWordPart c = true := by
  obtain ⟨c,rest,hc,hrest,hname⟩ := h
  have hpart : Grammar.isWordPart c = true := by
    simp only [isWordStart,Bool.or_eq_true] at hc
    rcases hc with hc | hc <;> simp [Grammar.isWordPart,Char.isAlphanum,hc]
  rw [hname]
  exact List.forall_mem_cons.mpr ⟨hpart,hrest⟩

theorem IsName.path {name : String} (h : IsName name) : ∀ c ∈ name.toList, IsPathChar c :=
  fun c hc => .inl (h.isWordPart c hc)

theorem IsPackage.path {package : String} (h : IsPackage package) :
    ∀ c ∈ package.toList, IsPathChar c := by
  obtain rfl | ⟨p,hp,rfl⟩ := h
  · simp
  · intro c hc
    rw [Draft.ofDotted,Text.joinStrings,String.toList_ofList] at hc
    rcases Text.mem_of_mem_join hc with hc | ⟨_,hpiece,hc⟩
    · exact .inr (List.mem_singleton.mp hc)
    · obtain ⟨w,hw,rfl⟩ := List.mem_map.mp hpiece
      exact (hp w hw).path c hc

theorem qualify_path {scope name : String} (hs : ∀ c ∈ scope.toList, IsPathChar c)
    (hn : IsName name) : ∀ c ∈ (qualify scope name).toList, IsPathChar c := by
  unfold qualify
  split
  · exact hn.path
  · intro c hc
    rw [String.toList_append,String.toList_append] at hc
    rcases List.mem_append.mp hc with hc | hc
    · rcases List.mem_append.mp hc with hc | hc
      · exact hs c hc
      · exact .inr (List.mem_singleton.mp hc)
    · exact hn.path c hc

end Paths

section Words
variable {d c : Derivation}

theorem mem_yield_of_mem_children {l : Lexeme} (hc : c ∈ d.children) (hl : l ∈ c.yield) :
    l ∈ d.yield := by
  cases d with
  | leaf l => simp [children] at hc
  | node r cs =>
    rw [yield_node,yields_eq_flatMap]
    exact List.mem_flatMap.mpr ⟨c,hc,hl⟩

theorem word_mem_yield {w : String} (h : w ∈ d.words) : .word w ∈ d.yield := by
  obtain ⟨c,hc,hw⟩ := List.mem_filterMap.mp h
  refine mem_yield_of_mem_children hc ?_
  cases c with
  | leaf l =>
    cases l with
    | word v =>
      simp only [word?,Option.some.injEq] at hw
      simp [hw]
    | _ => simp [word?] at hw
  | node r cs => simp [word?] at hw

theorem mem_children_of_mem_under {r : Rule} (h : c ∈ d.under r) : c ∈ d.children :=
  (List.mem_filter.mp h).1

theorem word_mem_yield_under {r : Rule} {w : String} (hc : c ∈ d.under r) (hw : w ∈ c.words) :
    .word w ∈ d.yield :=
  mem_yield_of_mem_children (mem_children_of_mem_under hc) (word_mem_yield hw)

/-- What a part declares as a field, with its group, is in the part. -/
theorem mem_yield_of_mem_fieldsIn {group : Option String} (h : (group,c) ∈ d.fieldsIn) :
    (∀ l ∈ c.yield, l ∈ d.yield) ∧ ∀ g, group = some g → .word g ∈ d.yield := by
  unfold fieldsIn at h
  split at h
  · obtain ⟨rfl,rfl⟩ := Prod.mk.inj (List.mem_singleton.mp h)
    exact ⟨fun _ hl => hl,by simp⟩
  · obtain ⟨rfl,rfl⟩ := Prod.mk.inj (List.mem_singleton.mp h)
    exact ⟨fun _ hl => hl,by simp⟩
  · obtain ⟨member,hm,he⟩ := List.mem_map.mp h
    obtain ⟨rfl,rfl⟩ := Prod.mk.inj he
    refine ⟨fun l => mem_yield_of_mem_children (mem_children_of_mem_under hm),fun g hg => ?_⟩
    exact word_mem_yield (List.mem_of_head? hg)
  · cases h

/-- A field and its group are words of the text that declares them. -/
theorem FieldDraft.IsDraftOf.words {f : FieldDraft} {group : Option String}
    (h : f.IsDraftOf (group,c)) :
    .word f.name ∈ c.yield ∧ ∀ g, f.shape = .member g → group = some g := by
  have hname {number : Int} (hg : Gives c f.name number) : Lexeme.word f.name ∈ c.yield :=
    word_mem_yield (by simp [hg.1])
  cases h with
  | field hroot hgives htype hshape =>
    refine ⟨hname hgives,fun g hg => ?_⟩
    rw [hshape] at hg
    split at hg <;> cases hg
  | map hroot hgives htypes hshape => exact ⟨hname hgives,by simp [hshape]⟩
  | member hroot hgives htype hshape =>
    refine ⟨hname hgives,fun g hg => ?_⟩
    rw [hshape] at hg
    cases hg
    rfl

end Words

namespace BuildContext
variable {ctx : BuildContext} {scope : String}

/-- A built field is called as its draft, and as a map it has a key. -/
theorem field_named {d : FieldDraft} {f : Field} (h : ctx.field scope d = .ok f)
    (hname : IsName d.name) (hgroup : ∀ g, d.shape = .member g → IsName g) : f.Named := by
  rw [field,bind_eq_ok] at h
  obtain ⟨v,-,h⟩ := h
  cases hshape : d.shape with
  | singular | repeated =>
    simp only [hshape,Except.ok.injEq] at h
    subst h
    exact ⟨hname,by simp,by simp⟩
  | member g =>
    simp only [hshape,Except.ok.injEq] at h
    subst h
    refine ⟨hname,fun g' hg => ?_,by simp⟩
    cases hg
    exact hgroup g hshape
  | map ref =>
    simp only [hshape] at h
    obtain ⟨k,hk,h⟩ := bind_eq_ok.mp h
    cases h
    refine ⟨hname,by simp,fun _ => ?_⟩
    obtain ⟨t,ht,hkey⟩ := (exists_keyType_iff ctx scope ref d.line).mp ⟨k,hk⟩
    have hvalue : ctx.valueType ref scope d.line = .ok ⟨.scalar t,none⟩ := by
      simp [valueType,ht]
    have hscalar : k = ⟨.scalar t,none⟩ := by
      rw [keyType,hvalue] at hk
      have hmap : FieldType.isMapKey (.scalar t) = true := hkey
      simpa [bind,Except.bind,hmap] using hk.symm
    exact ⟨k,.ofScalar t,rfl,by rw [hscalar]; rfl,(Kind.isMapKey_ofScalar t).trans hkey⟩

theorem enum_spelled {d : EnumDraft} {e : EnumDecl} {c : Derivation}
    (h : ctx.enum scope d = .ok e) (hc : d.IsDraftOf c)
    (hscope : ∀ c ∈ scope.toList, IsPathChar c) (hwords : ∀ w, .word w ∈ c.yield → IsName w) :
    (Declaration.enum e).Spelled := by
  have hname : IsName d.name := hwords d.name (word_mem_yield (by simp [hc.name]))
  obtain rfl := enum_eq_ok h
  have hfull : d.fullName scope = qualify scope d.name := rfl
  refine ⟨⟨?_,by simp⟩,?_,?_⟩
  · rw [hfull]
    exact qualify_ne_empty _ hname.ne_empty
  · rw [hfull]
    exact qualify_path hscope hname
  · rintro _ ⟨⟩ v hv
    obtain ⟨draft,hdraft,rfl⟩ := List.mem_map.mp hv
    obtain ⟨value,hvalue,hgives,-⟩ := exists_of_mem_left hc.values hdraft
    exact hwords draft.name (word_mem_yield_under hvalue (by simp [hgives]))

/-- Messages built from what a text declares are spelled by its words, however deeply they nest. -/
theorem messages_spelled {drafts : List MessageDraft} {built : List Message} {ds : List Derivation}
    (h : ctx.messages scope drafts = .ok built)
    (hdrafts : List.Forall₂ MessageDraft.IsDraftOf drafts ds)
    (hscope : ∀ c ∈ scope.toList, IsPathChar c)
    (hwords : ∀ w, .word w ∈ yields ds → IsName w) :
    ∀ d ∈ Message.declarationsOf built, d.Spelled := by
  induction scope, drafts using messageNames.induct generalizing built ds with
  | case1 scope =>
    rw [messages] at h
    cases h
    simp [Message.declarationsOf]
  | case2 scope name fields nested enums reserved line rest full ihn =>
    rename_i ihr
    obtain ⟨fs,ns,es,rs,-,hfs,hns,hes,hrs,rfl⟩ := messages_cons_eq_ok h
    obtain ⟨⟩ := hdrafts
    rename_i d ds hd hrest
    obtain ⟨hname,fields',hperm,hfields,hmessages,henums⟩ := hd
    have hown : ∀ w, .word w ∈ d.yield → IsName w :=
      fun w hw => hwords w (by simp [hw])
    have hword : IsName name := hown name (word_mem_yield (by simp [hname]))
    have hpath : ∀ c ∈ full.toList, IsPathChar c := qualify_path hscope hword
    intro decl hdecl
    rw [Message.declarationsOf,Message.declarations] at hdecl
    simp only [List.cons_append,List.mem_cons,List.mem_append,List.mem_map] at hdecl
    rcases hdecl with rfl | (⟨e,he,rfl⟩ | hdecl) | hdecl
    · refine ⟨⟨qualify_ne_empty scope hword.ne_empty,fun m hm f hf => ?_⟩,hpath,by simp⟩
      cases hm
      obtain ⟨draft,hdraft,hbuilt⟩ := exists_of_mem_right (mapM_eq_ok_iff.mp hfs) hf
      obtain ⟨⟨group,c⟩,hc,hfield⟩ := exists_of_mem_left hfields (hperm.mem_iff.mpr hdraft)
      obtain ⟨child,hchild,hc⟩ := List.mem_flatMap.mp hc
      obtain ⟨hin,hgroup⟩ := mem_yield_of_mem_fieldsIn hc
      obtain ⟨hfieldName,hmember⟩ := hfield.words
      refine field_named hbuilt ?_ fun g hg => ?_
      · exact hown _ (mem_yield_of_mem_children hchild (hin _ hfieldName))
      · exact hown g (mem_yield_of_mem_children hchild (hgroup g (hmember g hg)))
    · obtain ⟨draft,hdraft,hbuilt⟩ := exists_of_mem_right (mapM_eq_ok_iff.mp hes) he
      obtain ⟨c,hc,henum⟩ := exists_of_mem_left henums hdraft
      refine enum_spelled hbuilt henum hpath fun w hw => hown w ?_
      exact mem_yield_of_mem_children (mem_children_of_mem_under hc) hw
    · refine ihn hns hmessages hpath (fun w hw => ?_) decl hdecl
      rw [yields_eq_flatMap] at hw
      obtain ⟨c,hc,hw⟩ := List.mem_flatMap.mp hw
      exact hown w (mem_yield_of_mem_children (mem_children_of_mem_under hc) hw)
    · exact ihr hrs hrest hscope (fun w hw => hwords w (by simp [hw])) decl hdecl

end BuildContext

/-- The package of a draft is spelled by the words of the text. -/
theorem isPackage_of_draft {path : String} {text : List Char} {statements : List Statement}
    {draft : FileDraft} (h : Draft.ofStatements path text statements = .ok draft)
    (hwords : ∀ w, .word w ∈ (fileDerivation statements).yield → IsName w) :
    IsPackage draft.package := by
  obtain ⟨c,package,hc,hpackage,rfl⟩ := ofStatements_eq_ok h
  obtain hnone | hsaid := hpackage
  · exact .inl hnone
  rw [(Draft.contents_says hc).2,List.nil_append] at hsaid
  obtain ⟨s,hs,hname⟩ := List.mem_filterMap.mp hsaid
  cases s with
  | package p =>
    cases hname
    refine .inr ⟨p,fun w hw => hwords w ?_,rfl⟩
    have hstatement : (Statement.package p).derivation ∈ (fileDerivation statements).children :=
      List.mem_map_of_mem hs
    have hpath : p.derivation ∈ (Statement.package p).derivation.children := by
      simp [Statement.derivation,children]
    refine mem_yield_of_mem_children hstatement (mem_yield_of_mem_children hpath ?_)
    rw [Dotted.derivation,yield_node,Dotted.yields_children]
    rcases List.mem_cons.mp hw with rfl | hw
    · exact List.mem_cons_self
    · exact List.mem_cons_of_mem _ (List.mem_flatMap.mpr ⟨w,hw,by simp⟩)
  | _ => cases hname

/-- What a file declares is spelled by the words of its text, and so is its package. -/
theorem build_spelled {path : String} {text : List Char} {draft : FileDraft} {declared : Declared}
    {asked : Bool} {file : SchemaFile} (hdraft : draftOf path text = .ok draft)
    (h : draft.build declared asked = .ok file) :
    IsPackage file.package ∧ ∀ d ∈ file.declarations, d.Spelled := by
  obtain ⟨statements,hread,hmessages,henums⟩ := isDraftOf_draftOf hdraft
  obtain ⟨read,hread',hstatements⟩ := draftOf_eq_ok hdraft
  obtain rfl := Except.ok.inj (hread.symm.trans hread')
  obtain ⟨-,hspelled,hderives⟩ := derives_of_read hread
  have hwords : ∀ w, .word w ∈ (fileDerivation statements).yield → IsName w := fun w hw =>
    hspelled (.word w) (hderives.yield ▸ hw)
  have hpackage := isPackage_of_draft hstatements hwords
  obtain ⟨ms,hms,h⟩ := bind_eq_ok.mp h
  obtain ⟨es,hes,h⟩ := bind_eq_ok.mp h
  cases h
  refine ⟨hpackage,fun d hd => ?_⟩
  simp only [SchemaFile.declarations,List.mem_append,List.mem_map] at hd
  rcases hd with ⟨e,he,rfl⟩ | hd
  · obtain ⟨enum,hmem,hbuilt⟩ := exists_of_mem_right (mapM_eq_ok_iff.mp hes) he
    obtain ⟨c,hc,hdecl⟩ := exists_of_mem_left henums hmem
    refine BuildContext.enum_spelled hbuilt hdecl hpackage.path fun w hw => hwords w ?_
    exact mem_yield_of_mem_children (mem_children_of_mem_under hc) hw
  · refine BuildContext.messages_spelled hms hmessages hpackage.path (fun w hw => ?_) d hd
    rw [yields_eq_flatMap] at hw
    obtain ⟨c,hc,hw⟩ := List.mem_flatMap.mp hw
    exact hwords w (mem_yield_of_mem_children (mem_children_of_mem_under hc) hw)

theorem parseAll_spelled {sources : List (String × String)} {files : List SchemaFile}
    (h : parseAll sources = .ok files) {file : SchemaFile} (hf : file ∈ files) :
    IsPackage file.package ∧ ∀ d ∈ file.declarations, d.Spelled := by
  obtain ⟨drafts,hdrafts,-,hbuild⟩ := parseAll_eq_ok_iff.mp h
  obtain ⟨declared,-,hfiles⟩ := bind_eq_ok.mp hbuild
  obtain ⟨draft,hdraft,hbuilt⟩ := exists_of_mem_right (mapM_eq_ok_iff.mp hfiles) hf
  obtain ⟨source,-,hsource⟩ := exists_of_mem_right hdrafts hdraft
  exact build_spelled hsource hbuilt

theorem parseAll_named {sources : List (String × String)} {files : List SchemaFile}
    (h : parseAll sources = .ok files) {file : SchemaFile} (hf : file ∈ files) :
    ∀ d ∈ file.declarations, d.Named :=
  fun d hd => ((parseAll_spelled h hf).2 d hd).named

end SchemaCodec
