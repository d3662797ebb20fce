import Mathlib
import SchemaCodec.Proofs.Generation
import SchemaCodec.Proofs.Kind

/-! # Values stored in place

The struct of a message stores a value of another type in place where it has a field of that type or
of an option of it, and where a member of one of its oneofs holds that type without a box. Exactly
the singular references and the enums in oneofs are stored so.
-/
namespace SchemaCodec
open Codec Rendering

/-- The struct that is generated for the message of this name. -/
def IsStruct (index : TypeIndex) (a : String) (m : Message) (struct : StructBlock) : Prop :=
  ∃ entry usesMap, index.find? a = some entry ∧ entry.declaration = .message m ∧
    blockOf index (.message m) = .ok (.struct struct,usesMap)

/-- The code of a field of some kind stores a value of the type called `name` in place. -/
def StoresBy (index : TypeIndex) (struct : StructBlock) (f : Field) (name : String) : Kind → Prop
  | .oneof group number inner => ∃ o ∈ struct.oneofs, (variantIdentifier f,name) ∈ o.variants ∧
      typeText index (.oneof group number inner) = .ok name
  | kind => ∃ s ∈ struct.fields, s.name = Identifier.escape f.name ∧
      fieldTypeText index kind = .ok s.type ∧ (s.type = name ∨ s.type = "Option<" ++ name ++ ">")

/-- The generated type of `a` stores a value of the generated type of `b` in place. -/
def Stores (index : TypeIndex) (a b : String) : Prop :=
  ∃ m struct f kind name, IsStruct index a m struct ∧ f ∈ m.fields ∧ f.kind = .ok kind ∧
    b ∈ f.references ∧ identifierOf index b = .ok name ∧ StoresBy index struct f name kind

section Bindings
variable {index : TypeIndex} {m : Message} {table : List (Binding Decoding)}

theorem kindOf_eq_ok {f : Field} {kind : Kind} (h : kindOf f = .ok kind) : f.kind = .ok kind := by
  unfold kindOf at h
  cases hk : f.kind with
  | error cause => simp [hk] at h
  | ok k =>
    simp only [hk,Except.ok.injEq] at h
    exact h ▸ rfl

theorem bindReader_eq_ok {f : Field} {b : Binding Decoding}
    (h : bindReader index m f = .ok b) : b.field = f ∧ f.kind = .ok b.kind := by
  obtain ⟨kind,hk,h⟩ := bind_eq_ok.mp h
  obtain ⟨code,-,h⟩ := bind_eq_ok.mp h
  obtain ⟨initial,-,h⟩ := bind_eq_ok.mp h
  cases h
  exact ⟨rfl,kindOf_eq_ok hk⟩

theorem mem_boundFields (hn : (m.fields.map (·.name)).Nodup) (h : decodeTable index m = .ok table)
    {f : Field} (hf : f ∈ m.fields) :
    ∃ b, (f,b) ∈ boundFields table m.fields ∧ b.field = f ∧ f.kind = .ok b.kind := by
  have hall := mapM_eq_ok_iff.mp h
  obtain ⟨b,hb,hbind⟩ := exists_of_mem_left hall (mem_byNumber.mpr hf)
  obtain ⟨hfield,-⟩ := bindReader_eq_ok hbind
  cases hfind : bindingOf? table f with
  | none =>
    have hnone := List.find?_eq_none.mp hfind b (List.mem_reverse.mpr hb)
    simp [hfield] at hnone
  | some c =>
    have hname : c.field.name = f.name := by simpa using List.find?_some hfind
    obtain ⟨g,hg,hgc⟩ := exists_of_mem_right hall
      (List.mem_reverse.mp (List.mem_of_find?_eq_some hfind))
    obtain ⟨rfl,hkind⟩ := bindReader_eq_ok hgc
    have hcf : c.field = f := List.inj_on_of_nodup_map hn (mem_byNumber.mp hg) hf hname
    refine ⟨c,?_,hcf,hcf ▸ hkind⟩
    exact List.mem_filterMap.mpr ⟨f,hf,by rw [hfind,Option.map_some]⟩

/-- A field outside of oneofs has a struct field of its own. -/
theorem mem_structFields {groups : List String} {bound : List (Field × Binding Decoding)}
    {fields : List StructField} (h : structFields index m groups bound = .ok fields) {f : Field}
    {b : Binding Decoding} (hmem : (f,b) ∈ bound) (hb : b.group? = none) :
    ∃ s ∈ fields, s.name = Identifier.escape f.name ∧ fieldTypeText index b.kind = .ok s.type := by
  induction bound generalizing groups fields with
  | nil => simp at hmem
  | cons p rest ih =>
    obtain ⟨g,c⟩ := p
    rw [structFields] at h
    cases hc : c.group? with
    | some group =>
      have hrest : (f,b) ∈ rest := by
        rcases List.mem_cons.mp hmem with he | hr
        · cases he
          rw [hc] at hb
          cases hb
        · exact hr
      simp only [hc] at h
      by_cases hin : group ∈ groups
      · rw [if_pos hin] at h
        exact ih h hrest
      · rw [if_neg hin] at h
        obtain ⟨type,-,h⟩ := bind_eq_ok.mp h
        obtain ⟨more,hmore,h⟩ := bind_eq_ok.mp h
        cases h
        obtain ⟨s,hs,ht⟩ := ih hmore hrest
        exact ⟨s,List.mem_cons_of_mem _ hs,ht⟩
    | none =>
      simp only [hc] at h
      obtain ⟨type,htype,h⟩ := bind_eq_ok.mp h
      obtain ⟨more,hmore,h⟩ := bind_eq_ok.mp h
      cases h
      rcases List.mem_cons.mp hmem with he | hr
      · cases he
        exact ⟨_,List.mem_cons_self,rfl,htype⟩
      · obtain ⟨s,hs,ht⟩ := ih hmore hr
        exact ⟨s,List.mem_cons_of_mem _ hs,ht⟩

/-- A member of a oneof is a variant of the type of its oneof. -/
theorem mem_variants {bound : List (Field × Binding Decoding)} {group : String} {o : OneofBlock}
    (h : oneofBlock index m bound group = .ok o) {f : Field} {b : Binding Decoding}
    (hmem : (f,b) ∈ bound) (hb : b.group? = some group) :
    ∃ text, typeText index b.kind = .ok text ∧ (variantIdentifier f,text) ∈ o.variants := by
  obtain ⟨name,-,h⟩ := bind_eq_ok.mp h
  obtain ⟨variants,hvariants,h⟩ := bind_eq_ok.mp h
  cases h
  have hin : (f,b) ∈ bound.filter fun p => p.2.group? == some group :=
    List.mem_filter.mpr ⟨hmem,by simp [hb]⟩
  obtain ⟨v,hv,hvariant⟩ := exists_of_mem_left (mapM_eq_ok_iff.mp hvariants) hin
  obtain ⟨text,htext,hvariant⟩ := bind_eq_ok.mp hvariant
  cases hvariant
  exact ⟨text,htext,hv⟩

theorem structBlock_eq_ok {encode : List (Binding FieldWriter)} {struct : StructBlock}
    (h : structBlock index m encode table = .ok struct) :
    structFields index m [] (boundFields table m.fields) = .ok struct.fields ∧
      (((boundFields table m.fields).filterMap fun (_,b) => b.group?).eraseDups).mapM
        (oneofBlock index m (boundFields table m.fields)) = .ok struct.oneofs ∧
      identifierOf index m.fullName = .ok struct.name ∧ struct.encode = encodeBody encode ∧
      struct.decode = decodeBody table := by
  obtain ⟨fields,hfields,h⟩ := bind_eq_ok.mp h
  obtain ⟨oneofs,honeofs,h⟩ := bind_eq_ok.mp h
  obtain ⟨name,hname,h⟩ := bind_eq_ok.mp h
  cases h
  exact ⟨hfields,honeofs,hname,rfl,rfl⟩

end Bindings

theorem wrapped_ne {before name after : String} (h : before ≠ "") :
    before ++ name ++ after ≠ name := by
  intro he
  have hlen := congrArg String.length he
  have hpos : before.length ≠ 0 := fun h0 => h (String.length_eq_zero_iff.mp h0)
  simp only [String.length_append] at hlen
  omega

theorem append_ne_append {c d : Char} {before before' after after' : String}
    (hc : before.toList.head? = some c) (hd : before'.toList.head? = some d) (h : c ≠ d) :
    before ++ after ≠ before' ++ after' := by
  intro he
  have hhead := congrArg (fun s => s.toList.head?) he
  simp only [String.toList_append,List.head?_append,hc,hd] at hhead
  simp at hhead
  exact h hhead

section Resolved
variable {index : TypeIndex} {named : List NamedSort} {f : Field}

/-- The type of a value that refers to a declared type is that type. -/
theorem typeText_value (hf : f.Resolved named) {value : Kind} (hv : f.value.kind = .ok value)
    {b : String} (hb : b ∈ f.references) : typeText index value = identifierOf index b := by
  obtain ⟨hnamed,hname⟩ := hf.mem_references.mp hb
  rcases ValueType.kind_cases hv with ⟨t,ht,-⟩ | ⟨name,hn,⟨-,rfl⟩ | ⟨-,rfl⟩⟩
  · simp [ht,FieldType.isNamed] at hnamed
  · cases hname.symm.trans hn
    rfl
  · cases hname.symm.trans hn
    rfl

/-- What is stored in place is a singular reference or an enum in a oneof. -/
theorem inPlace_of_storesBy {struct : StructBlock} {kind : Kind} {b name : String}
    (hf : f.Resolved named) (hk : f.kind = .ok kind) (hb : b ∈ f.references)
    (hname : identifierOf index b = .ok name) (h : StoresBy index struct f name kind) :
    f.cardinality = .singular ∨ f.cardinality = .oneof ∧ f.value.type = .enum := by
  obtain ⟨value,hv,hholds⟩ := Field.kind_eq_ok hk
  have htext : typeText index value = .ok name := (typeText_value hf hv hb).trans hname
  cases hholds with
  | singular hc => exact .inl hc
  | repeated hc =>
    obtain ⟨s,-,-,htype,hs⟩ := h
    have hvec : s.type = "Vec<" ++ name ++ ">" := by
      rw [fieldTypeText,typeText,htext] at htype
      exact (Except.ok.inj htype).symm
    rw [hvec] at hs
    rcases hs with hs | hs
    · exact absurd hs (wrapped_ne (by decide))
    · rw [String.append_assoc,String.append_assoc] at hs
      exact absurd hs (append_ne_append rfl rfl (by decide))
  | map hc k key hkey hkind hmap =>
    obtain ⟨s,-,-,htype,hs⟩ := h
    obtain ⟨text,ht,htype⟩ := bind_eq_ok.mp htype
    obtain ⟨keyText,-,ht⟩ := bind_eq_ok.mp ht
    have hmap : s.type = "HashMap<" ++ keyText ++ ", " ++ name ++ ">" := by
      rw [htext] at ht
      exact (Except.ok.inj htype).symm.trans (Except.ok.inj ht).symm
    rw [hmap] at hs
    rcases hs with hs | hs
    · exact absurd hs (wrapped_ne (by simp [String.append_eq_empty_iff]))
    · simp only [String.append_assoc] at hs
      exact absurd hs (append_ne_append rfl rfl (by decide))
  | member hc group hg =>
    refine .inr ⟨hc,?_⟩
    obtain ⟨o,-,-,htype⟩ := h
    rcases ValueType.kind_cases hv with ⟨t,ht,rfl⟩ | ⟨n,-,⟨ht,rfl⟩ | ⟨ht,rfl⟩⟩
    · have hnamed := (hf.mem_references.mp hb).1
      simp [ht,FieldType.isNamed] at hnamed
    · exact ht
    · rw [typeText,htext] at htype
      exact absurd (Except.ok.inj htype) (wrapped_ne (by decide))

/-- A singular reference and an enum in a oneof are stored in place. -/
theorem storesBy_of_inPlace {m : Message} {struct : StructBlock} {usesMap : Bool} {b : String}
    (hm : m.Sound named) (hblock : blockOf index (.message m) = .ok (.struct struct,usesMap))
    (hf : f ∈ m.fields) (hb : b ∈ f.references)
    (hplace : f.cardinality = .singular ∨ f.cardinality = .oneof ∧ f.value.type = .enum) :
    ∃ kind name, f.kind = .ok kind ∧ identifierOf index b = .ok name ∧
      StoresBy index struct f name kind := by
  obtain ⟨encode,decode,struct',-,hdecode,hstruct,he⟩ := blockOf_message_eq_ok hblock
  cases he
  obtain ⟨hfields,honeofs,-⟩ := structBlock_eq_ok hstruct
  obtain ⟨c,hc,-,hkind⟩ := mem_boundFields hm.names hdecode hf
  obtain ⟨value,hv,hholds⟩ := Field.kind_eq_ok hkind
  have hr := hm.resolved f hf
  obtain ⟨hnamed,hrefname⟩ := hr.mem_references.mp hb
  refine ⟨c.kind,?_⟩
  generalize hck : c.kind = kind at hkind hholds
  cases hholds with
  | singular hcard =>
    have hplain : c.group? = none := by
      rcases ValueType.kind_cases hv with ⟨t,ht,-⟩ | ⟨n,-,⟨-,rfl⟩ | ⟨-,rfl⟩⟩
      · simp [ht,FieldType.isNamed] at hnamed
      · simp [Binding.group?,hck]
      · simp [Binding.group?,hck]
    obtain ⟨s,hs,hsname,htype⟩ := mem_structFields hfields hc hplain
    rw [hck] at htype
    obtain ⟨name,hid,hs'⟩ := bind_eq_ok.mp htype
    rcases ValueType.kind_cases hv with ⟨t,ht,-⟩ | ⟨n,hn,⟨-,rfl⟩ | ⟨-,rfl⟩⟩
    · simp [ht,FieldType.isNamed] at hnamed
    · cases hrefname.symm.trans hn
      exact ⟨name,hkind,hid,s,hs,hsname,htype,.inl (Except.ok.inj hs').symm⟩
    · cases hrefname.symm.trans hn
      exact ⟨name,hkind,hid,s,hs,hsname,htype,.inr (Except.ok.inj hs').symm⟩
  | repeated hcard | map hcard => simp [hcard] at hplace
  | member hcard group hg =>
    have henum : f.value.type = .enum := by simpa [hcard] using hplace
    have hgroup : c.group? = some group := by simp [Binding.group?,hck]
    obtain ⟨o,ho,hblock⟩ := exists_of_mem_left (mapM_eq_ok_iff.mp honeofs)
      (List.mem_eraseDups.mpr (List.mem_filterMap.mpr ⟨_,hc,hgroup⟩))
    obtain ⟨name,htext,hvariant⟩ := mem_variants hblock hc hgroup
    rw [hck] at htext
    rcases ValueType.kind_cases hv with ⟨t,ht,-⟩ | ⟨n,hn,⟨-,rfl⟩ | ⟨ht,-⟩⟩
    · simp [ht] at henum
    · cases hrefname.symm.trans hn
      obtain ⟨text,hid,htext'⟩ := bind_eq_ok.mp htext
      cases htext'
      exact ⟨_,hkind,hid,o,ho,hvariant,htext⟩
    · simp [ht] at henum

/-- The references that are stored in place. -/
theorem stores_iff {files : List SchemaFile} (hc : Coherent files)
    (hr : ∀ file ∈ files, Rendered (TypeIndex.ofFiles files) file) {a b : String} :
    Stores (TypeIndex.ofFiles files) a b ↔ ∃ file ∈ files, ∃ m f, .message m ∈ file.declarations ∧
      m.fullName = a ∧ f ∈ m.fields ∧ b ∈ f.references ∧
      (f.cardinality = .singular ∨ f.cardinality = .oneof ∧ f.value.type = .enum) := by
  constructor
  · rintro ⟨m,struct,f,kind,name,⟨entry,usesMap,hfind,hdecl,hblock⟩,hf,hk,hb,hname,hstores⟩
    obtain ⟨hfull,file,hfile,d,hd,rfl⟩ := TypeIndex.exists_of_find? hfind
    obtain rfl : d = .message m := hdecl
    have hresolved := (hc.sound file hfile m hd).resolved f hf
    exact ⟨file,hfile,m,f,hd,hfull,hf,hb,inPlace_of_storesBy hresolved hk hb hname hstores⟩
  · rintro ⟨file,hfile,m,f,hm,rfl,hf,hb,hplace⟩
    obtain ⟨block,usesMap,hblock⟩ := (hr file hfile).blocks _ hm
    obtain ⟨_,_,struct,-,-,-,rfl⟩ := blockOf_message_eq_ok hblock
    obtain ⟨kind,name,hk,hname,hstores⟩ :=
      storesBy_of_inPlace (hc.sound file hfile m hm) hblock hf hb hplace
    have hfind := TypeIndex.find?_ofFiles hc.distinct hfile hm
    exact ⟨m,struct,f,kind,name,⟨_,usesMap,hfind,rfl,hblock⟩,hf,hk,hb,hname,hstores⟩

end Resolved

/-- A message of one of the files has a singular field of this type. -/
def SingularReference (files : List SchemaFile) (a b : String) : Prop :=
  ∃ file ∈ files, ∃ m f, .message m ∈ file.declarations ∧ m.fullName = a ∧ f ∈ m.fields ∧
    f.cardinality = .singular ∧ b ∈ f.references

section Cycles
open Relation
variable {files : List SchemaFile}

theorem Coherent.declaration_unique (hc : Coherent files) {f g : SchemaFile} (hf : f ∈ files)
    (hg : g ∈ files) {d e : Declaration} (hd : d ∈ f.declarations) (he : e ∈ g.declarations)
    (h : d.fullName = e.fullName) : f = g ∧ d = e := by
  have hfind := TypeIndex.find?_ofFiles hc.distinct hf hd
  rw [h,TypeIndex.find?_ofFiles hc.distinct hg he] at hfind
  have hentry := Option.some.inj hfind
  exact ⟨(congrArg TypeEntry.file hentry).symm,(congrArg TypeEntry.declaration hentry).symm⟩

/-- A type that refers to another by a singular field is a message of some file. -/
theorem SingularReference.declared {a b : String} (h : SingularReference files a b) :
    ∃ file ∈ files, a ∈ file.declaredNames := by
  obtain ⟨file,hfile,m,f,hm,rfl,-⟩ := h
  exact ⟨file,hfile,List.mem_map_of_mem (f := Declaration.fullName) hm⟩

/-- Nothing is stored in an enum, so only singular references lead on. -/
theorem SingularReference.of_stores (hc : Coherent files)
    (hr : ∀ file ∈ files, Rendered (TypeIndex.ofFiles files) file) {a b c : String}
    (hab : Stores (TypeIndex.ofFiles files) a b) (hbc : Stores (TypeIndex.ofFiles files) b c) :
    SingularReference files a b := by
  obtain ⟨file,hfile,m,f,hm,ha,hf,hb,hplace⟩ := (stores_iff hc hr).mp hab
  obtain ⟨file',hfile',m',-,hm',hb',-⟩ := (stores_iff hc hr).mp hbc
  rcases hplace with hs | ⟨-,henum⟩
  · exact ⟨file,hfile,m,f,hm,ha,hf,hs,hb⟩
  · have hresolved := (hc.sound file hfile m hm).resolved f hf
    obtain ⟨-,hname⟩ := hresolved.mem_references.mp hb
    obtain ⟨hname,-⟩ := nonempty?_eq_some.mp hname
    rcases hresolved.value with ⟨t,ht⟩ | ⟨n,hn,hv⟩
    · simp [ht] at henum
    · obtain ⟨g,hg,hn⟩ := List.mem_flatMap.mp hn
      obtain ⟨d,hd,rfl⟩ := List.mem_map.mp hn
      have hdb : d.fullName = b := by simpa [hv,Declaration.named] using hname
      obtain ⟨-,rfl⟩ := hc.declaration_unique hg hfile' hd hm' (hdb.trans hb'.symm)
      simp [hv,Declaration.named,Declaration.sort,TypeSort.fieldType] at henum

theorem transGen_singularReference (hc : Coherent files)
    (hr : ∀ file ∈ files, Rendered (TypeIndex.ofFiles files) file) {a b c : String}
    (hab : TransGen (Stores (TypeIndex.ofFiles files)) a b)
    (hbc : Stores (TypeIndex.ofFiles files) b c) : TransGen (SingularReference files) a b := by
  induction hab generalizing c with
  | single hab => exact .single (.of_stores hc hr hab hbc)
  | tail _ hxb ih => exact .tail (ih hxb) (.of_stores hc hr hxb hbc)

/-- Where no cycle leaves its file, a cycle of singular references is one within a file. -/
theorem containsInline_of_cycle (hc : Coherent files)
    (hwithin : ∀ f ∈ files, ∀ g ∈ files, f ≠ g → ∀ a ∈ f.declaredNames, ∀ b ∈ g.declaredNames,
      ¬ (TransGen (SingularReference files) a b ∧ TransGen (SingularReference files) b a))
    {file : SchemaFile} (hf : file ∈ files) {a b : String} (ha : a ∈ file.declaredNames)
    (hab : TransGen (SingularReference files) a b)
    (hba : TransGen (SingularReference files) b a) : file.ContainsInline a b := by
  have hhome : ∀ x, TransGen (SingularReference files) a x →
      TransGen (SingularReference files) x a → x ∈ file.declaredNames := by
    intro x hax hxa
    obtain ⟨y,hxy,-⟩ := TransGen.head'_iff.mp hxa
    obtain ⟨g,hg,hx⟩ := hxy.declared
    by_cases hfg : file = g
    · exact hfg ▸ hx
    · exact absurd ⟨hax,hxa⟩ (hwithin file hf g hg hfg a ha x hx)
  have hedge : ∀ x y, x ∈ file.declaredNames → y ∈ file.declaredNames →
      SingularReference files x y → file.InlineEdge x y := by
    rintro x y hx hy ⟨g,hg,m,f,hm,rfl,hfm,hs,href⟩
    obtain ⟨d,hd,hname⟩ := List.mem_map.mp hx
    obtain ⟨rfl,-⟩ := hc.declaration_unique hf hg hd hm hname
    exact ⟨m,f,hm,rfl,hfm,hs,href,hy⟩
  induction hab with
  | single hab => exact .single (hedge a _ ha (hhome _ (.single hab) hba) hab)
  | @tail x y hax hxy ih =>
    have hxa : TransGen (SingularReference files) x a := .head hxy hba
    have hx := hhome x hax hxa
    have hy := hhome y (.tail hax hxy) hba
    exact .tail (ih hxa) (hedge x y hx hy hxy)

end Cycles

/-- No generated type has infinite size exactly if no two types of different files refer to each
other through singular fields: cycles within one file are refused. -/
theorem stores_acyclic_iff {sources : List (String × String)} {files : List SchemaFile}
    (h : Generates sources files) :
    (∀ a, ¬ Relation.TransGen (Stores (TypeIndex.ofFiles files)) a a) ↔
      ∀ f ∈ files, ∀ g ∈ files, f.path ≠ g.path → ∀ a ∈ f.declaredNames, ∀ b ∈ g.declaredNames,
        ¬ (Relation.TransGen (SingularReference files) a b ∧
          Relation.TransGen (SingularReference files) b a) := by
  have hc := h.coherent
  have hr : ∀ file ∈ files, Rendered (TypeIndex.ofFiles files) file := fun _ => h.rendered
  constructor
  · rintro hacyclic f - g - - a - b - ⟨hab,hba⟩
    have hstores : ∀ x y, SingularReference files x y → Stores (TypeIndex.ofFiles files) x y := by
      rintro x y ⟨file,hfile,m,f,hm,hx,hf,hs,hy⟩
      exact (stores_iff hc hr).mpr ⟨file,hfile,m,f,hm,hx,hf,hy,.inl hs⟩
    exact hacyclic a ((hab.trans hba).lift id hstores)
  · intro hwithin a haa
    obtain ⟨b,hab,-⟩ := Relation.TransGen.head'_iff.mp haa
    have hcycle := transGen_singularReference hc hr haa hab
    obtain ⟨c,hac,-⟩ := Relation.TransGen.head'_iff.mp hcycle
    obtain ⟨file,hfile,ha⟩ := hac.declared
    have hinline : file.ContainsInline a a := by
      refine containsInline_of_cycle hc (fun f hf g hg hfg => ?_) hfile ha hcycle hcycle
      exact hwithin f hf g hg fun hpath =>
        hfg (List.inj_on_of_nodup_map h.distinct_paths hf hg hpath)
    have hrendered := hr file hfile
    have hlocal : ∀ r ∈ file.references,
        (TypeIndex.ofFiles files).isForeign file.path r.target = false ↔
          r.target ∈ file.declaredNames := fun r hmem =>
      TypeIndex.isForeign_eq_false_iff hc.distinct h.distinct_paths hfile (hrendered.known r hmem)
    have hnames : file.declaredNames.Nodup := (List.nodup_flatMap.mp hc.distinct).1 file hfile
    exact (SchemaFile.exists_plan_iff hnames hlocal hrendered.known).mp hrendered.planned a hinline

/-- Two files that import each other and whose messages hold each other. -/
def leftSource : String := "import \"right.proto\";\nmessage L \x7b R R = 1; \x7d\n"

def rightSource : String := "import \"left.proto\";\nmessage R \x7b L L = 1; \x7d\n"

def mutualSources : List (String × String) :=
  [("left.proto",leftSource),("right.proto",rightSource)]

def leftFile : SchemaFile := ⟨"left.proto","",["right.proto"],[holding "L" ["R"]],[],true⟩

def rightFile : SchemaFile := ⟨"right.proto","",["left.proto"],[holding "R" ["L"]],[],true⟩

section Mutual
open Grammar

def holdingTree (line : ℕ) (name target : String) : Statement :=
  .message line name [.field ⟨line,none,⟨false,⟨target,[]⟩⟩,⟨target,"1",[]⟩⟩]

theorem read_leftSource : Grammar.read leftSource.toList =
    .ok [.imports none "\"right.proto\"",holdingTree 2 "L" "R"] := by
  with_unfolding_all rfl

theorem read_rightSource : Grammar.read rightSource.toList =
    .ok [.imports none "\"left.proto\"",holdingTree 2 "R" "L"] := by
  with_unfolding_all rfl

def holdingDraft (path imported name target : String) (text : List Char) : FileDraft :=
  ⟨path,"",[imported],[⟨name,[⟨target,1,target,.singular,2⟩],[],[],[],2⟩],[],Text.lines text⟩

theorem parseAll_mutualSources : parseAll mutualSources = .ok [leftFile,rightFile] := by
  have hleft : draftOf "left.proto" leftSource.toList =
      .ok (holdingDraft "left.proto" "right.proto" "L" "R" leftSource.toList) :=
    draftOf_of_plain none read_leftSource rfl rfl
  have hright : draftOf "right.proto" rightSource.toList =
      .ok (holdingDraft "right.proto" "left.proto" "R" "L" rightSource.toList) :=
    draftOf_of_plain none read_rightSource rfl rfl
  exact parseAll_eq_ok_iff.mpr ⟨_,.cons hleft (.cons hright .nil),rfl,
    buildAll_of_plain rfl rfl rfl⟩

theorem generates_mutualSources : Generates mutualSources [leftFile,rightFile] :=
  generates_of_run (by decide) parseAll_mutualSources (by decide +kernel)

end Mutual

theorem mutualSources_acyclic_iff : Generates mutualSources [leftFile,rightFile] ∧
    ((∀ a, ¬ Relation.TransGen (Stores (TypeIndex.ofFiles [leftFile,rightFile])) a a) ↔
      ∀ f ∈ [leftFile,rightFile], ∀ g ∈ [leftFile,rightFile], f.path ≠ g.path →
        ∀ a ∈ f.declaredNames, ∀ b ∈ g.declaredNames,
          ¬ (Relation.TransGen (SingularReference [leftFile,rightFile]) a b ∧
            Relation.TransGen (SingularReference [leftFile,rightFile]) b a)) :=
  ⟨generates_mutualSources,stores_acyclic_iff generates_mutualSources⟩

/-- Code without errors is generated for types of infinite size. -/
theorem mutualSources_infinite : Generates mutualSources [leftFile,rightFile] ∧
    ¬ ∀ a, ¬ Relation.TransGen (Stores (TypeIndex.ofFiles [leftFile,rightFile])) a a := by
  have h := generates_mutualSources
  have hstores : ∀ file ∈ [leftFile,rightFile], ∀ a b,
      file.messages = [holding a [b]] → file.enums = [] → b ≠ "" →
      Stores (TypeIndex.ofFiles [leftFile,rightFile]) a b := by
    intro file hfile a b hmessages henums hb
    refine (stores_iff h.coherent fun _ => h.rendered).mpr
      ⟨file,hfile,holding a [b],_,?_,rfl,List.mem_singleton_self _,?_,.inl rfl⟩
    · simp [SchemaFile.declarations,hmessages,henums,Message.declarationsOf,Message.declarations,
        holding]
    · simp [Field.references,FieldType.isNamed,nonempty?,hb]
  refine ⟨h,fun hacyclic => hacyclic "L" ?_⟩
  refine .tail (.single (hstores leftFile (by simp) "L" "R" rfl rfl (by decide))) ?_
  exact hstores rightFile (by simp) "R" "L" rfl rfl (by decide)

end SchemaCodec
