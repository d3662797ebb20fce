import SchemaCodec.Proofs.Dependency.Imports
import SchemaCodec.Proofs.Rendering.DistinctNames
import SchemaCodec.Proofs.Rendering.TypeMentions
import SchemaCodec.Proofs.Semantics.VisitOrder

/-! # Types of a message's code

The code of a message mentions types of the language and of the runtime, types that its file
declares, and types of other files. Of the last ones the plan of the file has an import each.
-/
namespace SchemaCodec
open Codec Rendering

/-- The types of the language that code of messages uses. -/
def builtinTypes : List String :=
  ["bool","i32","i64","u32","u64","f32","f64","u8","String","Vec","Option","Box"]

/-- The names of types that code in a file may use: those of the language, those that a source uses
whatever it declares, and those of the types that the file declares or imports. -/
inductive KnownType (file : SchemaFile) (imports : List ImportRef) (usesMap : Bool) : String → Prop
  | builtin {name : String} (h : name ∈ builtinTypes) : KnownType file imports usesMap name
  | used {name : String} (h : name ∈ usedNames usesMap) : KnownType file imports usesMap name
  | declared {d : Declaration} (hd : d ∈ file.declarations) :
      KnownType file imports usesMap (typeIdentifier d.fullName file.package)
  | oneof {m : Message} {f : Field} {group : String} (hm : .message m ∈ file.declarations)
      (hf : f ∈ m.fields) (h : f.group? = some group) : KnownType file imports usesMap
        (typeIdentifier m.fullName file.package ++ Identifier.camel group)
  | imported {ref : ImportRef} (h : ref ∈ imports) :
      KnownType file imports usesMap (lastSegment ref.rustPath)

/-! ## Types in types -/

/-- All names in the text of a type are known. -/
def TypeKnown (known : String → Prop) (text : String) : Prop := ∀ name ∈ namesIn text, known name

section Types
variable {known : String → Prop} {index : TypeIndex}

theorem typeKnown_of_parts {text : String} (h : known text)
    (hparts : ∀ c ∈ text.toList, isNamePart c = true) : TypeKnown known text :=
  fun _ hname => eq_of_mem_namesIn hparts hname ▸ h

theorem TypeKnown.applied {text container before : String} (h : TypeKnown known text)
    (hcontainer : known container) (hparts : container.toList.all isNamePart = true)
    (hbefore : before.toList = container.toList ++ ['<']) :
    TypeKnown known (before ++ text ++ ">") := by
  intro name hname
  rw [namesIn_around hbefore (by decide) (y := '>') (c := []) rfl (by decide),List.mem_append,
    List.mem_append] at hname
  rcases hname with (hname | hname) | hname
  · exact eq_of_mem_namesIn (List.all_eq_true.mp hparts) hname ▸ hcontainer
  · exact h name hname
  · cases hname

theorem typeKnown_map {key value : String} (hkey : TypeKnown known key)
    (hvalue : TypeKnown known value) (hmap : known "HashMap") :
    TypeKnown known ("HashMap<" ++ key ++ ", " ++ value ++ ">") := by
  have hopen : TypeKnown known ("HashMap<" ++ key ++ ",") := by
    intro name hname
    have hbefore : "HashMap<".toList = "HashMap".toList ++ ['<'] := rfl
    rw [namesIn_around hbefore (by decide) (y := ',') (c := []) rfl (by decide),List.mem_append,
      List.mem_append] at hname
    rcases hname with (hname | hname) | hname
    · exact List.mem_singleton.mp hname ▸ hmap
    · exact hkey name hname
    · cases hname
  intro name hname
  have hbefore : ("HashMap<" ++ key ++ ", ").toList = ("HashMap<" ++ key ++ ",").toList ++ [' '] := by
    simp
  rw [namesIn_around hbefore (by decide) (y := '>') (c := []) rfl (by decide),List.mem_append,
    List.mem_append] at hname
  rcases hname with (hname | hname) | hname
  · exact hopen name hname
  · exact hvalue name hname
  · cases hname

variable (hbuiltin : ∀ name ∈ builtinTypes, known name)
include hbuiltin

theorem typeKnown_ofScalar {t : ScalarType} {text : String}
    (h : typeText index (.ofScalar t) = .ok text) : TypeKnown known text := by
  have hall : ∀ t : ScalarType, ∃ text, typeText index (.ofScalar t) = .ok text ∧
      ∀ name ∈ namesIn text, name ∈ builtinTypes := by
    intro t
    cases t <;> exact ⟨_,rfl,by decide⟩
  obtain ⟨text',htext,hnames⟩ := hall t
  cases htext.symm.trans h
  exact fun name hname => hbuiltin name (hnames name hname)

theorem typeKnown_value {v : ValueType} {kind : Kind} (hv : v.kind = .ok kind)
    (hknown : KindKnown index known kind) {text : String} (h : typeText index kind = .ok text) :
    TypeKnown known text := by
  rcases v.kind_cases hv with ⟨t,-,rfl⟩ | ⟨name,-,⟨-,rfl⟩ | ⟨-,rfl⟩⟩
  · exact typeKnown_ofScalar hbuiltin h
  · obtain ⟨hid,hparts⟩ := hknown.types name List.mem_cons_self text h
    exact typeKnown_of_parts hid hparts
  · obtain ⟨hid,hparts⟩ := hknown.types name List.mem_cons_self text h
    exact typeKnown_of_parts hid hparts

/-- The types in the type of a field are all known. -/
theorem typeKnown_field {f : Field} {kind : Kind} (hf : f.kind = .ok kind)
    (hknown : KindKnown index known kind) {text : String} (h : typeText index kind = .ok text) :
    TypeKnown known text := by
  obtain ⟨value,hvalue,hholds⟩ := Field.kind_eq_ok hf
  have hvec : known "Vec" := hbuiltin _ (by decide)
  have hbox : known "Box" := hbuiltin _ (by decide)
  cases hholds with
  | singular _ => exact typeKnown_value hbuiltin hvalue hknown h
  | repeated _ =>
    obtain ⟨element,helement,h⟩ := bind_eq_ok.mp h
    cases h
    have hinner := typeKnown_value hbuiltin hvalue ⟨hknown.types,hknown.maps⟩ helement
    exact hinner.applied hvec rfl rfl
  | map _ k key _ hkey _ =>
    obtain ⟨keyText,hkeyText,h⟩ := bind_eq_ok.mp h
    obtain ⟨valueText,hvalueText,h⟩ := bind_eq_ok.mp h
    cases h
    have hmap : known "HashMap" := hknown.maps rfl
    refine typeKnown_map (typeKnown_value hbuiltin hkey ?_ hkeyText)
      (typeKnown_value hbuiltin hvalue ?_ hvalueText) hmap
    · exact ⟨fun name hname => hknown.types name (List.mem_append_left _ hname),fun _ => hmap⟩
    · exact ⟨fun name hname => hknown.types name (List.mem_append_right _ hname),fun _ => hmap⟩
  | member _ group _ =>
    obtain ⟨inner,hinner,h⟩ := bind_eq_ok.mp h
    cases h
    have hknown' := typeKnown_value hbuiltin hvalue ⟨hknown.types,hknown.maps⟩ hinner
    split
    · exact hknown'.applied hbox rfl rfl
    · exact hknown'

theorem typeKnown_fieldType {f : Field} {kind : Kind} (hf : f.kind = .ok kind)
    (hknown : KindKnown index known kind) {text : String} (h : fieldTypeText index kind = .ok text) :
    TypeKnown known text := by
  obtain ⟨type,htype,h⟩ := bind_eq_ok.mp h
  cases h
  have hinner := typeKnown_field hbuiltin hf hknown htype
  split
  · exact hinner.applied (hbuiltin "Option" (by decide)) rfl rfl
  · exact hinner

end Types
/-! ## Paths in lines and initial values -/

section Lines
variable {known : String → Prop} {index : TypeIndex} {m : Message} {names : List String}

/-- The names that assignments of a message's decode method are made to. -/
def slotNames (m : Message) : List String := m.fields.map fun f => Identifier.escape f.slot.name

theorem tidy_initial (hbuiltin : ∀ name ∈ builtinTypes, known name) {kind : Kind}
    (hknown : KindKnown index known kind) {text : String} (h : defaultText index kind = .ok text) :
    Tidy known text := by
  have hnew : ∀ {head : String}, head.toList.all isNamePart = true → known head →
      Tidy known (head ++ "::" ++ "new()") := fun hparts hhead =>
    tidy_path (List.all_eq_true.mp hparts) hhead (by decide)
  cases kind with
  | integer _ _ | float _ | bool | message _ | oneof _ _ _ =>
    cases h
    exact tidy_of_not_mem (by decide)
  | string =>
    cases h
    exact hnew rfl (hbuiltin "String" (by decide))
  | bytes | repeated _ =>
    cases h
    exact hnew rfl (hbuiltin "Vec" (by decide))
  | map _ _ =>
    cases h
    exact hnew rfl (hknown.maps rfl)
  | enum name =>
    obtain ⟨decl,-,h⟩ := bind_eq_ok.mp h
    split at h
    · cases h
    · obtain ⟨identifier,hid,h⟩ := bind_eq_ok.mp h
      cases h
      obtain ⟨hname,hparts⟩ := hknown.types name List.mem_cons_self identifier hid
      exact tidy_path hparts hname (not_mem_of_parts (isNamePart_camel _))

/-- What the lines of a message need to be known. -/
structure CodeKnown (index : TypeIndex) (m : Message) (known : String → Prop) : Prop where
  builtin : ∀ name ∈ builtinTypes, known name
  kind : known "Kind"
  error : known "DecodingError"
  fields : ∀ f ∈ m.fields, ∀ kind, f.kind = .ok kind → KindKnown index known kind
  oneofs : ∀ f ∈ m.fields, ∀ g, f.group? = some g → ∀ identifier,
    groupIdentifier index m g = .ok identifier →
      known identifier ∧ ∀ c ∈ identifier.toList, isNamePart c = true

theorem escape_mem_slotNames {f : Field} (hf : f ∈ m.fields) :
    Identifier.escape f.slot.name ∈ slotNames m :=
  List.mem_map.mpr ⟨f,hf,rfl⟩

/-- Where the value of a field goes and what it is read by. -/
inductive ReadsField (index : TypeIndex) (m : Message) (f : Field) : Kind → FieldReader → Prop
  | plain {kind : Kind} {sink : Sink} {body : Reader} (hslot : f.slot = .field f.name)
      (hsink : sink = .store f.name ∨ sink = .storeSome f.name)
      (hbody : reader index kind sink 1 = .ok body) : ReadsField index m f kind (.guarded body)
  | member {group owner : String} {number : Int} {inner : Kind} {boxed : Bool} {body : Reader}
      (hgroup : f.group? = some group) (howner : groupIdentifier index m group = .ok owner)
      (hbody : reader index inner (.storeVariant group ⟨owner,f.name⟩ boxed) 1 = .ok body) :
      ReadsField index m f (.oneof group number inner) (.member number body)

theorem readsField_of_fieldReader {f : Field} {kind : Kind} (hkind : f.kind = .ok kind)
    {r : FieldReader} (h : fieldReader index m f kind = .ok r) : ReadsField index m f kind r := by
  have hgroup : (Binding.mk f kind ()).group? = f.group? := Field.group?_of_kind hkind
  unfold fieldReader at h
  split at h
  · obtain ⟨body,hbody,h⟩ := bind_eq_ok.mp h
    cases h
    exact .plain (Field.slot_of_plain (hgroup.symm.trans rfl)) (.inr rfl) hbody
  · obtain ⟨variant,hvariant,h⟩ := bind_eq_ok.mp h
    obtain ⟨body,hbody,h⟩ := bind_eq_ok.mp h
    obtain ⟨owner,howner,hvariant⟩ := bind_eq_ok.mp hvariant
    cases h
    cases hvariant
    exact .member (hgroup.symm.trans rfl) howner hbody
  · next hmessage honeof =>
    obtain ⟨body,hbody,h⟩ := bind_eq_ok.mp h
    cases h
    have hplain : f.group? = none := by
      rw [← hgroup]
      unfold Binding.group?
      split
      · next group number inner he => exact absurd he (honeof group number inner)
      · rfl
    exact .plain (Field.slot_of_plain hplain) (.inl rfl) hbody

/-- The lines that read a field have no unknown paths. -/
theorem CodeKnown.tidyLine_fieldReader (hcode : CodeKnown index m known) {f : Field}
    (hf : f ∈ m.fields) {kind : Kind} (hkind : f.kind = .ok kind) {r : FieldReader}
    (h : fieldReader index m f kind = .ok r) :
    ∀ line ∈ r.lines, TidyLine known (slotNames m) line := by
  have hknown := hcode.fields f hf kind hkind
  have hslot := escape_mem_slotNames hf
  have hread : ∀ {kind sink body}, KindKnown index known kind →
      sink.KeepsTidy known (slotNames m) → reader index kind sink 1 = .ok body →
      ∀ line ∈ indent 1 body.lines ++ ["\x7d"], TidyLine known (slotNames m) line := by
    intro kind sink body hkind hsink hbody
    refine List.forall_mem_append.mpr ⟨tidyLine_indent ?_ 1,List.forall_mem_singleton.mpr tidyLine_close⟩
    exact tidyLine_reader hcode.kind (hcode.builtin _ (by decide)) hkind hsink hbody
  cases readsField_of_fieldReader hkind h with
  | plain hfield hsink hbody =>
    rw [hfield] at hslot
    refine List.forall_mem_cons.mpr ⟨.plain (tidy_of_not_mem (by decide)),hread hknown ?_ hbody⟩
    rcases hsink with rfl | rfl
    · exact keepsTidy_store hslot
    · exact keepsTidy_storeSome hslot
  | @member group owner number inner boxed body hgroup howner hbody =>
    obtain ⟨hname,hparts⟩ := hcode.oneofs f hf group hgroup owner howner
    rw [Field.slot_of_group hgroup] at hslot
    have harm : Tidy known (toString number ++ " => \x7b") :=
      (tidy_of_not_mem ⟨not_mem_toString number (by decide),not_mem_toString number (by decide)⟩)
        |>.followed (tidy_of_not_mem (by decide)) (by decide)
    have hinner : KindKnown index known inner := ⟨hknown.types,hknown.maps⟩
    refine List.forall_mem_cons.mpr ⟨.plain harm,hread hinner ?_ hbody⟩
    exact keepsTidy_storeVariant hslot hparts hname (hcode.builtin _ (by decide))

theorem of_mem_decodeTable {table : List (Binding Decoding)} (h : decodeTable index m = .ok table)
    {b : Binding Decoding} (hb : b ∈ table) : b.field ∈ m.fields ∧ b.field.kind = .ok b.kind ∧
      fieldReader index m b.field b.kind = .ok b.code.reader ∧
      defaultText index b.kind = .ok b.code.initial := by
  obtain ⟨f,hf,hbind⟩ := exists_of_mem_right (mapM_eq_ok_iff.mp h) hb
  obtain ⟨kind,hk,hbind⟩ := bind_eq_ok.mp hbind
  obtain ⟨code,hcode,hbind⟩ := bind_eq_ok.mp hbind
  obtain ⟨initial,hinitial,hbind⟩ := bind_eq_ok.mp hbind
  cases hbind
  exact ⟨mem_byNumber.mp hf,kindOf_eq_ok hk,hcode,hinitial⟩

/-- The lines of a decode method that no single field is read by. -/
def frameLines : List String :=
  ["if !d.decode_none() \x7b",indentation 1 ++ "match d.decode_u32()? \x7b",
    indentation 2 ++ "_ => return Err(DecodingError::InvalidStruct.into()),",
    indentation 1 ++ "\x7d","\x7d"]

theorem mem_decodeBody {table : List (Binding Decoding)} {line : String}
    (h : line ∈ decodeBody table) : line ∈ frameLines ∨
      ∃ b ∈ table, ∃ level, line ∈ indent level (cutLines b.code.reader.lines) := by
  rw [decodeBody_eq] at h
  obtain ⟨run,hrun,hline⟩ := List.mem_flatMap.mp h
  cases run with
  | plain b =>
    have hzero : indent 0 (cutLines b.code.reader.lines) = cutLines b.code.reader.lines := by
      simp [indent,indentation]
    exact .inr ⟨b,mem_of_mem_runs hrun List.mem_cons_self,0,hzero.symm ▸ hline⟩
  | group name first more =>
    rw [Run.decodeLines,List.mem_append,List.mem_append] at hline
    rcases hline with (hline | hline) | hline
    · exact .inl (List.mem_append_left _ hline)
    · obtain ⟨b,hb,hline⟩ := List.mem_flatMap.mp hline
      exact .inr ⟨b,mem_of_mem_runs hrun hb,2,hline⟩
    · exact .inl (List.mem_append_right
        ["if !d.decode_none() \x7b",indentation 1 ++ "match d.decode_u32()? \x7b"] hline)

/-- The lines of a decode method have no unknown paths. -/
theorem CodeKnown.pathsKnown_decodeBody (hcode : CodeKnown index m known)
    {table : List (Binding Decoding)} (h : decodeTable index m = .ok table) :
    ∀ line ∈ decodeBody table, PathsKnown known (cutNames (slotNames m)) line.toList := by
  intro line hline
  rcases mem_decodeBody hline with hframe | ⟨b,hb,level,hline⟩
  · have htidy : ∀ {text : String}, Tidy known text →
        PathsKnown known (cutNames (slotNames m)) text.toList :=
      fun htidy before after he => .inl (htidy.heads before after he)
    have hplain : ∀ {text : String}, ':' ∉ text.toList ∧ '\n' ∉ text.toList → ∀ level,
        PathsKnown known (cutNames (slotNames m)) (indentation level ++ text).toList :=
      fun htext => (htidy (tidy_of_not_mem htext)).indented
    have hfault : Tidy known ("_ => return Err(" ++ ("DecodingError" ++ "::" ++
        "InvalidStruct.into()),")) :=
      tidy_call (by decide) (by decide) (List.all_eq_true.mp rfl) hcode.error (by decide)
    simp only [frameLines,List.mem_cons,List.not_mem_nil,or_false] at hframe
    rcases hframe with rfl | rfl | rfl | rfl | rfl
    · exact htidy (tidy_of_not_mem (by decide))
    · exact hplain (by decide) 1
    · exact (htidy hfault).indented 2
    · exact hplain (by decide) 1
    · exact htidy (tidy_of_not_mem (by decide))
  · obtain ⟨hf,hkind,hreader,-⟩ := of_mem_decodeTable h hb
    exact pathsKnown_indent (pathsKnown_cutLines (hcode.tidyLine_fieldReader hf hkind hreader))
      level line hline

end Lines

/-! ## Blocks -/

/-- All types that a message's block mentions are known: those in the types of its struct fields and
of its variants, and those whose paths stand in initial values and in lines of its decode method. -/
structure TypesKnown (known : String → Prop) (m : Message) (b : StructBlock) : Prop where
  fields : ∀ s ∈ b.fields, TypeKnown known s.type
  variants : ∀ o ∈ b.oneofs, ∀ v ∈ o.variants, TypeKnown known v.2
  initials : ∀ s ∈ b.fields, PathsKnown known [] s.initial.toList
  decode : ∀ line ∈ b.decode, PathsKnown known (cutNames (slotNames m)) line.toList

section Block
variable {known : String → Prop} {index : TypeIndex} {m : Message}

section Struct
variable {encode : List (Binding FieldWriter)} {table : List (Binding Decoding)}
  (htable : decodeTable index m = .ok table) {b : StructBlock}
  (h : structBlock index m encode table = .ok b)
include htable

theorem of_mem_boundFields {p : Field × Binding Decoding}
    (hp : p ∈ boundFields table m.fields) : p.2.field ∈ m.fields ∧
      p.2.field.kind = .ok p.2.kind ∧ defaultText index p.2.kind = .ok p.2.code.initial := by
  obtain ⟨f,-,hf⟩ := List.mem_filterMap.mp hp
  obtain ⟨b,hb,rfl⟩ := Option.map_eq_some_iff.mp hf
  have hin := List.mem_reverse.mp (List.mem_of_find?_eq_some hb)
  obtain ⟨hfield,hkind,-,hinitial⟩ := of_mem_decodeTable htable hin
  exact ⟨hfield,hkind,hinitial⟩

include h

theorem code_of_mem_fields {s : StructField} (hs : s ∈ b.fields) :
    (∃ f ∈ m.fields, ∃ g type, f.group? = some g ∧ groupIdentifier index m g = .ok type ∧
      s.type = "Option<" ++ type ++ ">" ∧ s.initial = "None") ∨
    ∃ f ∈ m.fields, ∃ kind, f.kind = .ok kind ∧ fieldTypeText index kind = .ok s.type ∧
      defaultText index kind = .ok s.initial := by
  obtain ⟨p,hp,hof⟩ := fieldOf_of_mem_structFields (structBlock_eq_ok h).1 s hs
  obtain ⟨hf,hkind,hinitial⟩ := of_mem_boundFields htable hp
  cases hg : p.2.group? with
  | some g =>
    obtain ⟨type,htype,he,hnone⟩ := hof.group g hg
    exact .inl ⟨_,hf,g,type,(Field.group?_of_kind hkind).symm.trans hg,htype,he,hnone⟩
  | none =>
    obtain ⟨htype,he⟩ := hof.plain hg
    exact .inr ⟨_,hf,_,hkind,htype,he ▸ hinitial⟩

theorem code_of_mem_oneofs {o : OneofBlock} (ho : o ∈ b.oneofs) {v : String × String}
    (hv : v ∈ o.variants) :
    ∃ f ∈ m.fields, ∃ kind, f.kind = .ok kind ∧ typeText index kind = .ok v.2 := by
  obtain ⟨g,-,ho⟩ := exists_of_mem_right (mapM_eq_ok_iff.mp (structBlock_eq_ok h).2.1) ho
  obtain ⟨name,-,ho⟩ := bind_eq_ok.mp ho
  obtain ⟨variants,hvariants,ho⟩ := bind_eq_ok.mp ho
  cases ho
  obtain ⟨p,hp,hv⟩ := exists_of_mem_right (mapM_eq_ok_iff.mp hvariants) hv
  obtain ⟨text,htext,hv⟩ := bind_eq_ok.mp hv
  cases hv
  obtain ⟨hf,hkind,-⟩ := of_mem_boundFields htable (List.mem_filter.mp hp).1
  exact ⟨_,hf,_,hkind,htext⟩

theorem CodeKnown.typesKnown (hcode : CodeKnown index m known) : TypesKnown known m b := by
  have htidy : ∀ {text}, Tidy known text → PathsKnown known [] text.toList :=
    fun h before after he => .inl (h.heads before after he)
  refine ⟨fun s hs => ?_,fun o ho v hv => ?_,fun s hs => ?_,?_⟩
  · rcases code_of_mem_fields htable h hs with
      ⟨f,hf,g,type,hg,htype,he,-⟩ | ⟨f,hf,kind,hkind,htype,-⟩
    · obtain ⟨hname,hparts⟩ := hcode.oneofs f hf g hg type htype
      rw [he]
      exact (typeKnown_of_parts hname hparts).applied (hcode.builtin "Option" (by decide)) rfl rfl
    · exact typeKnown_fieldType hcode.builtin hkind (hcode.fields f hf kind hkind) htype
  · obtain ⟨f,hf,kind,hkind,htext⟩ := code_of_mem_oneofs htable h ho hv
    exact typeKnown_field hcode.builtin hkind (hcode.fields f hf kind hkind) htext
  · rcases code_of_mem_fields htable h hs with ⟨_,-,_,_,-,-,-,he⟩ | ⟨f,hf,kind,hkind,-,hinitial⟩
    · rw [he]
      exact htidy (tidy_of_not_mem (by decide))
    · exact htidy (tidy_initial hcode.builtin (hcode.fields f hf kind hkind) hinitial)
  · rw [(structBlock_eq_ok h).2.2.2.2]
    exact hcode.pathsKnown_decodeBody htable

end Struct

theorem Field.refersTo_of_namedTypes {f : Field} {kind : Kind} (h : f.kind = .ok kind)
    {name : String} (hname : name ∈ namedTypes kind) : f.RefersTo name := by
  have hvalue : ∀ {v : ValueType} {kind}, v.kind = .ok kind → name ∈ namedTypes kind →
      v.type.isNamed = true ∧ v.typeName = some name ∧ name ≠ "" := by
    intro v kind hv hmem
    rcases v.kind_cases hv with ⟨t,-,rfl⟩ | ⟨n,hn,⟨ht,rfl⟩ | ⟨ht,rfl⟩⟩
    · rw [namedTypes_ofScalar] at hmem
      cases hmem
    · obtain rfl := List.mem_singleton.mp hmem
      exact ⟨ht ▸ rfl,nonempty?_eq_some.mp hn⟩
    · obtain rfl := List.mem_singleton.mp hmem
      exact ⟨ht ▸ rfl,nonempty?_eq_some.mp hn⟩
  obtain ⟨value,hv,hholds⟩ := Field.kind_eq_ok h
  cases hholds with
  | singular _ => exact ⟨f.value,.inr rfl,hvalue hv hname⟩
  | repeated _ => exact ⟨f.value,.inr rfl,hvalue hv hname⟩
  | map _ k key hk hkey _ =>
    rcases List.mem_append.mp hname with hname | hname
    · exact ⟨k,.inl hk,hvalue hkey hname⟩
    · exact ⟨f.value,.inr rfl,hvalue hv hname⟩
  | member _ g _ => exact ⟨f.value,.inr rfl,hvalue hv hname⟩

end Block

theorem isNamePart_identifierOf {files : List SchemaFile} {name identifier : String}
    (h : identifierOf (TypeIndex.ofFiles files) name = .ok identifier) :
    ∀ c ∈ identifier.toList, isNamePart c = true := by
  intro c hc
  exact isNamePart_of_isWordChar (isWordChar_identifierOf h c hc)

theorem isNamePart_groupIdentifier {files : List SchemaFile} {m : Message} {g identifier : String}
    (h : groupIdentifier (TypeIndex.ofFiles files) m g = .ok identifier) :
    ∀ c ∈ identifier.toList, isNamePart c = true := by
  obtain ⟨owner,howner,h⟩ := bind_eq_ok.mp h
  cases h
  intro c hc
  rw [String.toList_append,List.mem_append] at hc
  exact hc.elim (isNamePart_identifierOf howner c) (isNamePart_camel g c)

section Files
variable {files : List SchemaFile} (hp : (files.map (·.path)).Nodup)
  (hn : (files.flatMap SchemaFile.declaredNames).Nodup) {file : SchemaFile} (hf : file ∈ files)
include hp hn hf

/-- A type that a file refers to is declared in the file or imported. -/
theorem knownType_of_refersTo {name : String} (hrefers : file.RefersTo name) {identifier : String}
    (h : identifierOf (TypeIndex.ofFiles files) name = .ok identifier) (usesMap : Bool) :
    KnownType file (file.imports (TypeIndex.ofFiles files)) usesMap identifier := by
  obtain ⟨g,hg,d,hd,rfl,rfl⟩ := identifierOf_eq_ok h
  by_cases hpath : g.path = file.path
  · obtain rfl := List.inj_on_of_nodup_map hp hg hf hpath
    exact .declared hd
  · rw [← lastSegment_importFrom]
    exact .imported ((mem_imports_iff_refersTo hn).mpr ⟨g,hg,hpath,d,hd,hrefers,rfl⟩)

/-- The code of a message of a file has all it mentions from the file and from what it imports. -/
theorem codeKnown_of_message {m : Message} (hm : .message m ∈ file.declarations)
    {encode : List (Binding FieldWriter)}
    (hencode : encodeTable (TypeIndex.ofFiles files) m = .ok encode) :
    CodeKnown (TypeIndex.ofFiles files) m
      (KnownType file (file.imports (TypeIndex.ofFiles files)) (encode.any (·.kind.usesMap))) where
  builtin name h := .builtin h
  kind := .used (mem_usedNames_iff.mpr (.inl (by decide)))
  error := .used (mem_usedNames_iff.mpr (.inl (by decide)))
  fields f hfield kind hkind := by
    refine ⟨fun name hname identifier hid => ⟨?_,isNamePart_identifierOf hid⟩,fun hmap => ?_⟩
    · exact knownType_of_refersTo hp hn hf
        ⟨m,hm,f,hfield,Field.refersTo_of_namedTypes hkind hname⟩ hid _
    · have huses := (any_usesMap_iff hencode).mpr ⟨f,hfield,(Field.usesMap_kind_iff hkind).mp hmap⟩
      exact .used (mem_usedNames_iff.mpr (.inr ⟨huses,rfl⟩))
  oneofs f hfield g hg identifier hid := by
    refine ⟨?_,isNamePart_groupIdentifier hid⟩
    obtain ⟨owner,howner,hid⟩ := bind_eq_ok.mp hid
    cases hid
    have hfind : (TypeIndex.ofFiles files).find? m.fullName = some (TypeIndex.entryOf file (.message m)) :=
      TypeIndex.find?_ofFiles hn hf hm
    rw [identifierOf,hfind] at howner
    cases howner
    exact .oneof hm hfield hg

end Files

/-- Imports are exactly what is needed. A plan of a file among files with distinct names and paths
orders all declarations of the file. Its imports ascend by file and name, so none comes twice, and
are those of the types of other files that some field of a message of the file refers to. Every type
that the block of a message mentions is one of the language or the runtime, or the file declares it,
or the plan imports it. -/
theorem plan_imports_needed {files : List SchemaFile} (hp : (files.map (·.path)).Nodup)
    (hn : (files.flatMap SchemaFile.declaredNames).Nodup) {file : SchemaFile} (hf : file ∈ files)
    {plan : EmissionPlan} (h : file.plan (TypeIndex.ofFiles files) = .ok plan) :
    plan.order.Perm file.declaredNames ∧
    plan.imports.Nodup ∧ plan.imports.Pairwise ImportRef.Precedes ∧
    (∀ ref, ref ∈ plan.imports ↔ ∃ g ∈ files, g.path ≠ file.path ∧ ∃ d ∈ g.declarations,
      file.RefersTo d.fullName ∧
        ref = ⟨g.path,d.fullName,g.modulePath ++ "::" ++ typeIdentifier d.fullName g.package⟩) ∧
    ∀ m, .message m ∈ file.declarations → ∀ b usesMap,
      blockOf (TypeIndex.ofFiles files) (.message m) = .ok (.struct b,usesMap) →
        TypesKnown (KnownType file plan.imports usesMap) m b := by
  have himports := (SchemaFile.of_plan h).1
  have hsorted := himports ▸ pairwise_imports file (TypeIndex.ofFiles files)
  have hperm := SchemaFile.order_perm ((List.nodup_flatMap.mp hn).1 file hf) h
  refine ⟨hperm,hsorted.imp ImportRef.Precedes.ne,hsorted,?_,?_⟩
  · intro ref
    rw [himports]
    exact mem_imports_iff_refersTo hn
  · intro m hm b usesMap hblock
    obtain ⟨encode,hencode,hblock⟩ := bind_eq_ok.mp hblock
    obtain ⟨decode,hdecode,hblock⟩ := bind_eq_ok.mp hblock
    obtain ⟨struct,hstruct,hblock⟩ := bind_eq_ok.mp hblock
    cases hblock
    rw [himports]
    exact CodeKnown.typesKnown hdecode hstruct (codeKnown_of_message hp hn hf hm hencode)

/-- A file of a message and an enum. -/
def placesFile : SchemaFile :=
  ⟨"geo/places.proto","geo",[],[⟨"Place","geo.Place",[],[],[],none⟩],
    [⟨"Zone","geo.Zone",[⟨"ZONE_NONE",0,none⟩],none⟩],true⟩

/-- A message that holds another file's types in a map and a oneof, and its own one in a list. -/
def tripMessage : Message :=
  ⟨"Trip","trip.Trip",
    [⟨"zones",1,.map,⟨.enum,some "geo.Zone"⟩,some ⟨.scalar .string,none⟩,none,none⟩,
      ⟨"stop",2,.oneof,⟨.message,some "geo.Place"⟩,none,some "next",none⟩,
      ⟨"legs",3,.repeated,⟨.message,some "trip.Trip.Leg"⟩,none,none,none⟩],
    [⟨"Leg","trip.Trip.Leg",[⟨"end",1,.singular,⟨.message,some "geo.Place"⟩,none,none,none⟩],[],[],
      none⟩],[],none⟩

def tripFile : SchemaFile := ⟨"trip.proto","trip",["geo/places.proto"],[tripMessage],[],true⟩

theorem tripFile_imports_needed :
    ([tripFile,placesFile].map (·.path)).Nodup ∧
    ([tripFile,placesFile].flatMap SchemaFile.declaredNames).Nodup ∧
    ∃ plan, tripFile.plan (TypeIndex.ofFiles [tripFile,placesFile]) = .ok plan ∧
      plan.order.Perm ["trip.Trip","trip.Trip.Leg"] ∧
      plan.imports.Pairwise ImportRef.Precedes ∧
      ⟨"geo/places.proto","geo.Place","crate::geo::Place"⟩ ∈ plan.imports ∧
      ⟨"geo/places.proto","geo.Zone","crate::geo::Zone"⟩ ∈ plan.imports ∧
      ∀ b usesMap, blockOf (TypeIndex.ofFiles [tripFile,placesFile]) (.message tripMessage) =
        .ok (.struct b,usesMap) → TypesKnown (KnownType tripFile plan.imports usesMap) tripMessage b := by
  have hp : ([tripFile,placesFile].map (·.path)).Nodup := by decide
  have hn : ([tripFile,placesFile].flatMap SchemaFile.declaredNames).Nodup := by decide
  have hf : tripFile ∈ [tripFile,placesFile] := List.mem_cons_self
  have hm : .message tripMessage ∈ tripFile.declarations := by
    simp [tripFile,SchemaFile.declarations,Message.declarationsOf,Message.declarations,tripMessage]
  have hknown : ∀ r ∈ tripFile.references,
      (TypeIndex.ofFiles [tripFile,placesFile]).contains r.target = true := by decide
  have houtside : ∀ r ∈ tripFile.references, r.field.cardinality = .singular →
      r.target ∉ tripFile.declaredNames := by decide
  have hedge : ∀ a b, ¬ tripFile.InlineEdge a b := by
    rintro a b ⟨m,f,hm,hname,hf,hc,href,hdecl⟩
    exact houtside ⟨a,f,b⟩ (SchemaFile.mem_references.mpr ⟨m,f,hm,hname,hf,href,rfl⟩) hc hdecl
  have hlocal := fun r hr => TypeIndex.isForeign_eq_false_iff hn hp hf (hknown r hr)
  obtain ⟨plan,hplan⟩ := (SchemaFile.exists_plan_iff (by decide) hlocal hknown).mpr fun a ha => by
    cases ha with
    | single h => exact hedge _ _ h
    | tail _ h => exact hedge _ _ h
  obtain ⟨horder,-,hsorted,himports,hblocks⟩ := plan_imports_needed hp hn hf hplan
  have hplaces : placesFile ∈ [tripFile,placesFile] := by simp
  refine ⟨hp,hn,plan,hplan,horder,hsorted,?_,?_,hblocks tripMessage hm⟩
  · refine (himports _).mpr ⟨placesFile,hplaces,by decide,.message ⟨"Place","geo.Place",[],[],[],none⟩,
      ?_,⟨tripMessage,hm,_,List.mem_cons_of_mem _ List.mem_cons_self,_,.inr rfl,rfl,rfl,by decide⟩,?_⟩
    · simp [placesFile,SchemaFile.declarations,Message.declarationsOf,Message.declarations]
    · decide
  · refine (himports _).mpr ⟨placesFile,hplaces,by decide,
      .enum ⟨"Zone","geo.Zone",[⟨"ZONE_NONE",0,none⟩],none⟩,?_,
      ⟨tripMessage,hm,_,List.mem_cons_self,_,.inr rfl,rfl,rfl,by decide⟩,?_⟩
    · simp [placesFile,SchemaFile.declarations]
    · decide

end SchemaCodec
