import SchemaCodec.Proofs.Codec.Bindings
import SchemaCodec.Proofs.Generation
import SchemaCodec.Proofs.Rendering.Containment

/-! # Which declarations have a block

Among coherent files every declaration has its block of code, except for a message with a singular
field whose enum has no values. The enum may be declared in any of the files. The plan of a file
lists every declaration of the file once, so the blocks that a source is put together from are those
of the declarations, each once.
-/
namespace SchemaCodec
open Codec Rendering

/-- A singular field that refers to an enum without values. -/
def Field.LacksDefault (files : List SchemaFile) (f : Field) : Prop :=
  f.cardinality = .singular ∧ ∃ file ∈ files, ∃ decl, .enum decl ∈ file.declarations ∧
    decl.fullName ∈ f.references ∧ decl.values = []

/-- Coherent files whose declarations are named by words. -/
structure Readable (files : List SchemaFile) : Prop extends Coherent files where
  named : ∀ file ∈ files, ∀ d ∈ file.declarations, d.Named

theorem parseAll_readable {sources : List (String × String)} {files : List SchemaFile}
    (h : parseAll sources = .ok files) : Readable files :=
  ⟨(parseAll_eq_ok h).1,fun _ => parseAll_named h⟩

namespace Readable
variable {files : List SchemaFile} (h : Readable files)
include h

theorem fullName_ne_empty : ∀ n ∈ namedSorts files, n.name ≠ "" := by
  intro n hn
  obtain ⟨file,hfile,hn⟩ := List.mem_flatMap.mp hn
  obtain ⟨d,hd,rfl⟩ := List.mem_map.mp hn
  exact (h.named file hfile d hd).fullName

theorem contains_declared {file : SchemaFile} (hfile : file ∈ files) {d : Declaration}
    (hd : d ∈ file.declarations) : (TypeIndex.ofFiles files).contains d.fullName = true := by
  rw [TypeIndex.contains,TypeIndex.find?_ofFiles h.distinct hfile hd]
  rfl

/-- An enum can be started from exactly if it has values. -/
theorem exists_defaultText_enum_iff {file : SchemaFile} (hfile : file ∈ files) {decl : EnumDecl}
    (hd : .enum decl ∈ file.declarations) :
    (∃ text, defaultText (TypeIndex.ofFiles files) (.enum decl.fullName) = .ok text) ↔
      decl.values ≠ [] := by
  have hfind := TypeIndex.find?_ofFiles h.distinct hfile hd
  have hdecl : enumDeclaration (TypeIndex.ofFiles files) decl.fullName = .ok decl := by
    rw [enumDeclaration,show decl.fullName = (Declaration.enum decl).fullName from rfl,hfind]
    rfl
  obtain ⟨identifier,hid⟩ := exists_identifierOf (h.contains_declared hfile hd)
  rw [defaultText,exists_bind_eq_ok_iff,hdecl]
  cases hv : decl.values with
  | nil => simp [hv]
  | cons first more =>
    refine iff_of_true ⟨decl,rfl,?_⟩ (by simp)
    rw [hv]
    exact ⟨_,bind_eq_ok.mpr ⟨identifier,hid,rfl⟩⟩

section Fields
variable {file : SchemaFile} (hfile : file ∈ files) {m : Message}
  (hm : .message m ∈ file.declarations) {f : Field} (hf : f ∈ m.fields)
include hfile hm hf

/-- A field refers to a declaration of one of the files, as what it is declared as. -/
theorem exists_declaration {name : String} (hname : name ∈ f.references) :
    ∃ g ∈ files, ∃ d ∈ g.declarations, d.fullName = name ∧ f.value.type = d.sort.fieldType := by
  have hresolved := (h.sound file hfile m hm).resolved f hf
  obtain ⟨hnamed,hn⟩ := hresolved.mem_references.mp hname
  obtain ⟨hn,-⟩ := nonempty?_eq_some.mp hn
  rcases hresolved.value with ⟨t,ht⟩ | ⟨n,hmem,hv⟩
  · simp [ht,FieldType.isNamed] at hnamed
  · obtain ⟨g,hg,hmem⟩ := List.mem_flatMap.mp hmem
    obtain ⟨d,hd,rfl⟩ := List.mem_map.mp hmem
    refine ⟨g,hg,d,hd,?_,by rw [hv]; rfl⟩
    simpa [hv,Declaration.named] using hn

theorem contains_reference {name : String} (hname : name ∈ f.references) :
    (TypeIndex.ofFiles files).contains name = true := by
  obtain ⟨g,hg,d,hd,rfl,-⟩ := h.exists_declaration hfile hm hf hname
  exact h.contains_declared hg hd

theorem exists_fieldKind : ∃ kind, f.kind = .ok kind ∧
    ∀ name ∈ namedTypes kind, (TypeIndex.ofFiles files).contains name = true := by
  have hresolved := (h.sound file hfile m hm).resolved f hf
  obtain ⟨kind,hk⟩ := hresolved.exists_kind ((h.named file hfile _ hm).fields m rfl f hf)
    h.fullName_ne_empty
  refine ⟨kind,hk,fun name hname => ?_⟩
  exact h.contains_reference hfile hm hf ((hresolved.mem_namedTypes hk).mp hname)

/-- A field whose type is this declaration lacks a default only if that is an enum. -/
theorem lacksDefault_iff {g : SchemaFile} (hg : g ∈ files) {d : Declaration}
    (hd : d ∈ g.declarations) (hname : d.fullName ∈ f.references) :
    f.LacksDefault files ↔
      f.cardinality = .singular ∧ ∃ decl, d = .enum decl ∧ decl.values = [] := by
  have hresolved := (h.sound file hfile m hm).resolved f hf
  constructor
  · rintro ⟨hc,g',hg',decl,hdecl,hname',hempty⟩
    have hsame : decl.fullName = d.fullName := by
      obtain ⟨-,hn⟩ := hresolved.mem_references.mp hname
      obtain ⟨-,hn'⟩ := hresolved.mem_references.mp hname'
      exact Option.some.inj (hn'.symm.trans hn)
    obtain ⟨-,he⟩ := h.declaration_unique hg' hg hdecl hd hsame
    exact ⟨hc,decl,he.symm,hempty⟩
  · rintro ⟨hc,decl,rfl,hempty⟩
    exact ⟨hc,g,hg,decl,hd,hname,hempty⟩

/-- Every field has a value to start from, unless it lacks a default. -/
theorem exists_defaultText_iff {kind : Kind} (hk : f.kind = .ok kind) :
    (∃ text, defaultText (TypeIndex.ofFiles files) kind = .ok text) ↔ ¬ f.LacksDefault files := by
  have hresolved := (h.sound file hfile m hm).resolved f hf
  obtain ⟨value,hvalue,hholds⟩ := Field.kind_eq_ok hk
  cases hholds with
  | repeated hc | map hc _ _ _ _ _ | member hc _ _ =>
    exact iff_of_true ⟨_,rfl⟩ fun hlacks => by simp [hlacks.1] at hc
  | singular hc =>
    rcases ValueType.kind_cases hvalue with ⟨t,ht,rfl⟩ | ⟨name,hn,htype⟩
    · refine iff_of_true (by cases t <;> exact ⟨_,rfl⟩) ?_
      rintro ⟨-,-,-,decl,-,hname,-⟩
      have hnamed := (hresolved.mem_references.mp hname).1
      simp [ht,FieldType.isNamed] at hnamed
    · have hnamed : f.value.type.isNamed = true := by
        rcases htype with ⟨ht,-⟩ | ⟨ht,-⟩ <;> simp [ht,FieldType.isNamed]
      have hname : name ∈ f.references := hresolved.mem_references.mpr ⟨hnamed,hn⟩
      obtain ⟨g,hg,d,hd,rfl,hsort⟩ := h.exists_declaration hfile hm hf hname
      rw [h.lacksDefault_iff hfile hm hf hg hd hname]
      rcases htype with ⟨ht,rfl⟩ | ⟨ht,rfl⟩
      · cases d with
        | message _ => simp [ht,Declaration.sort,TypeSort.fieldType] at hsort
        | enum decl => simpa [hc,Declaration.fullName] using h.exists_defaultText_enum_iff hg hd
      · cases d with
        | message _ => exact iff_of_true ⟨_,rfl⟩ (by simp)
        | enum _ => simp [ht,Declaration.sort,TypeSort.fieldType] at hsort

theorem exists_bindWriter :
    ∃ b, bindWriter (TypeIndex.ofFiles files) m f = .ok b := by
  obtain ⟨kind,hk,-⟩ := h.exists_fieldKind hfile hm hf
  obtain ⟨w,hw⟩ := exists_fieldWriter (h.contains_declared hfile hm) hk
  have hkind : kindOf f = .ok kind := by rw [kindOf,hk]
  exact ⟨_,bind_eq_ok.mpr ⟨kind,hkind,bind_eq_ok.mpr ⟨w,hw,rfl⟩⟩⟩

theorem exists_bindReader_iff :
    (∃ b, bindReader (TypeIndex.ofFiles files) m f = .ok b) ↔ ¬ f.LacksDefault files := by
  obtain ⟨kind,hk,hnamed⟩ := h.exists_fieldKind hfile hm hf
  obtain ⟨r,hr⟩ := exists_fieldReader (h.contains_declared hfile hm) hk hnamed
  have hkind : kindOf f = .ok kind := by rw [kindOf,hk]
  rw [← h.exists_defaultText_iff hfile hm hf hk,bindReader,exists_bind_eq_ok_iff]
  constructor
  · rintro ⟨kind',hkind',hb⟩
    cases hkind.symm.trans hkind'
    obtain ⟨_,-,hb⟩ := exists_bind_eq_ok_iff.mp hb
    obtain ⟨text,htext,-⟩ := exists_bind_eq_ok_iff.mp hb
    exact ⟨text,htext⟩
  · rintro ⟨text,htext⟩
    exact ⟨kind,hkind,_,bind_eq_ok.mpr ⟨r,hr,bind_eq_ok.mpr ⟨text,htext,rfl⟩⟩⟩

end Fields

section Tables
variable {file : SchemaFile} (hfile : file ∈ files) {m : Message}
  (hm : .message m ∈ file.declarations)
include hfile hm

theorem exists_encodeTable : ∃ table, encodeTable (TypeIndex.ofFiles files) m = .ok table := by
  refine exists_mapM_eq_ok_iff.mpr fun f hf => h.exists_bindWriter hfile hm ?_
  exact mem_byNumber.mp hf

theorem exists_decodeTable_iff :
    (∃ table, decodeTable (TypeIndex.ofFiles files) m = .ok table) ↔
      ∀ f ∈ m.fields, ¬ f.LacksDefault files := by
  rw [decodeTable,exists_mapM_eq_ok_iff]
  constructor
  · intro hall f hf
    exact (h.exists_bindReader_iff hfile hm hf).mp (hall f (mem_byNumber.mpr hf))
  · intro hall f hf
    have hf := mem_byNumber.mp hf
    exact (h.exists_bindReader_iff hfile hm hf).mpr (hall f hf)

/-- Whatever is bound to a field has a kind whose types are declared. -/
theorem contains_of_bound {table : List (Binding Decoding)}
    (ht : decodeTable (TypeIndex.ofFiles files) m = .ok table) {f : Field} {b : Binding Decoding}
    (hb : (f,b) ∈ boundFields table m.fields) :
    ∀ name ∈ namedTypes b.kind, (TypeIndex.ofFiles files).contains name = true := by
  obtain ⟨g,-,hfind⟩ := List.mem_filterMap.mp hb
  obtain ⟨c,hfind,he⟩ := Option.map_eq_some_iff.mp hfind
  cases he
  have hmem := List.mem_reverse.mp (List.mem_of_find?_eq_some hfind)
  obtain ⟨g',hg',hbind⟩ := exists_of_mem_right (mapM_eq_ok_iff.mp ht) hmem
  obtain ⟨rfl,hk⟩ := bindReader_eq_ok hbind
  have hg' := mem_byNumber.mp hg'
  obtain ⟨kind,hk',hnamed⟩ := h.exists_fieldKind hfile hm hg'
  cases hk.symm.trans hk'
  exact hnamed

end Tables
end Readable

namespace Rendering
variable {index : TypeIndex} {m : Message}

theorem exists_typeText {kind : Kind}
    (hnamed : ∀ name ∈ namedTypes kind, index.contains name = true) :
    ∃ text, typeText index kind = .ok text := by
  induction kind with
  | integer _ _ | float _ | bool | string | bytes => exact ⟨_,rfl⟩
  | enum name | message name => exact exists_identifierOf (hnamed name List.mem_cons_self)
  | repeated element ih =>
    obtain ⟨text,htext⟩ := ih hnamed
    exact ⟨_,bind_eq_ok.mpr ⟨text,htext,rfl⟩⟩
  | map key value ihk ihv =>
    obtain ⟨hkey,hvalue⟩ := List.forall_mem_append.mp hnamed
    obtain ⟨keyText,hkt⟩ := ihk hkey
    obtain ⟨valueText,hvt⟩ := ihv hvalue
    exact ⟨_,bind_eq_ok.mpr ⟨keyText,hkt,bind_eq_ok.mpr ⟨valueText,hvt,rfl⟩⟩⟩
  | oneof _ _ inner ih =>
    obtain ⟨text,htext⟩ := ih hnamed
    exact ⟨_,bind_eq_ok.mpr ⟨text,htext,rfl⟩⟩

section Struct
variable (hm : index.contains m.fullName = true) {bound : List (Field × Binding Decoding)}
  (hbound : ∀ p ∈ bound, ∀ name ∈ namedTypes p.2.kind, index.contains name = true)
include hm hbound

theorem exists_structFields (groups : List String) :
    ∃ fields, structFields index m groups bound = .ok fields := by
  obtain ⟨identifier,hid⟩ := exists_identifierOf hm
  induction bound generalizing groups with
  | nil => exact ⟨[],rfl⟩
  | cons p rest ih =>
    obtain ⟨f,b⟩ := p
    obtain ⟨hb,hrest⟩ := List.forall_mem_cons.mp hbound
    rw [structFields]
    cases hg : b.group? with
    | some g =>
      by_cases hin : g ∈ groups
      · simpa [hin] using ih hrest groups
      · obtain ⟨fields,hfields⟩ := ih hrest (g :: groups)
        have hname : groupIdentifier index m g = .ok (identifier ++ Identifier.camel g) := by
          rw [groupIdentifier,hid]
          rfl
        simp only [hin,if_false]
        exact ⟨_,bind_eq_ok.mpr ⟨_,hname,bind_eq_ok.mpr ⟨fields,hfields,rfl⟩⟩⟩
    | none =>
      obtain ⟨text,htext⟩ := exists_typeText hb
      obtain ⟨fields,hfields⟩ := ih hrest groups
      exact ⟨_,bind_eq_ok.mpr ⟨_,bind_eq_ok.mpr ⟨text,htext,rfl⟩,
        bind_eq_ok.mpr ⟨fields,hfields,rfl⟩⟩⟩

theorem exists_oneofBlock (group : String) :
    ∃ block, oneofBlock index m bound group = .ok block := by
  obtain ⟨identifier,hid⟩ := exists_identifierOf hm
  have hname : groupIdentifier index m group = .ok (identifier ++ Identifier.camel group) := by
    rw [groupIdentifier,hid]
    rfl
  obtain ⟨variants,hvariants⟩ : ∃ variants, (bound.filter fun p => p.2.group? == some group).mapM
      (fun p => do .ok (variantIdentifier p.1,← typeText index p.2.kind)) = .ok variants := by
    refine exists_mapM_eq_ok_iff.mpr fun p hp => ?_
    obtain ⟨text,htext⟩ := exists_typeText (hbound p (List.mem_filter.mp hp).1)
    exact ⟨_,bind_eq_ok.mpr ⟨text,htext,rfl⟩⟩
  exact ⟨_,bind_eq_ok.mpr ⟨_,hname,bind_eq_ok.mpr ⟨variants,hvariants,rfl⟩⟩⟩

end Struct

/-- A message has its struct if the index has all types that the struct names. -/
theorem exists_structBlock {decode : List (Binding Decoding)}
    (hm : index.contains m.fullName = true)
    (hbound : ∀ p ∈ boundFields decode m.fields, ∀ name ∈ namedTypes p.2.kind,
      index.contains name = true) (encode : List (Binding FieldWriter)) :
    ∃ b, structBlock index m encode decode = .ok b := by
  obtain ⟨fields,hfields⟩ := exists_structFields hm hbound []
  obtain ⟨oneofs,honeofs⟩ := exists_mapM_eq_ok_iff.mpr
    fun group (_ : group ∈ ((boundFields decode m.fields).filterMap
      fun p => p.2.group?).eraseDups) => exists_oneofBlock hm hbound group
  obtain ⟨identifier,hid⟩ := exists_identifierOf hm
  exact ⟨_,bind_eq_ok.mpr ⟨fields,hfields,bind_eq_ok.mpr ⟨oneofs,honeofs,
    bind_eq_ok.mpr ⟨identifier,hid,rfl⟩⟩⟩⟩

end Rendering

namespace Readable
variable {files : List SchemaFile} (h : Readable files) {file : SchemaFile} (hfile : file ∈ files)
include h hfile

theorem exists_enumBlock {decl : EnumDecl} (hd : .enum decl ∈ file.declarations) :
    ∃ block, enumBlock (TypeIndex.ofFiles files) decl = .ok block := by
  obtain ⟨identifier,hid⟩ := exists_identifierOf (h.contains_declared hfile hd)
  exact ⟨_,bind_eq_ok.mpr ⟨identifier,hid,rfl⟩⟩

/-- A declaration has its block exactly if no field of it lacks a default. -/
theorem exists_blockOf_iff {d : Declaration} (hd : d ∈ file.declarations) :
    (∃ block, blockOf (TypeIndex.ofFiles files) d = .ok block) ↔
      ∀ m, d = .message m → ∀ f ∈ m.fields, ¬ f.LacksDefault files := by
  cases d with
  | enum decl =>
    obtain ⟨block,hblock⟩ := h.exists_enumBlock hfile hd
    exact iff_of_true ⟨_,bind_eq_ok.mpr ⟨block,hblock,rfl⟩⟩ (by simp)
  | message m =>
    have hm := h.contains_declared hfile hd
    constructor
    · rintro ⟨⟨block,usesMap⟩,hblock⟩ m' he
      cases he
      obtain ⟨_,decode,_,-,hdecode,-,-⟩ := blockOf_message_eq_ok hblock
      exact (h.exists_decodeTable_iff hfile hd).mp ⟨decode,hdecode⟩
    · intro hall
      obtain ⟨encode,hencode⟩ := h.exists_encodeTable hfile hd
      obtain ⟨decode,hdecode⟩ := (h.exists_decodeTable_iff hfile hd).mpr (hall m rfl)
      obtain ⟨block,hblock⟩ := exists_structBlock hm
        (fun p hp => h.contains_of_bound hfile hd hdecode hp) encode
      exact ⟨_,bind_eq_ok.mpr ⟨encode,hencode,bind_eq_ok.mpr ⟨decode,hdecode,
        bind_eq_ok.mpr ⟨block,hblock,rfl⟩⟩⟩⟩

end Readable

/-! ## One block for each declaration -/

section Files
variable {files : List SchemaFile} {file : SchemaFile} (hfile : file ∈ files)

section Distinct
variable (hn : (files.flatMap SchemaFile.declaredNames).Nodup)
include hn hfile

theorem plannedDeclaration_ofFiles {d : Declaration} (hd : d ∈ file.declarations) :
    plannedDeclaration (TypeIndex.ofFiles files) d.fullName = .ok d := by
  rw [plannedDeclaration,TypeIndex.find?_ofFiles hn hfile hd]
  rfl

/-- The blocks of a source are those of the file's declarations, each once. -/
theorem Assembled.declarations {version source : String} {plan : EmissionPlan}
    {blocks : List (Block × Bool)}
    (ha : Assembled (TypeIndex.ofFiles files) file version source plan blocks) :
    ∃ ds, ds.Perm file.declarations ∧
      List.Forall₂ (fun d b => blockOf (TypeIndex.ofFiles files) d = .ok b) ds blocks := by
  have hnames : file.declaredNames.Nodup := (List.nodup_flatMap.mp hn).1 file hfile
  have hnamed : List.Forall₂ (fun name (d : Declaration) => d.fullName = name)
      file.declaredNames file.declarations := by
    rw [SchemaFile.declaredNames,List.forall₂_map_left_iff,List.forall₂_same]
    exact fun _ _ => rfl
  obtain ⟨ds,hds,hperm⟩ :=
    List.perm_comp_forall₂ (SchemaFile.order_perm hnames ha.planned) hnamed
  refine ⟨ds,hperm,?_⟩
  refine ((List.forall₂_and_left _ _).mpr
    ⟨fun d hd => hperm.mem_iff.mp hd,forall₂_comp hds.flip ha.built⟩).imp ?_
  rintro d b ⟨hd,name,rfl,d',hplanned,hblock⟩
  rw [plannedDeclaration_ofFiles hfile hn hd] at hplanned
  cases hplanned
  exact hblock

end Distinct

variable (h : Readable files)
include h hfile

theorem Readable.contains_target {r : Reference} (hr : r ∈ file.references) :
    (TypeIndex.ofFiles files).contains r.target = true := by
  obtain ⟨m,f,hm,-,hf,htarget,-⟩ := SchemaFile.mem_references.mp hr
  exact h.contains_reference hfile hm hf htarget

theorem Readable.isForeign_target_iff (hp : (files.map (·.path)).Nodup) {r : Reference}
    (hr : r ∈ file.references) :
    (TypeIndex.ofFiles files).isForeign file.path r.target = false ↔
      r.target ∈ file.declaredNames :=
  TypeIndex.isForeign_eq_false_iff h.distinct hp hfile (h.contains_target hfile hr)

/-- A plan lists the declared names, each once, and the imports of its file. -/
theorem Readable.plan_eq_ok {plan : EmissionPlan}
    (hplan : file.plan (TypeIndex.ofFiles files) = .ok plan) : plan.order.Nodup ∧
      (∀ name, name ∈ plan.order ↔ name ∈ file.declaredNames) ∧
      plan.imports = file.imports (TypeIndex.ofFiles files) := by
  have hnames : file.declaredNames.Nodup := (List.nodup_flatMap.mp h.distinct).1 file hfile
  have hperm := SchemaFile.order_perm hnames hplan
  exact ⟨hperm.nodup_iff.mpr hnames,fun name => hperm.mem_iff,(SchemaFile.of_plan hplan).1⟩

end Files
end SchemaCodec
