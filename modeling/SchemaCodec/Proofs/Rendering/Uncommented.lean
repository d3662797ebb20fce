import SchemaCodec.Proofs.Rendering.Lookups
import SchemaCodec.Proofs.Schema.Uncommented
import SchemaCodec.Proofs.Semantics.Methods

/-! # Blocks of schemas without comments

Comments end up in the comments of blocks and nowhere else. A schema without its comments has the
same plan, and its blocks are those of the schema, each without its comments.
-/
namespace SchemaCodec
open Codec Rendering

namespace Rendering

def EnumBlock.uncommented (b : EnumBlock) : EnumBlock := { b with comment := none }

def StructField.uncommented (f : StructField) : StructField := { f with comment := none }

def StructBlock.uncommented (b : StructBlock) : StructBlock :=
  { b with comment := none, fields := b.fields.map StructField.uncommented }

def Block.uncommented : Block → Block
  | .enum b => .enum b.uncommented
  | .struct b => .struct b.uncommented

end Rendering

namespace Codec

def Binding.uncommented {α : Type} (b : Binding α) : Binding α :=
  { b with field := b.field.uncommented }

theorem byNumber_uncommented (fields : List Field) :
    byNumber (fields.map Field.uncommented) = (byNumber fields).map Field.uncommented := by
  have hsame : ∀ a ∈ fields, ∀ b ∈ fields, decide (a.number ≤ b.number) =
      decide (a.uncommented.number ≤ b.uncommented.number) := fun _ _ _ _ => rfl
  exact (List.map_mergeSort hsame).symm

theorem group?_uncommented {α : Type} (b : Binding α) : b.uncommented.group? = b.group? := rfl

/-- Bodies of methods hold nothing of comments. -/
theorem encodeBody_uncommented (table : List (Binding FieldWriter)) :
    encodeBody (table.map Binding.uncommented) = encodeBody table := by
  rw [encodeBody,encodeBody,runs_map group?_uncommented,List.flatMap_map]
  refine List.flatMap_congr fun run _ => ?_
  cases run with
  | plain b => rfl
  | group name first more =>
    simp only [Run.map,← List.map_cons,List.flatMap_map]
    rfl

theorem decodeBody_uncommented (table : List (Binding Decoding)) :
    decodeBody (table.map Binding.uncommented) = decodeBody table := by
  rw [decodeBody,decodeBody,runs_map group?_uncommented,List.flatMap_map]
  refine List.flatMap_congr fun run _ => ?_
  cases run with
  | plain b => rfl
  | group name first more =>
    simp only [Run.map,← List.map_cons,List.flatMap_map]
    rfl

section Tables
variable (index : TypeIndex) (m : Message)

theorem groupIdentifier_uncommented (group : String) :
    groupIdentifier index m.uncommented group = groupIdentifier index m group := by
  rw [groupIdentifier,groupIdentifier,m.fullName_uncommented]

theorem variantOf_uncommented (f : Field) (group : String) :
    variantOf index m.uncommented f.uncommented group = variantOf index m f group := by
  rw [variantOf,variantOf,groupIdentifier_uncommented]
  rfl

theorem fieldWriter_uncommented (f : Field) (kind : Kind) :
    fieldWriter index m.uncommented f.uncommented kind = fieldWriter index m f kind := by
  cases kind
  case oneof group number inner =>
    rw [fieldWriter,fieldWriter,variantOf_uncommented]
  all_goals rfl

theorem fieldReader_uncommented (f : Field) (kind : Kind) :
    fieldReader index m.uncommented f.uncommented kind = fieldReader index m f kind := by
  cases kind
  case oneof group number inner =>
    rw [fieldReader,fieldReader,variantOf_uncommented]
  all_goals rfl

variable {index m}

theorem bindWriter_uncommented {f : Field} {b : Binding FieldWriter}
    (h : bindWriter index m f = .ok b) :
    bindWriter index m.uncommented f.uncommented = .ok b.uncommented := by
  obtain ⟨kind,hkind,h⟩ := bind_eq_ok.mp h
  obtain ⟨code,hcode,h⟩ := bind_eq_ok.mp h
  cases h
  refine bind_eq_ok.mpr ⟨kind,hkind,bind_eq_ok.mpr ⟨code,?_,rfl⟩⟩
  rwa [fieldWriter_uncommented]

theorem bindReader_uncommented {f : Field} {b : Binding Decoding}
    (h : bindReader index m f = .ok b) :
    bindReader index m.uncommented f.uncommented = .ok b.uncommented := by
  obtain ⟨kind,hkind,h⟩ := bind_eq_ok.mp h
  obtain ⟨code,hcode,h⟩ := bind_eq_ok.mp h
  obtain ⟨initial,hinitial,h⟩ := bind_eq_ok.mp h
  cases h
  refine bind_eq_ok.mpr ⟨kind,hkind,bind_eq_ok.mpr ⟨code,?_,
    bind_eq_ok.mpr ⟨initial,hinitial,rfl⟩⟩⟩
  rwa [fieldReader_uncommented]

theorem mapM_uncommented {α : Type} {bind : Message → Field → Except CodecError (Binding α)}
    (hbind : ∀ {f b}, bind m f = .ok b → bind m.uncommented f.uncommented = .ok b.uncommented)
    {table : List (Binding α)} (h : (byNumber m.fields).mapM (bind m) = .ok table) :
    (byNumber m.uncommented.fields).mapM (bind m.uncommented) =
      .ok (table.map Binding.uncommented) := by
  rw [m.fields_uncommented,byNumber_uncommented,mapM_eq_ok_iff,List.forall₂_map_left_iff,
    List.forall₂_map_right_iff]
  exact (mapM_eq_ok_iff.mp h).imp fun _ _ hb => hbind hb

end Tables
end Codec

/-! ## Blocks -/

section Blocks
variable {index : TypeIndex} {m : Message}

theorem bindingOf?_uncommented (table : List (Binding Decoding)) (f : Field) :
    bindingOf? (table.map Binding.uncommented) f.uncommented =
      (bindingOf? table f).map Binding.uncommented := by
  rw [bindingOf?,bindingOf?,← List.map_reverse,List.find?_map]
  rfl

/-- A field with its binding, both without comments. -/
def uncommentedPair : Field × Binding Decoding → Field × Binding Decoding :=
  Prod.map Field.uncommented Binding.uncommented

theorem boundFields_uncommented (table : List (Binding Decoding)) (fields : List Field) :
    boundFields (table.map Binding.uncommented) (fields.map Field.uncommented) =
      (boundFields table fields).map uncommentedPair := by
  rw [boundFields,boundFields,List.filterMap_map,List.map_filterMap]
  refine List.filterMap_congr fun f _ => ?_
  rw [Function.comp_apply,bindingOf?_uncommented]
  cases bindingOf? table f <;> rfl

theorem structFields_uncommented {bound : List (Field × Binding Decoding)} {groups : List String}
    {fields : List StructField} (h : structFields index m groups bound = .ok fields) :
    structFields index m.uncommented groups (bound.map uncommentedPair) =
      .ok (fields.map StructField.uncommented) := by
  induction bound generalizing groups fields with
  | nil =>
    cases h
    rfl
  | cons fb rest ih =>
    obtain ⟨f,b⟩ := fb
    rw [structFields] at h
    rw [List.map_cons,uncommentedPair,Prod.map,structFields,group?_uncommented]
    cases hg : b.group? with
    | none =>
      simp only [hg] at h
      obtain ⟨type,htype,h⟩ := bind_eq_ok.mp h
      obtain ⟨more,hmore,h⟩ := bind_eq_ok.mp h
      cases h
      exact bind_eq_ok.mpr ⟨type,htype,bind_eq_ok.mpr ⟨_,ih hmore,rfl⟩⟩
    | some g =>
      simp only [hg] at h ⊢
      by_cases hmem : g ∈ groups
      · rw [if_pos hmem] at h ⊢
        exact ih h
      · rw [if_neg hmem] at h ⊢
        obtain ⟨type,htype,h⟩ := bind_eq_ok.mp h
        obtain ⟨more,hmore,h⟩ := bind_eq_ok.mp h
        cases h
        rw [groupIdentifier_uncommented]
        exact bind_eq_ok.mpr ⟨type,htype,bind_eq_ok.mpr ⟨_,ih hmore,rfl⟩⟩

theorem oneofBlock_uncommented {bound : List (Field × Binding Decoding)} {group : String}
    {b : OneofBlock} (h : oneofBlock index m bound group = .ok b) :
    oneofBlock index m.uncommented (bound.map uncommentedPair) group = .ok b := by
  obtain ⟨name,hname,h⟩ := bind_eq_ok.mp h
  obtain ⟨variants,hvariants,h⟩ := bind_eq_ok.mp h
  rw [oneofBlock,groupIdentifier_uncommented]
  refine bind_eq_ok.mpr ⟨name,hname,bind_eq_ok.mpr ⟨variants,?_,h⟩⟩
  rw [List.filter_map,mapM_eq_ok_iff,List.forall₂_map_left_iff]
  exact mapM_eq_ok_iff.mp hvariants

theorem structBlock_uncommented {encode : List (Binding FieldWriter)}
    {decode : List (Binding Decoding)} {b : StructBlock}
    (h : structBlock index m encode decode = .ok b) :
    structBlock index m.uncommented (encode.map Binding.uncommented)
      (decode.map Binding.uncommented) = .ok b.uncommented := by
  obtain ⟨fields,hfields,h⟩ := bind_eq_ok.mp h
  obtain ⟨oneofs,honeofs,h⟩ := bind_eq_ok.mp h
  obtain ⟨identifier,hid,h⟩ := bind_eq_ok.mp h
  cases h
  rw [structBlock,m.fields_uncommented,boundFields_uncommented,List.filterMap_map,
    encodeBody_uncommented,decodeBody_uncommented,m.fullName_uncommented,m.comment_uncommented]
  refine bind_eq_ok.mpr ⟨_,structFields_uncommented hfields,bind_eq_ok.mpr ⟨oneofs,?_,
    bind_eq_ok.mpr ⟨identifier,hid,rfl⟩⟩⟩
  exact mapM_eq_ok_iff.mpr ((mapM_eq_ok_iff.mp honeofs).imp fun _ _ hb => oneofBlock_uncommented hb)

/-- The block of a declaration without comments is its block without comments. -/
theorem blockOf_uncommented {d : Declaration} {block : Block} {usesMap : Bool}
    (h : blockOf index d = .ok (block,usesMap)) :
    blockOf index d.uncommented = .ok (block.uncommented,usesMap) := by
  cases d with
  | enum decl =>
    obtain ⟨b,hb,h⟩ := bind_eq_ok.mp h
    obtain ⟨identifier,hid,hb⟩ := bind_eq_ok.mp hb
    cases hb
    cases h
    refine bind_eq_ok.mpr ⟨_,bind_eq_ok.mpr ⟨identifier,hid,rfl⟩,?_⟩
    simp [Block.uncommented,EnumBlock.uncommented,EnumDecl.uncommented,EnumValue.uncommented]
  | message m =>
    obtain ⟨encode,hencode,h⟩ := bind_eq_ok.mp h
    obtain ⟨decode,hdecode,h⟩ := bind_eq_ok.mp h
    obtain ⟨b,hb,h⟩ := bind_eq_ok.mp h
    cases h
    have hmaps : (encode.map Binding.uncommented).any (·.kind.usesMap) =
        encode.any (·.kind.usesMap) := List.any_map
    refine bind_eq_ok.mpr ⟨_,mapM_uncommented bindWriter_uncommented hencode,
      bind_eq_ok.mpr ⟨_,mapM_uncommented bindReader_uncommented hdecode,
      bind_eq_ok.mpr ⟨_,structBlock_uncommented hb,?_⟩⟩⟩
    rw [hmaps]
    rfl

end Blocks
/-! ## Layouts and plans -/

theorem valuesFault?_uncommented (enum : String) (before rest : List EnumValue) :
    valuesFault? enum (before.map EnumValue.uncommented) (rest.map EnumValue.uncommented) =
      valuesFault? enum before rest := by
  induction rest generalizing before with
  | nil => rfl
  | cons v rest ih =>
    have hfind : (before.map EnumValue.uncommented).find? (fun w => w.number == v.number) =
        (before.find? fun w => w.number == v.number).map EnumValue.uncommented := List.find?_map ..
    have hnext := ih (before ++ [v])
    rw [List.map_append] at hnext
    rw [List.map_cons,valuesFault?,valuesFault?]
    simp only [EnumValue.uncommented] at hfind hnext ⊢
    rw [hfind]
    cases before.find? fun w => w.number == v.number with
    | none =>
      by_cases hrange : v.number < 0 ∨ maxEnumNumber < v.number
      · exact (if_pos hrange).trans (if_pos hrange).symm
      · exact (if_neg hrange).trans (hnext.trans (if_neg hrange).symm)
    | some w => rfl

theorem layoutFault?_uncommented (file : SchemaFile) :
    layoutFault? file.uncommented = layoutFault? file := by
  rw [layoutFault?,layoutFault?,file.declarations_uncommented,List.findSome?_map]
  refine congrArg (List.findSome? · _) (funext fun d => ?_)
  cases d with
  | message m => rfl
  | enum decl =>
    have hvalues := valuesFault?_uncommented decl.fullName [] decl.values
    simp only [Function.comp_apply,Declaration.uncommented,enumFault?,EnumDecl.uncommented,
      List.isEmpty_map]
    rw [← hvalues]
    rfl

def Reference.uncommented (r : Reference) : Reference := { r with field := r.field.uncommented }

namespace SchemaFile
variable (file : SchemaFile) (index : TypeIndex)

theorem references_uncommented :
    file.uncommented.references = file.references.map Reference.uncommented := by
  rw [references,references,file.declarations_uncommented,List.flatMap_map,List.map_flatMap]
  refine List.flatMap_congr fun d _ => ?_
  cases d with
  | enum decl => rfl
  | message m =>
    simp only [Declaration.uncommented,m.fields_uncommented,m.fullName_uncommented,
      List.flatMap_map,List.map_flatMap,List.map_map]
    rfl

theorem inlineGraph_uncommented :
    file.uncommented.inlineGraph index = file.inlineGraph index := by
  rw [inlineGraph,inlineGraph,typeNames,typeNames,file.declaredNames_uncommented]
  refine List.map_congr_left fun name _ => ?_
  simp only [file.references_uncommented,List.filter_map,List.map_map]
  rfl

/-- A file is planned alike without its comments. -/
theorem plan_uncommented : file.uncommented.plan index = file.plan index := by
  have hmissing : file.uncommented.unresolved? index =
      (file.unresolved? index).map Reference.uncommented := by
    rw [unresolved?,unresolved?,file.references_uncommented,List.find?_map]
    rfl
  have himports : file.uncommented.imports index = file.imports index := by
    simp only [imports,file.references_uncommented,List.map_map]
    rfl
  rw [plan,plan,hmissing,file.inlineGraph_uncommented,himports,file.declaredNames_uncommented]
  cases file.unresolved? index <;> rfl

end SchemaFile

/-! ## Sources -/

/-- An index of the files without comments serves as well as one of the files. -/
theorem serves_uncommented (files : List SchemaFile) :
    (TypeIndex.ofFiles files).Serves (TypeIndex.ofFiles (files.map SchemaFile.uncommented)) := by
  intro name e he
  refine ⟨e.uncommented,by rw [TypeIndex.find?_uncommented,he]; rfl,rfl,rfl,rfl,?_⟩
  rw [TypeEntry.uncommented]
  cases e.declaration with
  | message m => rfl
  | enum decl =>
    simp [Declaration.uncommented,Declaration.valueNames?,EnumDecl.uncommented,
      EnumValue.uncommented,Function.comp_def]

theorem plannedDeclaration_uncommented {files : List SchemaFile} {name : String}
    {d : Declaration} (h : plannedDeclaration (TypeIndex.ofFiles files) name = .ok d) :
    plannedDeclaration (TypeIndex.ofFiles (files.map SchemaFile.uncommented)) name =
      .ok d.uncommented := by
  obtain ⟨e,he,rfl⟩ := plannedDeclaration_eq_ok_iff.mp h
  refine plannedDeclaration_eq_ok_iff.mpr ⟨e.uncommented,?_,rfl⟩
  rw [TypeIndex.find?_uncommented,he]
  rfl

/-- The source without comments is put together from the blocks without comments. -/
theorem assembled_uncommented {files : List SchemaFile} {file : SchemaFile}
    {version source bare : String} {plan : EmissionPlan} {blocks : List (Block × Bool)}
    (ha : Assembled (TypeIndex.ofFiles files) file version source plan blocks)
    {texts : List (List String)}
    (htexts : List.Forall₂ (fun b lines => b.1.uncommented.lines = .ok lines) blocks texts)
    (hbare : bare = terminateLines (headingLines file plan (blocks.any (·.2)) version
      ++ texts.flatMap ("" :: ·))) :
    render (TypeIndex.ofFiles (files.map SchemaFile.uncommented)) file.uncommented version =
      .ok bare := by
  have hserves := serves_uncommented files
  refine render_eq_ok_iff.mpr ⟨plan,blocks.map (Prod.map Block.uncommented id),?_,?_,?_,texts,?_,?_⟩
  · rw [layoutFault?_uncommented]
    exact ha.layout
  · rw [SchemaFile.plan_uncommented,hserves.plan (SchemaFile.known_of_plan ha.planned)]
    exact ha.planned
  · rw [List.forall₂_map_right_iff]
    refine ha.built.imp ?_
    rintro name ⟨block,usesMap⟩ ⟨d,hd,hb⟩
    exact ⟨d.uncommented,plannedDeclaration_uncommented hd,
      blockOf_uncommented (hserves.blockOf d _ hb)⟩
  · rw [List.forall₂_map_left_iff]
    exact htexts
  · rw [hbare,List.any_map]
    rfl

end SchemaCodec
