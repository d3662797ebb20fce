import SchemaCodec.Proofs.Rendering.ScopeNames

/-! # Distinct names in generated sources

The names that a source gives to types, values, fields and members are distinct exactly if no two
things of the schema are given one name in one scope. An accepted schema need not have that.
-/
namespace SchemaCodec
open Codec Rendering

def Rendering.Block.typeNames : Block → List String
  | .enum b => [b.name]
  | .struct b => b.oneofs.map (·.name) ++ [b.name]

/-- The type names in scope of a source: those of its `use` lines and those that it declares. -/
def typesInScope (plan : EmissionPlan) (blocks : List (Block × Bool)) : List String :=
  usedNames (blocks.any (·.2)) ++ plan.imports.map (fun ref => lastSegment ref.rustPath) ++
    blocks.flatMap (·.1.typeNames)

/-- The heading of a source consists of comments and of `use` lines, and these bring all type names
into scope that the blocks do not declare. -/
def HeadingBrings (file : SchemaFile) (version : String) (plan : EmissionPlan)
    (blocks : List (Block × Bool)) : Prop :=
  ∃ comments uses names, headingLines file plan (blocks.any (·.2)) version = comments ++ uses ∧
    (∀ line ∈ comments, "//".toList <+: line.toList) ∧ List.Forall₂ Brings uses names ∧
    typesInScope plan blocks = names.flatten ++ blocks.flatMap (·.1.typeNames)

/-- The values of an enum, the fields of a struct and the members of its oneofs have distinct
names. -/
def Rendering.Block.NamesDistinct : Block → Prop
  | .enum b => (b.variants.map (·.1)).Nodup
  | .struct b => (b.fields.map (·.name)).Nodup ∧ ∀ o ∈ b.oneofs, (o.variants.map (·.1)).Nodup

/-- No name of a source is given twice in one scope. -/
structure NamesDistinct (plan : EmissionPlan) (blocks : List (Block × Bool)) : Prop where
  types : (typesInScope plan blocks).Nodup
  within : ∀ b ∈ blocks, b.1.NamesDistinct

/-- What is declared within a type is not given the name of something else in it. -/
def Declaration.NamesApart : Declaration → Prop
  | .enum decl => (decl.values.map fun v => Identifier.camel v.name).Nodup
  | .message m => m.SlotsApart ∧ m.MembersApart

/-- Nothing of a file is given the name of something else in the same scope. -/
structure SchemaFile.NamesApart (files : List SchemaFile) (file : SchemaFile) : Prop where
  types : ∀ o o' name, InScope files file o name → InScope files file o' name → o = o'
  within : ∀ d ∈ file.declarations, d.NamesApart

/-! ## Names of blocks -/

section Block
variable {index : TypeIndex}

theorem any_usesMap_iff {m : Message} {table : List (Binding FieldWriter)}
    (h : encodeTable index m = .ok table) :
    table.any (·.kind.usesMap) = true ↔ ∃ f ∈ m.fields, f.cardinality = .map := by
  have hall := mapM_eq_ok_iff.mp h
  have hkind : ∀ {f b}, bindWriter index m f = .ok b → f.kind = .ok b.kind := by
    intro f b hb
    obtain ⟨kind,hk,hb⟩ := bind_eq_ok.mp hb
    obtain ⟨_,-,hb⟩ := bind_eq_ok.mp hb
    cases hb
    exact kindOf_eq_ok hk
  rw [List.any_eq_true]
  constructor
  · rintro ⟨b,hb,hmap⟩
    obtain ⟨f,hf,hbind⟩ := exists_of_mem_right hall hb
    exact ⟨f,mem_byNumber.mp hf,(Field.usesMap_kind_iff (hkind hbind)).mp hmap⟩
  · rintro ⟨f,hf,hmap⟩
    obtain ⟨b,hb,hbind⟩ := exists_of_mem_left hall (mem_byNumber.mpr hf)
    exact ⟨b,hb,(Field.usesMap_kind_iff (hkind hbind)).mpr hmap⟩

/-- How the block of a declaration is named, part by part. -/
inductive NamedBlock (index : TypeIndex) : Declaration → Block × Bool → Prop
  | enum {decl : EnumDecl} {b : EnumBlock} (name : identifierOf index decl.fullName = .ok b.name)
      (variants : b.variants.map (·.1) = decl.values.map fun v => Identifier.camel v.name) :
      NamedBlock index (.enum decl) (.enum b,false)
  | struct {m : Message} {b : StructBlock} {usesMap : Bool} (named : NamedAfter index m b)
      (maps : usesMap = true ↔ ∃ f ∈ m.fields, f.cardinality = .map) :
      NamedBlock index (.message m) (.struct b,usesMap)

theorem namedBlock_of_blockOf {d : Declaration} {b : Block × Bool}
    (hn : ∀ m, d = .message m → (m.fields.map (·.name)).Nodup) (h : blockOf index d = .ok b) :
    NamedBlock index d b := by
  cases d with
  | enum decl =>
    obtain ⟨e,he,h⟩ := bind_eq_ok.mp h
    obtain ⟨name,hname,he⟩ := bind_eq_ok.mp he
    cases h
    cases he
    exact .enum hname (by simp [Function.comp_def])
  | message m =>
    obtain ⟨encode,hencode,h⟩ := bind_eq_ok.mp h
    obtain ⟨decode,hdecode,h⟩ := bind_eq_ok.mp h
    obtain ⟨struct,hstruct,h⟩ := bind_eq_ok.mp h
    cases h
    exact .struct (namedAfter_of_structBlock (hn m rfl) hdecode hstruct) (any_usesMap_iff hencode)

end Block

section Files
variable {files : List SchemaFile} (h : Readable files) {file : SchemaFile} (hfile : file ∈ files)
include h hfile

theorem Readable.typeNames_eq {d : Declaration} (hd : d ∈ file.declarations) {b : Block × Bool}
    (hb : NamedBlock (TypeIndex.ofFiles files) d b) :
    b.1.typeNames = (d.origins file.package).map (·.2) := by
  have hname := h.identifierOf_eq hfile hd
  cases hb with
  | @enum decl b name variants =>
    have hown : b.name = typeIdentifier decl.fullName file.package :=
      Except.ok.inj (name.symm.trans hname)
    simp [Block.typeNames,Declaration.origins,hown]
  | @struct m b usesMap named maps =>
    have hown : b.name = typeIdentifier m.fullName file.package :=
      Except.ok.inj (named.name.symm.trans hname)
    have honeofs : b.oneofs.map (·.name) = (m.fields.filterMap Field.group?).eraseDups.map
        fun g => typeIdentifier m.fullName file.package ++ Identifier.camel g :=
      map_eq_map (named.oneofs.imp fun g o ho => by rw [ho.1,hown])
    simp [Block.typeNames,Declaration.origins,honeofs,hown]

/-- The names of types are distinct exactly if no two types in scope have one name. -/
theorem Readable.nodup_typesInScope_iff (hp : (files.map (·.path)).Nodup) {plan : EmissionPlan}
    (hplan : plan.imports = file.imports (TypeIndex.ofFiles files)) {ds : List Declaration}
    (hds : (ds.map Declaration.fullName).Nodup) (hall : ∀ d, d ∈ ds ↔ d ∈ file.declarations)
    {blocks : List (Block × Bool)}
    (hblocks : List.Forall₂ (NamedBlock (TypeIndex.ofFiles files)) ds blocks) :
    (typesInScope plan blocks).Nodup ↔
      ∀ o o' name, InScope files file o name → InScope files file o' name → o = o' := by
  have hown : blocks.flatMap (·.1.typeNames) =
      (ds.flatMap (Declaration.origins file.package)).map (·.2) := by
    have hnamed := (List.forall₂_and_left _ _).mpr ⟨fun d hd => (hall d).mp hd,hblocks⟩
    rw [List.map_flatMap,List.flatMap_def,List.flatMap_def]
    refine congrArg List.flatten (map_eq_map (hnamed.imp ?_))
    rintro d b ⟨hd,hb⟩
    exact h.typeNames_eq hfile hd hb
  have hmap : blocks.any (·.2) = true ↔
      ∃ m, .message m ∈ file.declarations ∧ ∃ f ∈ m.fields, f.cardinality = .map := by
    rw [List.any_eq_true]
    constructor
    · rintro ⟨b,hb,huses⟩
      obtain ⟨d,hd,hnamed⟩ := exists_of_mem_right hblocks hb
      cases hnamed with
      | enum _ _ => cases huses
      | struct _ hmaps => exact ⟨_,(hall _).mp hd,hmaps.mp huses⟩
    · rintro ⟨m,hm,hmaps⟩
      obtain ⟨b,hb,hnamed⟩ := exists_of_mem_left hblocks ((hall _).mpr hm)
      cases hnamed with
      | struct _ hiff => exact ⟨_,hb,hiff.mpr hmaps⟩
  have hnames : typesInScope plan blocks = (scopeOf file (file.imports (TypeIndex.ofFiles files))
      (blocks.any (·.2)) ds).map (·.2) := by
    simp [typesInScope,scopeOf,hown,hplan,Function.comp_def]
  have hmem {o : TypeOrigin} {name : String} : (o,name) ∈ scopeOf file
      (file.imports (TypeIndex.ofFiles files)) (blocks.any (·.2)) ds ↔
        InScope files file o name :=
    h.mem_scopeOf_iff hfile hp hmap hall
  have hdistinct := h.nodup_scopeOf hfile hp (blocks.any (·.2)) hds hall
  rw [hnames,List.nodup_map_iff_inj_on (List.Nodup.of_map _ hdistinct)]
  constructor
  · intro hinj o o' name ho ho'
    exact congrArg Prod.fst (hinj _ (hmem.mpr ho) _ (hmem.mpr ho') rfl)
  · rintro hone ⟨o,name⟩ hq ⟨o',name'⟩ hq' hsame
    cases hsame
    exact List.inj_on_of_nodup_map hdistinct hq hq' (hone o o' name (hmem.mp hq) (hmem.mp hq'))

theorem Readable.namesDistinct_block_iff {d : Declaration} (hd : d ∈ file.declarations)
    {b : Block × Bool} (hb : NamedBlock (TypeIndex.ofFiles files) d b) :
    b.1.NamesDistinct ↔ d.NamesApart := by
  cases hb with
  | enum _ hvariants => rw [Block.NamesDistinct,Declaration.NamesApart,hvariants]
  | @struct m _ _ hnamed _ =>
    have hfields := hnamed.nodup_fields_iff fun f hf => (h.named file hfile _ hd).fields m rfl f hf
    have honeofs := hnamed.nodup_oneofs_iff (List.Nodup.of_map _ (h.sound file hfile m hd).names)
    exact and_congr hfields honeofs

/-- The blocks of a source are named after the declarations of its file, each once. -/
theorem Readable.namedBlocks {version source : String}
    {plan : EmissionPlan} {blocks : List (Block × Bool)}
    (ha : Assembled (TypeIndex.ofFiles files) file version source plan blocks) :
    ∃ ds, (ds.map Declaration.fullName).Nodup ∧ (∀ d, d ∈ ds ↔ d ∈ file.declarations) ∧
      List.Forall₂ (NamedBlock (TypeIndex.ofFiles files)) ds blocks := by
  obtain ⟨ds,hds,hbuilt⟩ := ha.declarations hfile h.distinct
  have hnames : file.declaredNames.Nodup := (List.nodup_flatMap.mp h.distinct).1 file hfile
  refine ⟨ds,(hds.map _).nodup_iff.mpr hnames,fun d => hds.mem_iff,?_⟩
  refine ((List.forall₂_and_left _ _).mpr ⟨fun d hd => hds.mem_iff.mp hd,hbuilt⟩).imp ?_
  rintro d b ⟨hd,hb⟩
  refine namedBlock_of_blockOf (fun m he => ?_) hb
  exact (h.sound file hfile m (he ▸ hd)).names

/-- The names of a source are distinct exactly if the names of the schema keep apart. -/
theorem Readable.namesDistinct_iff (hp : (files.map (·.path)).Nodup) {version source : String}
    {plan : EmissionPlan} {blocks : List (Block × Bool)}
    (ha : Assembled (TypeIndex.ofFiles files) file version source plan blocks) :
    NamesDistinct plan blocks ↔ file.NamesApart files := by
  obtain ⟨-,-,hplan⟩ := h.plan_eq_ok hfile ha.planned
  obtain ⟨ds,hds,hall,hblocks⟩ := h.namedBlocks hfile ha
  have htypes := h.nodup_typesInScope_iff hfile hp hplan hds hall hblocks
  constructor
  · intro hn
    refine ⟨htypes.mp hn.types,fun d hd => ?_⟩
    obtain ⟨b,hb,hnamed⟩ := exists_of_mem_left hblocks ((hall d).mpr hd)
    exact (h.namesDistinct_block_iff hfile hd hnamed).mp (hn.within b hb)
  · intro hapart
    refine ⟨htypes.mpr hapart.types,fun b hb => ?_⟩
    obtain ⟨d,hd,hnamed⟩ := exists_of_mem_right hblocks hb
    have hd := (hall d).mp hd
    exact (h.namesDistinct_block_iff hfile hd hnamed).mpr (hapart.within d hd)

theorem Readable.headingBrings (hp : (files.map (·.path)).Nodup) {version source : String}
    {plan : EmissionPlan} {blocks : List (Block × Bool)}
    (ha : Assembled (TypeIndex.ofFiles files) file version source plan blocks) :
    HeadingBrings file version plan blocks := by
  obtain ⟨-,-,hplan⟩ := h.plan_eq_ok hfile ha.planned
  have himports : ∀ ref ∈ plan.imports, ∃ path name, ':' ∉ name.toList ∧
      ref.rustPath = path ++ "::" ++ name := by
    intro ref href
    rw [hplan] at href
    obtain ⟨-,-,-,g,-,d,-,-,rfl⟩ := (h.mem_imports_iff hfile hp).mp href
    exact ⟨g.modulePath,_,fun hc => (isNameChar_typeIdentifier ':' hc).2 rfl,rfl⟩
  obtain ⟨comments,uses,names,htext,hcomments,hbrings,hnames⟩ :=
    brings_headingLines file (blocks.any (·.2)) version himports
  exact ⟨comments,uses,names,htext,hcomments,hbrings,by rw [typesInScope,hnames]⟩

end Files

/-- The sources that are rendered for accepted files have distinct names exactly if the names of
their schema keep apart. The type names in scope of a source are those that its `use` lines bring and
those that its blocks declare. -/
theorem names_distinct_iff {sources : List (String × String)} {files : List SchemaFile}
    (hsources : (sources.map (·.1)).Nodup) (hparse : parseAll sources = .ok files)
    {file : SchemaFile} (hfile : file ∈ files) {version source : String}
    (hrender : render (TypeIndex.ofFiles files) file version = .ok source) :
    ∃ plan blocks, Assembled (TypeIndex.ofFiles files) file version source plan blocks ∧
      HeadingBrings file version plan blocks ∧
      (NamesDistinct plan blocks ↔ file.NamesApart files) := by
  have hp : (files.map (·.path)).Nodup := by
    rw [(parseAll_eq_ok hparse).2.1]
    exact hsources
  obtain ⟨plan,blocks,ha⟩ := render_eq_ok_iff.mp hrender
  have h := parseAll_readable hparse
  exact ⟨plan,blocks,ha,h.headingBrings hfile hp ha,h.namesDistinct_iff hfile hp ha⟩

/-! ## An enum with two values -/

def yesNoSource : String := "enum Reply \x7b YES = 0; NO = 1; \x7d\n"

def okOkSource : String := "enum Reply \x7b OK = 0; Ok = 1; \x7d\n"

def replyEnum (first second : String) : EnumDecl :=
  ⟨"Reply","Reply",[⟨first,0,none⟩,⟨second,1,none⟩],none⟩

def replyFile (first second : String) : SchemaFile :=
  ⟨"reply.proto","",[],[],[replyEnum first second],true⟩

section Parse
open Grammar

def replyTree (first second : String) : EnumTree :=
  ⟨1,"Reply",[.value ⟨1,false,⟨first,"0",[]⟩⟩,.value ⟨1,false,⟨second,"1",[]⟩⟩]⟩

def replyDraft (source first second : String) : FileDraft :=
  ⟨"reply.proto","",[],[],[⟨"Reply",[⟨first,0,1⟩,⟨second,1,1⟩],[],1⟩],Text.lines source.toList⟩

theorem parseAll_yesNoSource :
    parseAll [("reply.proto",yesNoSource)] = .ok [replyFile "YES" "NO"] := by
  have hread : Grammar.read yesNoSource.toList = .ok [.enum (replyTree "YES" "NO")] := by
    with_unfolding_all rfl
  have hdraft : draftOf "reply.proto" yesNoSource.toList =
      .ok (replyDraft yesNoSource "YES" "NO") :=
    draftOf_of_plain none hread rfl rfl
  exact parseAll_eq_ok_iff.mpr ⟨_,.cons hdraft .nil,rfl,buildAll_of_plain rfl rfl rfl⟩

theorem parseAll_okOkSource :
    parseAll [("reply.proto",okOkSource)] = .ok [replyFile "OK" "Ok"] := by
  have hread : Grammar.read okOkSource.toList = .ok [.enum (replyTree "OK" "Ok")] := by
    with_unfolding_all rfl
  have hdraft : draftOf "reply.proto" okOkSource.toList =
      .ok (replyDraft okOkSource "OK" "Ok") :=
    draftOf_of_plain none hread rfl rfl
  exact parseAll_eq_ok_iff.mpr ⟨_,.cons hdraft .nil,rfl,buildAll_of_plain rfl rfl rfl⟩

end Parse

section Reply
variable (first second : String)

theorem declarations_replyFile :
    (replyFile first second).declarations = [.enum (replyEnum first second)] := by
  simp [replyFile,SchemaFile.declarations,Message.declarationsOf]

theorem typeIdentifier_reply : typeIdentifier "Reply" "" = "Reply" := by decide

theorem assembled_replyFile : ∃ source, Assembled (TypeIndex.ofFiles [replyFile first second])
    (replyFile first second) version source ⟨["Reply"],[]⟩
    [(.enum ⟨"Reply",none,[(Identifier.camel first,0),(Identifier.camel second,1)]⟩,false)] := by
  have hname : identifierOf (TypeIndex.ofFiles [replyFile first second]) "Reply" = .ok "Reply" :=
    (rfl : _ = Except.ok (typeIdentifier "Reply" "")).trans (congrArg _ typeIdentifier_reply)
  have hblock : blockOf (TypeIndex.ofFiles [replyFile first second])
      (.enum (replyEnum first second)) = .ok (.enum ⟨"Reply",none,
        [(Identifier.camel first,0),(Identifier.camel second,1)]⟩,false) := by
    rw [blockOf,enumBlock,replyEnum,hname]
    rfl
  have hplan : (replyFile first second).plan (TypeIndex.ofFiles [replyFile first second]) =
      .ok ⟨["Reply"],[]⟩ := by
    with_unfolding_all rfl
  exact ⟨_,rfl,hplan,.cons ⟨_,rfl,hblock⟩ .nil,_,.cons rfl .nil,rfl⟩

/-- Labels that become two values beside a name that nothing else has keep apart. -/
theorem namesApart_replyFile (h : Identifier.camel first ≠ Identifier.camel second) :
    (replyFile first second).NamesApart [replyFile first second] := by
  have hdecl := declarations_replyFile first second
  have hmessage : ∀ m, .message m ∉ (replyFile first second).declarations := by simp [hdecl]
  have horigin : ∀ o name, InScope [replyFile first second] (replyFile first second) o name →
      (o = .used name ∧ name ∈ usedNames false) ∨ (o = .declared "Reply" ∧ name = "Reply") := by
    intro o name hscope
    cases hscope with
    | used hname => exact .inl ⟨rfl,hname⟩
    | map hm _ _ => exact absurd hm (hmessage _)
    | declared hd =>
      rw [hdecl] at hd
      cases List.mem_singleton.mp hd
      exact .inr ⟨rfl,typeIdentifier_reply⟩
    | referred hr _ _ _ =>
      obtain ⟨m,-,hm,-⟩ := SchemaFile.mem_references.mp hr
      exact absurd hm (hmessage m)
    | oneof hm _ _ => exact absurd hm (hmessage _)
  refine ⟨fun o o' name ho ho' => ?_,fun d hd => ?_⟩
  · have hreply : "Reply" ∉ usedNames false := by decide
    rcases horigin o name ho with ⟨he,hname⟩ | ⟨he,hname⟩ <;>
      rcases horigin o' name ho' with ⟨he',hname'⟩ | ⟨he',hname'⟩
    · exact he.trans he'.symm
    · exact absurd (hname' ▸ hname) hreply
    · exact absurd (hname ▸ hname') hreply
    · exact he.trans he'.symm
  · rw [hdecl] at hd
    rw [List.mem_singleton.mp hd]
    simpa [Declaration.NamesApart,replyEnum] using h

end Reply

/-- The labels of this enum become two values. -/
theorem yesNo_distinct : ([("reply.proto",yesNoSource)].map (·.1)).Nodup ∧
    parseAll [("reply.proto",yesNoSource)] = .ok [replyFile "YES" "NO"] ∧
    ∃ source, render (TypeIndex.ofFiles [replyFile "YES" "NO"]) (replyFile "YES" "NO") =
        .ok source ∧
      ∃ plan blocks, Assembled (TypeIndex.ofFiles [replyFile "YES" "NO"]) (replyFile "YES" "NO")
        version source plan blocks ∧ NamesDistinct plan blocks := by
  obtain ⟨source,hassembled⟩ := assembled_replyFile "YES" "NO"
  have hrender := render_eq_ok_iff.mpr ⟨_,_,hassembled⟩
  obtain ⟨plan,blocks,ha,-,hiff⟩ := names_distinct_iff (by decide) parseAll_yesNoSource
    (List.mem_singleton_self _) hrender
  refine ⟨by decide,parseAll_yesNoSource,source,hrender,plan,blocks,ha,hiff.mpr ?_⟩
  exact namesApart_replyFile "YES" "NO" (by decide)

/-- The labels of this enum become the same value twice. -/
theorem okOk_clash : ([("reply.proto",okOkSource)].map (·.1)).Nodup ∧
    parseAll [("reply.proto",okOkSource)] = .ok [replyFile "OK" "Ok"] ∧
    ∃ source, render (TypeIndex.ofFiles [replyFile "OK" "Ok"]) (replyFile "OK" "Ok") =
        .ok source ∧
      ∃ plan blocks, Assembled (TypeIndex.ofFiles [replyFile "OK" "Ok"]) (replyFile "OK" "Ok")
        version source plan blocks ∧ ¬ NamesDistinct plan blocks := by
  obtain ⟨source,hassembled⟩ := assembled_replyFile "OK" "Ok"
  have hsame : Identifier.camel "OK" = Identifier.camel "Ok" := by decide
  have hrender := render_eq_ok_iff.mpr ⟨_,_,hassembled⟩
  refine ⟨by decide,parseAll_okOkSource,source,hrender,_,_,hassembled,?_⟩
  intro hdistinct
  have hnodup := hdistinct.within _ List.mem_cons_self
  simp [Block.NamesDistinct,hsame] at hnodup

end SchemaCodec
