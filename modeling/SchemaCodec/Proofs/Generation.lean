import SchemaCodec.Generate
import SchemaCodec.Proofs.Dependency.Plan
import SchemaCodec.Proofs.Schema.Build

/-! # What a run without errors promises

A run reports no error only if every file it was asked for has a plan and every enum a layout. The
plan then lists all declarations of its file, and each of them has its block of code.
-/
namespace SchemaCodec
open Codec Dependency Rendering

/-- A file whose code is generated: nothing is wrong with its enums, it has a plan, and every one of
its declarations has a block. -/
structure Rendered (index : TypeIndex) (file : SchemaFile) : Prop where
  layout : layoutFault? file = none
  known : ∀ r ∈ file.references, index.contains r.target = true
  planned : ∃ plan, file.plan index = .ok plan
  blocks : ∀ d ∈ file.declarations, ∃ block usesMap, blockOf index d = .ok (block,usesMap)

theorem plannedDeclaration_eq_ok_iff {index : TypeIndex} {name : String} {d : Declaration} :
    plannedDeclaration index name = .ok d ↔
      ∃ e, index.find? name = some e ∧ e.declaration = d := by
  unfold plannedDeclaration
  cases index.find? name <;> simp

/-- What is planned by a name is a declaration of some file that has it. -/
theorem exists_of_plannedDeclaration {files : List SchemaFile} {name : String} {d : Declaration}
    (h : plannedDeclaration (TypeIndex.ofFiles files) name = .ok d) :
    d.fullName = name ∧ ∃ f ∈ files, d ∈ f.declarations := by
  obtain ⟨e,hfind,rfl⟩ := plannedDeclaration_eq_ok_iff.mp h
  obtain ⟨hname,f,hf,d,hd,rfl⟩ := TypeIndex.exists_of_find? hfind
  exact ⟨hname,f,hf,hd⟩

theorem generateFile_of_error {index : TypeIndex} {format : Formatter} {file : SchemaFile}
    {e : RenderError} {outcome : FileOutcome} (he : render index file = .error e)
    (h : generateFile index format file = .ok outcome) : outcome.error?.isSome = true := by
  unfold generateFile at h
  simp only [he] at h
  cases hu : e.unsupported? with
  | none => simp [hu] at h
  | some cause =>
    simp only [hu,Except.ok.injEq] at h
    subst h
    rfl

/-- A run without errors renders every file that it was asked for. -/
theorem render_of_generate {files : List SchemaFile} {format : Formatter}
    {result : GenerationResult} (h : generate files format = .ok result)
    (herrors : result.errors = []) {file : SchemaFile} (hf : file ∈ files)
    (hask : file.generate = true) :
    ∃ source, render (TypeIndex.ofFiles files) file = .ok source := by
  obtain ⟨outcomes,houtcomes,h⟩ := bind_eq_ok.mp h
  cases h
  obtain ⟨outcome,hmem,hgen⟩ := exists_of_mem_left (mapM_eq_ok_iff.mp houtcomes)
    (List.mem_filter.mpr ⟨hf,hask⟩)
  cases hr : render (TypeIndex.ofFiles files) file with
  | ok source => exact ⟨source,rfl⟩
  | error e =>
    obtain ⟨fault,hfault⟩ := Option.isSome_iff_exists.mp (generateFile_of_error hr hgen)
    have hnone : outcome.error? = none := List.filterMap_eq_nil_iff.mp herrors outcome hmem
    rw [hnone] at hfault
    cases hfault

/-- The plan and the blocks that a source is put together from. -/
structure Assembled (index : TypeIndex) (file : SchemaFile) (version source : String)
    (plan : EmissionPlan) (blocks : List (Block × Bool)) : Prop where
  layout : layoutFault? file = none
  planned : file.plan index = .ok plan
  built : List.Forall₂ (fun name b => ∃ d, plannedDeclaration index name = .ok d ∧
    blockOf index d = .ok b) plan.order blocks
  text : ∃ texts, List.Forall₂ (fun b lines => b.1.lines = .ok lines) blocks texts ∧
    source = terminateLines (headingLines file plan (blocks.any (·.2)) version
      ++ texts.flatMap ("" :: ·))

theorem liftCodec_eq_ok_iff {α : Type} {x : Except CodecError α} {a : α} :
    liftCodec x = .ok a ↔ x = .ok a := by
  cases x <;> simp [liftCodec]

theorem render_eq_ok_iff {index : TypeIndex} {file : SchemaFile} {version source : String} :
    render index file version = .ok source ↔
      ∃ plan blocks, Assembled index file version source plan blocks := by
  unfold render
  constructor
  · intro h
    cases hlayout : layoutFault? file with
    | some fault => simp [hlayout] at h
    | none =>
      cases hplan : file.plan index with
      | error cause => simp [hlayout,hplan] at h
      | ok plan =>
        simp only [hlayout,hplan] at h
        obtain ⟨blocks,hblocks,h⟩ := bind_eq_ok.mp h
        obtain ⟨texts,htexts,h⟩ := bind_eq_ok.mp h
        refine ⟨plan,blocks,hlayout,hplan,?_,texts,mapM_eq_ok_iff.mp htexts,(Except.ok.inj h).symm⟩
        exact (mapM_eq_ok_iff.mp hblocks).imp fun name b hb =>
          bind_eq_ok.mp (liftCodec_eq_ok_iff.mp hb)
  · rintro ⟨plan,blocks,hlayout,hplan,hblocks,texts,htexts,rfl⟩
    simp only [hlayout,hplan]
    refine bind_eq_ok.mpr ⟨blocks,mapM_eq_ok_iff.mpr (hblocks.imp fun name b hb => ?_),?_⟩
    · exact liftCodec_eq_ok_iff.mpr (bind_eq_ok.mpr hb)
    · exact bind_eq_ok.mpr ⟨texts,mapM_eq_ok_iff.mpr htexts,rfl⟩

theorem SchemaFile.known_of_plan {file : SchemaFile} {index : TypeIndex} {plan : EmissionPlan}
    (h : file.plan index = .ok plan) : ∀ r ∈ file.references, index.contains r.target = true := by
  intro r hr
  unfold SchemaFile.plan at h
  cases hu : file.unresolved? index with
  | some missing => simp [hu] at h
  | none => simpa using List.find?_eq_none.mp hu r hr

/-- A plan has the imports of its file and orders nothing but its declarations, in as many places as
there are names. -/
theorem SchemaFile.listed_of_plan {file : SchemaFile} {index : TypeIndex} {plan : EmissionPlan}
    (h : file.plan index = .ok plan) : plan.imports = file.imports index ∧ plan.order.Nodup ∧
      plan.order.length = file.typeNames.length ∧ ∀ name ∈ plan.order, name ∈ file.declaredNames := by
  have hnames : ∀ name ∈ (file.inlineGraph index).nodes, name ∈ file.declaredNames := by
    intro name hname
    simpa [Graph.nodes,inlineGraph,typeNames] using hname
  have hpos : ∀ name ∈ (file.inlineGraph index).nodes,
      lastPosition file.declaredNames name ≠ none := fun name hname => by
    simp [lastPosition,hnames name hname]
  unfold SchemaFile.plan at h
  cases hu : file.unresolved? index with
  | some missing => simp [hu] at h
  | none =>
    simp only [hu] at h
    split at h
    · cases h
    · next order horder =>
      have hn : (file.inlineGraph index).nodes.Nodup := by
        simpa [Graph.nodes,inlineGraph,typeNames,Function.comp_def] using nodup_eraseDups _
      obtain ⟨hnodup,hsubset⟩ := Graph.listed_of_emissionOrder hn hpos horder
      split at h
      · next hlength =>
        cases h
        exact ⟨rfl,hnodup,by simpa [inlineGraph] using hlength,
          fun name hname => hnames name (hsubset name hname)⟩
      · cases h

theorem SchemaFile.of_plan {file : SchemaFile} {index : TypeIndex} {plan : EmissionPlan}
    (h : file.plan index = .ok plan) :
    plan.imports = file.imports index ∧ ∀ name ∈ plan.order, name ∈ file.declaredNames :=
  ⟨(listed_of_plan h).1,(listed_of_plan h).2.2.2⟩

/-- A plan lists every declaration of its file once. -/
theorem SchemaFile.order_perm {file : SchemaFile} {index : TypeIndex} {plan : EmissionPlan}
    (hn : file.declaredNames.Nodup) (h : file.plan index = .ok plan) :
    plan.order.Perm file.declaredNames := by
  obtain ⟨-,hnodup,hlength,hsubset⟩ := listed_of_plan h
  refine (List.perm_ext_iff_of_nodup hnodup hn).mpr fun name => ⟨hsubset name,fun hname => ?_⟩
  rw [typeNames_eq hn] at hlength
  exact mem_of_nodup_of_length_le hnodup hsubset hlength.ge hname

section Files
variable {files : List SchemaFile} (hn : (files.flatMap SchemaFile.declaredNames).Nodup)
include hn

theorem SchemaFile.rendered_of_render {file : SchemaFile} {version source : String}
    (hf : file ∈ files) (h : render (TypeIndex.ofFiles files) file version = .ok source) :
    Rendered (TypeIndex.ofFiles files) file := by
  obtain ⟨plan,blocks,ha⟩ := render_eq_ok_iff.mp h
  have hknown := known_of_plan ha.planned
  refine ⟨ha.layout,hknown,⟨plan,ha.planned⟩,fun d hd => ?_⟩
  have hfile : file.declaredNames.Nodup := (List.nodup_flatMap.mp hn).1 file hf
  have hmem := (order_perm hfile ha.planned).mem_iff.mpr
    (List.mem_map_of_mem (f := Declaration.fullName) hd)
  obtain ⟨⟨block,usesMap⟩,-,d',hplanned,hblock⟩ := exists_of_mem_left ha.built hmem
  rw [plannedDeclaration,TypeIndex.find?_ofFiles hn hf hd] at hplanned
  cases hplanned
  exact ⟨block,usesMap,hblock⟩

end Files

/-- The block of a message is made from the code of its fields. -/
theorem blockOf_message_eq_ok {index : TypeIndex} {m : Message} {block : Block} {usesMap : Bool}
    (h : blockOf index (.message m) = .ok (block,usesMap)) :
    ∃ encode decode struct, encodeTable index m = .ok encode ∧ decodeTable index m = .ok decode ∧
      structBlock index m encode decode = .ok struct ∧ block = .struct struct := by
  rw [blockOf] at h
  obtain ⟨encode,hencode,h⟩ := bind_eq_ok.mp h
  obtain ⟨decode,hdecode,h⟩ := bind_eq_ok.mp h
  obtain ⟨struct,hstruct,h⟩ := bind_eq_ok.mp h
  cases h
  exact ⟨encode,decode,struct,hencode,hdecode,hstruct,rfl⟩

/-- Accepted sources whose code is generated without errors. -/
structure Generates (sources : List (String × String)) (files : List SchemaFile) : Prop where
  distinct_sources : (sources.map (·.1)).Nodup
  accepted : parseAll sources = .ok files
  no_errors : ∃ result, generate files .keep = .ok result ∧ result.errors = []

theorem generates_of_run {sources : List (String × String)} {files : List SchemaFile}
    (hsources : (sources.map (·.1)).Nodup) (hparse : parseAll sources = .ok files)
    (hrun : (generate files .keep).toOption.map (·.errors.isEmpty) = some true) :
    Generates sources files := by
  refine ⟨hsources,hparse,?_⟩
  obtain ⟨result,hresult,herrors⟩ := Option.map_eq_some_iff.mp hrun
  refine ⟨result,?_,List.isEmpty_iff.mp herrors⟩
  cases hg : generate files .keep with
  | error e => simp [hg,Except.toOption] at hresult
  | ok r => simpa [hg,Except.toOption] using hresult

namespace Generates
variable {sources : List (String × String)} {files : List SchemaFile} (h : Generates sources files)
include h

theorem coherent : Coherent files := (parseAll_eq_ok h.accepted).1

theorem distinct_paths : (files.map (·.path)).Nodup := by
  rw [(parseAll_eq_ok h.accepted).2.1]
  exact h.distinct_sources

theorem rendered {file : SchemaFile} (hf : file ∈ files) :
    Rendered (TypeIndex.ofFiles files) file := by
  obtain ⟨result,hr,he⟩ := h.no_errors
  obtain ⟨source,hs⟩ := render_of_generate hr he hf ((parseAll_eq_ok h.accepted).2.2 file hf)
  exact SchemaFile.rendered_of_render h.coherent.distinct hf hs

end Generates
end SchemaCodec
