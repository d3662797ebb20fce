import SchemaCodec.Proofs.Rendering.Blocks
import SchemaCodec.Proofs.Rendering.EnumLayout

/-! # Faults of a file stay with the file

A file is faulty by itself if an enum of it has no layout or a message of it contains itself inline.
Such a file is reported and the others are generated all the same, unless one of them has a singular
field of an enum without values, or the fault is of a number too long to be reported: that ends the
run.
-/
namespace SchemaCodec
open Codec Rendering Text

def SchemaFile.Faulty (file : SchemaFile) : Prop :=
  (∃ decl, .enum decl ∈ file.declarations ∧ ¬ decl.HasLayout) ∨ ∃ a, file.ContainsInline a a

/-- Some message of the file has a singular field that refers to an enum without values. -/
def SchemaFile.LacksDefault (files : List SchemaFile) (file : SchemaFile) : Prop :=
  ∃ m, .message m ∈ file.declarations ∧ ∃ f ∈ m.fields, f.LacksDefault files

/-- The first fault of an enum of the file is of a number that is too long to be reported. -/
def SchemaFile.Unreportable (file : SchemaFile) : Prop :=
  ∃ fault, layoutFault? file = some fault ∧ ¬ fault.Reportable

theorem SchemaFile.Unreportable.faulty {file : SchemaFile} (h : file.Unreportable) :
    file.Faulty := by
  obtain ⟨fault,hfault,-⟩ := h
  obtain ⟨before,decl,after,hsplit,-,hfirst⟩ := layoutFault?_eq_some_iff.mp hfault
  refine .inl ⟨decl,by simp [hsplit],fun hlayout => ?_⟩
  rw [← enumFault?_eq_none_iff,enumFault?_eq_some_iff.mpr hfirst] at hlayout
  cases hlayout

/-- Each file in turn is among the errors if it is faulty, and among the generated files if not. -/
inductive Settled (index : TypeIndex) :
    List SchemaFile → List GeneratedFile → List FileError → Prop
  | nil : Settled index [] [] []
  | failed {file : SchemaFile} {files : List SchemaFile} {made : List GeneratedFile}
      {errors : List FileError} (hfaulty : file.Faulty) (cause : Unsupported)
      (hpath : cause.path = file.path) (hrest : Settled index files made errors) :
      Settled index (file :: files) made (⟨file.path,.unsupported cause⟩ :: errors)
  | generated {file : SchemaFile} {files : List SchemaFile} {made : List GeneratedFile}
      {errors : List FileError} (hsound : ¬ file.Faulty) (source : String)
      (hrender : render index file = .ok source) (hrest : Settled index files made errors) :
      Settled index (file :: files) (⟨file.outputPath,encodeUtf8 source⟩ :: made) errors

section Render
variable {index : TypeIndex} {file : SchemaFile} {version : String}

/-- The block of a declaration has its lines, since an enum with a layout has a first value. -/
theorem exists_lines {d : Declaration} {block : Block} {usesMap : Bool}
    (hb : blockOf index d = .ok (block,usesMap)) (hvalues : ∀ decl, d = .enum decl →
      decl.values ≠ []) : ∃ texts, block.lines = .ok texts := by
  cases d with
  | message m =>
    obtain ⟨_,_,b,-,-,-,rfl⟩ := blockOf_message_eq_ok hb
    exact ⟨b.lines,rfl⟩
  | enum decl =>
    obtain ⟨b,hbuilt,he⟩ := bind_eq_ok.mp hb
    cases he
    have hvariants : b.variants ≠ [] := by
      obtain ⟨identifier,-,hbuilt⟩ := bind_eq_ok.mp hbuilt
      rw [← Except.ok.inj hbuilt]
      simpa using hvalues decl rfl
    cases hv : b.variants with
    | nil => exact absurd hv hvariants
    | cons first more => exact ⟨b.lines first.1,by simp only [Block.lines,hv]⟩

theorem liftCodec_eq_error {α : Type} {x : Except CodecError α} {e : RenderError}
    (h : liftCodec x = .error e) : ∃ cause, e = .codec cause := by
  cases x with
  | ok a => cases h
  | error cause => exact ⟨cause,(Except.error.inj h).symm⟩

/-- Where enums have layouts and there is a plan, no error is put down to the schema. -/
theorem unsupported?_of_render {plan : EmissionPlan} {e : RenderError}
    (hlayout : layoutFault? file = none) (hplan : file.plan index = .ok plan)
    (h : render index file version = .error e) : e.unsupported? = none := by
  unfold render at h
  simp only [hlayout,hplan] at h
  rcases bind_eq_error.mp h with h | ⟨blocks,-,h⟩
  · obtain ⟨-,name,-,-,-,h⟩ := mapM_eq_error.mp h
    obtain ⟨cause,rfl⟩ := liftCodec_eq_error h
    rfl
  · rcases bind_eq_error.mp h with h | ⟨texts,-,h⟩
    · obtain ⟨-,⟨block,_⟩,-,-,-,h⟩ := mapM_eq_error.mp h
      cases block with
      | struct b => cases h
      | enum b =>
        cases hv : b.variants with
        | nil =>
          simp only [Block.lines,hv,Except.error.injEq] at h
          exact h ▸ rfl
        | cons first more => simp [Block.lines,hv] at h
    · cases h

/-- A number that is too long to be reported ends the run. -/
theorem generateFile_of_unreportable (format : Formatter) (h : file.Unreportable) :
    ∃ e, generateFile index format file = .error e := by
  obtain ⟨fault,hlayout,hlong⟩ := h
  have hnone := EnumFault.message?_eq_none_iff.mpr hlong
  have hrender : render index file = .error (.enumLayout file.path fault) := by
    unfold render
    simp only [hlayout]
  exact ⟨.render (.enumLayout file.path fault),by
    simp [generateFile,hrender,RenderError.unsupported?,hnone]⟩

end Render

section Files
variable {files : List SchemaFile} (h : Readable files) (hp : (files.map (·.path)).Nodup)
  {file : SchemaFile} (hfile : file ∈ files)
include h hp hfile

/-- Whether there is a plan depends on inline cycles alone. -/
theorem Readable.plan_cases :
    ((∃ a, file.ContainsInline a a) ∧ ∃ groups members,
      file.plan (TypeIndex.ofFiles files) = .error (.inlineCycles file.path groups members)) ∨
    ((¬ ∃ a, file.ContainsInline a a) ∧ ∃ plan, file.plan (TypeIndex.ofFiles files) = .ok plan ∧
      ∀ name, name ∈ plan.order ↔ name ∈ file.declaredNames) := by
  have hknown := fun r (hr : r ∈ file.references) => h.contains_target hfile hr
  have hlocal := fun r (hr : r ∈ file.references) => h.isForeign_target_iff hfile hp hr
  have hnames : file.declaredNames.Nodup := (List.nodup_flatMap.mp h.distinct).1 file hfile
  by_cases hcyclic : ∃ a, file.ContainsInline a a
  · obtain ⟨groups,members,hplan,-,-⟩ :=
      SchemaFile.plan_eq_inlineCycles hnames hlocal hknown hcyclic
    exact .inl ⟨hcyclic,groups,members,hplan⟩
  · obtain ⟨plan,hplan⟩ := (SchemaFile.exists_plan_iff hnames hlocal hknown).mpr
      (not_exists.mp hcyclic)
    exact .inr ⟨hcyclic,plan,hplan,(h.plan_eq_ok hfile hplan).2.1⟩

/-- A faulty file is refused, and the fault names the file. -/
theorem Readable.render_faulty (hfaulty : file.Faulty) (hreport : ¬ file.Unreportable) :
    ∃ e cause, render (TypeIndex.ofFiles files) file = .error e ∧ e.unsupported? = some cause ∧
      cause.path = file.path := by
  unfold render
  cases hlayout : layoutFault? file with
  | some fault =>
    have hreportable : fault.Reportable := not_not.mp fun hlong => hreport ⟨fault,hlayout,hlong⟩
    obtain ⟨text,htext⟩ := EnumFault.exists_message?_iff.mpr hreportable
    exact ⟨_,⟨file.path,text,[]⟩,rfl,by rw [RenderError.unsupported?,htext,Option.map_some],rfl⟩
  | none =>
    rcases h.plan_cases hp hfile with ⟨-,groups,members,hplan⟩ | ⟨hacyclic,-⟩
    · rw [hplan]
      exact ⟨_,_,rfl,rfl,rfl⟩
    · rcases hfaulty with ⟨decl,hdecl,hbad⟩ | hcyclic
      · exact absurd (layoutFault?_eq_none_iff.mp hlayout decl hdecl) hbad
      · exact absurd hcyclic hacyclic

section Sound
variable (hsound : ¬ file.Faulty)
include hsound

theorem Readable.plan_sound : layoutFault? file = none ∧
    ∃ plan, file.plan (TypeIndex.ofFiles files) = .ok plan ∧
      ∀ name, name ∈ plan.order ↔ name ∈ file.declaredNames := by
  have hlayout : layoutFault? file = none := by
    refine layoutFault?_eq_none_iff.mpr fun decl hdecl => ?_
    exact not_not.mp fun hbad => hsound (.inl ⟨decl,hdecl,hbad⟩)
  rcases h.plan_cases hp hfile with ⟨hcyclic,-⟩ | ⟨-,hplan⟩
  · exact absurd (.inr hcyclic) hsound
  · exact ⟨hlayout,hplan⟩

/-- A file without faults is rendered exactly if all of its fields have a value to start from. -/
theorem Readable.exists_render_iff :
    (∃ source, render (TypeIndex.ofFiles files) file = .ok source) ↔
      ¬ file.LacksDefault files := by
  obtain ⟨hlayout,plan,hplan,horder⟩ := h.plan_sound hp hfile hsound
  constructor
  · rintro ⟨source,hrender⟩ ⟨m,hm,f,hf,hlacks⟩
    obtain ⟨block,usesMap,hblock⟩ :=
      (SchemaFile.rendered_of_render h.distinct hfile hrender).blocks _ hm
    exact (h.exists_blockOf_iff hfile hm).mp ⟨_,hblock⟩ m rfl f hf hlacks
  · intro hdefaults
    obtain ⟨blocks,hblocks⟩ : ∃ blocks, List.Forall₂ (fun name b => ∃ d ∈ file.declarations,
        plannedDeclaration (TypeIndex.ofFiles files) name = .ok d ∧
          blockOf (TypeIndex.ofFiles files) d = .ok b) plan.order blocks := by
      refine exists_forall₂_iff.mpr fun name hname => ?_
      obtain ⟨d,hd,rfl⟩ := List.mem_map.mp ((horder name).mp hname)
      obtain ⟨b,hb⟩ := (h.exists_blockOf_iff hfile hd).mpr fun m hm f hf hlacks =>
        hdefaults ⟨m,hm ▸ hd,f,hf,hlacks⟩
      exact ⟨b,d,hd,plannedDeclaration_ofFiles hfile h.distinct hd,hb⟩
    obtain ⟨texts,htexts⟩ : ∃ texts, List.Forall₂ (fun b lines => b.1.lines = .ok lines)
        blocks texts := by
      refine exists_forall₂_iff.mpr fun ⟨block,usesMap⟩ hmem => ?_
      obtain ⟨-,-,d,hd,-,hb⟩ := exists_of_mem_right hblocks hmem
      refine exists_lines hb fun decl he => ?_
      exact (layoutFault?_eq_none_iff.mp hlayout decl (he ▸ hd)).nonempty
    have hbuilt : List.Forall₂ (fun name b => ∃ d,
        plannedDeclaration (TypeIndex.ofFiles files) name = .ok d ∧
          blockOf (TypeIndex.ofFiles files) d = .ok b) plan.order blocks := by
      refine hblocks.imp ?_
      rintro name b ⟨d,-,hplanned,hb⟩
      exact ⟨d,hplanned,hb⟩
    exact ⟨_,render_eq_ok_iff.mpr ⟨plan,blocks,hlayout,hplan,hbuilt,texts,htexts,rfl⟩⟩

end Sound

/-- What becomes of one file: an error of its own, its code, or the end of the run. -/
theorem Readable.generateFile_cases :
    (file.Faulty ∧ ¬ file.Unreportable ∧ ∃ cause, cause.path = file.path ∧
      generateFile (TypeIndex.ofFiles files) .keep file =
        .ok (.error ⟨file.path,.unsupported cause⟩)) ∨
    (¬ file.Faulty ∧ ¬ file.LacksDefault files ∧ ∃ source,
      render (TypeIndex.ofFiles files) file = .ok source ∧
      generateFile (TypeIndex.ofFiles files) .keep file =
        .ok (.ok ⟨file.outputPath,encodeUtf8 source⟩)) ∨
    ((file.Unreportable ∨ ¬ file.Faulty ∧ file.LacksDefault files) ∧ ∃ e,
      generateFile (TypeIndex.ofFiles files) .keep file = .error e) := by
  by_cases hlong : file.Unreportable
  · exact .inr (.inr ⟨.inl hlong,generateFile_of_unreportable _ hlong⟩)
  by_cases hfaulty : file.Faulty
  · obtain ⟨e,cause,hrender,hu,hpath⟩ := h.render_faulty hp hfile hfaulty hlong
    exact .inl ⟨hfaulty,hlong,cause,hpath,by simp [generateFile,hrender,hu]⟩
  · have hiff := h.exists_render_iff hp hfile hfaulty
    by_cases hlacks : file.LacksDefault files
    · refine .inr (.inr ⟨.inr ⟨hfaulty,hlacks⟩,?_⟩)
      obtain ⟨hlayout,plan,hplan,-⟩ := h.plan_sound hp hfile hfaulty
      cases hrender : render (TypeIndex.ofFiles files) file with
      | ok source => exact absurd hlacks (hiff.mp ⟨source,hrender⟩)
      | error e =>
        have hnone := unsupported?_of_render hlayout hplan hrender
        exact ⟨.render e,by simp [generateFile,hrender,hnone]⟩
    · obtain ⟨source,hrender⟩ := hiff.mpr hlacks
      exact .inr (.inl ⟨hfaulty,hlacks,source,hrender,by
        simp [generateFile,hrender,Formatter.keep]⟩)

end Files

/-- The outcomes of files that all have one settle the files. -/
theorem Readable.settled_of_outcomes {files : List SchemaFile} (h : Readable files)
    (hp : (files.map (·.path)).Nodup) {part : List SchemaFile} (hsub : ∀ file ∈ part, file ∈ files)
    {outcomes : List FileOutcome}
    (ho : part.mapM (generateFile (TypeIndex.ofFiles files) .keep) = .ok outcomes) :
    Settled (TypeIndex.ofFiles files) part (outcomes.filterMap FileOutcome.generated?)
      (outcomes.filterMap FileOutcome.error?) := by
  induction part generalizing outcomes with
  | nil =>
    cases ho
    exact .nil
  | cons file rest ih =>
    obtain ⟨hfile,hsub⟩ := List.forall_mem_cons.mp hsub
    obtain ⟨⟩ := mapM_eq_ok_iff.mp ho
    rename_i outcome outcomes hfirst hrest
    have hrest := ih hsub (mapM_eq_ok_iff.mpr hrest)
    rcases h.generateFile_cases hp hfile with
      ⟨hfaulty,-,cause,hpath,he⟩ | ⟨hsound,-,source,hrender,he⟩ | ⟨-,e,he⟩
    · cases he.symm.trans hfirst
      exact .failed hfaulty cause hpath hrest
    · cases he.symm.trans hfirst
      exact .generated hsound source hrender hrest
    · cases he.symm.trans hfirst

/-- A run comes to its end exactly if no file has a fault too long to be reported and every file
without faults has a value to start from for each of its fields. Then each file is settled in its
turn: reported if it is faulty, generated if not. -/
theorem generate_settles_iff {sources : List (String × String)} {files : List SchemaFile}
    (hsources : (sources.map (·.1)).Nodup) (hparse : parseAll sources = .ok files) :
    ((∃ result, generate files .keep = .ok result) ↔
      ∀ file ∈ files, ¬ file.Unreportable ∧ (¬ file.Faulty → ¬ file.LacksDefault files)) ∧
    ∀ result, generate files .keep = .ok result →
      Settled (TypeIndex.ofFiles files) files result.files result.errors := by
  have h := parseAll_readable hparse
  obtain ⟨-,hpaths,hasked⟩ := parseAll_eq_ok hparse
  have hp : (files.map (·.path)).Nodup := hpaths ▸ hsources
  have hall : files.filter (·.generate) = files := List.filter_eq_self.mpr hasked
  have hrun : ∀ result, generate files .keep = .ok result ↔ ∃ outcomes,
      files.mapM (generateFile (TypeIndex.ofFiles files) .keep) = .ok outcomes ∧
        result = ⟨outcomes.filterMap FileOutcome.generated?,
          outcomes.filterMap FileOutcome.error?⟩ := by
    intro result
    rw [generate,hall,bind_eq_ok]
    simp [eq_comm]
  refine ⟨?_,?_⟩
  · simp only [hrun]
    rw [exists_comm]
    simp only [exists_and_left,exists_eq,and_true]
    rw [exists_mapM_eq_ok_iff]
    refine forall₂_congr fun file hfile => ?_
    rcases h.generateFile_cases hp hfile with
      ⟨hfaulty,hreport,cause,-,he⟩ | ⟨hsound,hdefaults,source,-,he⟩ | ⟨hends,e,he⟩
    · exact iff_of_true ⟨_,he⟩ ⟨hreport,fun hsound => absurd hfaulty hsound⟩
    · exact iff_of_true ⟨_,he⟩ ⟨fun hlong => hsound hlong.faulty,fun _ => hdefaults⟩
    · refine iff_of_false (by simp [he]) fun ⟨hreport,hall⟩ => ?_
      rcases hends with hlong | ⟨hsound,hlacks⟩
      · exact hreport hlong
      · exact hall hsound hlacks
  · intro result hresult
    obtain ⟨outcomes,houtcomes,rfl⟩ := (hrun result).mp hresult
    exact h.settled_of_outcomes hp (fun _ hf => hf) houtcomes

def tintSource : String := "enum T \x7b\x7d\n"

def dotsSource : String := "import \"tint.proto\";\nmessage D \x7b repeated T t = 1; \x7d\n"

def dotSource : String := "import \"tint.proto\";\nmessage D \x7b T t = 1; \x7d\n"

def dotsSources : List (String × String) := [("tint.proto",tintSource),("dot.proto",dotsSource)]

def dotSources : List (String × String) := [("tint.proto",tintSource),("dot.proto",dotSource)]

def tintFile : SchemaFile := ⟨"tint.proto","",[],[],[⟨"T","T",[],none⟩],true⟩

/-- A file of a message with one field, which is of the enum of the other file. -/
def dotFile (cardinality : Cardinality) : SchemaFile :=
  ⟨"dot.proto","",["tint.proto"],
    [⟨"D","D",[⟨"t",1,cardinality,⟨.enum,some "T"⟩,none,none,none⟩],[],[],none⟩],[],true⟩

section Tint
open Grammar

def tintDraft : FileDraft :=
  ⟨"tint.proto","",[],[],[⟨"T",[],[],1⟩],Text.lines tintSource.toList⟩

def dotDraft (shape : FieldShape) (text : String) : FileDraft :=
  ⟨"dot.proto","",["tint.proto"],[⟨"D",[⟨"t",1,"T",shape,2⟩],[],[],[],2⟩],[],
    Text.lines text.toList⟩

theorem draftOf_tintSource : draftOf "tint.proto" tintSource.toList = .ok tintDraft := by
  have hread : Grammar.read tintSource.toList = .ok [.enum ⟨1,"T",[]⟩] := by
    with_unfolding_all rfl
  exact draftOf_of_plain none hread rfl rfl

theorem draftOf_dotsSource :
    draftOf "dot.proto" dotsSource.toList = .ok (dotDraft .repeated dotsSource) := by
  have hread : Grammar.read dotsSource.toList = .ok [.imports none "\"tint.proto\"",
      .message 2 "D" [.field ⟨2,some .repeated,⟨false,⟨"T",[]⟩⟩,⟨"t","1",[]⟩⟩]] := by
    with_unfolding_all rfl
  exact draftOf_of_plain none hread rfl rfl

theorem draftOf_dotSource :
    draftOf "dot.proto" dotSource.toList = .ok (dotDraft .singular dotSource) := by
  have hread : Grammar.read dotSource.toList = .ok [.imports none "\"tint.proto\"",
      .message 2 "D" [.field ⟨2,none,⟨false,⟨"T",[]⟩⟩,⟨"t","1",[]⟩⟩]] := by
    with_unfolding_all rfl
  exact draftOf_of_plain none hread rfl rfl

theorem parseAll_dotsSources : parseAll dotsSources = .ok [tintFile,dotFile .repeated] :=
  parseAll_eq_ok_iff.mpr ⟨_,.cons draftOf_tintSource (.cons draftOf_dotsSource .nil),rfl,
    buildAll_of_plain rfl rfl rfl⟩

theorem parseAll_dotSources : parseAll dotSources = .ok [tintFile,dotFile .singular] :=
  parseAll_eq_ok_iff.mpr ⟨_,.cons draftOf_tintSource (.cons draftOf_dotSource .nil),rfl,
    buildAll_of_plain rfl rfl rfl⟩

end Tint

theorem declarations_dotFile (cardinality : Cardinality) : (dotFile cardinality).declarations =
    [.message ⟨"D","D",[⟨"t",1,cardinality,⟨.enum,some "T"⟩,none,none,none⟩],[],[],none⟩] := by
  simp [dotFile,SchemaFile.declarations,Message.declarationsOf,Message.declarations]

/-- An enum without values is reported for its own file, and the file that repeats it generated. -/
theorem dotsSources_settled : (dotsSources.map (·.1)).Nodup ∧
    parseAll dotsSources = .ok [tintFile,dotFile .repeated] ∧
    ∃ result, generate [tintFile,dotFile .repeated] .keep = .ok result ∧
      Settled (TypeIndex.ofFiles [tintFile,dotFile .repeated]) [tintFile,dotFile .repeated]
        result.files result.errors := by
  have hsources : (dotsSources.map (·.1)).Nodup := by decide
  obtain ⟨hends,hsettled⟩ := generate_settles_iff hsources parseAll_dotsSources
  have hdefaults : ∀ file ∈ [tintFile,dotFile .repeated],
      ¬ file.LacksDefault [tintFile,dotFile .repeated] := by
    rintro file hfile ⟨m,hm,f,hf,hsingular,-⟩
    rcases List.mem_pair.mp hfile with rfl | rfl
    · simp [tintFile,SchemaFile.declarations,Message.declarationsOf] at hm
    · rw [declarations_dotFile,List.mem_singleton] at hm
      cases hm
      rw [List.mem_singleton.mp hf] at hsingular
      cases hsingular
  have hreports : ∀ file ∈ [tintFile,dotFile .repeated], ¬ file.Unreportable := by
    rintro file hfile ⟨fault,hfault,hlong⟩
    have hnone : fault = .noValues "T" := by
      rcases List.mem_pair.mp hfile with rfl | rfl
      · exact (Option.some.inj hfault).symm
      · rw [layoutFault?,declarations_dotFile] at hfault
        cases hfault
    exact hlong fun _ _ _ h => by simp [hnone] at h
  obtain ⟨result,hresult⟩ :=
    hends.mpr fun file hfile => ⟨hreports file hfile,fun _ => hdefaults file hfile⟩
  exact ⟨hsources,parseAll_dotsSources,result,hresult,hsettled result hresult⟩

/-- An enum without values ends the run where a file without faults holds one by itself. -/
theorem dotSources_end_run : (dotSources.map (·.1)).Nodup ∧
    parseAll dotSources = .ok [tintFile,dotFile .singular] ∧ ¬ (dotFile .singular).Faulty ∧
    ¬ ∃ result, generate [tintFile,dotFile .singular] .keep = .ok result := by
  refine ⟨by decide,parseAll_dotSources,?_,?_⟩
  · rintro (⟨decl,hdecl,-⟩ | ⟨a,ha⟩)
    · simp [declarations_dotFile] at hdecl
    · obtain ⟨b,⟨m,f,hm,-,hf,-,hb,hdeclared⟩,-⟩ := Relation.TransGen.head'_iff.mp ha
      rw [declarations_dotFile,List.mem_singleton] at hm
      cases hm
      rw [List.mem_singleton.mp hf] at hb
      obtain ⟨rfl,-⟩ : "T" = b ∧ b ≠ "" := by
        simpa [Field.references,FieldType.isNamed,nonempty?] using hb
      simp [SchemaFile.declaredNames,declarations_dotFile,Declaration.fullName] at hdeclared
  · rintro ⟨result,hresult⟩
    have hnone : (generate [tintFile,dotFile .singular] .keep).toOption = none := by
      decide +kernel
    rw [hresult] at hnone
    cases hnone

end SchemaCodec
