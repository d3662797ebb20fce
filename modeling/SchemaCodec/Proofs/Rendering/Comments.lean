import SchemaCodec.Proofs.Rendering.CodeLines

/-! # Comments and code

A source is its code with documentation between the lines. Leaving the documentation out of it gives
the source that is rendered once all comments are removed from all files, so no comment becomes code.
-/
namespace SchemaCodec
open Codec Rendering Text

namespace Rendering

theorem documents_docLines (comment : Option String) : Documents (docLines comment) [] :=
  .of_docs fun _ => isDoc_of_mem_docLines

theorem StructField.documents (s : StructField) : Documents s.lines s.uncommented.lines := by
  have hdocs : ∀ line ∈ (docLines s.comment).map (nested 1), IsDoc line :=
    List.forall_mem_map.mpr fun line hline => (isDoc_of_mem_docLines hline).nested 1
  exact (Documents.of_docs hdocs).append (.refl _)

theorem EnumBlock.documents (b : EnumBlock) (first : String) :
    Documents (b.lines first) (b.uncommented.lines first) := by
  simp only [EnumBlock.lines,List.append_assoc]
  exact (documents_docLines b.comment).append (.refl _)

/-- The lines of a struct are those of the struct without comments, with its documentation. -/
theorem StructBlock.documents (b : StructBlock) : Documents b.lines b.uncommented.lines := by
  have hfields : Documents (b.fields.flatMap StructField.lines)
      (b.uncommented.fields.flatMap StructField.lines) := by
    refine .flatMap ?_
    rw [StructBlock.uncommented,List.forall₂_map_right_iff,List.forall₂_same]
    exact fun s _ => s.documents
  have hinitial : b.uncommented.fields.map (fun s => nested 3 (s.name ++ ": " ++ s.initial ++ ",")) =
      b.fields.map fun s => nested 3 (s.name ++ ": " ++ s.initial ++ ",") := by
    rw [StructBlock.uncommented,List.map_map]
    rfl
  simp only [StructBlock.lines,List.append_assoc,hinitial]
  refine Documents.append (.refl _) (Documents.append (documents_docLines b.comment) ?_)
  exact Documents.append (.refl _) (hfields.append (.refl _))

theorem Block.documents {b : Block} {lines : List String} (h : b.lines = .ok lines) :
    ∃ bare, b.uncommented.lines = .ok bare ∧ Documents lines bare := by
  cases b with
  | struct b =>
    cases h
    exact ⟨_,rfl,b.documents⟩
  | enum b =>
    cases hv : b.variants with
    | nil => simp [Block.lines,hv] at h
    | cons first more =>
      simp only [Block.lines,hv] at h
      cases h
      refine ⟨b.uncommented.lines first.1,?_,b.documents first.1⟩
      simp [Block.uncommented,Block.lines,EnumBlock.uncommented,hv]

end Rendering

/-- The names that a file's source is made of keep its lines as they are: no line feed is in a path or
in a package, and the slots of the messages that the file declares are called by lines of code. -/
structure SchemaFile.KeepsCode (file : SchemaFile) (files : List SchemaFile) : Prop where
  paths : ∀ g ∈ files, '\n' ∉ g.path.toList ∧ '\n' ∉ g.package.toList
  slots : ∀ g ∈ files, ∀ d ∈ g.declarations, d.fullName ∈ file.declaredNames → d.KeepsCode

section Sources
variable {files : List SchemaFile} {file : SchemaFile} {version source : String}
  {plan : EmissionPlan} {blocks : List (Block × Bool)}
  (ha : Assembled (TypeIndex.ofFiles files) file version source plan blocks)
include ha

/-- A source has the lines of the source without comments, with documentation between them. -/
theorem Assembled.exists_documents : ∃ lines bares,
    source = terminateLines lines ∧
    List.Forall₂ (fun b bare => b.1.uncommented.lines = .ok bare) blocks bares ∧
    Documents lines (headingLines file plan (blocks.any (·.2)) version
      ++ bares.flatMap ("" :: ·)) := by
  obtain ⟨texts,htexts,hsource⟩ := ha.text
  have hall : List.Forall₂ (fun b lines => ∃ bare, b.1.uncommented.lines = .ok bare ∧
      Documents lines bare) blocks texts := htexts.imp fun _ _ hb => Block.documents hb
  obtain ⟨bares,hbares,hdocs⟩ := exists_forall₂_comp hall
  exact ⟨_,bares,hsource,hbares,Documents.append (.refl _) (.flatMap (hdocs.flip.imp fun _ _ hd =>
    .keep "" hd))⟩

/-- The lines of a source without comments are lines of code. -/
theorem Assembled.isCode (h : file.KeepsCode files) (hfile : file ∈ files)
    (hversion : '\n' ∉ version.toList) {bares : List (List String)}
    (hbares : List.Forall₂ (fun b bare => b.1.uncommented.lines = .ok bare) blocks bares) :
    ∀ line ∈ headingLines file plan (blocks.any (·.2)) version ++ bares.flatMap ("" :: ·),
      IsCode line := by
  rw [List.forall_mem_append,List.forall_mem_flatMap]
  refine ⟨isCode_headingLines h.paths hfile ha.planned _ hversion,fun bare hbare => ?_⟩
  obtain ⟨⟨block,usesMap⟩,hblock,hlines⟩ := exists_of_mem_right hbares hbare
  obtain ⟨name,hname,d,hplanned,hbuilt⟩ := exists_of_mem_right ha.built hblock
  have hd : d.KeepsCode := by
    obtain ⟨rfl,g,hg,hd⟩ := exists_of_plannedDeclaration hplanned
    exact h.slots g hg d hd ((SchemaFile.of_plan ha.planned).2 _ hname)
  exact List.forall_mem_cons.mpr ⟨by decide,isCode_of_blockOf hd hbuilt hlines⟩

/-- The lines of its blocks are lines of a source. -/
theorem Assembled.mem_pieces {block : Block} {usesMap : Bool} (hb : (block,usesMap) ∈ blocks)
    {lines : List String} (hlines : block.lines = .ok lines) {line : String} (hline : line ∈ lines)
    (hwhole : '\n' ∉ line.toList) : line ∈ splitString '\n' source := by
  obtain ⟨texts,htexts,rfl⟩ := ha.text
  obtain ⟨text,htext,hof⟩ := exists_of_mem_left htexts hb
  cases hlines.symm.trans hof
  have hmem : line ∈ texts.flatMap ("" :: ·) :=
    List.mem_flatMap.mpr ⟨lines,htext,List.mem_cons_of_mem "" hline⟩
  rw [splitString_terminateLines]
  refine List.mem_append_left _ (List.mem_flatMap.mpr ⟨line,List.mem_append_right _ hmem,?_⟩)
  rw [splitString,split_of_not_mem hwhole]
  simp

end Sources

/-- Comments only become documentation. Without its documentation a source is what is rendered when
all comments are removed, and documentation holds no line end, where names keep lines of code as they
are; and whatever the names are, comments make no difference to what is left. -/
theorem withoutDocs_render {files : List SchemaFile} {file : SchemaFile} (hfile : file ∈ files)
    {source : String} (h : render (TypeIndex.ofFiles files) file = .ok source) :
    ∃ bare, render (TypeIndex.ofFiles (files.map SchemaFile.uncommented)) file.uncommented =
        .ok bare ∧ withoutDocs source = withoutDocs bare ∧
      (file.KeepsCode files → withoutDocs source = bare ∧
        ∀ line ∈ splitString '\n' source, opensDoc line = true →
          ∀ c ∈ line.toList, isLineEnd c = false) := by
  obtain ⟨plan,blocks,ha⟩ := render_eq_ok_iff.mp h
  obtain ⟨lines,bares,rfl,hbares,hdocs⟩ := ha.exists_documents
  refine ⟨_,assembled_uncommented ha hbares rfl,hdocs.withoutDocs_eq,fun hall => ?_⟩
  have hcode := ha.isCode hall hfile (by decide) hbares
  refine ⟨hdocs.withoutDocs_eq.trans (withoutDocs_code hcode),fun line hline hopens => ?_⟩
  exact (hdocs.isDoc_of_opensDoc hcode hline hopens).whole

def hostileComment : String := " first\r\x7d\u2028pub fn main() \x7b\u000b/// \u0085*/ let x = 1; "

def stampFile : SchemaFile :=
  ⟨"stamp.proto","",[],[],
    [⟨"Stamp","Stamp",[⟨"NONE",0,some hostileComment⟩],some hostileComment⟩],true⟩

def parcelFile : SchemaFile :=
  ⟨"parcel.proto","post",["stamp.proto"],
    [⟨"Parcel","post.Parcel",
        [⟨"stamp",2,.singular,⟨.enum,some "Stamp"⟩,none,none,some hostileComment⟩],[],[],
        some hostileComment⟩,
      ⟨"Owner","post.Owner",
        [⟨"name",1,.oneof,⟨.scalar .string,none⟩,none,some "holder",some "\n\n// a"⟩],[],[],
        some "\x7d"⟩],[],true⟩

theorem parcelFile_comments : parcelFile ∈ [parcelFile,stampFile] ∧
    parcelFile.KeepsCode [parcelFile,stampFile] ∧ ∃ source bare,
      render (TypeIndex.ofFiles [parcelFile,stampFile]) parcelFile = .ok source ∧
      render (TypeIndex.ofFiles ([parcelFile,stampFile].map SchemaFile.uncommented))
        parcelFile.uncommented = .ok bare ∧ withoutDocs source = bare ∧
      ∀ line ∈ splitString '\n' source, opensDoc line = true →
        ∀ c ∈ line.toList, isLineEnd c = false := by
  have hmem : parcelFile ∈ [parcelFile,stampFile] := List.mem_cons_self
  have hkeeps : parcelFile.KeepsCode [parcelFile,stampFile] := by
    have hall : ∀ g ∈ [parcelFile,stampFile], ∀ d ∈ g.declarations, d.KeepsCode := by decide
    exact ⟨by decide,fun g hg d hd _ => hall g hg d hd⟩
  have hok : (render (TypeIndex.ofFiles [parcelFile,stampFile]) parcelFile).isOk = true := by
    with_unfolding_all rfl
  cases hrender : render (TypeIndex.ofFiles [parcelFile,stampFile]) parcelFile with
  | error e =>
    rw [hrender] at hok
    cases hok
  | ok source =>
    obtain ⟨bare,hbare,-,hleft⟩ := withoutDocs_render hmem hrender
    exact ⟨hmem,hkeeps,source,bare,rfl,hbare,hleft hkeeps⟩

def slashMessage : Message :=
  ⟨"A","A",[⟨"///x",1,.singular,⟨.scalar .bool,none⟩,none,none,none⟩],[],[],none⟩

def slashFile : SchemaFile := ⟨"slash.proto","",[],[slashMessage],[],true⟩

/-- There are no comments and no name holds a line feed, but the initial value of the field is left
out with the documentation. -/
theorem slashFile_loses_code : slashFile.uncommented = slashFile ∧
    (∀ text ∈ ["slash.proto","","A","///x"], '\n' ∉ text.toList) ∧
    ∃ source, render (TypeIndex.ofFiles [slashFile]) slashFile = .ok source ∧
      render (TypeIndex.ofFiles ([slashFile].map SchemaFile.uncommented)) slashFile.uncommented ≠
        .ok (withoutDocs source) := by
  refine ⟨rfl,by decide,?_⟩
  have hok : (render (TypeIndex.ofFiles [slashFile]) slashFile).isOk = true := by
    with_unfolding_all rfl
  have hplan : slashFile.plan (TypeIndex.ofFiles [slashFile]) = .ok ⟨["A"],[]⟩ := by
    with_unfolding_all rfl
  have hdeclared : plannedDeclaration (TypeIndex.ofFiles [slashFile]) "A" =
      .ok (.message slashMessage) := by
    with_unfolding_all rfl
  obtain ⟨b,hb,hfields⟩ : ∃ b, blockOf (TypeIndex.ofFiles [slashFile]) (.message slashMessage) =
      .ok (.struct b,false) ∧ b.fields = [⟨"///x","bool",none,"false"⟩] :=
    ⟨_,by with_unfolding_all rfl,rfl⟩
  cases hrender : render (TypeIndex.ofFiles [slashFile]) slashFile with
  | error e =>
    rw [hrender] at hok
    cases hok
  | ok source =>
    refine ⟨source,rfl,fun hbare => ?_⟩
    have hsame : withoutDocs source = source := Except.ok.inj (hbare.symm.trans hrender)
    obtain ⟨plan,blocks,ha⟩ := render_eq_ok_iff.mp hrender
    obtain rfl : plan = ⟨["A"],[]⟩ := Except.ok.inj (ha.planned.symm.trans hplan)
    obtain ⟨block,hblock,d,hplanned,hbuilt⟩ :=
      exists_of_mem_left ha.built (List.mem_singleton_self "A")
    cases hdeclared.symm.trans hplanned
    cases hb.symm.trans hbuilt
    have hline : nested 3 ("///x" ++ ": " ++ "false" ++ ",") ∈ b.lines := by
      simp [StructBlock.lines,hfields]
    have hclosed := opensDoc_of_withoutDocs_eq hsame _ (ha.mem_pieces hblock rfl hline (by decide))
    exact absurd hclosed (by decide)

end SchemaCodec
