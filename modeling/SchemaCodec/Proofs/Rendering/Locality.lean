import SchemaCodec.Proofs.Rendering.Lookups

/-! # Rendering is local

The code of a file depends on the declarations that it refers to, and not on where these stand
among the files or on what else is declared there. More files, in any order, change nothing as long
as they declare new names only.
-/
namespace SchemaCodec
open Rendering

/-- Whatever one index finds, the other one finds. -/
def TypeIndex.Extends (index' index : TypeIndex) : Prop :=
  ∀ name e, index.find? name = some e → index'.find? name = some e

namespace TypeIndex.Extends
variable {index index' : TypeIndex} (h : index'.Extends index)
include h

theorem serves : index.Serves index' :=
  fun name e he => ⟨e,h name e he,.refl e⟩

theorem plannedDeclaration (name : String) :
    KeepsResult (plannedDeclaration index name) (Rendering.plannedDeclaration index' name) := by
  intro d hd
  obtain ⟨e,he,hed⟩ := plannedDeclaration_eq_ok_iff.mp hd
  exact plannedDeclaration_eq_ok_iff.mpr ⟨e,h name e he,hed⟩

end TypeIndex.Extends

/-- Files that come with others, which declare new names only, are found there in any order. -/
theorem extends_of_perm {files more all : List SchemaFile}
    (hn : (files.flatMap SchemaFile.declaredNames).Nodup)
    (hnew : ∀ name ∈ more.flatMap SchemaFile.declaredNames,
      name ∉ files.flatMap SchemaFile.declaredNames) (hall : all.Perm (files ++ more)) :
    (TypeIndex.ofFiles all).Extends (TypeIndex.ofFiles files) := by
  have hinj : ((TypeIndex.entriesOf files).map (·.fullName)).Nodup := by
    rwa [TypeIndex.map_fullName_entriesOf]
  have hentries (x : TypeEntry) : x ∈ TypeIndex.entriesOf all ↔
      x ∈ TypeIndex.entriesOf files ∨ x ∈ TypeIndex.entriesOf more := by
    rw [← List.mem_append,TypeIndex.entriesOf,TypeIndex.entriesOf,TypeIndex.entriesOf,
      ← List.flatMap_append]
    exact (hall.flatMap_right _).mem_iff
  intro name e he
  obtain ⟨rfl,hdeclared⟩ := TypeIndex.exists_of_find? he
  have hmem : e ∈ TypeIndex.entriesOf files := TypeIndex.mem_entriesOf.mpr hdeclared
  refine TypeIndex.find?_ofFiles_of_unique ((hentries e).mpr (.inl hmem)) fun x hx hname => ?_
  rcases (hentries x).mp hx with hx | hx
  · exact List.inj_on_of_nodup_map hinj hx hmem hname
  · have hxnew := List.mem_map_of_mem (f := TypeEntry.fullName) hx
    have hold := List.mem_map_of_mem (f := TypeEntry.fullName) hmem
    rw [TypeIndex.map_fullName_entriesOf] at hxnew hold
    rw [← hname] at hold
    exact absurd hold (hnew _ hxnew)

/-- Rendering is local: a file that has a source among some files, or an error that is put down to
its schema, has the same among all files of a list that holds them in some order and beside them
files that declare new names only. -/
theorem render_perm_append {files more all : List SchemaFile}
    (hn : (files.flatMap SchemaFile.declaredNames).Nodup)
    (hnew : ∀ name ∈ more.flatMap SchemaFile.declaredNames,
      name ∉ files.flatMap SchemaFile.declaredNames) (hall : all.Perm (files ++ more))
    {file : SchemaFile} {version : String}
    (hout : FailsWith OfSchema (render (TypeIndex.ofFiles files) file version)) :
    render (TypeIndex.ofFiles all) file version =
      render (TypeIndex.ofFiles files) file version := by
  have h := extends_of_perm hn hnew hall
  exact h.serves.render h.plannedDeclaration hout

def paletteFile : SchemaFile :=
  ⟨"palette.proto","art",[],[],[⟨"Shade","art.Shade",[⟨"DARK",0,none⟩],none⟩],true⟩

def boxFile : SchemaFile :=
  ⟨"box.proto","",["palette.proto"],
    [⟨"Box","Box",[⟨"shade",1,.singular,⟨.enum,some "art.Shade"⟩,none,none,none⟩],[],[],none⟩],
    [],true⟩

def loopFile : SchemaFile :=
  ⟨"loop.proto","",[],
    [⟨"Loop","Loop",[⟨"next",1,.singular,⟨.message,some "Loop"⟩,none,none,none⟩],[],[],none⟩],
    [],true⟩

/-- A file of the same path as another one, which declares a name of its own. -/
def otherFile : SchemaFile :=
  ⟨"box.proto","art",[],[],[⟨"Shape","art.Shape",[⟨"ROUND",0,none⟩],none⟩],true⟩

def someFiles : List SchemaFile := [paletteFile,boxFile,loopFile]

/-- The source of one file and the error of another one stay when a file is added and all are
turned around. -/
theorem someFiles_local : (someFiles.flatMap SchemaFile.declaredNames).Nodup ∧
    (∀ name ∈ [otherFile].flatMap SchemaFile.declaredNames,
      name ∉ someFiles.flatMap SchemaFile.declaredNames) ∧
    (someFiles ++ [otherFile]).reverse.Perm (someFiles ++ [otherFile]) ∧
    (∃ source, render (TypeIndex.ofFiles someFiles) boxFile = .ok source ∧
      render (TypeIndex.ofFiles (someFiles ++ [otherFile]).reverse) boxFile = .ok source) ∧
    ∃ e, OfSchema e ∧ render (TypeIndex.ofFiles someFiles) loopFile = .error e ∧
      render (TypeIndex.ofFiles (someFiles ++ [otherFile]).reverse) loopFile = .error e := by
  have hnames : someFiles.flatMap SchemaFile.declaredNames = ["art.Shade","Box","Loop"] := rfl
  have hn : (someFiles.flatMap SchemaFile.declaredNames).Nodup := by
    rw [hnames]
    decide
  have hnew : ∀ name ∈ [otherFile].flatMap SchemaFile.declaredNames,
      name ∉ someFiles.flatMap SchemaFile.declaredNames := by
    rw [hnames]
    decide
  have hall := List.reverse_perm (someFiles ++ [otherFile])
  refine ⟨hn,hnew,hall,?_,?_⟩
  · have hok : (render (TypeIndex.ofFiles someFiles) boxFile).isOk = true := by
      with_unfolding_all rfl
    cases hbox : render (TypeIndex.ofFiles someFiles) boxFile with
    | error e =>
      rw [hbox] at hok
      cases hok
    | ok source =>
      have hout : FailsWith OfSchema (render (TypeIndex.ofFiles someFiles) boxFile) :=
        hbox ▸ failsWith_ok source
      exact ⟨source,rfl,(render_perm_append hn hnew hall hout).trans hbox⟩
  · have hloop : render (TypeIndex.ofFiles someFiles) loopFile =
        .error (.plan (.inlineCycles "loop.proto" [["Loop"]] ["Loop"])) := by
      with_unfolding_all rfl
    have hfault : OfSchema (.plan (.inlineCycles "loop.proto" [["Loop"]] ["Loop"])) := ⟨_,rfl⟩
    have hout : FailsWith OfSchema (render (TypeIndex.ofFiles someFiles) loopFile) :=
      hloop ▸ failsWith_error hfault
    exact ⟨_,hfault,hloop,(render_perm_append hn hnew hall hout).trans hloop⟩

end SchemaCodec
