import SchemaCodec.Plugin.Answer
import SchemaCodec.Proofs.Rendering.Locality
import SchemaCodec.Proofs.Text.Utf8

/-! # Answers hold all the code or none

Every marked file has one entry in the result of a run, which it would also have if no other file
were marked. An answer to a request is an error if any of these entries is one, and then it has no
files; otherwise it has one file for each descriptor that is asked for.
-/
namespace SchemaCodec
open Rendering Text

/-- All that befalls a file is a fault of its schema or of the formatter. -/
structure FaultsContained (index : TypeIndex) (format : Formatter) (file : SchemaFile) :
    Prop where
  schema : FailsWith OfSchema (render index file)
  formatter : ∀ source, render index file = .ok source →
    FailsWith (fun fault => ∃ cause, fault = .failed cause) (format (encodeUtf8 source))

/-- An entry stands for a file if it has the path of the file's code, or the file's own path. -/
def FileOutcome.IsFor (file : SchemaFile) : FileOutcome → Prop
  | .ok made => made.path = file.outputPath
  | .error e => e.path = file.path

/-- The generated files and the errors among some entries, each in the order of the entries. -/
def GenerationResult.ofOutcomes (outcomes : List FileOutcome) : GenerationResult :=
  ⟨outcomes.filterMap FileOutcome.generated?,outcomes.filterMap FileOutcome.error?⟩

def SchemaFile.unmarked (file : SchemaFile) : SchemaFile := { file with generate := false }

def markedOnly (files : List SchemaFile) (file : SchemaFile) (place : ℕ) : List SchemaFile :=
  (files.map SchemaFile.unmarked).set place file

section Outcome
variable {index : TypeIndex} {format : Formatter} {file : SchemaFile}

theorem generateFile_isFor {outcome : FileOutcome}
    (h : generateFile index format file = .ok outcome) : outcome.IsFor file := by
  unfold generateFile at h
  cases hr : render index file with
  | error e =>
    cases hu : e.unsupported? with
    | none => simp [hr,hu] at h
    | some cause =>
      simp only [hr,hu,Except.ok.injEq] at h
      exact h ▸ rfl
  | ok source =>
    simp only [hr] at h
    cases hf : format (encodeUtf8 source) with
    | ok content =>
      simp only [hf,Except.ok.injEq] at h
      exact h ▸ rfl
    | error fault =>
      cases fault with
      | unusableCommand => simp [hf] at h
      | failed cause =>
        simp only [hf,Except.ok.injEq] at h
        exact h ▸ rfl

theorem FaultsContained.exists_outcome (hc : FaultsContained index format file) :
    ∃ outcome, generateFile index format file = .ok outcome := by
  unfold generateFile
  cases hr : render index file with
  | error e =>
    obtain ⟨cause,hu⟩ := hc.schema e hr
    exact ⟨.error ⟨file.path,.unsupported cause⟩,by simp only [hu]⟩
  | ok source =>
    cases hf : format (encodeUtf8 source) with
    | ok content => exact ⟨.ok ⟨file.outputPath,content⟩,by simp only [hf]⟩
    | error fault =>
      obtain ⟨cause,rfl⟩ := hc.formatter source hr fault hf
      exact ⟨.error ⟨file.path,.format cause⟩,by simp only [hf]⟩

theorem generateFile_eq_ok_iff {made : GeneratedFile} :
    generateFile index format file = .ok (.ok made) ↔ ∃ source content,
      render index file = .ok source ∧ format (encodeUtf8 source) = .ok content ∧
        made = ⟨file.outputPath,content⟩ := by
  unfold generateFile
  cases hr : render index file with
  | error e => cases hu : e.unsupported? <;> simp [hu]
  | ok source =>
    cases hf : format (encodeUtf8 source) with
    | ok content => simp [hf,eq_comm]
    | error fault => cases fault <;> simp [hf]

end Outcome

theorem generate_eq_ok_iff {files : List SchemaFile} {format : Formatter}
    {result : GenerationResult} : generate files format = .ok result ↔ ∃ outcomes,
      List.Forall₂ (fun file outcome =>
        generateFile (TypeIndex.ofFiles files) format file = .ok outcome)
        (files.filter (·.generate)) outcomes ∧
      result = .ofOutcomes outcomes := by
  rw [generate,bind_eq_ok]
  simp only [mapM_eq_ok_iff,Except.ok.injEq]
  exact exists_congr fun outcomes => and_congr_right fun _ => eq_comm

/-! ## Marks of other files -/

section Marks
variable {files files' : List SchemaFile}
  (h : files'.map SchemaFile.unmarked = files.map SchemaFile.unmarked)
include h

theorem exists_find?_of_unmarked_eq {name : String} {e : TypeEntry}
    (he : (TypeIndex.ofFiles files).find? name = some e) :
    ∃ e', (TypeIndex.ofFiles files').find? name = some e' ∧ e.Alike e' ∧
      e'.declaration = e.declaration := by
  have hfiles : List.Forall₂ (fun f f' : SchemaFile => f'.unmarked = f.unmarked) files files' := by
    have heq : List.Forall₂ Eq (files.map SchemaFile.unmarked) (files'.map SchemaFile.unmarked) :=
      List.forall₂_eq_eq_eq ▸ h.symm
    exact (List.forall₂_map_left_iff.mp (List.forall₂_map_right_iff.mp heq)).imp
      fun _ _ h => h.symm
  have hentries : List.Forall₂ (fun e e' : TypeEntry => e'.fullName = e.fullName ∧ e.Alike e' ∧
      e'.declaration = e.declaration) (TypeIndex.entriesOf files) (TypeIndex.entriesOf files') := by
    refine List.rel_flatMap hfiles fun f f' hf => ?_
    have hf : f'.unmarked = f.unmarked := hf
    have hpath : f'.path = f.path := (congrArg SchemaFile.path hf :)
    have hpackage : f'.package = f.package := (congrArg SchemaFile.package hf :)
    have hmodule : f'.modulePath = f.modulePath := (congrArg SchemaFile.modulePath hf :)
    have hdeclarations : f'.declarations = f.declarations := (congrArg SchemaFile.declarations hf :)
    rw [hdeclarations,List.forall₂_map_left_iff,List.forall₂_map_right_iff,List.forall₂_same]
    intro d _
    exact ⟨rfl,⟨congrArg (typeIdentifier d.fullName) hpackage,hpath,hmodule,rfl⟩,rfl⟩
  obtain ⟨e',he',-,halike⟩ := TypeIndex.exists_find?_of_forall₂ (fun _ _ h => h.1) hentries he
  exact ⟨e',he',halike⟩

/-- What becomes of a file whose faults are contained does not depend on which files are marked. -/
theorem generateFile_of_unmarked_eq {format : Formatter} {file : SchemaFile}
    (hc : FaultsContained (TypeIndex.ofFiles files) format file) :
    generateFile (TypeIndex.ofFiles files') format file =
      generateFile (TypeIndex.ofFiles files) format file := by
  have hserves : (TypeIndex.ofFiles files).Serves (TypeIndex.ofFiles files') := by
    intro name e he
    obtain ⟨e',he',halike,-⟩ := exists_find?_of_unmarked_eq h he
    exact ⟨e',he',halike⟩
  have hplanned (name : String) : KeepsResult (plannedDeclaration (TypeIndex.ofFiles files) name)
      (plannedDeclaration (TypeIndex.ofFiles files') name) := by
    intro d hd
    obtain ⟨e,he,hed⟩ := plannedDeclaration_eq_ok_iff.mp hd
    obtain ⟨e',he',-,hdeclaration⟩ := exists_find?_of_unmarked_eq h he
    exact plannedDeclaration_eq_ok_iff.mpr ⟨e',he',hdeclaration.trans hed⟩
  rw [generateFile,generateFile,hserves.render hplanned hc.schema]

end Marks

theorem filter_markedOnly {files : List SchemaFile} {file : SchemaFile} {place : ℕ}
    (hplace : files[place]? = some file) (hmark : file.generate = true) :
    (markedOnly files file place).filter (·.generate) = [file] := by
  have hnone (l : List SchemaFile) :
      (l.map SchemaFile.unmarked).filter (·.generate) = [] := by
    simp [List.filter_eq_nil_iff,SchemaFile.unmarked]
  obtain ⟨hlt,-⟩ := List.getElem?_eq_some_iff.mp hplace
  rw [markedOnly,List.set_eq_take_append_cons_drop,if_pos (by simpa using hlt),List.filter_append,
    ← List.map_take,← List.map_drop,hnone,List.filter_cons_of_pos hmark,hnone]
  rfl

theorem map_unmarked_markedOnly {files : List SchemaFile} {file : SchemaFile} {place : ℕ}
    (hplace : files[place]? = some file) :
    (markedOnly files file place).map SchemaFile.unmarked = files.map SchemaFile.unmarked := by
  obtain ⟨hlt,rfl⟩ := List.getElem?_eq_some_iff.mp hplace
  have hagain : (files.map SchemaFile.unmarked).map SchemaFile.unmarked =
      files.map SchemaFile.unmarked := by
    rw [List.map_map]
    rfl
  have hlt' : place < (files.map SchemaFile.unmarked).length := by rwa [List.length_map]
  have hset := List.set_getElem_self hlt'
  rw [markedOnly,List.map_set,hagain]
  rwa [List.getElem_map] at hset

/-- Every marked file has an entry, in the order of the files, and it is the one that the file has
when no other is marked. -/
def IsolatedEntries (files : List SchemaFile) (format : Formatter) (outcomes : List FileOutcome) :
    Prop :=
  List.Forall₂ (fun p outcome => outcome.IsFor p.1 ∧
    generate (markedOnly files p.1 p.2) format = .ok (.ofOutcomes [outcome]))
    (files.zipIdx.filter (·.1.generate)) outcomes

theorem exists_isolatedEntries {files : List SchemaFile} {format : Formatter}
    (hc : ∀ file ∈ files, file.generate = true →
      FaultsContained (TypeIndex.ofFiles files) format file) :
    ∃ outcomes, generate files format = .ok (.ofOutcomes outcomes) ∧
      IsolatedEntries files format outcomes := by
  have hentry : ∀ p ∈ files.zipIdx.filter (·.1.generate), ∃ outcome,
      generateFile (TypeIndex.ofFiles files) format p.1 = .ok outcome ∧ outcome.IsFor p.1 ∧
        generate (markedOnly files p.1 p.2) format = .ok (.ofOutcomes [outcome]) := by
    rintro ⟨file,place⟩ hp
    obtain ⟨hp,hmark⟩ := List.mem_filter.mp hp
    have hplace : files[place]? = some file := List.mk_mem_zipIdx_iff_getElem?.mp hp
    have hcontained := hc file (List.mem_of_getElem? hplace) hmark
    obtain ⟨outcome,houtcome⟩ := hcontained.exists_outcome
    refine ⟨outcome,houtcome,generateFile_isFor houtcome,generate_eq_ok_iff.mpr ⟨[outcome],?_,rfl⟩⟩
    rw [filter_markedOnly hplace hmark]
    have halone := generateFile_of_unmarked_eq (map_unmarked_markedOnly hplace) hcontained
    exact .cons (halone.trans houtcome) .nil
  obtain ⟨outcomes,houtcomes⟩ := exists_forall₂_iff.mpr hentry
  refine ⟨outcomes,generate_eq_ok_iff.mpr ⟨outcomes,?_,rfl⟩,houtcomes.imp fun _ _ h => h.2⟩
  have hmarked : (files.zipIdx.filter (·.1.generate)).map (·.1) = files.filter (·.generate) := by
    rw [← List.zipIdx_map_fst 0 files,List.filter_map]
    rw [List.zipIdx_map_fst]
    rfl
  rw [← hmarked,List.forall₂_map_left_iff]
  exact houtcomes.imp fun _ _ h => h.1

theorem forall₂_made {α : Type} {r : α → FileOutcome → Prop} {l : List α}
    {outcomes : List FileOutcome} (h : List.Forall₂ r l outcomes)
    (hnone : outcomes.filterMap FileOutcome.error? = []) :
    List.Forall₂ (fun a made => r a (.ok made)) l (outcomes.filterMap FileOutcome.generated?) := by
  induction h with
  | nil => exact .nil
  | @cons a outcome l outcomes ha _ ih =>
    cases outcome with
    | error e => simp [FileOutcome.error?] at hnone
    | ok made => exact .cons ha (ih (by simpa [FileOutcome.error?] using hnone))

theorem forall₂_filter {α β : Type} {r : α → β → Prop} {p : α → Bool} {q : β → Bool}
    (hpq : ∀ a b, r a b → q b = p a) {l : List α} {m : List β} (h : List.Forall₂ r l m) :
    List.Forall₂ (fun a b => p a = true ∧ r a b) (l.filter p) (m.filter q) := by
  induction h with
  | nil => exact .nil
  | @cons a b l m hab _ ih =>
    have hq := hpq a b hab
    cases hp : p a with
    | true => simpa [List.filter_cons,hq,hp] using ⟨hab,ih⟩
    | false => simpa [List.filter_cons,hq,hp] using ih

theorem GenerationResult.errors_ne_nil_iff {outcomes : List FileOutcome} :
    (ofOutcomes outcomes).errors ≠ [] ↔ ∃ e, .error e ∈ outcomes := by
  have hmem (e : FileError) : e ∈ (ofOutcomes outcomes).errors ↔ .error e ∈ outcomes := by
    rw [ofOutcomes,List.mem_filterMap]
    constructor
    · rintro ⟨outcome,houtcome,he⟩
      cases outcome with
      | ok made => cases he
      | error e' =>
        cases he
        exact houtcome
    · exact fun h => ⟨_,h,rfl⟩
  constructor
  · intro hne
    obtain ⟨e,he⟩ := List.exists_mem_of_ne_nil _ hne
    exact ⟨e,(hmem e).mp he⟩
  · rintro ⟨e,he⟩
    exact List.ne_nil_of_mem ((hmem e).mpr he)

namespace Plugin

/-- The parameter string or a descriptor is refused with a report. -/
def Request.Rejected (r : Request) : Prop :=
  (∃ unknown, formatChoice r.parameter = .error unknown) ∨
    ∃ d ∈ r.files, ∃ cause reason, d.toSchema (r.wanted.contains d.name) = .error cause ∧
      cause.message? = some reason

/-- Some file that is asked for has an error for its entry. -/
def Request.Fails (launch : Launcher) (r : Request) : Prop :=
  ∃ choice files, formatChoice r.parameter = .ok choice ∧ r.schemaFiles = .ok files ∧
    ∃ d ∈ r.files, r.wanted.contains d.name = true ∧ ∃ file e, d.toSchema true = .ok file ∧
      generateFile (TypeIndex.ofFiles files) (choice.formatter launch) file = .ok (.error e)

/-- An answered file is the formatted source of the schema file that a descriptor describes. -/
def AnsweredFile.IsFor (format : Formatter) (index : TypeIndex) (d : Descriptor.File)
    (answered : AnsweredFile) : Prop :=
  ∃ file source content, d.toSchema true = .ok file ∧ render index file = .ok source ∧
    format (encodeUtf8 source) = .ok content ∧ answered.name = file.outputPath ∧
    content = encodeUtf8 answered.content

/-- The descriptors that are asked for have one answered file each, in their order. -/
def Request.Answered (launch : Launcher) (r : Request) (answered : List AnsweredFile) : Prop :=
  ∃ choice files, formatChoice r.parameter = .ok choice ∧ r.schemaFiles = .ok files ∧
    List.Forall₂ (AnsweredFile.IsFor (choice.formatter launch) (TypeIndex.ofFiles files))
      (r.files.filter fun d => r.wanted.contains d.name) answered

theorem generate_of_toSchema {d : Descriptor.File} {mark : Bool} {file : SchemaFile}
    (h : d.toSchema mark = .ok file) : file.generate = mark := by
  obtain ⟨messages,-,h⟩ := bind_eq_ok.mp h
  cases h
  rfl

theorem forall₂_marked {r : Request} {files : List SchemaFile} (h : r.schemaFiles = .ok files) :
    List.Forall₂ (fun d file => r.wanted.contains d.name = true ∧ d.toSchema true = .ok file)
      (r.files.filter fun d => r.wanted.contains d.name) (files.filter (·.generate)) := by
  have hall := mapM_eq_ok_iff.mp h
  refine (forall₂_filter (fun d file hd => generate_of_toSchema hd) hall).imp ?_
  rintro d file ⟨hwanted,hd⟩
  exact ⟨hwanted,by rwa [hwanted] at hd⟩

/-- The three ways to an answer. -/
theorem answer_eq_ok_iff {launch : Launcher} {r : Request} {a : Answer} :
    answer launch r = .ok a ↔
      (∃ unknown, formatChoice r.parameter = .error unknown ∧ a = refuse unknown.message) ∨
      (∃ choice cause reason, formatChoice r.parameter = .ok choice ∧
        r.schemaFiles = .error cause ∧ cause.message? = some reason ∧ a = refuse reason) ∨
      ∃ choice files result, formatChoice r.parameter = .ok choice ∧ r.schemaFiles = .ok files ∧
        generate files (choice.formatter launch) = .ok result ∧ answerResult result = .ok a := by
  unfold answer
  cases hchoice : formatChoice r.parameter with
  | error unknown => simp [eq_comm]
  | ok choice =>
    cases hfiles : r.schemaFiles with
    | error cause => cases hreason : cause.message? <;> simp [hreason,eq_comm]
    | ok files =>
      cases hresult : generate files (choice.formatter launch) <;> simp [hresult,eq_comm]

theorem answerFile_eq_ok_iff {file : GeneratedFile} {answered : AnsweredFile} :
    answerFile file = .ok answered ↔
      answered.name = file.path ∧ file.content = encodeUtf8 answered.content := by
  obtain ⟨name,content⟩ := answered
  rw [answerFile,← decodeUtf8?_eq_some_iff]
  cases decodeUtf8? file.content <;> simp [eq_comm]

/-- A result is answered with all that went wrong, or with the texts of all its files. -/
theorem answerResult_eq_ok_iff {result : GenerationResult} {a : Answer} :
    answerResult result = .ok a ↔
      (result.errors ≠ [] ∧ a = refuse (joinStrings "\n" (result.errors.map FileError.describe))) ∨
      (result.errors = [] ∧ ∃ files, result.files.mapM answerFile = .ok files ∧
        a = ⟨none,optionalFields,files⟩) := by
  unfold answerResult GenerationResult.ok
  cases result.errors with
  | nil => simp [bind_eq_ok,Except.ok.injEq,@eq_comm _ a]
  | cons e rest => simp [eq_comm]

section Outcomes
variable {r : Request} {files : List SchemaFile} {format : Formatter}
  {outcomes : List FileOutcome} (hfiles : r.schemaFiles = .ok files)
  (houtcomes : List.Forall₂ (fun file outcome =>
    generateFile (TypeIndex.ofFiles files) format file = .ok outcome)
    (files.filter (·.generate)) outcomes)
include hfiles houtcomes

theorem exists_error_iff : (∃ e, .error e ∈ outcomes) ↔
    ∃ d ∈ r.files, r.wanted.contains d.name = true ∧ ∃ file e, d.toSchema true = .ok file ∧
      generateFile (TypeIndex.ofFiles files) format file = .ok (.error e) := by
  have hmarked := forall₂_marked hfiles
  constructor
  · rintro ⟨e,he⟩
    obtain ⟨file,hfile,hgenerate⟩ := exists_of_mem_right houtcomes he
    obtain ⟨d,hd,hwanted,hschema⟩ := exists_of_mem_right hmarked hfile
    exact ⟨d,(List.mem_filter.mp hd).1,hwanted,file,e,hschema,hgenerate⟩
  · rintro ⟨d,hd,hwanted,file,e,hschema,hgenerate⟩
    obtain ⟨file',hfile',-,hschema'⟩ :=
      exists_of_mem_left hmarked (List.mem_filter.mpr ⟨hd,hwanted⟩)
    cases hschema.symm.trans hschema'
    obtain ⟨outcome,houtcome,hgenerate'⟩ := exists_of_mem_left houtcomes hfile'
    cases hgenerate.symm.trans hgenerate'
    exact ⟨e,houtcome⟩

theorem forall₂_answered (hnone : outcomes.filterMap FileOutcome.error? = [])
    {answered : List AnsweredFile}
    (hanswered : (outcomes.filterMap FileOutcome.generated?).mapM answerFile = .ok answered) :
    List.Forall₂ (AnsweredFile.IsFor format (TypeIndex.ofFiles files))
      (r.files.filter fun d => r.wanted.contains d.name) answered := by
  have hmade := forall₂_comp (forall₂_marked hfiles) (forall₂_made houtcomes hnone)
  refine (forall₂_comp hmade (mapM_eq_ok_iff.mp hanswered)).imp ?_
  rintro d answered ⟨made,⟨file,⟨-,hschema⟩,hmade⟩,hfile⟩
  obtain ⟨source,content,hrender,hformat,rfl⟩ := generateFile_eq_ok_iff.mp hmade
  obtain ⟨hname,hcontent⟩ := answerFile_eq_ok_iff.mp hfile
  exact ⟨file,source,content,hschema,hrender,hformat,hname,hcontent⟩

end Outcomes

/-- An answer sets its error exactly if the request is rejected or one of its files fails. It has no
files then, and otherwise one for each descriptor that is asked for. -/
theorem answer_whole {launch : Launcher} {r : Request} {a : Answer} (h : answer launch r = .ok a) :
    (a.error.isSome = true ↔ r.Rejected ∨ r.Fails launch) ∧
      (a.error.isSome = true → a.files = []) ∧
      (a.error = none → r.Answered launch a.files) := by
  rcases answer_eq_ok_iff.mp h with ⟨unknown,hchoice,rfl⟩ |
    ⟨choice,cause,reason,hchoice,hfiles,hreason,rfl⟩ |
    ⟨choice,files,result,hchoice,hfiles,hresult,ha⟩
  · have hrejected : r.Rejected := .inl ⟨unknown,hchoice⟩
    exact ⟨iff_of_true rfl (.inl hrejected),fun _ => rfl,fun h => nomatch h⟩
  · have hrejected : r.Rejected := by
      obtain ⟨before,d,after,hsplit,-,hd⟩ := mapM_eq_error.mp hfiles
      exact .inr ⟨d,by simp [hsplit],cause,reason,hd,hreason⟩
    exact ⟨iff_of_true rfl (.inl hrejected),fun _ => rfl,fun h => nomatch h⟩
  · obtain ⟨outcomes,houtcomes,rfl⟩ := generate_eq_ok_iff.mp hresult
    have haccepted : ¬ r.Rejected := by
      rintro (⟨unknown,hunknown⟩ | ⟨d,hd,cause,-,hcause,-⟩)
      · cases hchoice.symm.trans hunknown
      · obtain ⟨file,-,hfile⟩ := exists_of_mem_left (mapM_eq_ok_iff.mp hfiles) hd
        cases hfile.symm.trans hcause
    have hfails : r.Fails launch ↔ ∃ e, .error e ∈ outcomes := by
      rw [exists_error_iff hfiles houtcomes]
      constructor
      · rintro ⟨choice',files',hchoice',hfiles',hfails⟩
        cases hchoice.symm.trans hchoice'
        cases hfiles.symm.trans hfiles'
        exact hfails
      · exact fun hfails => ⟨choice,files,hchoice,hfiles,hfails⟩
    rw [or_iff_right haccepted,hfails,← GenerationResult.errors_ne_nil_iff]
    rcases answerResult_eq_ok_iff.mp ha with ⟨herrors,rfl⟩ | ⟨herrors,answered,hanswered,rfl⟩
    · exact ⟨iff_of_true rfl herrors,fun _ => rfl,fun h => nomatch h⟩
    · refine ⟨iff_of_false (by simp) (not_not.mpr herrors),fun h => absurd h (by simp),fun _ => ?_⟩
      exact ⟨choice,files,hchoice,hfiles,forall₂_answered hfiles houtcomes herrors hanswered⟩

/-- Generation keeps the files apart: it makes one entry for each marked file, in order and as if no
other file were marked. A request is answered with all the files that it asks for, or with an error
and none. -/
theorem generate_apart_answer_whole :
    (∀ files format, (∀ file ∈ files, file.generate = true →
        FaultsContained (TypeIndex.ofFiles files) format file) →
      ∃ outcomes, generate files format = .ok (.ofOutcomes outcomes) ∧
        IsolatedEntries files format outcomes) ∧
    ∀ launch r a, answer launch r = .ok a →
      (a.error.isSome = true ↔ r.Rejected ∨ r.Fails launch) ∧
      (a.error.isSome = true → a.files = []) ∧ (a.error = none → r.Answered launch a.files) :=
  ⟨fun _ _ hc => exists_isolatedEntries hc,fun _ _ _ h => answer_whole h⟩

/-- A sound file, one with a fault, and one that is not asked for. -/
def partlyMarked : List SchemaFile := [paletteFile,loopFile,boxFile.unmarked]

/-- A program that prints what it is given. -/
def echo : Launcher := fun _ input => .ok ⟨0,input,[]⟩

/-- One of two descriptors is asked for. -/
def paletteRequest : Request :=
  ⟨["palette.proto"],"",[⟨"empty.proto","",[],[],[],[]⟩,
    ⟨"palette.proto","art",[],[],[⟨"Shade",[⟨"DARK",0⟩]⟩],[]⟩]⟩

/-- The schema file that is asked for. -/
def shadeFile : SchemaFile :=
  ⟨"palette.proto","art",[],[],[⟨"Shade","art.Shade",[⟨"DARK",0,none⟩],none⟩],true⟩

theorem exists_answer_paletteRequest :
    ∃ a, answer echo paletteRequest = .ok a ∧ a.error = none := by
  let files : List SchemaFile := [⟨"empty.proto","",[],[],[],false⟩,shadeFile]
  have hchoice : formatChoice paletteRequest.parameter = .ok {} := by with_unfolding_all rfl
  have hfiles : paletteRequest.schemaFiles = .ok files := by with_unfolding_all rfl
  have hok : (render (TypeIndex.ofFiles files) shadeFile).isOk = true := by with_unfolding_all rfl
  cases hsource : render (TypeIndex.ofFiles files) shadeFile with
  | error e =>
    rw [hsource] at hok
    cases hok
  | ok source =>
    let made : GeneratedFile := ⟨shadeFile.outputPath,encodeUtf8 source⟩
    have hmade : generateFile (TypeIndex.ofFiles files) (FormatChoice.formatter {} echo)
        shadeFile = .ok (.ok made) := generateFile_eq_ok_iff.mpr ⟨source,_,hsource,rfl,rfl⟩
    have hgenerate : generate files (FormatChoice.formatter {} echo) = .ok ⟨[made],[]⟩ :=
      generate_eq_ok_iff.mpr ⟨[.ok made],.cons hmade .nil,rfl⟩
    have hanswered : [made].mapM answerFile = .ok [⟨made.path,source⟩] :=
      mapM_eq_ok_iff.mpr (.cons (answerFile_eq_ok_iff.mpr ⟨rfl,rfl⟩) .nil)
    have hresult : answerResult ⟨[made],[]⟩ = .ok ⟨none,optionalFields,[⟨made.path,source⟩]⟩ :=
      answerResult_eq_ok_iff.mpr (.inr ⟨rfl,_,hanswered,rfl⟩)
    exact ⟨_,answer_eq_ok_iff.mpr (.inr (.inr ⟨_,_,_,hchoice,hfiles,hgenerate,hresult⟩)),rfl⟩

theorem partlyMarked_apart_paletteRequest_whole :
    (∀ file ∈ partlyMarked, file.generate = true →
      FaultsContained (TypeIndex.ofFiles partlyMarked) .keep file) ∧
    (∃ outcomes, generate partlyMarked .keep = .ok (.ofOutcomes outcomes) ∧
      IsolatedEntries partlyMarked .keep outcomes) ∧
    ∃ a, answer echo paletteRequest = .ok a ∧ a.error = none ∧
      paletteRequest.Answered echo a.files := by
  obtain ⟨hapart,hwhole⟩ := generate_apart_answer_whole
  have hkeep (index : TypeIndex) (file : SchemaFile) (source : String)
      (_ : render index file = .ok source) :
      FailsWith (fun fault => ∃ cause, fault = .failed cause)
        (Formatter.keep (encodeUtf8 source)) := failsWith_ok _
  have hcontained : ∀ file ∈ partlyMarked, file.generate = true →
      FaultsContained (TypeIndex.ofFiles partlyMarked) .keep file := by
    refine List.forall_mem_cons.mpr ⟨fun _ => ⟨?_,hkeep _ _⟩,List.forall_mem_cons.mpr
      ⟨fun _ => ⟨?_,hkeep _ _⟩,by simp [SchemaFile.unmarked]⟩⟩
    · have hok : (render (TypeIndex.ofFiles partlyMarked) paletteFile).isOk = true := by
        with_unfolding_all rfl
      intro e he
      rw [he] at hok
      cases hok
    · have hloop : render (TypeIndex.ofFiles partlyMarked) loopFile =
          .error (.plan (.inlineCycles "loop.proto" [["Loop"]] ["Loop"])) := by
        with_unfolding_all rfl
      exact hloop ▸ failsWith_error ⟨_,rfl⟩
  obtain ⟨a,ha,hnone⟩ := exists_answer_paletteRequest
  exact ⟨hcontained,hapart _ _ hcontained,a,ha,hnone,(hwhole echo paletteRequest a ha).2.2 hnone⟩

end Plugin
end SchemaCodec
