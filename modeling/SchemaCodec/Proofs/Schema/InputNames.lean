import SchemaCodec.Proofs.Plugin.Answers
import SchemaCodec.Proofs.Schema.Written

/-! # Names of inputs

However a path to an input is written, the name of the input is what is left of its place behind a
root: a relative path in normal form. Only the root of the tree has another name, and as a directory
it cannot be read. So the code that is generated for inputs has relative paths in normal form, and
below a directory these lead to places below it.
-/
namespace SchemaCodec
open Text

/-- A tree whose root is a directory, with a working directory that is given by names. -/
structure FileTree.Rooted (tree : FileTree) : Prop where
  proper : tree.workingDirectory.Proper
  root : tree.node? [] = some .directory

/-! ## Names that places are given -/

theorem normalised_of_steps {names : List String} (h : ∀ name ∈ names, IsStep name)
    (hne : names ≠ []) : Normalised (joinStrings "/" names) := by
  rw [Normalised,splitString_steps h hne]
  exact h

section Names
variable {root path : AbsolutePath} {name : String} (hpath : path.place.Proper)
  (hne : path.place ≠ [])
include hpath hne

theorem normalised_importPath (h : importPath? root path = some name) : Normalised name := by
  obtain ⟨rest,hrest,hempty,rfl⟩ := importPath?_eq_some h
  have hmore : rest ≠ [] := by
    rintro rfl
    exact hne (by rw [← hrest,hempty rfl]; rfl)
  rw [← hrest] at hpath
  rw [if_neg hmore]
  exact normalised_of_steps (List.forall_mem_append.mp hpath).2 hmore

/-- A place other than the root of the tree has a relative path in normal form as its name. -/
theorem normalised_importPlace (roots : List AbsolutePath) :
    Normalised (importPlace roots path).2 := by
  rcases importPlace_cases roots path with ⟨root,-,name,hname,hfound⟩ | ⟨-,hfound⟩
  · rw [hfound]
    exact normalised_importPath hpath hne hname
  · rw [hfound]
    obtain ⟨outer,last,hplace⟩ := (List.eq_nil_or_concat' path.place).resolve_left hne
    have hlast : IsStep last := hpath last (hplace ▸ List.mem_append_right _ List.mem_cons_self)
    have hname : joinStrings "/" [last] = last := by simp [joinStrings,join]
    simp only [hplace,List.getLast?_concat,Option.getD_some]
    rw [← hname]
    exact normalised_of_steps (List.forall_mem_singleton.mpr hlast) (List.cons_ne_nil _ _)

end Names

namespace FileTree
variable {tree : FileTree} {paths includePaths : List String} {files : List SchemaFile}

theorem Rooted.place_ne_nil (hrooted : tree.Rooted) {place : Place} {content : List UInt8}
    (h : tree.contentAt? place = some content) : place ≠ [] := by
  rintro rfl
  rw [contentAt?,hrooted.root] at h
  cases h

theorem normalised_of_load (hrooted : tree.Rooted) (h : tree.load paths includePaths = .ok files) :
    ∀ f ∈ files, f.generate = true → Normalised f.path := by
  intro f hf hasked
  obtain ⟨drafts,hserved,-,hgenerate,-⟩ := exists_drafts_of_load h
  obtain ⟨d,-,-,r,hr,hname,hdraft⟩ := hserved.drafted ((hgenerate f hf).mp hasked)
  obtain ⟨content,-,hcontent,-⟩ := content_of_draft hdraft
  obtain ⟨p,-,roots,rfl⟩ := exists_of_mem_right (tree.forall₂_inputRequest paths includePaths) hr
  rw [placeOf_inputRequest hrooted.proper] at hcontent
  have hplace : (tree.absolute p).place.Proper := proper_placeOf hrooted.proper p
  rw [← hname]
  exact normalised_importPlace hplace (hrooted.place_ne_nil hcontent) roots

end FileTree

/-! ## Paths of generated code -/

/-- What holds no separator goes on in the last piece. -/
theorem split_append_of_not_mem {sep : Char} (cs : List Char) {ds : List Char} (h : sep ∉ ds) :
    ∃ front last, split sep cs = front ++ [last] ∧ split sep (cs ++ ds) = front ++ [last ++ ds] := by
  induction cs with
  | nil => exact ⟨[],[],rfl,split_of_not_mem h⟩
  | cons c rest ih =>
    obtain ⟨front,last,hrest,hmore⟩ := ih
    by_cases hc : c = sep
    · exact ⟨[] :: front,last,by simp [split,hc,hrest],by simp [split,hc,hmore]⟩
    · cases front with
      | nil => exact ⟨[],c :: last,by simp [split,hc,hrest],by simp [split,hc,hmore]⟩
      | cons piece front =>
        exact ⟨(c :: piece) :: front,last,by simp [split,hc,hrest],by simp [split,hc,hmore]⟩

theorem splitString_append_of_not_mem (s : String) {ending : String} (h : '/' ∉ ending.toList) :
    ∃ front last, splitString '/' s = front ++ [last] ∧
      splitString '/' (s ++ ending) = front ++ [last ++ ending] := by
  obtain ⟨front,last,hs,hmore⟩ := split_append_of_not_mem s.toList h
  refine ⟨front.map String.ofList,String.ofList last,by simp [splitString,hs],?_⟩
  simp [splitString,hmore]

/-- A name with the extension of generated code leads down, whatever it was. -/
theorem isStep_code {name : String} (h : '/' ∉ name.toList) : IsStep (name ++ ".rs") := by
  have hends (other : String) (hother : other.toList.getLast? ≠ some 's') :
      name ++ ".rs" ≠ other := by
    rintro rfl
    simp at hother
  refine ⟨hends "" (by decide),hends "." (by decide),hends ".." (by decide),?_⟩
  simpa using h

theorem Normalised.outputPath {f : SchemaFile} (h : Normalised f.path) :
    Normalised f.outputPath := by
  have hpath : f.outputPath = String.ofList f.stem ++ ".rs" := by
    rw [SchemaFile.outputPath,← String.toList_inj]
    simp
  have hcodeSlash : '/' ∉ ".rs".toList := by decide
  have hschemaSlash : '/' ∉ ".proto".toList := by decide
  obtain ⟨front,last,hstem,hcode⟩ :=
    splitString_append_of_not_mem (String.ofList f.stem) hcodeSlash
  have hlast : '/' ∉ last.toList :=
    not_mem_of_mem_splitString (hstem ▸ List.mem_append_right _ (List.mem_singleton_self _))
  -- all pieces before the last one are pieces of the path itself
  have hfront : ∀ name ∈ front, IsStep name := by
    rcases f.stem_cases with ⟨-,hf⟩ | ⟨-,hf⟩
    · obtain ⟨front',last',hstem',hmore⟩ :=
        splitString_append_of_not_mem (String.ofList f.stem) hschemaSlash
      obtain ⟨rfl,-⟩ := List.append_inj' (hstem.symm.trans hstem') rfl
      rw [Normalised,hf,hmore] at h
      exact (List.forall_mem_append.mp h).1
    · rw [hf,String.ofList_toList] at hstem
      rw [Normalised,hstem] at h
      exact (List.forall_mem_append.mp h).1
  rw [Normalised,hpath,hcode]
  exact List.forall_mem_append.mpr
    ⟨hfront,List.forall_mem_singleton.mpr (isStep_code hlast)⟩

/-- Code that is generated for loaded files has paths in normal form. -/
theorem FileTree.normalised_generated {tree : FileTree} {paths includePaths : List String}
    {files : List SchemaFile} {format : Formatter} {result : GenerationResult}
    (hrooted : tree.Rooted) (h : tree.load paths includePaths = .ok files)
    (hresult : generate files format = .ok result) : ∀ g ∈ result.files, Normalised g.path := by
  intro g hg
  obtain ⟨outcomes,houtcomes,rfl⟩ := generate_eq_ok_iff.mp hresult
  obtain ⟨outcome,houtcome,hmade⟩ := List.mem_filterMap.mp hg
  obtain ⟨f,hf,hgenerated⟩ := exists_of_mem_right houtcomes houtcome
  cases outcome with
  | error e => cases hmade
  | ok made =>
    cases hmade
    obtain ⟨hf,hasked⟩ := List.mem_filter.mp hf
    have hpath : g.path = f.outputPath := generateFile_isFor hgenerated
    rw [hpath]
    exact (normalised_of_load hrooted h f hf hasked).outputPath

end SchemaCodec
