import Mathlib
import SchemaCodec.Proofs.Schema.AddedFiles
import SchemaCodec.Proofs.Schema.Written

/-! # Inputs in another order

An input is named below the first root above it, and the directories of inputs before it can be
among the roots. So the order of the inputs can change the names of files and where imports are
found. What is loaded stays the same exactly if the names do and none of them comes to stand for
another file. So it is if every name leads to one place in both orders, as it does where all inputs
are below include paths.
-/
namespace SchemaCodec
open Text

/-! ## Files that are built in another order -/

/-- A table of the same names in another order. -/
theorem TableGrows.of_perm {drafts drafts' : List FileDraft} {declared declared' : Declared}
    (hperm : drafts.Perm drafts') (h : declareAll drafts = .ok declared)
    (h' : declareAll drafts' = .ok declared') :
    TableGrows declared declared' (drafts.flatMap FileDraft.fullNames) [] := by
  refine ⟨fun n => isSome_sort?_iff h,fun n => ?_,fun n _ => ?_,fun n _ => List.not_mem_nil⟩
  · rw [isSome_sort?_iff h',(hperm.flatMap_right _).mem_iff]
    simp
  · refine Option.ext fun sort => ?_
    rw [sort?_eq_some_iff h,sort?_eq_some_iff h',(hperm.flatMap_right _).mem_iff]

theorem not_captured_nil {known : List String} {ref scope : String} :
    ¬ Captured known [] ref scope := by
  rintro ⟨-,before,c,after,-,hc,-⟩
  exact List.not_mem_nil hc

theorem buildAll_perm {drafts drafts' : List FileDraft} {asked : String → Bool}
    {files files' : List SchemaFile} (hperm : drafts.Perm drafts')
    (h : buildAll drafts asked = .ok files) (h' : buildAll drafts' asked = .ok files') :
    files.Perm files' := by
  obtain ⟨declared,hdeclared,hfiles⟩ := bind_eq_ok.mp h
  obtain ⟨declared',hdeclared',hfiles'⟩ := bind_eq_ok.mp h'
  have hbuilt := mapM_eq_ok_iff.mp hfiles
  have hsame : drafts'.mapM (fun d => d.build declared' (asked d.path)) =
      drafts'.mapM fun d => d.build declared (asked d.path) := by
    refine mapM_congr fun d hd => ?_
    obtain ⟨f,-,hf⟩ := exists_of_mem_left hbuilt (hperm.mem_iff.mpr hd)
    exact (FileDraft.build_eq_iff (.of_perm hperm hdeclared hdeclared') ⟨f,hf⟩).mpr
      fun _ _ _ _ => not_captured_nil
  obtain ⟨moved,hmoved,hfilesPerm⟩ := List.perm_comp_forall₂ hperm.symm hbuilt
  rw [hsame,mapM_eq_ok_iff.mpr hmoved] at hfiles'
  cases hfiles'
  exact hfilesPerm.symm

/-! ## Closures of the same start -/

/-- What a closure reaches is in another one with the same start, if files of one name import the
same there. -/
theorem ImportClosure.paths_subset {start start' : List String} {files files' : List SchemaFile}
    (h : ImportClosure start files) (h' : ImportClosure start' files') (hstart : start ⊆ start')
    (hsame : ∀ f ∈ files, ∀ g ∈ files', f.path = g.path → f.dependencies = g.dependencies) :
    files.map (·.path) ⊆ files'.map (·.path) := by
  have hreached : ∀ {name path}, name ∈ start →
      Relation.ReflTransGen (AsksFor (files.map SchemaFile.link)) name path →
        path ∈ files'.map (·.path) := by
    intro name path hname hreach
    induction hreach with
    | refl => exact h'.starts (hstart hname)
    | tail _ hasks ih =>
      obtain ⟨l,hl,rfl,hasked⟩ := hasks
      obtain ⟨f,hf,rfl⟩ := List.mem_map.mp hl
      obtain ⟨g,hg,hpath⟩ := List.mem_map.mp ih
      exact h'.closed g hg (hsame f hf g hg hpath.symm ▸ hasked)
  intro path hpath
  obtain ⟨f,hf,rfl⟩ := List.mem_map.mp hpath
  obtain ⟨name,hname,hreach⟩ := h.reached f hf
  exact hreached hname hreach

theorem ImportClosure.same_paths {start start' : List String} {files files' : List SchemaFile}
    (h : ImportClosure start files) (h' : ImportClosure start' files')
    (hstart : ∀ name, name ∈ start ↔ name ∈ start')
    (hsame : ∀ f ∈ files, ∀ g ∈ files', f.path = g.path → f.dependencies = g.dependencies) :
    files.map (·.path) ⊆ files'.map (·.path) ∧ files'.map (·.path) ⊆ files.map (·.path) :=
  ⟨h.paths_subset h' (fun name => (hstart name).mp) hsame,
    h'.paths_subset h (fun name => (hstart name).mpr)
      fun g hg f hf hpath => (hsame f hf g hg hpath.symm).symm⟩

theorem exists_draft_of_buildAll {drafts : List FileDraft} {asked : String → Bool}
    {files : List SchemaFile} (h : buildAll drafts asked = .ok files) {f : SchemaFile}
    (hf : f ∈ files) : ∃ d ∈ drafts, d.path = f.path ∧ d.imports = f.dependencies := by
  have hmem : f.link ∈ drafts.map FileDraft.link := map_link_buildAll h ▸ List.mem_map_of_mem hf
  obtain ⟨d,hd,hlink⟩ := List.mem_map.mp hmem
  exact ⟨d,hd,Prod.mk.inj hlink⟩

namespace FileTree
variable {tree : FileTree} {roots : List AbsolutePath} {inputs : Inputs} {q q' : LoadQueue}

/-! ## What a name is drafted from -/

/-- The first input of a name, or else what an import of it finds. -/
def source? (tree : FileTree) (inputs : Inputs) (name : String) : Option FileRequest :=
  (firstRequest? inputs.requests name).or (tree.importRequest? inputs.roots name)

/-- Where the file of a name is. -/
def sourcePlace? (tree : FileTree) (paths includePaths : List String) (name : String) :
    Option Place :=
  (tree.source? (tree.inputs paths includePaths) name).map fun r => tree.placeOf r.location

/-- A request of an input, or of what an import finds. -/
def IsSought (tree : FileTree) (inputs : Inputs) (r : FileRequest) : Prop :=
  r ∈ inputs.requests ∨ tree.importRequest? inputs.roots r.name = some r

/-- All that waits is sought, and drafts are made from what was. -/
structure Sought (tree : FileTree) (inputs : Inputs) (q : LoadQueue) : Prop where
  waiting : ∀ r ∈ q.pending, tree.IsSought inputs r
  drafted : ∀ d ∈ q.drafts, ∃ r, tree.IsSought inputs r ∧ tree.draft r = .ok d

theorem found_of_importRequests {drafts : List FileDraft} {draft : FileDraft}
    {imported : List FileRequest} (h : tree.importRequests roots drafts draft = .ok imported) :
    ∀ r ∈ imported, tree.importRequest? roots r.name = some r := by
  intro r hr
  obtain ⟨name,-,hname⟩ := exists_of_mem_right (mapM_eq_ok_iff.mp h) hr
  split at hname
  · rename_i request hrequest
    cases hname
    rwa [name_importRequest? hrequest]
  · cases hname

theorem Round.sought (h : tree.Round inputs.roots q q') (hq : Sought tree inputs q) :
    Sought tree inputs q' := by
  obtain ⟨hwaiting,hdrafted⟩ := hq
  cases h with
  | known => exact ⟨(List.forall_mem_cons.mp hwaiting).2,hdrafted⟩
  | drafted hnew hdraft himports =>
    obtain ⟨hrequest,hrest⟩ := List.forall_mem_cons.mp hwaiting
    refine ⟨List.forall_mem_append.mpr ⟨hrest,fun r hr => ?_⟩,List.forall_mem_append.mpr
      ⟨hdrafted,List.forall_mem_singleton.mpr ⟨_,hrequest,hdraft⟩⟩⟩
    exact .inr (found_of_importRequests himports r hr)

theorem sought_of_rounds
    (h : Relation.ReflTransGen (tree.Round inputs.roots) ⟨inputs.requests,[]⟩ q) :
    Sought tree inputs q := by
  induction h with
  | refl => exact ⟨fun r hr => .inl hr,by simp⟩
  | tail _ hround ih => exact hround.sought ih

/-- Each file is drafted from the source of its name. -/
theorem draft_source_of_rounds
    (h : Relation.ReflTransGen (tree.Round inputs.roots) ⟨inputs.requests,[]⟩ q) :
    ∀ d ∈ q.drafts, ∃ r, tree.source? inputs d.path = some r ∧ tree.draft r = .ok d := by
  intro d hd
  cases hfirst : firstRequest? inputs.requests d.path with
  | some r => exact ⟨r,by rw [source?,hfirst]; rfl,(firstServed_of_rounds h).first d hd r hfirst⟩
  | none =>
    obtain ⟨r,hsought,hdraft⟩ := (sought_of_rounds h).drafted d hd
    have hpath := path_draft hdraft
    refine ⟨r,?_,hdraft⟩
    rw [source?,hfirst,Option.none_or,hpath]
    refine hsought.resolve_left fun hmem => ?_
    exact firstRequest?_eq_none_iff.mp hfirst (hpath ▸ List.mem_map_of_mem hmem)

/-- Drafts of one name from one place are the same. -/
theorem draft_unique {r r' : FileRequest} {d d' : FileDraft} (h : tree.draft r = .ok d)
    (h' : tree.draft r' = .ok d') (hpath : d.path = d'.path)
    (hplace : tree.placeOf r.location = tree.placeOf r'.location) : d = d' := by
  obtain ⟨content,text,hcontent,htext,hdraft⟩ := content_of_draft h
  obtain ⟨content',text',hcontent',htext',hdraft'⟩ := content_of_draft h'
  rw [hplace,hcontent'] at hcontent
  cases hcontent
  cases htext.symm.trans htext'
  rw [← path_draft h,hpath,path_draft h',hdraft'] at hdraft
  exact (Except.ok.inj hdraft).symm

section Load
variable {paths paths' includePaths : List String} {files files' : List SchemaFile}

theorem mem_inputNames_iff (h : tree.load paths includePaths = .ok files) {name : String} :
    name ∈ tree.inputNames paths includePaths ↔ ∃ f ∈ files, f.generate = true ∧ f.path = name := by
  have hclosure := importClosure_of_load h
  constructor
  · intro hname
    obtain ⟨f,hf,rfl⟩ := List.mem_map.mp (hclosure.starts hname)
    exact ⟨f,hf,(hclosure.generate f hf).mpr hname,rfl⟩
  · rintro ⟨f,hf,hgenerate,rfl⟩
    exact (hclosure.generate f hf).mp hgenerate

variable (h : tree.load paths includePaths = .ok files)
  (h' : tree.load paths' includePaths = .ok files')
include h h'

/-- Two lists of inputs load the same files exactly if they give the same names and no name stands
for different files. -/
theorem load_perm_iff_of_load : files.Perm files' ↔
    (∀ name, name ∈ tree.inputNames paths includePaths ↔
      name ∈ tree.inputNames paths' includePaths) ∧
    ∀ f ∈ files, ∀ g ∈ files', f.path = g.path → f = g := by
  have hclosure := importClosure_of_load h
  have hclosure' := importClosure_of_load h'
  constructor
  · refine fun hperm => ⟨fun name => ?_,fun f hf g hg hpath => ?_⟩
    · simp only [mem_inputNames_iff h,mem_inputNames_iff h',hperm.mem_iff]
    · exact List.inj_on_of_nodup_map hclosure.distinct hf (hperm.mem_iff.mpr hg) hpath
  · rintro ⟨hnames,hsame⟩
    obtain ⟨hforth,hback⟩ := hclosure.same_paths hclosure' hnames fun f hf g hg hpath =>
      congrArg SchemaFile.dependencies (hsame f hf g hg hpath)
    exact perm_of_keys hclosure.distinct hclosure'.distinct hforth hback hsame

/-- Two lists of inputs load the same files if both give the same names, and each name of a file
leads to the same place. -/
theorem perm_of_sourcePlace (hnames : ∀ name, name ∈ tree.inputNames paths includePaths ↔
      name ∈ tree.inputNames paths' includePaths)
    (hplaces : ∀ f ∈ files, tree.sourcePlace? paths includePaths f.path =
      tree.sourcePlace? paths' includePaths f.path) : files.Perm files' := by
  obtain ⟨drafts,hrounds,hbuild⟩ := rounds_of_load h
  obtain ⟨drafts',hrounds',hbuild'⟩ := rounds_of_load h'
  have hclosure := importClosure_of_load h
  have hclosure' := importClosure_of_load h'
  have hpaths := (buildAll_eq_ok hbuild).2.1
  have hpaths' := (buildAll_eq_ok hbuild').2.1
  have hdrafts : ∀ d ∈ drafts, ∀ d' ∈ drafts', d.path = d'.path → d = d' := by
    intro d hd d' hd' hpath
    obtain ⟨r,hr,hdraft⟩ := draft_source_of_rounds hrounds d hd
    obtain ⟨r',hr',hdraft'⟩ := draft_source_of_rounds hrounds' d' hd'
    have hmem : d.path ∈ files.map (·.path) := hpaths ▸ List.mem_map_of_mem hd
    obtain ⟨f,hf,hfpath⟩ := List.mem_map.mp hmem
    have hplace := hplaces f hf
    rw [hfpath,sourcePlace?,sourcePlace?,hr,hpath,hr'] at hplace
    exact draft_unique hdraft hdraft' hpath (Option.some.inj hplace)
  have hlinks : ∀ f ∈ files, ∀ g ∈ files', f.path = g.path → f.dependencies = g.dependencies := by
    intro f hf g hg hpath
    obtain ⟨d,hd,hdpath,himports⟩ := exists_draft_of_buildAll hbuild hf
    obtain ⟨d',hd',hdpath',himports'⟩ := exists_draft_of_buildAll hbuild' hg
    rw [← himports,hdrafts d hd d' hd' (by rw [hdpath,hdpath',hpath]),himports']
  obtain ⟨hforth,hback⟩ := hclosure.same_paths hclosure' hnames hlinks
  rw [hpaths,hpaths'] at hforth hback
  have hperm : drafts.Perm drafts' :=
    perm_of_keys (hpaths ▸ hclosure.distinct) (hpaths' ▸ hclosure'.distinct) hforth hback hdrafts
  have hasked : (fun name => (tree.inputs paths includePaths).requests.any (·.name == name)) =
      fun name => (tree.inputs paths' includePaths).requests.any (·.name == name) := by
    funext name
    rw [Bool.eq_iff_iff]
    simpa [inputNames] using hnames name
  rw [hasked] at hbuild
  exact buildAll_perm hperm hbuild hbuild'

end Load

/-! ## Inputs below include paths -/

/-- A path that leads below one of the include paths. -/
def IsIncluded (tree : FileTree) (includePaths : List String) (path : String) : Prop :=
  ∃ dir ∈ includePaths, ∃ name, importPath? (tree.absolute dir) (tree.absolute path) = some name

section Included
variable {paths paths' includePaths : List String}

def includedRequest (tree : FileTree) (includePaths : List String) (path : String) : FileRequest :=
  inputRequest (includePaths.map tree.absolute) (tree.absolute path)

theorem mem_of_isIncluded {path : String} (h : tree.IsIncluded includePaths path) :
    (importPlace (includePaths.map tree.absolute) (tree.absolute path)).1 ∈
      includePaths.map tree.absolute := by
  obtain ⟨dir,hdir,name,hname⟩ := h
  rcases importPlace_cases (includePaths.map tree.absolute) (tree.absolute path) with
    ⟨root,hroot,_,-,hfound⟩ | ⟨hnone,-⟩
  · rw [hfound]
    exact hroot
  · rw [hnone _ (List.mem_map_of_mem hdir)] at hname
    cases hname

/-- Inputs below include paths are requested each by itself, and make no further roots. -/
theorem inputs_included (h : ∀ p ∈ paths, tree.IsIncluded includePaths p) :
    tree.inputs paths includePaths =
      ⟨includePaths.map tree.absolute,paths.map (tree.includedRequest includePaths)⟩ := by
  have hfold (done : List FileRequest) :
      (paths.map tree.absolute).foldl Inputs.add ⟨includePaths.map tree.absolute,done⟩ =
        ⟨includePaths.map tree.absolute,
          done ++ paths.map (tree.includedRequest includePaths)⟩ := by
    induction paths generalizing done with
    | nil => simp
    | cons p rest ih =>
      obtain ⟨hp,hrest⟩ := List.forall_mem_cons.mp h
      have hadd : Inputs.add ⟨includePaths.map tree.absolute,done⟩ (tree.absolute p) =
          ⟨includePaths.map tree.absolute,done ++ [tree.includedRequest includePaths p]⟩ := by
        rw [Inputs.add]
        dsimp only
        rw [if_pos (mem_of_isIncluded hp)]
        rfl
      rw [List.map_cons,List.foldl_cons,hadd,ih hrest]
      simp
  exact hfold []

/-- In any order, a name of inputs below include paths leads to one place, if different files have
different names. -/
theorem sourcePlace?_included (hproper : tree.workingDirectory.Proper) (hperm : paths.Perm paths')
    (h : ∀ p ∈ paths, tree.IsIncluded includePaths p)
    (hapart : ∀ x ∈ tree.namedInputs paths includePaths,
      ∀ y ∈ tree.namedInputs paths includePaths, x.2 = y.2 →
        tree.placeOf x.1 = tree.placeOf y.1) (name : String) :
    tree.sourcePlace? paths includePaths name = tree.sourcePlace? paths' includePaths name := by
  have hinputs := forall₂_inputs hproper paths includePaths
  have hplace : ∀ r ∈ (tree.inputs paths includePaths).requests,
      ∀ r' ∈ (tree.inputs paths includePaths).requests, r.name = r'.name →
        tree.placeOf r.location = tree.placeOf r'.location := by
    intro r hr r' hr' hname
    obtain ⟨x,hx,hxname,hxplace⟩ := exists_namedInput hinputs hr
    obtain ⟨y,hy,hyname,hyplace⟩ := exists_namedInput hinputs hr'
    rw [hxplace,hyplace,hapart x hx y hy (by rw [hxname,hyname,hname])]
  rw [sourcePlace?,sourcePlace?,source?,source?]
  rw [inputs_included h] at hplace ⊢
  rw [inputs_included fun p hp => h p (hperm.mem_iff.mpr hp)]
  have hrequests := hperm.map (tree.includedRequest includePaths)
  dsimp only at hplace ⊢
  cases hfirst : firstRequest? (paths.map (tree.includedRequest includePaths)) name with
  | none =>
    have hfirst' := firstRequest?_eq_none_iff.mp hfirst
    rw [(hrequests.map _).mem_iff,← firstRequest?_eq_none_iff] at hfirst'
    rw [hfirst']
  | some r =>
    obtain ⟨hr,hname⟩ := firstRequest?_eq_some hfirst
    obtain ⟨r',hfirst'⟩ : ∃ r',
        firstRequest? (paths'.map (tree.includedRequest includePaths)) name = some r' := by
      rw [← Option.ne_none_iff_exists',ne_eq,firstRequest?_eq_none_iff,not_not,← hname]
      exact List.mem_map_of_mem (hrequests.mem_iff.mp hr)
    obtain ⟨hr',hname'⟩ := firstRequest?_eq_some hfirst'
    rw [hfirst',Option.some_or,Option.some_or,Option.map_some,Option.map_some,
      hplace r hr r' (hrequests.mem_iff.mpr hr') (hname.trans hname'.symm)]

theorem inputNames_included (hperm : paths.Perm paths')
    (h : ∀ p ∈ paths, tree.IsIncluded includePaths p) (name : String) :
    name ∈ tree.inputNames paths includePaths ↔ name ∈ tree.inputNames paths' includePaths := by
  rw [inputNames,inputNames,inputs_included h,
    inputs_included fun p hp => h p (hperm.mem_iff.mpr hp)]
  exact ((hperm.map _).map _).mem_iff

end Included
end FileTree

/-- Two orders of the inputs load the same files exactly if they give the same names and no name
stands for different files: so it is if every name leads to the same place in both, and in
particular if all inputs are below include paths and different ones have different names. -/
theorem load_perm_iff {tree : FileTree} {paths paths' includePaths : List String}
    {files files' : List SchemaFile} (hproper : tree.workingDirectory.Proper)
    (hperm : paths.Perm paths') (h : tree.load paths includePaths = .ok files)
    (h' : tree.load paths' includePaths = .ok files') :
    (files.Perm files' ↔
      (∀ name, name ∈ tree.inputNames paths includePaths ↔
        name ∈ tree.inputNames paths' includePaths) ∧
      ∀ f ∈ files, ∀ g ∈ files', f.path = g.path → f = g) ∧
    ((∀ name, name ∈ tree.inputNames paths includePaths ↔
        name ∈ tree.inputNames paths' includePaths) →
      (∀ f ∈ files, tree.sourcePlace? paths includePaths f.path =
        tree.sourcePlace? paths' includePaths f.path) → files.Perm files') ∧
    ((∀ p ∈ paths, tree.IsIncluded includePaths p) →
      (∀ x ∈ tree.namedInputs paths includePaths, ∀ y ∈ tree.namedInputs paths includePaths,
        x.2 = y.2 → tree.placeOf x.1 = tree.placeOf y.1) → files.Perm files') := by
  refine ⟨FileTree.load_perm_iff_of_load h h',FileTree.perm_of_sourcePlace h h',
    fun hincluded hapart => ?_⟩
  exact FileTree.perm_of_sourcePlace h h' (FileTree.inputNames_included hperm hincluded)
    fun f _ => FileTree.sourcePlace?_included hproper hperm hincluded hapart f.path

theorem SelfContained.reverse {sources : List (String × String)} (h : SelfContained sources) :
    SelfContained sources.reverse where
  normalised s hs := h.normalised s (List.mem_reverse.mp hs)
  distinct := by
    rw [List.map_reverse]
    exact List.nodup_reverse.mpr h.distinct
  plain s hs := h.plain s (List.mem_reverse.mp hs)
  imports s hs draft hdraft := by
    rw [List.map_reverse]
    exact fun name hname =>
      List.mem_reverse.mpr (h.imports s (List.mem_reverse.mp hs) draft hdraft hname)

theorem load_shelf : shelfTree.load ["s/p/a","s/b"] ["s"] = .ok shelfFiles := by
  rw [← parseAll_shelfSources]
  exact load_stored selfContained_shelfSources shelfTree_stores (.inl (by decide))

theorem load_shelf_reverse : shelfTree.load ["s/b","s/p/a"] ["s"] = .ok shelfFiles.reverse := by
  have hfiles : parseAll shelfSources.reverse = .ok shelfFiles.reverse :=
    parseAll_eq_ok_iff.mpr ⟨_,.cons (draftOf_messageB "b") (.cons draftOf_shelf_a .nil),rfl,
      buildAll_of_plain rfl rfl rfl⟩
  rw [← hfiles]
  exact load_stored selfContained_shelfSources.reverse
    (fun s hs => shelfTree_stores s (List.mem_reverse.mp hs)) (.inl (by decide))

/-- Files below an include path are the same in both orders. -/
theorem shelfTree_swapped : shelfTree.workingDirectory.Proper ∧
    ["s/p/a","s/b"].Perm ["s/b","s/p/a"] ∧
    shelfTree.load ["s/p/a","s/b"] ["s"] = .ok shelfFiles ∧
    shelfTree.load ["s/b","s/p/a"] ["s"] = .ok shelfFiles.reverse ∧
    shelfFiles.Perm shelfFiles.reverse := by
  have hproper : shelfTree.workingDirectory.Proper := by
    intro name hname
    rw [List.mem_singleton.mp hname]
    decide
  have hswap : ["s/p/a","s/b"].Perm ["s/b","s/p/a"] := .swap _ _ _
  have hnames : shelfTree.namedInputs ["s/p/a","s/b"] ["s"] = [("s/p/a","p/a"),("s/b","b")] :=
    rfl
  obtain ⟨-,-,hincluded⟩ := load_perm_iff hproper hswap load_shelf load_shelf_reverse
  refine ⟨hproper,hswap,load_shelf,load_shelf_reverse,hincluded ?_ ?_⟩
  · intro p hp
    rcases List.mem_pair.mp hp with rfl | rfl
    · exact ⟨"s",List.mem_singleton_self _,"p/a",rfl⟩
    · exact ⟨"s",List.mem_singleton_self _,"b",rfl⟩
  · rw [hnames]
    simp

def nestedTree : FileTree where
  workingDirectory := []
  files := [(["a","x"],encodeUtf8 "message A{}"),(["a","b","y"],encodeUtf8 "message B{}")]

theorem draft_nestedTree_x : nestedTree.draft ⟨"/a/x","x"⟩ = .ok (twinDraft "x" "A") := by
  have hfile : nestedTree.read "/a/x" = .ok (encodeUtf8 "message A{}") := rfl
  rw [FileTree.draft_of_read ⟨"/a/x","x"⟩ hfile (fileText?_encodeUtf8 (by decide)),
    draftOf_messageA]

theorem draft_nestedTree_y (name : String) :
    nestedTree.draft ⟨"/a/b/y",name⟩ = .ok (twinDraft name "B") := by
  have hfile : nestedTree.read "/a/b/y" = .ok (encodeUtf8 "message B{}") := rfl
  rw [FileTree.draft_of_read ⟨"/a/b/y",name⟩ hfile (fileText?_encodeUtf8 (by decide)),
    draftOf_messageB]

theorem load_nestedTree : nestedTree.load ["a/x","a/b/y"] [] =
    .ok [twinFile "x" "A",twinFile "b/y" "B"] := by
  have hinputs : nestedTree.inputs ["a/x","a/b/y"] [] =
      ⟨[⟨false,["a"]⟩],[⟨"/a/x","x"⟩,⟨"/a/b/y","b/y"⟩]⟩ := rfl
  have hrounds : Relation.ReflTransGen (nestedTree.Round [⟨false,["a"]⟩])
      ⟨[⟨"/a/x","x"⟩,⟨"/a/b/y","b/y"⟩],[]⟩ ⟨[],[twinDraft "x" "A",twinDraft "b/y" "B"]⟩ := by
    refine .head (.drafted (by simp) draft_nestedTree_x rfl) ?_
    exact .single (.drafted (by simp [twinDraft]) (draft_nestedTree_y "b/y") rfl)
  rw [FileTree.load_of_rounds hinputs hrounds]
  exact buildAll_of_plain rfl rfl rfl

theorem load_nestedTree_reverse : nestedTree.load ["a/b/y","a/x"] [] =
    .ok [twinFile "y" "B",twinFile "x" "A"] := by
  have hinputs : nestedTree.inputs ["a/b/y","a/x"] [] =
      ⟨[⟨false,["a","b"]⟩,⟨false,["a"]⟩],[⟨"/a/b/y","y"⟩,⟨"/a/x","x"⟩]⟩ := rfl
  have hrounds : Relation.ReflTransGen (nestedTree.Round [⟨false,["a","b"]⟩,⟨false,["a"]⟩])
      ⟨[⟨"/a/b/y","y"⟩,⟨"/a/x","x"⟩],[]⟩ ⟨[],[twinDraft "y" "B",twinDraft "x" "A"]⟩ := by
    refine .head (.drafted (by simp) (draft_nestedTree_y "y") rfl) ?_
    exact .single (.drafted (by simp [twinDraft]) draft_nestedTree_x rfl)
  rw [FileTree.load_of_rounds hinputs hrounds]
  exact buildAll_of_plain rfl rfl rfl

/-- Behind the file beside its directory, the inner file is named from there, and before it by its
own name alone. -/
theorem nestedTree_renamed : ["a/x","a/b/y"].Perm ["a/b/y","a/x"] ∧
    nestedTree.load ["a/x","a/b/y"] [] = .ok [twinFile "x" "A",twinFile "b/y" "B"] ∧
    nestedTree.load ["a/b/y","a/x"] [] = .ok [twinFile "y" "B",twinFile "x" "A"] ∧
    ¬ [twinFile "x" "A",twinFile "b/y" "B"].Perm [twinFile "y" "B",twinFile "x" "A"] := by
  refine ⟨.swap _ _ _,load_nestedTree,load_nestedTree_reverse,fun hperm => ?_⟩
  have hmem := hperm.mem_iff.mp (List.mem_cons_of_mem _ (List.mem_singleton_self _))
  simp [twinFile] at hmem

end SchemaCodec
