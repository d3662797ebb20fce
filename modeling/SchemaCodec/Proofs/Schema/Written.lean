import Mathlib
import SchemaCodec.Proofs.Schema.Inputs
import SchemaCodec.Proofs.Schema.Reports
import SchemaCodec.Proofs.Text.Utf8

/-! # Loading what was written

Texts that import nothing but each other are written below a directory, and all of them are loaded
with the directory as the only root. Every file then gets its path below the directory as its name,
unless the directory is the root of the tree, and the files are those that the texts give by
themselves.
-/
namespace SchemaCodec
open Text

/-! ## Texts and where they are written -/

/-- A relative path in normal form. -/
def Normalised (path : String) : Prop := ∀ name ∈ splitString '/' path, IsStep name

instance (name : String) : Decidable (IsStep name) :=
  decidable_of_iff (name ≠ "" ∧ name ≠ "." ∧ name ≠ ".." ∧ '/' ∉ name.toList)
    ⟨fun ⟨hempty,hstay,hback,hslash⟩ => ⟨hempty,hstay,hback,hslash⟩,
      fun h => ⟨h.ne_empty,h.ne_stay,h.ne_back,h.noSlash⟩⟩

instance (path : String) : Decidable (Normalised path) :=
  inferInstanceAs (Decidable (∀ name ∈ splitString '/' path, IsStep name))

/-- Texts, each with its path, that import nothing but each other. -/
structure SelfContained (sources : List (String × String)) : Prop where
  normalised : ∀ s ∈ sources, Normalised s.1
  distinct : (sources.map (·.1)).Nodup
  plain : ∀ s ∈ sources, '\r' ∉ s.2.toList
  imports : ∀ s ∈ sources, ∀ draft, draftOf s.1 s.2.toList = .ok draft →
    draft.imports ⊆ sources.map (·.1)

/-- The texts stand in files below a directory. -/
def FileTree.Stores (tree : FileTree) (dir : String) (sources : List (String × String)) : Prop :=
  ∀ s ∈ sources, tree.find (joinPath (tree.absolute dir).text s.1) = .ok (.file (encodeUtf8 s.2))

/-- The paths of the files that are written below a directory. -/
def pathsBelow (dir : String) (sources : List (String × String)) : List String :=
  sources.map fun s => joinPath dir s.1

/-- Whether the root of the tree is another directory than this one, or all files lie directly in it.
-/
def KeepsPaths (tree : FileTree) (dir : String) (sources : List (String × String)) : Prop :=
  tree.placeOf dir ≠ [] ∨ ∀ s ∈ sources, '/' ∉ s.1.toList

section Paths
variable {tree : FileTree} {dir path : String}

theorem joinStrings_path (path : String) : joinStrings "/" (splitString '/' path) = path :=
  joinStrings_splitString rfl path

theorem splitString_ne_nil (path : String) : splitString '/' path ≠ [] :=
  mt List.map_eq_nil_iff.mp (split_ne_nil '/' path.toList)

theorem Normalised.isAbsolute (h : Normalised path) : isAbsolute path = false := by
  rw [← joinStrings_path path]
  exact isAbsolute_joinStrings h

theorem placeOf_below (h : Normalised path) :
    tree.placeOf (joinPath dir path) = tree.placeOf dir ++ splitString '/' path := by
  by_cases hdir : dir = ""
  · subst hdir
    have hjoin : joinPath "" path = path := by simp [joinPath,h.isAbsolute]
    rw [hjoin,FileTree.placeOf,h.isAbsolute,foldl_follow_steps h]
    rfl
  · rw [placeOf_joinPath tree hdir h.isAbsolute,foldl_follow_steps h]

theorem isDoubled_below (h : Normalised path) : isDoubled (joinPath dir path) = isDoubled dir := by
  have hstep := h _ (List.head_mem (splitString_ne_nil path))
  have hpath : path ≠ "" := by
    rintro rfl
    exact hstep.ne_empty rfl
  obtain ⟨c,more,hc⟩ := List.exists_cons_of_ne_nil (mt String.toList_eq_nil_iff.mp hpath)
  have hslash : c ≠ '/' := by simpa [SchemaCodec.isAbsolute,hc] using h.isAbsolute
  have hjoin : (joinPath dir path).toList =
      if dir.toList = [] ∨ dir.toList.getLast? = some '/' then dir.toList ++ path.toList
      else dir.toList ++ '/' :: path.toList := by
    simp only [joinPath,h.isAbsolute,Bool.false_eq_true,if_false,String.toList_eq_nil_iff]
    split <;> simp
  rw [isDoubled,hjoin,isDoubled,hc]
  -- only the first three characters matter, and the path begins with no slash
  rcases dir.toList with _ | ⟨d,_ | ⟨e,_ | ⟨f,rest⟩⟩⟩
  · simp [hslash]
  · by_cases hd : d = '/' <;> simp [hslash,hd]
  · by_cases hd : d = '/' <;> by_cases he : e = '/' <;> simp [hslash,hd,he]
  · rw [← apply_ite (d :: e :: f :: rest ++ ·),List.cons_append,List.cons_append,List.cons_append]
    by_cases hd : d = '/' <;> by_cases he : e = '/' <;> by_cases hf : f = '/' <;> simp [hd,he,hf]

theorem absolute_below (h : Normalised path) : tree.absolute (joinPath dir path) =
    ⟨(tree.absolute dir).doubled,(tree.absolute dir).place ++ splitString '/' path⟩ := by
  rw [FileTree.absolute,isDoubled_below h,placeOf_below h]
  rfl

/-- Below a root with a name of its own a place has the path from the root. -/
theorem importPlace_below {root : AbsolutePath} {names : List String} (hroot : root.place ≠ [])
    (hnames : names ≠ []) : importPlace [root] ⟨root.doubled,root.place ++ names⟩ =
      (root,joinStrings "/" names) := by
  have hpath : importPath? root ⟨root.doubled,root.place ++ names⟩ =
      some (joinStrings "/" names) := by
    have hne : root.place ≠ root.place ++ names :=
      fun he => hnames (List.append_right_eq_self.mp he.symm)
    have hbegins : root.place.isPrefixOf (root.place ++ names) = true :=
      List.isPrefixOf_iff_prefix.mpr (List.prefix_append _ _)
    rw [importPath?,if_neg hroot,if_pos ⟨rfl,hne,hbegins⟩,List.drop_left]
  simp only [importPlace,List.findSome?_cons,hpath,Option.map_some]

/-- Directly in the root of the tree a place has its name. -/
theorem importPlace_direct {root : AbsolutePath} (hroot : root.place = []) (name : String) :
    importPlace [root] ⟨root.doubled,[name]⟩ = (root,name) := by
  obtain ⟨doubled,place⟩ := root
  subst hroot
  cases doubled <;> simp [importPlace,importPath?]

end Paths

/-! ## The requests -/

section Inputs
variable {tree : FileTree} {dir : String} {sources : List (String × String)}

theorem importPlace_stored (hkeeps : KeepsPaths tree dir sources) {s : String × String}
    (hs : s ∈ sources) (h : Normalised s.1) :
    importPlace [tree.absolute dir] (tree.absolute (joinPath dir s.1)) =
      (tree.absolute dir,s.1) := by
  rw [absolute_below h]
  by_cases hroot : (tree.absolute dir).place = []
  · have hslash : '/' ∉ s.1.toList := hkeeps.resolve_left (not_not.mpr hroot) s hs
    have hname : splitString '/' s.1 = [s.1] := by
      rw [splitString,split_of_not_mem hslash,List.map_singleton,String.ofList_toList]
    rw [hroot,hname]
    exact importPlace_direct hroot s.1
  · rw [importPlace_below hroot (splitString_ne_nil s.1),joinStrings_path]

/-- Every file is requested by its path below the directory. -/
theorem inputs_stored (hkeeps : KeepsPaths tree dir sources)
    (hnormal : ∀ s ∈ sources, Normalised s.1) : tree.inputs (pathsBelow dir sources) [dir] =
      ⟨[tree.absolute dir],sources.map fun s => requestIn (tree.absolute dir) s.1⟩ := by
  have hfold (rest : List (String × String)) (hsub : rest ⊆ sources) (done : List FileRequest) :
      ((pathsBelow dir rest).map tree.absolute).foldl Inputs.add ⟨[tree.absolute dir],done⟩ =
        ⟨[tree.absolute dir],done ++ rest.map fun s => requestIn (tree.absolute dir) s.1⟩ := by
    induction rest generalizing done with
    | nil => simp [pathsBelow]
    | cons s rest ih =>
      obtain ⟨hs,hrest⟩ := List.cons_subset.mp hsub
      have hadd : Inputs.add ⟨[tree.absolute dir],done⟩ (tree.absolute (joinPath dir s.1)) =
          ⟨[tree.absolute dir],done ++ [requestIn (tree.absolute dir) s.1]⟩ := by
        simp [Inputs.add,importPlace_stored hkeeps hs (hnormal s hs)]
      rw [pathsBelow,List.map_cons,List.map_cons,List.foldl_cons,hadd]
      exact (ih hrest _).trans (by simp)
  exact hfold sources (List.Subset.refl _) []

end Inputs

/-! ## The drafts -/

namespace FileTree
variable {tree : FileTree} {dir : String} {sources : List (String × String)}

theorem Stores.draft (hstores : tree.Stores dir sources) (hself : SelfContained sources)
    {s : String × String} (hs : s ∈ sources) :
    tree.draft (requestIn (tree.absolute dir) s.1) = draftOf s.1 s.2.toList := by
  have hread : tree.read (requestIn (tree.absolute dir) s.1).location = .ok (encodeUtf8 s.2) := by
    rw [read,requestIn,hstores s hs]
    rfl
  rw [draft_of_read _ hread (fileText?_encodeUtf8 (hself.plain s hs))]
  rfl

/-- An import of a text is found, since it is one of the texts. -/
theorem Stores.importRequest (hstores : tree.Stores dir sources) {name : String}
    (hname : name ∈ sources.map (·.1)) : tree.importRequest? [tree.absolute dir] name =
      some (requestIn (tree.absolute dir) name) := by
  obtain ⟨s,hs,rfl⟩ := List.mem_map.mp hname
  have hfile : tree.isFile (requestIn (tree.absolute dir) s.1).location = true := by
    rw [isFile,requestIn,hstores s hs]
  rw [importRequest?,List.map_singleton,List.find?_cons,hfile]

theorem Stores.importRequests (hstores : tree.Stores dir sources) (drafts : List FileDraft)
    {draft : FileDraft} (himports : draft.imports ⊆ sources.map (·.1)) :
    ∃ imported, tree.importRequests [tree.absolute dir] drafts draft = .ok imported ∧
      imported.map (·.name) ⊆ sources.map (·.1) := by
  obtain ⟨imported,himported⟩ : ∃ imported,
      tree.importRequests [tree.absolute dir] drafts draft = .ok imported := by
    refine exists_mapM_eq_ok_iff.mpr fun name hname => ?_
    simp only [hstores.importRequest (himports (List.mem_of_mem_filter hname))]
    exact ⟨_,rfl⟩
  refine ⟨imported,himported,?_⟩
  rw [names_importRequests himported]
  exact List.Subset.trans (List.filter_subset_self _) himports

/-- When some texts are drafted and the rest are requested before anything else, loading ends with
the drafts of all texts or with the first fault among the rest. -/
theorem Stores.rounds (hstores : tree.Stores dir sources) (hself : SelfContained sources)
    {done rest : List (String × String)} (hsources : sources = done ++ rest)
    {drafts : List FileDraft} (hdrafts : drafts.map (·.path) = done.map (·.1))
    {imported : List FileRequest} (himported : imported.map (·.name) ⊆ sources.map (·.1)) :
    ∃ last, Relation.ReflTransGen (tree.Round [tree.absolute dir])
        ⟨(rest.map fun s => requestIn (tree.absolute dir) s.1) ++ imported,drafts⟩ last ∧
      tree.Ends [tree.absolute dir] last
        ((rest.mapM fun s => draftOf s.1 s.2.toList).map (drafts ++ ·)) := by
  induction rest generalizing done drafts imported with
  | nil =>
    rw [List.append_nil] at hsources
    refine ⟨⟨[],drafts⟩,rounds_known fun r hr => ?_,?_⟩
    · rw [hdrafts,← hsources]
      exact himported (List.mem_map_of_mem hr)
    · rw [List.mapM_nil]
      change tree.Ends _ _ (.ok (drafts ++ []))
      rw [List.append_nil]
      exact .done
  | cons s rest ih =>
    have hs : s ∈ sources := hsources ▸ List.mem_append_right _ List.mem_cons_self
    have hnew : (requestIn (tree.absolute dir) s.1).name ∉ drafts.map (·.path) := by
      have hdistinct := hself.distinct
      rw [hsources,List.map_append,List.map_cons] at hdistinct
      rw [hdrafts]
      exact fun hmem => List.disjoint_of_nodup_append hdistinct hmem List.mem_cons_self
    have hdraft := hstores.draft hself hs
    rw [List.mapM_cons]
    cases htext : draftOf s.1 s.2.toList with
    | error fault =>
      rw [htext] at hdraft
      exact ⟨_,.refl,.unread hnew hdraft⟩
    | ok draft =>
      rw [htext] at hdraft
      obtain ⟨more,hmore,hnames⟩ :=
        hstores.importRequests (drafts ++ [draft]) (hself.imports s hs draft htext)
      have hpath : draft.path = s.1 := path_draftOf htext
      have hrest : sources = (done ++ [s]) ++ rest := by
        rw [hsources,List.append_assoc,List.singleton_append]
      have hpaths : (drafts ++ [draft]).map (·.path) = (done ++ [s]).map (·.1) := by
        simp [hdrafts,hpath]
      have hasked : (imported ++ more).map (·.name) ⊆ sources.map (·.1) := by
        rw [List.map_append]
        exact List.append_subset.mpr ⟨himported,hnames⟩
      obtain ⟨last,hrounds,hends⟩ := ih hrest hpaths hasked
      refine ⟨last,.head (.drafted hnew hdraft hmore) ?_,?_⟩
      · rwa [← List.append_assoc] at hrounds
      · cases htexts : rest.mapM fun s => draftOf s.1 s.2.toList with
        | error fault =>
          rw [htexts] at hends
          exact hends
        | ok texts =>
          rw [htexts] at hends
          change tree.Ends _ _ (.ok (drafts ++ [draft] ++ texts)) at hends
          rw [List.append_assoc] at hends
          exact hends

/-- All texts are drafted in their order, up to the first fault. -/
theorem Stores.draftAll (hstores : tree.Stores dir sources) (hself : SelfContained sources) :
    let requests := sources.map fun s => requestIn (tree.absolute dir) s.1
    tree.draftAll [tree.absolute dir] (tree.requestLimit requests) requests [] =
      sources.mapM fun s => draftOf s.1 s.2.toList := by
  intro requests
  have hdrafts : ([] : List FileDraft).map (·.path) = ([] : List (String × String)).map (·.1) := rfl
  have hasked : ([] : List FileRequest).map (·.name) ⊆ sources.map (·.1) := List.nil_subset _
  obtain ⟨last,hrounds,hends⟩ := hstores.rounds hself (List.nil_append sources).symm hdrafts hasked
  rw [List.append_nil] at hrounds
  rw [draftAll_of_rounds hrounds hends]
  cases sources.mapM fun s => draftOf s.1 s.2.toList <;> rfl

end FileTree

theorem buildAll_congr {drafts : List FileDraft} {asked asked' : String → Bool}
    (h : ∀ d ∈ drafts, asked d.path = asked' d.path) :
    buildAll drafts asked = buildAll drafts asked' := by
  unfold buildAll
  refine congrArg _ (funext fun declared => ?_)
  exact mapM_congr fun d hd => by rw [h d hd]

theorem SelfContained.missingImport? {sources : List (String × String)}
    (hself : SelfContained sources) {drafts : List FileDraft}
    (h : (sources.mapM fun s => draftOf s.1 s.2.toList) = .ok drafts) :
    missingImport? (sources.map (·.1)) drafts = none := by
  refine List.find?_eq_none.mpr fun i hi => ?_
  obtain ⟨d,hd,hi⟩ := List.mem_flatMap.mp hi
  obtain ⟨name,hname,rfl⟩ := List.mem_map.mp hi
  obtain ⟨s,hs,hdraft⟩ := exists_of_mem_right (mapM_eq_ok_iff.mp h) hd
  simpa using hself.imports s hs d hdraft hname

section Load
variable {tree : FileTree} {dir : String} {sources : List (String × String)}

/-- What is written below a directory is loaded as it is given. -/
theorem load_stored (hself : SelfContained sources) (hstores : tree.Stores dir sources)
    (hkeeps : KeepsPaths tree dir sources) :
    tree.load (pathsBelow dir sources) [dir] = parseAll sources := by
  have hinputs := inputs_stored hkeeps hself.normalised
  have hdrafts := hstores.draftAll hself
  rw [FileTree.load,parseAll]
  simp only [hinputs,hdrafts]
  cases htexts : sources.mapM fun s => draftOf s.1 s.2.toList with
  | error fault => rfl
  | ok drafts =>
    have hasked : ∀ d ∈ drafts, ((sources.map fun s => requestIn (tree.absolute dir) s.1).any
        fun r => r.name == d.path) = true := by
      intro d hd
      obtain ⟨s,hs,hdraft⟩ := exists_of_mem_right (mapM_eq_ok_iff.mp htexts) hd
      refine List.any_eq_true.mpr ⟨_,List.mem_map_of_mem hs,?_⟩
      simp [requestIn,path_draftOf hdraft]
    simp only [bind,Except.bind,hself.missingImport? htexts]
    exact buildAll_congr hasked

/-! ## Files below the root of the tree -/

/-- The number of names on the way that a path spells. -/
abbrev pieces (path : String) : ℕ := (splitString '/' path).length

theorem pieces_pos (path : String) : 1 ≤ pieces path :=
  List.length_pos_iff.mpr (splitString_ne_nil path)

theorem Normalised.two_le_pieces {path : String} (h : Normalised path)
    (hslash : '/' ∈ path.toList) : 2 ≤ pieces path := by
  rcases Nat.lt_or_eq_of_le (pieces_pos path) with hlt | hone
  · exact hlt
  · obtain ⟨name,hname⟩ := List.length_eq_one_iff.mp hone.symm
    have hpath := joinStrings_path path
    rw [hname] at hpath
    have hsame : name = path := by simpa [joinStrings,join] using hpath
    exact absurd (hsame ▸ hslash) (h name (hname ▸ List.mem_singleton_self name)).noSlash

/-- The path from a root with a name of its own leaves out this name. -/
theorem pieces_importPath {root : AbsolutePath} (path : AbsolutePath) {name : String}
    (hroot : root.place ≠ []) (hpath : path.place.Proper) (h : importPath? root path = some name) :
    pieces name < path.place.length := by
  obtain ⟨rest,hrest,hempty,rfl⟩ := importPath?_eq_some h
  have hsteps : ∀ n ∈ rest, IsStep n := fun n hn => hpath n (hrest ▸ List.mem_append_right _ hn)
  have hmore : rest ≠ [] := fun he => hroot (hempty he)
  have hpos : 0 < root.place.length := List.length_pos_iff.mpr hroot
  rw [if_neg hmore,pieces,splitString_steps hsteps hmore,← hrest,List.length_append]
  omega

/-- Where all roots are written alike, a file below the root of the tree is imported by a path that
leaves out a name, if its own path has more than one. -/
theorem pieces_importPlace {roots : List AbsolutePath} {doubled : Bool}
    (hroots : ∀ r ∈ roots, r.doubled = doubled) {path : String} (h : Normalised path) :
    (importPlace roots ⟨doubled,splitString '/' path⟩).1.doubled = doubled ∧
      pieces (importPlace roots ⟨doubled,splitString '/' path⟩).2 +
        (if '/' ∈ path.toList then 1 else 0) ≤ pieces path := by
  rcases importPlace_cases roots ⟨doubled,splitString '/' path⟩ with
    ⟨root,hroot,name,hname,hfound⟩ | ⟨-,hfound⟩
  · rw [hfound]
    refine ⟨hroots root hroot,?_⟩
    have hplace : root.place ≠ [] := by
      intro hempty
      simp [importPath?,hempty,hroots root hroot] at hname
    have hless : pieces name < pieces path :=
      pieces_importPath ⟨doubled,splitString '/' path⟩ hplace h hname
    dsimp only
    split <;> omega
  · rw [hfound]
    refine ⟨rfl,?_⟩
    obtain ⟨outer,last,hplace⟩ := (List.eq_nil_or_concat' (splitString '/' path)).resolve_left
      (splitString_ne_nil path)
    have hstep : IsStep last := h last (hplace ▸ List.mem_append_right _ List.mem_cons_self)
    have hpieces : pieces last = 1 := by
      rw [pieces,splitString,split_of_not_mem hstep.noSlash]
      rfl
    simp only [hplace,List.getLast?_concat,Option.getD_some,hpieces]
    split
    · next hslash => exact h.two_le_pieces hslash
    · exact pieces_pos path

/-- So the names of the inputs have fewer pieces than their paths, unless these are single names. -/
theorem pieces_inputNames (hroot : tree.placeOf dir = [])
    (hnormal : ∀ s ∈ sources, Normalised s.1) :
    (tree.inputNames (pathsBelow dir sources) [dir]).length = sources.length ∧
      ((tree.inputNames (pathsBelow dir sources) [dir]).map pieces).sum +
        sources.countP (fun s => '/' ∈ s.1.toList) ≤ (sources.map fun s => pieces s.1).sum := by
  have hfold (start : Inputs) (hroots : ∀ r ∈ start.roots, r.doubled = isDoubled dir) :
      ∃ more, (((pathsBelow dir sources).map tree.absolute).foldl Inputs.add start).requests =
          start.requests ++ more ∧ more.length = sources.length ∧
        ((more.map (·.name)).map pieces).sum + sources.countP (fun s => '/' ∈ s.1.toList) ≤
          (sources.map fun s => pieces s.1).sum := by
    induction sources generalizing start with
    | nil => exact ⟨[],by simp [pathsBelow],rfl,by simp⟩
    | cons s rest ih =>
      obtain ⟨hs,hrest⟩ := List.forall_mem_cons.mp hnormal
      have habsolute : tree.absolute (joinPath dir s.1) = ⟨isDoubled dir,splitString '/' s.1⟩ := by
        rw [absolute_below hs,FileTree.absolute,hroot,List.nil_append]
      have hpieces := pieces_importPlace hroots hs
      rw [← habsolute] at hpieces
      have hroots' : ∀ r ∈ (start.add (tree.absolute (joinPath dir s.1))).roots,
          r.doubled = isDoubled dir := by
        rw [Inputs.add]
        dsimp only
        split
        · exact hroots
        · exact List.forall_mem_append.mpr ⟨hroots,by simpa using hpieces.1⟩
      obtain ⟨more,hmore,hlength,hsum⟩ := ih hrest _ hroots'
      have hadd : (start.add (tree.absolute (joinPath dir s.1))).requests = start.requests ++
          [requestIn (importPlace start.roots (tree.absolute (joinPath dir s.1))).1
            (importPlace start.roots (tree.absolute (joinPath dir s.1))).2] := rfl
      rw [hadd,List.append_assoc] at hmore
      refine ⟨_,hmore,?_,?_⟩
      · rw [List.singleton_append,List.length_cons,List.length_cons,hlength]
      · have hfirst := hpieces.2
        simp only [List.singleton_append,List.map_cons,List.sum_cons,List.countP_cons,requestIn,
          decide_eq_true_eq]
        omega
  obtain ⟨more,hmore,hlength,hsum⟩ := hfold ⟨[tree.absolute dir],[]⟩ (by simp [FileTree.absolute])
  rw [FileTree.inputNames,FileTree.inputs,List.map_singleton,hmore,List.nil_append,List.length_map]
  exact ⟨hlength,hsum⟩

/-- Files below the root of the tree are loaded under other paths than their own. -/
theorem load_below_root (hself : SelfContained sources) (hkeeps : ¬ KeepsPaths tree dir sources)
    {files : List SchemaFile} (hfiles : parseAll sources = .ok files) :
    tree.load (pathsBelow dir sources) [dir] ≠ .ok files := by
  intro hload
  obtain ⟨hroot,hslash⟩ := not_or.mp hkeeps
  obtain ⟨-,hpaths,hgenerate⟩ := parseAll_eq_ok hfiles
  have hclosure := FileTree.importClosure_of_load hload
  have hnames : sources.map (·.1) ⊆ tree.inputNames (pathsBelow dir sources) [dir] := by
    intro name hname
    rw [← hpaths] at hname
    obtain ⟨f,hf,rfl⟩ := List.mem_map.mp hname
    exact (hclosure.generate f hf).mp (hgenerate f hf)
  obtain ⟨hlength,hsum⟩ := pieces_inputNames (not_not.mp hroot) hself.normalised
  have hperm := (List.subperm_of_subset hself.distinct hnames).perm_of_length_le
    (by rw [hlength,List.length_map])
  have hsame := (hperm.map pieces).sum_eq
  rw [List.map_map] at hsame
  have hcount : 0 < sources.countP (fun s => '/' ∈ s.1.toList) := by
    rw [List.countP_pos_iff]
    simpa using hslash
  simp only [Function.comp_def] at hsame
  omega

/-- What is written below a directory is loaded with the outcome that the texts have by themselves,
unless the directory is the root of the tree and has a file in a directory. Then no files that the
texts give are what is loaded. -/
theorem load_stored_iff (hself : SelfContained sources) (hstores : tree.Stores dir sources) :
    (KeepsPaths tree dir sources →
      tree.load (pathsBelow dir sources) [dir] = parseAll sources) ∧
    ∀ files, parseAll sources = .ok files →
      (tree.load (pathsBelow dir sources) [dir] = .ok files ↔ KeepsPaths tree dir sources) := by
  refine ⟨load_stored hself hstores,fun files hfiles => ⟨fun hload => ?_,fun hkeeps => ?_⟩⟩
  · by_contra hkeeps
    exact load_below_root hself hkeeps hfiles hload
  · rw [load_stored hself hstores hkeeps,hfiles]

end Load

/-- A file in a directory that imports one beside the directory. -/
def shelfSources : List (String × String) := [("p/a","import 'b';"),("b","message B{}")]

def shelfTree : FileTree where
  workingDirectory := ["w"]
  files := [(["w","s","p","a"],encodeUtf8 "import 'b';"),(["w","s","b"],encodeUtf8 "message B{}")]

def shelfFiles : List SchemaFile :=
  [⟨"p/a","",["b"],[],[],true⟩,
    ⟨"b","",[],[{ name := "B", fullName := "B", fields := [] }],[],true⟩]

theorem draftOf_shelf_a : draftOf "p/a" "import 'b';".toList =
    .ok ⟨"p/a","",["b"],[],[],["import 'b';".toList]⟩ := by
  have hread : Grammar.read "import 'b';".toList = .ok [.imports none "'b'"] := by
    with_unfolding_all rfl
  exact draftOf_of_plain none hread rfl rfl

theorem selfContained_shelfSources : SelfContained shelfSources where
  normalised := by decide
  distinct := by decide
  plain := by decide
  imports := by
    intro s hs draft hdraft
    rcases List.mem_pair.mp hs with rfl | rfl
    · rw [draftOf_shelf_a] at hdraft
      cases hdraft
      decide
    · rw [draftOf_messageB] at hdraft
      cases hdraft
      decide

theorem shelfTree_stores : shelfTree.Stores "s" shelfSources := by
  intro s hs
  rcases List.mem_pair.mp hs with rfl | rfl
  · rfl
  · rfl

theorem parseAll_shelfSources : parseAll shelfSources = .ok shelfFiles :=
  parseAll_eq_ok_iff.mpr ⟨_,.cons draftOf_shelf_a (.cons (draftOf_messageB "b") .nil),rfl,
    buildAll_of_plain rfl rfl rfl⟩

/-- A file in a directory keeps its path, since the directory around it all has a name. -/
theorem shelfSources_loaded : SelfContained shelfSources ∧ shelfTree.Stores "s" shelfSources ∧
    shelfTree.load ["s/p/a","s/b"] ["s"] = .ok shelfFiles := by
  obtain ⟨hload,-⟩ := load_stored_iff selfContained_shelfSources shelfTree_stores
  refine ⟨selfContained_shelfSources,shelfTree_stores,?_⟩
  rw [← parseAll_shelfSources,← hload (.inl (by decide))]
  rfl

/-- Two files of one name below the root of the tree, in different directories. -/
def twinSources : List (String × String) := [("a/x","message A{}"),("b/x","message B{}")]

theorem selfContained_twinSources : SelfContained twinSources where
  normalised := by decide
  distinct := by decide
  plain := by decide
  imports := by
    intro s hs draft hdraft
    rcases List.mem_pair.mp hs with rfl | rfl
    · rw [draftOf_messageA] at hdraft
      cases hdraft
      exact List.nil_subset _
    · rw [draftOf_messageB] at hdraft
      cases hdraft
      exact List.nil_subset _

theorem twinTree_stores : twinTree.Stores "/" twinSources := by
  intro s hs
  rcases List.mem_pair.mp hs with rfl | rfl <;> rfl

theorem parseAll_twinSources :
    parseAll twinSources = .ok [twinFile "a/x" "A",twinFile "b/x" "B"] :=
  parseAll_eq_ok_iff.mpr
    ⟨_,.cons (draftOf_messageA "a/x") (.cons (draftOf_messageB "b/x") .nil),rfl,
    buildAll_of_plain rfl rfl rfl⟩

theorem inputs_twinSources : twinTree.inputs ["/a/x","/b/x"] ["/"] =
    ⟨[⟨false,[]⟩,⟨false,["a"]⟩,⟨false,["b"]⟩],[⟨"/a/x","x"⟩,⟨"/b/x","x"⟩]⟩ := rfl

theorem load_twinSources :
    twinTree.load (pathsBelow "/" twinSources) ["/"] = .ok [twinFile "x" "A"] := by
  have hpaths : pathsBelow "/" twinSources = ["/a/x","/b/x"] := by decide
  have hrounds : Relation.ReflTransGen
      (twinTree.Round [⟨false,[]⟩,⟨false,["a"]⟩,⟨false,["b"]⟩])
      ⟨[⟨"/a/x","x"⟩,⟨"/b/x","x"⟩],[]⟩ ⟨[],[twinDraft "x" "A"]⟩ := by
    refine .head (.drafted (by simp) draft_twinTree_x rfl) ?_
    exact .single (.known (by simp [twinDraft]))
  rw [hpaths,FileTree.load_of_rounds inputs_twinSources hrounds]
  exact buildAll_of_plain rfl rfl rfl

/-- Below the root of the tree the second of two files of one name is lost. -/
theorem twinSources_lost : SelfContained twinSources ∧ twinTree.Stores "/" twinSources ∧
    parseAll twinSources = .ok [twinFile "a/x" "A",twinFile "b/x" "B"] ∧
    twinTree.load (pathsBelow "/" twinSources) ["/"] = .ok [twinFile "x" "A"] ∧
    twinTree.load (pathsBelow "/" twinSources) ["/"] ≠ parseAll twinSources := by
  refine ⟨selfContained_twinSources,twinTree_stores,parseAll_twinSources,load_twinSources,?_⟩
  rw [load_twinSources,parseAll_twinSources]
  exact fun he => absurd (congrArg List.length (Except.ok.inj he)) (by decide)

end SchemaCodec
