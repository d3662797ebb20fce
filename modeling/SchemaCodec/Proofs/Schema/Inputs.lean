import SchemaCodec.Proofs.FileTree
import SchemaCodec.Proofs.Schema.Loading

/-! # Which inputs are kept

Every input has a name below the first root above it, and a name is drafted once: from the first
input that has it. So an input is lost exactly if another one has its name, and two generated files
have one output path exactly if their names differ by the extension alone.
-/
namespace SchemaCodec
open Text

/-! ## Output paths -/

/-- Whether a path has the extension of schema files. -/
def HasExtension (path : String) : Prop := ".proto".toList <:+ path.toList

section OutputPath
variable {f g : SchemaFile}

theorem SchemaFile.stem_cases (f : SchemaFile) :
    (HasExtension f.path ∧ f.path = String.ofList f.stem ++ ".proto") ∨
      (¬ HasExtension f.path ∧ f.stem = f.path.toList) := by
  by_cases hsuffix : HasExtension f.path
  · obtain ⟨front,hfront⟩ := hsuffix
    have hstem : f.stem = front := by
      have hends : ".proto".toList.isSuffixOf f.path.toList = true :=
        List.isSuffixOf_iff_suffix.mpr ⟨front,hfront⟩
      rw [SchemaFile.stem,dropSuffix?,if_pos hends,Option.getD_some,← hfront]
      simp
    refine .inl ⟨⟨front,hfront⟩,?_⟩
    rw [← String.toList_inj,hstem,← hfront]
    simp
  · refine .inr ⟨hsuffix,?_⟩
    have hends : ¬ ".proto".toList.isSuffixOf f.path.toList = true :=
      fun he => hsuffix (List.isSuffixOf_iff_suffix.mp he)
    rw [SchemaFile.stem,dropSuffix?,if_neg hends]
    rfl

theorem outputPath_eq_iff : f.outputPath = g.outputPath ↔ f.stem = g.stem := by
  rw [SchemaFile.outputPath,SchemaFile.outputPath,← String.toList_inj]
  simp

/-- Files of one output path have one path, or paths that differ by the extension alone. -/
theorem path_of_outputPath_eq (h : f.outputPath = g.outputPath) : f.path = g.path ∨
    (¬ HasExtension f.path ∧ g.path = f.path ++ ".proto") ∨
      (¬ HasExtension g.path ∧ f.path = g.path ++ ".proto") := by
  have hstem := outputPath_eq_iff.mp h
  rcases f.stem_cases with ⟨-,hf⟩ | ⟨hf,hfs⟩ <;> rcases g.stem_cases with ⟨-,hg⟩ | ⟨hg,hgs⟩
  · exact .inl (by rw [hf,hg,hstem])
  · refine .inr (.inr ⟨hg,?_⟩)
    rw [hf,hstem,hgs,String.ofList_toList]
  · refine .inr (.inl ⟨hf,?_⟩)
    rw [hg,← hstem,hfs,String.ofList_toList]
  · refine .inl ?_
    rw [← String.toList_inj,← hfs,← hgs,hstem]

theorem outputPath_eq_of_extension (hf : ¬ HasExtension f.path)
    (h : g.path = f.path ++ ".proto") : f.outputPath = g.outputPath := by
  rw [outputPath_eq_iff]
  rcases f.stem_cases with ⟨hyes,-⟩ | ⟨-,hfs⟩
  · exact absurd hyes hf
  · rcases g.stem_cases with ⟨-,hg⟩ | ⟨hg,-⟩
    · rw [hg,← String.toList_inj] at h
      simpa [hfs] using h.symm
    · exact absurd ⟨f.path.toList,by rw [h]; simp⟩ hg

theorem nodup_outputPaths_iff {files : List SchemaFile} (hn : (files.map (·.path)).Nodup) :
    (files.map (·.outputPath)).Nodup ↔
      ∀ f ∈ files, ¬ HasExtension f.path → ∀ g ∈ files, g.path ≠ f.path ++ ".proto" := by
  constructor
  · intro hout f hf hno g hg hpath
    have hsame : f = g :=
      List.inj_on_of_nodup_map hout hf hg (outputPath_eq_of_extension hno hpath)
    have hlength := congrArg String.length hpath
    rw [hsame,String.length_append] at hlength
    exact absurd hlength (by simp)
  · intro hno
    refine List.Nodup.map_on (fun f hf g hg heq => ?_) (List.Nodup.of_map _ hn)
    rcases path_of_outputPath_eq heq with hpath | ⟨hext,hpath⟩ | ⟨hext,hpath⟩
    · exact List.inj_on_of_nodup_map hn hf hg hpath
    · exact absurd hpath (hno f hf hext g hg)
    · exact absurd hpath (hno g hg hext f hf)

end OutputPath

/-! ## Where the request of an input leads -/

section Location

theorem isAbsolute_append {base : String} (h : base ≠ "") (more : String) :
    isAbsolute (base ++ more) = isAbsolute base := by
  have hbase : base.toList ≠ [] := by simpa using h
  rw [isAbsolute,isAbsolute,String.toList_append,List.head?_append_of_ne_nil _ hbase]

theorem isAbsolute_joinStrings {names : List String} (h : ∀ name ∈ names, IsStep name) :
    isAbsolute (joinStrings "/" names) = false := by
  cases names with
  | nil => rfl
  | cons first rest =>
    have hfirst := h first List.mem_cons_self
    obtain ⟨c,more,hc⟩ := List.exists_cons_of_ne_nil (by simpa using hfirst.ne_empty :
      first.toList ≠ [])
    have hslash : c ≠ '/' := fun he => hfirst.noSlash (by simp [hc,he])
    cases rest with
    | nil => simpa [isAbsolute,joinStrings,join,hc] using hslash
    | cons second rest => simpa [isAbsolute,joinStrings,join,hc] using hslash

variable (tree : FileTree)

/-- A relative name leads on from the place of its base. -/
theorem placeOf_joinPath {base name : String} (hbase : base ≠ "")
    (hname : isAbsolute name = false) : tree.placeOf (joinPath base name) =
      (splitString '/' name).foldl follow (tree.placeOf base) := by
  rw [joinPath,hname]
  by_cases hlast : base.toList.getLast? = some '/'
  · -- a slash at the end of the base adds an empty piece, which stays where it is
    obtain ⟨front,hfront⟩ := List.getLast?_eq_some_iff.mp hlast
    have hsplit : base = String.ofList front ++ "/" ++ "" := by
      rw [← String.toList_inj]
      simpa using hfront
    have hpieces : splitString '/' base = splitString '/' (String.ofList front) ++ [""] := by
      rw [hsplit,splitString_append]
      rfl
    have hmore : splitString '/' (base ++ name) =
        splitString '/' (String.ofList front) ++ splitString '/' name := by
      rw [hsplit,String.append_empty,splitString_append]
    simp only [Bool.false_eq_true,if_false,hlast,or_true,if_true,FileTree.placeOf,
      isAbsolute_append hbase,hmore,hpieces,List.foldl_append,List.foldl_cons,List.foldl_nil]
    rfl
  · have hno : ¬ (base = "" ∨ base.toList.getLast? = some '/') := not_or.mpr ⟨hbase,hlast⟩
    simp only [Bool.false_eq_true,if_false,if_neg hno,FileTree.placeOf,String.append_assoc,
      isAbsolute_append hbase]
    rw [← String.append_assoc,splitString_append,List.foldl_append]

theorem placeOf_text {path : AbsolutePath} (h : path.place.Proper) :
    tree.placeOf path.text = path.place := by
  have hjoin : joinStrings "/" path.place = "" ++ joinStrings "/" path.place := by simp
  cases hd : path.doubled with
  | false =>
    have htext : path.text = "" ++ "/" ++ joinStrings "/" path.place := by
      simp [AbsolutePath.text,hd]
    have habs : isAbsolute path.text = true := by rw [htext]; simp [isAbsolute]
    rw [FileTree.placeOf,habs,htext,splitString_append,List.foldl_append]
    exact foldl_follow_join h []
  | true =>
    have htext : path.text = "/" ++ "/" ++ joinStrings "/" path.place := by
      simp only [AbsolutePath.text,hd,if_true]
      rfl
    have habs : isAbsolute path.text = true := by rw [htext]; simp [isAbsolute]
    rw [FileTree.placeOf,habs,htext,splitString_append,List.foldl_append]
    exact foldl_follow_join h []

theorem placeOf_requestIn {root : AbsolutePath} {name : String} (hroot : root.place.Proper)
    (hname : isAbsolute name = false) : tree.placeOf (requestIn root name).location =
      (splitString '/' name).foldl follow root.place := by
  have htext : root.text ≠ "" := by
    cases hd : root.doubled <;> simp [AbsolutePath.text,hd,String.append_eq_empty_iff]
  rw [requestIn,placeOf_joinPath tree htext hname,placeOf_text tree hroot]

/-- From a root, a path spells what it has behind the root; only the root of the tree has a path to
itself. -/
theorem importPath?_eq_some {root path : AbsolutePath} {name : String}
    (h : importPath? root path = some name) : ∃ rest, root.place ++ rest = path.place ∧
      (rest = [] → root.place = []) ∧ name = if rest = [] then "." else joinStrings "/" rest := by
  unfold importPath? at h
  split at h
  · rename_i hroot
    split at h <;> cases h
    exact ⟨path.place,by rw [hroot,List.nil_append],fun _ => hroot,rfl⟩
  · split at h <;> cases h
    rename_i hroot hbelow
    obtain ⟨-,hne,hbegins⟩ := hbelow
    obtain ⟨rest,hrest⟩ := List.isPrefixOf_iff_prefix.mp hbegins
    have hmore : rest ≠ [] := by
      rintro rfl
      exact hne (by rw [← hrest,List.append_nil])
    refine ⟨rest,hrest,fun he => absurd he hmore,?_⟩
    rw [← hrest,List.drop_left,if_neg hmore]

/-- A file is imported from a root above it, or by its last name if there is none. -/
theorem importPlace_cases (roots : List AbsolutePath) (path : AbsolutePath) :
    (∃ root ∈ roots, ∃ name, importPath? root path = some name ∧
      importPlace roots path = (root,name)) ∨
    ((∀ root ∈ roots, importPath? root path = none) ∧ importPlace roots path =
      (⟨path.doubled,path.place.dropLast⟩,path.place.getLast?.getD "")) := by
  unfold importPlace
  split
  · rename_i found hfound
    obtain ⟨root,hroot,hpath⟩ := List.exists_of_findSome?_eq_some hfound
    obtain ⟨name,hname,rfl⟩ := Option.map_eq_some_iff.mp hpath
    exact .inl ⟨root,hroot,name,hname,rfl⟩
  · rename_i hnone
    refine .inr ⟨fun root hroot => ?_,rfl⟩
    exact Option.map_eq_none_iff.mp (List.findSome?_eq_none_iff.mp hnone root hroot)

/-- The path from a root leads from the root back to the place. -/
theorem placeOf_importPath {root path : AbsolutePath} {name : String} (hpath : path.place.Proper)
    (h : importPath? root path = some name) :
    tree.placeOf (requestIn root name).location = path.place := by
  obtain ⟨rest,hrest,hempty,rfl⟩ := importPath?_eq_some h
  have hsteps : (∀ n ∈ root.place, IsStep n) ∧ ∀ n ∈ rest, IsStep n :=
    List.forall_mem_append.mp (hrest ▸ hpath)
  split
  · next hr =>
    rw [placeOf_requestIn tree hsteps.1 rfl,← hrest,hempty hr,hr]
    rfl
  · rw [placeOf_requestIn tree hsteps.1 (isAbsolute_joinStrings hsteps.2),
      foldl_follow_join hsteps.2,hrest]

theorem placeOf_importPlace (roots : List AbsolutePath) {path : AbsolutePath}
    (hpath : path.place.Proper) :
    tree.placeOf (requestIn (importPlace roots path).1 (importPlace roots path).2).location =
      path.place := by
  rcases importPlace_cases roots path with ⟨root,-,name,hname,hplace⟩ | ⟨-,hplace⟩
  · rw [hplace]
    exact placeOf_importPath tree hpath hname
  · rw [hplace]
    rcases List.eq_nil_or_concat' path.place with hempty | ⟨outer,last,hplace⟩
    · simp only [hempty,List.dropLast_nil,List.getLast?_nil,Option.getD_none]
      rw [placeOf_requestIn tree (fun name hname => absurd hname List.not_mem_nil) rfl]
      rfl
    · have hsteps : (∀ n ∈ outer, IsStep n) ∧ ∀ n ∈ [last], IsStep n :=
        List.forall_mem_append.mp (hplace ▸ hpath)
      have hlast : joinStrings "/" [last] = last := by simp [joinStrings,join]
      have hpieces := foldl_follow_join hsteps.2 outer
      have hname := isAbsolute_joinStrings hsteps.2
      rw [hlast] at hpieces hname
      simp only [hplace,List.dropLast_concat,List.getLast?_concat,Option.getD_some]
      have hroot : (AbsolutePath.mk path.doubled outer).place.Proper := hsteps.1
      rw [placeOf_requestIn tree hroot hname,hpieces]

end Location

/-! ## The first request of a name is drafted -/

namespace FileTree
variable {tree : FileTree} {roots : List AbsolutePath} {requests : List FileRequest}
  {q q' : LoadQueue}

def firstRequest? (requests : List FileRequest) (name : String) : Option FileRequest :=
  requests.find? fun r => r.name == name

/-- The requests that had their turn are drafted, and a name that is requested is drafted from the
first request of it. -/
structure FirstServed (tree : FileTree) (requests : List FileRequest) (q : LoadQueue) : Prop where
  turns : ∃ done waiting imported, requests = done ++ waiting ∧ q.pending = waiting ++ imported ∧
    ∀ r ∈ done, r.name ∈ q.paths
  first : ∀ d ∈ q.drafts, ∀ r, firstRequest? requests d.path = some r → tree.draft r = .ok d

theorem firstRequest?_eq_some {name : String} {request : FileRequest}
    (h : firstRequest? requests name = some request) :
    request ∈ requests ∧ request.name = name :=
  ⟨List.mem_of_find?_eq_some h,by simpa using List.find?_some h⟩

theorem firstRequest?_eq_none_iff {name : String} :
    firstRequest? requests name = none ↔ name ∉ requests.map (·.name) := by
  rw [firstRequest?,List.find?_eq_none]
  simp

theorem firstRequest?_append_cons {before after : List FileRequest} {request : FileRequest}
    (h : request.name ∉ before.map (·.name)) :
    firstRequest? (before ++ request :: after) request.name = some request := by
  have hnone : before.find? (fun r => r.name == request.name) = none := by
    refine List.find?_eq_none.mpr fun r hr he => h ?_
    exact List.mem_map.mpr ⟨r,hr,by simpa using he⟩
  rw [firstRequest?,List.find?_append,hnone,List.find?_cons_of_pos (by simp)]
  rfl

theorem Round.firstServed (h : tree.Round roots q q') (hq : FirstServed tree requests q) :
    FirstServed tree requests q' := by
  obtain ⟨⟨done,waiting,imported,hrequests,hpending,hdone⟩,hfirst⟩ := hq
  cases h with
  | @known request rest drafts hknown =>
    refine ⟨?_,hfirst⟩
    cases waiting with
    | nil => exact ⟨done,[],rest,hrequests,rfl,hdone⟩
    | cons next waiting =>
      obtain ⟨rfl,rfl⟩ := List.cons.inj hpending
      refine ⟨done ++ [request],waiting,imported,by simpa using hrequests,rfl,?_⟩
      exact List.forall_mem_append.mpr ⟨hdone,by simpa using hknown⟩
  | @drafted request rest more drafts draft hnew hdraft himports =>
    have hpaths : LoadQueue.paths ⟨rest ++ more,drafts ++ [draft]⟩ =
        drafts.map (·.path) ++ [request.name] := by
      simp [LoadQueue.paths,path_draft hdraft]
    -- what had its turn is drafted, so a name without a draft stands first where it now stands
    have hundone : request.name ∉ done.map (·.name) := by
      intro hmem
      obtain ⟨r,hr,hname⟩ := List.mem_map.mp hmem
      exact hnew (hname ▸ hdone r hr)
    have hlast : ∀ r, firstRequest? requests draft.path = some r → tree.draft r = .ok draft := by
      intro r hr
      rw [path_draft hdraft,hrequests] at hr
      cases waiting with
      | nil =>
        rw [List.append_nil] at hr
        obtain ⟨hmem,hname⟩ := firstRequest?_eq_some hr
        exact absurd (List.mem_map.mpr ⟨r,hmem,hname⟩) hundone
      | cons next waiting =>
        obtain ⟨rfl,-⟩ := List.cons.inj hpending
        rw [firstRequest?_append_cons hundone] at hr
        exact Option.some.inj hr ▸ hdraft
    refine ⟨?_,fun d hd r hr => ?_⟩
    · rw [hpaths]
      have hkept : ∀ r ∈ done, r.name ∈ drafts.map (·.path) ++ [request.name] :=
        fun r hr => List.mem_append_left _ (hdone r hr)
      cases waiting with
      | nil => exact ⟨done,[],rest ++ more,hrequests,rfl,hkept⟩
      | cons next waiting =>
        obtain ⟨rfl,rfl⟩ := List.cons.inj hpending
        refine ⟨done ++ [request],waiting,imported ++ more,by simpa using hrequests,
          List.append_assoc _ _ _,?_⟩
        exact List.forall_mem_append.mpr ⟨hkept,by simp⟩
    · rcases List.mem_append.mp hd with hd | hd
      · exact hfirst d hd r hr
      · cases List.mem_singleton.mp hd
        exact hlast r hr

theorem firstServed_of_rounds (h : Relation.ReflTransGen (tree.Round roots) ⟨requests,[]⟩ q) :
    FirstServed tree requests q := by
  induction h with
  | refl => exact ⟨⟨[],requests,[],rfl,(List.append_nil _).symm,by simp⟩,by simp⟩
  | tail _ hround ih => exact hround.firstServed ih

/-- In the end every request has its name drafted, from the first request of the name. -/
theorem FirstServed.drafted {drafts : List FileDraft} (h : FirstServed tree requests ⟨[],drafts⟩)
    {name : String} (hname : name ∈ requests.map (·.name)) :
    ∃ d ∈ drafts, d.path = name ∧ ∃ r ∈ requests, r.name = name ∧ tree.draft r = .ok d := by
  obtain ⟨⟨done,waiting,imported,hrequests,hpending,hdone⟩,hfirst⟩ := h
  obtain ⟨rfl,-⟩ := List.append_eq_nil_iff.mp hpending.symm
  rw [List.append_nil] at hrequests
  obtain ⟨r,hr,rfl⟩ := List.mem_map.mp hname
  obtain ⟨d,hd,hpath⟩ := List.mem_map.mp (hdone r (hrequests ▸ hr))
  have hsome : (firstRequest? requests d.path).isSome = true := by
    rw [firstRequest?,List.find?_isSome]
    exact ⟨r,hr,by simp [hpath]⟩
  obtain ⟨first,hfound⟩ := Option.isSome_iff_exists.mp hsome
  obtain ⟨hmem,hsame⟩ := firstRequest?_eq_some hfound
  exact ⟨d,hd,hpath,first,hmem,hsame.trans hpath,hfirst d hd _ hfound⟩

/-! ## Inputs and their names -/

/-- The inputs with the names that they are imported by. -/
def namedInputs (tree : FileTree) (paths includePaths : List String) : List (String × String) :=
  paths.zip (tree.inputNames paths includePaths)

/-- A file that is generated from the text of an input, under the name of the input. -/
structure Gives (tree : FileTree) (declared : Declared) (input : String × String)
    (file : SchemaFile) : Prop where
  generate : file.generate = true
  path : file.path = input.2
  parsed : ∃ content text draft, tree.contentAt? (tree.placeOf input.1) = some content ∧
    fileText? content = some text ∧ draftOf input.2 text = .ok draft ∧
      draft.build declared true = .ok file

/-- Inputs at different places give different files, each from its own text. -/
def InputsKept (tree : FileTree) (paths includePaths : List String) (files : List SchemaFile) :
    Prop :=
  ∃ declared, ∀ x ∈ tree.namedInputs paths includePaths,
    ∀ y ∈ tree.namedInputs paths includePaths, tree.placeOf x.1 ≠ tree.placeOf y.1 →
      ∃ f ∈ files, ∃ g ∈ files, f ≠ g ∧ tree.Gives declared x f ∧ tree.Gives declared y g

/-- The request of an input, given the roots before it. -/
def inputRequest (roots : List AbsolutePath) (path : AbsolutePath) : FileRequest :=
  requestIn (importPlace roots path).1 (importPlace roots path).2

/-- Every input is requested below the first of some roots. -/
theorem forall₂_inputRequest (tree : FileTree) (paths includePaths : List String) :
    List.Forall₂ (fun p r => ∃ roots, r = inputRequest roots (tree.absolute p)) paths
      (tree.inputs paths includePaths).requests := by
  have hfold : ∀ start : Inputs, ∃ more,
      ((paths.map tree.absolute).foldl Inputs.add start).requests = start.requests ++ more ∧
        List.Forall₂ (fun p r => ∃ roots, r = inputRequest roots (tree.absolute p)) paths more := by
    induction paths with
    | nil => exact fun start => ⟨[],(List.append_nil _).symm,.nil⟩
    | cons p rest ih =>
      intro start
      obtain ⟨more,hmore,hrest⟩ := ih (start.add (tree.absolute p))
      refine ⟨_ :: more,?_,.cons ⟨start.roots,rfl⟩ hrest⟩
      rw [List.map_cons,List.foldl_cons,hmore,Inputs.add,List.append_assoc,List.singleton_append]
      rfl
  obtain ⟨more,hmore,hall⟩ := hfold ⟨includePaths.map tree.absolute,[]⟩
  rw [inputs,hmore]
  exact hall

theorem placeOf_inputRequest (hproper : tree.workingDirectory.Proper) (roots : List AbsolutePath)
    (path : String) :
    tree.placeOf (inputRequest roots (tree.absolute path)).location = tree.placeOf path := by
  have hplace : (tree.absolute path).place.Proper := proper_placeOf hproper path
  exact placeOf_importPlace tree roots hplace

theorem forall₂_inputs (hproper : tree.workingDirectory.Proper) (paths includePaths : List String) :
    List.Forall₂ (fun p r => tree.placeOf r.location = tree.placeOf p) paths
      (tree.inputs paths includePaths).requests := by
  refine (tree.forall₂_inputRequest paths includePaths).imp fun p r hr => ?_
  obtain ⟨roots,rfl⟩ := hr
  exact placeOf_inputRequest hproper roots p

theorem exists_request {r : String → FileRequest → Prop} {paths : List String}
    (h : List.Forall₂ r paths requests) {x : String × String}
    (hx : x ∈ paths.zip (requests.map (·.name))) : ∃ request ∈ requests, request.name = x.2 ∧
      r x.1 request := by
  induction h with
  | nil => simp at hx
  | cons hr _ ih =>
    rcases List.mem_cons.mp hx with rfl | hx
    · exact ⟨_,List.mem_cons_self,rfl,hr⟩
    · obtain ⟨request,hmem,hrequest⟩ := ih hx
      exact ⟨request,List.mem_cons_of_mem _ hmem,hrequest⟩

theorem exists_namedInput {r : String → FileRequest → Prop} {paths : List String}
    (h : List.Forall₂ r paths requests) {request : FileRequest} (hr : request ∈ requests) :
    ∃ x ∈ paths.zip (requests.map (·.name)), x.2 = request.name ∧ r x.1 request := by
  induction h with
  | nil => cases hr
  | @cons p first _ _ hfirst _ ih =>
    rcases List.mem_cons.mp hr with rfl | hr
    · exact ⟨(p,request.name),List.mem_cons_self,rfl,hfirst⟩
    · obtain ⟨x,hx,hrequest⟩ := ih hr
      exact ⟨x,List.mem_cons_of_mem _ hx,hrequest⟩

/-- A draft is made from the text at the place of its request. -/
theorem content_of_draft {request : FileRequest} {draft : FileDraft}
    (h : tree.draft request = .ok draft) :
    ∃ content text, tree.contentAt? (tree.placeOf request.location) = some content ∧
      fileText? content = some text ∧ draftOf request.name text = .ok draft := by
  obtain ⟨content,text,hread,h⟩ := tree.draft_eq_ok h
  exact ⟨content,text,contentAt?_of_read hread,h⟩

section Load
variable {paths includePaths : List String} {files : List SchemaFile}
  (h : tree.load paths includePaths = .ok files)
include h

/-- Loading drafts each name once, the names of inputs from their first requests. -/
theorem exists_drafts_of_load : ∃ drafts, FirstServed tree
      (tree.inputs paths includePaths).requests ⟨[],drafts⟩ ∧ (files.map (·.path)).Nodup ∧
    (∀ f ∈ files, f.generate = true ↔ f.path ∈ tree.inputNames paths includePaths) ∧
    ∃ declared, List.Forall₂ (fun d f => d.build declared f.generate = .ok f) drafts files := by
  obtain ⟨drafts,hrounds,hbuild⟩ := rounds_of_load h
  have hclosure := importClosure_of_load h
  obtain ⟨declared,-,hfiles⟩ := bind_eq_ok.mp hbuild
  refine ⟨drafts,firstServed_of_rounds hrounds,hclosure.distinct,hclosure.generate,declared,
    (mapM_eq_ok_iff.mp hfiles).imp fun d f hd => ?_⟩
  obtain ⟨-,hgenerate,-⟩ := build_eq_ok hd
  rwa [hgenerate]

/-- Output paths are distinct exactly if no two names differ by the extension alone. -/
theorem nodup_outputPaths_load_iff : ((files.filter (·.generate)).map (·.outputPath)).Nodup ↔
    ∀ name ∈ tree.inputNames paths includePaths, ¬ HasExtension name →
      name ++ ".proto" ∉ tree.inputNames paths includePaths := by
  obtain ⟨drafts,hserved,hnodup,hgenerate,declared,hbuilt⟩ := exists_drafts_of_load h
  have hpaths : ((files.filter (·.generate)).map (·.path)).Nodup :=
    hnodup.sublist (List.filter_sublist.map _)
  have hnames : ∀ name, name ∈ tree.inputNames paths includePaths ↔
      ∃ f ∈ files.filter (·.generate), f.path = name := by
    intro name
    constructor
    · intro hname
      obtain ⟨d,hd,hpath,-⟩ := hserved.drafted hname
      obtain ⟨f,hf,hbuild⟩ := exists_of_mem_left hbuilt hd
      have hfpath : f.path = name := (build_eq_ok hbuild).1.trans hpath
      refine ⟨f,List.mem_filter.mpr ⟨hf,?_⟩,hfpath⟩
      exact (hgenerate f hf).mpr (hfpath ▸ hname)
    · rintro ⟨f,hf,rfl⟩
      obtain ⟨hf,hasked⟩ := List.mem_filter.mp hf
      exact (hgenerate f hf).mp hasked
  rw [nodup_outputPaths_iff hpaths]
  constructor
  · intro hall name hname hext hmore
    obtain ⟨f,hf,rfl⟩ := (hnames name).mp hname
    obtain ⟨g,hg,hpath⟩ := (hnames _).mp hmore
    exact hall f hf hext g hg hpath
  · intro hall f hf hext g hg hpath
    exact hall f.path ((hnames _).mpr ⟨f,hf,rfl⟩) hext ((hnames _).mpr ⟨g,hg,hpath⟩)

variable (hproper : tree.workingDirectory.Proper)
include hproper

/-- Inputs at different places are all kept exactly if they have different names. -/
theorem inputsKept_iff : tree.InputsKept paths includePaths files ↔
    ∀ x ∈ tree.namedInputs paths includePaths, ∀ y ∈ tree.namedInputs paths includePaths,
      tree.placeOf x.1 ≠ tree.placeOf y.1 → x.2 ≠ y.2 := by
  obtain ⟨drafts,hserved,hnodup,hgenerate,declared,hbuilt⟩ := exists_drafts_of_load h
  constructor
  · rintro ⟨_,hkept⟩ x hx y hy hplaces hnames
    obtain ⟨f,hf,g,hg,hne,hfx,hgy⟩ := hkept x hx y hy hplaces
    have hpath : f.path = g.path := hfx.path.trans (hnames.trans hgy.path.symm)
    exact hne (List.inj_on_of_nodup_map hnodup hf hg hpath)
  · intro hapart
    have hinputs := forall₂_inputs hproper paths includePaths
    have hgiven : ∀ x ∈ tree.namedInputs paths includePaths,
        ∃ f ∈ files, tree.Gives declared x f := by
      intro x hx
      obtain ⟨r,hr,hname,hplace⟩ := exists_request hinputs hx
      obtain ⟨d,hd,hpath,first,hfirst,hsame,hdraft⟩ :=
        hserved.drafted (List.mem_map.mpr ⟨r,hr,hname⟩)
      -- the input that was drafted under the name stands at the same place
      obtain ⟨y,hy,hyname,hyplace⟩ := exists_namedInput hinputs hfirst
      have hplaces : tree.placeOf x.1 = tree.placeOf y.1 :=
        not_not.mp fun hne => hapart x hx y hy hne (hyname.trans hsame).symm
      obtain ⟨content,text,hcontent,htext,hdraftOf⟩ := content_of_draft hdraft
      obtain ⟨f,hf,hbuild⟩ := exists_of_mem_left hbuilt hd
      have hfpath : f.path = x.2 := (build_eq_ok hbuild).1.trans hpath
      have hasked : f.generate = true := by
        refine (hgenerate f hf).mpr ?_
        rw [hfpath]
        exact (List.of_mem_zip hx).2
      refine ⟨f,hf,hasked,hfpath,content,text,d,?_,htext,hsame ▸ hdraftOf,hasked ▸ hbuild⟩
      rw [hplaces,← hyplace]
      exact hcontent
    refine ⟨declared,fun x hx y hy hplaces => ?_⟩
    obtain ⟨f,hf,hfx⟩ := hgiven x hx
    obtain ⟨g,hg,hgy⟩ := hgiven y hy
    refine ⟨f,hf,g,hg,fun hfg => hapart x hx y hy hplaces ?_,hfx,hgy⟩
    rw [← hfx.path,← hgy.path,hfg]

end Load
end FileTree

/-- No input is lost, and no two files are generated at one path, exactly if the inputs have
different names and no two of the names differ by the extension alone. -/
theorem load_keeps_inputs_iff {tree : FileTree} {paths includePaths : List String}
    {files : List SchemaFile} (hproper : tree.workingDirectory.Proper)
    (h : tree.load paths includePaths = .ok files) :
    (tree.InputsKept paths includePaths files ↔
      ∀ x ∈ tree.namedInputs paths includePaths, ∀ y ∈ tree.namedInputs paths includePaths,
        tree.placeOf x.1 ≠ tree.placeOf y.1 → x.2 ≠ y.2) ∧
    (((files.filter (·.generate)).map (·.outputPath)).Nodup ↔
      ∀ name ∈ tree.inputNames paths includePaths, ¬ HasExtension name →
        name ++ ".proto" ∉ tree.inputNames paths includePaths) :=
  ⟨FileTree.inputsKept_iff h hproper,FileTree.nodup_outputPaths_load_iff h⟩

/-- Two files of one name in different directories, and one of another name. -/
def twinTree : FileTree where
  workingDirectory := []
  files := [(["a","x"],encodeUtf8 "message A{}"),(["b","x"],encodeUtf8 "message B{}"),
    (["b","y"],encodeUtf8 "message B{}")]

def twinDraft (path name : String) : FileDraft :=
  ⟨path,"",[],[⟨name,[],[],[],[],1⟩],[],[("message " ++ name ++ "{}").toList]⟩

def twinFile (path name : String) : SchemaFile :=
  ⟨path,"",[],[{ name := name, fullName := name, fields := [] }],[],true⟩

theorem absolute_twinTree : twinTree.absolute "a/x" = ⟨false,["a","x"]⟩ ∧
    twinTree.absolute "b/x" = ⟨false,["b","x"]⟩ ∧ twinTree.absolute "b/y" = ⟨false,["b","y"]⟩ :=
  ⟨rfl,rfl,rfl⟩

theorem draftOf_messageA (path : String) :
    draftOf path "message A{}".toList = .ok (twinDraft path "A") := by
  have hread : Grammar.read "message A{}".toList = .ok [.message 1 "A" []] := by
    with_unfolding_all rfl
  exact draftOf_of_plain none hread rfl rfl

theorem draftOf_messageB (path : String) :
    draftOf path "message B{}".toList = .ok (twinDraft path "B") := by
  have hread : Grammar.read "message B{}".toList = .ok [.message 1 "B" []] := by
    with_unfolding_all rfl
  exact draftOf_of_plain none hread rfl rfl

theorem draft_twinTree_x : twinTree.draft ⟨"/a/x","x"⟩ = .ok (twinDraft "x" "A") := by
  have hfile : twinTree.read "/a/x" = .ok (encodeUtf8 "message A{}") := rfl
  rw [FileTree.draft_of_read ⟨"/a/x","x"⟩ hfile (fileText?_encodeUtf8 (by decide)),
    draftOf_messageA]

theorem draft_twinTree_y : twinTree.draft ⟨"/b/y","y"⟩ = .ok (twinDraft "y" "B") := by
  have hfile : twinTree.read "/b/y" = .ok (encodeUtf8 "message B{}") := rfl
  rw [FileTree.draft_of_read ⟨"/b/y","y"⟩ hfile (fileText?_encodeUtf8 (by decide)),
    draftOf_messageB]

theorem inputs_sameName : twinTree.inputs ["a/x","b/x"] [] =
    ⟨[⟨false,["a"]⟩,⟨false,["b"]⟩],[⟨"/a/x","x"⟩,⟨"/b/x","x"⟩]⟩ := by
  simp [FileTree.inputs,absolute_twinTree,Inputs.add,importPlace,importPath?]
  exact ⟨rfl,rfl⟩

theorem inputs_otherName : twinTree.inputs ["a/x","b/y"] [] =
    ⟨[⟨false,["a"]⟩,⟨false,["b"]⟩],[⟨"/a/x","x"⟩,⟨"/b/y","y"⟩]⟩ := by
  simp [FileTree.inputs,absolute_twinTree,Inputs.add,importPlace,importPath?]
  exact ⟨rfl,rfl⟩

theorem load_sameName : twinTree.load ["a/x","b/x"] [] = .ok [twinFile "x" "A"] := by
  have hrounds : Relation.ReflTransGen (twinTree.Round [⟨false,["a"]⟩,⟨false,["b"]⟩])
      ⟨[⟨"/a/x","x"⟩,⟨"/b/x","x"⟩],[]⟩ ⟨[],[twinDraft "x" "A"]⟩ := by
    refine .head (.drafted (by simp) draft_twinTree_x rfl) ?_
    exact .single (.known (by simp [twinDraft]))
  rw [FileTree.load_of_rounds inputs_sameName hrounds]
  exact buildAll_of_plain rfl rfl rfl

theorem load_otherName :
    twinTree.load ["a/x","b/y"] [] = .ok [twinFile "x" "A",twinFile "y" "B"] := by
  have hrounds : Relation.ReflTransGen (twinTree.Round [⟨false,["a"]⟩,⟨false,["b"]⟩])
      ⟨[⟨"/a/x","x"⟩,⟨"/b/y","y"⟩],[]⟩ ⟨[],[twinDraft "x" "A",twinDraft "y" "B"]⟩ := by
    refine .head (.drafted (by simp) draft_twinTree_x rfl) ?_
    exact .single (.drafted (by simp [twinDraft]) draft_twinTree_y rfl)
  rw [FileTree.load_of_rounds inputs_otherName hrounds]
  exact buildAll_of_plain rfl rfl rfl

/-- Two inputs of different names are kept, at different output paths. -/
theorem otherName_kept : twinTree.workingDirectory.Proper ∧
    twinTree.load ["a/x","b/y"] [] = .ok [twinFile "x" "A",twinFile "y" "B"] ∧
    twinTree.InputsKept ["a/x","b/y"] [] [twinFile "x" "A",twinFile "y" "B"] ∧
    (([twinFile "x" "A",twinFile "y" "B"].filter (·.generate)).map (·.outputPath)).Nodup := by
  have hproper : twinTree.workingDirectory.Proper := fun name hname => absurd hname List.not_mem_nil
  have hnames : twinTree.inputNames ["a/x","b/y"] [] = ["x","y"] := by
    rw [FileTree.inputNames,inputs_otherName]
    rfl
  obtain ⟨hkept,hnodup⟩ := load_keeps_inputs_iff hproper load_otherName
  refine ⟨hproper,load_otherName,hkept.mpr ?_,hnodup.mpr ?_⟩
  · rw [FileTree.namedInputs,hnames]
    simp
  · intro name hname _ hmore
    rw [hnames] at hname hmore
    rcases List.mem_pair.mp hname with rfl | rfl <;> exact absurd hmore (by decide)

/-- Of two inputs of one name, in different directories, the second is lost. -/
theorem sameName_lost : twinTree.load ["a/x","b/x"] [] = .ok [twinFile "x" "A"] ∧
    ¬ twinTree.InputsKept ["a/x","b/x"] [] [twinFile "x" "A"] := by
  refine ⟨load_sameName,?_⟩
  rintro ⟨declared,hkept⟩
  have hnames : twinTree.namedInputs ["a/x","b/x"] [] = [("a/x","x"),("b/x","x")] := by
    rw [FileTree.namedInputs,FileTree.inputNames,inputs_sameName]
    rfl
  have hplaces : twinTree.placeOf "a/x" ≠ twinTree.placeOf "b/x" := by
    have hx := congrArg AbsolutePath.place absolute_twinTree.1
    have hy := congrArg AbsolutePath.place absolute_twinTree.2.1
    exact fun heq => by simpa using (hx.symm.trans heq).trans hy
  obtain ⟨f,hf,g,hg,hne,-⟩ :=
    hkept ("a/x","x") (by simp [hnames]) ("b/x","x") (by simp [hnames]) hplaces
  exact hne ((List.mem_singleton.mp hf).trans (List.mem_singleton.mp hg).symm)

end SchemaCodec
