import Mathlib
import SchemaCodec.Proofs.Distinct
import SchemaCodec.Proofs.Schema.Imports
import SchemaCodec.Proofs.Schema.RequestOrder

/-! # Loading files with what they import

Loading goes in rounds: each takes the first waiting request, and if its file has no draft yet, it
drafts the file and lets requests for its imports wait behind the others. The rounds come to an end,
since no file is drafted twice and all names asked for are those of inputs or written in files of
the tree. The files then are the inputs and what is reached from them by imports, in the order in
which they are first asked for.
-/
namespace SchemaCodec
open Text

/-- Requests that wait, and the drafts made so far. -/
structure LoadQueue where
  pending : List FileRequest
  drafts : List FileDraft

abbrev LoadQueue.paths (q : LoadQueue) : List String := q.drafts.map (·.path)

namespace FileTree
variable (tree : FileTree) (roots : List AbsolutePath)

/-- A round of loading that is followed by others. -/
inductive Round : LoadQueue → LoadQueue → Prop
  | known {request : FileRequest} {rest : List FileRequest} {drafts : List FileDraft}
      (hknown : request.name ∈ drafts.map (·.path)) :
      Round ⟨request :: rest,drafts⟩ ⟨rest,drafts⟩
  | drafted {request : FileRequest} {rest imported : List FileRequest} {drafts : List FileDraft}
      {draft : FileDraft} (hnew : request.name ∉ drafts.map (·.path))
      (hdraft : tree.draft request = .ok draft)
      (himports : tree.importRequests roots (drafts ++ [draft]) draft = .ok imported) :
      Round ⟨request :: rest,drafts⟩ ⟨rest ++ imported,drafts ++ [draft]⟩

/-- How loading ends: when no request waits, or with the first fault. -/
inductive Ends : LoadQueue → Except SchemaError (List FileDraft) → Prop
  | done {drafts : List FileDraft} : Ends ⟨[],drafts⟩ (.ok drafts)
  | unread {request : FileRequest} {rest : List FileRequest} {drafts : List FileDraft}
      {fault : SchemaError} (hnew : request.name ∉ drafts.map (·.path))
      (hdraft : tree.draft request = .error fault) :
      Ends ⟨request :: rest,drafts⟩ (.error fault)
  | missing {request : FileRequest} {rest : List FileRequest} {drafts : List FileDraft}
      {draft : FileDraft} {fault : SchemaError} (hnew : request.name ∉ drafts.map (·.path))
      (hdraft : tree.draft request = .ok draft)
      (himports : tree.importRequests roots (drafts ++ [draft]) draft = .error fault) :
      Ends ⟨request :: rest,drafts⟩ (.error fault)

variable {tree roots} {q q' : LoadQueue}

theorem Round.unique {q'' : LoadQueue} (h : tree.Round roots q q') (h' : tree.Round roots q q'') :
    q' = q'' := by
  cases h with
  | known hknown =>
    cases h' with
    | known => rfl
    | drafted hnew => exact absurd hknown hnew
  | drafted hnew hdraft himports =>
    cases h' with
    | known hknown => exact absurd hknown hnew
    | drafted _ hdraft' himports' =>
      rw [hdraft] at hdraft'
      cases hdraft'
      rw [himports] at himports'
      cases himports'
      rfl

theorem Ends.not_round {outcome : Except SchemaError (List FileDraft)}
    (h : tree.Ends roots q outcome) : ¬ tree.Round roots q q' := by
  intro hround
  cases h with
  | done => cases hround
  | unread hnew hdraft =>
    cases hround with
    | known hknown => exact hnew hknown
    | drafted _ hdraft' =>
      rw [hdraft] at hdraft'
      cases hdraft'
  | missing hnew hdraft himports =>
    cases hround with
    | known hknown => exact hnew hknown
    | drafted _ hdraft' himports' =>
      rw [hdraft] at hdraft'
      cases hdraft'
      rw [himports] at himports'
      cases himports'

theorem Ends.unique {outcome outcome' : Except SchemaError (List FileDraft)}
    (h : tree.Ends roots q outcome) (h' : tree.Ends roots q outcome') : outcome = outcome' := by
  cases h with
  | done =>
    cases h'
    rfl
  | unread _ hdraft =>
    cases h' with
    | unread _ hdraft' =>
      rw [hdraft] at hdraft'
      exact congrArg Except.error (Except.error.inj hdraft')
    | missing _ hdraft' =>
      rw [hdraft] at hdraft'
      cases hdraft'
  | missing _ hdraft himports =>
    cases h' with
    | unread _ hdraft' =>
      rw [hdraft] at hdraft'
      cases hdraft'
    | missing _ hdraft' himports' =>
      rw [hdraft] at hdraft'
      cases hdraft'
      rw [himports] at himports'
      exact congrArg Except.error (Except.error.inj himports')

/-- All rounds lead to one end, with one outcome. -/
theorem Ends.unique_of_rounds {last last' : LoadQueue}
    {outcome outcome' : Except SchemaError (List FileDraft)}
    (hends : tree.Ends roots last outcome) (hends' : tree.Ends roots last' outcome')
    (h : Relation.ReflTransGen (tree.Round roots) q last)
    (h' : Relation.ReflTransGen (tree.Round roots) q last') : outcome = outcome' := by
  have hunique : Relator.RightUnique (tree.Round roots) := fun _ _ _ => Round.unique
  rcases Relation.ReflTransGen.total_of_right_unique hunique h h' with hmore | hmore
  · rcases hmore.cases_head with rfl | ⟨q',hround,-⟩
    · exact hends.unique hends'
    · exact absurd hround hends.not_round
  · rcases hmore.cases_head with rfl | ⟨q',hround,-⟩
    · exact hends.unique hends'
    · exact absurd hround hends'.not_round

/-- From where rounds lead to an end, there is no endless row of rounds. -/
theorem Ends.not_endless {last : LoadQueue} {outcome : Except SchemaError (List FileDraft)}
    (hrounds : Relation.ReflTransGen (tree.Round roots) q last)
    (hends : tree.Ends roots last outcome) {row : ℕ → LoadQueue} (hrow : row 0 = q) :
    ¬ ∀ n, tree.Round roots (row n) (row (n + 1)) := by
  induction hrounds using Relation.ReflTransGen.head_induction_on generalizing row with
  | refl => exact fun h => hends.not_round (hrow ▸ h 0)
  | head hround _ ih =>
    intro h
    have hnext : row 1 = _ := (hrow ▸ h 0).unique hround
    exact ih hnext fun n => h (n + 1)

/-! ## What a draft and its requests are made of -/

theorem draft_of_read (request : FileRequest) {content : List UInt8}
    (h : tree.read request.location = .ok content) {text : List Char}
    (htext : fileText? content = some text) :
    tree.draft request = draftOf request.name text := by
  rw [FileTree.draft,h]
  simp only [htext]

/-- A draft is that of the text which is read for its request. -/
theorem draft_eq_ok {request : FileRequest} {draft : FileDraft}
    (h : tree.draft request = .ok draft) :
    ∃ content text, tree.read request.location = .ok content ∧ fileText? content = some text ∧
      draftOf request.name text = .ok draft := by
  unfold FileTree.draft at h
  split at h
  · split at h <;> cases h
  · rename_i content hread
    cases htext : fileText? content with
    | none => simp [htext] at h
    | some text =>
      simp only [htext] at h
      exact ⟨content,text,hread,htext,h⟩

theorem path_draft {request : FileRequest} {draft : FileDraft}
    (h : tree.draft request = .ok draft) : draft.path = request.name := by
  obtain ⟨_,_,-,-,h⟩ := tree.draft_eq_ok h
  exact path_draftOf h

theorem name_importRequest? {name : String} {request : FileRequest}
    (h : tree.importRequest? roots name = some request) : request.name = name := by
  obtain ⟨root,-,rfl⟩ := List.mem_map.mp (List.mem_of_find?_eq_some h)
  rfl

theorem names_importRequests {drafts : List FileDraft} {draft : FileDraft}
    {imported : List FileRequest} (h : tree.importRequests roots drafts draft = .ok imported) :
    imported.map (·.name) = draft.imports.filter fun name => name ∉ drafts.map (·.path) := by
  have hfilter : (draft.imports.filter fun name => !drafts.any (·.path == name)) =
      draft.imports.filter fun name => name ∉ drafts.map (·.path) := by
    refine List.filter_congr fun name _ => ?_
    rw [Bool.eq_iff_iff]
    simp
  rw [← hfilter,← List.map_id (draft.imports.filter _)]
  refine map_eq_map ((mapM_eq_ok_iff.mp h).imp fun name request hr => ?_)
  cases hi : tree.importRequest? roots name with
  | none => simp [hi] at hr
  | some found =>
    simp only [hi,Except.ok.injEq] at hr
    rw [← hr,name_importRequest? hi]
    rfl

/-- The imports that are written in a file, if it is a text. -/
def fileImports (content : List UInt8) : List String :=
  (fileText? content).toList.flatMap writtenImports

theorem length_fileImports_le (content : List UInt8) :
    (fileImports content).length ≤ content.length := by
  unfold fileImports
  cases htext : fileText? content with
  | none => exact Nat.zero_le _
  | some text =>
    rw [Option.toList_some,List.flatMap_singleton]
    exact (length_writtenImports_le text).trans (length_fileText?_le htext)

/-- All imports that are written in files of a tree. -/
def writtenNames (tree : FileTree) : List String := tree.files.flatMap fun f => fileImports f.2

theorem mem_files_of_read {path : String} {content : List UInt8}
    (h : tree.read path = .ok content) : content = [] ∨ ∃ place, (place,content) ∈ tree.files := by
  obtain ⟨node,hfind,h⟩ := bind_eq_ok.mp h
  obtain ⟨place,-,hnode⟩ := bind_eq_ok.mp hfind
  cases node with
  | directory => cases h
  | device =>
    cases h
    exact .inl rfl
  | file c =>
    cases h
    cases hn : tree.node? place with
    | none => simp [hn] at hnode
    | some n =>
      simp only [hn,Except.ok.injEq] at hnode
      subst hnode
      unfold node? at hn
      split at hn
      · rename_i c hlookup
        cases hn
        obtain ⟨before,after,hsplit,-⟩ := List.lookup_eq_some_iff.mp hlookup
        exact .inr ⟨place,hsplit ▸ List.mem_append_right before List.mem_cons_self⟩
      · split at hn
        · cases hn
        · split at hn <;> cases hn

theorem imports_draft {request : FileRequest} {draft : FileDraft}
    (h : tree.draft request = .ok draft) : draft.imports ⊆ tree.writtenNames := by
  obtain ⟨content,text,hread,htext,h⟩ := tree.draft_eq_ok h
  have himports : draft.imports = fileImports content := by
    rw [imports_draftOf h,fileImports,htext,Option.toList_some,List.flatMap_singleton]
  rw [himports]
  rcases mem_files_of_read hread with rfl | ⟨place,hmem⟩
  · rw [List.eq_nil_of_length_eq_zero (Nat.le_zero.mp (length_fileImports_le []))]
    exact List.nil_subset _
  · exact fun name hname => List.mem_flatMap.mpr ⟨(place,content),hmem,hname⟩

/-! ## Loading ends -/

/-- A queue whose files are drafted once and which stays among some names. -/
structure Within (names : List String) (q : LoadQueue) : Prop where
  once : q.paths.Nodup
  drafted : q.paths ⊆ names
  waiting : q.pending.map (·.name) ⊆ names

theorem Round.within {names : List String} (hnames : tree.writtenNames ⊆ names)
    (h : tree.Round roots q q') (hq : Within names q) : Within names q' := by
  obtain ⟨honce,hdrafted,hwaiting⟩ := hq
  cases h with
  | known =>
    rw [List.map_cons,List.cons_subset] at hwaiting
    exact ⟨honce,hdrafted,hwaiting.2⟩
  | @drafted request rest imported drafts draft hnew hdraft himports =>
    rw [List.map_cons,List.cons_subset] at hwaiting
    have hpaths : LoadQueue.paths ⟨rest ++ imported,drafts ++ [draft]⟩ =
        drafts.map (·.path) ++ [request.name] := by
      simp [LoadQueue.paths,path_draft hdraft]
    refine ⟨?_,?_,?_⟩
    · rw [hpaths]
      exact List.nodup_append.mpr ⟨honce,List.nodup_singleton _,by
        rintro a ha b hb rfl
        exact hnew (List.mem_singleton.mp hb ▸ ha)⟩
    · rw [hpaths]
      exact List.append_subset.mpr ⟨hdrafted,List.cons_subset.mpr ⟨hwaiting.1,List.nil_subset _⟩⟩
    · rw [List.map_append,names_importRequests himports]
      refine List.append_subset.mpr ⟨hwaiting.2,?_⟩
      exact fun name hname => hnames (imports_draft hdraft (List.mem_of_mem_filter hname))

/-- When as many files are drafted as there are names, all that is asked for is drafted. -/
theorem Within.all_drafted {names : List String} (h : Within names q)
    (hlength : names.length ≤ q.drafts.length) : ∀ r ∈ q.pending, r.name ∈ q.paths := by
  intro r hr
  have hname : r.name ∈ names := h.waiting (List.mem_map_of_mem hr)
  exact mem_of_nodup_of_length_le h.once h.drafted (by simpa [LoadQueue.paths] using hlength) hname

theorem any_path_iff {drafts : List FileDraft} {name : String} :
    (drafts.any fun d => d.path == name) = true ↔ name ∈ drafts.map (·.path) := by
  simp

theorem draftAll_known {limit : ℕ} {request : FileRequest} {rest : List FileRequest}
    {drafts : List FileDraft} (h : request.name ∈ drafts.map (·.path)) :
    tree.draftAll roots limit (request :: rest) drafts = tree.draftAll roots limit rest drafts := by
  cases limit with
  | zero => rfl
  | succ limit => rw [draftAll,draftAll,List.dropWhile_cons,if_pos (any_path_iff.mpr h)]

theorem draftAll_new {limit : ℕ} {request : FileRequest} {rest : List FileRequest}
    {drafts : List FileDraft} (h : request.name ∉ drafts.map (·.path)) :
    tree.draftAll roots (limit + 1) (request :: rest) drafts = (do
      let draft ← tree.draft request
      let imported ← tree.importRequests roots (drafts ++ [draft]) draft
      tree.draftAll roots limit (rest ++ imported) (drafts ++ [draft])) := by
  rw [draftAll,List.dropWhile_cons,if_neg (mt any_path_iff.mp h)]

theorem rounds_known {drafts : List FileDraft} {pending : List FileRequest}
    (h : ∀ r ∈ pending, r.name ∈ drafts.map (·.path)) :
    Relation.ReflTransGen (tree.Round roots) ⟨pending,drafts⟩ ⟨[],drafts⟩ := by
  induction pending with
  | nil => exact .refl
  | cons r rest ih =>
    obtain ⟨hr,hrest⟩ := List.forall_mem_cons.mp h
    exact .head (.known hr) (ih hrest)

/-- Where no more names are asked for than drafts are made or still allowed, the bound changes
nothing: the drafts are those that the rounds end with. -/
theorem rounds_draftAll {names : List String} (hnames : tree.writtenNames ⊆ names) {limit : ℕ}
    {pending : List FileRequest} {drafts : List FileDraft} (hq : Within names ⟨pending,drafts⟩)
    (hlimit : names.length ≤ limit + drafts.length) :
    ∃ last, Relation.ReflTransGen (tree.Round roots) ⟨pending,drafts⟩ last ∧
      tree.Ends roots last (tree.draftAll roots limit pending drafts) := by
  induction limit generalizing pending drafts with
  | zero => exact ⟨_,rounds_known (hq.all_drafted (by simpa using hlimit)),.done⟩
  | succ limit ihlimit =>
    induction pending with
    | nil => exact ⟨_,.refl,.done⟩
    | cons request rest ihrest =>
      by_cases hknown : request.name ∈ drafts.map (·.path)
      · have hround : tree.Round roots ⟨request :: rest,drafts⟩ ⟨rest,drafts⟩ := .known hknown
        obtain ⟨last,hrounds,hends⟩ := ihrest (hround.within hnames hq)
        rw [draftAll_known hknown]
        exact ⟨last,.head hround hrounds,hends⟩
      · rw [draftAll_new hknown]
        cases hdraft : tree.draft request with
        | error fault => exact ⟨_,.refl,.unread hknown hdraft⟩
        | ok draft =>
          dsimp only [bind,Except.bind]
          cases himports : tree.importRequests roots (drafts ++ [draft]) draft with
          | error fault => exact ⟨_,.refl,.missing hknown hdraft himports⟩
          | ok imported =>
            have hround : tree.Round roots ⟨request :: rest,drafts⟩
                ⟨rest ++ imported,drafts ++ [draft]⟩ := .drafted hknown hdraft himports
            obtain ⟨last,hrounds,hends⟩ := ihlimit (hround.within hnames hq)
              (by rw [List.length_append,List.length_singleton]; omega)
            exact ⟨last,.head hround hrounds,hends⟩

theorem length_writtenNames_le (total : ℕ) :
    total + tree.writtenNames.length ≤
      tree.files.foldl (fun total (_,content) => total + content.length) total := by
  unfold writtenNames
  induction tree.files generalizing total with
  | nil => exact Nat.le_refl total
  | cons f rest ih =>
    obtain ⟨place,content⟩ := f
    have hfile := length_fileImports_le content
    have hrest := ih (total + content.length)
    rw [List.flatMap_cons,List.length_append,List.foldl_cons]
    dsimp only at hrest ⊢
    omega

/-- The bound on the files never matters: loading ends by itself, with the same outcome. -/
theorem rounds_load (tree : FileTree) (roots : List AbsolutePath) (requests : List FileRequest) :
    ∃ last, Relation.ReflTransGen (tree.Round roots) ⟨requests,[]⟩ last ∧
      tree.Ends roots last (tree.draftAll roots (tree.requestLimit requests) requests []) := by
  let names := requests.map (·.name) ++ tree.writtenNames
  have hwithin : Within names ⟨requests,[]⟩ :=
    ⟨List.nodup_nil,List.nil_subset _,List.subset_append_left _ _⟩
  have hlimit : names.length ≤ tree.requestLimit requests := by
    rw [List.length_append,List.length_map]
    exact length_writtenNames_le _
  exact rounds_draftAll (List.subset_append_right _ _) hwithin hlimit

/-- Whatever rounds lead to is what loading ends with. -/
theorem draftAll_of_rounds {requests : List FileRequest} {last : LoadQueue}
    {outcome : Except SchemaError (List FileDraft)}
    (h : Relation.ReflTransGen (tree.Round roots) ⟨requests,[]⟩ last)
    (hends : tree.Ends roots last outcome) :
    tree.draftAll roots (tree.requestLimit requests) requests [] = outcome := by
  obtain ⟨last',h',hends'⟩ := tree.rounds_load roots requests
  exact hends'.unique_of_rounds hends h' h

/-! ## Loading follows the order of requests -/

/-- The files are drafted in the order of request, and what else is asked for waits in that order.
-/
structure Asks (start : List String) (q : LoadQueue) : Prop where
  order : InRequestOrder start (q.drafts.map FileDraft.link)
  waiting : (q.pending.map (·.name)).filter (fun name => name ∉ q.paths) =
    (askedFor start (q.drafts.map FileDraft.link)).filter fun name => name ∉ q.paths

theorem askedFor_concat (start : List String) (drafts : List FileDraft) (draft : FileDraft) :
    askedFor start ((drafts ++ [draft]).map FileDraft.link) =
      askedFor start (drafts.map FileDraft.link) ++ draft.imports := by
  simp [askedFor,FileDraft.link]

/-- What is not among many files is found first among what is not among few of them. -/
theorem filter_notMem_of_subset {paths more : List String} (h : paths ⊆ more)
    (names : List String) : (names.filter fun name => name ∉ paths).filter (fun name => name ∉ more)
      = names.filter fun name => name ∉ more := by
  rw [List.filter_filter]
  refine List.filter_congr fun name _ => ?_
  by_cases hname : name ∈ paths
  · simp [hname,h hname]
  · simp [hname]

theorem Round.asks {start : List String} (h : tree.Round roots q q') (hq : Asks start q) :
    Asks start q' := by
  obtain ⟨horder,hwaiting⟩ := hq
  cases h with
  | known hknown =>
    refine ⟨horder,?_⟩
    rw [← hwaiting,List.map_cons,List.filter_cons_of_neg (by simpa using hknown)]
  | @drafted request rest imported drafts draft hnew hdraft himports =>
    have hpaths : LoadQueue.paths ⟨rest ++ imported,drafts ++ [draft]⟩ =
        drafts.map (·.path) ++ [request.name] := by
      simp [LoadQueue.paths,path_draft hdraft]
    have hsub := List.subset_append_left (drafts.map (·.path)) [request.name]
    constructor
    · rw [List.map_append,List.map_singleton]
      refine inRequestOrder_concat_iff.mpr ⟨horder,?_⟩
      rw [nextName?,FileDraft.map_fst_link,← List.head?_filter,← hwaiting,List.map_cons,
        List.filter_cons_of_pos (by simpa using hnew)]
      exact congrArg some (path_draft hdraft).symm
    · have hlast := names_importRequests himports
      rw [List.map_append,List.map_singleton,path_draft hdraft] at hlast
      rw [askedFor_concat,hpaths,List.map_append,hlast,List.filter_append,List.filter_append,
        filter_notMem_of_subset (List.Subset.refl _),
        ← filter_notMem_of_subset hsub (askedFor _ _),← hwaiting,filter_notMem_of_subset hsub,
        List.map_cons,List.filter_cons_of_neg (by simp)]

theorem asks_of_rounds {start : List String}
    (h : Relation.ReflTransGen (tree.Round roots) q q') (hq : Asks start q) : Asks start q' := by
  induction h with
  | refl => exact hq
  | tail _ hround ih => exact hround.asks ih

/-- The relative paths of the inputs, in their order. -/
def inputNames (tree : FileTree) (paths includePaths : List String) : List String :=
  (tree.inputs paths includePaths).requests.map (·.name)

end FileTree

/-- Files that are all that is reached by imports from a start, each once, in the order in which
they are first asked for; those at the start are to be generated. -/
structure ImportClosure (start : List String) (files : List SchemaFile) : Prop where
  distinct : (files.map (·.path)).Nodup
  starts : start ⊆ files.map (·.path)
  closed : ∀ f ∈ files, f.dependencies ⊆ files.map (·.path)
  reached : ∀ f ∈ files, ∃ name ∈ start,
    Relation.ReflTransGen (AsksFor (files.map SchemaFile.link)) name f.path
  order : InRequestOrder start (files.map SchemaFile.link)
  generate : ∀ f ∈ files, f.generate = true ↔ f.path ∈ start

theorem map_link_buildAll {drafts : List FileDraft} {asked : String → Bool}
    {files : List SchemaFile} (h : buildAll drafts asked = .ok files) :
    files.map SchemaFile.link = drafts.map FileDraft.link := by
  obtain ⟨declared,-,h⟩ := bind_eq_ok.mp h
  refine map_eq_map ((mapM_eq_ok_iff.mp h).imp fun d f hf => ?_)
  obtain ⟨_,-,hf⟩ := bind_eq_ok.mp hf
  obtain ⟨_,-,hf⟩ := bind_eq_ok.mp hf
  cases hf
  rfl

/-- Files in the order of request are the closure of the start if no more is asked for. -/
theorem ImportClosure.of_order {start : List String} {files : List SchemaFile}
    (horder : InRequestOrder start (files.map SchemaFile.link))
    (hend : nextName? start (files.map SchemaFile.link) = none)
    (hgenerate : ∀ f ∈ files, f.generate = true ↔ f.path ∈ start) : ImportClosure start files := by
  have hall := nextName?_eq_none_iff.mp hend
  rw [SchemaFile.map_fst_link] at hall
  refine ⟨SchemaFile.map_fst_link files ▸ horder.nodup,fun name hname => ?_,?_,?_,horder,hgenerate⟩
  · exact hall (List.mem_append_left _ hname)
  · intro f hf name hname
    refine hall (List.mem_append_right _ (List.mem_flatMap.mpr ⟨f.link,?_,hname⟩))
    exact List.mem_map_of_mem hf
  · exact fun f hf => horder.reached (List.mem_map_of_mem hf)

/-- What is loaded is built from the drafts that the rounds end with. -/
theorem FileTree.rounds_of_load {tree : FileTree} {paths includePaths : List String}
    {files : List SchemaFile} (h : tree.load paths includePaths = .ok files) :
    let inputs := tree.inputs paths includePaths
    ∃ drafts, Relation.ReflTransGen (tree.Round inputs.roots) ⟨inputs.requests,[]⟩ ⟨[],drafts⟩ ∧
      buildAll drafts (fun name => inputs.requests.any (·.name == name)) = .ok files := by
  intro inputs
  obtain ⟨last,hrounds,hends⟩ := tree.rounds_load inputs.roots inputs.requests
  obtain ⟨drafts,hdrafts,hbuild⟩ := bind_eq_ok.mp h
  rw [hdrafts] at hends
  cases hends
  exact ⟨drafts,hrounds,hbuild⟩

/-- Where rounds leave nothing that is asked for, what is loaded is built from their drafts. -/
theorem FileTree.load_of_rounds {tree : FileTree} {paths includePaths : List String}
    {inputs : Inputs} {drafts : List FileDraft} (hinputs : tree.inputs paths includePaths = inputs)
    (hrounds : Relation.ReflTransGen (tree.Round inputs.roots) ⟨inputs.requests,[]⟩ ⟨[],drafts⟩) :
    tree.load paths includePaths =
      buildAll drafts fun name => inputs.requests.any (·.name == name) := by
  rw [FileTree.load,hinputs,draftAll_of_rounds hrounds .done]
  rfl

/-- What is loaded is the import closure of the inputs. -/
theorem FileTree.importClosure_of_load {tree : FileTree} {paths includePaths : List String}
    {files : List SchemaFile} (h : tree.load paths includePaths = .ok files) :
    ImportClosure (tree.inputNames paths includePaths) files := by
  obtain ⟨drafts,hrounds,hbuild⟩ := rounds_of_load h
  have hstart : Asks (tree.inputNames paths includePaths)
      ⟨(tree.inputs paths includePaths).requests,[]⟩ :=
    ⟨inRequestOrder_nil,by simp [askedFor,inputNames]⟩
  obtain ⟨horder,hwaiting⟩ := asks_of_rounds hrounds hstart
  have hlinks := map_link_buildAll hbuild
  refine .of_order (hlinks ▸ horder) ?_ fun f hf => ?_
  · rw [hlinks,nextName?,FileDraft.map_fst_link,← List.head?_filter,← hwaiting]
    rfl
  · rw [(buildAll_eq_ok hbuild).2.2 f hf]
    simp [inputNames]

/-- Loading always comes to an end, and what it gives is the import closure of the inputs. -/
theorem load_closes_imports (tree : FileTree) (paths includePaths : List String) :
    let inputs := tree.inputs paths includePaths
    (∀ row : ℕ → LoadQueue, row 0 = ⟨inputs.requests,[]⟩ →
      ¬ ∀ n, tree.Round inputs.roots (row n) (row (n + 1))) ∧
    (∃ last outcome,
      Relation.ReflTransGen (tree.Round inputs.roots) ⟨inputs.requests,[]⟩ last ∧
      tree.Ends inputs.roots last outcome ∧ tree.load paths includePaths = (do
        buildAll (← outcome) fun name => inputs.requests.any (·.name == name))) ∧
    ∀ files, tree.load paths includePaths = .ok files →
      ImportClosure (tree.inputNames paths includePaths) files := by
  intro inputs
  obtain ⟨last,hrounds,hends⟩ := tree.rounds_load inputs.roots inputs.requests
  exact ⟨fun row hrow => hends.not_endless hrounds hrow,⟨last,_,hrounds,hends,rfl⟩,
    fun files h => FileTree.importClosure_of_load h⟩

def ringTree : FileTree where
  workingDirectory := []
  files := [(["a"],encodeUtf8 "import 'b';import 'b';"),(["b"],encodeUtf8 "import 'a';import 'b';")]

def ringDraft (name : String) (imports : List String) (text : String) : FileDraft :=
  ⟨name,"",imports,[],[],[text.toList]⟩

def ringFiles : List SchemaFile :=
  [⟨"a","",["b","b"],[],[],true⟩,⟨"b","",["a","b"],[],[],false⟩]

theorem draft_ringTree_a : ringTree.draft ⟨"/a","a"⟩ =
    .ok (ringDraft "a" ["b","b"] "import 'b';import 'b';") := by
  have hfile : ringTree.read "/a" = .ok (encodeUtf8 "import 'b';import 'b';") := rfl
  have htext := fileText?_encodeUtf8 (s := "import 'b';import 'b';") (by decide)
  have hread : Grammar.read "import 'b';import 'b';".toList =
      .ok [.imports none "'b'",.imports none "'b'"] := by with_unfolding_all rfl
  rw [FileTree.draft_of_read ⟨"/a","a"⟩ hfile htext]
  exact draftOf_of_plain none hread rfl rfl

theorem draft_ringTree_b : ringTree.draft ⟨"/b","b"⟩ =
    .ok (ringDraft "b" ["a","b"] "import 'a';import 'b';") := by
  have hfile : ringTree.read "/b" = .ok (encodeUtf8 "import 'a';import 'b';") := rfl
  have htext := fileText?_encodeUtf8 (s := "import 'a';import 'b';") (by decide)
  have hread : Grammar.read "import 'a';import 'b';".toList =
      .ok [.imports none "'a'",.imports none "'b'"] := by with_unfolding_all rfl
  rw [FileTree.draft_of_read ⟨"/b","b"⟩ hfile htext]
  exact draftOf_of_plain none hread rfl rfl

theorem inputs_ringTree : ringTree.inputs ["a"] [] = ⟨[⟨false,[]⟩],[⟨"/a","a"⟩]⟩ := rfl

theorem rounds_ringTree : Relation.ReflTransGen (ringTree.Round [⟨false,[]⟩]) ⟨[⟨"/a","a"⟩],[]⟩
    ⟨[],[ringDraft "a" ["b","b"] "import 'b';import 'b';",
      ringDraft "b" ["a","b"] "import 'a';import 'b';"]⟩ := by
  have hrequest : requestIn ⟨false,[]⟩ "b" = ⟨"/b","b"⟩ := rfl
  have hfile : ringTree.isFile "/b" = true := rfl
  have himports : ringTree.importRequests [⟨false,[]⟩]
      [ringDraft "a" ["b","b"] "import 'b';import 'b';"]
      (ringDraft "a" ["b","b"] "import 'b';import 'b';") = .ok [⟨"/b","b"⟩,⟨"/b","b"⟩] := by
    simp [FileTree.importRequests,FileTree.importRequest?,ringDraft,hrequest,hfile]
    rfl
  refine .head (.drafted (by simp) draft_ringTree_a himports) ?_
  refine .head (.drafted (by simp [ringDraft]) draft_ringTree_b rfl) ?_
  exact .single (.known (by simp [ringDraft]))

theorem load_ringTree : ringTree.load ["a"] [] = .ok ringFiles := by
  rw [FileTree.load_of_rounds inputs_ringTree rounds_ringTree]
  exact buildAll_of_plain rfl rfl rfl

/-- Loading ends in a ring of imports, and gives each file of it once. -/
theorem ringTree_loaded :
    ringTree.load ["a"] [] = .ok ringFiles ∧ ImportClosure ["a"] ringFiles := by
  have hnames : ringTree.inputNames ["a"] [] = ["a"] := by
    rw [FileTree.inputNames,inputs_ringTree]
    rfl
  have hclosure := (load_closes_imports ringTree ["a"] []).2.2 ringFiles load_ringTree
  exact ⟨load_ringTree,hnames ▸ hclosure⟩

end SchemaCodec
