import SchemaCodec.Proofs.CommandLine.Loading
import SchemaCodec.Proofs.Schema.InputNames
import SchemaCodec.Proofs.TreeWrites

/-! # What generating writes

Nothing is written before all code is generated. Then the files of the result are written in their
order, each below the output directory, until one of them cannot be. The errors of the result are
told behind that and change no file.
-/
namespace SchemaCodec
open Text CommandLine

/-- A generated file as it is written below a directory. -/
def GeneratedFile.below (directory : String) (g : GeneratedFile) : String × List UInt8 :=
  (joinPath directory g.path,g.content)

namespace CommandLine
variable {s : Session} {tree : FileTree} {directory : String}

/-- How writing some files into a tree ends: with all of them written, or with the first ones where
the next cannot be. -/
inductive Writes (tree : FileTree) (directory : String) (files : List GeneratedFile) :
    Progress → Prop
  | all {s : Session} (hwrote : tree.Wrote (files.map (·.below directory)) s.tree) :
      Writes tree directory files (.ok s)
  | part {s : Session} {done left : List GeneratedFile} {cause : PathError}
      (hfiles : files = done ++ left) (hwrote : tree.Wrote (done.map (·.below directory)) s.tree) :
      Writes tree directory files (.error ⟨s,.failure (.path cause)⟩)

/-- How a part of a run ends that writes nothing: it goes on, or a report cannot be shown. -/
inductive Tells (tree : FileTree) : Progress → Prop
  | told {s : Session} (htree : s.tree = tree) : Tells tree (.ok s)
  | unshown {s : Session} {cause : Console.MarkupFault} (htree : s.tree = tree) :
      Tells tree (.error ⟨s,.failure (.markup cause)⟩)

namespace Session

theorem write_of_error {g : GeneratedFile} {cause : PathError}
    (h : s.tree.writeBelow (joinPath directory g.path) g.content = .error cause) :
    s.write directory g = .error ⟨s,.failure (.path cause)⟩ := by
  unfold write
  dsimp only
  rw [h]
  rfl

theorem write_of_ok {g : GeneratedFile} {tree' : FileTree}
    (h : s.tree.writeBelow (joinPath directory g.path) g.content = .ok tree') :
    ∃ s', s.write directory g = .ok s' ∧ s'.tree = tree' := by
  unfold write
  dsimp only
  rw [h]
  exact ⟨_,rfl,rfl⟩

theorem writes_foldlM {done : List GeneratedFile} (rest : List GeneratedFile)
    (h : tree.Wrote (done.map (·.below directory)) s.tree) :
    Writes tree directory (done ++ rest)
      (rest.foldlM (fun s file => s.write directory file) s) := by
  induction rest generalizing s done with
  | nil => exact .all (by rwa [List.append_nil])
  | cons g rest ih =>
    rw [List.foldlM_cons]
    cases hwrite : s.tree.writeBelow (joinPath directory g.path) g.content with
    | error cause =>
      rw [write_of_error hwrite]
      exact .part rfl h
    | ok tree' =>
      obtain ⟨s',hnext,rfl⟩ := write_of_ok hwrite
      have hwrote : tree.Wrote ((done ++ [g]).map (·.below directory)) s'.tree := by
        rw [List.map_append]
        exact h.concat hwrite
      rw [hnext,← List.singleton_append,← List.append_assoc]
      exact ih hwrote

theorem tells_foldlM (errors : List FileError) (h : s.tree = tree) :
    Tells tree (errors.foldlM (fun s e => s.printError e.describe) s) := by
  induction errors generalizing s with
  | nil => exact .told h
  | cons e rest ih =>
    rw [List.foldlM_cons,printError]
    cases Console.shown ("[bold red]error:[/bold red] " ++ e.describe) with
    | error cause => exact .unshown h
    | ok shown => exact ih h

/-- Loading that fails ends a run, and the tree is as it was. -/
theorem load_refused {inputs protoPaths : List String} {e : SchemaError}
    (h : s.tree.load inputs protoPaths = .error e) : ∃ stop,
      s.load inputs protoPaths = .error stop ∧ stop.session.tree = s.tree ∧
        stop.reason ≠ .status 0 := by
  cases hmessage : e.message? with
  | none => exact ⟨_,load_unreported h hmessage,rfl,by simp⟩
  | some message =>
    cases hshown : Console.shown ("[bold red]error:[/bold red] " ++ message) with
    | ok line => exact ⟨_,load_told h hmessage hshown,rfl,by simp⟩
    | error fault => exact ⟨_,load_unshown h hmessage hshown,rfl,by simp⟩

variable {launch : Launcher} {settings : GenSettings}

theorem gen_of_refused {files : List SchemaFile} {cause : GenerationError}
    (h : s.tree.load settings.inputs settings.protoPaths = .ok files)
    (hcause : generate files (settings.formatter.formatter launch) = .error cause) :
    s.gen launch settings = .error ⟨s,.failure (.generation cause)⟩ := by
  have hload : s.load settings.inputs settings.protoPaths = .ok files := by
    simp only [load,h]
  unfold gen
  rw [hload]
  dsimp only [bind,Except.bind]
  rw [hcause]
  rfl

theorem gen_of_generated {files : List SchemaFile} {result : GenerationResult}
    (h : s.tree.load settings.inputs settings.protoPaths = .ok files)
    (hresult : generate files (settings.formatter.formatter launch) = .ok result) :
    s.gen launch settings = (do
      let s ← result.files.foldlM (fun s file => s.write settings.output file) s
      let s ← result.errors.foldlM (fun s e => s.printError e.describe) s
      if result.ok then .ok s else s.stop (.status 1)) := by
  have hload : s.load settings.inputs settings.protoPaths = .ok files := by
    simp only [load,h]
  unfold gen
  rw [hload]
  dsimp only [bind,Except.bind]
  rw [hresult]

end Session

theorem tree_endingOf_error (stop : Stop) : (endingOf (.error stop)).tree = stop.session.tree := by
  obtain ⟨s,reason⟩ := stop
  cases reason <;> rfl

theorem status_endingOf_error {stop : Stop} (h : stop.reason ≠ .status 0) :
    (endingOf (.error stop)).status ≠ 0 := by
  obtain ⟨s,reason⟩ := stop
  cases reason with
  | status n => exact fun hn => h (congrArg Reason.status hn)
  | failure cause => exact Nat.one_ne_zero

end CommandLine

namespace CommandLine.Session
variable {launch : Launcher} {settings : GenSettings} {s : Session}

/-- Telling errors changes no file and fails at no path, and the status is 0 exactly if there are
none. -/
theorem settles_told (s : Session) (result : GenerationResult) :
    let ending := endingOf (do
      let s ← result.errors.foldlM (fun s e => s.printError e.describe) s
      if result.ok then .ok s else s.stop (.status 1))
    ending.tree = s.tree ∧ (∀ cause, ending.failure ≠ some (.path cause)) ∧
      (ending.status = 0 ↔ result.errors = []) := by
  have htells := tells_foldlM result.errors (Eq.refl s.tree)
  rw [GenerationResult.ok]
  intro ending
  cases herrors : result.errors with
  | nil =>
    have hending : ending = endingOf (.ok s) := by
      simp only [ending,herrors]
      rfl
    rw [hending]
    exact ⟨rfl,by simp [endingOf],by simp [endingOf]⟩
  | cons e rest =>
    have hending : ending = endingOf (do
        let s ← (e :: rest).foldlM (fun s e => s.printError e.describe) s
        s.stop (.status 1)) := by
      simp only [ending,herrors]
      rfl
    rw [herrors] at htells
    rw [hending]
    cases hfold : (e :: rest).foldlM (fun s e => s.printError e.describe) s with
    | ok s' =>
      rw [hfold] at htells
      cases htells with
      | told htree =>
        exact ⟨htree,by simp [endingOf,stop,bind,Except.bind],
          by simp [endingOf,stop,bind,Except.bind]⟩
    | error stop =>
      rw [hfold] at htells
      cases htells with
      | unshown htree =>
        exact ⟨htree,by simp [endingOf,bind,Except.bind],by simp [endingOf,bind,Except.bind]⟩

/-- What a run has written when it ends, and its status where nothing failed to be written. -/
theorem gen_settles {files : List SchemaFile} {result : GenerationResult}
    (h : s.tree.load settings.inputs settings.protoPaths = .ok files)
    (hresult : generate files (settings.formatter.formatter launch) = .ok result) :
    let ending := endingOf (s.gen launch settings)
    (∃ done left, result.files = done ++ left ∧ ∀ place, ending.tree.files.lookup place =
      s.tree.contentAfter? (done.map (·.below settings.output)) place) ∧
    ((∀ cause, ending.failure ≠ some (.path cause)) →
      s.tree.Wrote (result.files.map (·.below settings.output)) ending.tree ∧
      (ending.status = 0 ↔ result.errors = [])) := by
  intro ending
  have hwrites : Writes s.tree settings.output ([] ++ result.files)
      (result.files.foldlM (fun s file => s.write settings.output file) s) :=
    writes_foldlM result.files (.refl s.tree)
  rw [List.nil_append] at hwrites
  simp only [ending,gen_of_generated h hresult]
  cases hfold : result.files.foldlM (fun s file => s.write settings.output file) s with
  | error stop =>
    rw [hfold] at hwrites
    cases hwrites with
    | part hfiles hwrote => exact ⟨⟨_,_,hfiles,hwrote.files⟩,fun hno => absurd rfl (hno _)⟩
  | ok s' =>
    rw [hfold] at hwrites
    cases hwrites with
    | all hwrote =>
      obtain ⟨htree,-,hstatus⟩ := settles_told s' result
      rw [← htree] at hwrote
      exact ⟨⟨result.files,[],(List.append_nil _).symm,hwrote.files⟩,fun _ => ⟨hwrote,hstatus⟩⟩

end CommandLine.Session

/-- Whatever is loaded for inputs has a relative path in normal form. A command that generates code
writes nothing where loading or generating fails. Otherwise it writes the files of the result in
their order, each at the path of normal form that it has below the output directory, and no other
file. If each of them can be written, it writes them all and does no more than make directories on
their ways, and the status is 0 exactly if the result has no errors. -/
theorem gen_writes_result (launch : Launcher) {tree : FileTree} {arguments : List String}
    {settings : GenSettings} (hrooted : tree.Rooted)
    (hgen : invocation arguments = .ok (.gen settings)) :
    let ending := run launch tree arguments
    (∀ paths includePaths files, tree.load paths includePaths = .ok files →
      ∀ f ∈ files, f.generate = true → Normalised f.path) ∧
    (∀ e, tree.load settings.inputs settings.protoPaths = .error e →
      ending.tree = tree ∧ ending.status ≠ 0) ∧
    ∀ files, tree.load settings.inputs settings.protoPaths = .ok files →
      (∀ e, generate files (settings.formatter.formatter launch) = .error e →
        ending.tree = tree ∧ ending.status ≠ 0) ∧
      ∀ result, generate files (settings.formatter.formatter launch) = .ok result →
        (∀ g ∈ result.files, Normalised g.path ∧
          tree.placeOf (joinPath settings.output g.path) =
            tree.placeOf settings.output ++ splitString '/' g.path) ∧
        (∃ done left, result.files = done ++ left ∧ ∀ place, ending.tree.files.lookup place =
          tree.contentAfter? (done.map (·.below settings.output)) place) ∧
        ((∀ cause, ending.failure ≠ some (.path cause)) →
          tree.Wrote (result.files.map (·.below settings.output)) ending.tree ∧
          (ending.status = 0 ↔ result.errors = [])) := by
  have hrun : run launch tree arguments = endingOf (Session.gen launch ⟨tree,"",""⟩ settings) := by
    rw [run,hgen]
  intro ending
  refine ⟨fun _ _ _ => FileTree.normalised_of_load hrooted,fun e he => ?_,fun files hfiles =>
    ⟨fun e he => ?_,fun result hresult => ⟨fun g hg => ?_,?_⟩⟩⟩
  · obtain ⟨stop,hstop,htree,hreason⟩ := Session.load_refused (s := ⟨tree,"",""⟩) he
    have hending : ending = endingOf (.error stop) := by
      rw [show ending = _ from hrun,Session.gen,hstop]
      rfl
    rw [hending,tree_endingOf_error,htree]
    exact ⟨rfl,status_endingOf_error hreason⟩
  · have hending : ending = endingOf (.error ⟨⟨tree,"",""⟩,.failure (.generation e)⟩) := by
      rw [show ending = _ from hrun,Session.gen_of_refused hfiles he]
    rw [hending]
    exact ⟨rfl,Nat.one_ne_zero⟩
  · have hnormal := FileTree.normalised_generated hrooted hfiles hresult g hg
    exact ⟨hnormal,placeOf_below hnormal⟩
  · rw [show ending = _ from hrun]
    exact Session.gen_settles (s := ⟨tree,"",""⟩) hfiles hresult

/-- Code is asked for in a directory that is to be made. -/
def nookArguments : List String := ["gen","-i","b/y","--no-format","-o","out"]

def nookSettings : GenSettings := ⟨["b/y"],[],"out",⟨false,{}⟩⟩

theorem load_nook : twinTree.load ["b/y"] [] = .ok [twinFile "y" "B"] := by
  have hinputs : twinTree.inputs ["b/y"] [] = ⟨[⟨false,["b"]⟩],[⟨"/b/y","y"⟩]⟩ := by
    simp [FileTree.inputs,absolute_twinTree,Inputs.add,importPlace,importPath?]
    rfl
  have hrounds : Relation.ReflTransGen (twinTree.Round [⟨false,["b"]⟩])
      ⟨[⟨"/b/y","y"⟩],[]⟩ ⟨[],[twinDraft "y" "B"]⟩ :=
    .single (.drafted (by simp) draft_twinTree_y rfl)
  rw [FileTree.load_of_rounds hinputs hrounds]
  exact buildAll_of_plain rfl rfl rfl

theorem generate_nook : ((generate [twinFile "y" "B"] .keep).toOption.map fun r =>
    (r.files.map (·.path),r.errors,
      (r.files.foldlM (fun s file => Session.write s "out" file) ⟨twinTree,"",""⟩).isOk)) =
    some (["y.rs"],[],true) := by
  decide +kernel

/-- The code of one file is written into the directory that is made for it. -/
theorem nook_written : twinTree.Rooted ∧
    invocation nookArguments = .ok (.gen nookSettings) ∧
    twinTree.load ["b/y"] [] = .ok [twinFile "y" "B"] ∧
    ∃ content, twinTree.Wrote [("out/y.rs",content)]
        (run Plugin.echo twinTree nookArguments).tree ∧
      (run Plugin.echo twinTree nookArguments).status = 0 := by
  have hrooted : twinTree.Rooted :=
    ⟨fun name hname => absurd hname List.not_mem_nil,by decide⟩
  have hasked : invocation nookArguments = .ok (.gen nookSettings) := by decide +kernel
  refine ⟨hrooted,hasked,load_nook,?_⟩
  obtain ⟨result,hresult,hgenerated⟩ := Option.map_eq_some_iff.mp generate_nook
  simp only [Prod.mk.injEq] at hgenerated
  obtain ⟨hpaths,herrors,hwritten⟩ := hgenerated
  have hgenerate : generate [twinFile "y" "B"]
      (nookSettings.formatter.formatter Plugin.echo) = .ok result := by
    change generate [twinFile "y" "B"] .keep = .ok result
    cases hg : generate [twinFile "y" "B"] .keep with
    | error e => simp [hg,Except.toOption] at hresult
    | ok made =>
      simp only [hg,Except.toOption,Option.some.injEq] at hresult
      rw [hresult]
  obtain ⟨-,-,hloaded⟩ := gen_writes_result Plugin.echo hrooted hasked
  obtain ⟨-,hsettles⟩ := hloaded _ load_nook
  obtain ⟨-,-,hall⟩ := hsettles result hgenerate
  have hfailure : ∀ cause,
      (run Plugin.echo twinTree nookArguments).failure ≠ some (.path cause) := by
    intro cause
    rw [run,hasked]
    change (endingOf (Session.gen Plugin.echo ⟨twinTree,"",""⟩ nookSettings)).failure ≠ _
    rw [Session.gen_of_generated load_nook hgenerate]
    change (result.files.foldlM (fun s file => Session.write s nookSettings.output file)
      ⟨twinTree,"",""⟩).isOk = true at hwritten
    cases hfold : result.files.foldlM (fun s file => Session.write s nookSettings.output file)
        ⟨twinTree,"",""⟩ with
    | error stop => simp [hfold,Except.isOk,Except.toBool] at hwritten
    | ok s => exact (Session.settles_told s result).2.1 cause
  obtain ⟨hwrote,hstatus⟩ := hall hfailure
  obtain ⟨g,hg,hpath⟩ := List.map_eq_singleton_iff.mp hpaths
  refine ⟨g.content,?_,hstatus.mpr herrors⟩
  rw [hg] at hwrote
  have hbelow : g.below "out" = ("out/y.rs",g.content) := by
    rw [GeneratedFile.below,hpath]
    rfl
  exact hbelow ▸ hwrote

end SchemaCodec
