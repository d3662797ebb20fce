import SchemaCodec.CommandLine.Run
import SchemaCodec.Proofs.Schema.Reports

/-! # What is told about schemas that cannot be loaded

A command tells what is wrong with a schema in one line of error. That fails where the error has no
report, and where the report, which is read as markup, cannot be shown. An error has no report if a
text or path escapes, or if it would tell of a number with too many digits.
-/
namespace SchemaCodec
open Text CommandLine

namespace CommandLine.Session
variable (s : Session) (inputs protoPaths : List String)

/-- How loading ends for a command: with the files, or with a line of error and status 1. -/
inductive LoadSettles : Except Stop (List SchemaFile) → Prop
  | loaded {files : List SchemaFile} (hload : s.tree.load inputs protoPaths = .ok files) :
      LoadSettles (.ok files)
  | told {e : SchemaError} {message line : String}
      (hload : s.tree.load inputs protoPaths = .error e) (hmessage : e.message? = some message)
      (hline : Console.shown ("[bold red]error:[/bold red] " ++ message) = .ok line) :
      LoadSettles (.error ⟨{ s with errors := s.errors ++ line ++ "\n" },.status 1⟩)

/-- Whatever report there is on loading can be shown. -/
def Showable : Prop :=
  ∀ e message, s.tree.load inputs protoPaths = .error e → e.message? = some message →
    ∃ line, Console.shown ("[bold red]error:[/bold red] " ++ message) = .ok line

variable {s inputs protoPaths}

theorem load_told {e : SchemaError} {message line : String}
    (hload : s.tree.load inputs protoPaths = .error e) (hmessage : e.message? = some message)
    (hline : Console.shown ("[bold red]error:[/bold red] " ++ message) = .ok line) :
    s.load inputs protoPaths =
      .error ⟨{ s with errors := s.errors ++ line ++ "\n" },.status 1⟩ := by
  simp only [load,hload,hmessage,printError,hline]
  rfl

theorem load_unreported {e : SchemaError} (hload : s.tree.load inputs protoPaths = .error e)
    (hmessage : e.message? = none) :
    s.load inputs protoPaths = .error ⟨s,.failure (.schema e)⟩ := by
  simp only [load,hload,hmessage]
  rfl

theorem load_unshown {e : SchemaError} {message : String} {fault : Console.MarkupFault}
    (hload : s.tree.load inputs protoPaths = .error e) (hmessage : e.message? = some message)
    (hfault : Console.shown ("[bold red]error:[/bold red] " ++ message) = .error fault) :
    s.load inputs protoPaths = .error ⟨s,.failure (.markup fault)⟩ := by
  simp only [load,hload,hmessage,printError,hfault]
  rfl

theorem LoadSettles.reason {stop : Stop} (h : s.LoadSettles inputs protoPaths (.error stop)) :
    stop.reason = .status 1 := by
  cases h
  rfl

theorem not_loadSettles {cause : Failure}
    (hload : s.load inputs protoPaths = .error ⟨s,.failure cause⟩) :
    ¬ s.LoadSettles inputs protoPaths (s.load inputs protoPaths) := by
  rw [hload]
  exact fun h => nomatch h.reason

theorem load_settles_iff : s.LoadSettles inputs protoPaths (s.load inputs protoPaths) ↔
    ¬ (s.tree.LoadEscapes inputs protoPaths ∨
      ∃ e, s.tree.load inputs protoPaths = .error e ∧ e.TooLong) ∧
    s.Showable inputs protoPaths := by
  rw [← FileTree.load_escapes_iff]
  cases hload : s.tree.load inputs protoPaths with
  | ok files =>
    have hfiles : s.load inputs protoPaths = .ok files := by
      simp only [load,hload]
    refine iff_of_true (hfiles ▸ .loaded hload) ⟨by simp,fun e message he => ?_⟩
    rw [hload] at he
    cases he
  | error e =>
    cases hmessage : e.message? with
    | none =>
      refine iff_of_false (not_loadSettles (load_unreported hload hmessage)) fun h => ?_
      exact h.1 ⟨e,rfl,hmessage⟩
    | some message =>
      cases hshown : Console.shown ("[bold red]error:[/bold red] " ++ message) with
      | ok line =>
        refine iff_of_true (load_told hload hmessage hshown ▸ .told hload hmessage hshown) ⟨?_,?_⟩
        · rintro ⟨_,⟨⟩,hnone⟩
          rw [hmessage] at hnone
          cases hnone
        · intro e' message' he' hmessage'
          rw [hload] at he'
          cases he'
          rw [hmessage] at hmessage'
          cases hmessage'
          exact ⟨line,hshown⟩
      | error fault =>
        refine iff_of_false (not_loadSettles (load_unshown hload hmessage hshown)) fun h => ?_
        obtain ⟨line,hline⟩ := h.2 e message hload hmessage
        rw [hshown] at hline
        cases hline

end CommandLine.Session

/-- Texts are parsed or refused with a report unless the first of them without a draft escapes or
what is wrong with them is a field number with too many digits; and a command that loads files goes on
with them or ends with a line of error and status 1 unless it comes to a text or path that escapes, to
such a number, or to a report that cannot be shown. -/
theorem refusals_reported_iff (sources : List (String × String)) (s : Session)
    (inputs protoPaths : List String) :
    (((∃ files, parseAll sources = .ok files) ∨
        ∃ e message, parseAll sources = .error e ∧ e.message? = some message) ↔
      ¬ ((∃ before path text after, sources = before ++ (path,text) :: after ∧
          (∀ s ∈ before, Draftable s.2.toList) ∧ Escapes text.toList) ∨
        ∃ e, parseAll sources = .error e ∧ e.TooLong)) ∧
    (s.LoadSettles inputs protoPaths (s.load inputs protoPaths) ↔
      ¬ (s.tree.LoadEscapes inputs protoPaths ∨
        ∃ e, s.tree.load inputs protoPaths = .error e ∧ e.TooLong) ∧
      s.Showable inputs protoPaths) := by
  refine ⟨?_,Session.load_settles_iff⟩
  rw [← parseAll_escapes_iff]
  cases parseAll sources with
  | ok files => simp
  | error e => cases hmessage : e.message? <;> simp [hmessage]

theorem read_octal : Grammar.read "message A\x7bint32 x=08;\x7d".toList = .ok
    [.message 1 "A" [.field ⟨1,none,⟨false,⟨"int32",[]⟩⟩,⟨"x","08",[]⟩⟩]] := by
  with_unfolding_all rfl

/-- A number with a leading zero and a digit that is not octal follows the grammar, and ends parsing
without a report. -/
theorem octal_unreported :
    parseAll [("a","message A\x7bint32 x=08;\x7d")] = .error .malformedLiteral ∧
      SchemaError.malformedLiteral.message? = none := by
  refine ⟨?_,rfl⟩
  have hdraft : draftOf "a" "message A\x7bint32 x=08;\x7d".toList = .error .malformedLiteral := by
    rw [draftOf,read_octal]
    cbv
  exact bind_eq_error.mpr (.inl (mapM_eq_error.mpr ⟨[],_,[],rfl,by simp,hdraft⟩))

end SchemaCodec
