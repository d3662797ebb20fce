import SchemaCodec.Proofs.Grammar.Pieces
import SchemaCodec.Proofs.Schema.DeclarationLines

/-! # Comments on the line of a declaration

With no comment line above it, a declaration takes the comment of its own line, which a scan of the
line looks for. It is the comment that stands there among the pieces of the text exactly if the scan
sees that one. Only a block comment with a part on the line can hide it.
-/
namespace SchemaCodec
open Grammar Text

/-- The line above a line; the first one has none. -/
def lineAbove (text : List Char) (line : ℕ) : Option (List Char) :=
  ((Text.lines text).take (line - 1)).getLast?

/-- The comment of a line that has no comment line above it is what the scan of the line finds. -/
theorem commentAt_eq_commentBehind {text : List Char} {line : ℕ} (hline : 1 ≤ line)
    (h : ∀ above ∈ lineAbove text line, isCommentLine above = false) :
    commentAt (Text.lines text) line = commentBehind (lineAt text line) := by
  have hblock : commentBlock (Text.lines text) line = [] := by
    rw [commentBlock,List.reverse_eq_nil_iff,← List.head?_eq_none_iff,List.head?_takeWhile,
      List.head?_reverse]
    cases habove : ((Text.lines text).take (line - 1)).getLast? with
    | none => rfl
    | some above => rw [Option.filter_some,h above habove]; rfl
  rw [commentAt,hblock]
  dsimp only
  rw [if_neg (by omega),lineAt]

/-- A declaration in the file of a text, by what is read of it. Its comment is the one that is read
on its line exactly if the scan of the line sees that, and so wherever no block comment touches the
line. -/
structure OwnLine (text : List Char) (c : Commented) (d : Located) : Prop where
  named : c.named = d.named
  comment_iff : (∀ above ∈ lineAbove text d.line, isCommentLine above = false) →
    (c.comment = (lexedComment text d.line).map String.ofList ↔ Seen text d.line)
  seen : BlockFree (pieces text) d.line → Seen text d.line

theorem BuildContext.ownLine {ctx : BuildContext} {text : List Char} {statements : List Statement}
    (hlines : ctx.lines = Text.lines text) (hread : read text = .ok statements)
    (hends : ∀ c ∈ text, isLineEnd c = true → c = '\n') {d : Located} (hline : 1 ≤ d.line) :
    OwnLine text (ctx.commented d) d := by
  obtain ⟨hscan,hseen⟩ := commentBehind_lineAt_iff hread hends hline
  have hinj : Function.Injective (Option.map String.ofList) :=
    Option.map_injective fun _ _ => String.ofList_injective
  refine ⟨rfl,fun habove => ?_,hseen⟩
  rw [commented,comment,hlines,commentAt_eq_commentBehind hline habove,hinj.eq_iff,hscan]

theorem one_le_line {text : List Char} {statements : List Statement}
    (h : read text = .ok statements) {package : String} {d : Located}
    (hd : d ∈ statements.flatMap (Statement.located package)) : 1 ≤ d.line := by
  obtain ⟨t,ht,he⟩ := exists_token h hd
  exact he ▸ (lines_tokensFrom _ _).1 t ht

/-- Every text that is accepted gives a file with the declarations of the text, each of which begins
on the line of its first token. If lines end in line feeds only, the comment of a declaration below
no comment line is the one that is read on its own line, exactly if the scan of the line sees it. -/
theorem ownLine_of_parseAll {sources : List (String × String)} {files : List SchemaFile}
    (h : parseAll sources = .ok files) : List.Forall₂ (fun source file =>
      (∀ c ∈ source.2.toList, isLineEnd c = true → c = '\n') → ∃ statements declared,
        read source.2.toList = .ok statements ∧
        List.Forall₂ Marked.Fits (statements.flatMap Statement.marked) (tokens source.2.toList) ∧
        (statements.flatMap (Statement.located file.package)).map Located.line =
          (statements.flatMap Statement.marked).filterMap Marked.begins ∧
        declared.Perm (statements.flatMap (Statement.located file.package)) ∧
        List.Forall₂ (OwnLine source.2.toList) file.commented declared) sources files := by
  obtain ⟨drafts,hdrafts,-,hbuild⟩ := parseAll_eq_ok_iff.mp h
  obtain ⟨declared,-,hfiles⟩ := bind_eq_ok.mp hbuild
  refine (forall₂_comp hdrafts (mapM_eq_ok_iff.mp hfiles)).imp ?_
  rintro source file ⟨draft,hdraft,hfile⟩ hends
  obtain ⟨statements,hread,hlines,hperm⟩ := located_draftOf hdraft
  obtain ⟨hpackage,hcommented⟩ := commented_build hfile
  rw [← hpackage] at hperm
  refine ⟨statements,draft.located,hread,fits_of_read hread,line_located _ _,hperm,?_⟩
  · rw [hcommented,List.forall₂_map_left_iff,List.forall₂_same]
    exact fun d hd => BuildContext.ownLine hlines hread hends
      (one_le_line hread (hperm.mem_iff.mp hd))

/-- A quoted text with slashes and quotes in it, and a comment behind it. -/
def quotedSource : String := "option a = \"//'\"; message A \x7b\x7d // it's\n"

/-- A comment behind a block comment with an apostrophe. -/
def apostropheSource : String := "message A \x7b\x7d /* it's */ // real\n"

section Source

theorem eq_feed_of_filter {text : List Char} (h : text.filter isLineEnd = ['\n']) :
    ∀ c ∈ text, isLineEnd c = true → c = '\n' := fun _ hc hend =>
  List.mem_singleton.mp (h ▸ List.mem_filter.mpr ⟨hc,hend⟩)

/-- A file of one message without fields. -/
def bareFile (comment : Option String) : SchemaFile :=
  ⟨"a.proto","",[],[⟨"A","A",[],[],[],comment⟩],[],true⟩

theorem commented_bareFile (comment : Option String) :
    (bareFile comment).commented = [⟨.message "A",comment⟩] := by
  simp [bareFile,SchemaFile.commented,SchemaFile.declarations,Message.declarationsOf,
    Message.declarations,Declaration.commented]

def bareDraft (text : String) : FileDraft :=
  ⟨"a.proto","",[],[⟨"A",[],[],[],[],1⟩],[],Text.lines text.toList⟩

theorem read_quotedSource : read quotedSource.toList =
    .ok [.option ⟨[.word "a"],.text "\"//'\""⟩,.message 1 "A" []] := by
  with_unfolding_all rfl

theorem read_apostropheSource : read apostropheSource.toList = .ok [.message 1 "A" []] := by
  with_unfolding_all rfl

theorem draftOf_quotedSource :
    draftOf "a.proto" quotedSource.toList = .ok (bareDraft quotedSource) :=
  draftOf_of_plain none read_quotedSource rfl rfl

theorem draftOf_apostropheSource :
    draftOf "a.proto" apostropheSource.toList = .ok (bareDraft apostropheSource) :=
  draftOf_of_plain none read_apostropheSource rfl rfl

theorem parseAll_quotedSource :
    parseAll [("a.proto",quotedSource)] = .ok [bareFile (some "it's")] :=
  parseAll_eq_ok_iff.mpr ⟨_,.cons draftOf_quotedSource .nil,rfl,buildAll_of_plain rfl rfl rfl⟩

theorem parseAll_apostropheSource :
    parseAll [("a.proto",apostropheSource)] = .ok [bareFile none] :=
  parseAll_eq_ok_iff.mpr ⟨_,.cons draftOf_apostropheSource .nil,rfl,buildAll_of_plain rfl rfl rfl⟩

theorem pieces_quotedSource : (pieces quotedSource.toList).map (fun x => String.ofList x.text) =
    ["option"," ","a"," ","="," ","\"//'\"",";"," ","message"," ","A"," ","\x7b","\x7d"," ",
      "// it's","\n"] := by
  with_unfolding_all rfl

theorem lexedComment_apostropheSource :
    lexedComment apostropheSource.toList 1 = some "real".toList := by
  with_unfolding_all rfl

end Source

/-- What stands in a quoted text hides no comment. -/
theorem quotedSource_commented :
    parseAll [("a.proto",quotedSource)] = .ok [bareFile (some "it's")] ∧
    (∀ c ∈ quotedSource.toList, isLineEnd c = true → c = '\n') ∧
    Seen quotedSource.toList 1 ∧
    (lexedComment quotedSource.toList 1).map String.ofList = some "it's" := by
  have hends : ∀ c ∈ quotedSource.toList, isLineEnd c = true → c = '\n' :=
    eq_feed_of_filter rfl
  refine ⟨parseAll_quotedSource,hends,?_⟩
  obtain ⟨hfile,-⟩ := List.forall₂_cons.mp (ownLine_of_parseAll parseAll_quotedSource)
  obtain ⟨statements,declared,hread,-,-,hperm,hlines⟩ := hfile hends
  obtain rfl := Except.ok.inj (read_quotedSource.symm.trans hread)
  obtain rfl : declared = [⟨.message "A",1⟩] := List.perm_singleton.mp hperm
  rw [commented_bareFile] at hlines
  obtain ⟨hown,-⟩ := List.forall₂_cons.mp hlines
  have hfree : BlockFree (pieces quotedSource.toList) 1 := by
    intro x hx hblock
    have htexts : ∀ s ∈ (pieces quotedSource.toList).map (fun x => String.ofList x.text),
        ¬ ['/','*'] <+: s.toList := by
      rw [pieces_quotedSource]
      decide
    have htext := htexts _ (List.mem_map_of_mem hx)
    rw [String.toList_ofList] at htext
    exact absurd hblock htext
  have hseen := hown.seen hfree
  exact ⟨hseen,((hown.comment_iff (by decide)).mpr hseen).symm⟩

/-- The apostrophe in the block comment hides the comment behind it. -/
theorem apostropheSource_hidden : ∃ file,
    parseAll [("a.proto",apostropheSource)] = .ok [file] ∧
    (∀ c ∈ apostropheSource.toList, isLineEnd c = true → c = '\n') ∧
    read apostropheSource.toList = .ok [.message 1 "A" []] ∧
    lineAbove apostropheSource.toList 1 = none ∧
    (lexedComment apostropheSource.toList 1).map String.ofList = some "real" ∧
    file.commented = [⟨.message "A",none⟩] := by
  refine ⟨_,parseAll_apostropheSource,eq_feed_of_filter rfl,read_apostropheSource,by decide,?_,
    commented_bareFile none⟩
  rw [lexedComment_apostropheSource]
  rfl

end SchemaCodec
