import SchemaCodec.Proofs.Rendering.MethodBodies

/-! # Lines of documentation

The documentation of a block stands on lines of its own, and no line end of any kind is left in it.
Two sources that differ by such lines alone are the same once all documentation is left out,
whatever else is in them.
-/
namespace SchemaCodec.Rendering
open Codec Text

/-- Whether a line is documentation: behind its blanks it begins with three slashes. -/
def opensDoc (line : String) : Bool := "///".toList.isPrefixOf (unindented line)

/-- A source without the lines that are documentation. -/
def withoutDocs (source : String) : String :=
  joinStrings "\n" ((splitString '\n' source).filter fun line => !opensDoc line)

/-- A line of documentation that no line end cuts. -/
structure IsDoc (line : String) : Prop where
  opens : opensDoc line = true
  whole : ∀ c ∈ line.toList, isLineEnd c = false

/-- A line that is no documentation, and that no line feed cuts. -/
structure IsCode (line : String) : Prop where
  closed : opensDoc line = false
  whole : '\n' ∉ line.toList

/-- The lines are those of the second list with lines of documentation between them. -/
inductive Documents : List String → List String → Prop where
  | nil : Documents [] []
  | doc {line : String} {lines bare : List String} (h : IsDoc line) (rest : Documents lines bare) :
    Documents (line :: lines) bare
  | keep (line : String) {lines bare : List String} (rest : Documents lines bare) :
    Documents (line :: lines) (line :: bare)

/-! ## Lines of comments -/

section Comments

theorem trimEnd_subset (cs : List Char) : trimEnd cs ⊆ cs := by
  intro c hc
  have hmem := List.mem_reverse.mp hc
  exact List.mem_reverse.mp ((List.dropWhile_sublist isBlank).subset hmem)

theorem isLineEnd_of_mem_lines {cs line : List Char} (h : line ∈ Text.lines cs) :
    ∀ c ∈ line, isLineEnd c = false := by
  induction cs using Text.lines.induct generalizing line with
  | case1 => simp [Text.lines] at h
  | case2 rest ih =>
    rw [Text.lines] at h
    rcases List.mem_cons.mp h with rfl | h
    · simp
    · exact ih h
  | case3 c rest hpair hend ih =>
    rw [Text.lines,if_pos hend] at h
    · rcases List.mem_cons.mp h with rfl | h
      · simp
      · exact ih h
    · exact hpair
  | case4 c rest hpair hend hrest ih =>
    rw [Text.lines,if_neg hend,hrest] at h
    · simpa [List.mem_singleton.mp h] using hend
    · exact hpair
  | case5 c rest hpair hend first more hrest ih =>
    rw [Text.lines,if_neg hend,hrest] at h
    · rcases List.mem_cons.mp h with rfl | h
      · rw [List.forall_mem_cons]
        exact ⟨by simpa using hend,ih (hrest ▸ List.mem_cons_self)⟩
      · exact ih (hrest ▸ List.mem_cons_of_mem first h)
    · exact hpair

/-- Blanks are removed behind the last character that is not blank. -/
theorem trimEnd_append {c : Char} (hc : isBlank c = false) (cs ds : List Char) :
    trimEnd (cs ++ c :: ds) = cs ++ c :: trimEnd ds := by
  have hreverse : (cs ++ c :: ds).reverse = ds.reverse ++ c :: cs.reverse := by simp
  have hdrop : (c :: cs.reverse).dropWhile isBlank = c :: cs.reverse := by simp [hc]
  rw [trimEnd,trimEnd,dropBlanks,dropBlanks,hreverse,List.dropWhile_append,hdrop]
  split
  · next hempty =>
    rw [List.isEmpty_iff.mp hempty]
    simp
  · simp

theorem toList_docLine {line : String} {comment : Option String} (h : line ∈ docLines comment) :
    ∃ text ∈ Text.lines (trim (comment.getD "").toList),
      line.toList = "///".toList ++ trimEnd (' ' :: text) := by
  obtain ⟨text,htext,rfl⟩ := List.mem_map.mp h
  refine ⟨text,htext,?_⟩
  rw [String.toList_ofList]
  exact trimEnd_append (by decide) ['/','/'] (' ' :: text)

theorem head_docLine {line : String} {comment : Option String} (h : line ∈ docLines comment) :
    line.toList.head? = some '/' := by
  obtain ⟨text,-,htext⟩ := toList_docLine h
  rw [htext]
  rfl

theorem unindented_nested (level : ℕ) (text : String) :
    unindented (nested level text) = unindented text :=
  unindented_indentation level text

theorem opensDoc_nested (level : ℕ) (text : String) :
    opensDoc (nested level text) = opensDoc text := by
  rw [opensDoc,opensDoc,unindented_nested]

/-- Comments become documentation alone, whatever line ends are in them. -/
theorem isDoc_of_mem_docLines {line : String} {comment : Option String}
    (h : line ∈ docLines comment) : IsDoc line := by
  obtain ⟨text,hmem,htext⟩ := toList_docLine h
  constructor
  · rw [opensDoc,unindented_of_head (head_docLine h) (by decide),htext,List.isPrefixOf_iff_prefix]
    exact List.prefix_append _ _
  · intro c hc
    rw [htext] at hc
    rcases List.mem_append.mp hc with hc | hc
    · have hslashes : "///".toList.all (fun c => !isLineEnd c) = true := by decide
      simpa using List.all_eq_true.mp hslashes c hc
    · rcases List.mem_cons.mp (trimEnd_subset _ hc) with rfl | hc
      · decide
      · exact isLineEnd_of_mem_lines hmem c hc

theorem IsDoc.nested {line : String} (h : IsDoc line) (level : ℕ) : IsDoc (nested level line) := by
  refine ⟨(opensDoc_nested level line).trans h.opens,fun c hc => ?_⟩
  rw [Rendering.nested,String.toList_append,toList_indentation] at hc
  rcases List.mem_append.mp hc with hc | hc
  · rw [List.eq_of_mem_replicate hc]
    decide
  · exact h.whole c hc

theorem IsDoc.newline_not_mem {line : String} (h : IsDoc line) : '\n' ∉ line.toList :=
  fun hmem => absurd (h.whole _ hmem) (by decide)

end Comments

/-! ## Lines between which documentation stands -/

namespace Documents
variable {a b lines bare : List String}

theorem refl (lines : List String) : Documents lines lines := by
  induction lines with
  | nil => exact .nil
  | cons line _ ih => exact .keep line ih

theorem of_docs (h : ∀ line ∈ lines, IsDoc line) : Documents lines [] := by
  induction lines with
  | nil => exact .nil
  | cons line rest ih =>
    obtain ⟨hline,hrest⟩ := List.forall_mem_cons.mp h
    exact .doc hline (ih hrest)

theorem append (h : Documents a b) (hl : Documents lines bare) :
    Documents (a ++ lines) (b ++ bare) := by
  induction h with
  | nil => exact hl
  | doc hline _ ih => exact .doc hline ih
  | keep line _ ih => exact .keep line ih

theorem flatMap {α β : Type} {f : α → List String} {g : β → List String} {xs : List α}
    {ys : List β} (h : List.Forall₂ (fun x y => Documents (f x) (g y)) xs ys) :
    Documents (xs.flatMap f) (ys.flatMap g) := by
  induction h with
  | nil => exact .nil
  | cons hxy _ ih => exact hxy.append ih

/-- Lines of a source that are cut at line feeds differ in documentation alone. -/
theorem filter_cutLines (h : Documents lines bare) :
    (cutLines lines).filter (fun line => !opensDoc line) =
      (cutLines bare).filter fun line => !opensDoc line := by
  induction h with
  | nil => rfl
  | doc hline _ ih =>
    have hcut := cutLines_eq (List.forall_mem_singleton.mpr hline.newline_not_mem)
    rw [← List.singleton_append,cutLines,List.flatMap_append,← cutLines,← cutLines,hcut,
      List.filter_append,ih]
    simp [hline.opens]
  | keep line _ ih =>
    rw [cutLines,cutLines,List.flatMap_cons,List.flatMap_cons,← cutLines,← cutLines,
      List.filter_append,List.filter_append,ih]

theorem isDoc_or_mem (h : Documents lines bare) : ∀ line ∈ lines, IsDoc line ∨ line ∈ bare := by
  induction h with
  | nil => simp
  | doc hline _ ih => exact List.forall_mem_cons.mpr ⟨.inl hline,ih⟩
  | keep line _ ih =>
    refine List.forall_mem_cons.mpr ⟨.inr List.mem_cons_self,fun l hl => ?_⟩
    exact (ih l hl).imp_right (List.mem_cons_of_mem line)

end Documents

section Sources
variable {lines bare : List String}

theorem splitString_terminateLines (lines : List String) :
    splitString '\n' (terminateLines lines) = cutLines lines ++ [""] := by
  rw [splitString,terminateLines,String.toList_ofList]
  induction lines with
  | nil => rfl
  | cons line rest ih =>
    rw [List.flatMap_cons,List.append_assoc,List.singleton_append,split_append,List.map_append,ih,
      cutLines,cutLines,List.flatMap_cons,List.append_assoc]
    rfl

/-- Documentation does not matter where it is left out. -/
theorem Documents.withoutDocs_eq (h : Documents lines bare) :
    withoutDocs (terminateLines lines) = withoutDocs (terminateLines bare) := by
  rw [withoutDocs,withoutDocs,splitString_terminateLines,splitString_terminateLines,
    List.filter_append,List.filter_append,h.filter_cutLines]

theorem withoutDocs_code (h : ∀ line ∈ lines, IsCode line) :
    withoutDocs (terminateLines lines) = terminateLines lines := by
  have hkept : ∀ line ∈ splitString '\n' (terminateLines lines), (!opensDoc line) = true := by
    rw [splitString_terminateLines,cutLines_eq fun line hl => (h line hl).whole,
      List.forall_mem_append,List.forall_mem_singleton]
    exact ⟨fun line hl => by rw [(h line hl).closed]; rfl,by decide⟩
  rw [withoutDocs,List.filter_eq_self.mpr hkept,joinStrings_splitString (by decide)]

/-- A source that is left as it is holds no documentation. -/
theorem opensDoc_of_withoutDocs_eq {source : String} (h : withoutDocs source = source) :
    ∀ line ∈ splitString '\n' source, opensDoc line = false := by
  have hkept : (splitString '\n' source).filter (fun line => !opensDoc line) =
      splitString '\n' source := by
    by_cases hnone : (splitString '\n' source).filter (fun line => !opensDoc line) = []
    · rw [withoutDocs,hnone] at h
      rw [← h] at hnone
      exact absurd hnone (by decide)
    · have hpieces : splitString '\n' (withoutDocs source) = _ := splitString_joinStrings rfl
        (fun line hline => not_mem_of_mem_splitString (List.mem_filter.mp hline).1) hnone
      rw [h] at hpieces
      exact hpieces.symm
  intro line hline
  simpa using List.filter_eq_self.mp hkept line hline

/-- What is left out between lines of code is documentation that no line end cuts. -/
theorem Documents.isDoc_of_opensDoc (h : Documents lines bare) (hcode : ∀ line ∈ bare, IsCode line)
    {line : String} (hline : line ∈ splitString '\n' (terminateLines lines))
    (hopens : opensDoc line = true) : IsDoc line := by
  have hwhole : ∀ l ∈ lines, '\n' ∉ l.toList := fun l hl =>
    (h.isDoc_or_mem l hl).elim IsDoc.newline_not_mem fun hb => (hcode l hb).whole
  rw [splitString_terminateLines,cutLines_eq hwhole] at hline
  rcases List.mem_append.mp hline with hl | hl
  · refine (h.isDoc_or_mem line hl).resolve_right fun hb => ?_
    rw [(hcode line hb).closed] at hopens
    cases hopens
  · rw [List.mem_singleton.mp hl] at hopens
    exact absurd hopens (by decide)

end Sources
end SchemaCodec.Rendering
