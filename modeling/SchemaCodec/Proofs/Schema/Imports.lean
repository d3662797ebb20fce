import SchemaCodec.Proofs.Schema.Declarations
import SchemaCodec.Proofs.Text.Utf8
import SchemaCodec.Schema.Load

/-! # How many imports a file can have

The imports of a file are determined by its content. Each is written in a statement, each statement
has a token, and each token takes up a character, so there are no more imports than bytes.
-/
namespace SchemaCodec
open Grammar Grammar.Derivation Text

/-! ## From bytes to characters -/

theorem length_fileText?_le {content : List UInt8} {text : List Char}
    (h : fileText? content = some text) : text.length ≤ content.length := by
  obtain ⟨s,hs,rfl⟩ := Option.map_eq_some_iff.mp h
  exact (length_unifyLineEnds_le _).trans (length_le_of_decodeUtf8? hs)

theorem fileText?_encodeUtf8 {s : String} (h : '\r' ∉ s.toList) :
    fileText? (encodeUtf8 s) = some s.toList := by
  rw [fileText?,decodeUtf8?_encodeUtf8,Option.map_some,unifyLineEnds_of_not_mem h]

/-! ## From characters to imports -/

theorem Grammar.Woven.length_le {text : List Char} {ls : List Lexeme} (h : Woven text ls)
    (hls : ∀ l ∈ ls, l.Spelled) : ls.length ≤ text.length := by
  induction h with
  | done => exact Nat.le_refl 0
  | ignored _ _ ih =>
    rw [List.length_append]
    exact (ih hls).trans (Nat.le_add_left _ _)
  | @lexeme l rest ls _ ih =>
    obtain ⟨hl,hmore⟩ := List.forall_mem_cons.mp hls
    obtain ⟨a,more,hs,-⟩ := exists_opens_of_spells hl
    have hrest := ih hmore
    rw [hs]
    simp only [List.length_cons,List.length_append]
    omega

theorem length_yield_statement_pos (s : Statement) : 0 < s.derivation.yield.length := by
  cases s <;> simp [Statement.derivation,Setting.alone,EnumTree.derivation,block,emptyDerivation]

theorem length_le_yields (statements : List Statement) :
    statements.length ≤ (yields (statements.map Statement.derivation)).length := by
  induction statements with
  | nil => exact Nat.le_refl 0
  | cons s rest ih =>
    have hs := length_yield_statement_pos s
    simp only [List.map_cons,yields_cons,List.length_append,List.length_cons]
    omega

theorem length_le_of_read {text : List Char} {statements : List Statement}
    (h : read text = .ok statements) : statements.length ≤ text.length := by
  obtain ⟨hwoven,hspelled,hderives⟩ := derives_of_read h
  have hyield : yields (statements.map Statement.derivation) = lexemes text := by
    rw [← hderives.yield,fileDerivation,yield_node]
  have hle := length_le_yields statements
  rw [hyield] at hle
  exact hle.trans (hwoven.length_le hspelled)

theorem length_imports_add {c next : Draft.Contents} {s : Statement} (h : c.add s = some next) :
    next.imports.length ≤ c.imports.length + 1 := by
  cases Draft.Contents.adds_of_add h with
  | imports => simp
  | syntaxIs | package | option | message | enum | empty => exact Nat.le_succ _

theorem length_imports_foldlM {statements : List Statement} {c last : Draft.Contents}
    (h : statements.foldlM Draft.Contents.add c = some last) :
    last.imports.length ≤ c.imports.length + statements.length := by
  rw [foldlM_eq_some_iff] at h
  induction h with
  | nil => exact Nat.le_refl _
  | cons hnext _ ih =>
    have hstep := length_imports_add hnext
    simp only [List.length_cons]
    omega

/-- The imports that are written in a text, as far as it has a draft. -/
def writtenImports (text : List Char) : List String :=
  match read text with
  | .ok statements => ((statements.foldlM Draft.Contents.add {}).map (·.imports)).getD []
  | .error _ => []

theorem imports_draftOf {path : String} {text : List Char} {draft : FileDraft}
    (h : draftOf path text = .ok draft) : draft.imports = writtenImports text := by
  obtain ⟨statements,hread,h⟩ := draftOf_eq_ok h
  obtain ⟨c,package,hc,-,rfl⟩ := ofStatements_eq_ok h
  simp [writtenImports,hread,hc]

theorem length_writtenImports_le (text : List Char) :
    (writtenImports text).length ≤ text.length := by
  unfold writtenImports
  split
  · rename_i statements hread
    cases hc : statements.foldlM Draft.Contents.add {} with
    | none => exact Nat.zero_le _
    | some c =>
      have hle := length_imports_foldlM hc
      rw [List.length_nil,Nat.zero_add] at hle
      exact hle.trans (length_le_of_read hread)
  · exact Nat.zero_le _

end SchemaCodec
