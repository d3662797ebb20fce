import SchemaCodec.Proofs.Rendering.Faults

/-! # What the tables of a message can fail for

Every message of accepted sources has its table for writing. It has its table for reading too, unless
a singular field of it refers to an enum without values. No other error can come up: each field has a
kind, and the index knows each type that it names.
-/
namespace SchemaCodec
open Codec Rendering

namespace Readable
variable {files : List SchemaFile} (h : Readable files)
include h

theorem defaultText_of_empty {file : SchemaFile} (hfile : file ∈ files) {decl : EnumDecl}
    (hd : .enum decl ∈ file.declarations) (hempty : decl.values = []) :
    defaultText (TypeIndex.ofFiles files) (.enum decl.fullName) =
      .error (.enumWithoutValues decl.fullName) := by
  have hfind := TypeIndex.find?_ofFiles h.distinct hfile hd
  have hdecl : enumDeclaration (TypeIndex.ofFiles files) decl.fullName = .ok decl := by
    rw [enumDeclaration,show decl.fullName = (Declaration.enum decl).fullName from rfl,hfind]
    rfl
  refine bind_eq_error.mpr (.inr ⟨decl,hdecl,?_⟩)
  rw [hempty]

section Message
variable {file : SchemaFile} (hfile : file ∈ files) {m : Message}
  (hm : .message m ∈ file.declarations)
include hfile hm

theorem kind_of_lacksDefault {f : Field} (hf : f ∈ m.fields) (hlacks : f.LacksDefault files) :
    ∃ g ∈ files, ∃ decl, .enum decl ∈ g.declarations ∧ decl.fullName ∈ f.references ∧
      decl.values = [] ∧ f.kind = .ok (.enum decl.fullName) := by
  obtain ⟨hc,g,hg,decl,hdecl,hname,hempty⟩ := hlacks
  refine ⟨g,hg,decl,hdecl,hname,hempty,?_⟩
  obtain ⟨kind,hk,-⟩ := h.exists_fieldKind hfile hm hf
  obtain ⟨value,hvalue,hholds⟩ := Field.kind_eq_ok hk
  have hresolved := (h.sound file hfile m hm).resolved f hf
  obtain ⟨hnamed,hn⟩ := hresolved.mem_references.mp hname
  cases hholds with
  | repeated hc' | map hc' _ _ _ _ _ | member hc' _ _ => simp [hc] at hc'
  | singular _ =>
    rw [hk]
    rcases ValueType.kind_cases hvalue with ⟨t,ht,-⟩ | ⟨name,hn',⟨ht,rfl⟩ | ⟨ht,-⟩⟩
    · simp [ht,FieldType.isNamed] at hnamed
    · cases hn.symm.trans hn'
      rfl
    · -- it is declared as an enum, so it is not taken for a message
      obtain ⟨g',hg',d,hd,hfull,hsort⟩ := h.exists_declaration hfile hm hf hname
      obtain ⟨-,rfl⟩ := h.declaration_unique hg' hg hd hdecl hfull
      simp [ht,Declaration.sort,TypeSort.fieldType] at hsort

theorem bindReader_of_lacksDefault {f : Field} (hf : f ∈ m.fields)
    (hlacks : f.LacksDefault files) : ∃ name ∈ f.references,
      bindReader (TypeIndex.ofFiles files) m f = .error (.enumWithoutValues name) := by
  obtain ⟨g,hg,decl,hdecl,hname,hempty,hk⟩ := h.kind_of_lacksDefault hfile hm hf hlacks
  refine ⟨decl.fullName,hname,?_⟩
  obtain ⟨kind,hk',hnamed⟩ := h.exists_fieldKind hfile hm hf
  cases hk.symm.trans hk'
  obtain ⟨r,hr⟩ := exists_fieldReader (h.contains_declared hfile hm) hk hnamed
  have hkind : kindOf f = .ok (.enum decl.fullName) := by rw [kindOf,hk]
  have hdefault := h.defaultText_of_empty hg hdecl hempty
  refine bind_eq_error.mpr (.inr ⟨_,hkind,bind_eq_error.mpr (.inr ⟨r,hr,?_⟩)⟩)
  exact bind_eq_error.mpr (.inl hdefault)

theorem decodeTable_of_lacksDefault (hlacks : ∃ f ∈ m.fields, f.LacksDefault files) :
    ∃ f ∈ m.fields, f.LacksDefault files ∧ ∃ name ∈ f.references,
      decodeTable (TypeIndex.ofFiles files) m = .error (.enumWithoutValues name) := by
  cases ht : decodeTable (TypeIndex.ofFiles files) m with
  | ok table =>
    obtain ⟨f,hf,hlacks⟩ := hlacks
    exact absurd hlacks ((h.exists_decodeTable_iff hfile hm).mp ⟨table,ht⟩ f hf)
  | error e =>
    obtain ⟨before,f,after,hsplit,-,he⟩ := mapM_eq_error.mp ht
    have hf : f ∈ m.fields := mem_byNumber.mp (hsplit ▸ by simp)
    have hlacks : f.LacksDefault files := by
      by_contra hdefault
      obtain ⟨b,hb⟩ := (h.exists_bindReader_iff hfile hm hf).mpr hdefault
      cases hb.symm.trans he
    obtain ⟨name,hname,hbind⟩ := h.bindReader_of_lacksDefault hfile hm hf hlacks
    cases he.symm.trans hbind
    exact ⟨f,hf,hlacks,name,hname,rfl⟩

end Message
end Readable

/-- Every message of accepted sources, at every depth, has its table for writing. It has its table
for reading, or else a singular field of it refers to an enum without values, and that enum is what
the table fails for. -/
theorem tables_of_parseAll {sources : List (String × String)} {files : List SchemaFile}
    (h : parseAll sources = .ok files) {file : SchemaFile} (hfile : file ∈ files) {m : Message}
    (hm : .message m ∈ file.declarations) :
    (∃ encode, encodeTable (TypeIndex.ofFiles files) m = .ok encode) ∧
    (((∀ f ∈ m.fields, ¬ f.LacksDefault files) ∧
        ∃ decode, decodeTable (TypeIndex.ofFiles files) m = .ok decode) ∨
      ∃ f ∈ m.fields, f.LacksDefault files ∧ ∃ name ∈ f.references,
        decodeTable (TypeIndex.ofFiles files) m = .error (.enumWithoutValues name)) := by
  have hreadable := parseAll_readable h
  refine ⟨hreadable.exists_encodeTable hfile hm,?_⟩
  by_cases hlacks : ∃ f ∈ m.fields, f.LacksDefault files
  · exact .inr (hreadable.decodeTable_of_lacksDefault hfile hm hlacks)
  · have hdefaults : ∀ f ∈ m.fields, ¬ f.LacksDefault files := fun f hf hl => hlacks ⟨f,hf,hl⟩
    exact .inl ⟨hdefaults,(hreadable.exists_decodeTable_iff hfile hm).mpr hdefaults⟩

/-- A message with one value of an enum that has none fails to be read, and only for that. -/
theorem dotSources_tables : parseAll dotSources = .ok [tintFile,dotFile .singular] ∧
    ∃ m, .message m ∈ (dotFile .singular).declarations ∧
    (∃ encode, encodeTable (TypeIndex.ofFiles [tintFile,dotFile .singular]) m = .ok encode) ∧
    (((∀ f ∈ m.fields, ¬ f.LacksDefault [tintFile,dotFile .singular]) ∧
        ∃ decode, decodeTable (TypeIndex.ofFiles [tintFile,dotFile .singular]) m = .ok decode) ∨
      ∃ f ∈ m.fields, f.LacksDefault [tintFile,dotFile .singular] ∧ ∃ name ∈ f.references,
        decodeTable (TypeIndex.ofFiles [tintFile,dotFile .singular]) m =
          .error (.enumWithoutValues name)) := by
  have hm := declarations_dotFile .singular ▸ List.mem_singleton_self _
  exact ⟨parseAll_dotSources,_,hm,tables_of_parseAll parseAll_dotSources (by simp) hm⟩

end SchemaCodec
