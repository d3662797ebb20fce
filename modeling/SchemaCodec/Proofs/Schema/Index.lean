import Mathlib.Data.List.Nodup
import SchemaCodec.Dependency.Plan

/-! # Looking up declared types

An index holds nothing but declarations of its files, under each name the last one. Where no full
name is declared twice, it holds every declaration, under its own name and with its own file.
-/
namespace SchemaCodec
namespace TypeIndex

def entriesOf (files : List SchemaFile) : List TypeEntry :=
  files.flatMap fun f => f.declarations.map (entryOf f)

theorem mem_entriesOf {files : List SchemaFile} {e : TypeEntry} :
    e ∈ entriesOf files ↔ ∃ f ∈ files, ∃ d ∈ f.declarations, entryOf f d = e := by
  simp [entriesOf]

theorem map_fullName_entriesOf (files : List SchemaFile) :
    (entriesOf files).map (·.fullName) = files.flatMap SchemaFile.declaredNames := by
  rw [entriesOf,List.map_flatMap]
  refine List.flatMap_congr fun f _ => ?_
  simp [SchemaFile.declaredNames,entryOf]

/-- An entry that is put in is found under its name, and nothing else changes. -/
theorem find?_insert (index : TypeIndex) (entry : TypeEntry) (name : String) :
    (index.insert entry).find? name =
      if entry.fullName = name then some entry else index.find? name := by
  unfold insert
  by_cases hc : index.contains entry.fullName = true
  · rw [if_pos hc]
    -- the entries keep their names, so the same place is found before and after
    have hplace : (fun e : TypeEntry => (if e.fullName = entry.fullName then entry else e).fullName
        == name) = fun e => e.fullName == name := by
      funext e
      by_cases he : e.fullName = entry.fullName <;> simp [he]
    have hmap : (TypeIndex.mk (index.entries.map fun e =>
        if e.fullName = entry.fullName then entry else e)).find? name =
        (index.find? name).map fun e => if e.fullName = entry.fullName then entry else e := by
      rw [find?,List.find?_map,Function.comp_def,hplace]
      rfl
    rw [hmap]
    by_cases hn : entry.fullName = name
    · subst hn
      obtain ⟨e,he⟩ := Option.isSome_iff_exists.mp hc
      have hname : e.fullName = entry.fullName := by simpa using List.find?_some he
      simp [he,hname]
    · rw [if_neg hn]
      cases he : index.find? name with
      | none => rfl
      | some e =>
        have hname : e.fullName = name := by simpa using List.find?_some he
        have hne : e.fullName ≠ entry.fullName := fun h => hn (h.symm.trans hname)
        simp [hne]
  · rw [if_neg hc,find?,List.find?_append]
    by_cases hn : entry.fullName = name
    · subst hn
      have hnone : index.find? entry.fullName = none := by simpa [contains] using hc
      rw [find?] at hnone
      simp [hnone]
    · simp [hn,find?]

theorem find?_foldl_insert (es : List TypeEntry) (index : TypeIndex) (name : String) :
    (es.foldl insert index).find? name =
      (es.reverse.find? fun e => e.fullName == name).or (index.find? name) := by
  induction es generalizing index with
  | nil => rfl
  | cons entry rest ih =>
    rw [List.foldl_cons,ih,find?_insert,List.reverse_cons,List.find?_append,Option.or_assoc]
    congr 1
    by_cases hn : entry.fullName = name <;> simp [hn]

/-- A name that comes up in several declarations stands for the last of them. -/
theorem find?_ofFiles_eq (files : List SchemaFile) (name : String) :
    (ofFiles files).find? name = (entriesOf files).reverse.find? fun e => e.fullName == name := by
  rw [ofFiles,find?_foldl_insert]
  exact Option.or_none

theorem exists_of_find? {files : List SchemaFile} {name : String} {e : TypeEntry}
    (h : (ofFiles files).find? name = some e) :
    e.fullName = name ∧ ∃ f ∈ files, ∃ d ∈ f.declarations, entryOf f d = e := by
  rw [find?_ofFiles_eq] at h
  have hmem := List.mem_reverse.mp (List.mem_of_find?_eq_some h)
  exact ⟨by simpa using List.find?_some h,mem_entriesOf.mp hmem⟩

theorem find?_ofFiles_of_unique {files : List SchemaFile} {e : TypeEntry}
    (he : e ∈ entriesOf files) (hunique : ∀ x ∈ entriesOf files, x.fullName = e.fullName → x = e) :
    (ofFiles files).find? e.fullName = some e := by
  rw [find?_ofFiles_eq]
  cases hfind : (entriesOf files).reverse.find? fun x => x.fullName == e.fullName with
  | none => simpa using List.find?_eq_none.mp hfind e (List.mem_reverse.mpr he)
  | some x =>
    have hx := List.mem_reverse.mp (List.mem_of_find?_eq_some hfind)
    rw [hunique x hx (by simpa using List.find?_some hfind)]

section Distinct
variable {files : List SchemaFile} (hn : (files.flatMap SchemaFile.declaredNames).Nodup)
include hn

/-- Among distinct names each declaration is found under its own name. -/
theorem find?_ofFiles {f : SchemaFile} (hf : f ∈ files) {d : Declaration}
    (hd : d ∈ f.declarations) : (ofFiles files).find? d.fullName = some (entryOf f d) := by
  have hmem : entryOf f d ∈ entriesOf files := mem_entriesOf.mpr ⟨f,hf,d,hd,rfl⟩
  have hinj : ((entriesOf files).map (·.fullName)).Nodup := by
    rwa [map_fullName_entriesOf]
  exact find?_ofFiles_of_unique hmem fun x hx he => List.inj_on_of_nodup_map hinj hx hmem he

/-- Among distinct names and paths a type is foreign to a file unless the file declares it. -/
theorem isForeign_eq_false_iff (hp : (files.map (·.path)).Nodup) {file : SchemaFile}
    (hf : file ∈ files) {name : String} (hc : (ofFiles files).contains name = true) :
    (ofFiles files).isForeign file.path name = false ↔ name ∈ file.declaredNames := by
  obtain ⟨e,he⟩ := Option.isSome_iff_exists.mp hc
  obtain ⟨hname,g,hg,d,hd,rfl⟩ := exists_of_find? he
  have hforeign : (ofFiles files).isForeign file.path name = (g.path != file.path) := by
    simp [isForeign,he,entryOf]
  rw [hforeign,bne_eq_false_iff_eq]
  constructor
  · intro hpath
    have hgf := List.inj_on_of_nodup_map hp hg hf hpath
    rw [← hname,← hgf]
    exact List.mem_map_of_mem hd
  · intro hmem
    obtain ⟨c,hc,hcn⟩ := List.mem_map.mp hmem
    have hfind := find?_ofFiles hn hf hc
    rw [hcn,he] at hfind
    exact congrArg (·.file.path) (Option.some.inj hfind)

end Distinct
end TypeIndex
end SchemaCodec
