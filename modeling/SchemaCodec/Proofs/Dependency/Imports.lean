import SchemaCodec.Proofs.Generation
import SchemaCodec.Proofs.Rendering.ScopeNames

/-! # What a file imports

A file imports the types of other files that the fields of its messages refer to, each once and in
the order of files and names. Its plan lists these imports beside its own declarations, of which
each has one place in the order.
-/
namespace SchemaCodec
open Dependency

/-- The key or the value of the field is of the type with this name. -/
def Field.RefersTo (f : Field) (name : String) : Prop :=
  ∃ v, (f.key = some v ∨ f.value = v) ∧ v.type.isNamed = true ∧ v.typeName = some name ∧ name ≠ ""

theorem Field.mem_references_iff {f : Field} {name : String} :
    name ∈ f.references ↔ f.RefersTo name := by
  simp only [references,RefersTo,List.mem_filterMap,List.mem_append,Option.mem_toList,
    List.mem_singleton,Option.ite_none_right_eq_some,nonempty?_eq_some,eq_comm (a := f.value)]

/-- Some field of a message of the file refers to the type with this name. -/
def SchemaFile.RefersTo (file : SchemaFile) (name : String) : Prop :=
  ∃ m, .message m ∈ file.declarations ∧ ∃ f ∈ m.fields, f.RefersTo name

theorem SchemaFile.exists_reference_iff {file : SchemaFile} {name : String} :
    (∃ r ∈ file.references, r.target = name) ↔ file.RefersTo name := by
  constructor
  · rintro ⟨r,hr,rfl⟩
    obtain ⟨m,f,hm,-,hf,ht,-⟩ := mem_references.mp hr
    exact ⟨m,hm,f,hf,Field.mem_references_iff.mp ht⟩
  · rintro ⟨m,hm,f,hf,ht⟩
    exact ⟨⟨m.fullName,f,name⟩,
      mem_references.mpr ⟨m,f,hm,rfl,hf,Field.mem_references_iff.mpr ht,rfl⟩,rfl⟩

/-! ## Order of imports -/

/-- An import stands before another one: by its file, then by its name. -/
def ImportRef.Precedes (a b : ImportRef) : Prop :=
  a.source < b.source ∨ a.source = b.source ∧ a.fullName < b.fullName

theorem ImportRef.before_iff {a b : ImportRef} : a.before b = true ↔
    a.source < b.source ∨ a.source = b.source ∧ ¬ b.fullName < a.fullName := by
  simp only [before,Bool.or_eq_true,Bool.and_eq_true,decide_eq_true_eq,beq_iff_eq,
    Bool.not_eq_true',decide_eq_false_iff_not]

theorem ImportRef.before_trans {a b c : ImportRef} (hab : a.before b = true)
    (hbc : b.before c = true) : a.before c = true := by
  rw [before_iff] at *
  rcases hab with hab | ⟨hab,hab'⟩
  · rcases hbc with hbc | ⟨hbc,-⟩
    · exact .inl (String.lt_trans hab hbc)
    · exact .inl (hbc ▸ hab)
  · rcases hbc with hbc | ⟨hbc,hbc'⟩
    · exact .inl (hab ▸ hbc)
    · rw [String.not_lt] at hab' hbc'
      exact .inr ⟨hab.trans hbc,String.not_lt.mpr (String.le_trans hab' hbc')⟩

theorem ImportRef.before_total (a b : ImportRef) : (a.before b || b.before a) = true := by
  simp only [Bool.or_eq_true,before_iff,String.not_lt]
  by_cases hab : a.source < b.source
  · exact .inl (.inl hab)
  · by_cases hba : b.source < a.source
    · exact .inr (.inl hba)
    · have hsame : a.source = b.source :=
        String.le_antisymm (String.not_lt.mp hba) (String.not_lt.mp hab)
      exact (String.le_total a.fullName b.fullName).imp (.inr ⟨hsame,·⟩) (.inr ⟨hsame.symm,·⟩)

theorem pairwise_imports (file : SchemaFile) (index : TypeIndex) :
    (file.imports index).Pairwise ImportRef.Precedes := by
  have hsorted : (file.imports index).Pairwise fun a b => a.before b = true := by
    rw [SchemaFile.imports]
    exact @List.pairwise_mergeSort _ ImportRef.before (fun _ _ _ => ImportRef.before_trans)
      ImportRef.before_total _
  have hdistinct := List.pairwise_map.mp (nodup_imports file index)
  refine (hsorted.and hdistinct).imp fun {a b} h => ?_
  rcases ImportRef.before_iff.mp h.1 with hsource | ⟨hsource,hname⟩
  · exact .inl hsource
  · refine .inr ⟨hsource,?_⟩
    by_contra hle
    exact h.2 (String.le_antisymm (String.not_lt.mp hname) (String.not_lt.mp hle))

theorem ImportRef.Precedes.ne {a b : ImportRef} (h : a.Precedes b) : a ≠ b := by
  rintro rfl
  rcases h with h | ⟨-,h⟩
  · exact String.lt_irrefl _ h
  · exact String.lt_irrefl _ h

section Files
variable {files : List SchemaFile} (hn : (files.flatMap SchemaFile.declaredNames).Nodup)
  {file : SchemaFile}

/-- The import of a declaration of a file. -/
def importFrom (g : SchemaFile) (d : Declaration) : ImportRef :=
  ⟨g.path,d.fullName,g.modulePath ++ "::" ++ typeIdentifier d.fullName g.package⟩

theorem lastSegment_importFrom (g : SchemaFile) (d : Declaration) :
    lastSegment (importFrom g d).rustPath = typeIdentifier d.fullName g.package :=
  lastSegment_append fun hc => (isNameChar_typeIdentifier ':' hc).2 rfl

include hn in
/-- A file imports a declaration of another file if a field of one of its messages refers to it. -/
theorem mem_imports_iff_refersTo {ref : ImportRef} :
    ref ∈ file.imports (TypeIndex.ofFiles files) ↔ ∃ g ∈ files, g.path ≠ file.path ∧
      ∃ d ∈ g.declarations, file.RefersTo d.fullName ∧ ref = importFrom g d := by
  simp only [SchemaFile.imports,(List.mergeSort_perm _ _).mem_iff,List.mem_filterMap,
    List.mem_eraseDups,List.mem_filter,List.mem_map,SchemaFile.exists_reference_iff]
  constructor
  · rintro ⟨name,⟨hrefers,hforeign⟩,href⟩
    obtain ⟨e,he,rfl⟩ := Option.map_eq_some_iff.mp href
    obtain ⟨hname,g,hg,d,hd,rfl⟩ := TypeIndex.exists_of_find? he
    obtain rfl : d.fullName = name := hname
    refine ⟨g,hg,?_,d,hd,hrefers,rfl⟩
    rw [TypeIndex.isForeign,he] at hforeign
    simpa [TypeIndex.entryOf] using hforeign
  · rintro ⟨g,hg,hpath,d,hd,hrefers,rfl⟩
    have hfind := TypeIndex.find?_ofFiles hn hg hd
    refine ⟨d.fullName,⟨hrefers,?_⟩,by rw [hfind]; rfl⟩
    rw [TypeIndex.isForeign,hfind]
    simpa [TypeIndex.entryOf] using hpath

end Files
end SchemaCodec
