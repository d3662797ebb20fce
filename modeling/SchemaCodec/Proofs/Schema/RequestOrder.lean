import Mathlib.Data.List.Induction
import Mathlib.Data.List.Nodup
import Mathlib.Logic.Relation
import SchemaCodec.Schema.Basic
import SchemaCodec.Schema.Draft

/-! # The order in which files are first asked for

Files are put in a row behind some names that start it: each file is the first that these names and
then the files before it ask for and that is not before it. Where nothing more is asked for, the
files are all that is reached from the names at the start, each once.
-/
namespace SchemaCodec

/-- The path of a file with the paths that it asks for. -/
abbrev Link := String × List String

def SchemaFile.link (f : SchemaFile) : Link := (f.path,f.dependencies)

def FileDraft.link (d : FileDraft) : Link := (d.path,d.imports)

theorem SchemaFile.map_fst_link (files : List SchemaFile) :
    (files.map SchemaFile.link).map (·.1) = files.map (·.path) := by
  rw [List.map_map]
  rfl

theorem FileDraft.map_fst_link (drafts : List FileDraft) :
    (drafts.map FileDraft.link).map (·.1) = drafts.map (·.path) := by
  rw [List.map_map]
  rfl

/-- All that is asked for, by a start and then by files in their order. -/
def askedFor (start : List String) (links : List Link) : List String :=
  start ++ links.flatMap (·.2)

/-- The first name that is asked for and is none of the files. -/
def nextName? (start : List String) (links : List Link) : Option String :=
  (askedFor start links).find? fun name => name ∉ links.map (·.1)

/-- Each file is the next after those before it. -/
def InRequestOrder (start : List String) (links : List Link) : Prop :=
  ∀ before l after, links = before ++ l :: after → nextName? start before = some l.1

/-- One of the files asks for a name. -/
def AsksFor (links : List Link) (path name : String) : Prop :=
  ∃ l ∈ links, l.1 = path ∧ name ∈ l.2

variable {start : List String} {links : List Link} {l : Link}

theorem nextName?_eq_some {name : String} (h : nextName? start links = some name) :
    name ∈ askedFor start links ∧ name ∉ links.map (·.1) := by
  have hnew := List.find?_some h
  exact ⟨List.mem_of_find?_eq_some h,of_decide_eq_true hnew⟩

/-- Where no name is next, all that is asked for is there. -/
theorem nextName?_eq_none_iff :
    nextName? start links = none ↔ askedFor start links ⊆ links.map (·.1) := by
  rw [nextName?,List.find?_eq_none]
  exact forall₂_congr fun name _ => by rw [decide_eq_true_eq,not_not]

theorem inRequestOrder_nil : InRequestOrder start [] := by
  intro before l after h
  cases before <;> cases h

theorem inRequestOrder_concat_iff : InRequestOrder start (links ++ [l]) ↔
    InRequestOrder start links ∧ nextName? start links = some l.1 := by
  constructor
  · refine fun h => ⟨fun before l' after he => ?_,h links l [] rfl⟩
    exact h before l' (after ++ [l]) (by rw [he,List.append_assoc,List.cons_append])
  · rintro ⟨h,hnext⟩ before l' after he
    rcases List.eq_nil_or_concat' after with rfl | ⟨after,l'',rfl⟩
    · obtain ⟨rfl,hl⟩ := List.append_inj' he rfl
      rwa [← (List.cons.inj hl).1]
    · rw [← List.cons_append,← List.append_assoc] at he
      exact h before l' after (List.append_inj' he rfl).1

theorem InRequestOrder.nodup (h : InRequestOrder start links) : (links.map (·.1)).Nodup := by
  induction links using List.reverseRecOn with
  | nil => exact List.nodup_nil
  | append_singleton links l ih =>
    obtain ⟨hlinks,hnext⟩ := inRequestOrder_concat_iff.mp h
    rw [List.map_append]
    refine List.nodup_append.mpr ⟨ih hlinks,List.nodup_singleton _,?_⟩
    rintro name hname _ hlast rfl
    have hpath : name = l.1 := List.mem_singleton.mp hlast
    exact (nextName?_eq_some hnext).2 (hpath ▸ hname)

theorem AsksFor.mono {more : List Link} (hsub : links ⊆ more) {path name : String}
    (h : AsksFor links path name) : AsksFor more path name := by
  obtain ⟨l,hl,hpath,hname⟩ := h
  exact ⟨l,hsub hl,hpath,hname⟩

/-- Files in the order of first request are reached from the start. -/
theorem InRequestOrder.reached (h : InRequestOrder start links) (hl : l ∈ links) :
    ∃ name ∈ start, Relation.ReflTransGen (AsksFor links) name l.1 := by
  induction links using List.reverseRecOn generalizing l with
  | nil => cases hl
  | append_singleton links last ih =>
    obtain ⟨hlinks,hnext⟩ := inRequestOrder_concat_iff.mp h
    have hsub : links ⊆ links ++ [last] := List.subset_append_left _ _
    have hbefore {l' : Link} (hl' : l' ∈ links) :
        ∃ name ∈ start, Relation.ReflTransGen (AsksFor (links ++ [last])) name l'.1 := by
      obtain ⟨name,hname,hreach⟩ := ih hlinks hl'
      exact ⟨name,hname,Relation.ReflTransGen.mono (fun _ _ => AsksFor.mono hsub) _ _ hreach⟩
    rcases List.mem_append.mp hl with hl | hl
    · exact hbefore hl
    · rw [List.mem_singleton.mp hl]
      rcases List.mem_append.mp (nextName?_eq_some hnext).1 with hmem | hmem
      · exact ⟨_,hmem,.refl⟩
      · obtain ⟨asker,hasker,hname⟩ := List.mem_flatMap.mp hmem
        obtain ⟨name,hstart,hreach⟩ := hbefore hasker
        exact ⟨name,hstart,hreach.tail ⟨asker,hsub hasker,rfl,hname⟩⟩

end SchemaCodec
