import SchemaCodec.Proofs.Dependency.Cycle
import SchemaCodec.Proofs.Dependency.Order
import SchemaCodec.Proofs.Schema.Index
import SchemaCodec.Rendering.Source

/-! # Plans and inline cycles

A file has an emission plan exactly when none of its messages contains itself inline, directly or
through other messages of the file. Otherwise the error lists the classes of messages that contain
each other, each class once and in declaration order.
-/
namespace SchemaCodec
open Dependency Text

/-- A message of the file has a singular field that refers to a type the file declares. -/
def SchemaFile.InlineEdge (file : SchemaFile) (a b : String) : Prop :=
  ∃ m f, .message m ∈ file.declarations ∧ m.fullName = a ∧ f ∈ m.fields ∧
    f.cardinality = .singular ∧ b ∈ f.references ∧ b ∈ file.declaredNames

/-- A nonempty path of inline references within a file. -/
abbrev SchemaFile.ContainsInline (file : SchemaFile) : String → String → Prop :=
  Relation.TransGen file.InlineEdge

theorem SchemaFile.mem_references {file : SchemaFile} {r : Reference} :
    r ∈ file.references ↔ ∃ m f, .message m ∈ file.declarations ∧ m.fullName = r.owner ∧
      f ∈ m.fields ∧ r.target ∈ f.references ∧ r.field = f := by
  constructor
  · intro h
    obtain ⟨d,hd,hr⟩ := List.mem_flatMap.mp h
    cases d with
    | enum _ => simp at hr
    | message m =>
      obtain ⟨f,hf,hr⟩ := List.mem_flatMap.mp hr
      obtain ⟨t,ht,rfl⟩ := List.mem_map.mp hr
      exact ⟨m,f,hd,rfl,hf,ht,rfl⟩
  · rintro ⟨m,f,hm,ho,hf,ht,hrf⟩
    refine List.mem_flatMap.mpr ⟨.message m,hm,List.mem_flatMap.mpr ⟨f,hf,?_⟩⟩
    refine List.mem_map.mpr ⟨r.target,ht,?_⟩
    rw [ho,← hrf]

section Position
variable {names : List String} (hn : names.Nodup)
include hn

theorem lastPosition_getElem {i : ℕ} (hi : i < names.length) :
    lastPosition names names[i] = some (i : Int) := by
  have hlast : names.length - 1 - i < names.reverse.length := by
    rw [List.length_reverse]
    omega
  have hrev : names[i] = names.reverse[names.length - 1 - i] := by
    rw [List.getElem_reverse]
    congr 1
    omega
  have hidx : names.reverse.idxOf names[i] = names.length - 1 - i := by
    rw [hrev]
    exact (List.nodup_reverse.mpr hn).idxOf_getElem _ _
  have hback : names.length - 1 - (names.length - 1 - i) = i := by omega
  rw [lastPosition,if_pos (List.getElem_mem hi),hidx,hback]
  rfl

/-- Names taken from a list are put back into the order of the list. -/
theorem byPosition_eq_filter {selected : List String} (hs : selected.Nodup)
    (hsub : ∀ x ∈ selected, x ∈ names) :
    byPosition names selected = names.filter (· ∈ selected) := by
  let place : String → Int := fun x => (lastPosition names x).getD 0
  have hplace : ∀ i (hi : i < names.length), place names[i] = i := by
    intro i hi
    simp [place,lastPosition_getElem hn hi]
  have hsorted : (byPosition names selected).Pairwise fun a b => place a ≤ place b := by
    have h : (byPosition names selected).Pairwise fun a b => decide (place a ≤ place b) = true :=
      List.pairwise_mergeSort
      (by simp only [decide_eq_true_eq]; exact fun _ _ _ => le_trans)
      (by simp only [Bool.or_eq_true,decide_eq_true_eq]; exact fun a b => le_total _ _) selected
    exact h.imp of_decide_eq_true
  have hnames : names.Pairwise fun a b => place a ≤ place b := by
    refine List.pairwise_iff_getElem.mpr fun i j hi hj hij => ?_
    rw [hplace i hi,hplace j hj]
    exact_mod_cast hij.le
  have hperm : (byPosition names selected).Perm (names.filter (· ∈ selected)) := by
    refine (List.mergeSort_perm _ _).trans ?_
    refine (List.perm_ext_iff_of_nodup hs (hn.filter _)).mpr fun x => ?_
    simpa using fun hx => hsub x hx
  refine List.Perm.eq_of_pairwise ?_ hsorted (hnames.filter _) hperm
  intro a b ha hb hab hba
  have hmem : a ∈ names := hsub a ((List.mergeSort_perm _ _).mem_iff.mp ha)
  obtain ⟨i,hi,rfl⟩ := List.getElem_of_mem hmem
  obtain ⟨j,hj,rfl⟩ := List.getElem_of_mem (List.mem_filter.mp hb).1
  rw [hplace i hi,hplace j hj] at hab hba
  have hij : i = j := by omega
  subst hij
  rfl

end Position

namespace SchemaFile
variable {file : SchemaFile} {index : TypeIndex}

theorem typeNames_eq (hn : file.declaredNames.Nodup) : file.typeNames = file.declaredNames :=
  eraseDups_of_nodup hn

theorem nodes_inlineGraph (index : TypeIndex) (hn : file.declaredNames.Nodup) :
    (file.inlineGraph index).nodes = file.declaredNames := by
  simp [inlineGraph,Graph.nodes,typeNames_eq hn,Function.comp_def]

theorem unresolved?_eq_none (h : ∀ r ∈ file.references, index.contains r.target = true) :
    file.unresolved? index = none := by
  refine List.find?_eq_none.mpr fun r hr => ?_
  simp [h r hr]

/-- The graph that is ordered has the inline references within the file as its edges. -/
theorem edge_inlineGraph_iff (hn : file.declaredNames.Nodup)
    (hlocal : ∀ r ∈ file.references,
      index.isForeign file.path r.target = false ↔ r.target ∈ file.declaredNames)
    {a b : String} : (file.inlineGraph index).Edge a b ↔ file.InlineEdge a b := by
  have hnodes := nodes_inlineGraph index hn
  have hsucc : ∀ a ∈ file.declaredNames, ∀ b, b ∈ (file.inlineGraph index).successors a ↔
      ∃ r ∈ file.references, r.owner = a ∧ r.field.cardinality = .singular ∧
        r.target ∈ file.declaredNames ∧ r.target = b := by
    intro a ha b
    have hpair : (a,((file.references.filter fun r => r.owner == a && r.field.isInline &&
        !index.isForeign file.path r.target).map (·.target)).eraseDups) ∈
        file.inlineGraph index := by
      refine List.mem_map.mpr ⟨a,?_,rfl⟩
      rwa [typeNames_eq hn]
    rw [Graph.successors_eq (hnodes ▸ hn) hpair]
    simp only [List.mem_eraseDups,List.mem_map,List.mem_filter,Bool.and_eq_true,beq_iff_eq,
      Field.isInline,Bool.not_eq_true']
    constructor
    · rintro ⟨r,⟨hr,⟨ho,hs⟩,hf⟩,ht⟩
      exact ⟨r,hr,ho,hs,(hlocal r hr).mp hf,ht⟩
    · rintro ⟨r,hr,ho,hs,hd,ht⟩
      exact ⟨r,⟨hr,⟨ho,hs⟩,(hlocal r hr).mpr hd⟩,ht⟩
  constructor
  · intro h
    have ha : a ∈ file.declaredNames := hnodes ▸ Graph.mem_nodes_of_edge h
    obtain ⟨r,hr,rfl,hs,hd,rfl⟩ := (hsucc a ha b).mp h
    obtain ⟨m,f,hm,ho,hf,ht,rfl⟩ := mem_references.mp hr
    exact ⟨m,r.field,hm,ho,hf,hs,ht,hd⟩
  · rintro ⟨m,f,hm,rfl,hf,hs,ht,hd⟩
    have ha : m.fullName ∈ file.declaredNames := List.mem_map_of_mem (f := Declaration.fullName) hm
    refine (hsucc _ ha b).mpr ⟨⟨m.fullName,f,b⟩,?_,rfl,hs,hd,rfl⟩
    exact mem_references.mpr ⟨m,f,hm,rfl,hf,ht,rfl⟩

theorem leads_inlineGraph (hn : file.declaredNames.Nodup)
    (hlocal : ∀ r ∈ file.references,
      index.isForeign file.path r.target = false ↔ r.target ∈ file.declaredNames) :
    (file.inlineGraph index).Leads = file.ContainsInline := by
  have hedge : (file.inlineGraph index).Edge = file.InlineEdge :=
    funext fun a => funext fun b => propext (edge_inlineGraph_iff hn hlocal)
  rw [Graph.Leads,ContainsInline,hedge]

theorem inlineGraph_complete (hn : file.declaredNames.Nodup)
    (hlocal : ∀ r ∈ file.references,
      index.isForeign file.path r.target = false ↔ r.target ∈ file.declaredNames) :
    (file.inlineGraph index).Complete := by
  intro p hp d hd
  have hnodes := nodes_inlineGraph index hn
  have hedge : (file.inlineGraph index).Edge p.1 d := by
    rw [Graph.Edge,Graph.successors_eq (hnodes ▸ hn) hp]
    exact hd
  obtain ⟨-,-,-,-,-,-,-,hmem⟩ := (edge_inlineGraph_iff hn hlocal).mp hedge
  rwa [hnodes]

/-- Planning a file whose references are all known: the plan is the order of all names, or else the
error lists the cycles among the names left out. -/
theorem plan_eq (hn : file.declaredNames.Nodup)
    (hlocal : ∀ r ∈ file.references,
      index.isForeign file.path r.target = false ↔ r.target ∈ file.declaredNames)
    (hknown : ∀ r ∈ file.references, index.contains r.target = true) :
    ∃ order, (file.inlineGraph index).Ordering order ∧
      file.plan index =
        if order.length = (file.inlineGraph index).length then .ok ⟨order,file.imports index⟩
        else
          let found := (cycles (file.inlineGraph index)
            (file.declaredNames.filter fun n => !decide (n ∈ order))).map
              (byPosition file.declaredNames)
          .error (.inlineCycles file.path found (byPosition file.declaredNames found.flatten)) := by
  have hnodes := nodes_inlineGraph index hn
  have hpos : ∀ x ∈ (file.inlineGraph index).nodes,
      lastPosition file.declaredNames x ≠ none := by
    intro x hx
    rw [hnodes] at hx
    simp [lastPosition,hx]
  obtain ⟨order,he,ho⟩ := Graph.emissionOrder_eq_ok (inlineGraph_complete hn hlocal)
    (hnodes ▸ hn) hpos
  refine ⟨order,ho,?_⟩
  rw [plan,unresolved?_eq_none hknown]
  simp only [he,hnodes]

end SchemaFile

/-- Groups that list the cycles of a relation between names, each in the order of the names. -/
structure ListsCycles (leads : String → String → Prop) (names : List String)
    (groups : List (List String)) : Prop extends CycleGroups leads groups where
  in_order : ∀ g ∈ groups, g.Sublist names

/-- The names on cycles among `names`, each once and in their order. -/
structure ListsMembers (leads : String → String → Prop) (names members : List String) : Prop where
  in_order : members.Sublist names
  mem_iff : ∀ a, a ∈ members ↔ leads a a

section Listing
variable {leads : String → String → Prop} {names : List String} {groups : List (List String)}

theorem mem_byPosition {selected : List String} {x : String} :
    x ∈ byPosition names selected ↔ x ∈ selected :=
  (List.mergeSort_perm selected _).mem_iff

theorem Dependency.CycleGroups.map_byPosition (h : CycleGroups leads groups) :
    CycleGroups leads (groups.map (byPosition names)) where
  component := by
    intro g' hg'
    obtain ⟨g,hg,rfl⟩ := List.mem_map.mp hg'
    obtain ⟨a,haa,ha⟩ := h.component g hg
    exact ⟨a,haa,fun b => mem_byPosition.trans (ha b)⟩
  covered := by
    intro a ha
    obtain ⟨g,hg,hag⟩ := h.covered a ha
    exact ⟨_,List.mem_map_of_mem hg,mem_byPosition.mpr hag⟩
  disjoint := List.pairwise_map.mpr (h.disjoint.imp fun hd _ hx hx' =>
    hd (mem_byPosition.mp hx) (mem_byPosition.mp hx'))

variable (hn : names.Nodup)
include hn

theorem Dependency.CycleGroups.listsCycles (h : CycleGroups leads groups) (hnodup : ∀ g ∈ groups, g.Nodup)
    (hsub : ∀ g ∈ groups, ∀ x ∈ g, x ∈ names) :
    ListsCycles leads names (groups.map (byPosition names)) := by
  refine ⟨h.map_byPosition,fun g' hg' => ?_⟩
  obtain ⟨g,hg,rfl⟩ := List.mem_map.mp hg'
  rw [byPosition_eq_filter hn (hnodup g hg) (hsub g hg)]
  exact List.filter_sublist

/-- All members of the groups together are the names on cycles. -/
theorem ListsCycles.listsMembers (h : ListsCycles leads names groups)
    (htrans : ∀ {a b c}, leads a b → leads b c → leads a c) :
    ListsMembers leads names (byPosition names groups.flatten) := by
  have hnodup : groups.flatten.Nodup :=
    List.nodup_flatten.mpr ⟨fun g hg => hn.sublist (h.in_order g hg),h.disjoint⟩
  have hsub : ∀ x ∈ groups.flatten, x ∈ names := by
    intro x hx
    obtain ⟨g,hg,hxg⟩ := List.mem_flatten.mp hx
    exact (h.in_order g hg).subset hxg
  refine ⟨?_,fun a => mem_byPosition.trans (h.mem_flatten htrans)⟩
  rw [byPosition_eq_filter hn hnodup hsub]
  exact List.filter_sublist

end Listing

namespace SchemaFile
variable {file : SchemaFile} {index : TypeIndex}

/-- Where some message contains itself, the error lists exactly the cycles. -/
theorem plan_eq_inlineCycles (hn : file.declaredNames.Nodup)
    (hlocal : ∀ r ∈ file.references,
      index.isForeign file.path r.target = false ↔ r.target ∈ file.declaredNames)
    (hknown : ∀ r ∈ file.references, index.contains r.target = true)
    (hcyclic : ∃ a, file.ContainsInline a a) :
    ∃ groups members, file.plan index = .error (.inlineCycles file.path groups members) ∧
      ListsCycles file.ContainsInline file.declaredNames groups ∧
      ListsMembers file.ContainsInline file.declaredNames members := by
  obtain ⟨order,ho,hplan⟩ := plan_eq hn hlocal hknown
  have hnodes := nodes_inlineGraph index hn
  have hclosed := (inlineGraph_complete hn hlocal).closed
  have hleads := leads_inlineGraph hn hlocal
  have hlength : ¬ order.length = (file.inlineGraph index).length := by
    rw [ho.length_eq_iff hclosed (hnodes ▸ hn),hleads]
    push Not
    exact hcyclic
  have hsub : ∀ a, (file.inlineGraph index).Leads a a → a ∈ file.declaredNames :=
    fun a ha => hnodes ▸ Graph.mem_nodes_of_leads ha
  -- names on cycles are never placed, so the search among the names left out finds all of them
  have hraw : CycleGroups file.ContainsInline (cycles (file.inlineGraph index)
      (file.declaredNames.filter fun n => !decide (n ∈ order))) := by
    rw [← hleads]
    refine cycles_cycleGroups fun a ha => List.mem_filter.mpr ⟨hsub a ha,?_⟩
    simpa using fun hao => ho.not_leads_self hao ha
  have hgroups := hraw.listsCycles hn (grouped_cycles _ _).nodup fun g hg x hx => by
      refine hsub x (hleads ▸ ?_)
      exact (hraw.mem_flatten .trans).mp (List.mem_flatten.mpr ⟨g,hg,hx⟩)
  exact ⟨_,_,hplan.trans (if_neg hlength),hgroups,hgroups.listsMembers hn .trans⟩

theorem exists_plan_iff (hn : file.declaredNames.Nodup)
    (hlocal : ∀ r ∈ file.references,
      index.isForeign file.path r.target = false ↔ r.target ∈ file.declaredNames)
    (hknown : ∀ r ∈ file.references, index.contains r.target = true) :
    (∃ plan, file.plan index = .ok plan) ↔ ∀ a, ¬ file.ContainsInline a a := by
  constructor
  · rintro ⟨plan,hplan⟩ a ha
    obtain ⟨groups,members,he,-,-⟩ := plan_eq_inlineCycles hn hlocal hknown ⟨a,ha⟩
    rw [he] at hplan
    cases hplan
  · intro hacyclic
    obtain ⟨order,ho,hplan⟩ := plan_eq hn hlocal hknown
    have hlength : order.length = (file.inlineGraph index).length := by
      rw [ho.length_eq_iff (inlineGraph_complete hn hlocal).closed
        (nodes_inlineGraph index hn ▸ hn),leads_inlineGraph hn hlocal]
      exact hacyclic
    exact ⟨_,hplan.trans (if_pos hlength)⟩

end SchemaFile

/-- Inline cycles are found exactly: a file of files with distinct names and paths, whose references
are all declared, has a plan if and only if no message contains itself inline. Otherwise the schema
is refused with one group for each class of messages that contain each other. -/
theorem plan_finds_inline_cycles {files : List SchemaFile}
    (hp : (files.map (·.path)).Nodup) (hn : (files.flatMap SchemaFile.declaredNames).Nodup)
    {file : SchemaFile} (hf : file ∈ files)
    (hknown : ∀ r ∈ file.references, (TypeIndex.ofFiles files).contains r.target = true) :
    ((∃ plan, file.plan (TypeIndex.ofFiles files) = .ok plan) ↔
      ∀ a, ¬ file.ContainsInline a a) ∧
    ((∃ a, file.ContainsInline a a) → ∃ error groups members,
      file.plan (TypeIndex.ofFiles files) = .error error ∧
      (Rendering.RenderError.plan error).unsupported? =
        some ⟨file.path,"types contain each other inline ("
          ++ joinStrings "; " (groups.map (joinStrings " -> "))
          ++ "); make one of the references repeated, a map or a oneof member",members⟩ ∧
      ListsCycles file.ContainsInline file.declaredNames groups ∧
      ListsMembers file.ContainsInline file.declaredNames members) := by
  have hfile : file.declaredNames.Nodup := (List.nodup_flatMap.mp hn).1 file hf
  have hlocal : ∀ r ∈ file.references,
      (TypeIndex.ofFiles files).isForeign file.path r.target = false ↔
        r.target ∈ file.declaredNames :=
    fun r hr => TypeIndex.isForeign_eq_false_iff hn hp hf (hknown r hr)
  refine ⟨SchemaFile.exists_plan_iff hfile hlocal hknown,?_⟩
  intro hcyclic
  obtain ⟨groups,members,hplan,hgroups,hmembers⟩ :=
    SchemaFile.plan_eq_inlineCycles hfile hlocal hknown hcyclic
  exact ⟨_,groups,members,hplan,rfl,hgroups,hmembers⟩

def holding (name : String) (targets : List String) : Message :=
  ⟨name,name,targets.map fun t => ⟨t,1,.singular,⟨.message,some t⟩,none,none,none⟩,[],[],none⟩

/-- Two messages that hold each other, one behind them and one that holds itself. -/
def ringFile : SchemaFile :=
  ⟨"ring.proto","",["leaf.proto"],
    [holding "A" ["B"],holding "B" ["A"],holding "C" ["A","Leaf"],holding "D" ["D"]],[],true⟩

def leafFile : SchemaFile := ⟨"leaf.proto","",[],[holding "Leaf" []],[],true⟩

theorem ringFile_cycles_found :
    ([ringFile,leafFile].map (·.path)).Nodup ∧
    ([ringFile,leafFile].flatMap SchemaFile.declaredNames).Nodup ∧
    (∃ a, ringFile.ContainsInline a a) ∧
    ∃ error groups members, ringFile.plan (TypeIndex.ofFiles [ringFile,leafFile]) = .error error ∧
      (Rendering.RenderError.plan error).unsupported? =
        some ⟨"ring.proto","types contain each other inline ("
          ++ joinStrings "; " (groups.map (joinStrings " -> "))
          ++ "); make one of the references repeated, a map or a oneof member",members⟩ ∧
      ListsCycles ringFile.ContainsInline ["A","B","C","D"] groups ∧
      ListsMembers ringFile.ContainsInline ["A","B","C","D"] members := by
  have hp : ([ringFile,leafFile].map (·.path)).Nodup := by decide
  have hn : ([ringFile,leafFile].flatMap SchemaFile.declaredNames).Nodup := by decide
  have hcyclic : ∃ a, ringFile.ContainsInline a a := by
    refine ⟨"D",.single ⟨holding "D" ["D"],⟨"D",1,.singular,⟨.message,some "D"⟩,none,none,none⟩,
      ?_,rfl,?_,rfl,?_,?_⟩⟩
    · simp [ringFile,SchemaFile.declarations,Message.declarationsOf,Message.declarations,holding]
    · simp [holding]
    · decide
    · decide
  exact ⟨hp,hn,hcyclic,(plan_finds_inline_cycles hp hn List.mem_cons_self (by decide)).2 hcyclic⟩

end SchemaCodec
