import Mathlib.Data.Fintype.EquivFin
import Mathlib.Logic.Relation
import Mathlib.Order.WellFounded
import SchemaCodec.Dependency.Cycle
import SchemaCodec.Proofs.Distinct

/-! # What a name leads to

Dependencies join to paths. Where a list of names holds all names on cycles, the paths along these
names join the same names on cycles as all paths do.
-/
namespace SchemaCodec.Dependency

/-- On finitely many names, a relation that always goes on among them runs into a cycle. -/
theorem exists_cycle_of_forall_exists {r : String → String → Prop} {names : List String}
    (hne : names ≠ []) (h : ∀ a ∈ names, ∃ b ∈ names, r a b) :
    ∃ a ∈ names, Relation.TransGen r a a := by
  by_contra hno
  push Not at hno
  let s : {a // a ∈ names} → {a // a ∈ names} → Prop :=
    fun a b => Relation.TransGen r b.val a.val
  have htrans : IsTrans {a // a ∈ names} s := ⟨fun _ _ _ hab hbc => hbc.trans hab⟩
  have hirrefl : Std.Irrefl s := ⟨fun a ha => hno a.val a.property ha⟩
  have hwf : WellFounded s := Finite.wellFounded_of_trans_of_irrefl s
  obtain ⟨a,ha⟩ := List.exists_mem_of_ne_nil names hne
  obtain ⟨m,-,hm⟩ := hwf.has_min Set.univ ⟨⟨a,ha⟩,trivial⟩
  obtain ⟨b,hb,hr⟩ := h m.val m.property
  exact hm ⟨b,hb⟩ trivial (.single hr)

namespace Graph
variable {graph : Graph}

def Edge (graph : Graph) (a b : String) : Prop := b ∈ graph.successors a

/-- A nonempty path of dependencies. -/
abbrev Leads (graph : Graph) : String → String → Prop := Relation.TransGen graph.Edge

def Closed (graph : Graph) : Prop := ∀ a b, graph.Edge a b → b ∈ graph.nodes

theorem mem_nodes_of_edge {a b : String} (h : graph.Edge a b) : a ∈ graph.nodes := by
  unfold Edge successors at h
  cases hl : graph.lookup a with
  | none => simp [hl] at h
  | some next =>
    obtain ⟨l,r,hlr,-⟩ := List.lookup_eq_some_iff.mp hl
    simp [nodes,hlr]

theorem mem_nodes_of_leads {a b : String} (h : graph.Leads a b) : a ∈ graph.nodes := by
  obtain ⟨c,hc,-⟩ := Relation.TransGen.head'_iff.mp h
  exact mem_nodes_of_edge hc

def EdgeIn (graph : Graph) (nodes : List String) (a b : String) : Prop := graph.Edge a b ∧ b ∈ nodes

/-- A nonempty path of dependencies on some names. -/
abbrev LeadsIn (graph : Graph) (nodes : List String) : String → String → Prop :=
  Relation.TransGen (graph.EdgeIn nodes)

abbrev ReachesIn (graph : Graph) (nodes : List String) : String → String → Prop :=
  Relation.ReflTransGen (graph.EdgeIn nodes)

/-- A path back to its start stays among names that hold all names on cycles. -/
theorem leadsIn_of_leads {nodes : List String} (hall : ∀ a, graph.Leads a a → a ∈ nodes)
    {a b : String} (hab : graph.Leads a b) (hba : Relation.ReflTransGen graph.Edge b a) :
    graph.LeadsIn nodes a b := by
  induction hab with
  | single hab => exact .single ⟨hab,hall _ (Relation.TransGen.tail' hba hab)⟩
  | @tail c b hac hcb ih =>
    have hb : graph.Leads b b := Relation.TransGen.trans_right hba (hac.tail hcb)
    exact (ih (hba.head hcb)).tail ⟨hcb,hall b hb⟩

/-- Each of two names leads to the other: along some names that hold all names on cycles, or at all. -/
theorem leadsIn_and_iff {nodes : List String} (hall : ∀ a, graph.Leads a a → a ∈ nodes)
    {a b : String} : graph.LeadsIn nodes a b ∧ graph.LeadsIn nodes b a ↔
      graph.Leads a b ∧ graph.Leads b a := by
  constructor
  · rintro ⟨hab,hba⟩
    exact ⟨Relation.TransGen.mono (fun _ _ h => h.1) _ _ hab,
      Relation.TransGen.mono (fun _ _ h => h.1) _ _ hba⟩
  · rintro ⟨hab,hba⟩
    exact ⟨leadsIn_of_leads hall hab hba.to_reflTransGen,
      leadsIn_of_leads hall hba hab.to_reflTransGen⟩

end Graph
end SchemaCodec.Dependency
