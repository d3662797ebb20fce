import Mathlib.Data.Prod.Lex
import Mathlib.Data.String.Basic
import SchemaCodec.Proofs.Dependency.Reachability
import SchemaCodec.Proofs.Outcome

/-! # Which names can be ordered

Between two names that are listed, every counter says how many dependencies of its name are not
listed yet, and the queue holds exactly the names whose counters are zero. So a name is listed once
all it depends on is listed, the least of those that can come next, and listing stops only when every
name that is left waits for another one that is left.
-/
namespace SchemaCodec.Dependency

/-! ## The queue -/

theorem Placed.before_iff {a b : Placed} : Placed.before a b = true ↔ toLex a < toLex b := by
  simp [Placed.before,Prod.Lex.toLex_lt_toLex]

theorem enqueue_perm (a : Placed) (queue : List Placed) : (enqueue a queue).Perm (a :: queue) := by
  induction queue with
  | nil => exact .refl _
  | cons b rest ih =>
    rw [enqueue]
    by_cases h : Placed.before b a
    · rw [if_pos h]
      exact (ih.cons b).trans (.swap a b rest)
    · rw [if_neg h]

/-- Each entry of a queue comes before those behind it. -/
abbrev Ascending (queue : List Placed) : Prop := queue.Pairwise fun a b => toLex a ≤ toLex b

theorem ascending_enqueue {queue : List Placed} (h : Ascending queue) (a : Placed) :
    Ascending (enqueue a queue) := by
  induction queue with
  | nil => exact List.pairwise_singleton _ _
  | cons b rest ih =>
    obtain ⟨hb,hrest⟩ := List.pairwise_cons.mp h
    rw [enqueue]
    by_cases hba : Placed.before b a
    · rw [if_pos hba]
      refine List.pairwise_cons.mpr ⟨fun c hc => ?_,ih hrest⟩
      rcases List.mem_cons.mp ((enqueue_perm a rest).mem_iff.mp hc) with rfl | hc
      · exact (Placed.before_iff.mp hba).le
      · exact hb c hc
    · rw [if_neg hba]
      have hab : toLex a ≤ toLex b := not_lt.mp fun hlt => hba (Placed.before_iff.mpr hlt)
      refine List.pairwise_cons.mpr ⟨fun c hc => ?_,h⟩
      rcases List.mem_cons.mp hc with rfl | hc
      · exact hab
      · exact hab.trans (hb c hc)

theorem queued_perm (entries : List Placed) : (entries.foldr enqueue []).Perm entries := by
  induction entries with
  | nil => exact .refl _
  | cons a rest ih => exact (enqueue_perm a _).trans (ih.cons a)

theorem ascending_queued (entries : List Placed) : Ascending (entries.foldr enqueue []) := by
  induction entries with
  | nil => exact List.Pairwise.nil
  | cons a rest ih => exact ascending_enqueue ih a

theorem place_eq_ok {position : String → Option Int} {name : String} {a : Placed} :
    place position name = .ok a ↔ position name = some a.1 ∧ name = a.2 := by
  rw [place]
  cases position name <;> simp [Prod.ext_iff]

namespace Graph
variable {graph : Graph}

/-- Every dependency that is written down is a node. -/
def Complete (graph : Graph) : Prop := ∀ p ∈ graph, ∀ d ∈ p.2, d ∈ graph.nodes

theorem successors_eq (hn : graph.nodes.Nodup) {p : String × List String} (hp : p ∈ graph) :
    graph.successors p.1 = p.2 := by
  rw [successors,lookup_of_mem hn hp,Option.getD_some]

theorem Complete.closed (hc : graph.Complete) : graph.Closed := by
  intro a b hab
  unfold Edge successors at hab
  cases hl : graph.lookup a with
  | none => simp [hl] at hab
  | some next =>
    obtain ⟨l,r,hlr,-⟩ := List.lookup_eq_some_iff.mp hl
    have hb : b ∈ next := by simpa [hl] using hab
    exact hc (a,next) (by simp [hlr]) b hb

/-! ## Dependents -/

/-- A table with the names of another one, in which some names come behind the dependents of each
name. -/
structure Gains (table next : Graph) (gain : String → List String) : Prop where
  nodes : next.nodes = table.nodes
  successors : ∀ d ∈ table.nodes, next.successors d = table.successors d ++ gain d

theorem Gains.refl (table : Graph) : Gains table table fun _ => [] := ⟨rfl,by simp⟩

theorem Gains.trans {a b c : Graph} {gain more : String → List String} (hab : Gains a b gain)
    (hbc : Gains b c more) : Gains a c fun d => gain d ++ more d where
  nodes := hbc.nodes.trans hab.nodes
  successors d hd := by
    rw [hbc.successors d (hab.nodes ▸ hd),hab.successors d hd,List.append_assoc]

theorem addDependent_eq_ok {name dependency : String} {table next : Graph}
    (h : addDependent name table dependency = .ok next) : dependency ∈ table.nodes ∧
      Gains table next fun d => if d = dependency then [name] else [] := by
  rw [addDependent] at h
  split at h
  · next hmem =>
    cases h
    refine ⟨hmem,by simp [nodes,Function.comp_def],fun d hd => ?_⟩
    obtain ⟨names,hnames⟩ := exists_lookup_of_mem hd
    have hlookup := lookup_map_update
      (fun n names => if n = dependency then names ++ [name] else names) table d
    rw [successors,hlookup,successors,hnames]
    by_cases hd : d = dependency <;> simp [hd]
  · cases h

/-- One row of a graph adds its name to the dependents of each of its dependencies. -/
theorem row_eq_ok {name : String} {dependencies : List String} {table next : Graph}
    (h : dependencies.foldlM (addDependent name) table = .ok next) :
    (∀ d ∈ dependencies, d ∈ table.nodes) ∧
      Gains table next fun d => List.replicate (dependencies.count d) name := by
  induction dependencies generalizing table with
  | nil =>
    cases h
    exact ⟨by simp,.refl _⟩
  | cons dependency rest ih =>
    rw [List.foldlM_cons] at h
    obtain ⟨middle,hfirst,hrest⟩ := bind_eq_ok.mp h
    obtain ⟨hmem,hgain⟩ := addDependent_eq_ok hfirst
    obtain ⟨hnodes,hmore⟩ := ih hrest
    refine ⟨List.forall_mem_cons.mpr ⟨hmem,hgain.nodes ▸ hnodes⟩,?_⟩
    convert hgain.trans hmore using 2 with d
    by_cases hd : d = dependency
    · simp [hd,List.replicate_succ]
    · simp [hd,Ne.symm hd]

theorem exists_row {name : String} {dependencies : List String} {table : Graph}
    (h : ∀ d ∈ dependencies, d ∈ table.nodes) :
    ∃ next, dependencies.foldlM (addDependent name) table = .ok next := by
  induction dependencies generalizing table with
  | nil => exact ⟨table,rfl⟩
  | cons dependency rest ih =>
    obtain ⟨hmem,hrest⟩ := List.forall_mem_cons.mp h
    obtain ⟨middle,hfirst⟩ : ∃ middle, addDependent name table dependency = .ok middle :=
      ⟨_,if_pos hmem⟩
    obtain ⟨next,hnext⟩ := ih fun d hd => (addDependent_eq_ok hfirst).2.nodes ▸ hrest d hd
    exact ⟨next,by rw [List.foldlM_cons]; exact bind_eq_ok.mpr ⟨middle,hfirst,hnext⟩⟩

theorem rows_eq_ok {rows table next : Graph}
    (h : rows.foldlM addRow table = .ok next) :
    (∀ p ∈ rows, ∀ d ∈ p.2, d ∈ table.nodes) ∧
      Gains table next fun d => rows.flatMap fun p => List.replicate (p.2.count d) p.1 := by
  induction rows generalizing table with
  | nil =>
    cases h
    exact ⟨by simp,.refl _⟩
  | cons p rest ih =>
    rw [List.foldlM_cons] at h
    obtain ⟨middle,hfirst,hrest⟩ := bind_eq_ok.mp h
    obtain ⟨hmem,hgain⟩ := row_eq_ok hfirst
    obtain ⟨hnodes,hmore⟩ := ih hrest
    refine ⟨List.forall_mem_cons.mpr ⟨hmem,hgain.nodes ▸ hnodes⟩,?_⟩
    simpa only [List.flatMap_cons] using hgain.trans hmore

theorem exists_rows {rows table : Graph} (h : ∀ p ∈ rows, ∀ d ∈ p.2, d ∈ table.nodes) :
    ∃ next, rows.foldlM addRow table = .ok next := by
  induction rows generalizing table with
  | nil => exact ⟨table,rfl⟩
  | cons p rest ih =>
    obtain ⟨hmem,hrest⟩ := List.forall_mem_cons.mp h
    have hrow : ∃ middle, addRow table p = .ok middle := exists_row hmem
    obtain ⟨middle,hfirst⟩ := hrow
    obtain ⟨next,hnext⟩ := ih fun q hq d hd => (row_eq_ok hfirst).2.nodes ▸ hrest q hq d hd
    exact ⟨next,by rw [List.foldlM_cons]; exact bind_eq_ok.mpr ⟨middle,hfirst,hnext⟩⟩

/-- In a row of names without repetitions, a name stands among the dependents of another one as many
times as it depends on it. -/
theorem count_rows {rows : Graph} (hn : rows.nodes.Nodup) (d x : String) :
    (rows.flatMap fun p => List.replicate (p.2.count d) p.1).count x =
      (rows.successors x).count d := by
  induction rows with
  | nil => rfl
  | cons p rest ih =>
    obtain ⟨hp,hrest⟩ := List.nodup_cons.mp hn
    have hcons : successors (p :: rest) x = if x = p.1 then p.2 else successors rest x :=
      getD_lookup_cons p.1 x p.2 [] rest
    rw [List.flatMap_cons,List.count_append,ih hrest,hcons,List.count_replicate]
    by_cases hx : x = p.1
    · have hnone : rest.lookup x = none := by
        refine List.lookup_eq_none_iff.mpr fun q hq => ?_
        simpa [hx] using fun he : p.1 = q.1 => hp (List.mem_map.mpr ⟨q,hq,he.symm⟩)
      simp [hx,successors,hx ▸ hnone]
    · simp [hx,Ne.symm hx]

theorem nodes_alone (graph : Graph) : graph.alone.nodes = graph.nodes := by
  simp [alone,nodes,Function.comp_def]

theorem successors_alone (graph : Graph) (d : String) : graph.alone.successors d = [] := by
  have hlookup := lookup_map_update (fun _ _ => ([] : List String)) graph d
  rw [successors,alone,hlookup]
  cases graph.lookup d <;> rfl

/-- In the table of dependents a name stands with another one as many times as it depends on it. -/
theorem dependents_eq_ok (hn : graph.nodes.Nodup) {table : Graph} (h : graph.dependents = .ok table) :
    graph.Complete ∧ ∀ d ∈ graph.nodes, ∀ x,
      (table.successors d).count x = (graph.successors x).count d := by
  obtain ⟨hmem,hgain⟩ := rows_eq_ok h
  rw [nodes_alone] at hmem
  refine ⟨hmem,fun d hd x => ?_⟩
  rw [hgain.successors d (nodes_alone graph ▸ hd),successors_alone,List.nil_append,
    count_rows hn]

theorem exists_dependents (hc : graph.Complete) : ∃ table, graph.dependents = .ok table :=
  exists_rows (by rw [nodes_alone]; exact hc)

end Graph

/-! ## Between two names -/

namespace Graph
variable {graph : Graph}

/-- A name that is not listed yet although all it depends on is. -/
def Ready (graph : Graph) (listed : List String) (x : String) : Prop :=
  x ∈ graph.nodes ∧ x ∉ listed ∧ ∀ y, graph.Edge x y → y ∈ listed

/-- A name's position is less than another one's, or the same and the name is not greater. -/
def Precedes (position : String → Option Int) (x y : String) : Prop :=
  ∃ p q, position x = some p ∧ position y = some q ∧ (p < q ∨ p = q ∧ x ≤ y)

/-- How many dependencies of a name are not listed. -/
def missing (graph : Graph) (listed : List String) (x : String) : ℕ :=
  (graph.successors x).countP fun d => !decide (d ∈ listed)

theorem missing_eq_zero_iff {listed : List String} {x : String} :
    graph.missing listed x = 0 ↔ ∀ y, graph.Edge x y → y ∈ listed := by
  simp [missing,List.countP_eq_zero,Edge]

/-- Listing one more name takes away the dependencies on it. -/
theorem missing_concat {listed : List String} {name : String} (h : name ∉ listed) (x : String) :
    graph.missing listed x =
      graph.missing (listed ++ [name]) x + (graph.successors x).count name := by
  rw [missing,missing]
  induction graph.successors x with
  | nil => rfl
  | cons d rest ih =>
    rw [List.countP_cons,List.countP_cons,List.count_cons,ih]
    by_cases hd : d = name
    · simp [hd,h,Nat.add_assoc]
    · by_cases hl : d ∈ listed <;> simp [hd,hl,Nat.add_right_comm]

/-- What is listed behind some names until no name is ready: each time the least of those that are. -/
inductive Extension (graph : Graph) (position : String → Option Int) :
    (listed more : List String) → Prop
  | stuck {listed : List String} (h : ∀ x, ¬ graph.Ready listed x) :
      Extension graph position listed []
  | next {listed more : List String} {x : String} (hr : graph.Ready listed x)
      (hleast : ∀ y, graph.Ready listed y → Precedes position x y)
      (h : Extension graph position (listed ++ [x]) more) :
      Extension graph position listed (x :: more)

end Graph

/-- An order on its way, when the names in `more` still have to be told that a dependency of theirs
was listed: the counters and the queue agree with the graph. -/
structure Counted (graph : Graph) (position : String → Option Int) (more : List String)
    (s : Listing) : Prop where
  nodup : s.order.Nodup
  subset : ∀ x ∈ s.order, x ∈ graph.nodes
  closed : ∀ x ∈ s.order, ∀ y, graph.Edge x y → y ∈ s.order
  names : s.pending.map (·.1) = graph.nodes
  count : ∀ x ∈ graph.nodes, s.count x = graph.missing s.order x + more.count x
  waiting : ∀ x ∈ more, x ∈ graph.nodes ∧ x ∉ s.order
  mem_ready : ∀ a : Placed, a ∈ s.ready ↔
    a.2 ∈ graph.nodes ∧ a.2 ∉ s.order ∧ s.count a.2 = 0 ∧ position a.2 = some a.1
  ascending : Ascending s.ready
  distinct : (s.ready.map (·.2)).Nodup

section Counted
variable {graph : Graph} {position : String → Option Int} {s : Listing}

/-- The least of the names that can come next is listed; those that depend on it are to be told. -/
theorem Counted.pop {table : Graph} (hcount : ∀ d ∈ graph.nodes, ∀ x,
      (table.successors d).count x = (graph.successors x).count d)
    (h : Counted graph position [] s) {a : Placed} {rest : List Placed} (hr : s.ready = a :: rest) :
    Counted graph position (table.successors a.2)
      { s with ready := rest, order := s.order ++ [a.2] } := by
  obtain ⟨hnode,hnew,hzero,-⟩ := (h.mem_ready a).mp (hr ▸ List.mem_cons_self)
  have hdistinct := h.distinct
  rw [hr,List.map_cons,List.nodup_cons] at hdistinct
  have hdependencies : ∀ y, graph.Edge a.2 y → y ∈ s.order := by
    have hmissing := h.count a.2 hnode
    rw [hzero,List.count_nil] at hmissing
    exact Graph.missing_eq_zero_iff.mp (by omega)
  refine ⟨?_,?_,?_,h.names,fun x hx => ?_,fun x hx => ?_,fun b => ?_,?_,hdistinct.2⟩
  · exact h.nodup.append (List.nodup_singleton _) (List.disjoint_singleton.mpr hnew)
  · simpa using fun x => Or.rec (h.subset x) (· ▸ hnode)
  · intro x hx y hxy
    rcases List.mem_append.mp hx with hx | hx
    · exact List.mem_append_left _ (h.closed x hx y hxy)
    · exact List.mem_append_left _ (hdependencies y (List.mem_singleton.mp hx ▸ hxy))
  · have hbefore := h.count x hx
    rw [Graph.missing_concat hnew x,List.count_nil] at hbefore
    change s.count x = _
    rw [hbefore,hcount a.2 hnode x]
    rfl
  · -- what depends on a name that was not listed is not listed either
    have hedge : graph.Edge x a.2 := by
      rw [← List.count_pos_iff,hcount a.2 hnode x] at hx
      exact List.count_pos_iff.mp hx
    refine ⟨Graph.mem_nodes_of_edge hedge,fun hmem => ?_⟩
    rcases List.mem_append.mp hmem with hmem | hmem
    · exact hnew (h.closed x hmem a.2 hedge)
    · exact hnew (hdependencies a.2 (List.mem_singleton.mp hmem ▸ hedge))
  · have hb := h.mem_ready b
    rw [hr,List.mem_cons] at hb
    change b ∈ rest ↔ b.2 ∈ graph.nodes ∧ b.2 ∉ s.order ++ [a.2] ∧ s.count b.2 = 0 ∧ _
    have hne : b ∈ rest → b.2 ≠ a.2 :=
      fun hmem he => hdistinct.1 (he ▸ List.mem_map_of_mem hmem)
    have hself : b = a → b.2 = a.2 := congrArg Prod.snd
    simp only [List.mem_append,List.mem_singleton]
    tauto
  · have hascending := h.ascending
    rw [hr] at hascending
    exact hascending.of_cons

theorem Listing.count_setCount {x y : String} {c : ℤ} (hy : y ∈ s.pending.map (·.1)) :
    (s.setCount x c).count y = if y = x then c else s.count y := by
  obtain ⟨old,hold⟩ := exists_lookup_of_mem hy
  rw [count,setCount,lookup_map_update (fun n old => if n = x then c else old),count,hold]
  rfl

/-- One of the names that have to be told is. -/
theorem Counted.release {x : String} {more : List String} (h : Counted graph position (x :: more) s)
    (hp : position x ≠ none) : ∃ t, s.release position x = .ok t ∧ t.order = s.order ∧
      Counted graph position more t := by
  obtain ⟨p,hp⟩ := Option.ne_none_iff_exists'.mp hp
  obtain ⟨hnode,hnew⟩ := h.waiting x List.mem_cons_self
  have hcountx := h.count x hnode
  rw [List.count_cons_self] at hcountx
  have hnames : (s.setCount x (s.count x - 1)).pending.map (·.1) = graph.nodes := by
    rw [← h.names,Listing.setCount,List.map_map]
    rfl
  have hcount : ∀ y ∈ graph.nodes, (s.setCount x (s.count x - 1)).count y =
      if y = x then s.count x - 1 else s.count y :=
    fun y hy => Listing.count_setCount (h.names.symm ▸ hy)
  have hagrees : ∀ y ∈ graph.nodes, (s.setCount x (s.count x - 1)).count y =
      graph.missing s.order y + more.count y := by
    intro y hy
    rw [hcount y hy]
    by_cases hyx : y = x
    · subst hyx
      simp only [↓reduceIte]
      omega
    · rw [if_neg hyx,h.count y hy,List.count_cons_of_ne (Ne.symm hyx)]
  have hwaiting : ∀ y ∈ more, y ∈ graph.nodes ∧ y ∉ s.order :=
    fun y hy => h.waiting y (List.mem_cons_of_mem x hy)
  -- a name that still waits for the listed one is not in the queue
  have hnot : ∀ a ∈ s.ready, a.2 ≠ x := by
    rintro a ha rfl
    obtain ⟨-,-,hzero,-⟩ := (h.mem_ready a).mp ha
    omega
  have hold : ∀ b : Placed, b.2 ≠ x → (b ∈ s.ready ↔ b.2 ∈ graph.nodes ∧ b.2 ∉ s.order ∧
      (s.setCount x (s.count x - 1)).count b.2 = 0 ∧ position b.2 = some b.1) := by
    intro b hb
    rw [h.mem_ready b]
    refine and_congr_right fun hbn => ?_
    rw [hcount b.2 hbn,if_neg hb]
  have hself : (s.setCount x (s.count x - 1)).count x = s.count x - 1 :=
    (hcount x hnode).trans (if_pos rfl)
  by_cases hzero : s.count x - 1 = 0
  · refine ⟨{ s.setCount x (s.count x - 1) with ready := enqueue (p,x) s.ready },?_,rfl,h.nodup,
      h.subset,h.closed,hnames,hagrees,hwaiting,fun b => ?_,ascending_enqueue h.ascending _,?_⟩
    · rw [Listing.release,if_pos hzero]
      exact bind_eq_ok.mpr ⟨(p,x),place_eq_ok.mpr ⟨hp,rfl⟩,rfl⟩
    · rw [(enqueue_perm (p,x) s.ready).mem_iff,List.mem_cons]
      change _ ↔ b.2 ∈ graph.nodes ∧ b.2 ∉ s.order ∧
        (s.setCount x (s.count x - 1)).count b.2 = 0 ∧ position b.2 = some b.1
      by_cases hb : b.2 = x
      · have hb' : b ∉ s.ready := fun hmem => hnot b hmem hb
        have hpair : b = (p,x) ↔ b.1 = p := by simp [Prod.ext_iff,hb]
        rw [hb,hself,hp,hpair]
        simp [hb',hnode,hnew,hzero,eq_comm]
      · have hne : b ≠ (p,x) := fun he => hb (congrArg Prod.snd he)
        rw [← hold b hb]
        simp [hne]
    · have hperm := (enqueue_perm (p,x) s.ready).map Prod.snd
      refine hperm.nodup_iff.mpr (List.nodup_cons.mpr ⟨fun hmem => ?_,h.distinct⟩)
      obtain ⟨a,ha,hax⟩ := List.mem_map.mp hmem
      exact hnot a ha hax
  · refine ⟨s.setCount x (s.count x - 1),?_,rfl,h.nodup,h.subset,h.closed,hnames,
      hagrees,hwaiting,fun b => ?_,h.ascending,h.distinct⟩
    · rw [Listing.release,if_neg hzero]
    · by_cases hb : b.2 = x
      · have hb' : b ∉ s.ready := fun hmem => hnot b hmem hb
        change b ∈ s.ready ↔ _
        rw [hb,hself]
        simp [hb',hzero]
      · exact hold b hb

theorem Counted.releases (hp : ∀ x ∈ graph.nodes, position x ≠ none) {more : List String}
    (h : Counted graph position more s) : ∃ t, more.foldlM (Listing.release position) s = .ok t ∧
      t.order = s.order ∧ Counted graph position [] t := by
  induction more generalizing s with
  | nil => exact ⟨s,rfl,rfl,h⟩
  | cons x rest ih =>
    obtain ⟨t,ht,htorder,hcounted⟩ := h.release (hp x (h.waiting x List.mem_cons_self).1)
    obtain ⟨u,hu,huorder,hdone⟩ := ih hcounted
    refine ⟨u,?_,huorder.trans htorder,hdone⟩
    rw [List.foldlM_cons]
    exact bind_eq_ok.mpr ⟨t,ht,hu⟩

/-- The names in the queue are those that are ready. -/
theorem Counted.mem_ready_iff (h : Counted graph position [] s) {a : Placed} :
    a ∈ s.ready ↔ graph.Ready s.order a.2 ∧ position a.2 = some a.1 := by
  rw [h.mem_ready a,Graph.Ready,and_assoc,and_assoc]
  refine and_congr_right fun hnode => and_congr_right fun _ => and_congr_left fun _ => ?_
  rw [h.count a.2 hnode,List.count_nil,← Graph.missing_eq_zero_iff]
  omega

theorem Counted.precedes_head (hp : ∀ x ∈ graph.nodes, position x ≠ none)
    (h : Counted graph position [] s) {a : Placed} {rest : List Placed} (hr : s.ready = a :: rest)
    {y : String} (hy : graph.Ready s.order y) : Graph.Precedes position a.2 y := by
  obtain ⟨-,ha⟩ := h.mem_ready_iff.mp (hr ▸ List.mem_cons_self)
  obtain ⟨q,hq⟩ := Option.ne_none_iff_exists'.mp (hp y hy.1)
  have hmem : (q,y) ∈ a :: rest := hr ▸ h.mem_ready_iff.mpr ⟨hy,hq⟩
  have hascending := h.ascending
  rw [hr] at hascending
  have hle : toLex a ≤ toLex (q,y) := by
    rcases List.mem_cons.mp hmem with rfl | hmem
    · exact le_rfl
    · exact List.rel_of_pairwise_cons hascending hmem
  exact ⟨a.1,q,ha,hq,Prod.Lex.toLex_le_toLex.mp hle⟩

/-- A run with a round for every name that is not listed goes on until no name is ready. -/
theorem Counted.run {table : Graph} (hcount : ∀ d ∈ graph.nodes, ∀ x,
      (table.successors d).count x = (graph.successors x).count d)
    (hp : ∀ x ∈ graph.nodes, position x ≠ none) (limit : ℕ) (h : Counted graph position [] s)
    (hl : graph.nodes.length ≤ s.order.length + limit) :
    ∃ t more, s.run table position limit = .ok t ∧ t.order = s.order ++ more ∧
      graph.Extension position s.order more := by
  induction limit generalizing s with
  | zero =>
    refine ⟨s,[],rfl,(List.append_nil _).symm,.stuck fun x hx => hx.2.1 ?_⟩
    exact mem_of_nodup_of_length_le h.nodup h.subset hl hx.1
  | succ limit ih =>
    rw [Listing.run]
    cases hr : s.ready with
    | nil =>
      refine ⟨s,[],rfl,(List.append_nil _).symm,.stuck fun x hx => ?_⟩
      obtain ⟨q,hq⟩ := Option.ne_none_iff_exists'.mp (hp x hx.1)
      have hmem : (q,x) ∈ s.ready := h.mem_ready_iff.mpr ⟨hx,hq⟩
      simp [hr] at hmem
    | cons a rest =>
      obtain ⟨hready,-⟩ := h.mem_ready_iff.mp (hr ▸ List.mem_cons_self)
      obtain ⟨t,ht,htorder,hcounted⟩ := (h.pop hcount hr).releases hp
      obtain ⟨u,more,hu,huorder,hmore⟩ := ih hcounted (by
        rw [htorder,List.length_append,List.length_singleton]
        omega)
      rw [htorder] at huorder hmore
      refine ⟨u,a.2 :: more,bind_eq_ok.mpr ⟨t,ht,hu⟩,by simpa using huorder,?_⟩
      exact .next hready (fun y hy => h.precedes_head hp hr hy) hmore

end Counted

namespace Graph
variable {graph : Graph} {position : String → Option Int}

theorem Extension.nodup {listed more : List String} (h : graph.Extension position listed more)
    (hn : listed.Nodup) : (listed ++ more).Nodup := by
  induction h with
  | stuck => simpa using hn
  | @next listed more x hr _ _ ih =>
    have hx := ih (hn.append (List.nodup_singleton x) (List.disjoint_singleton.mpr hr.2.1))
    rwa [List.append_assoc] at hx

theorem Extension.stuck_end {listed more : List String} (h : graph.Extension position listed more)
    (x : String) : ¬ graph.Ready (listed ++ more) x := by
  induction h with
  | stuck h => simpa using h x
  | next _ _ _ ih => simpa using ih

/-- When a name is listed, it is the least of those that are ready. -/
theorem Extension.least {listed more : List String} (h : graph.Extension position listed more)
    {before after : List String} {x : String} (hs : more = before ++ x :: after) :
    graph.Ready (listed ++ before) x ∧
      ∀ y, graph.Ready (listed ++ before) y → Precedes position x y := by
  induction h generalizing before with
  | stuck => simp at hs
  | @next listed more z hr hleast _ ih =>
    cases before with
    | nil =>
      obtain ⟨rfl,-⟩ := List.cons.inj hs
      simpa using ⟨hr,hleast⟩
    | cons b before =>
      obtain ⟨rfl,hmore⟩ := List.cons.inj hs
      simpa using ih hmore

def lengths (graph : Graph) : List (String × ℤ) :=
  graph.map fun p => (p.1,Int.ofNat p.2.length)

theorem names_lengths : graph.lengths.map (·.1) = graph.nodes := by simp [lengths,nodes]

theorem mem_lengths_zero (hn : graph.nodes.Nodup) {q : String × ℤ} :
    q ∈ graph.lengths.filter (·.2 == 0) ↔
      ∃ p ∈ graph, graph.missing [] p.1 = 0 ∧ (p.1,(0 : ℤ)) = q := by
  simp only [lengths,List.mem_filter,List.mem_map,beq_iff_eq]
  constructor
  · rintro ⟨⟨p,hp,rfl⟩,hzero⟩
    exact ⟨p,hp,by simpa [missing,successors_eq hn hp] using hzero,Prod.ext rfl hzero.symm⟩
  · rintro ⟨p,hp,hzero,rfl⟩
    refine ⟨⟨p,hp,?_⟩,rfl⟩
    simpa [missing,successors_eq hn hp] using hzero

theorem mem_free_iff (hn : graph.nodes.Nodup) {free : List Placed}
    (hfree : (graph.lengths.filter (·.2 == 0)).mapM (fun p => place position p.1) = .ok free)
    {a : Placed} : a ∈ free ↔
      a.2 ∈ graph.nodes ∧ graph.missing [] a.2 = 0 ∧ position a.2 = some a.1 := by
  have hplaced := mapM_eq_ok_iff.mp hfree
  constructor
  · intro ha
    obtain ⟨q,hq,hplace⟩ := exists_of_mem_right hplaced ha
    obtain ⟨p,hp,hzero,rfl⟩ := (mem_lengths_zero hn).mp hq
    obtain ⟨hposition,hname⟩ := place_eq_ok.mp hplace
    rw [← hname]
    exact ⟨List.mem_map_of_mem hp,hzero,hposition⟩
  · rintro ⟨hnode,hzero,hposition⟩
    obtain ⟨p,hp,hname⟩ := List.mem_map.mp hnode
    obtain ⟨b,hb,hplace⟩ := exists_of_mem_left hplaced
      ((mem_lengths_zero hn).mpr ⟨p,hp,hname ▸ hzero,rfl⟩)
    cases hplace.symm.trans (place_eq_ok.mpr ⟨hname ▸ hposition,hname⟩)
    exact hb

/-- Before a name is listed, the counters are the numbers of dependencies. -/
theorem counted_start (hn : graph.nodes.Nodup) {free : List Placed}
    (hfree : (graph.lengths.filter (·.2 == 0)).mapM (fun p => place position p.1) = .ok free) :
    Counted graph position [] ⟨graph.lengths,free.foldr enqueue [],[]⟩ := by
  have hcount : ∀ x ∈ graph.nodes,
      (Listing.mk graph.lengths (free.foldr enqueue []) []).count x = graph.missing [] x := by
    intro x hx
    obtain ⟨p,hp,rfl⟩ := List.mem_map.mp hx
    rw [Listing.count,lengths,
      lookup_map_update (fun _ (names : List String) => Int.ofNat names.length),
      lookup_of_mem hn hp]
    simp [missing,successors_eq hn hp]
  refine ⟨List.nodup_nil,by simp,by simp,names_lengths,fun x hx => ?_,by simp,fun a => ?_,
    ascending_queued free,?_⟩
  · rw [hcount x hx,List.count_nil]
    rfl
  · rw [(queued_perm free).mem_iff,mem_free_iff hn hfree]
    refine and_congr_right fun hnode => ?_
    rw [hcount a.2 hnode]
    simp
  · have hsame : free.map (·.2) = (graph.lengths.filter (·.2 == 0)).map (·.1) :=
      map_eq_map ((mapM_eq_ok_iff.mp hfree).imp fun _ _ h => (place_eq_ok.mp h).2.symm)
    rw [((queued_perm free).map Prod.snd).nodup_iff,hsame]
    exact (names_lengths ▸ hn).sublist (List.filter_sublist.map _)

/-- The emission order lists names until none is ready. -/
theorem exists_emissionOrder (hc : graph.Complete) (hn : graph.nodes.Nodup)
    (hp : ∀ x ∈ graph.nodes, position x ≠ none) : ∃ order,
      emissionOrder graph position = .ok order ∧ graph.Extension position [] order := by
  obtain ⟨table,htable⟩ := exists_dependents hc
  obtain ⟨free,hfree⟩ : ∃ free, (graph.lengths.filter (·.2 == 0)).mapM
      (fun p => place position p.1) = .ok free := by
    refine exists_mapM_eq_ok_iff.mpr fun q hq => ?_
    obtain ⟨p,hpg,rfl⟩ := List.mem_map.mp (List.mem_filter.mp hq).1
    obtain ⟨i,hi⟩ := Option.ne_none_iff_exists'.mp (hp p.1 (List.mem_map_of_mem hpg))
    exact ⟨(i,p.1),place_eq_ok.mpr ⟨hi,rfl⟩⟩
  obtain ⟨s,order,hs,hsorder,hx⟩ := (counted_start hn hfree).run (dependents_eq_ok hn htable).2 hp
    graph.length (by simp [nodes])
  refine ⟨order,?_,hx⟩
  refine bind_eq_ok.mpr ⟨table,htable,bind_eq_ok.mpr ⟨free,hfree,bind_eq_ok.mpr ⟨s,hs,?_⟩⟩⟩
  rw [hsorder]
  rfl

/-- A maximal ordering of a graph's nodes: each comes after all it depends on, and each node that
is left out depends on one that is left out. -/
structure Ordering (graph : Graph) (order : List String) : Prop where
  nodup : order.Nodup
  subset : ∀ x ∈ order, x ∈ graph.nodes
  after_dependencies : ∀ before x after, order = before ++ x :: after →
    ∀ y, graph.Edge x y → y ∈ before
  left_out : ∀ x ∈ graph.nodes, x ∉ order → ∃ y, graph.Edge x y ∧ y ∉ order

theorem ordering_of_extension {order : List String} (h : graph.Extension position [] order) :
    graph.Ordering order where
  nodup := h.nodup List.nodup_nil
  subset x hx := by
    obtain ⟨before,after,hs⟩ := List.append_of_mem hx
    exact (h.least hs).1.1
  after_dependencies before x after hs := (h.least hs).1.2.2
  left_out x hxn hxo := by
    by_contra hall
    push Not at hall
    exact h.stuck_end x ⟨hxn,hxo,hall⟩

theorem emissionOrder_eq_ok (hc : graph.Complete) (hn : graph.nodes.Nodup)
    (hp : ∀ x ∈ graph.nodes, position x ≠ none) :
    ∃ order, emissionOrder graph position = .ok order ∧ graph.Ordering order := by
  obtain ⟨order,he,hx⟩ := exists_emissionOrder hc hn hp
  exact ⟨order,he,ordering_of_extension hx⟩

/-- An emission order lists names of the graph alone, each once. -/
theorem listed_of_emissionOrder (hn : graph.nodes.Nodup)
    (hp : ∀ x ∈ graph.nodes, position x ≠ none) {order : List String}
    (h : emissionOrder graph position = .ok order) :
    order.Nodup ∧ ∀ x ∈ order, x ∈ graph.nodes := by
  obtain ⟨table,htable,-⟩ := bind_eq_ok.mp h
  obtain ⟨order',he,ho⟩ := emissionOrder_eq_ok (dependents_eq_ok hn htable).1 hn hp
  cases h.symm.trans he
  exact ⟨ho.nodup,ho.subset⟩

/-- What an ordered name leads to comes before it. -/
theorem Ordering.mem_before_of_leads {order : List String} (ho : graph.Ordering order)
    {before after : List String} {x y : String} (hs : order = before ++ x :: after)
    (h : graph.Leads x y) : y ∈ before := by
  induction h with
  | single hxy => exact ho.after_dependencies before x after hs _ hxy
  | @tail y z _ hyz ih =>
    obtain ⟨l,r,rfl⟩ := List.append_of_mem ih
    have hz := ho.after_dependencies l y (r ++ x :: after) (by simp [hs]) z hyz
    exact List.mem_append_left _ hz

/-- An ordered name lies on no cycle. -/
theorem Ordering.not_leads_self {order : List String} (ho : graph.Ordering order) {x : String}
    (hx : x ∈ order) : ¬ graph.Leads x x := by
  intro hxx
  obtain ⟨before,after,hs⟩ := List.append_of_mem hx
  have hmem := ho.mem_before_of_leads hs hxx
  have hnodup := ho.nodup
  rw [hs] at hnodup
  exact (List.disjoint_of_nodup_append hnodup) hmem List.mem_cons_self

/-- Every node can be ordered exactly when there is no cycle. -/
theorem Ordering.length_eq_iff {order : List String} (ho : graph.Ordering order)
    (hc : graph.Closed) (hn : graph.nodes.Nodup) :
    order.length = graph.length ↔ ∀ a, ¬ graph.Leads a a := by
  have hlen : graph.nodes.length = graph.length := by simp [nodes]
  constructor
  · intro he a ha
    have hmem := mem_of_nodup_of_length_le ho.nodup ho.subset (by omega) (mem_nodes_of_leads ha)
    exact ho.not_leads_self hmem ha
  · intro hacyclic
    by_cases hall : ∀ x ∈ graph.nodes, x ∈ order
    · have hperm := (List.perm_ext_iff_of_nodup ho.nodup hn).mpr
        fun x => ⟨ho.subset x,hall x⟩
      rw [hperm.length_eq,hlen]
    · push Not at hall
      obtain ⟨x,hx,hxo⟩ := hall
      have hleft : x ∈ graph.nodes.filter fun n => !decide (n ∈ order) :=
        List.mem_filter.mpr ⟨hx,by simpa using hxo⟩
      -- whatever is left out depends on something left out, so a path among them never ends
      have hcycle := exists_cycle_of_forall_exists (r := graph.Edge) (List.ne_nil_of_mem hleft) ?_
      · obtain ⟨a,-,ha⟩ := hcycle
        exact absurd ha (hacyclic a)
      · intro b hb
        obtain ⟨hb,hbo⟩ := List.mem_filter.mp hb
        obtain ⟨c,hbc,hco⟩ := ho.left_out b hb (by simpa using hbo)
        exact ⟨c,List.mem_filter.mpr ⟨hc b c hbc,by simpa using hco⟩,hbc⟩

end Graph
end SchemaCodec.Dependency
