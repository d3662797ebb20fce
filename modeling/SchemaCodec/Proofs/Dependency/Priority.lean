import SchemaCodec.Proofs.Dependency.Order

/-! # The emission order is the least one

The names from which no cycle is reached are listed, each after all it depends on. Whatever comes
next is the least, by position and then by name, of the names that could come next. One order alone
is like that.
-/
namespace SchemaCodec.Dependency.Graph
variable {graph : Graph}

/-- A name of the graph from which no cycle is reached. -/
def Orderable (graph : Graph) (x : String) : Prop :=
  x ∈ graph.nodes ∧ ∀ y, Relation.ReflTransGen graph.Edge x y → ¬ graph.Leads y y

/-- The orderable names, each after its dependencies and the least of those that are ready. -/
structure LeastOrder (graph : Graph) (position : String → Option Int) (order : List String) :
    Prop where
  nodup : order.Nodup
  mem_iff : ∀ x, x ∈ order ↔ graph.Orderable x
  after_dependencies : ∀ before x after, order = before ++ x :: after →
    ∀ y, graph.Edge x y → y ∈ before
  least : ∀ before x after, order = before ++ x :: after →
    graph.Ready before x ∧ ∀ y, graph.Ready before y → Precedes position x y

theorem Precedes.antisymm {position : String → Option Int} {x y : String}
    (hxy : Precedes position x y) (hyx : Precedes position y x) : x = y := by
  obtain ⟨p,q,hp,hq,hxy⟩ := hxy
  obtain ⟨q',p',hq',hp',hyx⟩ := hyx
  cases hp.symm.trans hp'
  cases hq.symm.trans hq'
  rcases hxy with hlt | ⟨rfl,hxy⟩
  · rcases hyx with hgt | ⟨rfl,-⟩
    · exact absurd hgt hlt.asymm
    · exact absurd hlt (lt_irrefl _)
  · rcases hyx with hlt | ⟨-,hyx⟩
    · exact absurd hlt (lt_irrefl _)
    · exact le_antisymm hxy hyx

theorem Ordering.mem_iff {order : List String} (ho : graph.Ordering order) (hc : graph.Closed)
    (x : String) : x ∈ order ↔ graph.Orderable x := by
  constructor
  · intro hx
    refine ⟨ho.subset x hx,fun y hxy => ?_⟩
    obtain ⟨before,after,hs⟩ := List.append_of_mem hx
    rcases Relation.reflTransGen_iff_eq_or_transGen.mp hxy with rfl | hxy
    · exact ho.not_leads_self hx
    · have hy := ho.mem_before_of_leads hs hxy
      exact ho.not_leads_self (hs ▸ List.mem_append_left _ hy)
  · rintro ⟨hxn,hacyclic⟩
    by_contra hxo
    classical
    let left := graph.nodes.filter fun y =>
      decide (Relation.ReflTransGen graph.Edge x y ∧ y ∉ order)
    have hleft : ∀ y, y ∈ left ↔
        y ∈ graph.nodes ∧ Relation.ReflTransGen graph.Edge x y ∧ y ∉ order := by
      simp [left]
    -- from a name that is left out one comes to ever more names that are left out
    have hnext : ∀ y ∈ left, ∃ z ∈ left, graph.Edge y z := by
      intro y hy
      obtain ⟨hyn,hxy,hyo⟩ := (hleft y).mp hy
      obtain ⟨z,hyz,hzo⟩ := ho.left_out y hyn hyo
      exact ⟨z,(hleft z).mpr ⟨hc y z hyz,hxy.tail hyz,hzo⟩,hyz⟩
    have hx : x ∈ left := (hleft x).mpr ⟨hxn,.refl,hxo⟩
    obtain ⟨y,hy,hcycle⟩ := exists_cycle_of_forall_exists (List.ne_nil_of_mem hx) hnext
    exact hacyclic y ((hleft y).mp hy).2.1 hcycle

theorem LeastOrder.eq_of_append {position : String → Option Int} (before : List String)
    {more more' : List String} (h : graph.LeastOrder position (before ++ more))
    (h' : graph.LeastOrder position (before ++ more')) : more = more' := by
  have hend : ∀ {before rest : List String} {x : String},
      graph.LeastOrder position (before ++ []) → graph.LeastOrder position (before ++ x :: rest) →
      False := by
    intro before rest x hshort hlong
    have hx : x ∈ before ++ [] :=
      (hshort.mem_iff x).mpr ((hlong.mem_iff x).mp (by simp))
    obtain ⟨⟨-,hnew,-⟩,-⟩ := hlong.least before x rest rfl
    exact hnew (by simpa using hx)
  induction more generalizing before more' with
  | nil =>
    cases more' with
    | nil => rfl
    | cons y rest' => exact (hend h h').elim
  | cons x rest ih =>
    cases more' with
    | nil => exact (hend h' h).elim
    | cons y rest' =>
      obtain ⟨hx,hxleast⟩ := h.least before x rest rfl
      obtain ⟨hy,hyleast⟩ := h'.least before y rest' rfl
      obtain rfl := (hxleast y hy).antisymm (hyleast x hx)
      rw [List.append_cons] at h h'
      rw [ih _ h h']

/-- Where all dependencies are names of the graph and all names have positions, the emission order
lists the names from which no cycle is reached, each time the least of those that are ready; and no
other list does. -/
theorem emissionOrder_least (hn : graph.nodes.Nodup) (hc : graph.Complete)
    {position : String → Option Int} (hp : ∀ x ∈ graph.nodes, position x ≠ none) :
    ∃ order, emissionOrder graph position = .ok order ∧ graph.LeastOrder position order ∧
      ∀ other, graph.LeastOrder position other → other = order := by
  obtain ⟨order,he,hx⟩ := exists_emissionOrder hc hn hp
  have ho := ordering_of_extension hx
  have hleast : graph.LeastOrder position order := by
    refine ⟨ho.nodup,ho.mem_iff hc.closed,ho.after_dependencies,fun before x after hs => ?_⟩
    exact hx.least hs
  exact ⟨order,he,hleast,fun other hother => LeastOrder.eq_of_append [] hother hleast⟩

def partlyCyclic : Graph :=
  [("b",[]),("a",[]),("c",["a"]),("x",["y"]),("y",["x"]),("z",["x"])]

def onePosition (_ : String) : Option Int := some 0

/-- Names of one position are listed by name, and what is on or behind a cycle is left out. -/
theorem partlyCyclic_least : partlyCyclic.nodes.Nodup ∧ partlyCyclic.Complete ∧
    (∀ x ∈ partlyCyclic.nodes, onePosition x ≠ none) ∧
    partlyCyclic.LeastOrder onePosition ["a","b","c"] ∧
    ∀ other, partlyCyclic.LeastOrder onePosition other → other = ["a","b","c"] := by
  have hn : partlyCyclic.nodes.Nodup := by decide
  have hc : partlyCyclic.Complete := by
    unfold Complete
    decide
  have hp : ∀ x ∈ partlyCyclic.nodes, onePosition x ≠ none := by simp [onePosition]
  obtain ⟨order,he,hleast,hunique⟩ := emissionOrder_least hn hc hp
  have hrun : emissionOrder partlyCyclic onePosition = .ok ["a","b","c"] := by decide
  cases he.symm.trans hrun
  exact ⟨hn,hc,hp,hleast,hunique⟩

end SchemaCodec.Dependency.Graph
