import SchemaCodec.Proofs.Dependency.Reachability

/-! # The cycles of a graph

While a name is visited, the names on the path to it are those entered and not left. Each of them
leads to all above it on the stack, and each name on the stack leads back to one of them that is not
above it. A name that leads back to nothing below it therefore leads back and forth to exactly what
lies above it, and a name taken from the stack leads to nothing but names taken from it.
-/
namespace SchemaCodec.Dependency

/-! ## Tables and the stack -/

namespace Search
variable {s : Search} {node x : String}

theorem numOf_enter : (s.enter node).numOf x = if x = node then s.counter else s.numOf x :=
  getD_lookup_cons node x s.counter 0 s.num

theorem lowOf_enter : (s.enter node).lowOf x = if x = node then s.counter else s.lowOf x :=
  getD_lookup_cons node x s.counter 0 s.low

theorem lowOf_lower {number : ℕ} : (s.lower node number).lowOf x =
    if x = node then min (s.lowOf node) number else s.lowOf x :=
  getD_lookup_cons node x (min (s.lowOf node) number) 0 s.low

theorem mem_entered_enter : x ∈ (s.enter node).entered ↔ x = node ∨ x ∈ s.entered := by
  simp [entered,enter]

theorem stack_enter : (s.enter node).stack = node :: s.stack := rfl

theorem popTo_append {above : List String} (h : node ∉ above) (below : List String) :
    popTo node (above ++ node :: below) = (above ++ [node],below) := by
  induction above with
  | nil => simp [popTo]
  | cons member above ih =>
    obtain ⟨hne,h⟩ := not_or.mp (mt List.mem_cons.mpr h)
    rw [List.cons_append,popTo,if_neg (Ne.symm hne),ih h]
    rfl

/-- A name that was entered and taken from the stack. -/
def Done (s : Search) (x : String) : Prop := x ∈ s.entered ∧ x ∉ s.stack

end Search

/-! ## Groups -/

section
variable {graph : Graph} {nodes : List String}

/-- The cycles among the names that are done, each once. -/
structure Grouped (graph : Graph) (nodes : List String) (done : String → Prop)
    (groups : List (List String)) : Prop where
  nodup : ∀ g ∈ groups, g.Nodup
  done_of_mem : ∀ g ∈ groups, ∀ x ∈ g, done x
  component : ∀ g ∈ groups, ∃ a, graph.LeadsIn nodes a a ∧
    ∀ b, b ∈ g ↔ graph.LeadsIn nodes a b ∧ graph.LeadsIn nodes b a
  covered : ∀ a, done a → graph.LeadsIn nodes a a → ∃ g ∈ groups, a ∈ g
  disjoint : groups.Pairwise List.Disjoint

/-- A name and the names that it leads to and that lead back to it. -/
structure Component (graph : Graph) (nodes : List String) (node : String) (group : List String) :
    Prop where
  nodup : group.Nodup
  mem_iff : ∀ b, b ∈ group ↔ graph.ReachesIn nodes node b ∧ graph.ReachesIn nodes b node

variable {node : String} {group : List String}

/-- A component is a cycle if it has more than one name, or if its name depends on itself. -/
theorem Component.cyclic_iff (h : Component graph nodes node group) (hn : node ∈ nodes) :
    (1 < group.length ∨ node ∈ graph.successors node) ↔ graph.LeadsIn nodes node node := by
  have hself : node ∈ group := (h.mem_iff node).mpr ⟨.refl,.refl⟩
  constructor
  · rintro (hlength | hedge)
    · obtain ⟨b,hb,hne⟩ : ∃ b ∈ group, b ≠ node := by
        by_contra hall
        push Not at hall
        have hle := (List.subperm_of_subset h.nodup
          (fun b hb => List.mem_singleton.mpr (hall b hb))).length_le
        rw [List.length_singleton] at hle
        omega
      obtain ⟨hnb,hbn⟩ := (h.mem_iff b).mp hb
      rcases Relation.reflTransGen_iff_eq_or_transGen.mp hnb with he | hnb
      · exact absurd he hne
      · exact hnb.trans_left hbn
    · exact .single ⟨hedge,hn⟩
  · intro hcycle
    obtain ⟨b,hnb,hbn⟩ := Relation.TransGen.head'_iff.mp hcycle
    by_cases hb : b = node
    · exact .inr (hb ▸ hnb.1)
    · have hmem := (h.mem_iff b).mpr ⟨.single hnb,hbn⟩
      have hle := (List.subperm_of_subset (List.nodup_cons.mpr
        ⟨mt List.mem_singleton.mp hb,List.nodup_singleton node⟩)
        (fun c hc => by
          rcases List.mem_cons.mp hc with rfl | hc
          · exact hmem
          · exact List.mem_singleton.mp hc ▸ hself)).length_le
      exact .inl hle

/-- On a cycle, reaching a name in a nonempty path is the same as reaching it at all. -/
theorem Component.mem_iff_leads (h : Component graph nodes node group)
    (hcycle : graph.LeadsIn nodes node node) (b : String) :
    b ∈ group ↔ graph.LeadsIn nodes node b ∧ graph.LeadsIn nodes b node := by
  rw [h.mem_iff b]
  exact ⟨fun ⟨hnb,hbn⟩ => ⟨hcycle.trans_left hnb,Relation.TransGen.trans_right hbn hcycle⟩,
    fun ⟨hnb,hbn⟩ => ⟨hnb.to_reflTransGen,hbn.to_reflTransGen⟩⟩

variable {done done' : String → Prop} {groups : List (List String)}

theorem Grouped.add (hg : Grouped graph nodes done groups) (h : Component graph nodes node group)
    (hnew : ∀ x ∈ group, ¬ done x) (hdone : ∀ x, done' x ↔ done x ∨ x ∈ group)
    (hcycle : graph.LeadsIn nodes node node) : Grouped graph nodes done' (groups ++ [group]) where
  nodup := by simpa [or_imp,forall_and] using ⟨hg.nodup,h.nodup⟩
  done_of_mem g hmem x hx := by
    rcases List.mem_append.mp hmem with hmem | hmem
    · exact (hdone x).mpr (.inl (hg.done_of_mem g hmem x hx))
    · exact (hdone x).mpr (.inr (List.mem_singleton.mp hmem ▸ hx))
  component g hmem := by
    rcases List.mem_append.mp hmem with hmem | hmem
    · exact hg.component g hmem
    · cases List.mem_singleton.mp hmem
      exact ⟨node,hcycle,h.mem_iff_leads hcycle⟩
  covered a ha haa := by
    rcases (hdone a).mp ha with ha | ha
    · obtain ⟨g,hmem,hag⟩ := hg.covered a ha haa
      exact ⟨g,List.mem_append_left _ hmem,hag⟩
    · exact ⟨group,by simp,ha⟩
  disjoint := by
    refine List.pairwise_append.mpr ⟨hg.disjoint,List.pairwise_singleton _ _,fun g hmem g' hg' => ?_⟩
    cases List.mem_singleton.mp hg'
    exact fun x hx hx' => hnew x hx' (hg.done_of_mem g hmem x hx)

theorem Grouped.skip (hg : Grouped graph nodes done groups) (h : Component graph nodes node group)
    (hdone : ∀ x, done' x ↔ done x ∨ x ∈ group) (hn : ¬ graph.LeadsIn nodes node node) :
    Grouped graph nodes done' groups where
  nodup := hg.nodup
  done_of_mem g hmem x hx := (hdone x).mpr (.inl (hg.done_of_mem g hmem x hx))
  component := hg.component
  covered a ha haa := by
    rcases (hdone a).mp ha with ha | ha
    · exact hg.covered a ha haa
    · -- a name that leads to itself makes a cycle of its component
      obtain ⟨hna,han⟩ := (h.mem_iff a).mp ha
      exact absurd ((Relation.TransGen.trans_right hna haa).trans_left han) hn
  disjoint := hg.disjoint

end

/-! ## The invariant -/

/-- A search on its way when the names of `path` are entered and not left. -/
structure Sound (graph : Graph) (nodes path : List String) (s : Search) : Prop where
  nodup : s.entered.Nodup
  subset : ∀ x ∈ s.entered, x ∈ nodes
  num_lt : ∀ x ∈ s.entered, s.numOf x < s.counter
  stack_entered : ∀ x ∈ s.stack, x ∈ s.entered
  descending : s.stack.Pairwise fun a b => s.numOf b < s.numOf a
  mem_onStack : ∀ x, x ∈ s.onStack ↔ x ∈ s.stack
  path_stack : ∀ x ∈ path, x ∈ s.stack
  followed : ∀ x ∈ s.entered, x ∉ path → ∀ y, graph.EdgeIn nodes x y → y ∈ s.entered
  closed : ∀ x, s.Done x → ∀ y, graph.EdgeIn nodes x y → s.Done y
  reaches : ∀ x ∈ path, ∀ y ∈ s.stack, s.numOf x ≤ s.numOf y → graph.ReachesIn nodes x y
  reaches_back : ∀ y ∈ s.stack, ∃ x ∈ path, s.numOf x ≤ s.numOf y ∧ graph.ReachesIn nodes y x
  grouped : Grouped graph nodes s.Done s.components

section Invariant
variable {graph : Graph} {nodes path : List String} {s t u : Search} {node : String}

theorem Sound.not_mem_stack (h : Sound graph nodes path s) (hnew : node ∉ s.entered) :
    node ∉ s.stack :=
  fun hmem => hnew (h.stack_entered node hmem)

theorem Sound.start : Sound graph nodes [] {} := by
  refine ⟨List.nodup_nil,by simp [Search.entered],by simp [Search.entered],by simp,.nil,by simp,
    by simp,by simp [Search.entered],?_,by simp,by simp,?_⟩
  · rintro x ⟨hx,-⟩
    simp [Search.entered] at hx
  · refine ⟨by simp,by simp,by simp,?_,.nil⟩
    rintro a ⟨ha,-⟩
    simp [Search.entered] at ha

theorem Sound.lower (h : Sound graph nodes path s) (number : ℕ) :
    Sound graph nodes path (s.lower node number) :=
  ⟨h.nodup,h.subset,h.num_lt,h.stack_entered,h.descending,h.mem_onStack,h.path_stack,h.followed,
    h.closed,h.reaches,h.reaches_back,h.grouped⟩

/-- A name is entered that every name on the path reaches. -/
theorem Sound.enter (h : Sound graph nodes path s) (hn : node ∈ nodes) (hnew : node ∉ s.entered)
    (hpath : ∀ x ∈ path, graph.ReachesIn nodes x node) :
    Sound graph nodes (node :: path) (s.enter node) := by
  have hold : ∀ x ∈ s.entered, (s.enter node).numOf x = s.numOf x := by
    intro x hx
    rw [Search.numOf_enter,if_neg (by rintro rfl; exact hnew hx)]
  have hself : (s.enter node).numOf node = s.counter := by rw [Search.numOf_enter,if_pos rfl]
  have hstack : ∀ x ∈ s.stack, (s.enter node).numOf x = s.numOf x :=
    fun x hx => hold x (h.stack_entered x hx)
  have hdone : ∀ x, (s.enter node).Done x ↔ s.Done x := by
    intro x
    have hnot := h.not_mem_stack hnew
    simp only [Search.Done,Search.mem_entered_enter,Search.stack_enter,List.mem_cons]
    by_cases hx : x = node
    · simp [hx,hnew]
    · simp [hx]
  refine ⟨List.nodup_cons.mpr ⟨hnew,h.nodup⟩,?_,?_,?_,?_,?_,?_,?_,?_,?_,?_,?_⟩
  · intro x hx
    rcases Search.mem_entered_enter.mp hx with rfl | hx
    · exact hn
    · exact h.subset x hx
  · intro x hx
    rcases Search.mem_entered_enter.mp hx with rfl | hx
    · exact hself ▸ Nat.lt_succ_self _
    · exact hold x hx ▸ (h.num_lt x hx).trans (Nat.lt_succ_self _)
  · intro x hx
    exact Search.mem_entered_enter.mpr ((List.mem_cons.mp hx).imp_right (h.stack_entered x))
  · refine List.pairwise_cons.mpr ⟨fun x hx => ?_,h.descending.imp_of_mem fun ha hb hab => ?_⟩
    · rw [hself,hstack x hx]
      exact h.num_lt x (h.stack_entered x hx)
    · rwa [hstack _ ha,hstack _ hb]
  · intro x
    simp [Search.enter,h.mem_onStack]
  · intro x hx
    exact List.mem_cons.mpr ((List.mem_cons.mp hx).imp_right (h.path_stack x))
  · intro x hx hxp y hxy
    obtain ⟨hne,hxp⟩ := not_or.mp (mt List.mem_cons.mpr hxp)
    have hx := (Search.mem_entered_enter.mp hx).resolve_left hne
    exact Search.mem_entered_enter.mpr (.inr (h.followed x hx hxp y hxy))
  · intro x hx y hxy
    exact (hdone y).mpr (h.closed x ((hdone x).mp hx) y hxy)
  · intro x hx y hy hle
    rcases List.mem_cons.mp hy with rfl | hy
    · rcases List.mem_cons.mp hx with rfl | hx
      · exact .refl
      · exact hpath x hx
    · have hlt := h.num_lt y (h.stack_entered y hy)
      rw [hstack y hy] at hle
      rcases List.mem_cons.mp hx with rfl | hx
      · rw [hself] at hle
        omega
      · rw [hstack x (h.path_stack x hx)] at hle
        exact h.reaches x hx y hy hle
  · intro y hy
    rcases List.mem_cons.mp hy with rfl | hy
    · exact ⟨y,List.mem_cons_self,le_rfl,.refl⟩
    · obtain ⟨x,hx,hle,hyx⟩ := h.reaches_back y hy
      refine ⟨x,List.mem_cons_of_mem _ hx,?_,hyx⟩
      rwa [hstack x (h.path_stack x hx),hstack y hy]
  · rw [show (s.enter node).Done = s.Done from funext fun x => propext (hdone x)]
    exact h.grouped

/-- What was known of the names entered before stays. -/
structure Keeps (s t : Search) : Prop where
  entered : ∀ x ∈ s.entered, x ∈ t.entered
  num : ∀ x ∈ s.entered, t.numOf x = s.numOf x
  low : ∀ x ∈ s.entered, t.lowOf x = s.lowOf x

theorem Keeps.refl (s : Search) : Keeps s s := ⟨fun _ h => h,fun _ _ => rfl,fun _ _ => rfl⟩

theorem Keeps.trans (hst : Keeps s t) (htu : Keeps t u) : Keeps s u where
  entered x hx := htu.entered x (hst.entered x hx)
  num x hx := (htu.num x (hst.entered x hx)).trans (hst.num x hx)
  low x hx := (htu.low x (hst.entered x hx)).trans (hst.low x hx)

theorem Keeps.enter (hnew : node ∉ s.entered) : Keeps s (s.enter node) where
  entered x hx := Search.mem_entered_enter.mpr (.inr hx)
  num x hx := by rw [Search.numOf_enter,if_neg (by rintro rfl; exact hnew hx)]
  low x hx := by rw [Search.lowOf_enter,if_neg (by rintro rfl; exact hnew hx)]

theorem Keeps.lower (h : Keeps s t) (hnew : node ∉ s.entered) (number : ℕ) :
    Keeps s (t.lower node number) where
  entered := h.entered
  num := h.num
  low x hx := by rw [Search.lowOf_lower,if_neg (by rintro rfl; exact hnew hx),h.low x hx]

/-- What the visit of a name comes to. The least number that the name leads back to is the number of
a name below it that it reaches, or all above is taken from the stack. -/
structure Visited (graph : Graph) (nodes path : List String) (s : Search) (node : String)
    (t : Search) : Prop where
  sound : Sound graph nodes path t
  keeps : Keeps s t
  entered : node ∈ t.entered
  stack : ∃ above, t.stack = above ++ s.stack ∧
    (∀ x ∈ above, ∀ y ∈ s.stack, graph.EdgeIn nodes x y → t.lowOf node ≤ s.numOf y) ∧
    ((above = [] ∧ s.counter ≤ t.lowOf node) ∨
      ∃ z ∈ s.stack, t.lowOf node = s.numOf z ∧ graph.ReachesIn nodes node z)

/-- The visit of a name after some of its dependencies were followed. -/
structure Following (graph : Graph) (nodes path : List String) (s : Search) (node : String)
    (seen : List String) (u : Search) : Prop where
  sound : Sound graph nodes (node :: path) u
  keeps : Keeps s u
  num_node : u.numOf node = s.counter
  low_node : u.lowOf node = s.counter ∨
    ∃ z ∈ s.stack, u.lowOf node = s.numOf z ∧ graph.ReachesIn nodes node z
  stack : ∃ above, u.stack = above ++ node :: s.stack ∧
    ∀ x ∈ above, ∀ y ∈ s.stack, graph.EdgeIn nodes x y → u.lowOf node ≤ s.numOf y
  followed : ∀ y ∈ seen, y ∈ u.entered ∧ (y ∈ s.stack → u.lowOf node ≤ s.numOf y)

theorem Following.lt_of_mem (hs : Sound graph nodes path s) {seen : List String}
    (h : Following graph nodes path s node seen u) {x : String} (hx : x ∈ s.stack) :
    u.numOf x < u.numOf node := by
  rw [h.keeps.num x (hs.stack_entered x hx),h.num_node]
  exact hs.num_lt x (hs.stack_entered x hx)

theorem Following.low_le (hs : Sound graph nodes path s) {seen : List String}
    (h : Following graph nodes path s node seen u) : u.lowOf node ≤ s.counter := by
  rcases h.low_node with he | ⟨z,hz,he,-⟩
  · exact he.le
  · exact he ▸ (hs.num_lt z (hs.stack_entered z hz)).le

theorem Following.start (hs : Sound graph nodes path s) (hn : node ∈ nodes)
    (hnew : node ∉ s.entered) (hpath : ∀ x ∈ path, graph.ReachesIn nodes x node) :
    Following graph nodes path s node [] (s.enter node) where
  sound := hs.enter hn hnew hpath
  keeps := .enter hnew
  num_node := by rw [Search.numOf_enter,if_pos rfl]
  low_node := .inl (by rw [Search.lowOf_enter,if_pos rfl])
  stack := ⟨[],rfl,by simp⟩
  followed := by simp

/-- What lies on the stack either lay there before or not below the visited name. -/
theorem Following.mem_below_or_le {seen : List String}
    (h : Following graph nodes path s node seen u) {x : String} (hx : x ∈ u.stack) :
    x ∈ s.stack ∨ s.counter ≤ u.numOf x := by
  obtain ⟨above,habove,-⟩ := h.stack
  have hdescending := h.sound.descending
  rw [habove,List.pairwise_append] at hdescending
  rw [habove,List.mem_append,List.mem_cons] at hx
  rcases hx with hx | rfl | hx
  · exact .inr (h.num_node ▸ hdescending.2.2 x hx node List.mem_cons_self).le
  · exact .inr h.num_node.ge
  · exact .inl hx

/-- One more dependency was followed and leads back to a number. -/
theorem Following.lower (hs : Sound graph nodes path s) (hnew : node ∉ s.entered)
    {seen more : List String} {dependency : String} {number : ℕ}
    (h : Following graph nodes path s node seen u) (ht : Sound graph nodes (node :: path) t)
    (hk : Keeps u t) (hstack : t.stack = more ++ u.stack)
    (hmore : ∀ x ∈ more, ∀ y ∈ u.stack, graph.EdgeIn nodes x y → number ≤ u.numOf y)
    (hnumber : s.counter ≤ number ∨
      ∃ z ∈ s.stack, number = s.numOf z ∧ graph.ReachesIn nodes node z)
    (hentered : dependency ∈ t.entered) (hle : dependency ∈ s.stack → number ≤ s.numOf dependency) :
    Following graph nodes path s node (seen ++ [dependency]) (t.lower node number) := by
  have hnode : node ∈ u.entered := h.sound.stack_entered node (h.sound.path_stack node List.mem_cons_self)
  have hlow : (t.lower node number).lowOf node = min (u.lowOf node) number := by
    rw [Search.lowOf_lower,if_pos rfl,hk.low node hnode]
  have hmin : min (u.lowOf node) number ≤ u.lowOf node := Nat.min_le_left _ _
  obtain ⟨above,habove,hedges⟩ := h.stack
  refine ⟨ht.lower number,(h.keeps.trans hk).lower hnew number,(hk.num node hnode).trans h.num_node,
    ?_,⟨more ++ above,?_,fun x hx y hy hxy => ?_⟩,fun y hy => ?_⟩
  · rw [hlow]
    rcases hnumber with hge | hback
    · rw [Nat.min_eq_left ((h.low_le hs).trans hge)]
      exact h.low_node
    · rcases Nat.le_total (u.lowOf node) number with hle | hle
      · rw [Nat.min_eq_left hle]
        exact h.low_node
      · rw [Nat.min_eq_right hle]
        exact .inr hback
  · rw [List.append_assoc,← habove]
    exact hstack
  · rw [hlow]
    rcases List.mem_append.mp hx with hx | hx
    · have hyu : y ∈ u.stack := habove ▸ List.mem_append_right _ (List.mem_cons_of_mem _ hy)
      rw [← h.keeps.num y (hs.stack_entered y hy)]
      exact (Nat.min_le_right _ _).trans (hmore x hx y hyu hxy)
    · exact hmin.trans (hedges x hx y hy hxy)
  · rw [hlow]
    rcases List.mem_append.mp hy with hy | hy
    · exact ⟨hk.entered y (h.followed y hy).1,fun hys => hmin.trans ((h.followed y hy).2 hys)⟩
    · cases List.mem_singleton.mp hy
      exact ⟨hentered,fun hys => (Nat.min_le_right _ _).trans (hle hys)⟩

/-- One more dependency is followed; `visit` comes to what a visit has to. -/
theorem Following.follow (hs : Sound graph nodes path s) (hnew : node ∉ s.entered)
    {seen : List String} {dependency : String} {visit : Search → String → Search}
    (h : Following graph nodes path s node seen u) (hedge : graph.EdgeIn nodes node dependency)
    (hvisit : dependency ∉ u.entered →
      Visited graph nodes (node :: path) u dependency (visit u dependency)) :
    Following graph nodes path s node (seen ++ [dependency]) (u.follow visit node dependency) := by
  rw [Search.follow]
  by_cases hentered : dependency ∈ u.entered
  · rw [if_neg (not_not_intro hentered)]
    by_cases hstack : dependency ∈ u.stack
    · rw [if_pos ((h.sound.mem_onStack _).mpr hstack)]
      have hstays : u.stack = [] ++ u.stack := rfl
      refine h.lower hs hnew h.sound (.refl u) hstays (by simp) ?_ hentered fun hys =>
        (h.keeps.num _ (hs.stack_entered _ hys)).le
      rcases h.mem_below_or_le hstack with hbelow | hge
      · exact .inr ⟨dependency,hbelow,h.keeps.num _ (hs.stack_entered _ hbelow),.single hedge⟩
      · exact .inl hge
    · rw [if_neg (mt (h.sound.mem_onStack _).mp hstack)]
      obtain ⟨above,habove,-⟩ := h.stack
      refine ⟨h.sound,h.keeps,h.num_node,h.low_node,h.stack,fun y hy => ?_⟩
      rcases List.mem_append.mp hy with hy | hy
      · exact h.followed y hy
      · cases List.mem_singleton.mp hy
        refine ⟨hentered,fun hys => absurd ?_ hstack⟩
        exact habove ▸ List.mem_append_right _ (List.mem_cons_of_mem _ hys)
  · rw [if_pos hentered]
    have hv := hvisit hentered
    obtain ⟨more,hmore,hedges,hlow⟩ := hv.stack
    refine h.lower hs hnew hv.sound hv.keeps hmore hedges ?_ hv.entered fun hys =>
      absurd (h.keeps.entered _ (hs.stack_entered _ hys)) hentered
    rcases hlow with ⟨-,hge⟩ | ⟨z,hz,he,hreach⟩
    · have hlt := h.sound.num_lt node
        (h.sound.stack_entered node (h.sound.path_stack node List.mem_cons_self))
      rw [h.num_node] at hlt
      exact .inl (hlt.le.trans hge)
    · rcases h.mem_below_or_le hz with hbelow | hge
      · rw [h.keeps.num z (hs.stack_entered z hbelow)] at he
        exact .inr ⟨z,hbelow,he,hreach.head hedge⟩
      · exact .inl (he ▸ hge)

theorem Following.follow_all (hs : Sound graph nodes path s) (hnew : node ∉ s.entered)
    {visit : Search → String → Search} (hvisit : ∀ u dependency, Sound graph nodes (node :: path) u →
      s.entered.length < u.entered.length → graph.EdgeIn nodes node dependency →
      dependency ∉ u.entered →
      Visited graph nodes (node :: path) u dependency (visit u dependency))
    (dependencies : List String) (hedges : ∀ y ∈ dependencies, graph.EdgeIn nodes node y)
    {seen : List String} (h : Following graph nodes path s node seen u) :
    Following graph nodes path s node (seen ++ dependencies)
      (dependencies.foldl (Search.follow visit node) u) := by
  induction dependencies generalizing seen u with
  | nil => simpa using h
  | cons dependency rest ih =>
    obtain ⟨hedge,hrest⟩ := List.forall_mem_cons.mp hedges
    have hlength : s.entered.length < u.entered.length := by
      have hsub : ∀ x ∈ node :: s.entered, x ∈ u.entered := List.forall_mem_cons.mpr
        ⟨h.sound.stack_entered node (h.sound.path_stack node List.mem_cons_self),h.keeps.entered⟩
      exact (List.subperm_of_subset (List.nodup_cons.mpr ⟨hnew,hs.nodup⟩) hsub).length_le
    have hnext := h.follow hs hnew hedge (hvisit u dependency h.sound hlength hedge)
    simpa using ih hrest hnext

/-- A property that dependencies hand on holds of all that is reached. -/
theorem of_reachesIn {p : String → Prop} (hp : ∀ x, p x → ∀ y, graph.EdgeIn nodes x y → p y)
    {a b : String} (h : graph.ReachesIn nodes a b) (ha : p a) : p b := by
  induction h with
  | refl => exact ha
  | tail _ hbc ih => exact hp _ ih _ hbc

theorem Following.followed_path {seen : List String}
    (h : Following graph nodes path s node seen u) (hall : ∀ y, graph.EdgeIn nodes node y → y ∈ seen)
    {x y : String} (hx : x ∈ u.entered) (hxp : x ∉ path) (hxy : graph.EdgeIn nodes x y) :
    y ∈ u.entered := by
  by_cases hxn : x = node
  · subst hxn
    exact (h.followed y (hall y hxy)).1
  · exact h.sound.followed x hx (by simp [hxn,hxp]) y hxy

theorem mem_stack_iff {above : List String} (habove : u.stack = above ++ node :: s.stack)
    (x : String) : x ∈ u.stack ↔ x ∈ above ++ [node] ∨ x ∈ s.stack := by
  simp [habove,or_assoc]

section Leave
variable {seen above : List String} (hs : Sound graph nodes path s) (hn : node ∈ nodes)
  (hpath : ∀ x ∈ path, graph.ReachesIn nodes x node)
  (h : Following graph nodes path s node seen u) (habove : u.stack = above ++ node :: s.stack)
  (hedges : ∀ x ∈ above, ∀ y ∈ s.stack, graph.EdgeIn nodes x y → u.lowOf node ≤ s.numOf y)
  (hall : ∀ y, graph.EdgeIn nodes node y → y ∈ seen)
include h habove

theorem Following.lt_of_mem_above {x y : String} (hx : x ∈ above) (hy : y ∈ node :: s.stack) :
    u.numOf y < u.numOf x := by
  have hdescending := h.sound.descending
  rw [habove,List.pairwise_append] at hdescending
  exact hdescending.2.2 x hx y hy

include hs

theorem Following.not_mem_below {x : String} (hx : x ∈ above ++ [node]) : x ∉ s.stack := by
  intro hmem
  rcases List.mem_append.mp hx with hx | hx
  · exact lt_irrefl _ (h.lt_of_mem_above habove hx (List.mem_cons_of_mem _ hmem))
  · cases List.mem_singleton.mp hx
    exact lt_irrefl _ (h.lt_of_mem hs hmem)

include hedges hall

theorem Following.edges {x y : String} (hx : x ∈ above ++ [node]) (hxy : graph.EdgeIn nodes x y) :
    y ∈ u.entered ∧ (y ∈ s.stack → u.lowOf node ≤ s.numOf y) := by
  rcases List.mem_append.mp hx with hx | hx
  · refine ⟨h.sound.followed x (h.sound.stack_entered x (habove ▸ List.mem_append_left _ hx)) ?_ y hxy,
      fun hy => hedges x hx y hy hxy⟩
    intro hmem
    have hle : x ∈ node :: s.stack := List.mem_cons.mpr
      ((List.mem_cons.mp hmem).imp_right (hs.path_stack x))
    exact lt_irrefl _ (h.lt_of_mem_above habove hx hle)
  · cases List.mem_singleton.mp hx
    exact h.followed y (hall y hxy)

/-- A name that leads back to a lower one is left on the stack. -/
theorem Following.stay (hlow : u.lowOf node ≠ u.numOf node) : Visited graph nodes path s node u := by
  have hnode : node ∈ node :: path := List.mem_cons_self
  obtain ⟨z,hz,he,hreach⟩ := h.low_node.resolve_left fun he => hlow (he.trans h.num_node.symm)
  refine ⟨⟨h.sound.nodup,h.sound.subset,h.sound.num_lt,h.sound.stack_entered,h.sound.descending,
    h.sound.mem_onStack,fun x hx => h.sound.path_stack x (List.mem_cons_of_mem _ hx),
    fun x hx hxp y hxy => h.followed_path hall hx hxp hxy,h.sound.closed,
    fun x hx => h.sound.reaches x (List.mem_cons_of_mem _ hx),fun y hy => ?_,h.sound.grouped⟩,
    h.keeps,h.sound.stack_entered node (h.sound.path_stack node hnode),above ++ [node],?_,
    fun x hx y hy hxy => (h.edges hs habove hedges hall hx hxy).2 hy,.inr ⟨z,hz,he,hreach⟩⟩
  · obtain ⟨x,hx,hle,hyx⟩ := h.sound.reaches_back y hy
    rcases List.mem_cons.mp hx with rfl | hx
    · -- the name below that is reached leads back to a name on the path, as the invariant says
      have hzu : z ∈ u.stack := habove ▸ List.mem_append_right _ (List.mem_cons_of_mem _ hz)
      have hlt := h.lt_of_mem hs hz
      obtain ⟨w,hw,hwz,hzw⟩ := h.sound.reaches_back z hzu
      rcases List.mem_cons.mp hw with rfl | hw
      · omega
      · exact ⟨w,hw,by omega,hyx.trans (hreach.trans hzw)⟩
    · exact ⟨x,hx,hle,hyx⟩
  · simpa using habove

include hpath

/-- A name that leads back to nothing below it makes a component of what lies above it. -/
theorem Following.component (hlow : u.lowOf node = u.numOf node) :
    (∀ x, u.Done x ∨ x ∈ above ++ [node] → ∀ y, graph.EdgeIn nodes x y →
      u.Done y ∨ y ∈ above ++ [node]) ∧ Component graph nodes node (above ++ [node]) := by
  have hstack := mem_stack_iff habove
  have hnode : node ∈ node :: path := List.mem_cons_self
  have hclosed : ∀ x, u.Done x ∨ x ∈ above ++ [node] → ∀ y, graph.EdgeIn nodes x y →
      u.Done y ∨ y ∈ above ++ [node] := by
    rintro x (hx | hx) y hxy
    · exact .inl (h.sound.closed x hx y hxy)
    · obtain ⟨hy,hle⟩ := h.edges hs habove hedges hall hx hxy
      by_cases hyg : y ∈ above ++ [node]
      · exact .inr hyg
      · refine .inl ⟨hy,fun hmem => ?_⟩
        have hys := ((hstack y).mp hmem).resolve_left hyg
        have hlt := hs.num_lt y (hs.stack_entered y hys)
        have hle := hle hys
        rw [hlow,h.num_node] at hle
        omega
  refine ⟨hclosed,⟨?_,fun b => ⟨fun hb => ?_,fun ⟨hnb,hbn⟩ => ?_⟩⟩⟩
  · have hnodup : u.stack.Nodup := h.sound.descending.imp fun hlt he => (he ▸ hlt).false
    rw [habove,List.append_cons] at hnodup
    exact hnodup.of_append_left
  · have hbu : b ∈ u.stack := (hstack b).mpr (.inl hb)
    have hle : u.numOf node ≤ u.numOf b := by
      rcases List.mem_append.mp hb with hb | hb
      · exact (h.lt_of_mem_above habove hb List.mem_cons_self).le
      · exact (List.mem_singleton.mp hb ▸ le_rfl)
    refine ⟨h.sound.reaches node hnode b hbu hle,?_⟩
    obtain ⟨x,hx,-,hbx⟩ := h.sound.reaches_back b hbu
    rcases List.mem_cons.mp hx with rfl | hx
    · exact hbx
    · exact hbx.trans (hpath x hx)
  · rcases of_reachesIn hclosed hnb (.inr (by simp)) with hb | hb
    · have hdone := of_reachesIn h.sound.closed hbn hb
      exact absurd (h.sound.path_stack node hnode) hdone.2
    · exact hb

include hn

/-- A name that leads back to nothing below it is taken from the stack with all above it. -/
theorem Following.pop (hlow : u.lowOf node = u.numOf node) {groups : List (List String)}
    (hgroups : Grouped graph nodes (fun x => u.Done x ∨ x ∈ above ++ [node]) groups) :
    Visited graph nodes path s node { u with
      stack := s.stack
      onStack := u.onStack.filter (· ∉ above ++ [node])
      components := groups } := by
  have hstack := mem_stack_iff habove
  have hbelow : ∀ x ∈ s.stack, x ∈ u.stack := fun x hx => (hstack x).mpr (.inr hx)
  have hnot : ∀ x ∈ above ++ [node], x ∉ s.stack := fun _ hx => h.not_mem_below hs habove hx
  have hdone : ∀ x, x ∈ u.entered ∧ x ∉ s.stack ↔ u.Done x ∨ x ∈ above ++ [node] := by
    intro x
    have hnot := hnot x
    have hentered : x ∈ above ++ [node] → x ∈ u.entered :=
      fun hx => h.sound.stack_entered x ((hstack x).mpr (.inl hx))
    rw [Search.Done,hstack x]
    tauto
  obtain ⟨hclosed,-⟩ := h.component hs hpath habove hedges hall hlow
  have hnode := h.sound.path_stack node List.mem_cons_self
  refine ⟨⟨h.sound.nodup,h.sound.subset,h.sound.num_lt,
    fun x hx => h.sound.stack_entered x (hbelow x hx),?_,fun x => ?_,hs.path_stack,
    fun x hx hxp y hxy => h.followed_path hall hx hxp hxy,
    fun x hx y hxy => (hdone y).mpr (hclosed x ((hdone x).mp hx) y hxy),
    fun x hx y hy => h.sound.reaches x (List.mem_cons_of_mem _ hx) y (hbelow y hy),fun y hy => ?_,?_⟩,
    ⟨h.keeps.entered,h.keeps.num,h.keeps.low⟩,h.sound.stack_entered node hnode,[],rfl,by simp,
    .inl ⟨rfl,?_⟩⟩
  · have hdescending := h.sound.descending
    rw [habove,List.pairwise_append] at hdescending
    exact hdescending.2.1.of_cons
  · rw [List.mem_filter,h.sound.mem_onStack,hstack x]
    have hnot := hnot x
    simp only [decide_eq_true_eq]
    tauto
  · -- a name below the one that is left is above no other one than before
    obtain ⟨x,hx,hle,hyx⟩ := h.sound.reaches_back y (hbelow y hy)
    rcases List.mem_cons.mp hx with rfl | hx
    · exact absurd (h.lt_of_mem hs hy) (not_lt.mpr hle)
    · exact ⟨x,hx,hle,hyx⟩
  · convert hgroups using 1
    exact funext fun x => propext (hdone x)
  · exact (hlow.trans h.num_node).ge

theorem Following.leave : Visited graph nodes path s node (u.leave graph node) := by
  rw [Search.leave]
  by_cases hlow : u.lowOf node = u.numOf node
  · obtain ⟨-,hcomponent⟩ := h.component hs hpath habove hedges hall hlow
    have hnot : node ∉ above :=
      fun hmem => lt_irrefl _ (h.lt_of_mem_above habove hmem List.mem_cons_self)
    have hfresh : ∀ x ∈ above ++ [node], ¬ u.Done x := by
      intro x hx hdone
      exact hdone.2 (by rw [habove,List.append_cons]; exact List.mem_append_left _ hx)
    rw [if_pos hlow,habove,Search.popTo_append hnot]
    dsimp only
    by_cases hcycle : 1 < (above ++ [node]).length ∨ node ∈ graph.successors node
    · rw [if_pos hcycle]
      exact h.pop hs hn hpath habove hedges hall hlow (h.sound.grouped.add hcomponent hfresh
        (fun _ => Iff.rfl) ((hcomponent.cyclic_iff hn).mp hcycle))
    · rw [if_neg hcycle]
      exact h.pop hs hn hpath habove hedges hall hlow (h.sound.grouped.skip hcomponent
        (fun _ => Iff.rfl) (mt (hcomponent.cyclic_iff hn).mpr hcycle))
  · rw [if_neg hlow]
    exact h.stay hs habove hedges hall hlow

end Leave

/-! ## Runs -/

theorem mem_ascending {names : List String} {x : String} : x ∈ ascending names ↔ x ∈ names :=
  (List.mergeSort_perm names _).mem_iff

/-- A visit with a level for each name that was not entered comes to what it has to. -/
theorem visited_visit (depth : ℕ) (hs : Sound graph nodes path s)
    (hdepth : nodes.length ≤ s.entered.length + depth) (hn : node ∈ nodes)
    (hnew : node ∉ s.entered) (hpath : ∀ x ∈ path, graph.ReachesIn nodes x node) :
    Visited graph nodes path s node (visit graph nodes depth s node) := by
  induction depth generalizing path s node with
  | zero => exact absurd (mem_of_nodup_of_length_le hs.nodup hs.subset hdepth hn) hnew
  | succ depth ih =>
    have hmem : ∀ y, y ∈ ascending ((graph.successors node).filter (· ∈ nodes)) ↔
        graph.EdgeIn nodes node y := by
      intro y
      simp [mem_ascending,Graph.EdgeIn,Graph.Edge]
    have hvisit : ∀ u dependency, Sound graph nodes (node :: path) u →
        s.entered.length < u.entered.length → graph.EdgeIn nodes node dependency →
        dependency ∉ u.entered → Visited graph nodes (node :: path) u dependency
          (visit graph nodes depth u dependency) := by
      intro u dependency hu hlength hedge hdependency
      refine ih hu (by omega) hedge.2 hdependency fun x hx => ?_
      rcases List.mem_cons.mp hx with rfl | hx
      · exact .single hedge
      · exact (hpath x hx).tail hedge
    have hfollowing := (Following.start hs hn hnew hpath).follow_all hs hnew hvisit _
      fun y hy => (hmem y).mp hy
    obtain ⟨above,habove,hedges⟩ := hfollowing.stack
    exact hfollowing.leave hs hn hpath habove hedges fun y hy => (hmem y).mpr hy

/-- With no name on the path, nothing is left on the stack. -/
theorem Sound.stack_eq_nil (hs : Sound graph nodes [] s) : s.stack = [] := by
  refine List.eq_nil_iff_forall_not_mem.mpr fun y hy => ?_
  obtain ⟨x,hx,-⟩ := hs.reaches_back y hy
  simp at hx

theorem sound_foldl {names : List String} (hnames : ∀ x ∈ names, x ∈ nodes)
    (hs : Sound graph nodes [] s) :
    ∃ t, names.foldl (fun s node =>
        if node ∉ s.entered then visit graph nodes nodes.length s node else s) s = t ∧
      Sound graph nodes [] t ∧ (∀ x ∈ s.entered, x ∈ t.entered) ∧ ∀ x ∈ names, x ∈ t.entered := by
  induction names generalizing s with
  | nil => exact ⟨s,rfl,hs,fun _ h => h,by simp⟩
  | cons node rest ih =>
    obtain ⟨hn,hrest⟩ := List.forall_mem_cons.mp hnames
    rw [List.foldl_cons]
    by_cases hentered : node ∈ s.entered
    · rw [if_neg (not_not_intro hentered)]
      obtain ⟨t,he,ht,hold,hnew⟩ := ih hrest hs
      exact ⟨t,he,ht,hold,List.forall_mem_cons.mpr ⟨hold node hentered,hnew⟩⟩
    · rw [if_pos hentered]
      have hv := visited_visit nodes.length hs (by omega) hn hentered (by simp)
      obtain ⟨t,he,ht,hold,hnew⟩ := ih hrest hv.sound
      exact ⟨t,he,ht,fun x hx => hold x (hv.keeps.entered x hx),
        List.forall_mem_cons.mpr ⟨hold node hv.entered,hnew⟩⟩

/-- The cycles among some names are the classes of those that lead to each other along them. -/
theorem grouped_cycles (graph : Graph) (nodes : List String) :
    Grouped graph nodes (· ∈ nodes) (cycles graph nodes) := by
  have hnames : ∀ x ∈ ascending nodes, x ∈ nodes := fun x hx => mem_ascending.mp hx
  have hstart : Sound graph nodes [] {} := .start
  obtain ⟨t,he,ht,-,hentered⟩ := sound_foldl hnames hstart
  have hdone : t.Done = (· ∈ nodes) := by
    funext x
    rw [Search.Done,ht.stack_eq_nil]
    refine propext ⟨fun hx => ht.subset x hx.1,fun hx => ⟨hentered x (mem_ascending.mpr hx),by simp⟩⟩
  have hgrouped := ht.grouped
  rw [hdone,← he] at hgrouped
  exact hgrouped

end Invariant

/-- Groups of names that are the classes of names leading to each other, each class once. -/
structure CycleGroups (leads : String → String → Prop) (groups : List (List String)) : Prop where
  component : ∀ g ∈ groups, ∃ a, leads a a ∧ ∀ b, b ∈ g ↔ leads a b ∧ leads b a
  covered : ∀ a, leads a a → ∃ g ∈ groups, a ∈ g
  disjoint : groups.Pairwise List.Disjoint

theorem CycleGroups.mem_flatten {leads : String → String → Prop} {groups : List (List String)}
    (h : CycleGroups leads groups) (htrans : ∀ {a b c}, leads a b → leads b c → leads a c)
    {a : String} : a ∈ groups.flatten ↔ leads a a := by
  constructor
  · intro ha
    obtain ⟨g,hg,hag⟩ := List.mem_flatten.mp ha
    obtain ⟨b,-,hb⟩ := h.component g hg
    obtain ⟨hba,hab⟩ := (hb a).mp hag
    exact htrans hab hba
  · intro ha
    obtain ⟨g,hg,hag⟩ := h.covered a ha
    exact List.mem_flatten.mpr ⟨g,hg,hag⟩

/-- The cycles among names that include all names on cycles are the classes of these names. -/
theorem cycles_cycleGroups {graph : Graph} {nodes : List String}
    (hall : ∀ a, graph.Leads a a → a ∈ nodes) : CycleGroups graph.Leads (cycles graph nodes) where
  component g hg := by
    obtain ⟨a,haa,hmem⟩ := (grouped_cycles graph nodes).component g hg
    exact ⟨a,((Graph.leadsIn_and_iff hall).mp ⟨haa,haa⟩).1,
      fun b => (hmem b).trans (Graph.leadsIn_and_iff hall)⟩
  covered a ha := (grouped_cycles graph nodes).covered a (hall a ha)
    ((Graph.leadsIn_and_iff hall).mpr ⟨ha,ha⟩).1
  disjoint := (grouped_cycles graph nodes).disjoint

end SchemaCodec.Dependency
