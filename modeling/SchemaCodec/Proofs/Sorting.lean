import Mathlib

/-! # Stable sorting

A list is put into ascending order of a key. What has the same key keeps its order, so that the key
and the list say all about the result.
-/
namespace SchemaCodec
variable {α ι : Type} [LinearOrder ι] {key : α → ι} {l sorted : List α}

/-- A list in ascending order of a key: nothing is lost or added, and what has the same key stands in
the order it had. -/
structure SortedBy (key : α → ι) (l sorted : List α) : Prop where
  perm : sorted.Perm l
  ascending : sorted.Pairwise fun a b => key a ≤ key b
  stable : ∀ k, sorted.filter (fun a => key a = k) = l.filter fun a => key a = k

theorem decide_key_trans (key : α → ι) (a b c : α) (hab : decide (key a ≤ key b) = true)
    (hbc : decide (key b ≤ key c) = true) : decide (key a ≤ key c) = true :=
  decide_eq_true ((of_decide_eq_true hab).trans (of_decide_eq_true hbc))

theorem decide_key_total (key : α → ι) (a b : α) :
    (decide (key a ≤ key b) || decide (key b ≤ key a)) = true := by
  simp only [Bool.or_eq_true,decide_eq_true_eq]
  exact le_total _ _

theorem sortedBy_mergeSort (key : α → ι) (l : List α) :
    SortedBy key l (l.mergeSort fun a b => decide (key a ≤ key b)) := by
  have htrans := decide_key_trans key
  have htotal := decide_key_total key
  have hperm := List.mergeSort_perm l fun a b => decide (key a ≤ key b)
  refine ⟨hperm,(List.pairwise_mergeSort htrans htotal l).imp of_decide_eq_true,fun k => ?_⟩
  -- what has the key is in order already, so it is kept as it is
  have hties : (l.filter fun a => key a = k).Pairwise fun a b => decide (key a ≤ key b) = true := by
    refine List.pairwise_of_forall_mem_list fun a ha b hb => ?_
    rw [List.mem_filter,decide_eq_true_eq] at ha hb
    exact decide_eq_true (ha.2.trans hb.2.symm).le
  have hsub := (List.sublist_mergeSort htrans htotal hties List.filter_sublist).filter
    fun a => decide (key a = k)
  rw [List.filter_filter] at hsub
  simp only [Bool.and_self] at hsub
  exact (hsub.eq_of_length (hperm.filter _).length_eq.symm).symm

theorem mergeSort_eq_insertionSort (key : α → ι) (l : List α) :
    l.mergeSort (fun a b => decide (key a ≤ key b)) = l.insertionSort fun a b => key a ≤ key b := by
  have htrans := decide_key_trans key
  have htotal := decide_key_total key
  induction l with
  | nil => rw [List.mergeSort_nil,List.insertionSort_nil]
  | cons a l ih =>
    obtain ⟨before,after,hcons,hrest,hbefore⟩ := List.mergeSort_cons htrans htotal a l
    have hsorted := List.pairwise_mergeSort htrans htotal (a :: l)
    rw [hcons,List.pairwise_append,List.pairwise_cons] at hsorted
    have hbefore : ∀ b ∈ before, (decide ¬ key a ≤ key b) = true := fun b hb => by
      simpa using hbefore b hb
    rw [List.insertionSort_cons,← ih,hcons,hrest,List.orderedInsert_eq_take_drop,
      List.takeWhile_append_of_pos hbefore,List.dropWhile_append_of_pos hbefore]
    -- nothing behind the new member is passed over, since its first member is no less
    cases after with
    | nil => simp
    | cons c after =>
      have hc : key a ≤ key c := of_decide_eq_true (hsorted.2.1.1 c List.mem_cons_self)
      simp [hc]

theorem mem_iff_of_filters {s t : List α}
    (h : ∀ k, (s.filter fun a => key a = k) = t.filter fun a => key a = k) (a : α) :
    a ∈ s ↔ a ∈ t := by
  have ha : a ∈ s.filter (fun b => key b = key a) ↔ a ∈ t.filter fun b => key b = key a := by
    rw [h]
  simpa using ha

/-- In ascending order, what stands for each key says all. -/
theorem eq_of_ascending {s t : List α} (hs : s.Pairwise fun a b => key a ≤ key b)
    (ht : t.Pairwise fun a b => key a ≤ key b)
    (h : ∀ k, (s.filter fun a => key a = k) = t.filter fun a => key a = k) : s = t := by
  induction s generalizing t with
  | nil =>
    refine (List.eq_nil_iff_forall_not_mem.mpr fun a ha => ?_).symm
    simpa using (mem_iff_of_filters h a).mpr ha
  | cons a s ih =>
    cases t with
    | nil => simpa using (mem_iff_of_filters h a).mp List.mem_cons_self
    | cons b t =>
      obtain ⟨hfirst,hrest⟩ := List.pairwise_cons.mp hs
      obtain ⟨hfirst',hrest'⟩ := List.pairwise_cons.mp ht
      have hle : key a ≤ key b := by
        rcases List.mem_cons.mp ((mem_iff_of_filters h b).mpr List.mem_cons_self) with rfl | hb
        · exact le_rfl
        · exact hfirst b hb
      have hge : key b ≤ key a := by
        rcases List.mem_cons.mp ((mem_iff_of_filters h a).mp List.mem_cons_self) with rfl | ha
        · exact le_rfl
        · exact hfirst' a ha
      have hkey : key b = key a := le_antisymm hge hle
      have hheads := h (key a)
      rw [List.filter_cons_of_pos (by simp),List.filter_cons_of_pos (by simp [hkey])] at hheads
      obtain ⟨rfl,-⟩ := List.cons.inj hheads
      refine congrArg (a :: ·) (ih hrest hrest' fun k => ?_)
      have hk := h k
      by_cases ha : key a = k
      · rw [List.filter_cons_of_pos (by simpa using ha),
          List.filter_cons_of_pos (by simpa using ha)] at hk
        exact (List.cons.inj hk).2
      · rwa [List.filter_cons_of_neg (by simpa using ha),
          List.filter_cons_of_neg (by simpa using ha)] at hk

/-- What has a property stands behind what has it not exactly if nothing before has it. -/
theorem filter_append_filter_eq_iff {p : α → Bool} :
    l.filter (!p ·) ++ l.filter p = l ↔ l.Pairwise fun a b => p a = true → p b = true := by
  constructor
  · intro h
    rw [← h]
    refine List.pairwise_append.mpr ⟨?_,?_,?_⟩
    · refine List.pairwise_of_forall_mem_list fun a ha b _ hp => ?_
      simp [hp] at ha
    · exact List.pairwise_of_forall_mem_list fun a _ b hb _ => (List.mem_filter.mp hb).2
    · exact fun a _ b hb _ => (List.mem_filter.mp hb).2
  · intro h
    induction l with
    | nil => rfl
    | cons a rest ih =>
      obtain ⟨hfirst,hrest⟩ := List.pairwise_cons.mp h
      by_cases ha : p a = true
      · have hall : ∀ b ∈ rest, p b = true := fun b hb => hfirst b hb ha
        rw [List.filter_cons_of_neg (by simp [ha]),List.filter_cons_of_pos ha,
          List.filter_eq_self.mpr hall,List.filter_eq_nil_iff.mpr (by simpa using hall),
          List.nil_append]
      · rw [List.filter_cons_of_pos (by simpa using ha),List.filter_cons_of_neg ha,List.cons_append,
          ih hrest]

theorem pairwise_ties_iff {R : α → α → Prop} :
    (∀ k, (l.filter fun a => key a = k).Pairwise R) ↔
      l.Pairwise fun a b => key a = key b → R a b := by
  simp only [List.pairwise_filter,decide_eq_true_eq]
  simp only [List.pairwise_iff_forall_sublist]
  constructor
  · exact fun h a b hsub he => h (key b) hsub he rfl
  · exact fun h k a b hsub ha hb => h hsub (ha.trans hb.symm)

/-- A list that is sorted by a key, after what has a property was put behind the rest, comes out as
it was exactly if it was in order and nothing with the property stood before something of the same
key without it. -/
theorem SortedBy.eq_iff {p : α → Bool} (hl : l.Pairwise fun a b => key a ≤ key b)
    (h : SortedBy key (l.filter (!p ·) ++ l.filter p) sorted) :
    sorted = l ↔ l.Pairwise fun a b => key a = key b → p a = true → p b = true := by
  have hties : ∀ k, (l.filter (!p ·) ++ l.filter p).filter (fun a => key a = k) =
      (l.filter fun a => key a = k).filter (!p ·) ++ (l.filter fun a => key a = k).filter p := by
    intro k
    rw [List.filter_append,List.filter_filter,List.filter_filter,List.filter_filter,
      List.filter_filter]
    simp only [Bool.and_comm]
  have hsame : sorted = l ↔
      ∀ k, (sorted.filter fun a => key a = k) = l.filter fun a => key a = k :=
    ⟨fun he _ => he ▸ rfl,eq_of_ascending h.ascending hl⟩
  rw [hsame,← pairwise_ties_iff]
  refine forall_congr' fun k => ?_
  rw [h.stable,hties,filter_append_filter_eq_iff]

end SchemaCodec
