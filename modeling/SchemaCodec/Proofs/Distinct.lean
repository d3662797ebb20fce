import Mathlib.Data.Finset.Card
import Mathlib.Data.List.Nodup

/-! # Lists without repetitions

What erasing repetitions keeps, how distinct members bound the length of a list, and what is found
under distinct keys.
-/
namespace SchemaCodec
variable {α : Type} [DecidableEq α]

theorem nodup_eraseDups (l : List α) : l.eraseDups.Nodup := by
  induction hn : l.length using Nat.strong_induction_on generalizing l with
  | _ n ih =>
    cases l with
    | nil => simp
    | cons a rest =>
      rw [List.eraseDups_cons,List.nodup_cons]
      have hlen : (rest.filter fun b => !b == a).length < n := by
        rw [← hn,List.length_cons]
        exact Nat.lt_succ_of_le (List.length_filter_le _ _)
      refine ⟨?_,ih _ hlen _ rfl⟩
      simp [List.mem_eraseDups]

theorem eraseDups_of_nodup {l : List α} (h : l.Nodup) : l.eraseDups = l := by
  induction l with
  | nil => rfl
  | cons a rest ih =>
    obtain ⟨ha,hr⟩ := List.nodup_cons.mp h
    have hf : (rest.filter fun b => !b == a) = rest := by
      rw [List.filter_eq_self]
      intro b hb
      have hne : b ≠ a := fun he => ha (he ▸ hb)
      simpa using hne
    rw [List.eraseDups_cons,hf,ih hr]

/-- A duplicate-free list of some of the members that is as long as all of them misses none. -/
theorem mem_of_nodup_of_length_le {seen all : List α} (hn : seen.Nodup)
    (hs : ∀ x ∈ seen, x ∈ all) (hl : all.length ≤ seen.length) {x : α} (hx : x ∈ all) :
    x ∈ seen := by
  have hsub : seen.toFinset ⊆ all.toFinset := by
    intro y hy
    exact List.mem_toFinset.mpr (hs y (List.mem_toFinset.mp hy))
  have hcard : all.toFinset.card ≤ seen.toFinset.card := by
    rw [List.toFinset_card_of_nodup hn]
    exact (List.toFinset_card_le all).trans hl
  have he := Finset.eq_of_subset_of_card_le hsub hcard
  exact List.mem_toFinset.mp (he ▸ List.mem_toFinset.mpr hx)

theorem lookup_of_mem {β : Type} {l : List (α × β)} (hn : (l.map (·.1)).Nodup) {p : α × β}
    (hp : p ∈ l) : l.lookup p.1 = some p.2 := by
  induction l with
  | nil => simp at hp
  | cons first rest ih =>
    obtain ⟨hfirst,hrest⟩ := List.nodup_cons.mp hn
    rcases List.mem_cons.mp hp with rfl | hp
    · exact List.lookup_cons_self
    · have hne : p.1 ≠ first.1 := by
        intro he
        exact hfirst (List.mem_map.mpr ⟨p,hp,he⟩)
      rw [List.lookup_cons,beq_false_of_ne hne]
      exact ih hrest hp

theorem lookup_map_update {β γ : Type} (f : α → β → γ) (l : List (α × β)) (a : α) :
    (l.map fun p => (p.1,f p.1 p.2)).lookup a = (l.lookup a).map (f a) := by
  induction l with
  | nil => rfl
  | cons p rest ih =>
    rw [List.map_cons,List.lookup_cons,List.lookup_cons]
    cases h : a == p.1 with
    | true => rw [eq_of_beq h]; rfl
    | false => exact ih

/-- What a table with a default holds behind a new entry. -/
theorem getD_lookup_cons {β : Type} (key a : α) (b default : β) (l : List (α × β)) :
    (((key,b) :: l).lookup a).getD default =
      if a = key then b else (l.lookup a).getD default := by
  rw [List.lookup_cons]
  by_cases h : a = key
  · simp [h]
  · simp [h,beq_false_of_ne h]

theorem exists_lookup_of_mem {β : Type} {l : List (α × β)} {a : α} (h : a ∈ l.map (·.1)) :
    ∃ b, l.lookup a = some b := by
  obtain ⟨p,hp,rfl⟩ := List.mem_map.mp h
  exact Option.ne_none_iff_exists'.mp fun hnone => by
    simpa using List.lookup_eq_none_iff.mp hnone p hp

omit [DecidableEq α] in
/-- Lists that have each key once are the same but for their order, if they have the same keys and
no key stands for different members. -/
theorem perm_of_keys {β : Type} {key : β → α} {l m : List β} (hl : (l.map key).Nodup)
    (hm : (m.map key).Nodup) (hforth : l.map key ⊆ m.map key) (hback : m.map key ⊆ l.map key)
    (hsame : ∀ a ∈ l, ∀ b ∈ m, key a = key b → a = b) : l.Perm m := by
  refine (List.perm_ext_iff_of_nodup (.of_map key hl) (.of_map key hm)).mpr fun a =>
    ⟨fun ha => ?_,fun ha => ?_⟩
  · obtain ⟨b,hb,hkey⟩ := List.mem_map.mp (hforth (List.mem_map_of_mem ha))
    exact hsame a ha b hb hkey.symm ▸ hb
  · obtain ⟨b,hb,hkey⟩ := List.mem_map.mp (hback (List.mem_map_of_mem ha))
    exact hsame b hb a ha hkey ▸ hb

section Groups
variable {β : Type} (key : β → Option α) (g : α) (l : List β)

/-- The other groups of a list are the groups of its other members. -/
theorem filter_filterMap_ne : (l.filterMap key).filter (fun g' => !g' == g) =
    (l.filter fun a => key a != some g).filterMap key := by
  rw [List.filter_filterMap,List.filterMap_filter]
  refine List.filterMap_congr fun b _ => ?_
  cases hb : key b with
  | none => simp
  | some g' => by_cases hg : g' = g <;> simp [hg]

theorem filter_filter_group {g g' : α} (hne : g' ≠ g) :
    (l.filter fun a => key a != some g).filter (fun a => key a == some g') =
      l.filter fun a => key a == some g' := by
  rw [List.filter_filter]
  refine List.filter_congr fun c _ => ?_
  by_cases hc : key c = some g'
  · simp [hc,hne]
  · simp [hc]

theorem filter_group_append_perm :
    (l.filter (fun a => key a == some g) ++
      (l.filter fun a => key a != some g).filter fun a => (key a).isSome).Perm
      (l.filter fun a => (key a).isSome) := by
  have hmembers : (l.filter fun a => (key a).isSome).filter (fun a => key a == some g) =
      l.filter fun a => key a == some g := by
    rw [List.filter_filter]
    refine List.filter_congr fun a _ => ?_
    cases ha : key a <;> simp
  have hothers : (l.filter fun a => (key a).isSome).filter (fun a => !key a == some g) =
      (l.filter fun a => key a != some g).filter fun a => (key a).isSome := by
    rw [List.filter_filter,List.filter_filter]
    exact List.filter_congr fun a _ => Bool.and_comm ..
  rw [← hmembers,← hothers]
  exact List.filter_append_perm _ _

/-- Taking the members of a list group by group changes their order alone. -/
theorem flatMap_groups_perm :
    (((l.filterMap key).eraseDups).flatMap fun g => l.filter fun a => key a == some g).Perm
      (l.filter fun a => (key a).isSome) := by
  induction hn : l.length using Nat.strong_induction_on generalizing l with
  | _ n ih =>
    cases l with
    | nil => simp
    | cons a rest =>
      have hrest : rest.length < n := by
        simp [← hn]
      cases ha : key a with
      | none =>
        rw [List.filterMap_cons,ha,List.filter_cons_of_neg (by simp [ha])]
        have hgroups : ∀ g, (a :: rest).filter (fun a => key a == some g) =
            rest.filter fun a => key a == some g :=
          fun g => List.filter_cons_of_neg (by simp [ha])
        simp only [hgroups]
        exact ih _ hrest rest rfl
      | some g =>
        have hlength : (rest.filter fun a => key a != some g).length < n :=
          (List.length_filter_le _ rest).trans_lt hrest
        rw [List.filterMap_cons,ha,List.filter_cons_of_pos (by simp [ha]),List.eraseDups_cons,
          List.flatMap_cons,List.filter_cons_of_pos (by simp [ha]),filter_filterMap_ne]
        have hgroups : ∀ g' ∈ ((rest.filter fun a => key a != some g).filterMap key).eraseDups,
            (a :: rest).filter (fun a => key a == some g') =
              (rest.filter fun a => key a != some g).filter fun a => key a == some g' := by
          intro g' hg'
          obtain ⟨b,hb,hkey⟩ := List.mem_filterMap.mp (List.mem_eraseDups.mp hg')
          have hne : g' ≠ g := by
            rintro rfl
            simp [hkey] at hb
          rw [List.filter_cons_of_neg (by simp [ha,hne.symm]),filter_filter_group key rest hne]
        rw [List.flatMap_congr hgroups]
        refine List.Perm.trans ((ih _ hlength _ rfl).append_left _) ?_
        exact (filter_group_append_perm key g rest).cons a

end Groups

end SchemaCodec
