import Mathlib.Data.List.Forall2

/-! # Results that may fail

A sequence of steps succeeds exactly when each of its steps does.
-/
namespace SchemaCodec
variable {ε α β : Type}

instance decidableExistsEqOk (x : Except ε α) : Decidable (∃ a, x = .ok a) :=
  match x with
  | .ok a => isTrue ⟨a,rfl⟩
  | .error _ => isFalse fun ⟨_,h⟩ => nomatch h

theorem bind_eq_ok {x : Except ε α} {f : α → Except ε β} {b : β} :
    (x >>= f) = .ok b ↔ ∃ a, x = .ok a ∧ f a = .ok b := by
  cases x <;> simp [bind,Except.bind]

theorem exists_bind_eq_ok_iff {x : Except ε α} {f : α → Except ε β} :
    (∃ b, (x >>= f) = .ok b) ↔ ∃ a, x = .ok a ∧ ∃ b, f a = .ok b := by
  cases x <;> simp [bind,Except.bind]

theorem bind_eq_error {x : Except ε α} {f : α → Except ε β} {e : ε} :
    (x >>= f) = .error e ↔ x = .error e ∨ ∃ a, x = .ok a ∧ f a = .error e := by
  cases x <;> simp [bind,Except.bind]

theorem exists_of_mem_right {r : α → β → Prop} {l : List α} {m : List β}
    (h : List.Forall₂ r l m) {b : β} (hb : b ∈ m) : ∃ a ∈ l, r a b := by
  induction h with
  | nil => simp at hb
  | cons hab _ ih =>
    rcases List.mem_cons.mp hb with rfl | hb
    · exact ⟨_,List.mem_cons_self,hab⟩
    · obtain ⟨a,ha,hr⟩ := ih hb
      exact ⟨a,List.mem_cons_of_mem _ ha,hr⟩

theorem exists_of_mem_left {r : α → β → Prop} {l : List α} {m : List β}
    (h : List.Forall₂ r l m) {a : α} (ha : a ∈ l) : ∃ b ∈ m, r a b := by
  obtain ⟨b,hb,hr⟩ := exists_of_mem_right (List.Forall₂.flip h) ha
  exact ⟨b,hb,hr⟩

/-- A list is related to some list exactly if each of its members is related to something. -/
theorem exists_forall₂_iff {r : α → β → Prop} {l : List α} :
    (∃ m, List.Forall₂ r l m) ↔ ∀ a ∈ l, ∃ b, r a b := by
  constructor
  · rintro ⟨m,hm⟩ a ha
    obtain ⟨b,-,hr⟩ := exists_of_mem_left hm ha
    exact ⟨b,hr⟩
  · intro h
    induction l with
    | nil => exact ⟨[],.nil⟩
    | cons a rest ih =>
      obtain ⟨⟨b,hb⟩,hrest⟩ := List.forall_mem_cons.mp h
      obtain ⟨m,hm⟩ := ih hrest
      exact ⟨b :: m,.cons hb hm⟩

/-- A list is mapped exactly when each of its members is. -/
theorem mapM_eq_ok_iff {f : α → Except ε β} {l : List α} {r : List β} :
    l.mapM f = .ok r ↔ List.Forall₂ (fun a b => f a = .ok b) l r := by
  induction l generalizing r with
  | nil =>
    rw [List.mapM_nil]
    constructor
    · rintro ⟨⟩
      exact .nil
    · rintro ⟨⟩
      rfl
  | cons a rest ih =>
    rw [List.mapM_cons,bind_eq_ok]
    constructor
    · rintro ⟨b,hb,h⟩
      obtain ⟨bs,hbs,he⟩ := bind_eq_ok.mp h
      cases he
      exact .cons hb (ih.mp hbs)
    · rintro ⟨⟩
      rename_i b bs hb hbs
      exact ⟨b,hb,bind_eq_ok.mpr ⟨bs,ih.mpr hbs,rfl⟩⟩

theorem mapM_congr {f g : α → Except ε β} {l : List α} (h : ∀ a ∈ l, f a = g a) :
    l.mapM f = l.mapM g := by
  induction l with
  | nil => rfl
  | cons a rest ih =>
    obtain ⟨ha,hrest⟩ := List.forall_mem_cons.mp h
    rw [List.mapM_cons,List.mapM_cons,ha,ih hrest]

/-- Where a list is mapped, another function maps it alike exactly if it agrees on all members. -/
theorem mapM_eq_mapM_iff {f g : α → Except ε β} {l : List α} (h : ∃ r, l.mapM f = .ok r) :
    l.mapM g = l.mapM f ↔ ∀ a ∈ l, g a = f a := by
  induction l with
  | nil => simp
  | cons a rest ih =>
    obtain ⟨r,hr⟩ := h
    obtain ⟨⟩ := mapM_eq_ok_iff.mp hr
    rename_i b bs hb hbs
    have hrest := ih ⟨bs,mapM_eq_ok_iff.mpr hbs⟩
    rw [List.forall_mem_cons,← hrest,hr]
    constructor
    · intro he
      obtain ⟨⟩ := mapM_eq_ok_iff.mp he
      rename_i hgb hgbs
      exact ⟨hgb.trans hb.symm,(mapM_eq_ok_iff.mpr hgbs).trans (mapM_eq_ok_iff.mpr hbs).symm⟩
    · rintro ⟨ha,hgs⟩
      rw [mapM_eq_ok_iff.mpr hbs] at hgs
      exact mapM_eq_ok_iff.mpr (.cons (ha.trans hb) (mapM_eq_ok_iff.mp hgs))

theorem mapM_eq_some_iff {f : α → Option β} {l : List α} {r : List β} :
    l.mapM f = some r ↔ List.Forall₂ (fun a b => f a = some b) l r := by
  induction l generalizing r with
  | nil => simp [eq_comm]
  | cons a rest ih =>
    rw [List.mapM_cons]
    constructor
    · intro h
      obtain ⟨b,hb,h⟩ := Option.bind_eq_some_iff.mp h
      obtain ⟨bs,hbs,h⟩ := Option.bind_eq_some_iff.mp h
      cases h
      exact .cons hb (ih.mp hbs)
    · rintro ⟨⟩
      rename_i b bs hb hbs
      simp [hb,ih.mpr hbs]

section Steps
variable {σ : Type}

/-- A run makes one step for each member of a list. -/
inductive Steps (step : σ → α → σ → Prop) : σ → List α → σ → Prop
  | nil (s : σ) : Steps step s [] s
  | cons {s t u : σ} {a : α} {l : List α} (h : step s a t) (hl : Steps step t l u) :
    Steps step s (a :: l) u

theorem foldlM_eq_ok_iff {f : σ → α → Except ε σ} {l : List α} {s t : σ} :
    l.foldlM f s = .ok t ↔ Steps (fun s a t => f s a = .ok t) s l t := by
  induction l generalizing s with
  | nil =>
    rw [List.foldlM_nil]
    constructor
    · rintro ⟨⟩
      exact .nil _
    · rintro ⟨⟩
      rfl
  | cons a rest ih =>
    rw [List.foldlM_cons,bind_eq_ok]
    constructor
    · rintro ⟨u,hu,h⟩
      exact .cons hu (ih.mp h)
    · rintro ⟨⟩
      rename_i u hu h
      exact ⟨u,hu,ih.mpr h⟩

theorem foldlM_eq_some_iff {f : σ → α → Option σ} {l : List α} {s t : σ} :
    l.foldlM f s = some t ↔ Steps (fun s a t => f s a = some t) s l t := by
  induction l generalizing s with
  | nil =>
    rw [List.foldlM_nil]
    constructor
    · rintro ⟨⟩
      exact .nil _
    · rintro ⟨⟩
      rfl
  | cons a rest ih =>
    rw [List.foldlM_cons]
    constructor
    · intro h
      obtain ⟨u,hu,h⟩ := Option.bind_eq_some_iff.mp h
      exact .cons hu (ih.mp h)
    · rintro ⟨⟩
      rename_i u hu h
      exact Option.bind_eq_some_iff.mpr ⟨u,hu,ih.mpr h⟩

end Steps

section Option
variable {σ : Type}

theorem exists_bind_eq_some_iff {x : Option α} {f : α → Option β} :
    (∃ b, (x >>= f) = some b) ↔ ∃ a, x = some a ∧ ∃ b, f a = some b := by
  cases x <;> simp

/-- A last step that cannot fail does not matter. -/
theorem exists_bind_some_iff {x : Option α} {g : α → β} :
    (∃ b, (x >>= fun a => some (g a)) = some b) ↔ ∃ a, x = some a := by
  cases x <;> simp

theorem exists_mapM_eq_some_iff {f : α → Option β} {l : List α} :
    (∃ r, l.mapM f = some r) ↔ ∀ a ∈ l, ∃ b, f a = some b := by
  simp only [mapM_eq_some_iff,exists_forall₂_iff]

/-- If the state does not matter for whether a step can be made, all steps can be made exactly if
each of them can. -/
theorem exists_foldlM_eq_some_iff {f : σ → α → Option σ} {P : α → Prop}
    (h : ∀ s a, (∃ t, f s a = some t) ↔ P a) {l : List α} {s : σ} :
    (∃ t, l.foldlM f s = some t) ↔ ∀ a ∈ l, P a := by
  induction l generalizing s with
  | nil => simp
  | cons a rest ih =>
    rw [List.foldlM_cons,exists_bind_eq_some_iff,List.forall_mem_cons,← h s a]
    constructor
    · rintro ⟨t,ht,hrest⟩
      exact ⟨⟨t,ht⟩,ih.mp hrest⟩
    · rintro ⟨⟨t,ht⟩,hrest⟩
      exact ⟨t,ht,ih.mpr hrest⟩

end Option

/-- All members of a list are mapped if each of them is. -/
theorem exists_mapM_eq_ok_iff {f : α → Except ε β} {l : List α} :
    (∃ r, l.mapM f = .ok r) ↔ ∀ a ∈ l, ∃ b, f a = .ok b := by
  simp only [mapM_eq_ok_iff,exists_forall₂_iff]

/-- What keeps a list from being mapped keeps the first member from it that is not mapped. -/
theorem mapM_eq_error {f : α → Except ε β} {l : List α} {e : ε} :
    l.mapM f = .error e ↔ ∃ before a after, l = before ++ a :: after ∧
      (∀ b ∈ before, ∃ r, f b = .ok r) ∧ f a = .error e := by
  induction l with
  | nil => simp [pure,Except.pure]
  | cons a rest ih =>
    rw [List.mapM_cons,bind_eq_error]
    constructor
    · rintro (ha | ⟨r,hr,h⟩)
      · exact ⟨[],a,rest,rfl,by simp,ha⟩
      · rcases bind_eq_error.mp h with h | ⟨_,-,h⟩
        · obtain ⟨before,b,after,rfl,hbefore,hb⟩ := ih.mp h
          exact ⟨a :: before,b,after,rfl,List.forall_mem_cons.mpr ⟨⟨r,hr⟩,hbefore⟩,hb⟩
        · cases h
    · rintro ⟨before,b,after,he,hbefore,hb⟩
      cases before with
      | nil =>
        obtain ⟨rfl,rfl⟩ := List.cons.inj he
        exact .inl hb
      | cons c before =>
        obtain ⟨rfl,rfl⟩ := List.cons.inj he
        obtain ⟨⟨r,hr⟩,hbefore⟩ := List.forall_mem_cons.mp hbefore
        exact .inr ⟨r,hr,bind_eq_error.mpr (.inl (ih.mpr ⟨before,b,after,rfl,hbefore,hb⟩))⟩

/-- What a computation fails with, if it fails, is among certain errors. -/
def FailsWith (P : ε → Prop) (x : Except ε α) : Prop := ∀ e, x = .error e → P e

section FailsWith
variable {σ : Type} {P : ε → Prop}

theorem failsWith_ok (a : α) : FailsWith P (.ok a) := fun _ h => nomatch h

theorem failsWith_error {e : ε} (h : P e) : FailsWith P (.error e : Except ε α) := by
  rintro _ ⟨⟩
  exact h

theorem FailsWith.bind {x : Except ε α} {f : α → Except ε β} (hx : FailsWith P x)
    (hf : ∀ a, FailsWith P (f a)) : FailsWith P (x >>= f) := by
  intro e h
  rcases bind_eq_error.mp h with h | ⟨a,-,h⟩
  · exact hx e h
  · exact hf a e h

theorem failsWith_mapM {f : α → Except ε β} (h : ∀ a, FailsWith P (f a)) (l : List α) :
    FailsWith P (l.mapM f) := by
  intro e he
  obtain ⟨_,a,_,-,-,ha⟩ := mapM_eq_error.mp he
  exact h a e ha

theorem failsWith_foldlM {f : σ → α → Except ε σ} (h : ∀ s a, FailsWith P (f s a))
    (l : List α) (s : σ) : FailsWith P (l.foldlM f s) := by
  induction l generalizing s with
  | nil => exact failsWith_ok s
  | cons a rest ih =>
    rw [List.foldlM_cons]
    exact (h s a).bind ih

end FailsWith

theorem forall₂_comp {α β γ : Type} {r : α → β → Prop} {s : β → γ → Prop} {l : List α}
    {m : List β} {n : List γ} (hlm : List.Forall₂ r l m) (hmn : List.Forall₂ s m n) :
    List.Forall₂ (fun a c => ∃ b, r a b ∧ s b c) l n := by
  induction hlm generalizing n with
  | nil =>
    cases hmn
    exact .nil
  | cons hab _ ih =>
    cases hmn with
    | cons hbc hrest => exact .cons ⟨_,hab,hbc⟩ (ih hrest)

/-- Lists that are related through something between their members have a list between them. -/
theorem exists_forall₂_comp {γ : Type} {r : α → β → Prop} {s : β → γ → Prop} {l : List α}
    {n : List γ} (h : List.Forall₂ (fun a c => ∃ b, r a b ∧ s b c) l n) :
    ∃ m, List.Forall₂ r l m ∧ List.Forall₂ s m n := by
  induction h with
  | nil => exact ⟨[],.nil,.nil⟩
  | cons hac _ ih =>
    obtain ⟨b,hr,hs⟩ := hac
    obtain ⟨m,hm,hn⟩ := ih
    exact ⟨b :: m,.cons hr hm,.cons hs hn⟩

theorem exists_getElem?_of_forall₂ {r : α → β → Prop} {l : List α} {m : List β}
    (h : List.Forall₂ r l m) {i : ℕ} {a : α} (ha : l[i]? = some a) :
    ∃ b, m[i]? = some b ∧ r a b := by
  induction h generalizing i with
  | nil => simp at ha
  | @cons _ b _ _ hab _ ih =>
    cases i with
    | zero =>
      simp only [List.getElem?_cons_zero,Option.some.injEq] at ha
      exact ⟨b,rfl,ha ▸ hab⟩
    | succ i => exact ih ha

/-- Lists whose members agree under two readings are read as the same list. -/
theorem map_eq_map {γ : Type} {f : α → γ} {g : β → γ} {l : List α} {m : List β}
    (h : List.Forall₂ (fun a b => g b = f a) l m) : m.map g = l.map f := by
  induction h with
  | nil => rfl
  | cons hab _ ih => rw [List.map_cons,List.map_cons,hab,ih]

end SchemaCodec
