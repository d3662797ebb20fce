import SchemaCodec.Proofs.Semantics.Typing

/-! # Carrying a value over a stream

A trace carries a value if writing the value leaves the trace and reading the trace gives the value
back, exactly where nothing misleads the reader. Traces carry lists item by item.
-/
namespace SchemaCodec.Codec
variable {β γ : Type}

/-- Writing gives the trace, and reading its tokens gives `v` and leaves what follows, if the trace is
clear. A reading whose result is the same as `v` shows that it is. Methods may call each other `depth`
deep or deeper. -/
structure Carries (write : ℕ → Option Trace) (read : ℕ → List Token → Option (β × List Token))
    (same : β → Prop) (least : ℕ) (v : β) (trace : Trace) : Prop where
  written : ∀ depth ≥ least, write depth = some trace
  forth : ∀ depth ≥ least, ∀ rest, Clear trace rest →
    read depth (tokens trace ++ rest) = some (v,rest)
  back : ∀ depth rest w after, read depth (tokens trace ++ rest) = some (w,after) → same w →
    Clear trace rest ∧ after = rest

theorem clear_token {t : Token} {rest : List Token} : Clear [.token t] rest := trivial

theorem carries_token {read : List Token → Option (β × List Token)} {same : β → Prop} {v : β}
    {t : Token} (h : ∀ rest, read (t :: rest) = some (v,rest)) (least : ℕ) :
    Carries (fun _ => some [.token t]) (fun _ => read) same least v [.token t] where
  written _ _ := rfl
  forth _ _ rest _ := h rest
  back _ rest w after hread _ := by
    have he := (h rest).symm.trans hread
    cases he
    exact ⟨clear_token,rfl⟩

theorem readItems_succ_eq_some {read : List Token → Option (β × List Token)} {n : ℕ}
    {stream after : List Token} {ys : List β}
    (h : readItems read (n + 1) stream = some (ys,after)) : ∃ y next zs,
      read stream = some (y,next) ∧ readItems read n next = some (zs,after) ∧ ys = y :: zs := by
  cases hy : read stream with
  | none =>
    rw [readItems,hy] at h
    cases h
  | some p =>
    rw [readItems_succ n hy] at h
    obtain ⟨q,hq,he⟩ := Option.map_eq_some_iff.mp h
    cases he
    exact ⟨p.1,p.2,q.1,rfl,hq,rfl⟩

theorem carries_items {write : ℕ → β → Option Trace}
    {read : ℕ → List Token → Option (β × List Token)} {same : β → β → Prop} {least : ℕ}
    {xs : List β}
    (h : ∀ x ∈ xs, ∃ trace, Carries (fun depth => write depth x) read (same x) least x trace) :
    ∃ trace, Carries (fun depth => (xs.mapM (write depth)).map List.flatten)
      (fun depth => readItems (read depth) xs.length) (List.Forall₂ same xs) least xs trace := by
  induction xs with
  | nil =>
    refine ⟨[],fun _ _ => rfl,fun _ _ _ _ => rfl,fun _ rest w after hread _ => ?_⟩
    cases hread
    exact ⟨trivial,rfl⟩
  | cons x xs ih =>
    obtain ⟨first,hfirst⟩ := h x List.mem_cons_self
    obtain ⟨later,hlater⟩ := ih fun y hy => h y (List.mem_cons_of_mem x hy)
    refine ⟨first ++ later,?_,?_,?_⟩
    · intro depth hdepth
      obtain ⟨parts,hparts,hflatten⟩ := Option.map_eq_some_iff.mp (hlater.written depth hdepth)
      have hx := hfirst.written depth hdepth
      rw [List.mapM_cons,hx,hparts,← hflatten]
      rfl
    · intro depth hdepth rest hclear
      obtain ⟨hx,hxs⟩ := clear_append.mp hclear
      have hread := hfirst.forth depth hdepth _ hx
      rw [tokens_append,List.append_assoc,List.length_cons,readItems_succ _ hread,
        hlater.forth depth hdepth rest hxs]
      rfl
    · intro depth rest ys after hread hsame
      rw [tokens_append,List.append_assoc] at hread
      obtain ⟨y,next,zs,hy,hzs,rfl⟩ := readItems_succ_eq_some hread
      obtain ⟨hxy,hxs⟩ := List.forall₂_cons.mp hsame
      obtain ⟨hclear,rfl⟩ := hfirst.back depth _ y next hy hxy
      obtain ⟨hclears,rfl⟩ := hlater.back depth rest zs after hzs hxs
      exact ⟨clear_append.mpr ⟨hclear,hclears⟩,rfl⟩

/-- A token in front of a trace, whose reading leads on to the reading of the trace. -/
theorem Carries.cons {write : ℕ → Option Trace} {read : ℕ → List Token → Option (γ × List Token)}
    {same : γ → Prop} {least : ℕ} {v : γ} {trace : Trace} (h : Carries write read same least v trace)
    {t : Token} {r : ℕ → List Token → Option (β × List Token)} {s : β → Prop} {f : γ → β}
    (hread : ∀ depth stream, r depth (t :: stream) =
      (read depth stream).map fun p => (f p.1,p.2))
    (hsame : ∀ depth stream w after, read depth stream = some (w,after) → s (f w) → same w) :
    Carries (fun depth => (write depth).map (.token t :: ·)) r s least (f v)
      (.token t :: trace) where
  written depth hdepth := by
    rw [h.written depth hdepth]
    rfl
  forth depth hdepth rest hclear := by
    rw [tokens_token,List.cons_append,hread,h.forth depth hdepth rest hclear]
    rfl
  back depth rest w after hw hs := by
    rw [tokens_token,List.cons_append,hread] at hw
    obtain ⟨⟨x,next⟩,hx,he⟩ := Option.map_eq_some_iff.mp hw
    cases he
    exact h.back depth rest x next hx (hsame _ _ x next hx hs)

end SchemaCodec.Codec
