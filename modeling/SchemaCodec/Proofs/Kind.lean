import SchemaCodec.Proofs.Schema.Build

/-! # Which kinds fields have

The kind of a field is that of its value, held as its cardinality says. The types that a field of an
accepted schema refers to are those of its value alone: keys of maps are scalars.
-/
namespace SchemaCodec

theorem nonempty?_eq_some {name : Option String} {s : String} :
    nonempty? name = some s ↔ name = some s ∧ s ≠ "" := by
  simp [nonempty?,Option.filter_eq_some_iff]

theorem ValueType.kind_cases {v : ValueType} {kind : Kind} (h : v.kind = .ok kind) :
    (∃ t, v.type = .scalar t ∧ kind = .ofScalar t) ∨ ∃ name, nonempty? v.typeName = some name ∧
      ((v.type = .enum ∧ kind = .enum name) ∨ (v.type = .message ∧ kind = .message name)) := by
  unfold ValueType.kind at h
  cases ht : v.type with
  | scalar t =>
    simp only [ht,Except.ok.injEq] at h
    exact .inl ⟨t,rfl,h.symm⟩
  | enum =>
    cases hn : nonempty? v.typeName with
    | none => simp [ht,hn] at h
    | some name =>
      simp only [ht,hn,Except.ok.injEq] at h
      exact .inr ⟨name,rfl,.inl ⟨rfl,h.symm⟩⟩
  | message =>
    cases hn : nonempty? v.typeName with
    | none => simp [ht,hn] at h
    | some name =>
      simp only [ht,hn,Except.ok.injEq] at h
      exact .inr ⟨name,rfl,.inr ⟨rfl,h.symm⟩⟩

/-- How a field holds values of some kind. -/
inductive Field.Holds (f : Field) (value : Kind) : Kind → Prop
  | singular (h : f.cardinality = .singular) : Holds f value value
  | repeated (h : f.cardinality = .repeated) : Holds f value (.repeated value)
  | map (h : f.cardinality = .map) (k : ValueType) (key : Kind) (hk : f.key = some k)
      (hkey : k.kind = .ok key) (hmap : key.isMapKey = true) : Holds f value (.map key value)
  | member (h : f.cardinality = .oneof) (group : String) (hg : f.oneof = some group) :
      Holds f value (.oneof group f.number value)

theorem Field.kind_eq_ok {f : Field} {kind : Kind} (h : f.kind = .ok kind) :
    ∃ value, f.value.kind = .ok value ∧ f.Holds value kind := by
  obtain ⟨value,hv,h⟩ := bind_eq_ok.mp h
  refine ⟨value,hv,?_⟩
  cases hc : f.cardinality with
  | singular =>
    simp only [hc,Except.ok.injEq] at h
    exact h ▸ .singular hc
  | repeated =>
    simp only [hc,Except.ok.injEq] at h
    exact h ▸ .repeated hc
  | map =>
    cases hk : f.key with
    | none => simp [hc,hk] at h
    | some k =>
      simp only [hc,hk] at h
      obtain ⟨key,hkey,h⟩ := bind_eq_ok.mp h
      by_cases hmap : key.isMapKey = true
      · simp only [hmap,↓reduceIte,Except.ok.injEq] at h
        exact h ▸ .map hc k key hk hkey hmap
      · simp [hmap] at h
  | oneof =>
    cases hg : nonempty? f.oneof with
    | none => simp [hc,hg] at h
    | some group =>
      simp only [hc,hg,Except.ok.injEq] at h
      exact h ▸ .member hc group (nonempty?_eq_some.mp hg).1

theorem ValueType.usesMap_kind {v : ValueType} {kind : Kind} (h : v.kind = .ok kind) :
    kind.usesMap = false := by
  rcases v.kind_cases h with ⟨t,-,rfl⟩ | ⟨name,-,⟨-,rfl⟩ | ⟨-,rfl⟩⟩
  · cases t <;> rfl
  · rfl
  · rfl

/-- Only a map uses maps. -/
theorem Field.usesMap_kind_iff {f : Field} {kind : Kind} (h : f.kind = .ok kind) :
    kind.usesMap = true ↔ f.cardinality = .map := by
  obtain ⟨value,hvalue,hholds⟩ := Field.kind_eq_ok h
  have hplain := ValueType.usesMap_kind hvalue
  cases hholds with
  | singular hc | repeated hc | member hc _ _ => simp [Kind.usesMap,hplain,hc]
  | map hc _ _ _ _ _ => exact iff_of_true rfl hc

/-- The only type that a field of an accepted schema refers to is that of its value. -/
theorem Field.Resolved.mem_references {named : List NamedSort} {f : Field}
    (h : f.Resolved named) {name : String} :
    name ∈ f.references ↔ f.value.type.isNamed = true ∧ nonempty? f.value.typeName = some name := by
  have hkey : f.key.toList.filterMap (fun value =>
      if value.type.isNamed then nonempty? value.typeName else none) = [] := by
    refine List.filterMap_eq_nil_iff.mpr fun k hk => ?_
    obtain ⟨-,t,rfl⟩ := h.key k (by simpa using hk)
    rfl
  rw [Field.references,List.filterMap_append,hkey,List.nil_append]
  by_cases hn : f.value.type.isNamed = true
  · simp [hn]
  · simp [hn]

end SchemaCodec
