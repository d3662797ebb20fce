import SchemaCodec.Proofs.Semantics.Methods

/-! # Values of schema types

A value of a message is a struct whose slots hold what the fields of the message ask for. Values are
finite: a message holds messages of a smaller depth only.
-/
namespace SchemaCodec.Codec

def IsDatum (type : Primitive) (v : Value) : Prop := ∃ d, v = .datum d ∧ d.type = type

section Fits
variable (index : TypeIndex) (isMessage : String → Value → Prop)

/-- Values of a kind, where `isMessage` says which the values of messages are. -/
def Fits : Kind → Value → Prop
  | .integer bits signed,v => IsDatum (.integer bits signed) v
  | .float bits,v => IsDatum (.float bits) v
  | .bool,v => IsDatum .bool v
  | .string,v => IsDatum .string v
  | .bytes,v => IsDatum .bytes v
  | .enum name,v => ∃ variants, variantsOf index name = some variants ∧
      ∃ x ∈ variants, v = .variant x.name x.number
  | .message name,v => isMessage name v
  | .repeated element,v => ∃ items, v = .array items ∧ ∀ x ∈ items, Fits element x
  | .map key value,v => ∃ entries, v = .map entries ∧ (entries.map (·.1)).Nodup ∧
      ∀ e ∈ entries, Fits key (.datum e.1) ∧ Fits value e.2
  | .oneof _ _ _,_ => False

/-- What the slot of a field holds in a value of its message: a field of a message type may hold
nothing, a oneof holds nothing or one of its members, and any other field a value of its kind. -/
def FitsField (m : Message) (slots : Slot → Value) (f : Field) : Kind → Prop
  | .message type => slots (.field f.name) = .none ∨
      ∃ v, slots (.field f.name) = .some v ∧ isMessage type v
  | .oneof group _ _ => slots (.group group) = .none ∨
      ∃ g ∈ m.fields, ∃ number inner, g.kind = .ok (.oneof group number inner) ∧
        ∃ v, slots (.group group) = .member g.name v ∧ Fits index isMessage inner v
  | kind => Fits index isMessage kind (slots (.field f.name))

/-- The slots of a value of a message; a slot that no field has holds nothing. -/
structure IsStruct (m : Message) (slots : Slot → Value) : Prop where
  fields : ∀ f ∈ m.fields, ∀ kind, f.kind = .ok kind → FitsField index isMessage m slots f kind
  others : ∀ s, (∀ f ∈ m.fields, ∀ kind, f.kind = .ok kind → slotOf f kind ≠ s) → slots s = .none

end Fits

/-- Values of a message in which messages are nested at most `depth` deep. -/
def IsMessage (index : TypeIndex) : (depth : ℕ) → String → Value → Prop
  | 0,_,_ => False
  | depth + 1,name,v => ∃ m slots, messageOf? index name = some m ∧ v = .struct name slots ∧
      IsStruct index (IsMessage index depth) m slots

/-- Values of the struct that is generated for a message. -/
def IsValueOf (index : TypeIndex) (name : String) (v : Value) : Prop :=
  ∃ depth, IsMessage index depth name v

def Part.Fits (index : TypeIndex) (isMessage : String → Value → Prop) : Part → Value → Prop
  | .plain _ kind,v => startsAbsent kind = false ∧ Codec.Fits index isMessage kind v
  | .optional _ type,v => v = .none ∨ ∃ u, v = .some u ∧ isMessage type u
  | .group _ members,v => v = .none ∨
      ∃ member ∈ members, ∃ u, v = .member member.name u ∧ Codec.Fits index isMessage member.kind u

theorem mem_fieldBindings {m : Message} {b : Binding Unit} :
    b ∈ fieldBindings m ↔ b.field ∈ m.fields ∧ b.field.kind = .ok b.kind := by
  constructor
  · intro hb
    obtain ⟨f,hf,hb⟩ := List.mem_filterMap.mp hb
    obtain ⟨kind,hkind,hb⟩ := Option.map_eq_some_iff.mp hb
    subst hb
    cases hk : f.kind with
    | error e =>
      rw [hk] at hkind
      cases hkind
    | ok k =>
      rw [hk] at hkind
      cases hkind
      exact ⟨mem_byNumber.mp hf,rfl⟩
  · rintro ⟨hf,hk⟩
    refine List.mem_filterMap.mpr ⟨b.field,mem_byNumber.mpr hf,?_⟩
    rw [hk]
    rfl

theorem mem_members {m : Message} {name : String} {first : Binding Unit}
    {more : List (Binding Unit)} (hfrom : (Run.group name first more).IsFrom (fieldBindings m))
    {member : Member} : member ∈ (first :: more).filterMap Binding.member? ↔
      ∃ f ∈ m.fields, f.kind = .ok (.oneof name member.number member.kind) ∧
        f.name = member.name := by
  have hfilter : first :: more = (fieldBindings m).filter (·.group? == some name) := hfrom
  rw [hfilter]
  constructor
  · intro hmem
    obtain ⟨⟨f,kind,code⟩,hb,hmember⟩ := List.mem_filterMap.mp hmem
    obtain ⟨hb,hgroup⟩ := List.mem_filter.mp hb
    obtain ⟨hf,hk⟩ := mem_fieldBindings.mp hb
    cases kind with
    | oneof group number inner =>
      cases hmember
      obtain rfl : group = name := by simpa [Binding.group?] using hgroup
      exact ⟨f,hf,hk,rfl⟩
    | _ => cases hmember
  · rintro ⟨f,hf,hk,hname⟩
    refine List.mem_filterMap.mpr ⟨⟨f,.oneof name member.number member.kind,()⟩,?_,?_⟩
    · exact List.mem_filter.mpr ⟨mem_fieldBindings.mpr ⟨hf,hk⟩,by simp [Binding.group?]⟩
    · simp [Binding.member?,hname]

section Struct
variable {index : TypeIndex} {isMessage : String → Value → Prop} {m : Message}
  {slots : Slot → Value} (h : IsStruct index isMessage m slots)
include h

theorem IsStruct.parts : ∀ p ∈ partsOf m, p.Fits index isMessage (slots p.slot) := by
  intro p hp
  obtain ⟨run,hrun,rfl⟩ := List.mem_map.mp hp
  have hfrom := isFrom_of_mem_runs _ run hrun
  cases run with
  | plain b =>
    obtain ⟨hb,hgroup⟩ := hfrom
    obtain ⟨hf,hk⟩ := mem_fieldBindings.mp hb
    have hfield := h.fields _ hf _ hk
    obtain ⟨f,kind,code⟩ := b
    cases kind with
    | message type => exact hfield
    | oneof group number inner => cases hgroup
    | _ => exact ⟨rfl,hfield⟩
  | group name first more =>
    have hfilter : first :: more = (fieldBindings m).filter (·.group? == some name) := hfrom
    have hfirst : first ∈ (fieldBindings m).filter (·.group? == some name) :=
      hfilter ▸ List.mem_cons_self
    obtain ⟨hfirst,hgroup⟩ := List.mem_filter.mp hfirst
    obtain ⟨hf,hk⟩ := mem_fieldBindings.mp hfirst
    have hfield := h.fields _ hf _ hk
    obtain ⟨f,kind,code⟩ := first
    cases kind with
    | oneof group number inner =>
      obtain rfl : group = name := by simpa [Binding.group?] using hgroup
      rcases hfield with hnone | ⟨g,hg,number',inner',hgk,v,hv,hfits⟩
      · exact .inl hnone
      · exact .inr ⟨⟨g.name,number',inner'⟩,(mem_members hfrom).mpr ⟨g,hg,hgk,rfl⟩,v,hv,hfits⟩
    | _ => simp [Binding.group?] at hgroup

theorem IsStruct.others_parts : ∀ s ∉ (partsOf m).map Part.slot, slots s = .none := by
  intro s hs
  refine h.others s fun f hf kind hk hslot => hs ?_
  have hmem : (⟨f,kind,()⟩ : Binding Unit) ∈ fieldBindings m := mem_fieldBindings.mpr ⟨hf,hk⟩
  rw [partsOf,slots_parts,mem_slots_runs]
  exact List.mem_map.mpr ⟨_,hmem,hslot⟩

end Struct

end SchemaCodec.Codec
