import SchemaCodec.Codec.Binding
import SchemaCodec.Proofs.Codec.DecodedLines
import SchemaCodec.Proofs.Kind
import SchemaCodec.Proofs.Schema.Index
import SchemaCodec.Proofs.Schema.Names

/-! # Which fields have code

Every field of an accepted schema has a kind, and code that writes and reads it. All that may be
missing is a value to start from: a singular field of an enum without values has none.
-/
namespace SchemaCodec
open Codec

theorem holdsOneof_ofScalar (t : ScalarType) : holdsOneof (.ofScalar t) = false := by
  cases t <;> rfl

theorem namedTypes_ofScalar (t : ScalarType) : namedTypes (.ofScalar t) = [] := by
  cases t <;> rfl

theorem ValueType.holdsOneof_kind {v : ValueType} {kind : Kind} (h : v.kind = .ok kind) :
    holdsOneof kind = false := by
  rcases v.kind_cases h with ⟨t,-,rfl⟩ | ⟨name,-,⟨-,rfl⟩ | ⟨-,rfl⟩⟩
  · exact holdsOneof_ofScalar t
  · rfl
  · rfl

/-- A field is a member of a oneof, under its own number, or there is no oneof in its kind. -/
theorem Field.holdsOneof_kind {f : Field} {kind : Kind} (h : f.kind = .ok kind) :
    (∃ group inner, kind = .oneof group f.number inner ∧ holdsOneof inner = false) ∨
      holdsOneof kind = false := by
  obtain ⟨value,hvalue,hholds⟩ := Field.kind_eq_ok h
  have hinner := ValueType.holdsOneof_kind hvalue
  cases hholds with
  | singular _ => exact .inr hinner
  | repeated _ => exact .inr hinner
  | map _ k key _ hkey _ =>
    right
    simp [holdsOneof,ValueType.holdsOneof_kind hkey,hinner]
  | member _ group _ => exact .inl ⟨group,value,rfl,hinner⟩

section Kinds
variable {named : List NamedSort} {f : Field}

theorem ValueType.Resolved.exists_kind {v : ValueType} (h : v.Resolved named)
    (hnames : ∀ n ∈ named, n.name ≠ "") : ∃ kind, v.kind = .ok kind := by
  rcases h with ⟨t,rfl⟩ | ⟨⟨name,sort⟩,hn,rfl⟩
  · exact ⟨_,rfl⟩
  · have hname : nonempty? (some name) = some name := nonempty?_eq_some.mpr ⟨rfl,hnames _ hn⟩
    cases sort with
    | enum => exact ⟨.enum name,by simp [ValueType.kind,TypeSort.fieldType,hname]⟩
    | message => exact ⟨.message name,by simp [ValueType.kind,TypeSort.fieldType,hname]⟩

/-- Names that are not empty are all that a resolved field needs for a kind. -/
theorem Field.Resolved.exists_kind (h : f.Resolved named) (hf : f.Named)
    (hnames : ∀ n ∈ named, n.name ≠ "") : ∃ kind, f.kind = .ok kind := by
  obtain ⟨value,hvalue⟩ := h.value.exists_kind hnames
  rw [Field.kind,hvalue]
  cases hc : f.cardinality with
  | singular => exact ⟨value,rfl⟩
  | repeated => exact ⟨.repeated value,rfl⟩
  | map =>
    obtain ⟨k,key,hk,hkey,hmap⟩ := hf.key hc
    refine ⟨.map key value,?_⟩
    simp only [hk]
    change (k.kind >>= _) = _
    rw [hkey]
    exact if_pos hmap
  | oneof =>
    obtain ⟨g,hg⟩ := Option.isSome_iff_exists.mp (h.group.mp hc)
    have hgroup : nonempty? f.oneof = some g := nonempty?_eq_some.mpr ⟨hg,(hf.group g hg).ne_empty⟩
    exact ⟨.oneof g f.number value,by simp [bind,Except.bind,hgroup]⟩

/-- The kind of a field names the types that the field refers to. -/
theorem Field.Resolved.mem_namedTypes (h : f.Resolved named) {kind : Kind} (hk : f.kind = .ok kind)
    {name : String} : name ∈ namedTypes kind ↔ name ∈ f.references := by
  obtain ⟨value,hvalue,hholds⟩ := Field.kind_eq_ok hk
  have hown : name ∈ namedTypes value ↔ name ∈ f.references := by
    rw [h.mem_references]
    rcases ValueType.kind_cases hvalue with ⟨t,ht,rfl⟩ | ⟨n,hn,⟨ht,rfl⟩ | ⟨ht,rfl⟩⟩
    · simp [namedTypes_ofScalar,ht,FieldType.isNamed]
    · simp [namedTypes,ht,FieldType.isNamed,hn,eq_comm]
    · simp [namedTypes,ht,FieldType.isNamed,hn,eq_comm]
  cases hholds with
  | singular _ => exact hown
  | repeated _ => exact hown
  | map _ k key hkf hkey _ =>
    obtain ⟨-,t,rfl⟩ := h.key k hkf
    cases hkey
    rw [namedTypes,namedTypes_ofScalar,List.nil_append]
    exact hown
  | member _ group _ => exact hown

end Kinds

namespace Codec
variable {index : TypeIndex}

theorem exists_identifierOf {name : String} (h : index.contains name = true) :
    ∃ identifier, identifierOf index name = .ok identifier := by
  obtain ⟨entry,hentry⟩ := Option.isSome_iff_exists.mp h
  exact ⟨entry.identifier,by rw [identifierOf,hentry]⟩

theorem contains_of_identifierOf {name identifier : String}
    (h : identifierOf index name = .ok identifier) : index.contains name = true := by
  rw [identifierOf] at h
  split at h
  · next entry hfind => rw [TypeIndex.contains,hfind]; rfl
  · cases h

theorem exists_writer {kind : Kind} (h : holdsOneof kind = false) (source : Place) (depth : ℕ) :
    ∃ w, writer kind source depth = .ok w := by
  induction kind generalizing source depth with
  | integer _ _ | float _ | bool | string | bytes | enum _ | message _ => exact ⟨_,rfl⟩
  | repeated element ih =>
    have helement : holdsOneof element = false := h
    obtain ⟨wire,hwire⟩ := wireKind_eq_ok helement
    obtain ⟨body,hbody⟩ := ih helement (.bound (.item depth)) (depth + 1)
    exact ⟨.array source wire (.item depth) body,by simp only [writer,hwire,hbody]; rfl⟩
  | map key value ihk ihv =>
    obtain ⟨hkey,hvalue⟩ := Bool.or_eq_false_iff.mp h
    obtain ⟨keyWire,hkw⟩ := wireKind_eq_ok hkey
    obtain ⟨valueWire,hvw⟩ := wireKind_eq_ok hvalue
    obtain ⟨keyBody,hkb⟩ := ihk hkey (.bound (.key depth)) (depth + 1)
    obtain ⟨valueBody,hvb⟩ := ihv hvalue (.bound (.item depth)) (depth + 1)
    exact ⟨_,by simp only [writer,hkw,hvw,hkb,hvb]; rfl⟩
  | oneof _ _ _ => cases h

theorem exists_reader {kind : Kind} (h : holdsOneof kind = false)
    (hnamed : ∀ name ∈ namedTypes kind, index.contains name = true) (sink : Sink) (depth : ℕ) :
    ∃ r, reader index kind sink depth = .ok r := by
  induction kind generalizing sink depth with
  | integer _ _ | float _ | bool | string | bytes => exact ⟨_,rfl⟩
  | enum name | message name =>
    obtain ⟨type,htype⟩ := typeUse_eq_ok (hnamed name List.mem_cons_self)
    exact ⟨_,by simp only [reader,htype]; rfl⟩
  | repeated element ih =>
    have helement : holdsOneof element = false := h
    obtain ⟨wire,hwire⟩ := wireKind_eq_ok helement
    obtain ⟨body,hbody⟩ := ih helement hnamed (.push (.array depth)) (depth + 1)
    exact ⟨_,by simp only [reader,hwire,hbody]; rfl⟩
  | map key value ihk ihv =>
    obtain ⟨hkey,hvalue⟩ := Bool.or_eq_false_iff.mp h
    obtain ⟨hkn,hvn⟩ := List.forall_mem_append.mp hnamed
    obtain ⟨keyWire,hkw⟩ := wireKind_eq_ok hkey
    obtain ⟨valueWire,hvw⟩ := wireKind_eq_ok hvalue
    obtain ⟨keyBody,hkb⟩ := ihk hkey hkn (.bind (.key depth)) (depth + 1)
    obtain ⟨valueBody,hvb⟩ := ihv hvalue hvn (.insert (.map depth) (.key depth)) (depth + 1)
    exact ⟨_,by simp only [reader,hkw,hvw,hkb,hvb]; rfl⟩
  | oneof _ _ _ => cases h

section Fields
variable {m : Message} {f : Field} {kind : Kind}

theorem exists_variantOf (hm : index.contains m.fullName = true) (f : Field) (group : String) :
    ∃ v, variantOf index m f group = .ok v := by
  obtain ⟨identifier,hid⟩ := exists_identifierOf hm
  exact ⟨_,by rw [variantOf,groupIdentifier,hid]; rfl⟩

theorem exists_fieldWriter_of_plain (h : holdsOneof kind = false) :
    ∃ w, fieldWriter index m f kind = .ok w := by
  obtain ⟨body,hbody⟩ := exists_writer h (.field f.name) 1
  cases kind with
  | oneof _ _ _ => cases h
  | message _ => exact ⟨_,rfl⟩
  | _ => exact ⟨_,by simp only [fieldWriter,hbody]; rfl⟩

variable (hm : index.contains m.fullName = true) (hk : f.kind = .ok kind)
include hm hk

theorem exists_fieldWriter : ∃ w, fieldWriter index m f kind = .ok w := by
  rcases Field.holdsOneof_kind hk with ⟨group,inner,rfl,hinner⟩ | hnone
  · obtain ⟨v,hv⟩ := exists_variantOf hm f group
    obtain ⟨body,hbody⟩ := exists_writer hinner (.bound (.item 1)) 2
    exact ⟨_,by simp only [fieldWriter,hv,hbody]; rfl⟩
  · exact exists_fieldWriter_of_plain hnone

theorem exists_fieldReader (hnamed : ∀ name ∈ namedTypes kind, index.contains name = true) :
    ∃ r, fieldReader index m f kind = .ok r := by
  rcases Field.holdsOneof_kind hk with ⟨group,inner,rfl,hinner⟩ | hnone
  · obtain ⟨v,hv⟩ := exists_variantOf hm f group
    obtain ⟨body,hbody⟩ := exists_reader hinner hnamed (.storeVariant group v (isMessage inner)) 1
    exact ⟨_,by simp only [fieldReader,hv]; change (reader index inner _ 1 >>= _) = _; rw [hbody]; rfl⟩
  · cases kind with
    | oneof _ _ _ => cases hnone
    | message name =>
      obtain ⟨body,hbody⟩ := exists_reader hnone hnamed (.storeSome f.name) 1
      exact ⟨_,by simp only [fieldReader,hbody]; rfl⟩
    | _ =>
      obtain ⟨body,hbody⟩ := exists_reader hnone hnamed (.store f.name) 1
      exact ⟨_,by simp only [fieldReader,hbody]; rfl⟩

end Fields
end Codec
end SchemaCodec
