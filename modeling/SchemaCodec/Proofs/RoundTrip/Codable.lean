import SchemaCodec.Proofs.Codec.Bindings
import SchemaCodec.Proofs.Generation
import SchemaCodec.Proofs.Rendering.EnumLayout
import SchemaCodec.Proofs.RoundTrip.Messages

/-! # Generated code can carry its values

Where code is generated without errors, every message has both methods, the fields of a message
differ in their names and numbers, the variants of an enum in their numbers, and no oneof is nested.
-/
namespace SchemaCodec
open Codec

namespace Codec

theorem member?_of_group {m : Message} {b : Binding Unit} (hb : b ∈ fieldBindings m) {g : String}
    (hg : b.group? = some g) : ∃ inner, b.member? = some ⟨b.field.name,b.field.number,inner⟩ ∧
      holdsOneof inner = false := by
  obtain ⟨-,hk⟩ := mem_fieldBindings.mp hb
  obtain ⟨field,kind,code⟩ := b
  have hk : field.kind = .ok kind := hk
  rcases Field.holdsOneof_kind hk with ⟨group,inner,rfl,hinner⟩ | hnone
  · exact ⟨inner,rfl,hinner⟩
  · cases kind with
    | oneof group number inner => cases hnone
    | _ => cases hg

section Members
variable {m : Message} {name : String} {first : Binding Unit} {more : List (Binding Unit)}
  (hfilter : first :: more = (fieldBindings m).filter (·.group? == some name))
include hfilter

theorem member?_of_mem {b : Binding Unit} (hb : b ∈ first :: more) : b.field ∈ m.fields ∧
    ∃ inner, b.member? = some ⟨b.field.name,b.field.number,inner⟩ ∧ holdsOneof inner = false := by
  rw [hfilter] at hb
  obtain ⟨hb,hgroup⟩ := List.mem_filter.mp hb
  exact ⟨(mem_fieldBindings.mp hb).1,member?_of_group hb (by simpa using hgroup)⟩

/-- What differs from field to field of a message differs from member to member of a oneof. -/
theorem nodup_members {β : Type} {key : Member → β} {key' : Field → β}
    (heq : ∀ (f : Field) inner, key ⟨f.name,f.number,inner⟩ = key' f)
    (hnodup : (m.fields.map key').Nodup) :
    (((first :: more).filterMap Binding.member?).map key).Nodup := by
  have hmap : ((first :: more).filterMap Binding.member?).map key =
      (first :: more).map fun b => key' b.field := by
    rw [List.map_filterMap,← List.filterMap_eq_map]
    refine List.filterMap_congr fun b hb => ?_
    obtain ⟨-,inner,hinner,-⟩ := member?_of_mem hfilter hb
    rw [hinner,Option.map_some,heq]
    rfl
  rw [hmap,hfilter]
  exact (nodup_fieldBindings hnodup).sublist (List.filter_sublist.map _)

theorem sound_group (hnames : (m.fields.map (·.name)).Nodup)
    (hnumbers : (m.fields.map (·.number)).Nodup)
    (hrange : ∀ f ∈ m.fields, 1 ≤ f.number ∧ f.number ≤ maxFieldNumber) :
    (Part.group name ((first :: more).filterMap Binding.member?)).Sound := by
  refine ⟨nodup_members hfilter (fun _ _ => rfl) hnames,
    nodup_members hfilter (fun _ _ => rfl) hnumbers,fun member hmem => ?_⟩
  obtain ⟨b,hb,hbm⟩ := List.mem_filterMap.mp hmem
  obtain ⟨hf,inner,hinner,hnone⟩ := member?_of_mem hfilter hb
  rw [hinner] at hbm
  cases hbm
  obtain ⟨hlow,hhigh⟩ := hrange b.field hf
  have hmax : maxFieldNumber = 536870911 := rfl
  refine ⟨⟨?_,?_⟩,hnone⟩
  · change 0 ≤ b.field.number
    omega
  · change b.field.number < 4294967296
    omega

end Members

/-- The parts of a message are sound, if its fields differ in names and numbers. -/
theorem sound_parts {m : Message} (hnames : (m.fields.map (·.name)).Nodup)
    (hnumbers : (m.fields.map (·.number)).Nodup)
    (hrange : ∀ f ∈ m.fields, 1 ≤ f.number ∧ f.number ≤ maxFieldNumber) :
    ∀ p ∈ partsOf m, p.Sound := by
  intro p hp
  obtain ⟨run,hrun,rfl⟩ := List.mem_map.mp hp
  have hfrom := isFrom_of_mem_runs _ run hrun
  cases run with
  | plain b =>
    obtain ⟨hb,hgroup⟩ := hfrom
    obtain ⟨-,hk⟩ := mem_fieldBindings.mp hb
    obtain ⟨field,kind,code⟩ := b
    have hk : field.kind = .ok kind := hk
    rcases Field.holdsOneof_kind hk with ⟨group,inner,rfl,-⟩ | hnone
    · cases hgroup
    · cases kind with
      | message type => trivial
      | oneof group number inner => cases hgroup
      | _ => exact hnone
  | group name first more => exact sound_group hfrom hnames hnumbers hrange

theorem declaration_of_messageOf? {files : List SchemaFile} {name : String} {m : Message}
    (h : messageOf? (TypeIndex.ofFiles files) name = some m) :
    ∃ f ∈ files, .message m ∈ f.declarations := by
  unfold messageOf? at h
  split at h
  · next hfind =>
    cases h
    obtain ⟨-,f,hf,d,hd,hentry⟩ := TypeIndex.exists_of_find? hfind
    have hdecl : d = .message m := congrArg TypeEntry.declaration hentry
    exact ⟨f,hf,hdecl ▸ hd⟩
  · cases h

theorem declaration_of_variantsOf {files : List SchemaFile} {name : String}
    {variants : List EnumValue} (h : variantsOf (TypeIndex.ofFiles files) name = some variants) :
    ∃ f ∈ files, ∃ decl, .enum decl ∈ f.declarations ∧ decl.values = variants := by
  unfold variantsOf enumDeclaration at h
  split at h
  · next decl _ hfind =>
    cases h
    obtain ⟨-,f,hf,d,hd,hentry⟩ := TypeIndex.exists_of_find? hfind
    have hdecl : d = .enum decl := congrArg TypeEntry.declaration hentry
    exact ⟨f,hf,decl,hdecl ▸ hd,rfl⟩
  · cases h
  · cases h

end Codec

namespace Generates
variable {sources : List (String × String)} {files : List SchemaFile} (h : Generates sources files)
include h

theorem exists_tables {f : SchemaFile} (hf : f ∈ files) {m : Message}
    (hm : .message m ∈ f.declarations) :
    (∃ table, encodeTable (TypeIndex.ofFiles files) m = .ok table) ∧
      ∃ table, decodeTable (TypeIndex.ofFiles files) m = .ok table := by
  obtain ⟨block,usesMap,hblock⟩ := (h.rendered hf).blocks _ hm
  obtain ⟨encode,decode,-,hencode,hdecode,-⟩ := blockOf_message_eq_ok hblock
  exact ⟨⟨encode,hencode⟩,⟨decode,hdecode⟩⟩

theorem codable : Codable (TypeIndex.ofFiles files) where
  enums := by
    intro name variants hvariants
    obtain ⟨f,hf,decl,hdecl,rfl⟩ := declaration_of_variantsOf hvariants
    have hlayout := Rendering.layoutFault?_eq_none_iff.mp (h.rendered hf).layout decl hdecl
    refine ⟨hlayout.distinct,fun v hv => ⟨(hlayout.range v hv).1,?_⟩⟩
    exact Int.lt_of_le_of_lt (hlayout.range v hv).2 (by decide)
  encode := by
    intro name m hm
    obtain ⟨f,hf,hd⟩ := declaration_of_messageOf? hm
    exact (h.exists_tables hf hd).1
  decode := by
    intro name m hm
    obtain ⟨f,hf,hd⟩ := declaration_of_messageOf? hm
    exact (h.exists_tables hf hd).2
  names := by
    intro name m hm
    obtain ⟨f,hf,hd⟩ := declaration_of_messageOf? hm
    exact (h.coherent.sound f hf m hd).names
  parts := by
    intro name m hm
    obtain ⟨f,hf,hd⟩ := declaration_of_messageOf? hm
    have hsound := h.coherent.sound f hf m hd
    exact sound_parts hsound.names hsound.numbers hsound.range

end Generates
end SchemaCodec
