import SchemaCodec.Proofs.Rendering.Blocks
import SchemaCodec.Proofs.Semantics.Value

/-! # Names of struct fields

A struct has one field for each plain field of its message and one for each oneof. Words that the
generated language has taken are escaped, and the only names that meet by that are a path word and
the same word with an underscore behind it.
-/
namespace SchemaCodec
open Codec Rendering

/-! ## Escaped names -/

namespace Identifier

/-- Names that are given one identifier. -/
def Clash (a b : String) : Prop :=
  a = b ∨ (a ∈ pathWords ∧ b = a ++ "_") ∨ (b ∈ pathWords ∧ a = b ++ "_")

theorem escape_cases (name : String) :
    (name ∈ pathWords ∧ escape name = name ++ "_") ∨ escape name = "r#" ++ name ∨
      escape name = name := by
  unfold escape
  split
  · rename_i hpath
    exact .inl ⟨hpath,rfl⟩
  · split
    · exact .inr (.inl rfl)
    · exact .inr (.inr rfl)

theorem hash_not_mem {name : String} (h : IsName name) : '#' ∉ name.toList := by
  obtain ⟨c,rest,hc,hrest,hname⟩ := h
  rw [hname]
  rintro (_ | ⟨_,hmem⟩)
  · exact absurd hc (by decide)
  · exact absurd (hrest _ hmem) (by decide)

theorem raw_ne {a b : String} (hb : '#' ∉ b.toList) : "r#" ++ a ≠ b := by
  rintro rfl
  exact hb (by simp)

theorem escape_pathWord : ∀ w ∈ pathWords, escape w = escape (w ++ "_") := by
  decide

/-- Names are given one identifier only if one is a path word and the other adds an underscore. -/
theorem escape_eq_iff {a b : String} (ha : IsName a) (hb : IsName b) :
    escape a = escape b ↔ Clash a b := by
  have hash {name : String} (h : IsName name) : '#' ∉ (name ++ "_").toList := by
    simpa using hash_not_mem h
  constructor
  · intro h
    rcases escape_cases a with ⟨hpa,hea⟩ | hea | hea <;>
      rcases escape_cases b with ⟨hpb,heb⟩ | heb | heb <;> rw [hea,heb] at h
    · exact .inl (String.append_left_inj "_" |>.mp h)
    · exact absurd h.symm (raw_ne (hash ha))
    · exact .inr (.inl ⟨hpa,h.symm⟩)
    · exact absurd h (raw_ne (hash hb))
    · exact .inl (String.append_right_inj "r#" |>.mp h)
    · exact absurd h (raw_ne (hash_not_mem hb))
    · exact .inr (.inr ⟨hpb,h⟩)
    · exact absurd h.symm (raw_ne (hash_not_mem ha))
    · exact .inl h
  · rintro (rfl | ⟨hpath,rfl⟩ | ⟨hpath,rfl⟩)
    · rfl
    · exact escape_pathWord a hpath
    · exact (escape_pathWord b hpath).symm

end Identifier

/-! ## Places of fields -/

/-- The oneof that a field is a member of. -/
def Field.group? (f : Field) : Option String :=
  if f.cardinality = .oneof then f.oneof else none

/-- Where a struct holds the value of a field. -/
def Field.slot (f : Field) : Slot :=
  match f.group? with
  | some g => .group g
  | none => .field f.name

def Codec.Slot.name : Slot → String
  | .field name | .group name => name

theorem Field.slot_of_group {f : Field} {g : String} (h : f.group? = some g) :
    f.slot = .group g := by
  rw [slot,h]

theorem Field.slot_of_plain {f : Field} (h : f.group? = none) : f.slot = .field f.name := by
  rw [slot,h]

theorem Field.group?_of_kind {α : Type} {f : Field} {b : Binding α} (h : f.kind = .ok b.kind) :
    b.group? = f.group? := by
  obtain ⟨value,hvalue,hholds⟩ := Field.kind_eq_ok h
  have hplain : ∀ g n inner, value ≠ .oneof g n inner := by
    rintro g n inner rfl
    have hnone := ValueType.holdsOneof_kind hvalue
    cases hnone
  rw [Binding.group?,Field.group?]
  generalize hkind : b.kind = kind at hholds
  cases hholds with
  | singular hc =>
    rw [if_neg (by simp [hc])]
    split
    · exact absurd rfl (hplain _ _ _)
    · rfl
  | repeated hc | map hc _ _ _ _ _ => rw [if_neg (by simp [hc])]
  | member hc g hg => rw [if_pos hc,hg]

section Bound
variable {index : TypeIndex} {m : Message} {table : List (Binding Decoding)}

/-- Each field is bound in its place to code that knows its oneof. -/
theorem forall₂_boundFields (hn : (m.fields.map (·.name)).Nodup)
    (h : decodeTable index m = .ok table) :
    List.Forall₂ (fun f p => p.1 = f ∧ p.2.group? = f.group?) m.fields
      (boundFields table m.fields) := by
  have hall : ∀ f ∈ m.fields, ∃ b, bindingOf? table f = some b ∧ b.group? = f.group? := by
    intro f hf
    obtain ⟨b,hmem,-,hkind⟩ := mem_boundFields hn h hf
    obtain ⟨f',-,hfound⟩ := List.mem_filterMap.mp hmem
    obtain ⟨c,hfound,he⟩ := Option.map_eq_some_iff.mp hfound
    cases he
    exact ⟨b,hfound,Field.group?_of_kind hkind⟩
  rw [boundFields]
  generalize m.fields = fields at hall
  induction fields with
  | nil => exact .nil
  | cons f rest ih =>
    obtain ⟨⟨b,hb,hgroup⟩,hrest⟩ := List.forall_mem_cons.mp hall
    rw [List.filterMap_cons,hb]
    exact .cons ⟨rfl,hgroup⟩ (ih hrest)

end Bound

section Struct
variable {index : TypeIndex} {m : Message}

def boundSlot (p : Field × Binding Decoding) : Slot :=
  match p.2.group? with
  | some g => .group g
  | none => .field p.1.name

section Places
variable {table : List (Binding Decoding)} (hn : (m.fields.map (·.name)).Nodup)
  (h : decodeTable index m = .ok table)
include hn h

theorem names_boundFields :
    (boundFields table m.fields).map (·.1.name) = m.fields.map (·.name) :=
  map_eq_map ((forall₂_boundFields hn h).imp fun f p hp => by rw [hp.1])

theorem slots_boundFields : (boundFields table m.fields).map boundSlot = m.fields.map Field.slot :=
  map_eq_map ((forall₂_boundFields hn h).imp fun f p hp => by
    rw [boundSlot,hp.1,hp.2,Field.slot])

end Places

/-- The struct field that a field of a message becomes part of. -/
structure FieldOf (index : TypeIndex) (m : Message) (p : Field × Binding Decoding)
    (s : StructField) : Prop where
  name : s.name = Identifier.escape (boundSlot p).name
  group : ∀ g, p.2.group? = some g → ∃ type, groupIdentifier index m g = .ok type ∧
    s.type = "Option<" ++ type ++ ">" ∧ s.initial = "None"
  plain : p.2.group? = none → fieldTypeText index p.2.kind = .ok s.type ∧
    s.initial = p.2.code.initial

theorem FieldOf.of_group {f : Field} {b : Binding Decoding} {g type : String}
    (hb : b.group? = some g) (htype : groupIdentifier index m g = .ok type) :
    FieldOf index m (f,b) ⟨Identifier.escape g,"Option<" ++ type ++ ">",none,"None"⟩ := by
  refine ⟨by simp [boundSlot,hb,Slot.name],fun g' hg' => ?_,fun hnone => ?_⟩
  · obtain rfl : g = g' := Option.some.inj (hb.symm.trans hg')
    exact ⟨type,htype,rfl,rfl⟩
  · cases hb.symm.trans hnone

theorem FieldOf.of_plain {f : Field} {b : Binding Decoding} {type : String}
    (hb : b.group? = none) (htype : fieldTypeText index b.kind = .ok type) :
    FieldOf index m (f,b) ⟨Identifier.escape f.name,type,f.comment,b.code.initial⟩ := by
  refine ⟨by simp [boundSlot,hb,Slot.name],fun g hg => ?_,fun _ => ⟨htype,rfl⟩⟩
  cases hb.symm.trans hg

/-- Every field of a struct is made from a field of the message. -/
theorem fieldOf_of_mem_structFields {bound : List (Field × Binding Decoding)} {groups : List String}
    {fields : List StructField} (h : structFields index m groups bound = .ok fields) :
    ∀ s ∈ fields, ∃ p ∈ bound, FieldOf index m p s := by
  induction bound generalizing groups fields with
  | nil =>
    cases h
    simp
  | cons p rest ih =>
    obtain ⟨f,b⟩ := p
    have hlift : ∀ {more : List StructField}, (∀ s ∈ more, ∃ p ∈ rest, FieldOf index m p s) →
        ∀ s ∈ more, ∃ p ∈ (f,b) :: rest, FieldOf index m p s := fun hall s hs =>
      (hall s hs).imp fun _ ⟨hp,hof⟩ => ⟨List.mem_cons_of_mem _ hp,hof⟩
    rw [structFields] at h
    cases hb : b.group? with
    | some g =>
      simp only [hb] at h
      by_cases hin : g ∈ groups
      · rw [if_pos hin] at h
        exact hlift (ih h)
      · rw [if_neg hin] at h
        obtain ⟨type,htype,h⟩ := bind_eq_ok.mp h
        obtain ⟨more,hmore,h⟩ := bind_eq_ok.mp h
        cases h
        exact List.forall_mem_cons.mpr
          ⟨⟨(f,b),List.mem_cons_self,.of_group hb htype⟩,hlift (ih hmore)⟩
    | none =>
      simp only [hb] at h
      obtain ⟨type,htype,h⟩ := bind_eq_ok.mp h
      obtain ⟨more,hmore,h⟩ := bind_eq_ok.mp h
      cases h
      exact List.forall_mem_cons.mpr
        ⟨⟨(f,b),List.mem_cons_self,.of_plain hb htype⟩,hlift (ih hmore)⟩

/-- A struct has a field for each slot that has no place yet, where the slot first comes up. -/
theorem forall₂_structFields {bound : List (Field × Binding Decoding)} {groups : List String}
    {fields : List StructField} (hn : (bound.map (·.1.name)).Nodup)
    (h : structFields index m groups bound = .ok fields) :
    List.Forall₂ (fun slot s => ∃ p ∈ bound, boundSlot p = slot ∧ FieldOf index m p s)
      ((bound.map boundSlot).filter fun s => s ∉ groups.map Slot.group).eraseDups fields := by
  induction bound generalizing groups fields with
  | nil =>
    cases h
    exact .nil
  | cons p rest ih =>
    obtain ⟨f,b⟩ := p
    obtain ⟨hnew,hrest⟩ := List.nodup_cons.mp hn
    have hlift : ∀ {slots : List Slot} {more : List StructField},
        List.Forall₂ (fun slot s => ∃ p ∈ rest, boundSlot p = slot ∧ FieldOf index m p s) slots more →
        List.Forall₂ (fun slot s => ∃ p ∈ (f,b) :: rest, boundSlot p = slot ∧ FieldOf index m p s)
          slots more := fun hall => hall.imp fun _ _ ⟨_,hp,hof⟩ =>
      ⟨_,List.mem_cons_of_mem _ hp,hof⟩
    rw [structFields] at h
    cases hb : b.group? with
    | some g =>
      have hslot : boundSlot (f,b) = .group g := by simp [boundSlot,hb]
      simp only [hb] at h
      by_cases hin : g ∈ groups
      · rw [if_pos hin] at h
        rw [List.map_cons,hslot,List.filter_cons_of_neg (by simpa using hin)]
        exact hlift (ih hrest h)
      · rw [if_neg hin] at h
        obtain ⟨type,htype,h⟩ := bind_eq_ok.mp h
        obtain ⟨more,hmore,h⟩ := bind_eq_ok.mp h
        cases h
        have hlater : (rest.map boundSlot).filter (fun s => s ∉ (g :: groups).map Slot.group) =
            ((rest.map boundSlot).filter fun s => s ∉ groups.map Slot.group).filter
              fun s => !s == .group g := by
          rw [List.filter_filter]
          refine List.filter_congr fun s _ => ?_
          by_cases hs : s = .group g <;> simp [hs]
        rw [List.map_cons,hslot,List.filter_cons_of_pos (by simpa using hin),List.eraseDups_cons,
          ← hlater]
        exact .cons ⟨(f,b),List.mem_cons_self,hslot,.of_group hb htype⟩ (hlift (ih hrest hmore))
    | none =>
      have hslot : boundSlot (f,b) = .field f.name := by simp [boundSlot,hb]
      simp only [hb] at h
      obtain ⟨type,htype,h⟩ := bind_eq_ok.mp h
      obtain ⟨more,hmore,h⟩ := bind_eq_ok.mp h
      cases h
      -- No later field has the name of this one, so its slot comes up once.
      have hother : ∀ s ∈ rest.map boundSlot, s ≠ .field f.name := by
        rintro s hs rfl
        obtain ⟨q,hq,hsame⟩ := List.mem_map.mp hs
        rw [boundSlot] at hsame
        split at hsame
        · cases hsame
        · exact hnew (List.mem_map.mpr ⟨q,hq,Slot.field.inj hsame⟩)
      have hlater : ((rest.map boundSlot).filter fun s => s ∉ groups.map Slot.group).filter
          (fun s => !s == .field f.name) =
            (rest.map boundSlot).filter fun s => s ∉ groups.map Slot.group := by
        refine List.filter_eq_self.mpr fun s hs => ?_
        simpa using hother s (List.mem_filter.mp hs).1
      rw [List.map_cons,hslot,List.filter_cons_of_pos (by simp),List.eraseDups_cons,hlater]
      exact .cons ⟨(f,b),List.mem_cons_self,hslot,.of_plain hb htype⟩ (hlift (ih hrest hmore))

theorem names_structFields {bound : List (Field × Binding Decoding)} {groups : List String}
    {fields : List StructField} (hn : (bound.map (·.1.name)).Nodup)
    (h : structFields index m groups bound = .ok fields) : fields.map (·.name) =
      (((bound.map boundSlot).filter fun s => s ∉ groups.map Slot.group).eraseDups).map
        fun s => Identifier.escape s.name :=
  map_eq_map ((forall₂_structFields hn h).imp fun _ _ ⟨_,_,hslot,hof⟩ => hslot ▸ hof.name)

/-- How a struct and its parts are named after a message. -/
structure NamedAfter (index : TypeIndex) (m : Message) (b : StructBlock) : Prop where
  name : identifierOf index m.fullName = .ok b.name
  fields : b.fields.map (·.name) =
    ((m.fields.map Field.slot).eraseDups).map fun s => Identifier.escape s.name
  oneofs : List.Forall₂ (fun g o => o.name = b.name ++ Identifier.camel g ∧
    o.variants.map (·.1) = (m.fields.filter (·.group? == some g)).map variantIdentifier)
    (m.fields.filterMap Field.group?).eraseDups b.oneofs

theorem oneofBlock_eq_ok {bound : List (Field × Binding Decoding)} {g : String} {o : OneofBlock}
    (h : oneofBlock index m bound g = .ok o) : groupIdentifier index m g = .ok o.name ∧
      o.variants.map (·.1) = (bound.filter (·.2.group? == some g)).map (variantIdentifier ·.1) := by
  obtain ⟨name,hname,h⟩ := bind_eq_ok.mp h
  obtain ⟨variants,hvariants,h⟩ := bind_eq_ok.mp h
  cases h
  refine ⟨hname,map_eq_map ((mapM_eq_ok_iff.mp hvariants).imp fun p v hv => ?_)⟩
  obtain ⟨type,-,hv⟩ := bind_eq_ok.mp hv
  cases hv
  rfl

theorem namedAfter_of_structBlock {encode : List (Binding FieldWriter)}
    {decode : List (Binding Decoding)} {b : StructBlock} (hn : (m.fields.map (·.name)).Nodup)
    (hd : decodeTable index m = .ok decode) (h : structBlock index m encode decode = .ok b) :
    NamedAfter index m b := by
  have hbound := forall₂_boundFields hn hd
  obtain ⟨fields,hfields,h⟩ := bind_eq_ok.mp h
  obtain ⟨oneofs,honeofs,h⟩ := bind_eq_ok.mp h
  obtain ⟨name,hname,h⟩ := bind_eq_ok.mp h
  cases h
  have hgroups : (boundFields decode m.fields).filterMap (·.2.group?) =
      m.fields.filterMap Field.group? := by
    have hmap : (boundFields decode m.fields).map (·.2.group?) = m.fields.map Field.group? :=
      map_eq_map (hbound.imp fun f p hp => hp.2)
    simpa [List.filterMap_map] using congrArg (List.filterMap id) hmap
  have hmembers : ∀ g, ((boundFields decode m.fields).filter (·.2.group? == some g)).map
      (variantIdentifier ·.1) =
        (m.fields.filter (·.group? == some g)).map variantIdentifier := by
    intro g
    have hmap : (boundFields decode m.fields).map (fun p => (p.1,p.2.group?)) =
        m.fields.map fun f => (f,f.group?) :=
      map_eq_map (hbound.imp fun f p hp => by rw [hp.1,hp.2])
    have hkept := congrArg (fun l => (l.filter fun q => q.2 == some g).map fun q =>
      variantIdentifier q.1) hmap
    simpa [List.filter_map,Function.comp_def] using hkept
  refine ⟨hname,?_,?_⟩
  · rw [names_structFields (names_boundFields hn hd ▸ hn) hfields,slots_boundFields hn hd]
    simp
  · rw [← hgroups]
    refine (mapM_eq_ok_iff.mp honeofs).imp fun g o ho => ?_
    obtain ⟨hgroup,hvariants⟩ := oneofBlock_eq_ok ho
    refine ⟨?_,hvariants.trans (hmembers g)⟩
    rw [groupIdentifier,hname] at hgroup
    exact (Except.ok.inj hgroup).symm

end Struct

/-! ## Distinct names -/

/-- No place of a value in the struct of a message is called like another one. -/
def Message.SlotsApart (m : Message) : Prop :=
  ∀ f ∈ m.fields, ∀ f' ∈ m.fields, Identifier.Clash f.slot.name f'.slot.name → f.slot = f'.slot

/-- No two members of a oneof become one variant. -/
def Message.MembersApart (m : Message) : Prop :=
  ∀ f ∈ m.fields, ∀ f' ∈ m.fields, f.group? ≠ none → f.group? = f'.group? →
    variantIdentifier f = variantIdentifier f' → f = f'

section Distinct
variable {index : TypeIndex} {m : Message} {b : StructBlock}

theorem Field.isName_slot {f : Field} (hname : IsName f.name)
    (hgroup : ∀ g, f.group? = some g → IsName g) : IsName f.slot.name := by
  cases hg : f.group? with
  | none =>
    rw [f.slot_of_plain hg]
    exact hname
  | some g =>
    rw [f.slot_of_group hg]
    exact hgroup g hg

theorem Field.Named.isName_slot {f : Field} (h : f.Named) : IsName f.slot.name := by
  refine f.isName_slot h.name fun g hg => h.group g ?_
  rw [Field.group?] at hg
  split at hg
  · exact hg
  · cases hg

theorem NamedAfter.nodup_fields_iff (h : NamedAfter index m b)
    (hnamed : ∀ f ∈ m.fields, f.Named) : (b.fields.map (·.name)).Nodup ↔ m.SlotsApart := by
  have hescape : ∀ f ∈ m.fields, ∀ f' ∈ m.fields,
      Identifier.escape f.slot.name = Identifier.escape f'.slot.name ↔
        Identifier.Clash f.slot.name f'.slot.name :=
    fun f hf f' hf' =>
      Identifier.escape_eq_iff (hnamed f hf).isName_slot (hnamed f' hf').isName_slot
  rw [h.fields,List.nodup_map_iff_inj_on (nodup_eraseDups _)]
  constructor
  · intro hinj f hf f' hf' hclash
    refine hinj _ ?_ _ ?_ ((hescape f hf f' hf').mpr hclash)
    · exact List.mem_eraseDups.mpr (List.mem_map_of_mem hf)
    · exact List.mem_eraseDups.mpr (List.mem_map_of_mem hf')
  · intro hall s hs s' hs' he
    obtain ⟨f,hf,rfl⟩ := List.mem_map.mp (List.mem_eraseDups.mp hs)
    obtain ⟨f',hf',rfl⟩ := List.mem_map.mp (List.mem_eraseDups.mp hs')
    exact hall f hf f' hf' ((hescape f hf f' hf').mp he)

theorem nodup_variants_iff {fields : List Field} (hn : fields.Nodup) (g : String) :
    ((fields.filter (·.group? == some g)).map variantIdentifier).Nodup ↔
      ∀ f ∈ fields, ∀ f' ∈ fields, f.group? = some g → f'.group? = some g →
        variantIdentifier f = variantIdentifier f' → f = f' := by
  rw [List.nodup_map_iff_inj_on (hn.filter _)]
  simp only [List.mem_filter,beq_iff_eq]
  constructor
  · intro hinj f hf f' hf' hg hg' he
    exact hinj f ⟨hf,hg⟩ f' ⟨hf',hg'⟩ he
  · rintro hall f ⟨hf,hg⟩ f' ⟨hf',hg'⟩ he
    exact hall f hf f' hf' hg hg' he

theorem NamedAfter.nodup_oneofs_iff (h : NamedAfter index m b) (hn : m.fields.Nodup) :
    (∀ o ∈ b.oneofs, (o.variants.map (·.1)).Nodup) ↔ m.MembersApart := by
  constructor
  · intro hvariants f hf f' hf' hsome hsame he
    obtain ⟨g,hg⟩ := Option.ne_none_iff_exists'.mp hsome
    obtain ⟨o,ho,-,hov⟩ := exists_of_mem_left h.oneofs
      (List.mem_eraseDups.mpr (List.mem_filterMap.mpr ⟨f,hf,hg⟩))
    have hnodup := hvariants o ho
    rw [hov] at hnodup
    exact (nodup_variants_iff hn g).mp hnodup f hf f' hf' hg (hsame ▸ hg) he
  · intro hapart o ho
    obtain ⟨g,-,-,hov⟩ := exists_of_mem_right h.oneofs ho
    rw [hov]
    refine (nodup_variants_iff hn g).mpr fun f hf f' hf' hg hg' he => ?_
    exact hapart f hf f' hf' (by simp [hg]) (hg.trans hg'.symm) he

end Distinct
end SchemaCodec
