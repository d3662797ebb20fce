import SchemaCodec.Proofs.Rendering.DocLines

/-! # Declarations and methods of a struct

The struct of a message, its initial values and its two methods are four texts in two orders: that of
the declarations and that of the numbers. They mention the same fields, the same members of oneofs
under the same numbers, and options and boxes in the same places.
-/
namespace SchemaCodec
open Codec Rendering

/-- The slots of a message's fields, each where it first comes up. -/
def Message.slots (m : Message) : List Slot := (m.fields.map Field.slot).eraseDups

namespace Rendering

/-- The name that a line of a struct declares. -/
def declaredField? (line : String) : Option String :=
  ((unindented line).dropPrefix? "pub ".toList).map fun text => String.ofList (upTo ':' text)

/-- The name that a line of initial values begins with. -/
def initialField (line : String) : String := String.ofList (upTo ':' (unindented line))

/-- The declaration of a plain field goes with the one assignment in the lines that read it: both are
of an option, which then is empty to begin with, or neither is. -/
def StructField.AgreesWith (s : StructField) (lines : List String) : Prop :=
  ∃ a, assignments lines = [a] ∧ a.field = s.name ∧
    isWrapped "Option<" ">" s.type = isWrapped "Some(" ")" a.value ∧
    (isWrapped "Option<" ">" s.type = true → s.initial = "None")

/-- The declarations of a message's struct agree with its methods. `decode` is the code that reads
each field. -/
structure StructBlock.Agrees (m : Message) (decode : List (Binding Decoding)) (b : StructBlock) :
    Prop where
  fields : b.fields.map (·.name) = m.slots.map fun s => Identifier.escape s.name
  declared : ∃ before lines after, b.lines = before ++ ("pub struct " ++ b.name ++ " \x7b") ::
    (lines ++ "\x7d" :: after) ∧ lines.filterMap declaredField? = b.fields.map (·.name)
  initial : ∃ before lines after, b.lines = before ++ nested 2 (b.name ++ " \x7b") ::
    (lines ++ nested 2 "\x7d" :: after) ∧ lines.map initialField = b.fields.map (·.name)
  read : ∀ name, name ∈ namesRead b.encode ↔ name ∈ b.fields.map (·.name)
  assigned : ∀ name, name ∈ (assignments b.decode).map (·.field) ↔ name ∈ b.fields.map (·.name)
  plain : ∀ f ∈ m.fields, f.group? = none → ∃ d ∈ decode, d.field = f ∧
    ∃ (i : ℕ) (s : StructField), m.slots[i]? = some (Slot.field f.name) ∧ b.fields[i]? = some s ∧
      cutLines d.code.reader.lines <:+: b.decode ∧ s.AgreesWith (cutLines d.code.reader.lines)
  members : ∀ f ∈ m.fields, ∀ g, f.group? = some g → ∃ a ∈ readArms none b.decode,
    a.1 = ⟨Identifier.escape g,b.name ++ Identifier.camel g,Identifier.camel f.name,
      toString f.number⟩
  arms : writtenArms "" none b.encode = (readArms none b.decode).map (·.1)
  holders : ∀ a ∈ readArms none b.decode, ∃ s ∈ b.fields, s.name = a.1.field ∧
    s.type = "Option<" ++ a.1.owner ++ ">"
  variants : ((readArms none b.decode).map fun a =>
    (a.1.owner,a.1.variant,isWrapped "Box::new(" ")" a.2)).Perm
      (b.oneofs.flatMap fun o => o.variants.map fun v => (o.name,v.1,isWrapped "Box<" ">" v.2))

end Rendering

/-! ## Types -/

namespace Rendering
variable {files : List SchemaFile}

theorem isWrapped_eq_false_of_head {before after text : String} {c d : Char}
    (hc : before.toList.head? = some c) (hd : text.toList.head? = some d) (h : c ≠ d) :
    isWrapped before after text = false := by
  refine Bool.eq_false_iff.mpr fun hw => h ?_
  obtain ⟨hbegins,-⟩ := Bool.and_eq_true_iff.mp hw
  obtain ⟨rest,hrest⟩ := List.isPrefixOf_iff_prefix.mp hbegins
  rw [← hrest,List.head?_append,hc] at hd
  exact Option.some.inj hd

theorem isWrapped_eq_false_of_not_mem {before after text : String} {c : Char}
    (hc : c ∈ before.toList) (h : c ∉ text.toList) : isWrapped before after text = false := by
  refine Bool.eq_false_iff.mpr fun hw => h ?_
  obtain ⟨hbegins,-⟩ := Bool.and_eq_true_iff.mp hw
  obtain ⟨rest,hrest⟩ := List.isPrefixOf_iff_prefix.mp hbegins
  rw [← hrest]
  exact List.mem_append_left _ hc

theorem isWrapped_typeText {kind : Kind} {text : String}
    (h : typeText (TypeIndex.ofFiles files) kind = .ok text) (hm : isMessage kind = false)
    (ho : ∀ g n inner, kind ≠ .oneof g n inner) :
    isWrapped "Option<" ">" text = false ∧ isWrapped "Box<" ">" text = false := by
  have hhead : ∀ c, text.toList.head? = some c → c ≠ 'O' → c ≠ 'B' →
      isWrapped "Option<" ">" text = false ∧ isWrapped "Box<" ">" text = false :=
    fun c hc hO hB => ⟨isWrapped_eq_false_of_head (c := 'O') rfl hc hO.symm,
      isWrapped_eq_false_of_head (c := 'B') rfl hc hB.symm⟩
  cases kind with
  | oneof g n inner => exact absurd rfl (ho g n inner)
  | message _ => cases hm
  | enum name =>
    have hword : '<' ∉ text.toList :=
      not_mem_name (isWordChar_identifierOf h) (by decide)
    exact ⟨isWrapped_eq_false_of_not_mem (by decide) hword,
      isWrapped_eq_false_of_not_mem (by decide) hword⟩
  | integer bits signed =>
    cases h
    cases signed with
    | true => exact hhead 'i' (by simp [Kind.integerName]) (by decide) (by decide)
    | false => exact hhead 'u' (by simp [Kind.integerName]) (by decide) (by decide)
  | float bits =>
    cases h
    exact hhead 'f' (by simp) (by decide) (by decide)
  | bool | string | bytes =>
    cases h
    decide
  | repeated element =>
    obtain ⟨inner,-,h⟩ := bind_eq_ok.mp h
    cases h
    exact hhead 'V' (by simp) (by decide) (by decide)
  | map key value =>
    obtain ⟨keyText,-,h⟩ := bind_eq_ok.mp h
    obtain ⟨valueText,-,h⟩ := bind_eq_ok.mp h
    cases h
    exact hhead 'H' (by simp) (by decide) (by decide)

/-- A plain field is of an option exactly if it holds a message. -/
theorem isWrapped_fieldTypeText {kind : Kind} {text : String}
    (h : fieldTypeText (TypeIndex.ofFiles files) kind = .ok text)
    (ho : ∀ g n inner, kind ≠ .oneof g n inner) :
    isWrapped "Option<" ">" text = isMessage kind := by
  obtain ⟨type,htype,h⟩ := bind_eq_ok.mp h
  cases kind with
  | message _ =>
    cases h
    exact isWrapped_append ..
  | oneof g n inner => exact absurd rfl (ho g n inner)
  | _ =>
    cases h
    exact (isWrapped_typeText htype rfl ho).1

/-- A member of a oneof is boxed exactly if it holds a message. -/
theorem isWrapped_memberText {g : String} {number : Int} {inner : Kind} {text : String}
    (h : typeText (TypeIndex.ofFiles files) (.oneof g number inner) = .ok text)
    (ho : holdsOneof inner = false) : isWrapped "Box<" ">" text = isMessage inner := by
  obtain ⟨type,htype,h⟩ := bind_eq_ok.mp h
  cases inner with
  | message _ =>
    cases h
    exact isWrapped_append ..
  | oneof _ _ _ => cases ho
  | _ =>
    cases h
    exact (isWrapped_typeText htype rfl (fun _ _ _ => by simp)).2

end Rendering

/-! ## Tables -/

section Tables
variable {α : Type} {m : Message} {table : List (Binding α)}
  (h : table.map Binding.forget = fieldBindings m)
include h

theorem field_of_mem_table {b : Binding α} (hb : b ∈ table) :
    b.field ∈ m.fields ∧ b.field.kind = .ok b.kind := by
  have hmem : b.forget ∈ fieldBindings m := h ▸ List.mem_map_of_mem hb
  obtain ⟨f,hf,hkind⟩ := List.mem_filterMap.mp hmem
  obtain ⟨kind,hk,he⟩ := Option.map_eq_some_iff.mp hkind
  have hfield : f = b.field := congrArg Binding.field he
  have hkinds : kind = b.kind := congrArg Binding.kind he
  rw [← hfield,← hkinds]
  refine ⟨mem_byNumber.mp hf,?_⟩
  cases hfk : f.kind with
  | error e => simp [hfk,Except.toOption] at hk
  | ok k => simpa [hfk,Except.toOption] using hk

theorem slot_of_mem_table {b : Binding α} (hb : b ∈ table) :
    b.group? = b.field.group? ∧ b.slot = b.field.slot := by
  have hgroup : b.group? = b.field.group? := Field.group?_of_kind (field_of_mem_table h hb).2
  refine ⟨hgroup,?_⟩
  cases hg : b.group? with
  | none => rw [slot_of_plain hg,Field.slot_of_plain (hgroup ▸ hg)]
  | some g => rw [slot_of_group? hg,Field.slot_of_group (hgroup ▸ hg)]

theorem named_of_mem_table (hnames : ∀ f ∈ m.fields, IsName f.name)
    (hgroups : ∀ f ∈ m.fields, ∀ g, f.group? = some g → IsName g) {b : Binding α} (hb : b ∈ table) :
    b.Named := by
  have hf := (field_of_mem_table h hb).1
  exact ⟨hnames _ hf,fun g hg => hgroups _ hf g ((slot_of_mem_table h hb).1 ▸ hg)⟩

theorem exists_binding {f : Field} (hf : f ∈ m.fields) {kind : Kind} (hk : f.kind = .ok kind) :
    ∃ b ∈ table, b.field = f ∧ b.kind = kind := by
  have hmem : (⟨f,kind,()⟩ : Binding Unit) ∈ fieldBindings m := by
    refine List.mem_filterMap.mpr ⟨f,mem_byNumber.mpr hf,?_⟩
    rw [hk]
    rfl
  obtain ⟨b,hb,he⟩ := List.mem_map.mp (h ▸ hmem)
  exact ⟨b,hb,congrArg Binding.field he,congrArg Binding.kind he⟩

theorem mem_slots_table (hk : ∀ f ∈ m.fields, ∃ kind, f.kind = .ok kind) (name : String) :
    (∃ run ∈ runs table, name = Identifier.escape run.slot.name) ↔
      name ∈ m.slots.map fun s => Identifier.escape s.name := by
  have hslots : ∀ s, s ∈ (runs table).map Run.slot ↔ s ∈ m.slots := by
    intro s
    rw [mem_slots_runs,Message.slots,List.mem_eraseDups]
    constructor
    · intro hs
      obtain ⟨b,hb,rfl⟩ := List.mem_map.mp hs
      rw [(slot_of_mem_table h hb).2]
      exact List.mem_map_of_mem (field_of_mem_table h hb).1
    · intro hs
      obtain ⟨f,hf,rfl⟩ := List.mem_map.mp hs
      obtain ⟨kind,hkind⟩ := hk f hf
      obtain ⟨b,hb,rfl,-⟩ := exists_binding h hf hkind
      rw [← (slot_of_mem_table h hb).2]
      exact List.mem_map_of_mem hb
  constructor
  · rintro ⟨run,hrun,rfl⟩
    exact List.mem_map.mpr ⟨_,(hslots _).mp (List.mem_map_of_mem hrun),rfl⟩
  · intro hname
    obtain ⟨s,hs,rfl⟩ := List.mem_map.mp hname
    obtain ⟨run,hrun,rfl⟩ := List.mem_map.mp ((hslots s).mpr hs)
    exact ⟨run,hrun,rfl⟩

end Tables

theorem arms_forget {α : Type} (owner : String) (run : Run α) :
    run.forget.arms owner = run.arms owner := by
  cases run with
  | plain b => rfl
  | group name first more =>
    have harm : Binding.arm? owner ∘ Binding.forget = @Binding.arm? α owner := rfl
    rw [Run.forget,Run.arms,Run.arms,← List.map_cons,List.filterMap_map,harm]

/-- The runs of two tables of one message have the same arms. -/
theorem arms_eq {α β : Type} {a : List (Binding α)} {b : List (Binding β)}
    (h : a.map Binding.forget = b.map Binding.forget) (owner : String) :
    (runs a).flatMap (Run.arms owner) = (runs b).flatMap (Run.arms owner) := by
  have hforget : ∀ {γ : Type} (table : List (Binding γ)), (runs table).flatMap (Run.arms owner) =
      (runs (table.map Binding.forget)).flatMap (Run.arms owner) := by
    intro γ table
    rw [runs_map_forget,List.flatMap_map]
    exact List.flatMap_congr fun run _ => (arms_forget owner run).symm
  rw [hforget a,hforget b,h]

theorem arm?_eq_none {α : Type} {b : Binding α} (h : b.group? = none) (owner : String) :
    b.arm? owner = none := by
  unfold Binding.group? at h
  unfold Binding.arm?
  cases hk : b.kind <;> simp [hk] at h ⊢

/-- Putting bindings into runs changes the order of their arms alone. -/
theorem arms_runs_perm {α : Type} (owner : String) (table : List (Binding α)) :
    ((runs table).flatMap (Run.arms owner)).Perm (table.filterMap (Binding.arm? owner)) := by
  induction table using runs_induction with
  | nil => simp [runs]
  | plain b rest hb ih =>
    rw [runs_plain hb,List.flatMap_cons,List.filterMap_cons,arm?_eq_none hb]
    exact ih
  | group b rest g hb ih =>
    have hsplit : ((b :: rest.filter (·.group? == some g)) ++
        rest.filter (·.group? != some g)).Perm (b :: rest) :=
      (List.filter_append_perm (fun c : Binding α => c.group? == some g) rest).cons b
    rw [runs_group hb,List.flatMap_cons]
    refine (ih.append_left _).trans ?_
    rw [Run.arms,← List.filterMap_append]
    exact hsplit.filterMap _

theorem plain_mem_runs {α : Type} {table : List (Binding α)}
    (hn : (table.map (·.field.name)).Nodup) {b : Binding α} (hb : b ∈ table)
    (hg : b.group? = none) : Run.plain b ∈ runs table := by
  have hslot : b.slot ∈ (runs table).map Run.slot :=
    (mem_slots_runs table b.slot).mpr (List.mem_map_of_mem hb)
  obtain ⟨run,hrun,hsame⟩ := List.mem_map.mp hslot
  rw [slot_of_plain hg] at hsame
  cases run with
  | plain c =>
    have hc := (isFrom_of_mem_runs table _ hrun).1
    rwa [List.inj_on_of_nodup_map hn hb hc (Slot.field.inj hsame).symm]
  | group name first more => cases hsame

theorem initial_of_isMessage {index : TypeIndex} {kind : Kind} {text : String}
    (h : defaultText index kind = .ok text) (hm : isMessage kind = true) : text = "None" := by
  cases kind with
  | message _ => exact (Except.ok.inj h).symm
  | _ => cases hm

/-! ## The declared fields as text -/

section Text
variable {fields : List StructField}

theorem declaredField?_fieldLine {s : StructField} (h : ':' ∉ s.name.toList) :
    declaredField? (nested 1 ("pub " ++ s.name ++ ": " ++ s.type ++ ",")) = some s.name := by
  have htext : unindented (nested 1 ("pub " ++ s.name ++ ": " ++ s.type ++ ",")) =
      "pub ".toList ++ (s.name.toList ++ ':' :: (" " ++ s.type ++ ",").toList) := by
    rw [unindented_nested,unindented_of_head (c := 'p') (by simp) (by decide)]
    simp
  have hdrop : (unindented (nested 1 ("pub " ++ s.name ++ ": " ++ s.type ++ ","))).dropPrefix?
      "pub ".toList = some (s.name.toList ++ ':' :: (" " ++ s.type ++ ",").toList) :=
    List.dropPrefix?_eq_some_iff.mpr ⟨_,htext,by simp⟩
  rw [declaredField?,hdrop,Option.map_some,upTo_append h,String.ofList_toList]

theorem declaredField?_docLine {line : String} {comment : Option String}
    (h : line ∈ docLines comment) : declaredField? (nested 1 line) = none := by
  have hhead := head_docLine h
  have htext : unindented (nested 1 line) = line.toList := by
    rw [unindented_nested,unindented_of_head hhead (by decide)]
  have hnone : line.toList.dropPrefix? "pub ".toList = none := by
    refine Option.eq_none_iff_forall_ne_some.mpr fun rest hrest => ?_
    obtain ⟨front,hfront,he⟩ := List.dropPrefix?_eq_some_iff.mp hrest
    rw [hfront,eq_of_beq he] at hhead
    cases hhead
  rw [declaredField?,htext,hnone]
  rfl

theorem declaredFields (h : ∀ s ∈ fields, ':' ∉ s.name.toList) :
    (fields.flatMap StructField.lines).filterMap declaredField? = fields.map (·.name) := by
  induction fields with
  | nil => rfl
  | cons s rest ih =>
    obtain ⟨hs,hrest⟩ := List.forall_mem_cons.mp h
    have hdoc : ((docLines s.comment).map (nested 1)).filterMap declaredField? = [] := by
      refine List.filterMap_eq_nil_iff.mpr fun line hline => ?_
      obtain ⟨text,htext,rfl⟩ := List.mem_map.mp hline
      exact declaredField?_docLine htext
    rw [List.flatMap_cons,List.filterMap_append,ih hrest,StructField.lines,List.filterMap_append,
      hdoc]
    simp [declaredField?_fieldLine hs]

theorem initialFields (h : ∀ s ∈ fields, ':' ∉ s.name.toList ∧ ' ' ∉ s.name.toList) :
    (fields.map fun s => nested 3 (s.name ++ ": " ++ s.initial ++ ",")).map initialField =
      fields.map (·.name) := by
  rw [List.map_map]
  refine List.map_congr_left fun s hs => ?_
  obtain ⟨hcolon,hblank⟩ := h s hs
  have htext : unindented (s.name ++ ": " ++ s.initial ++ ",") =
      s.name.toList ++ ':' :: (" " ++ s.initial ++ ",").toList := by
    have hlist : (s.name ++ ": " ++ s.initial ++ ",").toList =
        s.name.toList ++ ':' :: (" " ++ s.initial ++ ",").toList := by
      simp
    rw [unindented,hlist]
    cases hname : s.name.toList with
    | nil => simp
    | cons c rest =>
      have hc : c ≠ ' ' := fun he => hblank (hname ▸ he ▸ List.mem_cons_self)
      simp [hc]
  rw [Function.comp_apply,initialField,unindented_nested,htext,upTo_append hcolon,
    String.ofList_toList]

/-- Where the text of a struct declares its fields, and where it sets them. -/
theorem Rendering.StructBlock.exists_lines_eq (b : StructBlock) : ∃ before between after,
    b.lines = before ++ ("pub struct " ++ b.name ++ " \x7b") ::
      (b.fields.flatMap StructField.lines ++ "\x7d" :: (between ++ nested 2 (b.name ++ " \x7b") ::
        (b.fields.map (fun s => nested 3 (s.name ++ ": " ++ s.initial ++ ",")) ++
          nested 2 "\x7d" :: after))) := by
  refine ⟨b.oneofs.flatMap OneofBlock.lines ++ docLines b.comment
    ++ ["#[derive(Debug, Clone, PartialEq)]"],["","impl Default for " ++ b.name ++ " \x7b",
      nested 1 "fn default() -> Self \x7b"],?after,?lines⟩
  case lines =>
    simp only [StructBlock.lines,List.append_assoc,List.cons_append,List.nil_append]
    rfl

end Text

/-! ## Fields and their code -/

theorem isName_of_mem_slots {m : Message} (hnames : ∀ f ∈ m.fields, IsName f.name)
    (hgroups : ∀ f ∈ m.fields, ∀ g, f.group? = some g → IsName g) {slot : Slot}
    (h : slot ∈ m.slots) : IsName slot.name := by
  obtain ⟨f,hf,rfl⟩ := List.mem_map.mp (List.mem_eraseDups.mp h)
  exact f.isName_slot (hnames f hf) (hgroups f hf)

theorem exists_kind_of_decodeTable {index : TypeIndex} {m : Message}
    {decode : List (Binding Decoding)} (hd : decodeTable index m = .ok decode) :
    ∀ f ∈ m.fields, ∃ kind, f.kind = .ok kind := by
  intro f hf
  obtain ⟨d,-,hbind⟩ := exists_of_mem_left (mapM_eq_ok_iff.mp hd)
    (mem_byNumber.mpr hf)
  exact ⟨d.kind,(bindReader_eq_ok hbind).2⟩

section Struct
variable {files : List SchemaFile} {m : Message} {decode : List (Binding Decoding)}
  (hn : (m.fields.map (·.name)).Nodup) (hd : decodeTable (TypeIndex.ofFiles files) m = .ok decode)
include hn hd

theorem nodup_decodeTable : (decode.map (·.field.name)).Nodup := by
  have hbindings := (decodeTable_eq_ok hd).1
  have hnodup := nodup_fieldBindings hn
  rw [← hbindings,List.map_map] at hnodup
  exact hnodup

theorem bindingOf?_of_mem {d : Binding Decoding} (hmem : d ∈ decode) :
    bindingOf? decode d.field = some d := by
  cases hfind : bindingOf? decode d.field with
  | none =>
    have hnone := List.find?_eq_none.mp hfind d (List.mem_reverse.mpr hmem)
    simp at hnone
  | some c =>
    have hname : c.field.name = d.field.name := by simpa using List.find?_some hfind
    have hc : c ∈ decode := List.mem_reverse.mp (List.mem_of_find?_eq_some hfind)
    rw [List.inj_on_of_nodup_map (nodup_decodeTable hn hd) hc hmem hname]

theorem bound_of_mem {p : Field × Binding Decoding} (hp : p ∈ boundFields decode m.fields) :
    p.2 ∈ decode ∧ p.2.field = p.1 := by
  obtain ⟨f,hf,hmap⟩ := List.mem_filterMap.mp hp
  obtain ⟨d,hfind,rfl⟩ := Option.map_eq_some_iff.mp hmap
  have hmem : d ∈ decode := List.mem_reverse.mp (List.mem_of_find?_eq_some hfind)
  have hname : d.field.name = f.name := by simpa using List.find?_some hfind
  have hfield := (field_of_mem_table (decodeTable_eq_ok hd).1 hmem).1
  exact ⟨hmem,List.inj_on_of_nodup_map hn hfield hf hname⟩

theorem boundFields_perm : ((boundFields decode m.fields).map (·.2)).Perm decode := by
  have hbound : (boundFields decode m.fields).map (·.2) = m.fields.filterMap (bindingOf? decode) := by
    rw [boundFields,List.map_filterMap]
    refine List.filterMap_congr fun f _ => ?_
    cases bindingOf? decode f <;> rfl
  have hfields : decode.map (·.field) = byNumber m.fields := by
    have hall := mapM_eq_ok_iff.mp hd
    rw [map_eq_map (f := id) (hall.imp fun f d h => (bindReader_eq_ok h).1),List.map_id]
  have htable : (byNumber m.fields).filterMap (bindingOf? decode) = decode := by
    rw [← hfields,List.filterMap_map]
    have hsome : decode.filterMap (bindingOf? decode ∘ (·.field)) = decode.filterMap some :=
      List.filterMap_congr fun d hmem => bindingOf?_of_mem hn hd hmem
    rw [hsome,List.filterMap_some]
  rw [hbound]
  conv_rhs => rw [← htable]
  exact (byNumber_perm m.fields).symm.filterMap _

/-- What a struct says of a variant: the type and the variant, and whether it is boxed. -/
def Codec.Binding.variant? {α : Type} (owner : String) (b : Binding α) :
    Option (String × String × Bool) :=
  (b.arm? owner).map fun a => (a.1.owner,a.1.variant,a.2)

/-- The type of a oneof has a variant for each of its members. -/
theorem variants_oneofBlock {owner : String}
    (ho : identifierOf (TypeIndex.ofFiles files) m.fullName = .ok owner) {g : String} {o : OneofBlock}
    (h : oneofBlock (TypeIndex.ofFiles files) m (boundFields decode m.fields) g = .ok o) :
    o.variants.map (fun v => (o.name,v.1,isWrapped "Box<" ">" v.2)) =
      ((boundFields decode m.fields).filter (·.2.group? == some g)).filterMap
        (·.2.variant? owner) := by
  obtain ⟨name,hname,h⟩ := bind_eq_ok.mp h
  obtain ⟨variants,hvariants,h⟩ := bind_eq_ok.mp h
  cases h
  rw [groupIdentifier,ho] at hname
  cases hname
  have hmembers : ∀ p ∈ (boundFields decode m.fields).filter (·.2.group? == some g),
      p.2 ∈ decode ∧ p.2.field = p.1 ∧ p.2.group? = some g := by
    intro p hp
    obtain ⟨hbound,hgroup⟩ := List.mem_filter.mp hp
    obtain ⟨hmem,hfield⟩ := bound_of_mem hn hd hbound
    exact ⟨hmem,hfield,by simpa using hgroup⟩
  refine (filterMap_of_forall₂ ?_).symm
  refine ((List.forall₂_and_left _ _).mpr ⟨hmembers,mapM_eq_ok_iff.mp hvariants⟩).imp ?_
  rintro ⟨f,d⟩ v ⟨⟨hmem,hfield,hgroup⟩,hv⟩
  simp only at hmem hfield hgroup ⊢
  subst hfield
  obtain ⟨text,htext,hv⟩ := bind_eq_ok.mp hv
  cases hv
  obtain ⟨number,inner,hk⟩ := exists_kind_of_group? hgroup
  have hinner : holdsOneof inner = false := by
    have hkind := (field_of_mem_table (decodeTable_eq_ok hd).1 hmem).2
    rw [hk] at hkind
    rcases Field.holdsOneof_kind hkind with ⟨_,_,he,hinner⟩ | hnone
    · cases he
      exact hinner
    · cases hnone
  rw [hk] at htext
  rw [Binding.variant?,Binding.arm?,hk,isWrapped_memberText htext hinner]
  rfl

section Block
variable {encode : List (Binding FieldWriter)} {b : StructBlock}
  (hb : structBlock (TypeIndex.ofFiles files) m encode decode = .ok b)
include hb

/-- The types of the oneofs have a variant for each member of a oneof. -/
theorem variants_perm : (b.oneofs.flatMap fun o =>
    o.variants.map fun v => (o.name,v.1,isWrapped "Box<" ">" v.2)).Perm
      (decode.filterMap (Binding.variant? b.name)) := by
  obtain ⟨-,honeofs,ho,-,-⟩ := structBlock_eq_ok hb
  have hall := (mapM_eq_ok_iff.mp honeofs).imp fun g o h => variants_oneofBlock hn hd ho h
  have hgroups := flatMap_groups_perm (fun p : Field × Binding Decoding => p.2.group?)
    (boundFields decode m.fields)
  have hnone : (boundFields decode m.fields).filterMap (·.2.variant? b.name) =
      ((boundFields decode m.fields).filter fun p => p.2.group?.isSome).filterMap
        (·.2.variant? b.name) := by
    rw [List.filterMap_filter]
    refine List.filterMap_congr fun p _ => ?_
    cases hg : p.2.group? with
    | none => simp [Binding.variant?,arm?_eq_none hg]
    | some g => simp
  have hdecode : (decode.filterMap (Binding.variant? b.name)).Perm
      ((boundFields decode m.fields).filterMap (·.2.variant? b.name)) := by
    have hperm := (boundFields_perm hn hd).symm.filterMap (Binding.variant? b.name)
    rwa [List.filterMap_map] at hperm
  refine List.Perm.trans ?_ hdecode.symm
  rw [hnone,List.flatMap_def,map_eq_map hall,← List.flatMap_def,← List.filterMap_flatMap]
  exact hgroups.filterMap _

/-- Each slot of a message has a struct field, made from one of the fields in the slot. -/
theorem forall₂_slots : List.Forall₂ (fun slot s => ∃ p ∈ boundFields decode m.fields,
    boundSlot p = slot ∧ FieldOf (TypeIndex.ofFiles files) m p s) m.slots b.fields := by
  have hall := forall₂_structFields (names_boundFields hn hd ▸ hn) (structBlock_eq_ok hb).1
  rw [slots_boundFields hn hd] at hall
  simpa [Message.slots] using hall

theorem fields_slots : b.fields.map (·.name) = m.slots.map fun s => Identifier.escape s.name :=
  map_eq_map ((forall₂_slots hn hd hb).imp fun _ _ ⟨_,_,hslot,hof⟩ => hslot ▸ hof.name)

/-- A struct names its fields in its declaration and in its initial values. -/
theorem texts_agree (hnames : ∀ f ∈ m.fields, IsName f.name)
    (hgroups : ∀ f ∈ m.fields, ∀ g, f.group? = some g → IsName g) :
    (∃ before lines after, b.lines = before ++ ("pub struct " ++ b.name ++ " \x7b") ::
      (lines ++ "\x7d" :: after) ∧ lines.filterMap declaredField? = b.fields.map (·.name)) ∧
    ∃ before lines after, b.lines = before ++ nested 2 (b.name ++ " \x7b") ::
      (lines ++ nested 2 "\x7d" :: after) ∧ lines.map initialField = b.fields.map (·.name) := by
  have hname : ∀ s ∈ b.fields, ':' ∉ s.name.toList ∧ ' ' ∉ s.name.toList := by
    intro s hs
    have hmem : s.name ∈ m.slots.map fun slot => Identifier.escape slot.name :=
      fields_slots hn hd hb ▸ List.mem_map_of_mem hs
    obtain ⟨slot,hslot,he⟩ := List.mem_map.mp hmem
    have hslotName := isName_of_mem_slots hnames hgroups hslot
    rw [← he]
    exact ⟨not_mem_escape hslotName (by decide),not_mem_escape hslotName (by decide)⟩
  obtain ⟨before,between,after,hlines⟩ := b.exists_lines_eq
  constructor
  · exact ⟨before,_,_,hlines,declaredFields fun s hs => (hname s hs).1⟩
  · refine ⟨before ++ ("pub struct " ++ b.name ++ " \x7b") ::
      (b.fields.flatMap StructField.lines ++ "\x7d" :: between),_,after,?_,initialFields hname⟩
    rw [hlines]
    simp only [List.append_assoc,List.cons_append]

/-- The struct field of a plain field agrees with the lines that read it. -/
theorem plain_agrees (hnames : ∀ f ∈ m.fields, IsName f.name) {f : Field} (hf : f ∈ m.fields)
    (hg : f.group? = none) : ∃ d ∈ decode, d.field = f ∧
      ∃ (i : ℕ) (s : StructField), m.slots[i]? = some (Slot.field f.name) ∧ b.fields[i]? = some s ∧
        cutLines d.code.reader.lines <:+: b.decode ∧
        s.AgreesWith (cutLines d.code.reader.lines) := by
  obtain ⟨hbindings,hcode⟩ := decodeTable_eq_ok hd
  have hslot : Slot.field f.name ∈ m.slots :=
    List.mem_eraseDups.mpr (List.mem_map.mpr ⟨f,hf,f.slot_of_plain hg⟩)
  obtain ⟨i,hi⟩ := List.mem_iff_getElem?.mp hslot
  obtain ⟨s,hs,⟨g,d⟩,hp,hplace,hof⟩ := exists_getElem?_of_forall₂ (forall₂_slots hn hd hb) hi
  obtain ⟨hmem,hfield⟩ := bound_of_mem hn hd hp
  simp only at hmem hfield
  subst hfield
  have hplain : d.group? = none := by
    cases hdg : d.group? with
    | none => rfl
    | some g => simp [boundSlot,hdg] at hplace
  have hname : d.field.name = f.name := by simpa [boundSlot,hplain] using hplace
  have hdf : d.field = f :=
    List.inj_on_of_nodup_map hn (field_of_mem_table hbindings hmem).1 hf hname
  subst hdf
  obtain ⟨hread,hinitial⟩ := hcode d hmem
  obtain ⟨hlines,-,a,hassign,hafield,hsome⟩ := plainReader hread hplain (hnames _ hf)
  obtain ⟨htype,hstart⟩ := hof.plain hplain
  have hkind : ∀ g n inner, d.kind ≠ .oneof g n inner := by
    intro g n inner hk
    simp [Binding.group?,hk] at hplain
  have hoption := isWrapped_fieldTypeText htype hkind
  refine ⟨d,hmem,rfl,i,s,hi,hs,?_,a,?_,?_,hoption.trans hsome.symm,fun hwrapped => ?_⟩
  · have hrun := plain_mem_runs (nodup_decodeTable hn hd) hmem hplain
    obtain ⟨before,after,hruns⟩ := List.append_of_mem hrun
    rw [(structBlock_eq_ok hb).2.2.2.2,decodeBody_eq,hruns,List.flatMap_append,List.flatMap_cons]
    exact ⟨_,_,List.append_assoc ..⟩
  · rw [cutLines_eq hlines,hassign]
  · rw [hafield,hof.name,hplace]
    rfl
  · rw [hwrapped] at hoption
    rw [hstart]
    exact initial_of_isMessage hinitial hoption.symm

omit hn in
/-- Each arm of a decode body is that of a binding, and each binding's arm is there. -/
theorem mem_arms_iff (hnames : ∀ f ∈ m.fields, IsName f.name)
    (hgroups : ∀ f ∈ m.fields, ∀ g, f.group? = some g → IsName g) (arm : Arm × Bool) :
    arm ∈ (readArms none b.decode).map boxedArm ↔ ∃ d ∈ decode, d.arm? b.name = some arm := by
  obtain ⟨hbindings,hcode⟩ := decodeTable_eq_ok hd
  obtain ⟨-,-,ho,-,hdecode⟩ := structBlock_eq_ok hb
  rw [hdecode,readArms_decodeBody ho (fun d hmem => (hcode d hmem).1)
    fun d hmem => named_of_mem_table hbindings hnames hgroups hmem,
    (arms_runs_perm b.name decode).mem_iff]
  exact List.mem_filterMap

omit hn in
/-- A member of a oneof has its arm under its number. -/
theorem members_agree (hnames : ∀ f ∈ m.fields, IsName f.name)
    (hgroups : ∀ f ∈ m.fields, ∀ g, f.group? = some g → IsName g) {f : Field} (hf : f ∈ m.fields)
    {g : String} (hg : f.group? = some g) : ∃ a ∈ readArms none b.decode,
      a.1 = ⟨Identifier.escape g,b.name ++ Identifier.camel g,Identifier.camel f.name,
        toString f.number⟩ := by
  obtain ⟨hbindings,-⟩ := decodeTable_eq_ok hd
  obtain ⟨kind,hfk⟩ := exists_kind_of_decodeTable hd f hf
  obtain ⟨d,hmem,rfl,-⟩ := exists_binding hbindings hf hfk
  obtain ⟨number,inner,hk⟩ := exists_kind_of_group? ((slot_of_mem_table hbindings hmem).1.trans hg)
  have hnumber : number = d.field.number := by
    have hkind := (field_of_mem_table hbindings hmem).2
    rw [hk] at hkind
    rcases Field.holdsOneof_kind hkind with ⟨_,_,he,-⟩ | hnone
    · cases he
      rfl
    · cases hnone
  subst hnumber
  have harm : d.arm? b.name = some (⟨Identifier.escape g,b.name ++ Identifier.camel g,
      Identifier.camel d.field.name,toString d.field.number⟩,isMessage inner) := by
    rw [Binding.arm?,hk]
  obtain ⟨a,ha,he⟩ := List.mem_map.mp ((mem_arms_iff hd hb hnames hgroups _).mpr ⟨d,hmem,harm⟩)
  exact ⟨a,ha,congrArg Prod.fst he⟩

/-- The struct field of a oneof is an option of the type that the oneof's arms construct. -/
theorem holders_agree (hnames : ∀ f ∈ m.fields, IsName f.name)
    (hgroups : ∀ f ∈ m.fields, ∀ g, f.group? = some g → IsName g) {a : Arm × String}
    (ha : a ∈ readArms none b.decode) : ∃ s ∈ b.fields, s.name = a.1.field ∧
      s.type = "Option<" ++ a.1.owner ++ ">" := by
  obtain ⟨hbindings,-⟩ := decodeTable_eq_ok hd
  obtain ⟨-,-,ho,-,-⟩ := structBlock_eq_ok hb
  obtain ⟨d,hmem,harm⟩ :=
    (mem_arms_iff hd hb hnames hgroups (boxedArm a)).mp (List.mem_map_of_mem ha)
  cases hg : d.group? with
  | none =>
    rw [arm?_eq_none hg] at harm
    cases harm
  | some g =>
    obtain ⟨number,inner,hk⟩ := exists_kind_of_group? hg
    rw [Binding.arm?,hk] at harm
    have hparts : a.1 = ⟨Identifier.escape g,b.name ++ Identifier.camel g,
        Identifier.camel d.field.name,toString number⟩ :=
      (congrArg Prod.fst (Option.some.inj harm)).symm
    have hslot : Slot.group g ∈ m.slots := by
      refine List.mem_eraseDups.mpr (List.mem_map.mpr
        ⟨d.field,(field_of_mem_table hbindings hmem).1,?_⟩)
      exact Field.slot_of_group ((slot_of_mem_table hbindings hmem).1 ▸ hg)
    obtain ⟨s,hs,p,-,hplace,hof⟩ := exists_of_mem_left (forall₂_slots hn hd hb) hslot
    have hpg : p.2.group? = some g := by
      cases hpg : p.2.group? with
      | none => simp [boundSlot,hpg] at hplace
      | some g' => simpa [boundSlot,hpg] using hplace
    obtain ⟨type,htype,hs',-⟩ := hof.group g hpg
    rw [groupIdentifier,ho] at htype
    cases htype
    refine ⟨s,hs,?_,?_⟩
    · rw [hof.name,hplace,hparts]
      rfl
    · rw [hs',hparts]

theorem agrees_of_structBlock (he : encodeTable (TypeIndex.ofFiles files) m = .ok encode)
    (hnames : ∀ f ∈ m.fields, IsName f.name)
    (hgroups : ∀ f ∈ m.fields, ∀ g, f.group? = some g → IsName g) : b.Agrees m decode := by
  obtain ⟨hdecoded,hread⟩ := decodeTable_eq_ok hd
  obtain ⟨hencoded,hwritten⟩ := encodeTable_eq_ok he
  obtain ⟨-,-,ho,hencode,hdecode⟩ := structBlock_eq_ok hb
  have hk := exists_kind_of_decodeTable hd
  have hnamesDecode : ∀ d ∈ decode, d.Named := fun d => named_of_mem_table hdecoded hnames hgroups
  have hnamesEncode : ∀ e ∈ encode, e.Named := fun e => named_of_mem_table hencoded hnames hgroups
  have hreadFor := fun d hmem => (hread d hmem).1
  have harms := readArms_decodeBody ho hreadFor hnamesDecode
  obtain ⟨hdeclared,hinitial⟩ := texts_agree hn hd hb hnames hgroups
  refine ⟨fields_slots hn hd hb,hdeclared,hinitial,fun name => ?_,fun name => ?_,
    fun f hf hg => plain_agrees hn hd hb hnames hf hg,
    fun f hf g hg => members_agree hd hb hnames hgroups hf hg,?_,
    fun a ha => holders_agree hn hd hb hnames hgroups ha,?_⟩
  · rw [hencode,mem_namesRead_encodeBody ho hwritten hnamesEncode,mem_slots_table hencoded hk,
      fields_slots hn hd hb]
  · rw [hdecode,mem_assignments_decodeBody ho hreadFor hnamesDecode,mem_slots_table hdecoded hk,
      fields_slots hn hd hb]
  · have hfst : (readArms none b.decode).map (·.1) =
        ((readArms none b.decode).map boxedArm).map (·.1) := by
      rw [List.map_map]
      rfl
    rw [hfst,hdecode,harms,hencode,writtenArms_encodeBody ho hwritten hnamesEncode,
      ← arms_eq (hencoded.trans hdecoded.symm),List.map_flatMap]
  · have hseen : ((readArms none b.decode).map fun a =>
        (a.1.owner,a.1.variant,isWrapped "Box::new(" ")" a.2)) =
        ((readArms none b.decode).map boxedArm).map fun a => (a.1.owner,a.1.variant,a.2) := by
      rw [List.map_map]
      rfl
    have hvariants : decode.filterMap (Binding.variant? b.name) =
        (decode.filterMap (Binding.arm? b.name)).map fun a => (a.1.owner,a.1.variant,a.2) := by
      rw [List.map_filterMap]
      rfl
    rw [hseen,hdecode,harms]
    refine ((arms_runs_perm b.name decode).map _).trans ?_
    rw [← hvariants]
    exact (variants_perm hn hd hb).symm

end Block
end Struct

section Existence
variable {index : TypeIndex} {m : Message}

/-- The index has all types that a reader names. -/
theorem contains_of_reader {kind : Kind} {sink : Sink} {depth : ℕ} {r : Reader}
    (h : reader index kind sink depth = .ok r) :
    ∀ name ∈ namedTypes kind, index.contains name = true := by
  induction kind generalizing sink depth r with
  | integer _ _ | float _ | bool | string | bytes => simp [namedTypes]
  | enum name | message name =>
    obtain ⟨type,htype,-⟩ := bind_eq_ok.mp h
    obtain ⟨identifier,hid,-⟩ := bind_eq_ok.mp htype
    exact List.forall_mem_singleton.mpr (contains_of_identifierOf hid)
  | repeated element ih =>
    obtain ⟨wire,-,h⟩ := bind_eq_ok.mp h
    obtain ⟨body,hbody,-⟩ := bind_eq_ok.mp h
    exact ih hbody
  | map key value ihKey ihValue =>
    obtain ⟨keyWire,-,h⟩ := bind_eq_ok.mp h
    obtain ⟨valueWire,-,h⟩ := bind_eq_ok.mp h
    obtain ⟨keyBody,hkeyBody,h⟩ := bind_eq_ok.mp h
    obtain ⟨valueBody,hvalueBody,-⟩ := bind_eq_ok.mp h
    exact List.forall_mem_append.mpr ⟨ihKey hkeyBody,ihValue hvalueBody⟩
  | oneof _ _ _ => cases h

theorem contains_of_fieldReader {f : Field} {kind : Kind} {r : FieldReader}
    (h : fieldReader index m f kind = .ok r) :
    ∀ name ∈ namedTypes kind, index.contains name = true := by
  cases kind with
  | oneof g number inner =>
    obtain ⟨variant,-,h⟩ := bind_eq_ok.mp h
    obtain ⟨body,hbody,-⟩ := bind_eq_ok.mp h
    show ∀ name ∈ namedTypes inner, index.contains name = true
    exact contains_of_reader hbody
  | _ =>
    obtain ⟨body,hbody,-⟩ := bind_eq_ok.mp h
    exact contains_of_reader hbody

/-- A message with code has its struct exactly if it is declared: its code names only types that
are. -/
theorem exists_structBlock_iff {decode : List (Binding Decoding)}
    (hd : decodeTable index m = .ok decode) (encode : List (Binding FieldWriter)) :
    (∃ b, structBlock index m encode decode = .ok b) ↔ index.contains m.fullName = true := by
  constructor
  · rintro ⟨b,hb⟩
    exact contains_of_identifierOf (structBlock_eq_ok hb).2.2.1
  · refine fun hm => exists_structBlock hm (fun p hp => ?_) encode
    obtain ⟨f,-,hmap⟩ := List.mem_filterMap.mp hp
    obtain ⟨d,hfind,rfl⟩ := Option.map_eq_some_iff.mp hmap
    have hmem : d ∈ decode := List.mem_reverse.mp (List.mem_of_find?_eq_some hfind)
    exact contains_of_fieldReader ((decodeTable_eq_ok hd).2 d hmem).1

end Existence

/-- The declarations of a struct agree with its methods, for every message that the index declares
and whose fields and oneofs are called by identifiers, each field by its own. -/
theorem structBlock_agrees {files : List SchemaFile} {m : Message}
    {encode : List (Binding FieldWriter)} {decode : List (Binding Decoding)}
    (hnames : ∀ f ∈ m.fields, IsName f.name)
    (hgroups : ∀ f ∈ m.fields, ∀ g, f.group? = some g → IsName g)
    (hn : (m.fields.map (·.name)).Nodup)
    (he : encodeTable (TypeIndex.ofFiles files) m = .ok encode)
    (hd : decodeTable (TypeIndex.ofFiles files) m = .ok decode) :
    ((∃ b, structBlock (TypeIndex.ofFiles files) m encode decode = .ok b) ↔
      (TypeIndex.ofFiles files).contains m.fullName = true) ∧
    ∀ b, structBlock (TypeIndex.ofFiles files) m encode decode = .ok b → b.Agrees m decode :=
  ⟨exists_structBlock_iff hd encode,fun _ hb => agrees_of_structBlock hn hd hb he hnames hgroups⟩

/-- A message whose two oneofs alternate, in another order by number; it holds itself in each way. -/
def parcel : Message where
  name := "Parcel"
  fullName := "post.Parcel"
  fields := [⟨"type",7,.singular,⟨.scalar .int32,none⟩,none,none,none⟩,
    ⟨"letter",5,.oneof,⟨.scalar .string,none⟩,none,some "content",none⟩,
    ⟨"by_air",9,.oneof,⟨.scalar .bool,none⟩,none,some "route",none⟩,
    ⟨"wrapper",3,.singular,⟨.message,some "post.Parcel"⟩,none,none,some " The outer one. "⟩,
    ⟨"box",1,.oneof,⟨.message,some "post.Parcel"⟩,none,some "content",none⟩,
    ⟨"stops",2,.repeated,⟨.message,some "post.Parcel"⟩,none,none,none⟩,
    ⟨"with",8,.oneof,⟨.message,some "post.Parcel"⟩,none,some "route",none⟩,
    ⟨"stamps",4,.map,⟨.scalar .bytes,none⟩,some ⟨.scalar .string,none⟩,none,none⟩]

def postFiles : List SchemaFile := [⟨"post.proto","post",[],[parcel],[],true⟩]

theorem parcel_agrees : ∃ encode decode b, (∀ f ∈ parcel.fields, IsName f.name) ∧
    (∀ f ∈ parcel.fields, ∀ g, f.group? = some g → IsName g) ∧ (parcel.fields.map (·.name)).Nodup ∧
    encodeTable (TypeIndex.ofFiles postFiles) parcel = .ok encode ∧
    decodeTable (TypeIndex.ofFiles postFiles) parcel = .ok decode ∧
    structBlock (TypeIndex.ofFiles postFiles) parcel encode decode = .ok b ∧
    b.Agrees parcel decode := by
  have hnames : ∀ f ∈ parcel.fields, IsName f.name := by decide
  have hgroups : ∀ f ∈ parcel.fields, ∀ g ∈ f.group?, IsName g := by decide
  have hn : (parcel.fields.map (·.name)).Nodup := by decide
  have hcode : ∀ f ∈ parcel.fields,
      (∃ e, bindWriter (TypeIndex.ofFiles postFiles) parcel f = .ok e) ∧
      ∃ d, bindReader (TypeIndex.ofFiles postFiles) parcel f = .ok d := by decide
  have hmem : ∀ f ∈ byNumber parcel.fields, f ∈ parcel.fields :=
    fun f hf => (List.mergeSort_perm parcel.fields _).mem_iff.mp hf
  obtain ⟨encode,he⟩ := exists_mapM_eq_ok_iff.mpr fun f hf => (hcode f (hmem f hf)).1
  obtain ⟨decode,hd⟩ := exists_mapM_eq_ok_iff.mpr fun f hf => (hcode f (hmem f hf)).2
  obtain ⟨hexists,hagrees⟩ := structBlock_agrees hnames hgroups hn he hd
  obtain ⟨b,hb⟩ := hexists.mpr (by decide)
  exact ⟨encode,decode,b,hnames,hgroups,hn,he,hd,hb,hagrees b hb⟩

end SchemaCodec
