import SchemaCodec.Proofs.Semantics.Parts

/-! # Methods of messages

The encode method of a message writes its parts in order, and the decode method reads them in the
same order. Before anything is read, the slots of messages and oneofs hold nothing.
-/
namespace SchemaCodec.Codec

/-- The fields of a message with their kinds, in the order of field numbers. -/
def fieldBindings (m : Message) : List (Binding Unit) :=
  (byNumber m.fields).filterMap fun f => f.kind.toOption.map fun kind => ⟨f,kind,()⟩

/-- The parts of a message in the order in which they are written. -/
def partsOf (m : Message) : List Part := (runs (fieldBindings m)).map Run.part

/-- What differs from field to field of a message differs from binding to binding. -/
theorem nodup_fieldBindings {m : Message} {β : Type} {key : Field → β}
    (h : (m.fields.map key).Nodup) : ((fieldBindings m).map fun b => key b.field).Nodup := by
  have hsub : ∀ fields : List Field, List.Sublist
      ((fields.filterMap fun f => f.kind.toOption.map fun kind => (⟨f,kind,()⟩ : Binding Unit)).map
        Binding.field) fields := by
    intro fields
    induction fields with
    | nil => exact .slnil
    | cons f rest ih =>
      rw [List.filterMap_cons]
      cases f.kind with
      | error e => exact ih.cons f
      | ok kind => exact ih.cons_cons f
  have hperm : ((byNumber m.fields).map key).Perm (m.fields.map key) :=
    (byNumber_perm m.fields).map key
  have hnodup := (hperm.nodup_iff.mpr h).sublist ((hsub (byNumber m.fields)).map key)
  rwa [List.map_map] at hnodup

def writeParts (method : Value → Option Trace) (self : Slot → Value) (parts : List Part) :
    Option Trace :=
  (parts.mapM fun p => Part.write method p (self p.slot)).map List.flatten

def readParts (index : TypeIndex) (method : Methods) (parts : List Part) :
    (Slot → Value) × List Token → Option ((Slot → Value) × List Token) :=
  parts.foldlM (Part.readInto index method)

theorem filterMap_of_forall₂ {α β γ : Type} {f : α → Option γ} {g : β → γ} {l : List α} {r : List β}
    (h : List.Forall₂ (fun a b => f a = some (g b)) l r) : l.filterMap f = r.map g := by
  induction h with
  | nil => rfl
  | cons hab _ ih => rw [List.filterMap_cons,hab,List.map_cons,ih]

section Tables
variable {index : TypeIndex} {m : Message}

theorem kind_of_kindOf {f : Field} {kind : Kind} (h : kindOf f = .ok kind) :
    f.kind = .ok kind := by
  unfold kindOf at h
  split at h
  · next k hk =>
    rw [hk,Except.ok.inj h]
  · cases h

theorem encodeTable_eq_ok {table : List (Binding FieldWriter)} (h : encodeTable index m = .ok table) :
    table.map Binding.forget = fieldBindings m ∧ ∀ b ∈ table, WrittenFor index m b := by
  have hall := mapM_eq_ok_iff.mp h
  have hbind : ∀ f (b : Binding FieldWriter), bindWriter index m f = .ok b →
      f.kind = .ok b.kind ∧ b.field = f ∧ WrittenFor index m b := by
    intro f b hb
    obtain ⟨kind,hkind,hb⟩ := bind_eq_ok.mp hb
    obtain ⟨code,hcode,hb⟩ := bind_eq_ok.mp hb
    cases hb
    exact ⟨kind_of_kindOf hkind,rfl,hcode⟩
  constructor
  · refine (filterMap_of_forall₂ (hall.imp fun f b hb => ?_)).symm
    obtain ⟨hkind,rfl,-⟩ := hbind f b hb
    rw [hkind]
    rfl
  · intro b hb
    obtain ⟨f,-,hf⟩ := exists_of_mem_right hall hb
    exact (hbind f b hf).2.2

theorem decodeTable_eq_ok {table : List (Binding Decoding)} (h : decodeTable index m = .ok table) :
    table.map Binding.forget = fieldBindings m ∧ ∀ b ∈ table, ReadFor index m b ∧
      defaultText index b.kind = .ok b.code.initial := by
  have hall := mapM_eq_ok_iff.mp h
  have hbind : ∀ f (b : Binding Decoding), bindReader index m f = .ok b →
      f.kind = .ok b.kind ∧ b.field = f ∧ ReadFor index m b ∧
        defaultText index b.kind = .ok b.code.initial := by
    intro f b hb
    obtain ⟨kind,hkind,hb⟩ := bind_eq_ok.mp hb
    obtain ⟨code,hcode,hb⟩ := bind_eq_ok.mp hb
    obtain ⟨initial,hinitial,hb⟩ := bind_eq_ok.mp hb
    cases hb
    exact ⟨kind_of_kindOf hkind,rfl,hcode,hinitial⟩
  constructor
  · refine (filterMap_of_forall₂ (hall.imp fun f b hb => ?_)).symm
    obtain ⟨hkind,rfl,-⟩ := hbind f b hb
    rw [hkind]
    rfl
  · intro b hb
    obtain ⟨f,-,hf⟩ := exists_of_mem_right hall hb
    exact (hbind f b hf).2.2

/-- The parts of a message are those of the runs of either table. -/
theorem parts_of_table {α : Type} {table : List (Binding α)}
    (h : table.map Binding.forget = fieldBindings m) :
    (runs table).map Run.part = partsOf m := by
  rw [partsOf,← h,runs_map_forget,List.map_map]
  exact List.map_congr_left fun run _ => (part_forget run).symm

end Tables

theorem mapM_congr_option {α β : Type} {f g : α → Option β} {l : List α}
    (h : ∀ a ∈ l, f a = g a) : l.mapM f = l.mapM g := by
  induction l with
  | nil => rfl
  | cons a rest ih =>
    rw [List.mapM_cons,List.mapM_cons,h a List.mem_cons_self,
      ih fun b hb => h b (List.mem_cons_of_mem a hb)]

theorem foldlM_map_view {α : Type} {step : Memory → α → Option Memory}
    {next : (Slot → Value) × List Token → α → Option ((Slot → Value) × List Token)} {l : List α}
    (h : ∀ a ∈ l, ∀ mem, (step mem a).map Memory.view = next mem.view a) (mem : Memory) :
    (l.foldlM step mem).map Memory.view = l.foldlM next mem.view := by
  induction l generalizing mem with
  | nil => rfl
  | cons a rest ih =>
    rw [List.foldlM_cons,List.foldlM_cons,← h a List.mem_cons_self mem]
    cases step mem a with
    | none => rfl
    | some after => exact ih (fun b hb => h b (List.mem_cons_of_mem a hb)) after

theorem encodeRun_succ {index : TypeIndex} {name : String} {m : Message}
    (hm : messageOf? index name = some m) {table : List (Binding FieldWriter)}
    (ht : encodeTable index m = .ok table) (depth : ℕ) (self : Slot → Value) :
    encodeRun index (depth + 1) (.struct name self) =
      writeParts (encodeRun index depth) self (partsOf m) := by
  obtain ⟨hbindings,hwritten⟩ := encodeTable_eq_ok ht
  have hruns : (runs table).mapM (Run.write (encodeRun index depth) self) =
      (partsOf m).mapM fun p => Part.write (encodeRun index depth) p (self p.slot) := by
    rw [← parts_of_table hbindings,List.mapM_map]
    refine mapM_congr_option fun run hrun => ?_
    rw [write_run _ self hwritten (isFrom_of_mem_runs table run hrun),Function.comp_apply,
      slot_part]
  rw [encodeRun,hm]
  simp only [Option.bind_eq_bind,Option.bind_some,ht,Except.toOption]
  change ((runs table).mapM (Run.write (encodeRun index depth) self)).bind (fun parts =>
    some parts.flatten) = _
  rw [hruns,writeParts,Option.map_eq_bind]
  rfl

/-- The decode method refuses an error, and else reads the parts of its message. -/
theorem decodeRun_succ {index : TypeIndex} {name : String} {m : Message}
    (hm : messageOf? index name = some m) {table : List (Binding Decoding)}
    (ht : decodeTable index m = .ok table) {entries : List (Slot × Value)}
    (hentries : initialEntries index table = some entries) (depth : ℕ) (stream : List Token) :
    decodeRun index (depth + 1) name stream =
      if stream.head? = some .error then none
      else (readParts index (decodeRun index depth) (partsOf m) (initialSlots entries,stream)).map
        fun state => (.struct name state.1,state.2) := by
  obtain ⟨hbindings,hread⟩ := decodeTable_eq_ok ht
  have hruns : ∀ mem : Memory,
      ((runs table).foldlM (Run.read index (decodeRun index depth)) mem).map Memory.view =
        readParts index (decodeRun index depth) (partsOf m) mem.view := by
    intro mem
    rw [readParts,← parts_of_table hbindings,List.foldlM_map]
    refine foldlM_map_view (fun run hrun mem => ?_) mem
    exact read_run _ (fun b hb => (hread b hb).1) (isFrom_of_mem_runs table run hrun) mem
  rw [decodeRun,hm]
  simp only [Option.bind_eq_bind,Option.bind_some,ht,Except.toOption,hentries]
  by_cases herror : stream.head? = some .error
  · rw [if_pos herror,if_pos herror]
  · have hview := hruns ⟨stream,fun _ => none,initialSlots entries⟩
    rw [if_neg herror,if_neg herror]
    change _ = (readParts index (decodeRun index depth) (partsOf m)
      (Memory.view ⟨stream,fun _ => none,initialSlots entries⟩)).map _
    rw [← hview,Option.map_map,Option.map_eq_bind]
    rfl

/-- Slots of these kinds hold nothing before anything is read. -/
def startsAbsent : Kind → Bool
  | .message _ | .oneof _ _ _ => true
  | _ => false

theorem enumDeclaration_eq_ok {index : TypeIndex} {name : String} {decl : EnumDecl}
    (h : enumDeclaration index name = .ok decl) : variantsOf index name = some decl.values := by
  rw [variantsOf,h]
  rfl

theorem initialValue_eq_some {index : TypeIndex} {kind : Kind} {text : String}
    (h : defaultText index kind = .ok text) : ∃ v, initialValue index text kind = some v ∧
      (startsAbsent kind = true → v = .none) := by
  cases kind with
  | enum name =>
    obtain ⟨decl,hdecl,h⟩ := bind_eq_ok.mp h
    cases hvalues : decl.values with
    | nil =>
      rw [hvalues] at h
      cases h
    | cons first rest =>
      rw [hvalues] at h
      obtain ⟨identifier,hidentifier,h⟩ := bind_eq_ok.mp h
      have htext := Except.ok.inj h
      refine ⟨.variant first.name first.number,?_,
        fun h => absurd h Bool.false_ne_true⟩
      rw [initialValue,enumDeclaration_eq_ok hdecl,hvalues,hidentifier]
      simp [Except.toOption,htext]
  | _ =>
    cases h
    exact ⟨_,rfl,by simp [startsAbsent]⟩

theorem initialEntries_eq_some {index : TypeIndex} {table : List (Binding Decoding)}
    (h : ∀ b ∈ table, defaultText index b.kind = .ok b.code.initial) :
    ∃ entries, initialEntries index table = some entries ∧ ∀ s v, (s,v) ∈ entries →
      ∃ b ∈ table, b.slot = s ∧ (startsAbsent b.kind = true → v = .none) := by
  induction table with
  | nil => exact ⟨[],rfl,fun _ _ hmem => by simp at hmem⟩
  | cons b rest ih =>
    obtain ⟨v,hv,habsent⟩ := initialValue_eq_some (h b List.mem_cons_self)
    obtain ⟨entries,hentries,hmem⟩ := ih fun c hc => h c (List.mem_cons_of_mem b hc)
    refine ⟨(b.slot,v) :: entries,?_,?_⟩
    · have hrest : rest.mapM (fun b =>
          (initialValue index b.code.initial b.kind).map (slotOf b.field b.kind,·)) = some entries :=
        hentries
      rw [initialEntries,List.mapM_cons,hrest,hv]
      rfl
    · intro s x hx
      rcases List.mem_cons.mp hx with he | hx
      · cases he
        exact ⟨b,List.mem_cons_self,rfl,habsent⟩
      · obtain ⟨c,hc,hs,ha⟩ := hmem s x hx
        exact ⟨c,List.mem_cons_of_mem b hc,hs,ha⟩

/-- A slot holds nothing at first, unless a field of another kind is stored there. -/
theorem initialSlots_eq_none {entries : List (Slot × Value)} {table : List (Binding Decoding)}
    (h : ∀ s v, (s,v) ∈ entries →
      ∃ b ∈ table, b.slot = s ∧ (startsAbsent b.kind = true → v = .none))
    {s : Slot} (hs : ∀ b ∈ table, b.slot = s → startsAbsent b.kind = true) :
    initialSlots entries s = .none := by
  rw [initialSlots]
  cases hv : entries.lookup s with
  | none => rfl
  | some v =>
    obtain ⟨before,after,hsplit,-⟩ := List.lookup_eq_some_iff.mp hv
    obtain ⟨b,hb,hslot,habsent⟩ := h s v (by simp [hsplit])
    exact habsent (hs b hb hslot)

/-- Whether a part may hold nothing. -/
def Part.mayBeAbsent : Part → Bool
  | .plain _ _ => false
  | _ => true

section Slots
variable {α : Type} {bs : List (Binding α)} (hnames : (bs.map (·.field.name)).Nodup)
include hnames

/-- What is stored in the slot of a part that may hold nothing is a message or a oneof. -/
theorem startsAbsent_of_slot {run : Run α} (hfrom : run.IsFrom bs)
    (hpart : run.part.mayBeAbsent = true) {b : Binding α} (hb : b ∈ bs) (hslot : b.slot = run.slot) :
    startsAbsent b.kind = true := by
  cases run with
  | plain c =>
    obtain ⟨hc,hgroup⟩ := hfrom
    cases hg : b.group? with
    | some g =>
      rw [slot_of_group? hg] at hslot
      cases hslot
    | none =>
      rw [slot_of_plain hg] at hslot
      obtain rfl := List.inj_on_of_nodup_map hnames hb hc (Slot.field.inj hslot)
      obtain ⟨field,kind,code⟩ := b
      cases kind with
      | message type => rfl
      | oneof group number inner => rfl
      | _ => cases hpart
  | group name first more =>
    have hg := slot_eq_group_iff.mp hslot
    obtain ⟨field,kind,code⟩ := b
    cases kind with
    | oneof group number inner => rfl
    | _ => cases hg

end Slots

end SchemaCodec.Codec
