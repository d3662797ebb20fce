import Mathlib
import SchemaCodec.Proofs.Schema.Build
import SchemaCodec.Proofs.Schema.Resolution

/-! # Which schemas are accepted

Every message and enum of a draft has a full name, made of the package and the messages around it.
Drafts are accepted together exactly if their imports are among them, their full names are distinct,
each message and each enum keeps its own rules, and each type that a field refers to has a meaning
among all the names.
-/
namespace SchemaCodec
open Grammar

/-- The messages of a scope with their full names, each followed by those nested in it. -/
def messagesWithin (scope : String) : List MessageDraft → List (String × MessageDraft)
  | [] => []
  | ⟨name,fields,messages,enums,reserved,line⟩ :: rest =>
    let full := qualify scope name
    (full,⟨name,fields,messages,enums,reserved,line⟩) :: messagesWithin full messages
      ++ messagesWithin scope rest

def enumsWithin (scope : String) (enums : List EnumDraft) : List (String × EnumDraft) :=
  enums.map fun e => (e.fullName scope,e)

namespace FileDraft

/-- All messages of a draft, at every depth, with their full names. -/
def allMessages (draft : FileDraft) : List (String × MessageDraft) :=
  messagesWithin draft.package draft.messages

/-- All enums of a draft, at every depth, with their full names. -/
def allEnums (draft : FileDraft) : List (String × EnumDraft) :=
  enumsWithin draft.package draft.enums ++
    draft.allMessages.flatMap fun (full,m) => enumsWithin full m.enums

def fullNames (draft : FileDraft) : List String :=
  draft.allMessages.map (·.1) ++ draft.allEnums.map (·.1)

end FileDraft

/-- A type reference with a meaning: a scalar's name, or a candidate of it is among the names. -/
def Meaningful (names : List String) (ref scope : String) : Prop :=
  (ScalarType.ofName? ref).isSome = true ∨ ∃ c ∈ candidates ref scope, c ∈ names

/-- A reference to an integer type, to truth values or to strings. -/
def IsKeyReference (ref : String) : Prop := ∃ t, ScalarType.ofName? ref = some t ∧ t.isMapKey = true

/-- The rules for a message with a full name: each field number may be used, no two fields share a
name or a number, and the types of all fields have a meaning inside the message. -/
structure MessageDraft.Acceptable (names : List String) (full : String) (m : MessageDraft) :
    Prop where
  admissible : ∀ f ∈ m.fields, f.Admissible m.reserved
  distinct_numbers : (m.fields.map (·.number)).Nodup
  distinct_names : (m.fields.map (·.name)).Nodup
  types : ∀ f ∈ m.fields, Meaningful names f.type full
  keys : ∀ f ∈ m.fields, ∀ key, f.shape = .map key → IsKeyReference key

/-- The rule for an enum: it uses none of the names and numbers that it reserves. -/
def EnumDraft.Acceptable (e : EnumDraft) : Prop :=
  ∀ v ∈ e.values, ∀ r ∈ e.reserved, r.covers v.name v.number = false

/-- The rules for drafts that are built together, given the paths that they may import. -/
structure Acceptable (paths : List String) (drafts : List FileDraft) : Prop where
  imports : ∀ d ∈ drafts, ∀ i ∈ d.imports, i ∈ paths
  distinct : (drafts.flatMap FileDraft.fullNames).Nodup
  messages : ∀ d ∈ drafts, ∀ p ∈ d.allMessages,
    p.2.Acceptable (drafts.flatMap FileDraft.fullNames) p.1
  enums : ∀ d ∈ drafts, ∀ p ∈ d.allEnums, p.2.Acceptable

/-- The numbers that a reserved range of a schema text holds; `max` is the largest field number. -/
def Grammar.Range.Holds (r : Range) (number : ℤ) : Prop :=
  ∃ first last, intValue? r.first = some first ∧ first ≤ number ∧ number ≤ last ∧
    match r.last with
    | none => last = first
    | some .max => last = 536870911
    | some (.number spelling) => intValue? spelling = some last

/-- What a reserved statement of a schema text covers: the numbers of its ranges, or its names. -/
def Grammar.Reserved.Covers (name : String) (number : ℤ) : Reserved → Prop
  | .ranges rs => ∃ r ∈ rs, r.Holds number
  | .names literals => ∃ l ∈ literals, textValue? l = some name

section Names

theorem map_name_messageNames_perm (scope : String) (drafts : List MessageDraft) :
    ((messageNames scope drafts).map (·.name)).Perm
      ((messagesWithin scope drafts).map (·.1) ++ ((messagesWithin scope drafts).flatMap
        fun (full,m) => enumsWithin full m.enums).map (·.1)) := by
  have henums : ∀ (scope : String) (enums : List EnumDraft),
      (enumNames scope enums).map (·.name) = (enumsWithin scope enums).map (·.1) := by
    intro scope enums
    simp [enumNames,enumsWithin]
  induction scope, drafts using messageNames.induct with
  | case1 scope => simp [messageNames,messagesWithin]
  | case2 scope name fields messages enums reserved line rest full ihn =>
    rename_i ihr
    subst full
    refine List.perm_iff_count.mpr fun a => ?_
    have hn := List.perm_iff_count.mp ihn a
    have hr := List.perm_iff_count.mp ihr a
    simp only [messageNames,messagesWithin,List.map_append,List.map_cons,List.flatMap_append,
      List.flatMap_cons,List.count_append,List.count_cons,List.cons_append,henums] at hn hr ⊢
    omega

/-- A draft registers its full names, each as often as it declares it. -/
theorem FileDraft.map_name_names_perm (draft : FileDraft) :
    (draft.names.map (·.name)).Perm draft.fullNames := by
  refine List.perm_iff_count.mpr fun a => ?_
  have hm := List.perm_iff_count.mp (map_name_messageNames_perm draft.package draft.messages) a
  have he : (enumNames draft.package draft.enums).map (·.name) =
      (enumsWithin draft.package draft.enums).map (·.1) := by
    simp [enumNames,enumsWithin]
  simp only [names,fullNames,allMessages,allEnums,List.map_append,List.count_append,he] at hm ⊢
  omega

theorem map_name_names_perm (drafts : List FileDraft) :
    ((drafts.flatMap FileDraft.names).map (·.name)).Perm (drafts.flatMap FileDraft.fullNames) := by
  rw [List.map_flatMap]
  exact List.Perm.flatMap_left drafts fun d _ => d.map_name_names_perm

end Names

section Declare
variable {declared : Declared}

theorem exists_foldlM_declare (path : String) {names : List NamedSort}
    (hn : (((names.map NamedSort.entry).reverse ++ declared).map (·.1)).Nodup) :
    ∃ result, names.foldlM (declare path) declared = .ok result := by
  induction names generalizing declared with
  | nil => exact ⟨declared,rfl⟩
  | cons n rest ih =>
    have hnew : n.name ∉ declared.map (·.1) := by
      rw [List.map_cons,List.reverse_cons,List.append_assoc,List.map_append,List.nodup_append] at hn
      exact (List.nodup_cons.mp hn.2.1).1
    have hnext : declare path declared n = .ok (n.entry :: declared) := by
      simp [declare,sort?_eq_none_iff.mpr hnew,NamedSort.entry]
    have hrest : (((rest.map NamedSort.entry).reverse ++ n.entry :: declared).map (·.1)).Nodup := by
      simpa using hn
    obtain ⟨result,hresult⟩ := ih hrest
    exact ⟨result,by rw [List.foldlM_cons,bind_eq_ok]; exact ⟨_,hnext,hresult⟩⟩

theorem exists_foldlM_declare_files {drafts : List FileDraft}
    (hn : ((((drafts.flatMap FileDraft.names).map NamedSort.entry).reverse ++ declared).map
      (·.1)).Nodup) :
    ∃ result, drafts.foldlM (fun declared d => d.names.foldlM (declare d.path) declared) declared =
      .ok result := by
  induction drafts generalizing declared with
  | nil => exact ⟨declared,rfl⟩
  | cons d rest ih =>
    rw [List.flatMap_cons,List.map_append (f := NamedSort.entry),List.reverse_append,
      List.append_assoc] at hn
    have hfirst : (((d.names.map NamedSort.entry).reverse ++ declared).map (·.1)).Nodup :=
      hn.sublist ((List.sublist_append_right _ _).map _)
    have hdeclared : (declared.map (·.1)).Nodup :=
      hfirst.sublist ((List.sublist_append_right _ _).map _)
    obtain ⟨next,hnext⟩ := exists_foldlM_declare d.path hfirst
    obtain ⟨rfl,-⟩ := foldlM_declare hdeclared hnext
    obtain ⟨result,hresult⟩ := ih hn
    exact ⟨result,by rw [List.foldlM_cons,bind_eq_ok]; exact ⟨_,hnext,hresult⟩⟩

/-- All names can be registered exactly if no full name is declared twice. -/
theorem exists_declareAll_iff {drafts : List FileDraft} :
    (∃ declared, declareAll drafts = .ok declared) ↔
      (drafts.flatMap FileDraft.fullNames).Nodup := by
  rw [← (map_name_names_perm drafts).nodup_iff]
  constructor
  · rintro ⟨declared,h⟩
    exact (declareAll_eq_ok h).1
  · intro hn
    refine exists_foldlM_declare_files ?_
    rw [List.append_nil,List.map_reverse,List.nodup_reverse,List.map_map]
    exact hn

/-- A registered name is found under the sort that it was registered with. -/
theorem sort?_eq_some_iff {drafts : List FileDraft} (h : declareAll drafts = .ok declared)
    {name : String} {sort : TypeSort} :
    declared.sort? name = some sort ↔ ⟨name,sort⟩ ∈ drafts.flatMap FileDraft.names := by
  refine ⟨(declareAll_eq_ok h).2 name sort,fun hmem => ?_⟩
  have hstart : (([] : Declared).map (·.1)).Nodup := List.nodup_nil
  obtain ⟨hdeclared,hn⟩ := foldlM_declare_files hstart h
  have hin : (name,sort) ∈ declared := by
    rw [hdeclared,List.append_nil,List.mem_reverse]
    exact List.mem_map_of_mem (f := NamedSort.entry) hmem
  cases hs : declared.sort? name with
  | none => exact absurd (List.mem_map_of_mem (f := (·.1)) hin) (sort?_eq_none_iff.mp hs)
  | some found =>
    obtain ⟨l,r,hsplit,-⟩ := List.lookup_eq_some_iff.mp hs
    have hfound : (name,found) ∈ declared := by simp [hsplit]
    have heq := List.inj_on_of_nodup_map hn hfound hin rfl
    rw [Prod.mk.injEq] at heq
    rw [heq.2]

theorem isSome_sort?_iff {drafts : List FileDraft} (h : declareAll drafts = .ok declared)
    {name : String} :
    (declared.sort? name).isSome = true ↔ name ∈ drafts.flatMap FileDraft.fullNames := by
  rw [← (map_name_names_perm drafts).mem_iff,Option.isSome_iff_exists]
  simp only [sort?_eq_some_iff h,List.mem_map]
  constructor
  · rintro ⟨sort,hmem⟩
    exact ⟨_,hmem,rfl⟩
  · rintro ⟨⟨_,sort⟩,hmem,rfl⟩
    exact ⟨sort,hmem⟩

end Declare

namespace BuildContext
variable {ctx : BuildContext} {names : List String} {scope : String}

section Types
variable (hk : ∀ name, (ctx.declared.sort? name).isSome = true ↔ name ∈ names)
include hk

theorem exists_valueType_iff {ref : String} (line : ℕ) :
    (∃ v, ctx.valueType ref scope line = .ok v) ↔ Meaningful names ref scope := by
  rw [Meaningful,valueType]
  cases hs : ScalarType.ofName? ref with
  | some t => simp
  | none =>
    have hres := exists_resolve?_iff (fun n => (ctx.declared.sort? n).isSome) ref scope
    simp only [hk] at hres
    simp only [Option.isSome_none,Bool.false_eq_true,false_or]
    rw [← hres]
    cases hr : resolve? (fun n => (ctx.declared.sort? n).isSome) ref scope with
    | none => simp [fail]
    | some name =>
      obtain ⟨sort,hsort⟩ := Option.isSome_iff_exists.mp (mem_of_resolve? hr).2
      simp [hsort]

omit hk in
theorem exists_keyType_iff (ctx : BuildContext) (scope ref : String) (line : ℕ) :
    (∃ v, ctx.keyType ref scope line = .ok v) ↔ IsKeyReference ref := by
  constructor
  · rintro ⟨v,h⟩
    obtain ⟨k,hv,h⟩ := bind_eq_ok.mp h
    unfold valueType at hv
    cases hs : ScalarType.ofName? ref with
    | some t =>
      simp only [hs,Except.ok.injEq] at hv
      subst hv
      by_cases hkey : t.isMapKey = true
      · exact ⟨t,hs,hkey⟩
      · simp [FieldType.isMapKey,hkey,fail] at h
    | none =>
      have hnamed : k.type.isMapKey = false := by
        simp only [hs] at hv
        cases hr : resolve? (fun n => (ctx.declared.sort? n).isSome) ref scope with
        | none => simp [hr,fail] at hv
        | some name =>
          cases hsort : ctx.declared.sort? name with
          | none => simp [hr,hsort,fail] at hv
          | some sort =>
            simp only [hr,hsort,Except.ok.injEq] at hv
            subst hv
            cases sort <;> rfl
      simp [hnamed,fail] at h
  · rintro ⟨t,ht,hkey⟩
    have hv : ctx.valueType ref scope line = .ok ⟨.scalar t,none⟩ := by rw [valueType,ht]
    exact ⟨_,bind_eq_ok.mpr ⟨_,hv,by simp [FieldType.isMapKey,hkey]; rfl⟩⟩

theorem exists_field_iff {d : FieldDraft} :
    (∃ f, ctx.field scope d = .ok f) ↔
      Meaningful names d.type scope ∧ ∀ key, d.shape = .map key → IsKeyReference key := by
  rw [field,exists_bind_eq_ok_iff,← exists_valueType_iff hk d.line]
  cases hshape : d.shape with
  | singular | repeated | member _ => simp
  | map ref =>
    have hkey := exists_keyType_iff ctx scope ref d.line
    simp only [exists_bind_eq_ok_iff,FieldShape.map.injEq,forall_eq',← hkey]
    simp

end Types

theorem exists_enum_iff {d : EnumDraft} : (∃ e, ctx.enum scope d = .ok e) ↔ d.Acceptable := by
  have hnone : reservedValue? d = none ↔ d.Acceptable := by
    simp [reservedValue?,EnumDraft.Acceptable]
  rw [← hnone,enum]
  cases reservedValue? d <;> simp [fail]

theorem pairwise_apart_iff {fields : List FieldDraft} : fields.Pairwise FieldDraft.Apart ↔
    (fields.map (·.number)).Nodup ∧ (fields.map (·.name)).Nodup := by
  rw [List.Nodup,List.Nodup,List.pairwise_map,List.pairwise_map,← List.pairwise_and_iff]
  rfl

theorem checkFields_eq_ok_iff {reserved : List ReservedDraft} {fields : List FieldDraft} :
    ctx.checkFields reserved fields = .ok () ↔ (∀ f ∈ fields, f.Admissible reserved) ∧
      (fields.map (·.number)).Nodup ∧ (fields.map (·.name)).Nodup := by
  have hnone : fieldsFault? reserved [] fields = none ↔ _ := fieldsFault?_eq_none_iff
  rw [pairwise_apart_iff] at hnone
  simp only [List.not_mem_nil,false_implies,implies_true,true_and] at hnone
  rw [← hnone,checkFields]
  cases fieldsFault? reserved [] fields <;> simp [fail]

/-- Messages can be built exactly if each of them, at every depth, keeps the rules. -/
theorem exists_messages_iff (hk : ∀ name, (ctx.declared.sort? name).isSome = true ↔ name ∈ names)
    {drafts : List MessageDraft} :
    (∃ ms, ctx.messages scope drafts = .ok ms) ↔ ∀ p ∈ messagesWithin scope drafts,
      p.2.Acceptable names p.1 ∧ ∀ e ∈ p.2.enums, e.Acceptable := by
  induction scope, drafts using messageNames.induct with
  | case1 scope => simp [messagesWithin,messages]
  | case2 scope name fields nested enums reserved line rest _ ihn =>
    rename_i ihr
    rw [messagesWithin,List.cons_append,List.forall_mem_cons,List.forall_mem_append,← ihn,← ihr]
    have hfields : (∃ fs, fields.mapM (ctx.field (qualify scope name)) = .ok fs) ↔ ∀ d ∈ fields,
        Meaningful names d.type (qualify scope name) ∧
          ∀ key, d.shape = .map key → IsKeyReference key := by
      simp only [exists_mapM_eq_ok_iff,exists_field_iff hk]
    have henums : (∃ es, enums.mapM (ctx.enum (qualify scope name)) = .ok es) ↔
        ∀ e ∈ enums, e.Acceptable := by
      simp only [exists_mapM_eq_ok_iff,exists_enum_iff]
    constructor
    · rintro ⟨built,h⟩
      obtain ⟨fs,ns,es,rs,hc,hfs,hns,hes,hrs,-⟩ := messages_cons_eq_ok h
      obtain ⟨hadm,hnumbers,hnames⟩ := checkFields_eq_ok_iff.mp hc
      have htypes := hfields.mp ⟨fs,hfs⟩
      exact ⟨⟨⟨hadm,hnumbers,hnames,fun f hf => (htypes f hf).1,fun f hf => (htypes f hf).2⟩,
        henums.mp ⟨es,hes⟩⟩,⟨ns,hns⟩,rs,hrs⟩
    · rintro ⟨⟨hm,he⟩,⟨ns,hns⟩,rs,hrs⟩
      obtain ⟨fs,hfs⟩ := hfields.mpr fun f hf => ⟨hm.types f hf,hm.keys f hf⟩
      obtain ⟨es,hes⟩ := henums.mpr he
      have hc : ctx.checkFields reserved fields = .ok () :=
        checkFields_eq_ok_iff.mpr ⟨hm.admissible,hm.distinct_numbers,hm.distinct_names⟩
      rw [messages]
      simp only [exists_bind_eq_ok_iff]
      exact ⟨(),hc,fs,hfs,ns,hns,es,hes,rs,hrs,_,rfl⟩

end BuildContext

theorem FileDraft.forall_mem_allEnums {p : EnumDraft → Prop} {draft : FileDraft} :
    (∀ e ∈ draft.allEnums, p e.2) ↔
      (∀ e ∈ draft.enums, p e) ∧ ∀ m ∈ draft.allMessages, ∀ e ∈ m.2.enums, p e := by
  rw [allEnums,List.forall_mem_append]
  refine and_congr ?_ ?_
  · simp [enumsWithin]
  · simp only [List.mem_flatMap,enumsWithin,List.mem_map]
    constructor
    · exact fun h m hm e he => h (e.fullName m.1,e) ⟨m,hm,e,he,rfl⟩
    · rintro h _ ⟨m,hm,e,he,rfl⟩
      exact h m hm e he

/-- A draft can be built exactly if all its messages and enums keep their rules. -/
theorem FileDraft.exists_build_iff {names : List String} {declared : Declared}
    (hk : ∀ name, (declared.sort? name).isSome = true ↔ name ∈ names) {draft : FileDraft}
    {asked : Bool} : (∃ f, draft.build declared asked = .ok f) ↔
      (∀ p ∈ draft.allMessages, p.2.Acceptable names p.1) ∧
        ∀ p ∈ draft.allEnums, p.2.Acceptable := by
  let ctx : BuildContext := ⟨draft.path,draft.lines,declared⟩
  have hmessages : (∃ ms, ctx.messages draft.package draft.messages = .ok ms) ↔ _ :=
    BuildContext.exists_messages_iff hk
  have henums : (∃ es, draft.enums.mapM (ctx.enum draft.package) = .ok es) ↔
      ∀ e ∈ draft.enums, e.Acceptable := by
    simp only [exists_mapM_eq_ok_iff,BuildContext.exists_enum_iff]
  rw [forall_mem_allEnums,build]
  simp only [exists_bind_eq_ok_iff]
  constructor
  · rintro ⟨ms,hms,es,hes,-⟩
    have hm := hmessages.mp ⟨ms,hms⟩
    exact ⟨fun p hp => (hm p hp).1,henums.mp ⟨es,hes⟩,fun p hp => (hm p hp).2⟩
  · rintro ⟨hm,he,hnested⟩
    obtain ⟨ms,hms⟩ := hmessages.mpr fun p hp => ⟨hm p hp,hnested p hp⟩
    obtain ⟨es,hes⟩ := henums.mpr he
    exact ⟨ms,hms,es,hes,_,rfl⟩

/-- Drafts can be built together exactly if their full names are distinct and all their messages and
enums keep the rules. -/
theorem exists_buildAll_iff {drafts : List FileDraft} {asked : String → Bool} :
    (∃ files, buildAll drafts asked = .ok files) ↔
      (drafts.flatMap FileDraft.fullNames).Nodup ∧
      ∀ d ∈ drafts, (∀ p ∈ d.allMessages, p.2.Acceptable (drafts.flatMap FileDraft.fullNames) p.1) ∧
        ∀ p ∈ d.allEnums, p.2.Acceptable := by
  rw [buildAll,exists_bind_eq_ok_iff,← exists_declareAll_iff]
  simp only [exists_mapM_eq_ok_iff]
  constructor
  · rintro ⟨declared,hdecl,hbuild⟩
    refine ⟨⟨declared,hdecl⟩,fun d hd => ?_⟩
    exact (FileDraft.exists_build_iff fun _ => isSome_sort?_iff hdecl).mp (hbuild d hd)
  · rintro ⟨⟨declared,hdecl⟩,hrules⟩
    refine ⟨declared,hdecl,fun d hd => ?_⟩
    exact (FileDraft.exists_build_iff fun _ => isSome_sort?_iff hdecl).mpr (hrules d hd)

theorem missingImport?_eq_none_iff {paths : List String} {drafts : List FileDraft} :
    missingImport? paths drafts = none ↔ ∀ d ∈ drafts, ∀ i ∈ d.imports, i ∈ paths := by
  simp [missingImport?]

/-- Texts that have drafts are accepted together exactly if their drafts keep all the rules. -/
theorem exists_parseAll_iff {sources : List (String × String)} {drafts : List FileDraft}
    (hdrafts : (sources.mapM fun (path,text) => draftOf path text.toList) = .ok drafts) :
    (∃ files, parseAll sources = .ok files) ↔ Acceptable (sources.map (·.1)) drafts := by
  rw [parseAll,exists_bind_eq_ok_iff]
  simp only [hdrafts,Except.ok.injEq,exists_eq_left']
  cases hm : missingImport? (sources.map (·.1)) drafts with
  | some missing =>
    have hno : ¬ Acceptable (sources.map (·.1)) drafts := by
      intro h
      rw [missingImport?_eq_none_iff.mpr h.imports] at hm
      cases hm
    simp [hno]
  | none =>
    simp only
    rw [exists_buildAll_iff]
    constructor
    · rintro ⟨hn,hrules⟩
      exact ⟨missingImport?_eq_none_iff.mp hm,hn,fun d hd => (hrules d hd).1,
        fun d hd => (hrules d hd).2⟩
    · rintro ⟨-,hn,hmessages,henums⟩
      exact ⟨hn,fun d hd => ⟨hmessages d hd,henums d hd⟩⟩

theorem ofRange_holds_iff {range : Range} {p : ℤ × ℤ} (h : Draft.ofRange range = some p)
    (number : ℤ) : range.Holds number ↔ p.1 ≤ number ∧ number ≤ p.2 := by
  obtain ⟨first,hfirst,h⟩ := Option.bind_eq_some_iff.mp h
  unfold Range.Holds
  rw [hfirst]
  cases hlast : range.last with
  | none =>
    simp only [hlast,Option.some.injEq] at h
    subst h
    simp
  | some last =>
    cases last with
    | max =>
      simp only [hlast,Option.some.injEq] at h
      subst h
      simp [maxFieldNumber]
    | number spelling =>
      simp only [hlast] at h
      obtain ⟨n,hn,h⟩ := Option.bind_eq_some_iff.mp h
      cases h
      simp [hn]

/-- The draft of a reserved statement covers what the statement does. -/
theorem covers_ofReserved_iff {reserved : Reserved} {draft : ReservedDraft}
    (h : Draft.ofReserved reserved = some draft) (name : String) (number : ℤ) :
    draft.covers name number = true ↔ reserved.Covers name number := by
  cases reserved with
  | ranges rs =>
    obtain ⟨ranges,hranges,h⟩ := Option.bind_eq_some_iff.mp h
    cases h
    have hall := mapM_eq_some_iff.mp hranges
    simp only [ReservedDraft.covers,List.contains_nil,Bool.false_or,List.any_eq_true,
      Bool.and_eq_true,decide_eq_true_eq]
    constructor
    · rintro ⟨p,hp,hnumber⟩
      obtain ⟨range,hrange,hof⟩ := exists_of_mem_right hall hp
      exact ⟨range,hrange,(ofRange_holds_iff hof number).mpr hnumber⟩
    · rintro ⟨range,hrange,hnumber⟩
      obtain ⟨p,hp,hof⟩ := exists_of_mem_left hall hrange
      exact ⟨p,hp,(ofRange_holds_iff hof number).mp hnumber⟩
  | names literals =>
    obtain ⟨names,hnames,h⟩ := Option.bind_eq_some_iff.mp h
    cases h
    have hall := mapM_eq_some_iff.mp hnames
    simp only [ReservedDraft.covers,List.any_nil,Bool.or_false,List.contains_iff_mem]
    constructor
    · exact exists_of_mem_right hall
    · rintro ⟨l,hl,hvalue⟩
      obtain ⟨n,hn,hof⟩ := exists_of_mem_left hall hl
      cases hvalue.symm.trans hof
      exact hn

/-- Texts with drafts are accepted together exactly if every import is among them, no full name is
declared twice, each message and enum keeps its rules and each type has a meaning; a reserved
statement covers what it says. The files that are given back are those of the texts in order, and
every type in them is a scalar or declared among them as what it is taken for. -/
theorem parseAll_accepts_exactly {sources : List (String × String)} {drafts : List FileDraft}
    (hdrafts : (sources.mapM fun (path,text) => draftOf path text.toList) = .ok drafts) :
    ((∃ files, parseAll sources = .ok files) ↔ Acceptable (sources.map (·.1)) drafts) ∧
    (∀ reserved draft, Draft.ofReserved reserved = some draft → ∀ name number,
      draft.covers name number = true ↔ reserved.Covers name number) ∧
    ∀ files, parseAll sources = .ok files → files.map (·.path) = sources.map (·.1) ∧
      ∀ file ∈ files, ∀ m, .message m ∈ file.declarations → ∀ f ∈ m.fields,
        f.value.Resolved (namedSorts files) ∧
          ∀ key, f.key = some key → key.Resolved (namedSorts files) := by
  refine ⟨exists_parseAll_iff hdrafts,fun _ _ h => covers_ofReserved_iff h,fun files hfiles => ?_⟩
  obtain ⟨hcoherent,hpaths,-⟩ := parseAll_eq_ok hfiles
  refine ⟨hpaths,fun file hfile m hm f hf => ?_⟩
  have hresolved := (hcoherent.sound file hfile m hm).resolved f hf
  exact ⟨hresolved.value,fun key hkey => .inl (hresolved.key key hkey).2⟩

def shelfSource : String :=
  "package p;\nmessage A \x7breserved 5 to max;\nenum E \x7bS = 0;\x7d\nmap<string, E> e = 1;\x7d\n"

def roomSource : String :=
  "import \"shelf.proto\";\nmessage B \x7brepeated .p.A a = 1;\x7d\n"

def roomSources : List (String × String) :=
  [("shelf.proto",shelfSource),("room.proto",roomSource)]

theorem read_shelfSource : Grammar.read shelfSource.toList = .ok
    [.package ⟨"p",[]⟩,.message 2 "A"
      [.reserved (.ranges [⟨"5",some .max⟩]),.enum ⟨3,"E",[.value ⟨3,false,⟨"S","0",[]⟩⟩]⟩,
       .map ⟨4,⟨false,⟨"string",[]⟩⟩,⟨false,⟨"E",[]⟩⟩,⟨"e","1",[]⟩⟩]] := by
  with_unfolding_all rfl

theorem read_roomSource : Grammar.read roomSource.toList = .ok
    [.imports none "\"shelf.proto\"",.message 2 "B"
      [.field ⟨2,some .repeated,⟨true,⟨"p",["A"]⟩⟩,⟨"a","1",[]⟩⟩]] := by
  with_unfolding_all rfl

def shelfDraft : FileDraft :=
  ⟨"shelf.proto","p",[],[⟨"A",[⟨"e",1,"E",.map "string",4⟩],[],[⟨"E",[⟨"S",0,3⟩],[],3⟩],
    [⟨[(5,536870911)],[]⟩],2⟩],[],Text.lines shelfSource.toList⟩

def roomDraft : FileDraft :=
  ⟨"room.proto","",["shelf.proto"],[⟨"B",[⟨"a",1,".p.A",.repeated,2⟩],[],[],[],2⟩],[],
    Text.lines roomSource.toList⟩

theorem mapM_draftOf_roomSources :
    (roomSources.mapM fun (path,text) => draftOf path text.toList) =
      .ok [shelfDraft,roomDraft] := by
  have hshelf : draftOf "shelf.proto" shelfSource.toList = .ok shelfDraft :=
    draftOf_of_plain (some "p") read_shelfSource rfl rfl
  have hroom : draftOf "room.proto" roomSource.toList = .ok roomDraft :=
    draftOf_of_plain none read_roomSource rfl rfl
  exact mapM_eq_ok_iff.mpr (.cons hshelf (.cons hroom .nil))

theorem parseAll_roomSources : ∃ files, parseAll roomSources = .ok files :=
  ⟨_,parseAll_eq_ok_iff.mpr ⟨_,mapM_eq_ok_iff.mp mapM_draftOf_roomSources,rfl,
    buildAll_of_plain rfl rfl rfl⟩⟩

/-- Both files are given back, and so they keep the rules. -/
theorem roomSources_accepted :
    Acceptable ["shelf.proto","room.proto"] [shelfDraft,roomDraft] ∧
    ∃ files, parseAll roomSources = .ok files ∧
      files.map (·.path) = ["shelf.proto","room.proto"] := by
  obtain ⟨haccepted,-,hfiles⟩ := parseAll_accepts_exactly mapM_draftOf_roomSources
  obtain ⟨files,h⟩ := parseAll_roomSources
  exact ⟨haccepted.mp ⟨files,h⟩,files,h,(hfiles files h).1⟩

end SchemaCodec
