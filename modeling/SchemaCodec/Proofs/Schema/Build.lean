import Mathlib.Data.List.Forall2
import Mathlib.Data.List.Nodup
import SchemaCodec.Dependency.Plan
import SchemaCodec.Proofs.Outcome
import SchemaCodec.Proofs.Sorting
import SchemaCodec.Schema.Build

/-! # What accepted schemas promise

Files that are built together declare no full name twice. In each message the fields have distinct
names and numbers, and every type a field refers to is declared somewhere, as what the field takes
it for.
-/
namespace SchemaCodec

def Declaration.sort : Declaration → TypeSort
  | enum _ => .enum
  | message _ => .message

def Declaration.named (d : Declaration) : NamedSort := ⟨d.fullName,d.sort⟩

section Declare
variable {path : String} {declared result : Declared}

def NamedSort.entry (n : NamedSort) : String × TypeSort := (n.name,n.sort)

theorem sort?_eq_none_iff {name : String} :
    declared.sort? name = none ↔ name ∉ declared.map (·.1) := by
  rw [Declared.sort?,List.lookup_eq_none_iff]
  constructor
  · intro h hmem
    obtain ⟨p,hp,rfl⟩ := List.mem_map.mp hmem
    simpa using h p hp
  · intro h p hp
    exact bne_iff_ne.mpr fun he => h (he ▸ List.mem_map_of_mem hp)

theorem declare_eq_ok {n : NamedSort} (h : declare path declared n = .ok result) :
    result = n.entry :: declared ∧ n.name ∉ declared.map (·.1) := by
  unfold declare at h
  cases hs : declared.sort? n.name with
  | some s => simp [hs] at h
  | none =>
    simp only [hs,Option.isSome_none,Bool.false_eq_true,↓reduceIte,Except.ok.injEq] at h
    exact ⟨h.symm,sort?_eq_none_iff.mp hs⟩

theorem foldlM_declare {names : List NamedSort} (hn : (declared.map (·.1)).Nodup)
    (h : names.foldlM (declare path) declared = .ok result) :
    result = (names.map NamedSort.entry).reverse ++ declared ∧ (result.map (·.1)).Nodup := by
  rw [foldlM_eq_ok_iff] at h
  induction h with
  | nil => exact ⟨rfl,hn⟩
  | cons hnext _ ih =>
    obtain ⟨rfl,hnew⟩ := declare_eq_ok hnext
    obtain ⟨he,hr⟩ := ih (List.nodup_cons.mpr ⟨hnew,hn⟩)
    exact ⟨by simp [he],hr⟩

theorem foldlM_declare_files {drafts : List FileDraft} (hn : (declared.map (·.1)).Nodup)
    (h : drafts.foldlM (fun declared d => d.names.foldlM (declare d.path) declared) declared =
      .ok result) :
    result = ((drafts.flatMap FileDraft.names).map NamedSort.entry).reverse ++ declared ∧
      (result.map (·.1)).Nodup := by
  rw [foldlM_eq_ok_iff] at h
  induction h with
  | nil => exact ⟨rfl,hn⟩
  | cons hnext _ ih =>
    obtain ⟨rfl,hr⟩ := foldlM_declare hn hnext
    obtain ⟨he,hr⟩ := ih hr
    exact ⟨by simp [he],hr⟩

/-- The names that are registered are those of all files, and no two are the same. -/
theorem declareAll_eq_ok {drafts : List FileDraft} (h : declareAll drafts = .ok declared) :
    ((drafts.flatMap FileDraft.names).map (·.name)).Nodup ∧
      ∀ name sort, declared.sort? name = some sort → ⟨name,sort⟩ ∈ drafts.flatMap FileDraft.names := by
  have hstart : (([] : Declared).map (·.1)).Nodup := List.nodup_nil
  obtain ⟨rfl,hn⟩ := foldlM_declare_files hstart h
  rw [List.append_nil] at hn ⊢
  refine ⟨?_,?_⟩
  · rw [List.map_reverse,List.nodup_reverse,List.map_map] at hn
    exact hn
  · intro name sort hsort
    obtain ⟨l,r,hsplit,-⟩ := List.lookup_eq_some_iff.mp hsort
    have hmem : (name,sort) ∈ ((drafts.flatMap FileDraft.names).map NamedSort.entry).reverse := by
      simp [hsplit]
    obtain ⟨n,hn,he⟩ := List.mem_map.mp (List.mem_reverse.mp hmem)
    cases he
    exact hn

end Declare

/-- A field number that a message may use under its reserved statements. -/
structure FieldDraft.Admissible (reserved : List ReservedDraft) (f : FieldDraft) : Prop where
  positive : 1 ≤ f.number
  le_max : f.number ≤ maxFieldNumber
  not_kept : isKeptNumber f.number = false
  not_reserved : ∀ r ∈ reserved, r.covers f.name f.number = false

/-- Two fields that may stand in one message. -/
def FieldDraft.Apart (f g : FieldDraft) : Prop := f.number ≠ g.number ∧ f.name ≠ g.name

theorem fieldFault?_eq_none_iff {reserved : List ReservedDraft} {before : List FieldDraft}
    {f : FieldDraft} : fieldFault? reserved before f = none ↔
      f.Admissible reserved ∧ ∀ g ∈ before, g.Apart f := by
  by_cases hrange : f.number < 1 ∨ maxFieldNumber < f.number
  · have hno : ¬ f.Admissible reserved := by
      intro h
      have := h.positive
      have := h.le_max
      omega
    simp [fieldFault?,hrange,hno]
  by_cases hkept : isKeptNumber f.number = true
  · have hno : ¬ f.Admissible reserved := fun h => by simp [h.not_kept] at hkept
    simp [fieldFault?,hrange,hkept,hno]
  cases hfind : before.find? fun g => g.number == f.number with
  | some g =>
    have hno : ¬ ∀ g ∈ before, g.Apart f := by
      intro hall
      exact (hall g (List.mem_of_find?_eq_some hfind)).1 (by simpa using List.find?_some hfind)
    simp only [fieldFault?,hrange,hkept,hfind,hno]
    simp
  | none =>
    have hnumbers : ∀ g ∈ before, g.number ≠ f.number := by
      simpa [List.find?_eq_none] using hfind
    by_cases hname : ∃ g ∈ before, g.name = f.name
    · have hno : ¬ ∀ g ∈ before, g.Apart f := by
        intro hall
        obtain ⟨g,hg,he⟩ := hname
        exact (hall g hg).2 he
      have hany : (before.any fun g => g.name == f.name) = true := by
        simpa [List.any_eq_true] using hname
      simp only [fieldFault?,hrange,hkept,hfind,hany,hno]
      simp
    · have hany : (before.any fun g => g.name == f.name) = false := by
        simpa [List.any_eq_false] using hname
      have hapart : ∀ g ∈ before, g.Apart f :=
        fun g hg => ⟨hnumbers g hg,fun he => hname ⟨g,hg,he⟩⟩
      have hadm : f.Admissible reserved ↔
          (reserved.any fun r => r.covers f.name f.number) = false := by
        rw [List.any_eq_false]
        constructor
        · exact fun h r hr => by simp [h.not_reserved r hr]
        · exact fun h => ⟨by omega,by omega,by simpa using hkept,fun r hr => by simpa using h r hr⟩
      simp only [fieldFault?,hrange,hkept,hfind,hany,hadm,and_iff_left hapart]
      simp

/-- A message passes its checks exactly when each field is admissible and no two clash. -/
theorem fieldsFault?_eq_none_iff {reserved : List ReservedDraft} {before fields : List FieldDraft} :
    fieldsFault? reserved before fields = none ↔
      (∀ f ∈ fields, f.Admissible reserved) ∧ (∀ g ∈ before, ∀ f ∈ fields, g.Apart f) ∧
        fields.Pairwise FieldDraft.Apart := by
  induction fields generalizing before with
  | nil => simp [fieldsFault?]
  | cons f rest ih =>
    rw [fieldsFault?]
    cases hfault : fieldFault? reserved before f with
    | some cause =>
      simp only [reduceCtorEq,false_iff,not_and]
      intro hadm hbefore
      have hnone : fieldFault? reserved before f = none := fieldFault?_eq_none_iff.mpr
        ⟨hadm f List.mem_cons_self,fun g hg => hbefore g hg f List.mem_cons_self⟩
      simp [hfault] at hnone
    | none =>
      obtain ⟨hadm,hbefore⟩ := fieldFault?_eq_none_iff.mp hfault
      simp only
      rw [ih,List.pairwise_cons]
      simp only [List.mem_append,List.mem_cons,or_imp,forall_and,forall_eq]
      tauto

/-- A type that a field may refer to: a scalar, or a declared name as what it is declared as. -/
def ValueType.Resolved (named : List NamedSort) (v : ValueType) : Prop :=
  (∃ t, v = ⟨.scalar t,none⟩) ∨ ∃ n ∈ named, v = ⟨n.sort.fieldType,some n.name⟩

/-- A field whose types are known; only a map has a key, and the key is a scalar. -/
structure Field.Resolved (named : List NamedSort) (f : Field) : Prop where
  value : f.value.Resolved named
  key : ∀ k, f.key = some k → f.cardinality = .map ∧ ∃ t, k = ⟨.scalar t,none⟩
  group : f.cardinality = .oneof ↔ f.oneof.isSome = true

/-- What the checks of a message promise of its fields. -/
structure Message.Sound (named : List NamedSort) (m : Message) : Prop where
  names : (m.fields.map (·.name)).Nodup
  numbers : (m.fields.map (·.number)).Nodup
  range : ∀ f ∈ m.fields, 1 ≤ f.number ∧ f.number ≤ maxFieldNumber
  resolved : ∀ f ∈ m.fields, f.Resolved named

namespace BuildContext
variable {ctx : BuildContext} {scope : String}

section Resolution
variable {named : List NamedSort}
  (hd : ∀ name sort, ctx.declared.sort? name = some sort → ⟨name,sort⟩ ∈ named)
include hd

theorem valueType_resolved {ref : String} {line : ℕ} {v : ValueType}
    (h : ctx.valueType ref scope line = .ok v) : v.Resolved named := by
  unfold valueType at h
  cases hs : ScalarType.ofName? ref with
  | some t =>
    simp only [hs,Except.ok.injEq] at h
    exact .inl ⟨t,h.symm⟩
  | none =>
    simp only [hs] at h
    cases hr : resolve? (fun n => (ctx.declared.sort? n).isSome) ref scope with
    | none => simp [hr,fail] at h
    | some name =>
      simp only [hr] at h
      cases hsort : ctx.declared.sort? name with
      | none => simp [hsort,fail] at h
      | some sort =>
        simp only [hsort,Except.ok.injEq] at h
        exact .inr ⟨_,hd name sort hsort,h.symm⟩

theorem keyType_scalar {ref : String} {line : ℕ} {v : ValueType}
    (h : ctx.keyType ref scope line = .ok v) : ∃ t, v = ⟨.scalar t,none⟩ := by
  rw [keyType,bind_eq_ok] at h
  obtain ⟨k,hk,h⟩ := h
  by_cases hkey : k.type.isMapKey = true
  · simp only [hkey,↓reduceIte,Except.ok.injEq] at h
    subst h
    rcases valueType_resolved hd hk with ht | ⟨⟨name,sort⟩,-,rfl⟩
    · exact ht
    · cases sort <;> simp [TypeSort.fieldType,FieldType.isMapKey] at hkey
  · simp [hkey,fail] at h

/-- A built field keeps its name and number, and its types are known. -/
theorem field_eq_ok {d : FieldDraft} {f : Field} (h : ctx.field scope d = .ok f) :
    f.name = d.name ∧ f.number = d.number ∧ f.Resolved named := by
  rw [field,bind_eq_ok] at h
  obtain ⟨v,hv,h⟩ := h
  have hr := valueType_resolved hd hv
  cases hshape : d.shape with
  | singular | repeated | member _ =>
    simp only [hshape,Except.ok.injEq] at h
    subst h
    exact ⟨rfl,rfl,hr,by simp,by simp⟩
  | map ref =>
    simp only [hshape] at h
    obtain ⟨k,hk,h⟩ := bind_eq_ok.mp h
    cases h
    exact ⟨rfl,rfl,hr,by simpa using keyType_scalar hd hk,by simp⟩

end Resolution

theorem enum_eq_ok {d : EnumDraft} {e : EnumDecl} (h : ctx.enum scope d = .ok e) :
    e = ⟨d.name,d.fullName scope,d.values.map fun v => ⟨v.name,v.number,ctx.comment v.line⟩,
      ctx.comment d.line⟩ := by
  unfold enum at h
  cases hr : reservedValue? d with
  | some v => simp [hr,fail] at h
  | none =>
    simp only [hr,Except.ok.injEq] at h
    exact h.symm

theorem map_named_enums {drafts : List EnumDraft} {enums : List EnumDecl}
    (h : drafts.mapM (ctx.enum scope) = .ok enums) :
    (enums.map Declaration.enum).map Declaration.named = enumNames scope drafts := by
  have hf := mapM_eq_ok_iff.mp h
  clear h
  induction hf with
  | nil => rfl
  | @cons d e _ _ hd _ ih =>
    simp only [List.map_cons,enumNames] at ih ⊢
    rw [ih,Declaration.named,Declaration.fullName,enum_eq_ok hd]
    rfl

theorem checkFields_eq_ok {reserved : List ReservedDraft} {fields : List FieldDraft}
    (h : ctx.checkFields reserved fields = .ok ()) : fieldsFault? reserved [] fields = none := by
  unfold checkFields at h
  cases hf : fieldsFault? reserved [] fields with
  | none => rfl
  | some fault => simp [hf,fail] at h

theorem messages_cons_eq_ok {name : String} {fields : List FieldDraft}
    {nested rest : List MessageDraft} {enums : List EnumDraft} {reserved : List ReservedDraft}
    {line : ℕ} {built : List Message}
    (h : ctx.messages scope (⟨name,fields,nested,enums,reserved,line⟩ :: rest) = .ok built) :
    ∃ fs ns es rs, ctx.checkFields reserved fields = .ok () ∧
      fields.mapM (ctx.field (qualify scope name)) = .ok fs ∧
      ctx.messages (qualify scope name) nested = .ok ns ∧
      enums.mapM (ctx.enum (qualify scope name)) = .ok es ∧ ctx.messages scope rest = .ok rs ∧
      built = ⟨name,qualify scope name,fs,ns,es,ctx.comment line⟩ :: rs := by
  rw [messages] at h
  obtain ⟨_,hc,h⟩ := bind_eq_ok.mp h
  obtain ⟨fs,hfs,h⟩ := bind_eq_ok.mp h
  obtain ⟨ns,hns,h⟩ := bind_eq_ok.mp h
  obtain ⟨es,hes,h⟩ := bind_eq_ok.mp h
  obtain ⟨rs,hrs,h⟩ := bind_eq_ok.mp h
  cases h
  exact ⟨fs,ns,es,rs,hc,hfs,hns,hes,hrs,rfl⟩

/-- Built messages declare the names that were registered for them. -/
theorem map_named_messages {drafts : List MessageDraft} {built : List Message}
    (h : ctx.messages scope drafts = .ok built) :
    (Message.declarationsOf built).map Declaration.named = messageNames scope drafts := by
  induction scope, drafts using messageNames.induct generalizing built with
  | case1 scope =>
    rw [messages] at h
    cases h
    simp [Message.declarationsOf,messageNames]
  | case2 scope name fields nested enums reserved line rest _ ihn =>
    rename_i ihr
    obtain ⟨fs,ns,es,rs,-,-,hns,hes,hrs,rfl⟩ := messages_cons_eq_ok h
    rw [Message.declarationsOf,Message.declarations,messageNames,← ihr hrs,← ihn hns,
      ← map_named_enums hes]
    simp [Declaration.named,Declaration.fullName,Declaration.sort]

theorem checkedFields_sound {named : List NamedSort}
    (hd : ∀ name sort, ctx.declared.sort? name = some sort → ⟨name,sort⟩ ∈ named)
    {reserved : List ReservedDraft} {drafts : List FieldDraft} {m : Message}
    (hc : ctx.checkFields reserved drafts = .ok ())
    (hf : drafts.mapM (ctx.field scope) = .ok m.fields) : m.Sound named := by
  obtain ⟨hadm,-,hapart⟩ := fieldsFault?_eq_none_iff.mp (checkFields_eq_ok hc)
  have hfields := (mapM_eq_ok_iff.mp hf).imp fun d f h => field_eq_ok hd h
  have hnames := map_eq_map (hfields.imp fun d f h => h.1)
  have hnumbers := map_eq_map (hfields.imp fun d f h => h.2.1)
  refine ⟨?_,?_,?_,?_⟩
  · rw [hnames]
    exact List.pairwise_map.mpr (hapart.imp And.right)
  · rw [hnumbers]
    exact List.pairwise_map.mpr (hapart.imp And.left)
  · intro f hf
    obtain ⟨d,hd,-,hnumber,-⟩ := exists_of_mem_right hfields hf
    rw [hnumber]
    exact ⟨(hadm d hd).positive,(hadm d hd).le_max⟩
  · intro f hf
    obtain ⟨d,-,-,-,hr⟩ := exists_of_mem_right hfields hf
    exact hr

/-- Every message that is built passes its checks, however deeply it is nested. -/
theorem messages_sound {named : List NamedSort}
    (hd : ∀ name sort, ctx.declared.sort? name = some sort → ⟨name,sort⟩ ∈ named)
    {drafts : List MessageDraft} {built : List Message}
    (h : ctx.messages scope drafts = .ok built) :
    ∀ m, .message m ∈ Message.declarationsOf built → m.Sound named := by
  induction scope, drafts using messageNames.induct generalizing built with
  | case1 scope =>
    rw [messages] at h
    cases h
    simp [Message.declarationsOf]
  | case2 scope name fields nested enums reserved line rest _ ihn =>
    rename_i ihr
    obtain ⟨fs,ns,es,rs,hc,hfs,hns,-,hrs,rfl⟩ := messages_cons_eq_ok h
    intro m hm
    rw [Message.declarationsOf,Message.declarations] at hm
    simp only [List.cons_append,List.mem_cons,List.mem_append,List.mem_map,reduceCtorEq,
      and_false,exists_false,false_or,Declaration.message.injEq] at hm
    rcases hm with rfl | hm | hm
    · exact checkedFields_sound hd hc hfs
    · exact ihn hns m hm
    · exact ihr hrs m hm

end BuildContext

/-- The names of all declarations of some files with what they are declared as. -/
def namedSorts (files : List SchemaFile) : List NamedSort :=
  files.flatMap fun f => f.declarations.map Declaration.named

/-- Files whose types are declared once and whose messages pass their checks. -/
structure Coherent (files : List SchemaFile) : Prop where
  distinct : (files.flatMap SchemaFile.declaredNames).Nodup
  sound : ∀ f ∈ files, ∀ m, .message m ∈ f.declarations → m.Sound (namedSorts files)

theorem build_eq_ok {draft : FileDraft} {declared : Declared} {asked : Bool} {f : SchemaFile}
    (h : draft.build declared asked = .ok f) :
    f.path = draft.path ∧ f.generate = asked ∧
      f.declarations.map Declaration.named = draft.names ∧
      ∀ named : List NamedSort,
        (∀ name sort, declared.sort? name = some sort → ⟨name,sort⟩ ∈ named) →
        ∀ m, .message m ∈ f.declarations → m.Sound named := by
  obtain ⟨ms,hms,h⟩ := bind_eq_ok.mp h
  obtain ⟨es,hes,h⟩ := bind_eq_ok.mp h
  cases h
  refine ⟨rfl,rfl,?_,?_⟩
  · rw [SchemaFile.declarations,List.map_append,BuildContext.map_named_enums hes,
      BuildContext.map_named_messages hms]
    rfl
  · intro named hd m hm
    simp only [SchemaFile.declarations,List.mem_append,List.mem_map,reduceCtorEq,and_false,
      exists_false,false_or] at hm
    exact BuildContext.messages_sound hd hms m hm

/-- Files that are built together are coherent; each has its draft's path. -/
theorem buildAll_eq_ok {drafts : List FileDraft} {asked : String → Bool} {files : List SchemaFile}
    (h : buildAll drafts asked = .ok files) :
    Coherent files ∧ files.map (·.path) = drafts.map (·.path) ∧
      ∀ f ∈ files, f.generate = asked f.path := by
  obtain ⟨declared,hdecl,h⟩ := bind_eq_ok.mp h
  obtain ⟨hnodup,hknown⟩ := declareAll_eq_ok hdecl
  have hfiles := mapM_eq_ok_iff.mp h
  have hnamed : namedSorts files = drafts.flatMap FileDraft.names := by
    rw [namedSorts,List.flatMap_def,List.flatMap_def,
      map_eq_map (hfiles.imp fun d f hd => (build_eq_ok hd).2.2.1)]
  have hpaths : files.map (·.path) = drafts.map (·.path) :=
    map_eq_map (hfiles.imp fun d f hd => (build_eq_ok hd).1)
  refine ⟨⟨?_,?_⟩,hpaths,?_⟩
  · have he : files.flatMap SchemaFile.declaredNames = (namedSorts files).map (·.name) := by
      rw [namedSorts,List.map_flatMap]
      refine List.flatMap_congr fun f _ => ?_
      simp [SchemaFile.declaredNames,Declaration.named]
    rw [he,hnamed]
    exact hnodup
  · intro f hf m hm
    obtain ⟨d,-,hd⟩ := exists_of_mem_right hfiles hf
    rw [hnamed]
    exact (build_eq_ok hd).2.2.2 _ hknown m hm
  · intro f hf
    obtain ⟨d,-,hd⟩ := exists_of_mem_right hfiles hf
    obtain ⟨hpath,hasked,-⟩ := build_eq_ok hd
    rw [hasked,hpath]

theorem Draft.getD_of_only? {values : List String} {repeated : DraftError} {value : Option String}
    (h : Draft.only? values repeated = .ok value) : value.getD "" = "" ∨ value.getD "" ∈ values := by
  unfold Draft.only? at h
  split at h
  · cases h
    exact .inl rfl
  · cases h
    exact .inr List.mem_cons_self
  · cases h

/-- A draft holds what the statements of the file add up to. -/
theorem ofStatements_eq_ok {path : String} {text : List Char}
    {statements : List Grammar.Statement} {draft : FileDraft}
    (h : Draft.ofStatements path text statements = .ok draft) :
    ∃ c package, statements.foldlM Draft.Contents.add {} = some c ∧
      (package = "" ∨ package ∈ c.packages) ∧
      draft = ⟨path,package,c.imports,c.messages,c.enums,Text.lines text⟩ := by
  unfold Draft.ofStatements at h
  cases hc : statements.foldlM Draft.Contents.add {} with
  | none => simp [hc] at h
  | some c =>
    simp only [hc] at h
    obtain ⟨version,-,h⟩ := bind_eq_ok.mp h
    cases version with
    | none =>
      obtain ⟨said,hsaid,h⟩ := bind_eq_ok.mp h
      cases h
      exact ⟨c,_,rfl,Draft.getD_of_only? hsaid,rfl⟩
    | some version =>
      by_cases hversion : version ≠ "proto2" ∧ version ≠ "proto3"
      · simp [hversion,throw,throwThe,MonadExceptOf.throw,bind,Except.bind] at h
      · simp only [hversion,↓reduceIte] at h
        obtain ⟨said,hsaid,h⟩ := bind_eq_ok.mp h
        cases h
        exact ⟨c,_,rfl,Draft.getD_of_only? hsaid,rfl⟩

theorem draftOf_eq_ok {path : String} {text : List Char} {draft : FileDraft}
    (h : draftOf path text = .ok draft) :
    ∃ statements, Grammar.read text = .ok statements ∧
      Draft.ofStatements path text statements = .ok draft := by
  unfold draftOf at h
  cases hread : Grammar.read text with
  | error place => simp [hread] at h
  | ok statements =>
    simp only [hread] at h
    cases hdraft : Draft.ofStatements path text statements with
    | error cause => cases cause <;> simp [hdraft] at h
    | ok built =>
      simp only [hdraft,Except.ok.injEq] at h
      exact ⟨statements,rfl,h ▸ hdraft⟩

theorem path_draftOf {path : String} {text : List Char} {draft : FileDraft}
    (h : draftOf path text = .ok draft) : draft.path = path := by
  obtain ⟨_,-,h⟩ := draftOf_eq_ok h
  obtain ⟨_,_,-,-,rfl⟩ := ofStatements_eq_ok h
  rfl

/-- Sources are accepted together exactly if each has a draft, no draft lacks an import and the
drafts are accepted. -/
theorem parseAll_eq_ok_iff {sources : List (String × String)} {files : List SchemaFile} :
    parseAll sources = .ok files ↔ ∃ drafts,
      List.Forall₂ (fun s d => draftOf s.1 s.2.toList = .ok d) sources drafts ∧
      missingImport? (sources.map (·.1)) drafts = none ∧
      buildAll drafts (fun _ => true) = .ok files := by
  rw [parseAll,bind_eq_ok]
  refine exists_congr fun drafts => and_congr mapM_eq_ok_iff ?_
  cases missingImport? (sources.map (·.1)) drafts with
  | some missing => simp
  | none => simp

/-- Sources that are accepted together give coherent files under the paths of the sources. -/
theorem parseAll_eq_ok {sources : List (String × String)} {files : List SchemaFile}
    (h : parseAll sources = .ok files) :
    Coherent files ∧ files.map (·.path) = sources.map (·.1) ∧ ∀ f ∈ files, f.generate = true := by
  obtain ⟨drafts,hdrafts,-,hbuild⟩ := parseAll_eq_ok_iff.mp h
  have hpaths : drafts.map (·.path) = sources.map (·.1) :=
    map_eq_map (hdrafts.imp fun _ _ hd => path_draftOf hd)
  obtain ⟨hcoh,hp,hask⟩ := buildAll_eq_ok hbuild
  exact ⟨hcoh,hp.trans hpaths,hask⟩

/-! ## Plain texts

A text whose messages hold no other messages, and whose literals hold no escapes, is drafted and
built item by item, so that its draft and its file can be computed. -/

section Plain
open Grammar Text

/-- A character that stands for itself in a literal. -/
def standsForItself (c : Char) : Bool := c != '\\' && c != '\r' && c != '\x00'

theorem unescape?_eq_self {text : List Char} (h : text.all standsForItself = true) :
    unescape? text = some text := by
  induction text with
  | nil => rw [unescape?]
  | cons c rest ih =>
    obtain ⟨hc,hrest⟩ := Bool.and_eq_true_iff.mp h
    simp only [standsForItself,Bool.and_eq_true,bne_iff_ne] at hc
    obtain ⟨⟨hslash,hreturn⟩,hnull⟩ := hc
    rw [unescape?]
    · simp [hreturn,hnull,ih hrest]
    · exact fun h => absurd h hslash
    · exact fun _ _ h => absurd h hslash

/-- The value of a text literal without escapes. -/
def plainValue? (literal : String) : Option String :=
  let inside := (literal.toList.drop 1).dropLast
  if inside.all standsForItself then some (String.ofList inside) else none

theorem textValue?_of_plain {literal value : String} (h : plainValue? literal = some value) :
    textValue? literal = some value := by
  obtain ⟨hplain,hvalue⟩ := Option.ite_none_right_eq_some.mp h
  rw [textValue?,unescape?_eq_self hplain,Option.map_some]
  exact hvalue

namespace Draft

def isMessage : MessageItem → Bool
  | .message _ _ _ => true
  | _ => false

/-- What items declare among which there is no message. -/
def plainBody? (items : List MessageItem) : Option Body :=
  if items.any isMessage then none
  else items.foldrM (fun item body => Body.prepend body item) {}

theorem bodyOf_of_plain {items : List MessageItem} {body : Body}
    (h : plainBody? items = some body) : bodyOf items = some body := by
  obtain ⟨hplain,hbody⟩ := Option.ite_none_left_eq_some.mp h
  clear h
  induction items generalizing body with
  | nil =>
    rw [bodyOf]
    exact hbody
  | cons item rest ih =>
    rw [List.any_cons,Bool.or_eq_true,not_or] at hplain
    rw [List.foldrM_cons] at hbody
    obtain ⟨later,hlater,hitem⟩ := Option.bind_eq_some_iff.mp hbody
    rw [bodyOf,ih hplain.2 hlater]
    · exact hitem
    · rintro line name items rfl
      exact hplain.1 rfl

theorem Body.toMessage_eq (body : Body) (name : String) (line : ℕ) : body.toMessage name line =
    ⟨name,(body.fields ++ body.members).insertionSort fun a b => a.line ≤ b.line,body.messages,
      body.enums,body.reserved,line⟩ := by
  rw [Body.toMessage,byLine,mergeSort_eq_insertionSort]

/-- What a statement of a plain text adds to the contents of the file. -/
def Contents.addPlain (c : Contents) : Statement → Option Contents
  | .syntaxIs literal => do some { c with syntaxes := c.syntaxes ++ [← plainValue? literal] }
  | .imports _ literal => do some { c with imports := c.imports ++ [← plainValue? literal] }
  | .option ⟨_,.text literal⟩ => (plainValue? literal).map fun _ => c
  | .message line name items => do
    let body ← plainBody? items
    some { c with messages := c.messages ++ [⟨name,(body.fields ++ body.members).insertionSort
      fun a b => a.line ≤ b.line,body.messages,body.enums,body.reserved,line⟩] }
  | s => c.add s

theorem Contents.add_of_addPlain {c next : Contents} {s : Statement}
    (h : c.addPlain s = some next) : c.add s = some next := by
  unfold addPlain at h
  split at h
  case h_1 literal =>
    obtain ⟨value,hvalue,h⟩ := Option.bind_eq_some_iff.mp h
    exact Option.bind_eq_some_iff.mpr ⟨value,textValue?_of_plain hvalue,h⟩
  case h_2 m literal =>
    obtain ⟨value,hvalue,h⟩ := Option.bind_eq_some_iff.mp h
    exact Option.bind_eq_some_iff.mpr ⟨value,textValue?_of_plain hvalue,h⟩
  case h_3 name literal =>
    obtain ⟨value,hvalue,rfl⟩ := Option.map_eq_some_iff.mp h
    simp [add,checkSetting,textValue?_of_plain hvalue]
  case h_4 line name items =>
    obtain ⟨body,hbody,h⟩ := Option.bind_eq_some_iff.mp h
    refine Option.bind_eq_some_iff.mpr ⟨body,bodyOf_of_plain hbody,?_⟩
    rw [Body.toMessage_eq]
    exact h
  case h_5 => exact h

theorem foldlM_add_of_plain {statements : List Statement} {c last : Contents}
    (h : statements.foldlM Contents.addPlain c = some last) :
    statements.foldlM Contents.add c = some last := by
  rw [foldlM_eq_some_iff] at h ⊢
  induction h with
  | nil => exact .nil _
  | cons hnext _ ih => exact .cons (Contents.add_of_addPlain hnext) ih

end Draft

/-- What the statements of a plain text add up to is its draft, if they name no syntax. -/
theorem draftOf_of_plain {path : String} {text : List Char} {statements : List Statement}
    {draft : FileDraft} (package : Option String) (hread : read text = .ok statements)
    (hcontents : statements.foldlM Draft.Contents.addPlain {} =
      some ⟨[],package.toList,draft.imports,draft.messages,draft.enums⟩)
    (hdraft : draft = ⟨path,package.getD "",draft.imports,draft.messages,draft.enums,lines text⟩) :
    draftOf path text = .ok draft := by
  have hpackage : Draft.only? package.toList .repeatedPackage = .ok package := by
    cases package <;> rfl
  have hof : Draft.ofStatements path text statements = .ok draft := by
    rw [hdraft]
    simp only [Draft.ofStatements,Draft.foldlM_add_of_plain hcontents,hpackage]
    rfl
  simp only [draftOf,hread,hof]

def FileDraft.plainNames (draft : FileDraft) : List NamedSort :=
  enumNames draft.package draft.enums ++ draft.messages.flatMap fun m =>
    ⟨m.fullName draft.package,.message⟩ :: enumNames (m.fullName draft.package) m.enums

theorem messageNames_of_plain {scope : String} {messages : List MessageDraft}
    (h : ∀ m ∈ messages, m.messages = []) :
    messageNames scope messages = messages.flatMap fun m =>
      ⟨m.fullName scope,.message⟩ :: enumNames (m.fullName scope) m.enums := by
  induction messages with
  | nil => rw [messageNames,List.flatMap_nil]
  | cons m rest ih =>
    obtain ⟨hm,hrest⟩ := List.forall_mem_cons.mp h
    obtain ⟨name,fields,nested,enums,reserved,line⟩ := m
    cases hm
    rw [messageNames,messageNames,ih hrest,List.append_nil,List.flatMap_cons]
    rfl

/-- The message that is built of a draft which holds no other. -/
def BuildContext.plainMessage (ctx : BuildContext) (scope : String) (m : MessageDraft) :
    Except SchemaError Message := do
  ctx.checkFields m.reserved m.fields
  let fields ← m.fields.mapM (ctx.field (m.fullName scope))
  let enums ← m.enums.mapM (ctx.enum (m.fullName scope))
  .ok ⟨m.name,m.fullName scope,fields,[],enums,ctx.comment m.line⟩

theorem BuildContext.messages_of_plain {ctx : BuildContext} {scope : String}
    {messages : List MessageDraft} (h : ∀ m ∈ messages, m.messages = []) :
    ctx.messages scope messages = messages.mapM (ctx.plainMessage scope) := by
  induction messages with
  | nil =>
    rw [BuildContext.messages]
    rfl
  | cons m rest ih =>
    obtain ⟨hm,hrest⟩ := List.forall_mem_cons.mp h
    obtain ⟨name,fields,nested,enums,reserved,line⟩ := m
    cases hm
    rw [BuildContext.messages,BuildContext.messages,ih hrest,List.mapM_cons]
    simp only [plainMessage,MessageDraft.fullName,bind_assoc]
    rfl

/-- The file that is built of a draft whose messages hold no others. -/
def FileDraft.plainBuild (draft : FileDraft) (declared : Declared) (generate : Bool) :
    Except SchemaError SchemaFile := do
  let ctx : BuildContext := ⟨draft.path,draft.lines,declared⟩
  let messages ← draft.messages.mapM (ctx.plainMessage draft.package)
  let enums ← draft.enums.mapM (ctx.enum draft.package)
  .ok ⟨draft.path,draft.package,draft.imports,messages,enums,generate⟩

/-- Files whose messages hold no others are built message by message. -/
theorem buildAll_of_plain {drafts : List FileDraft} {asked : String → Bool} {declared : Declared}
    {files : List SchemaFile}
    (hplain : (drafts.all fun d => d.messages.all (·.messages.isEmpty)) = true)
    (hdeclared : drafts.foldlM (fun (declared : Declared) (d : FileDraft) =>
      d.plainNames.foldlM (declare d.path) declared) [] = .ok declared)
    (hfiles : drafts.mapM (fun d => d.plainBuild declared (asked d.path)) = .ok files) :
    buildAll drafts asked = .ok files := by
  have hempty : ∀ d ∈ drafts, ∀ m ∈ d.messages, m.messages = [] := by
    simpa using hplain
  have hnames : ∀ d ∈ drafts, d.names = d.plainNames := fun d hd => by
    rw [FileDraft.names,messageNames_of_plain (hempty d hd)]
    rfl
  have hbuild : ∀ d ∈ drafts, d.build declared (asked d.path) =
      d.plainBuild declared (asked d.path) := fun d hd => by
    rw [FileDraft.build,FileDraft.plainBuild,BuildContext.messages_of_plain (hempty d hd)]
  have hpairs : drafts.map (fun d => (d.path,d.names)) =
      drafts.map fun d => (d.path,d.plainNames) :=
    List.map_congr_left fun d hd => by rw [hnames d hd]
  have hall : declareAll drafts = .ok declared := by
    rw [← hdeclared,declareAll]
    simpa only [List.foldlM_map] using congrArg (fun (ps : List (String × List NamedSort)) =>
      ps.foldlM (fun (declared : Declared) p => p.2.foldlM (declare p.1) declared) []) hpairs
  rw [buildAll,hall]
  exact (mapM_congr hbuild).trans hfiles

end Plain

end SchemaCodec
