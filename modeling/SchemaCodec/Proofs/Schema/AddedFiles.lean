import SchemaCodec.Proofs.Schema.Validation

/-! # Files that are added

All files that are built together share one table of names, so a file that is added can change what
another one means without being imported by it: it may declare a name that a reference tries before
the one it meant. A file stays as it is exactly if no reference in it is captured like this.
-/
namespace SchemaCodec

/-- Some member is in the second list, and none before it is in the first. -/
def Preceded (known added : List String) (l : List String) : Prop :=
  ∃ before c after, l = before ++ c :: after ∧ c ∈ added ∧ ∀ x ∈ before, x ∉ known

section Preceded
variable {known added l : List String}

theorem preceded_cons_iff {x : String} :
    Preceded known added (x :: l) ↔ x ∈ added ∨ x ∉ known ∧ Preceded known added l := by
  constructor
  · rintro ⟨before,c,after,hl,hc,hbefore⟩
    cases before with
    | nil =>
      obtain ⟨rfl,-⟩ := List.cons.inj hl
      exact .inl hc
    | cons y rest =>
      obtain ⟨rfl,rfl⟩ := List.cons.inj hl
      exact .inr ⟨hbefore _ List.mem_cons_self,rest,c,after,rfl,hc,
        fun z hz => hbefore z (List.mem_cons_of_mem _ hz)⟩
  · rintro (hx | ⟨hx,before,c,after,rfl,hc,hbefore⟩)
    · exact ⟨[],x,l,rfl,hx,by simp⟩
    · exact ⟨x :: before,c,after,rfl,hc,by simpa using ⟨hx,hbefore⟩⟩

/-- More names leave the first member that is known as it is exactly if no new one precedes it. -/
theorem find?_eq_find?_iff {p q : String → Bool} (hp : ∀ x, p x = true ↔ x ∈ known)
    (hq : ∀ x, q x = true ↔ x ∈ known ∨ x ∈ added) (hd : ∀ x ∈ known, x ∉ added)
    (hfound : ∃ x ∈ l, x ∈ known) : l.find? p = l.find? q ↔ ¬ Preceded known added l := by
  induction l with
  | nil => simp at hfound
  | cons x rest ih =>
    rw [preceded_cons_iff]
    by_cases hk : x ∈ known
    · have hpx := (hp x).mpr hk
      have hqx := (hq x).mpr (.inl hk)
      simp [hpx,hqx,hk,hd x hk]
    · have hpx : ¬ p x = true := fun h => hk ((hp x).mp h)
      have hrest : ∃ y ∈ rest, y ∈ known := by simpa [hk] using hfound
      by_cases ha : x ∈ added
      · have hqx := (hq x).mpr (.inr ha)
        have hne : rest.find? p ≠ some x := fun h => hpx (List.find?_some h)
        simp [hpx,hqx,ha,hne]
      · have hqx : ¬ q x = true := fun h => ((hq x).mp h).elim hk ha
        simpa [hpx,hqx,hk,ha] using ih hrest

end Preceded

/-- A reference in a scope is captured if an added name comes before all that it could mean. -/
def Captured (known added : List String) (ref scope : String) : Prop :=
  ScalarType.ofName? ref = none ∧ Preceded known added (candidates ref scope)

/-- A table of names, some known and some added, that keeps the sorts of the known ones. -/
structure TableGrows (declared declared' : Declared) (known added : List String) : Prop where
  first : ∀ n, (declared.sort? n).isSome = true ↔ n ∈ known
  whole : ∀ n, (declared'.sort? n).isSome = true ↔ n ∈ known ∨ n ∈ added
  sorts : ∀ n ∈ known, declared'.sort? n = declared.sort? n
  apart : ∀ n ∈ known, n ∉ added

namespace BuildContext
variable {ctx : BuildContext} {declared : Declared} {known added : List String} {scope : String}

def among (ctx : BuildContext) (declared : Declared) : BuildContext := { ctx with declared }

/-- The value type of a built field is what its reference means. -/
theorem valueType_of_field {d : FieldDraft} {f : Field} (h : ctx.field scope d = .ok f) :
    ctx.valueType d.type scope d.line = .ok f.value := by
  obtain ⟨v,hv,h⟩ := bind_eq_ok.mp h
  rw [hv]
  cases hshape : d.shape with
  | singular | repeated | member _ =>
    simp only [hshape,Except.ok.injEq] at h
    rw [← h]
  | map key =>
    simp only [hshape] at h
    obtain ⟨k,-,h⟩ := bind_eq_ok.mp h
    cases h
    rfl

theorem keyType_among {ref : String} {line : ℕ} (h : IsKeyReference ref) :
    (ctx.among declared).keyType ref scope line = ctx.keyType ref scope line := by
  obtain ⟨t,ht,-⟩ := h
  simp only [keyType,valueType,ht]
  rfl

section Among
variable (hg : TableGrows ctx.declared declared known added)
include hg

/-- A reference with a meaning keeps it among more names exactly if it is not captured. -/
theorem valueType_eq_iff {ref : String} (line : ℕ) (h : Meaningful known ref scope) :
    (ctx.among declared).valueType ref scope line = ctx.valueType ref scope line ↔
      ¬ Captured known added ref scope := by
  unfold valueType Captured
  cases hs : ScalarType.ofName? ref with
  | some t => simp
  | none =>
    obtain ⟨c,hc,hcknown⟩ : ∃ c ∈ candidates ref scope, c ∈ known := by
      simpa [Meaningful,hs] using h
    have hfind := find?_eq_find?_iff hg.first hg.whole hg.apart ⟨c,hc,hcknown⟩
    rw [← resolve?_eq_find?,← resolve?_eq_find?] at hfind
    obtain ⟨n,hn⟩ := (exists_resolve?_iff (fun n => (ctx.declared.sort? n).isSome) ref scope).mpr
      ⟨c,hc,(hg.first c).mpr hcknown⟩
    obtain ⟨n',hn'⟩ := (exists_resolve?_iff (fun n => (declared.sort? n).isSome) ref scope).mpr
      ⟨c,hc,(hg.whole c).mpr (.inl hcknown)⟩
    have hnknown := (hg.first n).mp (mem_of_resolve? hn).2
    obtain ⟨sort,hns⟩ := Option.isSome_iff_exists.mp (mem_of_resolve? hn).2
    obtain ⟨sort',hns'⟩ := Option.isSome_iff_exists.mp (mem_of_resolve? hn').2
    rw [hn,hn',Option.some.injEq] at hfind
    simp only [true_and]
    rw [← hfind]
    simp only [among,hn,hn',hns,hns',Except.ok.injEq,ValueType.mk.injEq,Option.some.injEq]
    constructor
    · exact fun he => he.2.symm
    · rintro rfl
      rw [hg.sorts n hnknown,hns] at hns'
      cases hns'
      exact ⟨rfl,rfl⟩

theorem field_eq_iff {d : FieldDraft} (h : ∃ f, ctx.field scope d = .ok f) :
    (ctx.among declared).field scope d = ctx.field scope d ↔
      ¬ Captured known added d.type scope := by
  obtain ⟨hmeaning,hkeys⟩ := (exists_field_iff hg.first).mp h
  obtain ⟨f,hf⟩ := h
  rw [← valueType_eq_iff hg d.line hmeaning]
  constructor
  · intro he
    rw [valueType_of_field hf,valueType_of_field (he.trans hf)]
  · intro he
    rw [field,field,he]
    refine bind_congr fun v => ?_
    cases hshape : d.shape with
    | singular | repeated | member _ => rfl
    | map key =>
      simp only [keyType_among (hkeys key hshape)]
      rfl

/-- Built messages stay as they are exactly if no reference in them is captured. -/
theorem messages_eq_iff {drafts : List MessageDraft}
    (h : ∃ ms, ctx.messages scope drafts = .ok ms) :
    (ctx.among declared).messages scope drafts = ctx.messages scope drafts ↔
      ∀ p ∈ messagesWithin scope drafts, ∀ d ∈ p.2.fields, ¬ Captured known added d.type p.1 := by
  induction scope, drafts using messageNames.induct with
  | case1 scope => simp [messagesWithin,messages]
  | case2 scope name fields nested enums reserved line rest full ihn =>
    rename_i ihr
    subst full
    obtain ⟨built,hbuilt⟩ := h
    obtain ⟨fs,ns,es,rs,hc,hfs,hns,hes,hrs,rfl⟩ := messages_cons_eq_ok hbuilt
    have hfields : fields.mapM ((ctx.among declared).field (qualify scope name)) =
        fields.mapM (ctx.field (qualify scope name)) ↔
          ∀ d ∈ fields, ¬ Captured known added d.type (qualify scope name) := by
      rw [mapM_eq_mapM_iff ⟨fs,hfs⟩]
      have hok := exists_mapM_eq_ok_iff.mp ⟨fs,hfs⟩
      exact forall₂_congr fun d hmem => field_eq_iff hg (hok d hmem)
    rw [messagesWithin,List.cons_append,List.forall_mem_cons,List.forall_mem_append,← hfields,
      ← ihn ⟨ns,hns⟩,← ihr ⟨rs,hrs⟩,hfs,hns,hrs,hbuilt]
    constructor
    · intro he
      obtain ⟨fs',ns',es',rs',-,hfs',hns',-,hrs',he⟩ := messages_cons_eq_ok he
      simp only [List.cons.injEq,Message.mk.injEq] at he
      obtain ⟨⟨-,-,rfl,rfl,-⟩,rfl⟩ := he
      exact ⟨hfs',hns',hrs'⟩
    · rintro ⟨hfs',hns',hrs'⟩
      have hc' : (ctx.among declared).checkFields reserved fields = .ok () := hc
      have hes' : enums.mapM ((ctx.among declared).enum (qualify scope name)) = .ok es := hes
      rw [messages,hc',hfs',hns',hes',hrs']
      rfl

end Among

end BuildContext

/-- A built file stays as it is among more names exactly if no reference in it is captured. -/
theorem FileDraft.build_eq_iff {draft : FileDraft} {declared declared' : Declared} {asked : Bool}
    {known added : List String} (hg : TableGrows declared declared' known added)
    (h : ∃ f, draft.build declared asked = .ok f) :
    draft.build declared' asked = draft.build declared asked ↔
      ∀ p ∈ draft.allMessages, ∀ d ∈ p.2.fields, ¬ Captured known added d.type p.1 := by
  let ctx : BuildContext := ⟨draft.path,draft.lines,declared⟩
  obtain ⟨f,hf⟩ := h
  obtain ⟨ms,hms,hrest⟩ := bind_eq_ok.mp hf
  obtain ⟨es,hes,he⟩ := bind_eq_ok.mp hrest
  cases he
  have hmessages : (ctx.among declared').messages draft.package draft.messages =
      ctx.messages draft.package draft.messages ↔ _ :=
    BuildContext.messages_eq_iff hg ⟨ms,hms⟩
  rw [show draft.allMessages = messagesWithin draft.package draft.messages from rfl,← hmessages,hf]
  change _ ↔ _ = ctx.messages draft.package draft.messages
  rw [show ctx.messages draft.package draft.messages = .ok ms from hms]
  constructor
  · intro hb
    obtain ⟨ms',hms',hb⟩ := bind_eq_ok.mp hb
    obtain ⟨es',-,hb⟩ := bind_eq_ok.mp hb
    simp only [Except.ok.injEq,SchemaFile.mk.injEq] at hb
    obtain ⟨-,-,-,rfl,-⟩ := hb
    exact hms'
  · intro hms'
    exact bind_eq_ok.mpr ⟨ms,hms',bind_eq_ok.mpr ⟨es,hes,rfl⟩⟩

theorem flatMap_declaredNames {drafts : List FileDraft} {declared : Declared}
    (asked : String → Bool) {files : List SchemaFile}
    (h : List.Forall₂ (fun d f => FileDraft.build d declared (asked d.path) = .ok f) drafts files) :
    files.flatMap SchemaFile.declaredNames = (drafts.flatMap FileDraft.names).map (·.name) := by
  rw [List.map_flatMap,List.flatMap_def,List.flatMap_def]
  refine congrArg _ (map_eq_map (h.imp fun d f hd => ?_))
  rw [← (build_eq_ok hd).2.2.1]
  simp [SchemaFile.declaredNames,Declaration.named]

/-- The table of more drafts holds the names of the first ones, and then those of the others. -/
theorem grows_of_declareAll {drafts others : List FileDraft} {declared declared' : Declared}
    (h : declareAll drafts = .ok declared) (h' : declareAll (drafts ++ others) = .ok declared') :
    TableGrows declared declared' ((drafts.flatMap FileDraft.names).map (·.name))
      ((others.flatMap FileDraft.names).map (·.name)) := by
  have hknown (n : String) : (declared.sort? n).isSome = true ↔
      n ∈ (drafts.flatMap FileDraft.names).map (·.name) := by
    rw [isSome_sort?_iff h,(map_name_names_perm drafts).mem_iff]
  refine ⟨hknown,fun n => ?_,fun n hn => ?_,?_⟩
  · rw [isSome_sort?_iff h',← (map_name_names_perm _).mem_iff,List.flatMap_append,List.map_append,
      List.mem_append]
  · obtain ⟨sort,hs⟩ := Option.isSome_iff_exists.mp ((hknown n).mpr hn)
    rw [hs,sort?_eq_some_iff h',List.flatMap_append]
    exact List.mem_append_left _ ((sort?_eq_some_iff h).mp hs)
  · have hnodup := (declareAll_eq_ok h').1
    rw [List.flatMap_append,List.map_append] at hnodup
    exact List.disjoint_of_nodup_append hnodup

theorem exists_buildAll_of_parseAll {sources : List (String × String)} {files : List SchemaFile}
    (h : parseAll sources = .ok files) :
    ∃ drafts, (sources.mapM fun (path,text) => draftOf path text.toList) = .ok drafts ∧
      buildAll drafts (fun _ => true) = .ok files := by
  obtain ⟨drafts,hdrafts,-,hbuild⟩ := parseAll_eq_ok_iff.mp h
  exact ⟨drafts,mapM_eq_ok_iff.mpr hdrafts,hbuild⟩

/-- Files that are added to accepted ones leave one of them as it is exactly if no added name
captures a reference of it. -/
theorem parseAll_append_iff {sources more : List (String × String)} {files all : List SchemaFile}
    (h : parseAll sources = .ok files) (hall : parseAll (sources ++ more) = .ok all) {i : ℕ}
    {path text : String} (hi : sources[i]? = some (path,text)) :
    ∃ draft file, draftOf path text.toList = .ok draft ∧ files[i]? = some file ∧
      (all[i]? = some file ↔ ∀ p ∈ draft.allMessages, ∀ f ∈ p.2.fields,
        ¬ Captured (files.flatMap SchemaFile.declaredNames)
          ((all.drop files.length).flatMap SchemaFile.declaredNames) f.type p.1) := by
  obtain ⟨drafts,hdrafts,hbuild⟩ := exists_buildAll_of_parseAll h
  obtain ⟨allDrafts,hallDrafts,hbuildAll⟩ := exists_buildAll_of_parseAll hall
  rw [List.mapM_append] at hallDrafts
  obtain ⟨drafts',hdrafts',hallDrafts⟩ := bind_eq_ok.mp hallDrafts
  obtain ⟨others,-,hallDrafts⟩ := bind_eq_ok.mp hallDrafts
  cases hdrafts.symm.trans hdrafts'
  cases hallDrafts
  obtain ⟨declared,hdeclared,hbuild⟩ := bind_eq_ok.mp hbuild
  obtain ⟨declared',hdeclared',hbuildAll⟩ := bind_eq_ok.mp hbuildAll
  rw [List.mapM_append] at hbuildAll
  obtain ⟨kept,hkept,hbuildAll⟩ := bind_eq_ok.mp hbuildAll
  obtain ⟨added,hadded,hbuildAll⟩ := bind_eq_ok.mp hbuildAll
  cases hbuildAll
  have hfiles := mapM_eq_ok_iff.mp hbuild
  have hlength : files.length = kept.length :=
    hfiles.length_eq.symm.trans (mapM_eq_ok_iff.mp hkept).length_eq
  have hg := grows_of_declareAll hdeclared hdeclared'
  rw [← flatMap_declaredNames (fun _ => true) hfiles,
    ← flatMap_declaredNames (fun _ => true) (mapM_eq_ok_iff.mp hadded)] at hg
  rw [hlength,List.drop_left]
  obtain ⟨draft,hdraft,hof⟩ := exists_getElem?_of_forall₂ (mapM_eq_ok_iff.mp hdrafts) hi
  obtain ⟨file,hfile,hbuilt⟩ := exists_getElem?_of_forall₂ hfiles hdraft
  obtain ⟨file',hfile',hbuilt'⟩ := exists_getElem?_of_forall₂ (mapM_eq_ok_iff.mp hkept) hdraft
  refine ⟨draft,file,hof,hfile,?_⟩
  rw [← FileDraft.build_eq_iff hg ⟨file,hbuilt⟩,hbuilt,hbuilt',
    List.getElem?_append_left (List.getElem?_eq_some_iff.mp hfile').1,hfile']
  simp

/-- A message in a package that holds one declared outside of it. -/
def holderSource : String := "import \"b.proto\";\npackage p;\nmessage A \x7b B b = 1; \x7d\n"

def outerSource : String := "message B \x7b\x7d\n"

/-- A message of the same name inside the package. -/
def innerSource : String := "package p;\nmessage B \x7b\x7d\n"

def holderSources : List (String × String) := [("a.proto",holderSource),("b.proto",outerSource)]

def innerSources : List (String × String) := [("c.proto",innerSource)]

/-- The file of the holder, given the full name of the message that it holds. -/
def holderFile (held : String) : SchemaFile :=
  ⟨"a.proto","p",["b.proto"],
    [⟨"A","p.A",[⟨"b",1,.singular,⟨.message,some held⟩,none,none,none⟩],[],[],none⟩],[],true⟩

def emptyFile (path package full : String) : SchemaFile :=
  ⟨path,package,[],[⟨"B",full,[],[],[],none⟩],[],true⟩

def holderDraft : FileDraft :=
  ⟨"a.proto","p",["b.proto"],[⟨"A",[⟨"b",1,"B",.singular,3⟩],[],[],[],3⟩],[],
    Text.lines holderSource.toList⟩

def emptyDraft (path package : String) (line : ℕ) (text : String) : FileDraft :=
  ⟨path,package,[],[⟨"B",[],[],[],[],line⟩],[],Text.lines text.toList⟩

section Capture
open Grammar

theorem draftOf_holderSource : draftOf "a.proto" holderSource.toList = .ok holderDraft := by
  have hread : Grammar.read holderSource.toList = .ok
      [.imports none "\"b.proto\"",.package ⟨"p",[]⟩,
       .message 3 "A" [.field ⟨3,none,⟨false,⟨"B",[]⟩⟩,⟨"b","1",[]⟩⟩]] := by
    with_unfolding_all rfl
  exact draftOf_of_plain (some "p") hread rfl rfl

theorem draftOf_outerSource :
    draftOf "b.proto" outerSource.toList = .ok (emptyDraft "b.proto" "" 1 outerSource) := by
  have hread : Grammar.read outerSource.toList = .ok [.message 1 "B" []] := by
    with_unfolding_all rfl
  exact draftOf_of_plain none hread rfl rfl

theorem draftOf_innerSource :
    draftOf "c.proto" innerSource.toList = .ok (emptyDraft "c.proto" "p" 2 innerSource) := by
  have hread : Grammar.read innerSource.toList = .ok [.package ⟨"p",[]⟩,.message 2 "B" []] := by
    with_unfolding_all rfl
  exact draftOf_of_plain (some "p") hread rfl rfl

theorem parseAll_holderSources :
    parseAll holderSources = .ok [holderFile "B",emptyFile "b.proto" "" "B"] :=
  parseAll_eq_ok_iff.mpr ⟨_,.cons draftOf_holderSource (.cons draftOf_outerSource .nil),rfl,
    buildAll_of_plain rfl rfl rfl⟩

theorem parseAll_innerSources : parseAll (holderSources ++ innerSources) =
    .ok [holderFile "p.B",emptyFile "b.proto" "" "B",emptyFile "c.proto" "p" "p.B"] :=
  parseAll_eq_ok_iff.mpr ⟨_,
    .cons draftOf_holderSource (.cons draftOf_outerSource (.cons draftOf_innerSource .nil)),rfl,
    buildAll_of_plain rfl rfl rfl⟩

end Capture

theorem holderFile_kept_iff :
    parseAll holderSources = .ok [holderFile "B",emptyFile "b.proto" "" "B"] ∧
    parseAll (holderSources ++ innerSources) =
      .ok [holderFile "p.B",emptyFile "b.proto" "" "B",emptyFile "c.proto" "p" "p.B"] ∧
    ∃ draft file, draftOf "a.proto" holderSource.toList = .ok draft ∧
      [holderFile "B",emptyFile "b.proto" "" "B"][0]? = some file ∧
      ([holderFile "p.B",emptyFile "b.proto" "" "B",emptyFile "c.proto" "p" "p.B"][0]? = some file ↔
        ∀ p ∈ draft.allMessages, ∀ f ∈ p.2.fields,
          ¬ Captured ["p.A","B"] ["p.B"] f.type p.1) :=
  ⟨parseAll_holderSources,parseAll_innerSources,
    parseAll_append_iff (i := 0) parseAll_holderSources parseAll_innerSources rfl⟩

/-- A file that nobody imports changes the type of a field in another one. -/
theorem innerSources_capture :
    ((holderSources ++ innerSources).map (·.1)).Nodup ∧
    ∃ files all, parseAll holderSources = .ok files ∧
      parseAll (holderSources ++ innerSources) = .ok all ∧
      (∀ f ∈ files, ∀ d ∈ f.dependencies, d ∉ innerSources.map (·.1)) ∧ all[0]? ≠ files[0]? := by
  refine ⟨by decide,_,_,parseAll_holderSources,parseAll_innerSources,by decide,?_⟩
  simp [holderFile]

end SchemaCodec
