import SchemaCodec.Proofs.Rendering.FieldNames

/-! # What the type names of a source stand for

The type names of a source come from its `use` lines, from the declarations of its file and from the
oneofs of its messages. What a name stands for is its origin, and each origin has one name.
-/
namespace SchemaCodec
open Codec Rendering

/-! ## Names of `use` lines -/

/-- The names that a source uses whatever it declares, and that of maps if it has any. -/
def usedNames (usesMap : Bool) : List String :=
  ["Decoder","DecodingError","Encoder","Kind"] ++ (if usesMap then ["HashMap"] else []) ++
    ["Error","Cursor"]

theorem mem_usedNames_iff {usesMap : Bool} {name : String} : name ∈ usedNames usesMap ↔
    name ∈ usedNames false ∨ usesMap = true ∧ name = "HashMap" := by
  cases usesMap <;> simp [usedNames]; tauto

/-- What stands behind the last colon of a path. -/
def lastSegment (path : String) : String :=
  String.ofList (path.toList.reverse.takeWhile (· ≠ ':')).reverse

/-- The names that a `use` line brings into scope. -/
inductive Brings : String → List String → Prop
  | one (path name : String) (h : ':' ∉ name.toList) :
      Brings ("use " ++ path ++ "::" ++ name ++ ";") [name]
  | several (path : String) (names : List String) :
      Brings ("use " ++ path ++ "::\x7b" ++ Text.joinStrings ", " names ++ "\x7d;") names

theorem lastSegment_append {path name : String} (h : ':' ∉ name.toList) :
    lastSegment (path ++ "::" ++ name) = name := by
  have hkeep : ∀ c ∈ name.toList.reverse, decide (c ≠ ':') = true := by
    intro c hc
    have hne : c ≠ ':' := fun he => h (he ▸ List.mem_reverse.mp hc)
    simpa using hne
  have hpath : (path ++ "::" ++ name).toList.reverse =
      name.toList.reverse ++ ':' :: ':' :: path.toList.reverse := by simp
  rw [lastSegment,hpath,List.takeWhile_append_of_pos hkeep,List.takeWhile_cons_of_neg (by simp)]
  simp

theorem brings_usedNames (usesMap : Bool) :
    ∃ names, List.Forall₂ Brings
      (["use polyglot_rs::\x7bDecoder, DecodingError, Encoder, Kind\x7d;"] ++
        (if usesMap then ["use std::collections::HashMap;"] else []) ++
        ["use std::error::Error;","use std::io::Cursor;"]) names ∧
      names.flatten = usedNames usesMap := by
  have hpolyglot : Brings "use polyglot_rs::\x7bDecoder, DecodingError, Encoder, Kind\x7d;"
      ["Decoder","DecodingError","Encoder","Kind"] :=
    .several "polyglot_rs" ["Decoder","DecodingError","Encoder","Kind"]
  have hmap : Brings "use std::collections::HashMap;" ["HashMap"] :=
    .one "std::collections" "HashMap" (by decide)
  have herror : Brings "use std::error::Error;" ["Error"] := .one "std::error" "Error" (by decide)
  have hcursor : Brings "use std::io::Cursor;" ["Cursor"] := .one "std::io" "Cursor" (by decide)
  cases usesMap with
  | false => exact ⟨_,.cons hpolyglot (.cons herror (.cons hcursor .nil)),rfl⟩
  | true => exact ⟨_,.cons hpolyglot (.cons hmap (.cons herror (.cons hcursor .nil))),rfl⟩

/-- The `use` lines above the blocks bring the names that are in scope from elsewhere. -/
theorem brings_headingLines (file : SchemaFile) {plan : EmissionPlan} (usesMap : Bool)
    (version : String) (h : ∀ ref ∈ plan.imports, ∃ path name, ':' ∉ name.toList ∧
      ref.rustPath = path ++ "::" ++ name) :
    ∃ comments uses names, headingLines file plan usesMap version = comments ++ uses ∧
      (∀ line ∈ comments, "//".toList <+: line.toList) ∧ List.Forall₂ Brings uses names ∧
      names.flatten =
        usedNames usesMap ++ plan.imports.map fun ref => lastSegment ref.rustPath := by
  have himports : List.Forall₂ Brings (plan.imports.map fun ref => "use " ++ ref.rustPath ++ ";")
      (plan.imports.map fun ref => [lastSegment ref.rustPath]) := by
    refine List.forall₂_map_left_iff.mpr (List.forall₂_map_right_iff.mpr ?_)
    refine List.forall₂_same.mpr fun ref href => ?_
    obtain ⟨path,name,hname,hpath⟩ := h ref href
    rw [hpath,lastSegment_append hname,← String.append_assoc,← String.append_assoc]
    exact .one path name hname
  obtain ⟨names,hfixed,hnames⟩ := brings_usedNames usesMap
  refine ⟨["// Code generated by polyglot-gen " ++ version ++ ", DO NOT EDIT.",
    "// source: " ++ file.path] ++ (if file.package = "" then [] else
      ["// package: " ++ file.package]),_,_,?_,?_,List.rel_append hfixed himports,?_⟩
  · simp only [headingLines,List.append_assoc]
  · intro line hline
    rcases List.mem_append.mp hline with hline | hline
    · rcases List.mem_pair.mp hline with rfl | rfl <;> simp
    · split at hline
      · cases hline
      · rw [List.mem_singleton.mp hline]
        simp
  · rw [List.flatten_append,hnames,← List.flatMap_def,← List.map_eq_flatMap]

/-! ## Origins -/

/-- What the name of a type stands for. -/
inductive TypeOrigin where
  | used (name : String)
  | declared (fullName : String)
  | oneof (message group : String)

/-- The types that the source of a file has names for, with their names. -/
inductive InScope (files : List SchemaFile) (file : SchemaFile) : TypeOrigin → String → Prop
  | used {name : String} (h : name ∈ usedNames false) : InScope files file (.used name) name
  | map {m : Message} {f : Field} (hm : .message m ∈ file.declarations) (hf : f ∈ m.fields)
      (h : f.cardinality = .map) : InScope files file (.used "HashMap") "HashMap"
  | declared {d : Declaration} (hd : d ∈ file.declarations) :
      InScope files file (.declared d.fullName) (typeIdentifier d.fullName file.package)
  | referred {r : Reference} {g : SchemaFile} {d : Declaration} (hr : r ∈ file.references)
      (hg : g ∈ files) (hd : d ∈ g.declarations) (h : d.fullName = r.target) :
      InScope files file (.declared d.fullName) (typeIdentifier d.fullName g.package)
  | oneof {m : Message} {f : Field} {group : String} (hm : .message m ∈ file.declarations)
      (hf : f ∈ m.fields) (h : f.group? = some group) :
      InScope files file (.oneof m.fullName group)
        (typeIdentifier m.fullName file.package ++ Identifier.camel group)

/-! ## Names of imports -/

theorem nodup_imports (file : SchemaFile) (index : TypeIndex) :
    ((file.imports index).map (·.fullName)).Nodup := by
  have hfound : ∀ names : List String, names.Nodup →
      ((names.filterMap fun n => (index.find? n).map (importOf · n)).map (·.fullName)).Nodup := by
    intro names hnames
    rw [List.map_filterMap]
    refine hnames.filterMap fun a b name ha hb => ?_
    simp only [Option.map_map,Option.mem_def,Option.map_eq_some_iff] at ha hb
    obtain ⟨_,-,rfl⟩ := ha
    obtain ⟨_,-,hsame⟩ := hb
    exact hsame.symm
  exact ((List.mergeSort_perm _ _).map _).nodup_iff.mpr (hfound _ (nodup_eraseDups _))

section Files
variable {files : List SchemaFile} (h : Readable files) {file : SchemaFile} (hfile : file ∈ files)
include h hfile

theorem Readable.identifierOf_eq {d : Declaration} (hd : d ∈ file.declarations) :
    identifierOf (TypeIndex.ofFiles files) d.fullName =
      .ok (typeIdentifier d.fullName file.package) := by
  rw [identifierOf,TypeIndex.find?_ofFiles h.distinct hfile hd]
  rfl

theorem Readable.importOf_eq {d : Declaration} (hd : d ∈ file.declarations) :
    ((TypeIndex.ofFiles files).find? d.fullName).map (importOf · d.fullName) =
      some ⟨file.path,d.fullName,
        file.modulePath ++ "::" ++ typeIdentifier d.fullName file.package⟩ := by
  rw [TypeIndex.find?_ofFiles h.distinct hfile hd]
  rfl

variable (hp : (files.map (·.path)).Nodup)
include hp

/-- A file imports what it refers to and does not declare, each declaration once. -/
theorem Readable.mem_imports_iff {ref : ImportRef} :
    ref ∈ file.imports (TypeIndex.ofFiles files) ↔ ∃ r ∈ file.references,
      r.target ∉ file.declaredNames ∧ ∃ g ∈ files, ∃ d ∈ g.declarations, d.fullName = r.target ∧
        ref = ⟨g.path,d.fullName,g.modulePath ++ "::" ++ typeIdentifier d.fullName g.package⟩ := by
  simp only [SchemaFile.imports,(List.mergeSort_perm _ _).mem_iff,List.mem_filterMap,
    List.mem_eraseDups,List.mem_filter,List.mem_map]
  constructor
  · rintro ⟨name,⟨⟨r,hr,rfl⟩,hforeign⟩,href⟩
    have hnot : r.target ∉ file.declaredNames := by
      rw [← h.isForeign_target_iff hfile hp hr,hforeign]
      decide
    obtain ⟨e,he⟩ := Option.isSome_iff_exists.mp (h.contains_target hfile hr)
    obtain ⟨hname,g,hg,d,hd,rfl⟩ := TypeIndex.exists_of_find? he
    have hd' : d.fullName = r.target := hname
    rw [← hd',h.importOf_eq hg hd] at href
    exact ⟨r,hr,hnot,g,hg,d,hd,hd',(Option.some.inj href).symm⟩
  · rintro ⟨r,hr,hnot,g,hg,d,hd,hname,rfl⟩
    have hforeign : (TypeIndex.ofFiles files).isForeign file.path r.target = true := by
      rw [← Bool.not_eq_false,h.isForeign_target_iff hfile hp hr]
      exact hnot
    exact ⟨r.target,⟨⟨r,hr,rfl⟩,hforeign⟩,hname ▸ h.importOf_eq hg hd⟩

end Files

/-! ## Origins of declarations -/

/-- The types that a declaration gives rise to, with their names. -/
def Declaration.origins (package : String) : Declaration → List (TypeOrigin × String)
  | .enum e => [(.declared e.fullName,typeIdentifier e.fullName package)]
  | .message m =>
    ((m.fields.filterMap Field.group?).eraseDups.map fun g => (.oneof m.fullName g,
      typeIdentifier m.fullName package ++ Identifier.camel g)) ++
      [(.declared m.fullName,typeIdentifier m.fullName package)]

/-- The declaration that a type of a file belongs to. -/
def TypeOrigin.owner? : TypeOrigin → Option String
  | .used _ => none
  | .declared fullName | .oneof fullName _ => some fullName

theorem Declaration.owner_of_mem_origins {d : Declaration} {package : String}
    {p : TypeOrigin × String} (hmem : p ∈ d.origins package) : p.1.owner? = some d.fullName := by
  cases d with
  | enum e =>
    rw [List.mem_singleton.mp hmem]
    rfl
  | message m =>
    rcases List.mem_append.mp hmem with hmem | hmem
    · obtain ⟨g,-,rfl⟩ := List.mem_map.mp hmem
      rfl
    · rw [List.mem_singleton.mp hmem]
      rfl

theorem Declaration.nodup_origins (d : Declaration) (package : String) :
    ((d.origins package).map (·.1)).Nodup := by
  cases d with
  | enum e => exact List.nodup_singleton _
  | message m =>
    rw [origins,List.map_append,List.map_map]
    refine List.Nodup.append ?_ (List.nodup_singleton _) ?_
    · refine (nodup_eraseDups _).map fun g g' he => ?_
      exact (TypeOrigin.oneof.inj he).2
    · intro o ho ho'
      obtain ⟨g,-,rfl⟩ := List.mem_map.mp ho
      cases List.mem_singleton.mp ho'

theorem nodup_origins_flatMap {ds : List Declaration} (package : String)
    (hn : (ds.map Declaration.fullName).Nodup) :
    ((ds.flatMap (Declaration.origins package)).map (·.1)).Nodup := by
  rw [List.map_flatMap]
  refine List.nodup_flatMap.mpr ⟨fun d _ => d.nodup_origins package,?_⟩
  refine (List.pairwise_map.mp hn).imp fun {d d'} hne => ?_
  intro o ho ho'
  obtain ⟨p,hp,rfl⟩ := List.mem_map.mp ho
  obtain ⟨p',hp',hsame⟩ := List.mem_map.mp ho'
  have howner := Declaration.owner_of_mem_origins hp
  rw [← hsame,Declaration.owner_of_mem_origins hp'] at howner
  exact hne (Option.some.inj howner).symm

theorem InScope.of_mem_origins {files : List SchemaFile} {file : SchemaFile} {d : Declaration}
    (hd : d ∈ file.declarations) {o : TypeOrigin} {name : String}
    (hmem : (o,name) ∈ d.origins file.package) : InScope files file o name := by
  cases d with
  | enum e =>
    cases List.mem_singleton.mp hmem
    exact .declared hd
  | message m =>
    rcases List.mem_append.mp hmem with hmem | hmem
    · obtain ⟨g,hg,he⟩ := List.mem_map.mp hmem
      obtain ⟨f,hf,hgroup⟩ := List.mem_filterMap.mp (List.mem_eraseDups.mp hg)
      cases he
      exact .oneof hd hf hgroup
    · cases List.mem_singleton.mp hmem
      exact .declared hd

/-! ## The scope of a source -/

/-- The types that a source has names for, in the order in which it names them. -/
def scopeOf (file : SchemaFile) (imports : List ImportRef) (usesMap : Bool)
    (ds : List Declaration) : List (TypeOrigin × String) :=
  (usedNames usesMap).map (fun name => (.used name,name)) ++
    imports.map (fun ref => (.declared ref.fullName,lastSegment ref.rustPath)) ++
    ds.flatMap (Declaration.origins file.package)

section Scope
variable {files : List SchemaFile} (h : Readable files) {file : SchemaFile} (hfile : file ∈ files)
include h hfile

theorem Readable.nodup_scopeOf (hp : (files.map (·.path)).Nodup) (usesMap : Bool)
    {ds : List Declaration} (hds : (ds.map Declaration.fullName).Nodup)
    (hall : ∀ d, d ∈ ds ↔ d ∈ file.declarations) :
    ((scopeOf file (file.imports (TypeIndex.ofFiles files)) usesMap ds).map (·.1)).Nodup := by
  have hused : ((usedNames usesMap).map TypeOrigin.used).Nodup := by
    refine List.Nodup.map (fun _ _ => TypeOrigin.used.inj) ?_
    cases usesMap <;> decide
  have himported : ((file.imports (TypeIndex.ofFiles files)).map fun ref =>
      TypeOrigin.declared ref.fullName).Nodup := by
    have hmap := (nodup_imports file (TypeIndex.ofFiles files)).map
      fun _ _ => TypeOrigin.declared.inj
    rwa [List.map_map] at hmap
  have hown := nodup_origins_flatMap file.package hds
  simp only [scopeOf,List.map_append,List.map_map]
  refine (hused.append himported ?_).append hown ?_
  · intro o ho ho'
    obtain ⟨name,-,rfl⟩ := List.mem_map.mp ho
    obtain ⟨ref,-,he⟩ := List.mem_map.mp ho'
    cases he
  · intro o ho ho'
    obtain ⟨p,hp',rfl⟩ := List.mem_map.mp ho'
    obtain ⟨d,hd,hp'⟩ := List.mem_flatMap.mp hp'
    have howner := Declaration.owner_of_mem_origins hp'
    rcases List.mem_append.mp ho with ho | ho
    · obtain ⟨name,-,he⟩ := List.mem_map.mp ho
      rw [← he] at howner
      cases howner
    · obtain ⟨ref,href,he⟩ := List.mem_map.mp ho
      obtain ⟨r,-,hnot,g,-,d',-,hname,rfl⟩ := (h.mem_imports_iff hfile hp).mp href
      rw [← he] at howner
      have hsame : d.fullName = r.target := (Option.some.inj howner).symm.trans hname
      exact hnot (hsame ▸ List.mem_map_of_mem ((hall d).mp hd))

theorem Readable.mem_scopeOf_iff (hp : (files.map (·.path)).Nodup) {usesMap : Bool}
    (hmap : usesMap = true ↔
      ∃ m, .message m ∈ file.declarations ∧ ∃ f ∈ m.fields, f.cardinality = .map)
    {ds : List Declaration} (hall : ∀ d, d ∈ ds ↔ d ∈ file.declarations) {o : TypeOrigin}
    {name : String} :
    (o,name) ∈ scopeOf file (file.imports (TypeIndex.ofFiles files)) usesMap ds ↔
      InScope files file o name := by
  have hlast {g : SchemaFile} {d : Declaration} : lastSegment (g.modulePath ++ "::" ++
      typeIdentifier d.fullName g.package) = typeIdentifier d.fullName g.package :=
    lastSegment_append fun hc => (isNameChar_typeIdentifier ':' hc).2 rfl
  simp only [scopeOf,List.mem_append]
  constructor
  · rintro ((hin | hin) | hin)
    · obtain ⟨name,hname,he⟩ := List.mem_map.mp hin
      cases he
      rcases mem_usedNames_iff.mp hname with hname | ⟨huses,rfl⟩
      · exact .used hname
      · obtain ⟨m,hm,f,hf,hc⟩ := hmap.mp huses
        exact .map hm hf hc
    · obtain ⟨ref,href,he⟩ := List.mem_map.mp hin
      cases he
      obtain ⟨r,hr,-,g,hg,d,hd,hname,rfl⟩ := (h.mem_imports_iff hfile hp).mp href
      rw [hlast]
      exact .referred hr hg hd hname
    · obtain ⟨d,hd,hin⟩ := List.mem_flatMap.mp hin
      exact .of_mem_origins ((hall d).mp hd) hin
  · have hown : ∀ d ∈ file.declarations,
        (.declared d.fullName,typeIdentifier d.fullName file.package) ∈
          ds.flatMap (Declaration.origins file.package) := by
      intro d hd
      refine List.mem_flatMap.mpr ⟨d,(hall d).mpr hd,?_⟩
      cases d <;> simp [Declaration.origins,Declaration.fullName]
    intro hscope
    cases hscope with
    | used hname => exact .inl (.inl (List.mem_map.mpr ⟨_,mem_usedNames_iff.mpr (.inl hname),rfl⟩))
    | map hm hf hc =>
      have huses := hmap.mpr ⟨_,hm,_,hf,hc⟩
      exact .inl (.inl (List.mem_map.mpr ⟨_,mem_usedNames_iff.mpr (.inr ⟨huses,rfl⟩),rfl⟩))
    | @declared d hd => exact .inr (hown d hd)
    | @referred r g d hr hg hd hname =>
      by_cases hlocal : r.target ∈ file.declaredNames
      · obtain ⟨d',hd',hsame⟩ := List.mem_map.mp hlocal
        obtain ⟨rfl,rfl⟩ := h.declaration_unique hfile hg hd' hd (hsame.trans hname.symm)
        exact .inr (hown d' hd')
      · refine .inl (.inr (List.mem_map.mpr ⟨_,(h.mem_imports_iff hfile hp).mpr
          ⟨r,hr,hlocal,g,hg,d,hd,hname,rfl⟩,?_⟩))
        rw [hlast]
    | @oneof m f group hm hf hgroup =>
      refine .inr (List.mem_flatMap.mpr ⟨_,(hall _).mpr hm,List.mem_append_left _ ?_⟩)
      refine List.mem_map.mpr ⟨group,List.mem_eraseDups.mpr ?_,rfl⟩
      exact List.mem_filterMap.mpr ⟨f,hf,hgroup⟩

end Scope
end SchemaCodec
