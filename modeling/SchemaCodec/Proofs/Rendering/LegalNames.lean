import SchemaCodec.Proofs.Rendering.DistinctNames
import SchemaCodec.Proofs.Rendering.Faults
import SchemaCodec.Proofs.Rendering.LegalIdentifiers

/-! # Legal names in generated sources

Fields of structs are escaped where the generated language has taken their names. The names of types
and values and the parts of paths are not, so an accepted schema need not be rendered to legal
identifiers: it is exactly if its own names avoid what they would become.
-/
namespace SchemaCodec
open Codec Identifier Rendering Text

/-- The names that a block declares: types, values, fields and members. -/
def Rendering.Block.declaredNames : Block → List String
  | .enum b => b.name :: b.variants.map (·.1)
  | .struct b => b.name :: (b.fields.map (·.name) ++
      b.oneofs.flatMap fun o => o.name :: o.variants.map (·.1))

/-- The names that a source declares are legal identifiers, and so are those in each path of the
crate that it uses. -/
structure NamesLegal (file : SchemaFile) (version : String) (plan : EmissionPlan)
    (blocks : List (Block × Bool)) : Prop where
  declared : ∀ b ∈ blocks, ∀ name ∈ b.1.declaredNames, Legal name
  used : ∀ path, "use crate::" ++ path ++ ";" ∈
    headingLines file plan (blocks.any (·.2)) version → LegalPath path

/-- A full name without its package. -/
def localName (fullName package : String) : List Char :=
  if package ≠ "" ∧ (package.toList ++ ['.']).isPrefixOf fullName.toList then
    fullName.toList.drop (package.toList ++ ['.']).length
  else fullName.toList

/-- The words that the name of a type is made of. -/
def typeWords (fullName package : String) : List (List Char) := words (localName fullName package)

/-- The words of a declaration and of its values or members make names of types, and no place of a
value in it is called by an underscore. -/
def Declaration.Nameable (package : String) : Declaration → Prop
  | .enum decl => NamesType (typeWords decl.fullName package) ∧
      ∀ v ∈ decl.values, NamesType (words v.name.toList)
  | .message m => NamesType (typeWords m.fullName package) ∧
      ∀ f ∈ m.fields, f.slot.name ≠ "_" ∧ (f.group? ≠ none → NamesType (words f.name.toList))

/-- The parts of a package in small letters are no keywords; neither is anything in the parts of a
path that stands for a package. -/
def SchemaFile.ModuleNameable (file : SchemaFile) : Prop :=
  if file.package = "" then
    ∀ part ∈ split '/' file.stem, LegalPath (String.ofList (snakeChars part))
  else ∀ part ∈ splitString '.' file.package,
    part ≠ "_" ∧ snake part ∉ keywords ∧ snake part ∉ pathWords

/-- The declarations of a file can be named, and so can those that it refers to in other files, with
the modules that they are in. -/
structure SchemaFile.Nameable (files : List SchemaFile) (file : SchemaFile) : Prop where
  own : ∀ d ∈ file.declarations, d.Nameable file.package
  imported : ∀ r ∈ file.references, r.target ∉ file.declaredNames →
    ∀ g ∈ files, ∀ d ∈ g.declarations, d.fullName = r.target →
      NamesType (typeWords d.fullName g.package) ∧ g.ModuleNameable

/-! ## Types -/

theorem IsPathChar.ascii {c : Char} (h : IsPathChar c) : c.toNat < 128 := by
  obtain h | rfl := h
  · exact ascii_of_isWordPart h
  · decide

theorem typeIdentifier_eq (fullName package : String) : typeIdentifier fullName package =
    String.ofList ((typeWords fullName package).flatMap capitalize) := by
  unfold typeWords localName
  by_cases h : package ≠ "" ∧ (package.toList ++ ['.']).isPrefixOf fullName.toList
  · rw [if_pos h]
    exact if_pos h
  · rw [if_neg h]
    exact if_neg h

theorem isAsciiWord_of_mem_typeWords {fullName package : String}
    (h : ∀ c ∈ fullName.toList, IsPathChar c) :
    ∀ w ∈ typeWords fullName package, IsAsciiWord w := by
  intro w hw
  refine isAsciiWord_of_mem_words (fun c hc => ?_) hw
  unfold localName at hc
  split at hc
  · exact (h c (List.mem_of_mem_drop hc)).ascii
  · exact (h c hc).ascii

theorem legal_typeIdentifier_iff {fullName package : String}
    (h : ∀ c ∈ fullName.toList, IsPathChar c) :
    Legal (typeIdentifier fullName package) ↔ NamesType (typeWords fullName package) := by
  rw [typeIdentifier_eq]
  exact legal_flatMap_capitalize_iff (isAsciiWord_of_mem_typeWords h)

theorem legal_camel_iff {name : String} (h : IsName name) :
    Legal (camel name) ↔ NamesType (words name.toList) :=
  legal_flatMap_capitalize_iff fun _ hw =>
    isAsciiWord_of_mem_words (fun c hc => (h.path c hc).ascii) hw

/-- The type of a oneof has a legal name if the type of its message has. -/
theorem legal_oneof {fullName package group : String} (h : ∀ c ∈ fullName.toList, IsPathChar c)
    (hgroup : IsName group) (htype : NamesType (typeWords fullName package)) :
    Legal (typeIdentifier fullName package ++ camel group) := by
  have hwords : typeIdentifier fullName package ++ camel group = String.ofList
      ((typeWords fullName package ++ words group.toList).flatMap capitalize) := by
    rw [typeIdentifier_eq,List.flatMap_append,String.ofList_append]
    rfl
  rw [hwords]
  refine (legal_flatMap_capitalize_iff fun w hw => ?_).mpr (htype.append _)
  rcases List.mem_append.mp hw with hw | hw
  · exact isAsciiWord_of_mem_typeWords h w hw
  · exact isAsciiWord_of_mem_words (fun c hc => (hgroup.path c hc).ascii) hw

/-! ## Modules -/

/-- The parts of the module of a file, below the crate. -/
def SchemaFile.moduleParts (file : SchemaFile) : List String :=
  (if file.package = "" then split '/' file.stem else split '.' file.package.toList).map
    fun part => String.ofList (snakeChars part)

theorem SchemaFile.moduleParts_ne_nil (file : SchemaFile) : file.moduleParts ≠ [] := by
  unfold moduleParts
  split <;> simp [split_ne_nil]

theorem SchemaFile.modulePath_eq (file : SchemaFile) :
    file.modulePath = "crate::" ++ joinStrings "::" file.moduleParts := by
  obtain ⟨first,rest,hparts⟩ := List.exists_cons_of_ne_nil file.moduleParts_ne_nil
  have hpath : file.modulePath = joinStrings "::" ("crate" :: file.moduleParts) := rfl
  rw [hpath,hparts]
  simp [joinStrings,join,← String.toList_inj]

theorem IsPackage.isName_of_mem {package part : String} (h : IsPackage package)
    (hne : package ≠ "") (hpart : part ∈ splitString '.' package) : IsName part := by
  obtain ⟨p,hp,rfl⟩ := h.resolve_left hne
  have hdot : ∀ w ∈ p.words, '.' ∉ w.toList := fun w hw hc =>
    absurd ((hp w hw).isWordPart '.' hc) (by decide)
  rw [Draft.ofDotted,splitString_joinStrings (by decide) hdot (List.cons_ne_nil _ _)] at hpart
  exact hp part hpart

theorem SchemaFile.legal_moduleParts_iff {file : SchemaFile} (h : IsPackage file.package) :
    (∀ part ∈ file.moduleParts, LegalPath part) ↔ file.ModuleNameable := by
  unfold moduleParts ModuleNameable
  by_cases hnone : file.package = ""
  · rw [if_pos hnone,if_pos hnone]
    exact List.forall_mem_map
  · rw [if_neg hnone,if_neg hnone,splitString,List.forall_mem_map,List.forall_mem_map]
    refine forall₂_congr fun part hpart => ?_
    have hname : IsName (String.ofList part) := h.isName_of_mem hnone (List.mem_map_of_mem hpart)
    have hsnake : String.ofList (snakeChars part) = snake (String.ofList part) := by
      rw [snake,String.toList_ofList]
    rw [hsnake,legalPath_iff (fun hc => absurd ((isName_snake hname).isWordPart ':' hc) (by decide)),
      legal_snake_iff hname]

/-- The path of a type is legal exactly if the module and the type have legal names. -/
theorem SchemaFile.legal_path_iff {file : SchemaFile} (h : IsPackage file.package)
    {fullName path : String} (hfull : ∀ c ∈ fullName.toList, IsPathChar c)
    (hpath : file.modulePath ++ "::" ++ typeIdentifier fullName file.package = "crate::" ++ path) :
    LegalPath path ↔ NamesType (typeWords fullName file.package) ∧ file.ModuleNameable := by
  have hcolon : ':' ∉ (typeIdentifier fullName file.package).toList :=
    fun hc => (isNameChar_typeIdentifier ':' hc).2 rfl
  rw [file.modulePath_eq,String.append_assoc,String.append_assoc] at hpath
  rw [← String.append_right_inj "crate::" |>.mp hpath,← String.append_assoc,legalPath_append_iff,
    legalPath_join_iff file.moduleParts_ne_nil,legal_moduleParts_iff h,legalPath_iff hcolon,
    legal_typeIdentifier_iff hfull,and_comm]

/-- The lines that use paths of the crate are those of the imports. -/
theorem mem_headingLines_iff {file : SchemaFile} {plan : EmissionPlan} {usesMap : Bool}
    {version path : String} :
    "use crate::" ++ path ++ ";" ∈ headingLines file plan usesMap version ↔
      ∃ ref ∈ plan.imports, ref.rustPath = "crate::" ++ path := by
  have hline : "use crate::" ++ path ++ ";" = "use " ++ ("crate::" ++ path) ++ ";" := by
    simp [← String.toList_inj]
  rw [headingLines,List.mem_append,List.mem_map]
  constructor
  · rintro (hother | ⟨ref,href,he⟩)
    · -- No other line begins like a use of the crate.
      have hcrate : ("use crate::" ++ path ++ ";").toList.take 5 = ['u','s','e',' ','c'] := by
        simp
      generalize "use crate::" ++ path ++ ";" = line at hother hcrate
      revert line
      cases usesMap <;> by_cases hp : file.package = "" <;> simp [hp]
    · rw [hline] at he
      exact ⟨ref,href,String.append_right_inj "use " |>.mp (String.append_left_inj ";" |>.mp he)⟩
  · rintro ⟨ref,href,he⟩
    exact .inr ⟨ref,href,by rw [he,hline]⟩

/-! ## Blocks -/

section Struct
variable {index : TypeIndex} {m : Message} {b : StructBlock} (h : NamedAfter index m b)
  (hnamed : ∀ f ∈ m.fields, f.Named)
include h hnamed

theorem NamedAfter.legal_fields_iff : (∀ name ∈ b.fields.map (·.name), Legal name) ↔
    ∀ f ∈ m.fields, f.slot.name ≠ "_" := by
  rw [h.fields,List.forall_mem_map]
  simp only [List.mem_eraseDups,List.forall_mem_map]
  exact forall₂_congr fun f hf => legal_escape_iff (hnamed f hf).isName_slot

/-- Beside a legal name of the struct, those of its oneofs are legal, and their members are exactly
if they make names of types. -/
theorem NamedAfter.legal_oneofs_iff {package : String}
    (hname : b.name = typeIdentifier m.fullName package)
    (hpath : ∀ c ∈ m.fullName.toList, IsPathChar c)
    (htype : NamesType (typeWords m.fullName package)) :
    (∀ name ∈ b.oneofs.flatMap fun o => o.name :: o.variants.map (·.1), Legal name) ↔
      ∀ f ∈ m.fields, f.group? ≠ none → NamesType (words f.name.toList) := by
  constructor
  · intro hall f hf hsome
    obtain ⟨g,hg⟩ := Option.ne_none_iff_exists'.mp hsome
    obtain ⟨o,ho,-,hvariants⟩ := exists_of_mem_left h.oneofs
      (List.mem_eraseDups.mpr (List.mem_filterMap.mpr ⟨f,hf,hg⟩))
    have hvariant : variantIdentifier f ∈ o.variants.map (·.1) := by
      rw [hvariants]
      exact List.mem_map_of_mem (List.mem_filter.mpr ⟨hf,by simp [hg]⟩)
    exact (legal_camel_iff (hnamed f hf).name).mp
      (hall _ (List.mem_flatMap.mpr ⟨o,ho,List.mem_cons_of_mem _ hvariant⟩))
  · intro hall name hmem
    obtain ⟨o,ho,hmem⟩ := List.mem_flatMap.mp hmem
    obtain ⟨g,hg,honame,hvariants⟩ := exists_of_mem_right h.oneofs ho
    rcases List.mem_cons.mp hmem with rfl | hmem
    · obtain ⟨f,hf,hg⟩ := List.mem_filterMap.mp (List.mem_eraseDups.mp hg)
      have hgroup := (hnamed f hf).isName_slot
      rw [f.slot_of_group hg] at hgroup
      rw [honame,hname]
      exact legal_oneof hpath hgroup htype
    · rw [hvariants] at hmem
      obtain ⟨f,hf,rfl⟩ := List.mem_map.mp hmem
      obtain ⟨hf,hsome⟩ := List.mem_filter.mp hf
      exact (legal_camel_iff (hnamed f hf).name).mpr
        (hall f hf fun hnone => by simp [hnone] at hsome)

end Struct

section Files
variable {files : List SchemaFile} (h : Readable files) {file : SchemaFile} (hfile : file ∈ files)
include h hfile

/-- The names that a block declares are legal exactly if its declaration can be named. -/
theorem Readable.legal_block_iff {d : Declaration} (hd : d ∈ file.declarations)
    (hspelled : d.Spelled) {b : Block × Bool} (hb : NamedBlock (TypeIndex.ofFiles files) d b) :
    (∀ name ∈ b.1.declaredNames, Legal name) ↔ d.Nameable file.package := by
  have hown := h.identifierOf_eq hfile hd
  have hpath := hspelled.path
  cases hb with
  | @enum decl b hname hvariants =>
    obtain hname := Except.ok.inj (hname.symm.trans hown)
    rw [Block.declaredNames,Declaration.Nameable,List.forall_mem_cons,hname,hvariants]
    refine and_congr (legal_typeIdentifier_iff hpath) ?_
    rw [List.forall_mem_map]
    exact forall₂_congr fun v hv => legal_camel_iff (hspelled.values decl rfl v hv)
  | @struct m b usesMap hnamed hmaps =>
    obtain hname := Except.ok.inj (hnamed.name.symm.trans hown)
    have hfields := hspelled.named.fields m rfl
    rw [Block.declaredNames,Declaration.Nameable,List.forall_mem_cons,List.forall_mem_append,
      hnamed.legal_fields_iff hfields,hname]
    refine (and_congr_left' (legal_typeIdentifier_iff hpath)).trans (and_congr_right fun htype => ?_)
    rw [hnamed.legal_oneofs_iff hfields hname hpath htype]
    exact ⟨fun hall f hf => ⟨hall.1 f hf,hall.2 f hf⟩,
      fun hall => ⟨fun f hf => (hall f hf).1,fun f hf => (hall f hf).2⟩⟩

variable (hp : (files.map (·.path)).Nodup)
  (hspelled : ∀ g ∈ files, IsPackage g.package ∧ ∀ d ∈ g.declarations, d.Spelled)
include hp hspelled

/-- The paths of the crate that a source uses are legal exactly if what it imports can be named. -/
theorem Readable.legal_uses_iff {plan : EmissionPlan}
    (hplan : plan.imports = file.imports (TypeIndex.ofFiles files)) :
    (∀ path, (∃ ref ∈ plan.imports, ref.rustPath = "crate::" ++ path) → LegalPath path) ↔
      ∀ r ∈ file.references, r.target ∉ file.declaredNames →
        ∀ g ∈ files, ∀ d ∈ g.declarations, d.fullName = r.target →
          NamesType (typeWords d.fullName g.package) ∧ g.ModuleNameable := by
  rw [hplan]
  constructor
  · intro hall r hr hforeign g hg d hd hname
    obtain ⟨hpackage,hdeclared⟩ := hspelled g hg
    have hpath : g.modulePath ++ "::" ++ typeIdentifier d.fullName g.package = "crate::" ++
        (joinStrings "::" g.moduleParts ++ "::" ++ typeIdentifier d.fullName g.package) := by
      rw [g.modulePath_eq,String.append_assoc,String.append_assoc,String.append_assoc]
    refine (SchemaFile.legal_path_iff hpackage (hdeclared d hd).path hpath).mp (hall _ ?_)
    exact ⟨_,(h.mem_imports_iff hfile hp).mpr ⟨r,hr,hforeign,g,hg,d,hd,hname,rfl⟩,hpath⟩
  · rintro hall path ⟨ref,href,hpath⟩
    obtain ⟨r,hr,hforeign,g,hg,d,hd,hname,rfl⟩ := (h.mem_imports_iff hfile hp).mp href
    obtain ⟨hpackage,hdeclared⟩ := hspelled g hg
    exact (SchemaFile.legal_path_iff hpackage (hdeclared d hd).path hpath).mpr
      (hall r hr hforeign g hg d hd hname)

/-- The names of a source are legal exactly if those of the schema can be named. -/
theorem Readable.namesLegal_iff {version source : String} {plan : EmissionPlan}
    {blocks : List (Block × Bool)}
    (ha : Assembled (TypeIndex.ofFiles files) file version source plan blocks) :
    NamesLegal file version plan blocks ↔ file.Nameable files := by
  obtain ⟨-,-,hplan⟩ := h.plan_eq_ok hfile ha.planned
  obtain ⟨ds,-,hall,hblocks⟩ := h.namedBlocks hfile ha
  have huses := h.legal_uses_iff hfile hp hspelled hplan
  have hown {d b} (hd : d ∈ file.declarations) (hb : NamedBlock (TypeIndex.ofFiles files) d b) :=
    h.legal_block_iff hfile hd ((hspelled file hfile).2 d hd) hb
  constructor
  · intro hlegal
    refine ⟨fun d hd => ?_,huses.mp fun path hpath => ?_⟩
    · obtain ⟨b,hb,hnamed⟩ := exists_of_mem_left hblocks ((hall d).mpr hd)
      exact (hown hd hnamed).mp (hlegal.declared b hb)
    · exact hlegal.used path (mem_headingLines_iff.mpr hpath)
  · intro hnameable
    refine ⟨fun b hb => ?_,fun path hpath => ?_⟩
    · obtain ⟨d,hd,hnamed⟩ := exists_of_mem_right hblocks hb
      exact (hown ((hall d).mp hd) hnamed).mpr (hnameable.own d ((hall d).mp hd))
    · exact huses.mpr hnameable.imported path (mem_headingLines_iff.mp hpath)

end Files

/-- The sources that are rendered for accepted files have legal names exactly if the names of their
schema can be named. -/
theorem names_legal_iff {sources : List (String × String)} {files : List SchemaFile}
    (hsources : (sources.map (·.1)).Nodup) (hparse : parseAll sources = .ok files)
    {file : SchemaFile} (hfile : file ∈ files) {version source : String}
    (hrender : render (TypeIndex.ofFiles files) file version = .ok source) :
    ∃ plan blocks, Assembled (TypeIndex.ofFiles files) file version source plan blocks ∧
      (NamesLegal file version plan blocks ↔ file.Nameable files) := by
  have hp : (files.map (·.path)).Nodup := by
    rw [(parseAll_eq_ok hparse).2.1]
    exact hsources
  obtain ⟨plan,blocks,ha⟩ := render_eq_ok_iff.mp hrender
  exact ⟨plan,blocks,ha,(parseAll_readable hparse).namesLegal_iff hfile hp
    (fun g hg => parseAll_spelled hparse hg) ha⟩

/-! ## An enum in a package -/

def shapesSource : String := "package shapes;\nenum Color \x7b RED = 0; \x7d\n"

def typeSource : String := "package type;\nenum Color \x7b RED = 0; \x7d\n"

def shapesPenSource : String :=
  "import \"color.proto\";\nmessage Pen \x7b .shapes.Color type = 1; \x7d\n"

def typePenSource : String :=
  "import \"color.proto\";\nmessage Pen \x7b .type.Color type = 1; \x7d\n"

def penSources (color pen : String) : List (String × String) :=
  [("color.proto",color),("pen.proto",pen)]

def colorFile (package color : String) : SchemaFile :=
  ⟨"color.proto",package,[],[],[⟨"Color",color,[⟨"RED",0,none⟩],none⟩],true⟩

/-- A message that refers to the enum by its full name. -/
def penMessage (color : String) : Message :=
  ⟨"Pen","Pen",[⟨"type",1,.singular,⟨.enum,some color⟩,none,none,none⟩],[],[],none⟩

def penFile (color : String) : SchemaFile :=
  ⟨"pen.proto","",["color.proto"],[penMessage color],[],true⟩

def penFiles (package color : String) : List SchemaFile := [colorFile package color,penFile color]

section Parse
open Grammar

def colorDraft (package text : String) : FileDraft :=
  ⟨"color.proto",package,[],[],[⟨"Color",[⟨"RED",0,2⟩],[],2⟩],lines text.toList⟩

def penDraft (ref text : String) : FileDraft :=
  ⟨"pen.proto","",["color.proto"],[⟨"Pen",[⟨"type",1,ref,.singular,2⟩],[],[],[],2⟩],[],
    lines text.toList⟩

theorem parseAll_shapesSources :
    parseAll (penSources shapesSource shapesPenSource) = .ok (penFiles "shapes" "shapes.Color") := by
  have hcolor : Grammar.read shapesSource.toList = .ok [.package ⟨"shapes",[]⟩,
      .enum ⟨2,"Color",[.value ⟨2,false,⟨"RED","0",[]⟩⟩]⟩] := by
    with_unfolding_all rfl
  have hpen : Grammar.read shapesPenSource.toList = .ok [.imports none "\"color.proto\"",
      .message 2 "Pen" [.field ⟨2,none,⟨true,⟨"shapes",["Color"]⟩⟩,⟨"type","1",[]⟩⟩]] := by
    with_unfolding_all rfl
  have hcolorDraft : draftOf "color.proto" shapesSource.toList =
      .ok (colorDraft "shapes" shapesSource) :=
    draftOf_of_plain (some "shapes") hcolor rfl rfl
  have hpenDraft : draftOf "pen.proto" shapesPenSource.toList =
      .ok (penDraft ".shapes.Color" shapesPenSource) :=
    draftOf_of_plain none hpen rfl rfl
  exact parseAll_eq_ok_iff.mpr ⟨_,.cons hcolorDraft (.cons hpenDraft .nil),rfl,
    buildAll_of_plain rfl rfl rfl⟩

theorem parseAll_typeSources :
    parseAll (penSources typeSource typePenSource) = .ok (penFiles "type" "type.Color") := by
  have hcolor : Grammar.read typeSource.toList = .ok [.package ⟨"type",[]⟩,
      .enum ⟨2,"Color",[.value ⟨2,false,⟨"RED","0",[]⟩⟩]⟩] := by
    with_unfolding_all rfl
  have hpen : Grammar.read typePenSource.toList = .ok [.imports none "\"color.proto\"",
      .message 2 "Pen" [.field ⟨2,none,⟨true,⟨"type",["Color"]⟩⟩,⟨"type","1",[]⟩⟩]] := by
    with_unfolding_all rfl
  have hcolorDraft : draftOf "color.proto" typeSource.toList =
      .ok (colorDraft "type" typeSource) :=
    draftOf_of_plain (some "type") hcolor rfl rfl
  have hpenDraft : draftOf "pen.proto" typePenSource.toList =
      .ok (penDraft ".type.Color" typePenSource) :=
    draftOf_of_plain none hpen rfl rfl
  exact parseAll_eq_ok_iff.mpr ⟨_,.cons hcolorDraft (.cons hpenDraft .nil),rfl,
    buildAll_of_plain rfl rfl rfl⟩

end Parse

section Pen
variable (color : String)

theorem declarations_penFile : (penFile color).declarations = [.message (penMessage color)] := by
  simp [penFile,penMessage,SchemaFile.declarations,Message.declarationsOf,Message.declarations]

theorem declarations_colorFile (package : String) : (colorFile package color).declarations =
    [.enum ⟨"Color",color,[⟨"RED",0,none⟩],none⟩] := by
  simp [colorFile,SchemaFile.declarations,Message.declarationsOf]

/-- Whatever the package of the enum is called, the message is rendered. -/
theorem exists_render_penFile {package color colors pens : String} (hcolor : color ≠ "Pen")
    (hparse : parseAll (penSources colors pens) = .ok (penFiles package color)) :
    ∃ source, render (TypeIndex.ofFiles (penFiles package color)) (penFile color) =
      .ok source := by
  have hp : ((penFiles package color).map (·.path)).Nodup := by
    have hpaths : (penFiles package color).map (·.path) = ["color.proto","pen.proto"] := rfl
    rw [hpaths]
    decide
  have hfile : penFile color ∈ penFiles package color := by simp [penFiles]
  refine ((parseAll_readable hparse).exists_render_iff hp hfile ?_).mpr ?_
  · rintro (⟨decl,hdecl,-⟩ | ⟨a,ha⟩)
    · simp [declarations_penFile] at hdecl
    · obtain ⟨b,⟨m,f,hm,-,hf,-,hb,hdeclared⟩,-⟩ := Relation.TransGen.head'_iff.mp ha
      rw [declarations_penFile,List.mem_singleton] at hm
      cases hm
      have hname : b = color := by
        rw [List.mem_singleton.mp hf] at hb
        exact (by simpa [Field.references,FieldType.isNamed,nonempty?] using hb :
          color = b ∧ b ≠ "").1.symm
      exact hcolor (by simpa [SchemaFile.declaredNames,declarations_penFile,Declaration.fullName,
        penMessage,hname] using hdeclared)
  · rintro ⟨m,hm,f,hf,-,g,hg,decl,hdecl,-,hnone⟩
    rcases List.mem_pair.mp hg with rfl | rfl
    · rw [declarations_colorFile,List.mem_singleton] at hdecl
      cases hdecl
      cases hnone
    · simp [declarations_penFile] at hdecl

end Pen

theorem nameable_penFile_shapes :
    (penFile "shapes.Color").Nameable (penFiles "shapes" "shapes.Color") := by
  refine ⟨fun d hd => ?_,fun r hr hforeign g hg d hd hname => ?_⟩
  · rw [declarations_penFile,List.mem_singleton] at hd
    rw [hd]
    refine ⟨by decide,fun f hf => ?_⟩
    rw [List.mem_singleton.mp hf]
    exact ⟨by decide,fun hgroup => absurd rfl hgroup⟩
  · rcases List.mem_pair.mp hg with rfl | rfl
    · rw [declarations_colorFile,List.mem_singleton] at hd
      rw [hd]
      refine ⟨by decide,?_⟩
      rw [SchemaFile.ModuleNameable,if_neg (by decide)]
      decide
    · exact absurd (hname ▸ List.mem_map_of_mem hd) hforeign

/-- In a package that is not called by a keyword all names are legal; fields are escaped. -/
theorem shapesSources_legal : ((penSources shapesSource shapesPenSource).map (·.1)).Nodup ∧
    parseAll (penSources shapesSource shapesPenSource) = .ok (penFiles "shapes" "shapes.Color") ∧
    ∃ source, render (TypeIndex.ofFiles (penFiles "shapes" "shapes.Color"))
        (penFile "shapes.Color") = .ok source ∧
      ∃ plan blocks, Assembled (TypeIndex.ofFiles (penFiles "shapes" "shapes.Color"))
        (penFile "shapes.Color") version source plan blocks ∧
        NamesLegal (penFile "shapes.Color") version plan blocks := by
  obtain ⟨source,hrender⟩ := exists_render_penFile (by decide) parseAll_shapesSources
  obtain ⟨plan,blocks,ha,hiff⟩ := names_legal_iff (by decide) parseAll_shapesSources
    (by simp [penFiles]) hrender
  exact ⟨by decide,parseAll_shapesSources,source,hrender,plan,blocks,ha,
    hiff.mpr nameable_penFile_shapes⟩

/-- A package that is called by a keyword is used as it is. -/
theorem typeSources_illegal : ((penSources typeSource typePenSource).map (·.1)).Nodup ∧
    parseAll (penSources typeSource typePenSource) = .ok (penFiles "type" "type.Color") ∧
    ∃ source, render (TypeIndex.ofFiles (penFiles "type" "type.Color")) (penFile "type.Color") =
        .ok source ∧
      ∃ plan blocks, Assembled (TypeIndex.ofFiles (penFiles "type" "type.Color"))
        (penFile "type.Color") version source plan blocks ∧
        "use crate::type::Color;" ∈
          headingLines (penFile "type.Color") plan (blocks.any (·.2)) version ∧
        ¬ NamesLegal (penFile "type.Color") version plan blocks := by
  obtain ⟨source,hrender⟩ := exists_render_penFile (by decide) parseAll_typeSources
  obtain ⟨plan,blocks,ha⟩ := render_eq_ok_iff.mp hrender
  have himports : plan.imports = [⟨"color.proto","type.Color","crate::type::Color"⟩] :=
    (SchemaFile.of_plan ha.planned).1.trans (by with_unfolding_all rfl)
  have huse : "use crate::" ++ "type::Color" ++ ";" ∈
      headingLines (penFile "type.Color") plan (blocks.any (·.2)) version :=
    mem_headingLines_iff.mpr ⟨_,himports ▸ List.mem_cons_self,rfl⟩
  refine ⟨by decide,parseAll_typeSources,source,hrender,plan,blocks,ha,huse,fun hlegal => ?_⟩
  have htype := hlegal.used _ huse "type".toList (by decide)
  exact absurd ((legal_iff (by decide)).mp htype).2.2.1 (by decide)

end SchemaCodec
