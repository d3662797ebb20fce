import SchemaCodec.Proofs.Rendering.Faults

/-! # What rendering asks of an index

Of a declared type, rendering needs the identifier, the file's path and module, and the names of an
enum's values. So an index that finds the same under every name that another one knows renders a
file alike, unless the file refers to a type that the other one lacks.
-/
namespace SchemaCodec
open Codec Rendering

section KeepsResult
variable {ε α β : Type}

/-- Whatever one computation results in, the other one results in. -/
def KeepsResult (x y : Except ε α) : Prop := ∀ a, x = .ok a → y = .ok a

theorem KeepsResult.refl (x : Except ε α) : KeepsResult x x := fun _ h => h

theorem KeepsResult.bind {x y : Except ε α} {f g : α → Except ε β} (hx : KeepsResult x y)
    (hf : ∀ a, KeepsResult (f a) (g a)) : KeepsResult (x >>= f) (y >>= g) := by
  intro b h
  obtain ⟨a,ha,hb⟩ := bind_eq_ok.mp h
  exact bind_eq_ok.mpr ⟨a,hx a ha,hf a b hb⟩

/-- The last step may be the same on both sides. -/
theorem KeepsResult.bind_left {x y : Except ε α} (hx : KeepsResult x y) (f : α → Except ε β) :
    KeepsResult (x >>= f) (y >>= f) :=
  hx.bind fun a => .refl (f a)

theorem keepsResult_mapM {f g : α → Except ε β} (h : ∀ a, KeepsResult (f a) (g a)) (l : List α) :
    KeepsResult (l.mapM f) (l.mapM g) := by
  intro r hr
  exact mapM_eq_ok_iff.mpr ((mapM_eq_ok_iff.mp hr).imp fun a b hab => h a b hab)

end KeepsResult

/-- In lists whose members are related, the first members of a kind are related. -/
theorem exists_find?_of_forall₂ {α β : Type} {r : α → β → Prop} {p : α → Bool} {q : β → Bool}
    (hpq : ∀ a b, r a b → p a = q b) {l : List α} {m : List β} (h : List.Forall₂ r l m) {a : α}
    (ha : l.find? p = some a) : ∃ b, m.find? q = some b ∧ r a b := by
  induction h with
  | nil => cases ha
  | @cons c d l m hcd _ ih =>
    rw [List.find?_cons] at ha ⊢
    rw [← hpq c d hcd]
    cases hc : p c with
    | true =>
      simp only [hc,Option.some.injEq] at ha
      exact ⟨d,rfl,ha ▸ hcd⟩
    | false => exact ih (by simpa only [hc] using ha)

/-- The names of an enum's values; a message has none. -/
def Declaration.valueNames? : Declaration → Option (List String)
  | .enum decl => some (decl.values.map (·.name))
  | .message _ => none

/-- Two entries that look alike in generated code. -/
structure TypeEntry.Alike (e e' : TypeEntry) : Prop where
  identifier : e'.identifier = e.identifier
  path : e'.file.path = e.file.path
  modulePath : e'.file.modulePath = e.file.modulePath
  values : e'.declaration.valueNames? = e.declaration.valueNames?

theorem TypeEntry.Alike.refl (e : TypeEntry) : e.Alike e := ⟨rfl,rfl,rfl,rfl⟩

theorem importOf_alike {e e' : TypeEntry} (h : e.Alike e') (name : String) :
    importOf e' name = importOf e name := by
  rw [importOf,importOf,h.path,h.modulePath,h.identifier]

/-- Where the declarations of two lists of files are related, what is found is related. -/
theorem TypeIndex.exists_find?_of_forall₂ {r : TypeEntry → TypeEntry → Prop}
    (hr : ∀ e e', r e e' → e'.fullName = e.fullName) {files files' : List SchemaFile}
    (h : List.Forall₂ r (entriesOf files) (entriesOf files')) {name : String} {e : TypeEntry}
    (he : (ofFiles files).find? name = some e) :
    ∃ e', (ofFiles files').find? name = some e' ∧ r e e' := by
  rw [find?_ofFiles_eq] at he ⊢
  refine SchemaCodec.exists_find?_of_forall₂ (fun a b hab => ?_) (List.forall₂_reverse_iff.mpr h) he
  rw [hr a b hab]

/-- An error that is put down to the schema of one file. -/
def Rendering.OfSchema (e : RenderError) : Prop := ∃ cause, e.unsupported? = some cause

/-- Every name that one index knows is found alike in the other. -/
def TypeIndex.Serves (index index' : TypeIndex) : Prop :=
  ∀ name e, index.find? name = some e → ∃ e', index'.find? name = some e' ∧ e.Alike e'

namespace TypeIndex.Serves
variable {index index' : TypeIndex} (h : index.Serves index')
include h

/-! ## Code of fields -/

theorem identifierOf (name : String) :
    KeepsResult (identifierOf index name) (Codec.identifierOf index' name) := by
  intro identifier hid
  unfold Codec.identifierOf at hid ⊢
  cases he : index.find? name with
  | none => simp [he] at hid
  | some e =>
    obtain ⟨e',he',halike⟩ := h name e he
    simpa [he,he',halike.identifier] using hid

theorem typeUse (name : String) :
    KeepsResult (typeUse index name) (Codec.typeUse index' name) :=
  (h.identifierOf name).bind_left _

/-- The first value of an enum has the same name in both. -/
theorem defaultText_enum (name : String) :
    KeepsResult (defaultText index (.enum name)) (defaultText index' (.enum name)) := by
  intro text htext
  obtain ⟨decl,hdecl,htext⟩ := bind_eq_ok.mp htext
  have henum : ∃ decl', enumDeclaration index' name = .ok decl' ∧
      decl'.values.map (·.name) = decl.values.map (·.name) := by
    unfold enumDeclaration at hdecl ⊢
    cases he : index.find? name with
    | none => simp [he] at hdecl
    | some e =>
      obtain ⟨e',he',halike⟩ := h name e he
      obtain ⟨n,f,d,i⟩ := e
      obtain ⟨n',f',d',i'⟩ := e'
      have hvalues : d'.valueNames? = d.valueNames? := halike.values
      cases d with
      | message m => simp [he] at hdecl
      | enum found =>
        cases d' with
        | message m => simp [Declaration.valueNames?] at hvalues
        | enum found' =>
          have hfound : found = decl := by simpa [he] using hdecl
          subst hfound
          exact ⟨found',by simp [he'],by simpa [Declaration.valueNames?] using hvalues⟩
  obtain ⟨decl',hdecl',hvalues⟩ := henum
  refine bind_eq_ok.mpr ⟨decl',hdecl',?_⟩
  cases hv : decl.values with
  | nil => simp [hv] at htext
  | cons v rest =>
    rw [hv,List.map_cons] at hvalues
    obtain ⟨v',rest',hv',hname,-⟩ := List.map_eq_cons_iff.mp hvalues
    simp only [hv] at htext
    obtain ⟨identifier,hid,htext⟩ := bind_eq_ok.mp htext
    simp only [hv',hname]
    exact bind_eq_ok.mpr ⟨identifier,h.identifierOf name _ hid,htext⟩

theorem defaultText (kind : Kind) :
    KeepsResult (defaultText index kind) (Codec.defaultText index' kind) := by
  cases kind
  case enum name => exact h.defaultText_enum name
  all_goals exact .refl _

theorem groupIdentifier (m : Message) (group : String) :
    KeepsResult (groupIdentifier index m group) (Codec.groupIdentifier index' m group) :=
  (h.identifierOf m.fullName).bind_left _

theorem variantOf (m : Message) (f : Field) (group : String) :
    KeepsResult (variantOf index m f group) (Codec.variantOf index' m f group) :=
  (h.groupIdentifier m group).bind_left _

theorem reader (kind : Kind) (sink : Sink) (depth : ℕ) :
    KeepsResult (reader index kind sink depth) (Codec.reader index' kind sink depth) := by
  induction kind generalizing sink depth with
  | integer _ _ | float _ | bool | string | bytes => exact .refl _
  | enum name => exact (h.typeUse name).bind_left _
  | message name => exact (h.typeUse name).bind_left _
  | repeated element ih =>
    exact (KeepsResult.refl _).bind fun _ => (ih _ _).bind_left _
  | map key value ihk ihv =>
    exact (KeepsResult.refl _).bind fun _ => (KeepsResult.refl _).bind fun _ =>
      (ihk _ _).bind fun _ => (ihv _ _).bind_left _
  | oneof _ _ _ _ => exact .refl _

theorem fieldWriter (m : Message) (f : Field) (kind : Kind) :
    KeepsResult (fieldWriter index m f kind) (Codec.fieldWriter index' m f kind) := by
  cases kind
  case oneof group number inner => exact (h.variantOf m f group).bind_left _
  all_goals exact .refl _

theorem fieldReader (m : Message) (f : Field) (kind : Kind) :
    KeepsResult (fieldReader index m f kind) (Codec.fieldReader index' m f kind) := by
  cases kind
  case oneof group number inner =>
    exact (h.variantOf m f group).bind fun _ => (h.reader inner _ _).bind_left _
  all_goals exact (h.reader _ _ _).bind_left _

theorem bindWriter (m : Message) (f : Field) :
    KeepsResult (bindWriter index m f) (Codec.bindWriter index' m f) :=
  (KeepsResult.refl _).bind fun kind => (h.fieldWriter m f kind).bind_left _

theorem bindReader (m : Message) (f : Field) :
    KeepsResult (bindReader index m f) (Codec.bindReader index' m f) :=
  (KeepsResult.refl _).bind fun kind => (h.fieldReader m f kind).bind fun _ =>
    (h.defaultText kind).bind_left _

/-! ## Blocks -/

theorem typeText (kind : Kind) :
    KeepsResult (typeText index kind) (Rendering.typeText index' kind) := by
  induction kind with
  | integer _ _ | float _ | bool | string | bytes => exact .refl _
  | enum name => exact h.identifierOf name
  | message name => exact h.identifierOf name
  | repeated element ih => exact ih.bind_left _
  | map key value ihk ihv => exact ihk.bind fun _ => ihv.bind_left _
  | oneof _ _ inner ih => exact ih.bind_left _

theorem fieldTypeText (kind : Kind) :
    KeepsResult (fieldTypeText index kind) (Rendering.fieldTypeText index' kind) :=
  (h.typeText kind).bind_left _

theorem structFields (m : Message) (groups : List String)
    (bound : List (Field × Binding Decoding)) :
    KeepsResult (structFields index m groups bound)
      (Rendering.structFields index' m groups bound) := by
  induction bound generalizing groups with
  | nil => exact .refl _
  | cons fb rest ih =>
    obtain ⟨f,b⟩ := fb
    rw [Rendering.structFields,Rendering.structFields]
    cases b.group? with
    | none => exact (h.fieldTypeText b.kind).bind fun _ => (ih groups).bind_left _
    | some g =>
      by_cases hg : g ∈ groups
      · simpa only [if_pos hg] using ih groups
      · simpa only [if_neg hg] using
          (h.groupIdentifier m g).bind fun _ => (ih (g :: groups)).bind_left _

theorem oneofBlock (m : Message) (bound : List (Field × Binding Decoding)) (group : String) :
    KeepsResult (oneofBlock index m bound group) (Rendering.oneofBlock index' m bound group) :=
  (h.groupIdentifier m group).bind fun _ =>
    (keepsResult_mapM (fun (_,b) => (h.typeText b.kind).bind_left _) _).bind_left _

theorem structBlock (m : Message) (encode : List (Binding FieldWriter))
    (decode : List (Binding Decoding)) : KeepsResult (structBlock index m encode decode)
      (Rendering.structBlock index' m encode decode) :=
  (h.structFields m _ _).bind fun _ => (keepsResult_mapM (h.oneofBlock m _) _).bind fun _ =>
    (h.identifierOf m.fullName).bind_left _

/-- Every block is made alike. -/
theorem blockOf (d : Declaration) :
    KeepsResult (blockOf index d) (Rendering.blockOf index' d) := by
  cases d with
  | enum decl => exact ((h.identifierOf decl.fullName).bind_left _).bind_left _
  | message m =>
    exact (keepsResult_mapM (h.bindWriter m) _).bind fun _ =>
      (keepsResult_mapM (h.bindReader m) _).bind fun _ => (h.structBlock m _ _).bind_left _

/-! ## Plans -/

theorem contains {name : String} (hname : index.contains name = true) :
    index'.contains name = true := by
  obtain ⟨e,he⟩ := Option.isSome_iff_exists.mp hname
  obtain ⟨e',he',-⟩ := h name e he
  rw [TypeIndex.contains,he']
  rfl

theorem isForeign {name : String} (hname : index.contains name = true) (path : String) :
    index'.isForeign path name = index.isForeign path name := by
  obtain ⟨e,he⟩ := Option.isSome_iff_exists.mp hname
  obtain ⟨e',he',halike⟩ := h name e he
  simp [TypeIndex.isForeign,he,he',halike.path]

section Known
variable {file : SchemaFile} (hknown : ∀ r ∈ file.references, index.contains r.target = true)
include hknown

theorem imports : file.imports index' = file.imports index := by
  have hforeign : (file.references.map (·.target)).filter (index'.isForeign file.path) =
      (file.references.map (·.target)).filter (index.isForeign file.path) := by
    refine List.filter_congr fun name hname => ?_
    obtain ⟨r,hr,rfl⟩ := List.mem_map.mp hname
    exact h.isForeign (hknown r hr) file.path
  rw [SchemaFile.imports,SchemaFile.imports,hforeign]
  congr 1
  refine List.filterMap_congr fun name hname => ?_
  obtain ⟨r,hr,rfl⟩ := List.mem_map.mp (List.mem_filter.mp (List.mem_eraseDups.mp hname)).1
  obtain ⟨e,he⟩ := Option.isSome_iff_exists.mp (hknown r hr)
  obtain ⟨e',he',halike⟩ := h _ e he
  simp [he,he',importOf_alike halike]

theorem inlineGraph : file.inlineGraph index' = file.inlineGraph index := by
  refine List.map_congr_left fun name _ => ?_
  have hinline : (file.references.filter fun r => r.owner == name && r.field.isInline &&
        !index'.isForeign file.path r.target) =
      file.references.filter fun r => r.owner == name && r.field.isInline &&
        !index.isForeign file.path r.target := by
    refine List.filter_congr fun r hr => ?_
    rw [h.isForeign (hknown r hr)]
  simp only [hinline]

/-- A file whose references are known is planned alike. -/
theorem plan : file.plan index' = file.plan index := by
  have hknown' : ∀ r ∈ file.references, index'.contains r.target = true :=
    fun r hr => h.contains (hknown r hr)
  rw [SchemaFile.plan,SchemaFile.plan,SchemaFile.unresolved?_eq_none hknown,
    SchemaFile.unresolved?_eq_none hknown',h.inlineGraph hknown,h.imports hknown]

end Known

/-! ## Sources -/

/-- Where declarations are found alike too, a source is put together alike. -/
theorem assembled {file : SchemaFile} {version source : String} {plan : EmissionPlan}
    {blocks : List (Block × Bool)}
    (hd : ∀ name, KeepsResult (plannedDeclaration index name) (plannedDeclaration index' name))
    (ha : Assembled index file version source plan blocks) :
    Assembled index' file version source plan blocks := by
  refine ⟨ha.layout,?_,ha.built.imp ?_,ha.text⟩
  · rw [h.plan (SchemaFile.known_of_plan ha.planned)]
    exact ha.planned
  · rintro name b ⟨d,hname,hb⟩
    exact ⟨d,hd name d hname,h.blockOf d b hb⟩

/-- A source is rendered alike, and so is an error that is put down to the schema. -/
theorem render {file : SchemaFile} {version : String}
    (hd : ∀ name, KeepsResult (plannedDeclaration index name) (plannedDeclaration index' name))
    (hout : FailsWith OfSchema (render index file version)) :
    Rendering.render index' file version = Rendering.render index file version := by
  cases hr : Rendering.render index file version with
  | ok source =>
    obtain ⟨plan,blocks,ha⟩ := render_eq_ok_iff.mp hr
    exact render_eq_ok_iff.mpr ⟨plan,blocks,h.assembled hd ha⟩
  | error e =>
    obtain ⟨fault,hfault⟩ : OfSchema e := hout e hr
    cases hlayout : layoutFault? file with
    | some _ =>
      unfold Rendering.render at hr ⊢
      simpa only [hlayout] using hr
    | none =>
      cases hplan : file.plan index with
      | ok plan =>
        rw [unsupported?_of_render hlayout hplan hr] at hfault
        cases hfault
      | error cause =>
        have he : RenderError.plan cause = e := by
          unfold Rendering.render at hr
          simpa only [hlayout,hplan,Except.error.injEq] using hr
        have hknown : ∀ r ∈ file.references, index.contains r.target = true := by
          intro r hr
          unfold SchemaFile.plan at hplan
          cases hmissing : file.unresolved? index with
          | none => simpa using List.find?_eq_none.mp hmissing r hr
          | some missing =>
            simp only [hmissing,Except.error.injEq] at hplan
            rw [← he,← hplan] at hfault
            cases hfault
        unfold Rendering.render
        simp only [hlayout,h.plan hknown,hplan,he]

end TypeIndex.Serves
end SchemaCodec
