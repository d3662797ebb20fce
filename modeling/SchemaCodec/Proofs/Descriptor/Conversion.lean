import Mathlib
import SchemaCodec.Descriptor.Convert
import SchemaCodec.Proofs.Distinct
import SchemaCodec.Proofs.Outcome
import SchemaCodec.Proofs.Schema.Resolution

/-! # Converting descriptors undoes lowering

How a schema file is lowered to a descriptor is a relation between the two: names, numbers, order and
nesting are the same, references are written with a dot in front, a map is a repeated field of an
entry message that stands somewhere among the nested messages, and a comment belongs to the
declaration at its path. A descriptor that is related to a schema file is converted to it.
-/
namespace SchemaCodec.Descriptor
open Text

/-! ## Lowering -/

/-- A name that can follow the dot of a reference. -/
def Dotless (name : String) : Prop := ∀ c ∈ name.toList.head?, c ≠ '.'

/-- Members that correspond in order, each in a way that may depend on its position. -/
def Listed {α β : Type} (r : ℕ → α → β → Prop) (l : List α) (m : List β) : Prop :=
  List.Forall₂ (fun p b => r p.2 p.1 b) l.zipIdx m

/-- The comment of a location: the leading text without blanks around it, or the trailing text if
nothing is left of the leading one. -/
inductive Location.Says (l : Location) : List Char → Prop
  | leading (h : trim l.leading.toList ≠ []) : Says l (trim l.leading.toList)
  | trailing (h : trim l.leading.toList = []) (h' : trim l.trailing.toList ≠ []) :
      Says l (trim l.trailing.toList)

/-- The comment at a path: what the last location of the path that says something says. -/
inductive Commented (locations : List Location) (path : List Int) : Option String → Prop
  | none (h : ∀ l ∈ locations, l.path = path → ∀ text, ¬ l.Says text) :
      Commented locations path none
  | some {before after : List Location} {l : Location} {text : List Char}
      (hl : locations = before ++ l :: after) (hpath : l.path = path) (hsaid : l.Says text)
      (hlast : ∀ l ∈ after, l.path = path → ∀ text, ¬ l.Says text) :
      Commented locations path (some (String.ofList text))

/-- The type of a field; the name of a declared type is written with a dot in front. -/
inductive Field.HasType (f : Field) : ValueType → Prop
  | scalar {t : ScalarType} (hsort : f.sort = .scalar t) (hname : f.typeName = "") :
      HasType f ⟨.scalar t,none⟩
  | enum {name : String} (hsort : f.sort = .enum) (hdot : Dotless name)
      (hname : f.typeName = "." ++ name) : HasType f ⟨.enum,some name⟩
  | message {name : String} (hsort : f.sort = .message) (hdot : Dotless name)
      (hname : f.typeName = "." ++ name) : HasType f ⟨.message,some name⟩

/-- A message nested in `m` that stands for the entries of a map. -/
def Message.HasEntry (m e : Message) : Prop := e ∈ m.messages ∧ e.isMapEntry = true

/-- A field that belongs to no oneof but one made up for it. -/
def Field.StandsAlone (f : Field) : Prop := f.oneofIndex = none ∨ f.proto3Optional = true

/-- How a field of a message with this full name holds its values. -/
inductive Field.Holds (fullName : String) (m : Message) (f : Field) : SchemaCodec.Field → Prop
  | singular {g : SchemaCodec.Field} (hshape : g.cardinality = .singular ∧ g.key = none ∧
      g.oneof = none) (hlabel : f.label ≠ .repeated) (halone : f.StandsAlone)
      (htype : f.HasType g.value) : Holds fullName m f g
  | repeated {g : SchemaCodec.Field} (hshape : g.cardinality = .repeated ∧ g.key = none ∧
      g.oneof = none) (hlabel : f.label = .repeated) (halone : f.StandsAlone)
      (htype : f.HasType g.value)
      (hentry : ∀ e, m.HasEntry e → f.typeName ≠ "." ++ qualify fullName e.name) :
      Holds fullName m f g
  | map {g : SchemaCodec.Field} {key : ValueType} {e : Message} {k v : Field}
      (hshape : g.cardinality = .map ∧ g.key = some key ∧ g.oneof = none)
      (hlabel : f.label = .repeated) (hsort : f.sort = .message) (hentry : m.HasEntry e)
      (hname : f.typeName = "." ++ qualify fullName e.name) (hfields : e.fields = [k,v] ∨ e.fields = [v,k])
      (hk : k.number = 1) (hv : v.number = 2) (hkey : k.HasType key) (hvalue : v.HasType g.value) :
      Holds fullName m f g
  | member {g : SchemaCodec.Field} {group : String} {i : ℕ}
      (hshape : g.cardinality = .oneof ∧ g.key = none ∧ g.oneof = some group)
      (hlabel : f.label = .optional) (hindex : f.oneofIndex = some (Int.ofNat i))
      (hgroup : m.oneofs[i]? = some group) (hreal : f.proto3Optional = false)
      (htype : f.HasType g.value) : Holds fullName m f g

section Lowered
variable (locations : List Location)

structure Field.Lowered (fullName : String) (m : Message) (path : List Int) (f : Field)
    (g : SchemaCodec.Field) : Prop where
  name : g.name = f.name
  number : g.number = f.number
  holds : f.Holds fullName m g
  comment : Commented locations path g.comment

structure Value.Lowered (path : List Int) (v : Value) (w : EnumValue) : Prop where
  name : w.name = v.name
  number : w.number = v.number
  comment : Commented locations path w.comment

/-- An enum of a scope, at a path. The values of an enum are its part 2. -/
structure Enum.Lowered (scope : String) (path : List Int) (e : Enum) (d : EnumDecl) : Prop where
  name : d.name = e.name
  fullName : d.fullName = qualify scope e.name
  values : Listed (fun i => Value.Lowered locations (path ++ [2,Int.ofNat i])) e.values d.values
  comment : Commented locations path d.comment

/-- A message of a scope, at a path, but for the messages nested in it. The fields of a message are
its part 2 and its enums are part 4. -/
structure Message.LoweredParts (scope : String) (path : List Int) (m : Message)
    (d : SchemaCodec.Message) : Prop where
  name : d.name = m.name
  fullName : d.fullName = qualify scope m.name
  dotless : Dotless m.name
  fields : Listed (fun i => Field.Lowered locations d.fullName m (path ++ [2,Int.ofNat i]))
    m.fields d.fields
  enums : Listed (fun i => Enum.Lowered locations d.fullName (path ++ [4,Int.ofNat i]))
    m.enums d.enums
  entries : ((m.messages.filter (·.isMapEntry)).map (·.name)).Nodup
  entryNames : ∀ e, m.HasEntry e → e.name ≠ "" ∧ Dotless e.name
  comment : Commented locations path d.comment

mutual

/-- A message of a scope, at a path. -/
inductive Message.Lowered : String → List Int → Message → SchemaCodec.Message → Prop
  | intro {scope : String} {path : List Int} {m : Message} {d : SchemaCodec.Message}
      (parts : m.LoweredParts locations scope path d)
      (nested : Message.LoweredNested d.fullName path 0 m.messages d.messages) :
      Message.Lowered scope path m d

/-- The messages nested in one at a path, whose part 3 they are. Entry messages count as well but
come from no message. -/
inductive Message.LoweredNested : String → List Int → ℕ → List Message →
    List SchemaCodec.Message → Prop
  | nil {scope : String} {path : List Int} {i : ℕ} : Message.LoweredNested scope path i [] []
  | entry {scope : String} {path : List Int} {i : ℕ} {m : Message} {rest : List Message}
      {ds : List SchemaCodec.Message} (hentry : m.isMapEntry = true)
      (hrest : Message.LoweredNested scope path (i + 1) rest ds) :
      Message.LoweredNested scope path i (m :: rest) ds
  | cons {scope : String} {path : List Int} {i : ℕ} {m : Message} {rest : List Message}
      {d : SchemaCodec.Message} {ds : List SchemaCodec.Message} (hentry : m.isMapEntry = false)
      (hm : Message.Lowered scope (path ++ [3,Int.ofNat i]) m d)
      (hrest : Message.LoweredNested scope path (i + 1) rest ds) :
      Message.LoweredNested scope path i (m :: rest) (d :: ds)

end

end Lowered

/-- A schema file and its descriptor. The messages of a file are its part 4 and its enums part 5. -/
structure File.Lowered (f : File) (s : SchemaFile) : Prop where
  path : s.path = f.name
  package : s.package = f.package
  dotless : Dotless f.package
  dependencies : s.dependencies = f.dependencies
  messages : Listed (fun i => Message.Lowered f.locations f.package [4,Int.ofNat i])
    f.messages s.messages
  enums : Listed (fun i => Enum.Lowered f.locations f.package [5,Int.ofNat i]) f.enums s.enums

/-! ## Lists -/

section Listed
variable {α β : Type} {r : ℕ → α → β → Prop} {l : List α} {m : List β}

theorem listed_mapM {γ ε : Type} {f : ℕ → α → γ} {g : γ → Except ε β}
    (h : Listed (fun i a b => g (f i a) = .ok b) l m) : (l.mapIdx f).mapM g = .ok m := by
  rw [mapM_eq_ok_iff,List.mapIdx_eq_zipIdx_map]
  exact List.forall₂_map_left_iff.mpr h

theorem mapIdx_of_listed {f : ℕ → α → β} (h : Listed r l m)
    (hf : ∀ i a b, r i a b → f i a = b) : l.mapIdx f = m := by
  rw [List.mapIdx_eq_zipIdx_map]
  have hmap : List.Forall₂ (fun p b => b = f p.2 p.1) l.zipIdx m :=
    h.imp fun p b hr => (hf p.2 p.1 b hr).symm
  have he := map_eq_map (f := fun p : α × ℕ => f p.2 p.1) (g := id) hmap
  rw [← he,List.map_id]

end Listed

/-! ## References -/

theorem referredName_dot {name : String} (h : Dotless name) :
    referredName ("." ++ name) = name := by
  have hdrop : name.toList.dropWhile (· == '.') = name.toList := by
    cases he : name.toList with
    | nil => rfl
    | cons c rest =>
      have hc : c ≠ '.' := h c (by rw [he]; rfl)
      rw [List.dropWhile_cons_of_neg (by simpa using hc)]
  rw [referredName,String.toList_append]
  change String.ofList (name.toList.dropWhile _) = _
  rw [hdrop,String.ofList_toList]

theorem dotless_qualify {scope name : String} (hscope : Dotless scope) (hname : Dotless name) :
    Dotless (qualify scope name) := by
  unfold qualify
  split
  · exact hname
  · next hne =>
    have hnil : scope.toList ≠ [] := fun he => hne (String.toList_eq_nil_iff.mp he)
    intro c hc
    rw [String.toList_append,String.toList_append,List.append_assoc,
      List.head?_append_of_ne_nil _ hnil] at hc
    exact hscope c hc

theorem Field.valueType_of_hasType {f : Field} {v : ValueType} (h : f.HasType v) (path : String) :
    f.valueType path = .ok v := by
  cases h with
  | scalar hsort => rw [valueType,hsort]
  | enum hsort hdot hname =>
    rw [valueType,hsort,hname]
    simp only [referredName_dot hdot]
  | message hsort hdot hname =>
    rw [valueType,hsort,hname]
    simp only [referredName_dot hdot]

/-! ## Comments -/

theorem Location.comment?_of_says {l : Location} {text : List Char} (h : l.Says text) :
    l.comment? = some (String.ofList text) := by
  cases h with
  | leading h => simp [comment?,h]
  | trailing h h' => simp [comment?,h,h']

theorem Location.comment?_of_not_says {l : Location} (h : ∀ text, ¬ l.Says text) :
    l.comment? = none := by
  have hleading : trim l.leading.toList = [] := by
    by_contra hne
    exact h _ (.leading hne)
  have htrailing : trim l.trailing.toList = [] := by
    by_contra hne
    exact h _ (.trailing hleading hne)
  simp [comment?,hleading,htrailing]

theorem commentAt_append (before after : List Location) (path : List Int) :
    commentAt (before ++ after) path =
      (commentAt after path).or (commentAt before path) := by
  rw [commentAt,List.filter_append,List.reverse_append,List.findSome?_append]
  rfl

theorem commentAt_eq_none {locations : List Location} {path : List Int}
    (h : ∀ l ∈ locations, l.path = path → ∀ text, ¬ l.Says text) :
    commentAt locations path = none := by
  rw [commentAt,List.findSome?_eq_none_iff]
  intro l hl
  obtain ⟨hl,hpath⟩ := List.mem_filter.mp (List.mem_reverse.mp hl)
  exact Location.comment?_of_not_says (h l hl (by simpa using hpath))

/-- A location behind the others changes nothing if it says nothing about the path. -/
theorem commented_append {locations : List Location} {path : List Int} {c : Option String}
    (h : Commented locations path c) {l : Location} (hl : l.path = path → ∀ text, ¬ l.Says text) :
    Commented (locations ++ [l]) path c := by
  cases h with
  | none h =>
    refine .none fun k hk => ?_
    rcases List.mem_append.mp hk with hk | hk
    · exact h k hk
    · exact List.mem_singleton.mp hk ▸ hl
  | @some before after k text he hpath hsaid hlast =>
    have hmore : locations ++ [l] = before ++ k :: (after ++ [l]) := by
      rw [he,List.append_assoc,List.cons_append]
    refine .some hmore hpath hsaid ?_
    intro k hk
    rcases List.mem_append.mp hk with hk | hk
    · exact hlast k hk
    · exact List.mem_singleton.mp hk ▸ hl

theorem exists_commented (locations : List Location) (path : List Int) :
    ∃ c, Commented locations path c := by
  induction locations using List.reverseRecOn with
  | nil => exact ⟨none,.none (by simp)⟩
  | append_singleton locations l ih =>
    by_cases hl : l.path = path ∧ ∃ text, l.Says text
    · obtain ⟨hpath,text,hsaid⟩ := hl
      exact ⟨_,.some rfl hpath hsaid (by simp)⟩
    · obtain ⟨c,hc⟩ := ih
      exact ⟨c,commented_append hc fun hpath text hsaid => hl ⟨hpath,text,hsaid⟩⟩

theorem commentAt_of_commented {locations : List Location} {path : List Int} {c : Option String}
    (h : Commented locations path c) : commentAt locations path = c := by
  cases h with
  | none h => exact commentAt_eq_none h
  | @some before after l text hl hpath hsaid hlast =>
    have hone : commentAt [l] path = some (String.ofList text) := by
      simp [commentAt,hpath,Location.comment?_of_says hsaid]
    rw [hl,List.append_cons,commentAt_append,commentAt_append,commentAt_eq_none hlast,hone]
    rfl

theorem commentAt_eq_iff {locations : List Location} {path : List Int} {c : Option String} :
    commentAt locations path = c ↔ Commented locations path c := by
  refine ⟨fun h => ?_,commentAt_of_commented⟩
  obtain ⟨c',hc⟩ := exists_commented locations path
  rw [← h,commentAt_of_commented hc]
  exact hc

/-! ## Maps -/

section Entries
variable {fullName : String} {m e : Message}

theorem Message.mem_entries {p : String × Message} :
    p ∈ Message.entries fullName m.messages ↔ ∃ e, m.HasEntry e ∧
      p = (qualify fullName e.name,e) := by
  simp only [Message.entries,List.mem_map,List.mem_filter,HasEntry,eq_comm]

/-- An entry message is found by its name. -/
theorem Message.lookup_entries
    (hn : ((m.messages.filter (·.isMapEntry)).map (·.name)).Nodup) (he : m.HasEntry e) :
    (Message.entries fullName m.messages).reverse.lookup (qualify fullName e.name) = some e := by
  have hkeys : (Message.entries fullName m.messages).map (·.1) =
      ((m.messages.filter (·.isMapEntry)).map (·.name)).map (qualify fullName) := by
    simp [Message.entries]
  have hnodup : ((Message.entries fullName m.messages).reverse.map (·.1)).Nodup := by
    rw [List.map_reverse,List.nodup_reverse,hkeys]
    exact hn.map (qualify_injective fullName)
  exact lookup_of_mem hnodup (List.mem_reverse.mpr (Message.mem_entries.mpr ⟨e,he,rfl⟩))

theorem Message.lookup_entries_eq_none {name : String}
    (h : ∀ e, m.HasEntry e → name ≠ qualify fullName e.name) :
    (Message.entries fullName m.messages).reverse.lookup name = none := by
  rw [List.lookup_eq_none_iff]
  rintro p hp
  obtain ⟨e,he,rfl⟩ := Message.mem_entries.mp (List.mem_reverse.mp hp)
  simpa using h e he

/-- The key and the value of an entry are found by their numbers, whichever comes first. -/
theorem Message.entryField_of_fields {k v : Field} (h : e.fields = [k,v] ∨ e.fields = [v,k])
    (hk : k.number = 1) (hv : v.number = 2) :
    e.entryField 1 = .ok k ∧ e.entryField 2 = .ok v := by
  rcases h with he | he <;> simp [entryField,he,hk,hv]

end Entries

/-! ## Conversion -/

section Shape
variable {fullName : String} {m : Message} {f : Field}

/-- A repeated field that is no map refers to no entry message. -/
theorem Field.not_refers_entry {v : ValueType} (htype : f.HasType v)
    (hentry : ∀ e, m.HasEntry e → f.typeName ≠ "." ++ qualify fullName e.name)
    (hnames : ∀ e, m.HasEntry e → e.name ≠ "" ∧ Dotless e.name) {e : Message}
    (he : m.HasEntry e) : referredName f.typeName ≠ qualify fullName e.name := by
  have hdeclared {name : String} (hdot : Dotless name) (hname : f.typeName = "." ++ name) :
      referredName f.typeName ≠ qualify fullName e.name := by
    rw [hname,referredName_dot hdot]
    rintro rfl
    exact hentry e he hname
  cases htype with
  | scalar _ hname =>
    rw [hname]
    exact (qualify_ne_empty fullName (hnames e he).1).symm
  | enum _ hdot hname => exact hdeclared hdot hname
  | message _ hdot hname => exact hdeclared hdot hname

theorem Field.shape_alone (halone : f.StandsAlone) (entries : List (String × Message))
    (hentry : f.label = .repeated → entries.reverse.lookup (referredName f.typeName) = none) :
    f.shape entries = if f.label = .repeated then .repeated else .singular := by
  have hnone : (if f.label = .repeated then entries.reverse.lookup (referredName f.typeName)
      else none) = none := by
    split
    · next h => exact hentry h
    · rfl
  rcases halone with h | h
  · simp only [shape,hnone,h]
  · cases hindex : f.oneofIndex <;> simp [shape,hnone,hindex,h]

end Shape

namespace Context
variable {ctx : Context} {scope : String} {path : List Int}

/-- A field is converted to the one it was lowered from. -/
theorem field_of_lowered {d : SchemaCodec.Message} {m : Message}
    (hparts : m.LoweredParts ctx.locations scope path d) (hname : Dotless d.fullName)
    {at_ : List Int} {f : Field} {g : SchemaCodec.Field}
    (h : f.Lowered ctx.locations d.fullName m at_ g) :
    ctx.field m.oneofs (Message.entries d.fullName m.messages) at_ f = .ok g := by
  obtain ⟨gname,gnumber,cardinality,value,key,group,comment⟩ := g
  obtain ⟨rfl,rfl,hholds,hcomment⟩ := h
  have hc : ctx.comment at_ = comment := commentAt_of_commented hcomment
  cases hholds with
  | singular hshape hlabel halone htype =>
    obtain ⟨rfl,rfl,rfl⟩ := hshape
    have hs := Field.shape_alone halone (Message.entries d.fullName m.messages)
      fun h => absurd h hlabel
    rw [if_neg hlabel] at hs
    simp only [field,hs,hc,Field.valueType_of_hasType htype,bind,Except.bind]
  | repeated hshape hlabel halone htype hentry =>
    obtain ⟨rfl,rfl,rfl⟩ := hshape
    have hs := Field.shape_alone halone _ fun _ => Message.lookup_entries_eq_none fun e he =>
      Field.not_refers_entry htype hentry hparts.entryNames he
    rw [if_pos hlabel] at hs
    simp only [field,hs,hc,Field.valueType_of_hasType htype,bind,Except.bind]
  | @map key e k v hshape hlabel hsort hentry htypeName hfields hk hv hkey hvalue =>
    obtain ⟨rfl,rfl,rfl⟩ := hshape
    obtain ⟨hfirst,hsecond⟩ := Message.entryField_of_fields hfields hk hv
    have hrefers : referredName f.typeName = qualify d.fullName e.name := by
      rw [htypeName,referredName_dot (dotless_qualify hname (hparts.entryNames e hentry).2)]
    have hs : f.shape (Message.entries d.fullName m.messages) = .map e := by
      simp only [Field.shape,if_pos hlabel,hrefers,Message.lookup_entries hparts.entries hentry]
    simp only [field,hs,hc,hfirst,hsecond,Field.valueType_of_hasType hkey,
      Field.valueType_of_hasType hvalue,bind,Except.bind]
  | @member group i hshape hlabel hindex hgroup hreal htype =>
    obtain ⟨rfl,rfl,rfl⟩ := hshape
    have hs : f.shape (Message.entries d.fullName m.messages) = .member (Int.ofNat i) := by
      simp [Field.shape,hlabel,hindex,hreal]
    have hg : atIndex? m.oneofs (Int.ofNat i) = some group := by
      simp [atIndex?,hgroup]
    simp only [field,hs,hc,hg,Field.valueType_of_hasType htype,bind,Except.bind]

theorem enum_of_lowered {e : Enum} {d : EnumDecl} (h : e.Lowered ctx.locations scope path d) :
    ctx.enum scope path e = d := by
  obtain ⟨name,fullName,values,comment⟩ := d
  obtain ⟨rfl,rfl,hvalues,hcomment⟩ := h
  have hc : ctx.comment path = comment := commentAt_of_commented hcomment
  have hvalues := mapIdx_of_listed (f := fun i v => ⟨v.name,v.number,
      ctx.comment (step path .value i)⟩) hvalues fun i v w h => by
    obtain ⟨name,number,comment⟩ := w
    obtain ⟨rfl,rfl,hcomment⟩ := h
    exact congrArg _ (commentAt_of_commented hcomment)
  rw [enum,hvalues,hc]

theorem enums_of_lowered (part : Part) {es : List Enum} {ds : List EnumDecl}
    (h : Listed (fun i => Enum.Lowered ctx.locations scope (step path part i)) es ds) :
    ctx.enums scope path part es = ds :=
  mapIdx_of_listed h fun _ _ _ => enum_of_lowered

theorem message_of_parts {m : Message} {d : SchemaCodec.Message}
    (hparts : m.LoweredParts ctx.locations scope path d) (hscope : Dotless scope)
    (hnested : ctx.messages d.fullName path .nestedMessage 0 m.messages = .ok d.messages) :
    ctx.message scope path m = .ok d := by
  have hname : Dotless d.fullName := by
    rw [hparts.fullName]
    exact dotless_qualify hscope hparts.dotless
  have hfields : ctx.fields m.oneofs (Message.entries d.fullName m.messages) path m.fields =
      .ok d.fields :=
    listed_mapM (List.Forall₂.imp (fun _ _ => field_of_lowered hparts hname) hparts.fields)
  have henums := enums_of_lowered .nestedEnum hparts.enums
  have hcomment : ctx.comment path = d.comment := commentAt_of_commented hparts.comment
  have hn := hparts.name
  have hfull := hparts.fullName
  obtain ⟨name,fields,nested,enums,oneofs,isMapEntry⟩ := m
  obtain ⟨dname,fullName,dfields,messages,denums,comment⟩ := d
  simp only at hn hfull hfields hnested henums hcomment
  subst hn hfull
  simp only [message,hfields,hnested,henums,hcomment,bind,Except.bind]

mutual

/-- A message is converted to the one it was lowered from, whatever is nested in it. -/
theorem message_of_lowered : ∀ {scope : String} {path : List Int} {m : Message}
    {d : SchemaCodec.Message}, m.Lowered ctx.locations scope path d → Dotless scope →
    ctx.message scope path m = .ok d
  | _,_,_,_,.intro parts nested,hscope => by
    refine message_of_parts parts hscope (messages_of_lowered nested ?_)
    rw [parts.fullName]
    exact dotless_qualify hscope parts.dotless

theorem messages_of_lowered : ∀ {scope : String} {path : List Int} {i : ℕ} {ms : List Message}
    {ds : List SchemaCodec.Message}, Message.LoweredNested ctx.locations scope path i ms ds →
    Dotless scope → ctx.messages scope path .nestedMessage i ms = .ok ds
  | _,_,_,_,_,.nil,_ => by rw [messages]
  | _,_,_,_,_,.entry hentry hrest,hscope => by
    rw [messages,if_pos ⟨rfl,hentry⟩]
    exact messages_of_lowered hrest hscope
  | _,_,_,_,_,.cons hentry hm hrest,hscope => by
    have hone := message_of_lowered hm hscope
    have hmore := messages_of_lowered hrest hscope
    rw [messages,hentry,if_neg (by simp)]
    change (ctx.message _ (_ ++ [3,Int.ofNat _]) _ >>= _) = _
    simp only [hone,hmore,bind,Except.bind]

end

/-- The messages of a file are converted to those they were lowered from. -/
theorem messages_of_listed {i : ℕ} {ms : List Message} {ds : List SchemaCodec.Message}
    (h : List.Forall₂ (fun p d => Message.Lowered ctx.locations scope [4,Int.ofNat p.2] p.1 d)
      (ms.zipIdx i) ds) (hscope : Dotless scope) :
    ctx.messages scope [] .fileMessage i ms = .ok ds := by
  induction ms generalizing i ds with
  | nil =>
    cases h
    rw [messages]
  | cons m rest ih =>
    rw [List.zipIdx_cons] at h
    cases h with
    | cons hm hrest =>
      have hone := message_of_lowered hm hscope
      have hmore := ih hrest
      rw [messages,if_neg (by simp)]
      change (ctx.message _ [4,Int.ofNat _] _ >>= _) = _
      simp only [hone,hmore,bind,Except.bind]

end Context

/-- A descriptor is converted to the schema file that it was lowered from. -/
theorem File.toSchema_of_lowered {f : File} {s : SchemaFile} (h : f.Lowered s) :
    f.toSchema s.generate = .ok s := by
  let ctx : Context := ⟨f.name,f.locations⟩
  have hmessages : ctx.messages f.package [] .fileMessage 0 f.messages = .ok s.messages :=
    Context.messages_of_listed h.messages h.dotless
  have henums : ctx.enums f.package [] .fileEnum f.enums = s.enums :=
    Context.enums_of_lowered _ h.enums
  obtain ⟨path,package,dependencies,messages,enums,generate⟩ := s
  obtain ⟨rfl,rfl,-,rfl,-,-⟩ := h
  rw [toSchema]
  simp only [hmessages,henums,bind,Except.bind,ctx]

/-! ## An order and its descriptor -/

/-- A package with an entry message in front of a nested message, a oneof beside one made up for an
optional field, and comments at several depths. -/
def orderDescriptor : File :=
  ⟨"order.proto","demo",["base.proto"],
    [⟨"Order",
      [{ name := "counts", number := 1, label := .repeated, sort := .message,
          typeName := ".demo.Order.CountsEntry" },
        { name := "items", number := 2, label := .repeated, sort := .message,
          typeName := ".demo.Order.Item" },
        { name := "card", number := 3, sort := .scalar .string, oneofIndex := some 0 },
        { name := "state", number := 4, sort := .enum, typeName := ".demo.State",
          oneofIndex := some 1, proto3Optional := true }],
      [⟨"CountsEntry",
          [{ name := "value", number := 2, sort := .scalar .int32 },
            { name := "key", number := 1, sort := .scalar .string }],[],[],[],true⟩,
        ⟨"Item",[{ name := "sku", number := 1, sort := .scalar .bytes }],[],[],[],false⟩],
      [],["pay","_state"],false⟩],
    [⟨"State",[⟨"NONE",0⟩]⟩],
    [⟨[4,0]," draft\n",""⟩,⟨[4,0]," An order.\n","ignored"⟩,⟨[4,0,3,1,2,0],"\n"," stock unit "⟩,
      ⟨[5,0,2,0],"","no state"⟩,⟨[4,0]," ",""⟩]⟩

def orderFile : SchemaFile :=
  { path := "order.proto", package := "demo", dependencies := ["base.proto"],
    messages := [
      { name := "Order", fullName := "demo.Order",
        fields := [
          { name := "counts", number := 1, cardinality := .map, value := ⟨.scalar .int32,none⟩,
            key := some ⟨.scalar .string,none⟩ },
          { name := "items", number := 2, cardinality := .repeated,
            value := ⟨.message,some "demo.Order.Item"⟩ },
          { name := "card", number := 3, cardinality := .oneof, value := ⟨.scalar .string,none⟩,
            oneof := some "pay" },
          { name := "state", number := 4, cardinality := .singular,
            value := ⟨.enum,some "demo.State"⟩ }],
        messages := [
          { name := "Item", fullName := "demo.Order.Item",
            fields := [
              { name := "sku", number := 1, cardinality := .singular,
                value := ⟨.scalar .bytes,none⟩, comment := some "stock unit" }] }],
        comment := some "An order." }],
    enums := [
      { name := "State", fullName := "demo.State", values := [⟨"NONE",0,some "no state"⟩] }] }

section Order

theorem commented_order {path : List Int} {c : Option String}
    (h : commentAt orderDescriptor.locations path = c) :
    Commented orderDescriptor.locations path c :=
  commentAt_eq_iff.mp h

theorem hasEntry_order {m e : Message} (hm : orderDescriptor.messages = [m]) (he : m.HasEntry e) :
    e.name = "CountsEntry" := by
  obtain ⟨rfl⟩ := List.cons.inj hm
  obtain ⟨hmem,hentry⟩ := he
  rcases List.mem_cons.mp hmem with rfl | hmem
  · rfl
  · rw [List.mem_singleton.mp hmem] at hentry
    cases hentry

theorem orderDescriptor_lowered : orderDescriptor.Lowered orderFile where
  path := rfl
  package := rfl
  dotless := by simp [Dotless,orderDescriptor]
  dependencies := rfl
  messages := by
    refine .cons (.intro ?order (.entry rfl (.cons rfl (.intro ?item .nil) .nil))) .nil
    case order =>
      have hnames : ∀ e, Message.HasEntry _ e → e.name ≠ "" ∧ Dotless e.name := fun e he => by
        rw [hasEntry_order rfl he]
        simp [Dotless]
      refine ⟨rfl,rfl,by simp [Dotless],?_,.nil,by simp,hnames,commented_order (by decide)⟩
      refine .cons ⟨rfl,rfl,.map ⟨rfl,rfl,rfl⟩ rfl rfl ⟨List.mem_cons_self,rfl⟩ rfl (.inr rfl) rfl
        rfl (.scalar rfl rfl) (.scalar rfl rfl),commented_order (by decide)⟩ ?_
      refine .cons ⟨rfl,rfl,.repeated ⟨rfl,rfl,rfl⟩ rfl (.inl rfl)
        (.message rfl (by simp [Dotless]) rfl) ?_,commented_order (by decide)⟩ ?_
      · intro e he
        rw [hasEntry_order rfl he]
        decide
      refine .cons ⟨rfl,rfl,.member ⟨rfl,rfl,rfl⟩ rfl rfl rfl rfl (.scalar rfl rfl),
        commented_order (by decide)⟩ ?_
      exact .cons ⟨rfl,rfl,.singular ⟨rfl,rfl,rfl⟩ (by decide) (.inr rfl)
        (.enum rfl (by simp [Dotless]) rfl),commented_order (by decide)⟩ .nil
    case item =>
      refine ⟨rfl,rfl,by simp [Dotless],?_,.nil,by simp,?_,commented_order (by decide)⟩
      · exact .cons ⟨rfl,rfl,.singular ⟨rfl,rfl,rfl⟩ (by decide) (.inl rfl) (.scalar rfl rfl),
          commented_order (by decide)⟩ .nil
      · rintro e ⟨⟨⟩,-⟩
  enums :=
    .cons ⟨rfl,rfl,.cons ⟨rfl,rfl,commented_order (by decide)⟩ .nil,commented_order (by decide)⟩ .nil

end Order

theorem toSchema_orderDescriptor : orderDescriptor.Lowered orderFile ∧
    orderDescriptor.toSchema true = .ok orderFile :=
  ⟨orderDescriptor_lowered,File.toSchema_of_lowered orderDescriptor_lowered⟩

end SchemaCodec.Descriptor
