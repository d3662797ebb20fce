import SchemaCodec.Proofs.Schema.FieldOrder

/-! # Declarations and their lines

Each declaration of a file, be it a message, a field, an enum or a value of one, stems from one of its
text. It has the comment that is found for the line on which the declaration begins.
-/
namespace SchemaCodec
open Grammar

/-- What a comment may stand at, by its name and the full name of the declaration that it is in. -/
inductive Named where
  | message (fullName : String)
  | enum (fullName : String)
  | field (scope name : String)
  | value (scope name : String)
  deriving DecidableEq, Repr

/-- A declaration with the line on which it begins. -/
structure Located where
  named : Named
  line : ℕ
  deriving DecidableEq, Repr

/-- A declaration with its comment. -/
structure Commented where
  named : Named
  comment : Option String
  deriving DecidableEq, Repr

/-! ## Texts -/

def DeclaredField.located (scope : String) (d : DeclaredField) : Located :=
  ⟨.field scope d.name,d.line⟩

namespace Grammar

def EnumItem.located (scope : String) : EnumItem → List Located
  | value v => [⟨.value scope v.slot.name,v.line⟩]
  | _ => []

def EnumTree.located (scope : String) (e : EnumTree) : List Located :=
  ⟨.enum (qualify scope e.name),e.line⟩ ::
    e.items.flatMap (EnumItem.located (qualify scope e.name))

namespace MessageItem

mutual

/-- What an item declares inside a scope, in the order of the text. -/
def located (scope : String) : MessageItem → List Located
  | message line name items =>
    ⟨.message (qualify scope name),line⟩ :: locatedAll (qualify scope name) items
  | enum e => e.located scope
  | i => i.declared.map (DeclaredField.located scope)

def locatedAll (scope : String) : List MessageItem → List Located
  | [] => []
  | i :: rest => i.located scope ++ locatedAll scope rest

end

theorem located_oneof (scope name : String) (items : List OneofItem) :
    (oneof name items).located scope =
      (items.flatMap OneofItem.declared).map (DeclaredField.located scope) := rfl

end MessageItem

/-- What a statement declares in a package, in the order of the text. -/
def Statement.located (package : String) : Statement → List Located
  | message line name items => (MessageItem.message line name items).located package
  | enum e => e.located package
  | _ => []

/-! The line of a declaration is that of its first token. -/

theorem begins_markedBlock (line : Option ℕ) (k : Keyword) (name : String) (body : List Marked) :
    (markedBlock line k name body).filterMap Marked.begins =
      line.toList ++ body.filterMap Marked.begins := by
  rw [markedBlock,List.filterMap_append,List.filterMap_append,begins_mark_none,List.append_nil,
    begins_mark (by simp [opening])]

theorem EnumItem.line_located (scope : String) (i : EnumItem) :
    (i.located scope).map Located.line = i.marked.filterMap Marked.begins := by
  cases i with
  | value v =>
    rw [EnumItem.marked,begins_mark (by simp [EnumItem.derivation,ValueTree.derivation])]
    rfl
  | option s => exact (begins_mark_none _).symm
  | reserved r => exact (begins_mark_none _).symm
  | empty => exact (begins_mark_none _).symm

theorem EnumTree.line_located (scope : String) (e : EnumTree) :
    (e.located scope).map Located.line = e.marked.filterMap Marked.begins := by
  rw [EnumTree.marked,begins_markedBlock,EnumTree.located,List.map_cons,List.map_flatMap,
    List.filterMap_flatMap]
  simp only [EnumItem.line_located]
  rfl

mutual

theorem MessageItem.line_located (scope : String) (i : MessageItem) :
    (i.located scope).map Located.line = i.marked.filterMap Marked.begins := by
  cases i with
  | field f =>
    rw [MessageItem.marked,begins_mark (by simp [FieldTree.derivation,Slot.children])]
    rfl
  | map m =>
    rw [MessageItem.marked,begins_mark (by simp [MapTree.derivation,Slot.children])]
    rfl
  | oneof name items =>
    rw [MessageItem.marked,begins_markedBlock,MessageItem.located_oneof,List.map_map,
      List.map_flatMap,List.filterMap_flatMap]
    exact List.flatMap_congr fun i _ => i.lines_declared
  | message line name items =>
    rw [MessageItem.marked,begins_markedBlock,MessageItem.located,List.map_cons,
      MessageItem.line_locatedAll]
    rfl
  | enum e =>
    rw [MessageItem.marked,← e.line_located scope]
    rfl
  | option | reserved | empty =>
    rw [MessageItem.marked,begins_mark_none]
    rfl

theorem MessageItem.line_locatedAll (scope : String) (items : List MessageItem) :
    (MessageItem.locatedAll scope items).map Located.line =
      (MessageItem.markedAll items).filterMap Marked.begins := by
  cases items with
  | nil => rfl
  | cons i rest =>
    rw [MessageItem.locatedAll,MessageItem.markedAll,List.map_append,List.filterMap_append,
      MessageItem.line_located scope i,MessageItem.line_locatedAll scope rest]

end

theorem Statement.line_located (package : String) (s : Statement) :
    (s.located package).map Located.line = s.marked.filterMap Marked.begins := by
  cases s with
  | message line name items =>
    rw [marked_message]
    exact MessageItem.line_located package _
  | enum e => exact e.line_located package
  | syntaxIs | package | imports | option | empty =>
    rw [Statement.marked,begins_mark_none] <;> simp [Statement.located]

theorem line_located (package : String) (statements : List Statement) :
    (statements.flatMap (Statement.located package)).map Located.line =
      (statements.flatMap Statement.marked).filterMap Marked.begins := by
  rw [List.map_flatMap,List.filterMap_flatMap]
  exact List.flatMap_congr fun s _ => s.line_located package

/-- A declaration begins on the line of some token, of which the first is one. -/
theorem exists_token {text : List Char} {statements : List Statement}
    (h : read text = .ok statements) {package : String} {d : Located}
    (hd : d ∈ statements.flatMap (Statement.located package)) :
    ∃ t ∈ tokens text, t.position.line = d.line := by
  have hline : d.line ∈ (statements.flatMap Statement.marked).filterMap Marked.begins := by
    rw [← line_located package]
    exact List.mem_map_of_mem hd
  exact List.mem_map.mp ((lines_sublist (fits_of_read h)).mem hline)

end Grammar

/-! ## Drafts -/

def FieldDraft.located (scope : String) (d : FieldDraft) : Located := d.declared.located scope

def ValueDraft.located (scope : String) (d : ValueDraft) : Located := ⟨.value scope d.name,d.line⟩

def EnumDraft.located (scope : String) (d : EnumDraft) : List Located :=
  ⟨.enum (d.fullName scope),d.line⟩ :: d.values.map (ValueDraft.located (d.fullName scope))

/-- What some messages of a scope declare: each itself, its fields, its enums and its messages. -/
def locatedWithin (scope : String) : List MessageDraft → List Located
  | [] => []
  | ⟨name,fields,messages,enums,_,line⟩ :: rest =>
    let full := qualify scope name
    ⟨.message full,line⟩ :: (fields.map (FieldDraft.located full) ++
      (enums.flatMap (EnumDraft.located full) ++ locatedWithin full messages)) ++
      locatedWithin scope rest

theorem locatedWithin_append (scope : String) (drafts more : List MessageDraft) :
    locatedWithin scope (drafts ++ more) =
      locatedWithin scope drafts ++ locatedWithin scope more := by
  induction drafts with
  | nil => simp [locatedWithin]
  | cons d rest ih =>
    obtain ⟨name,fields,nested,enums,reserved,line⟩ := d
    rw [List.cons_append,locatedWithin,locatedWithin,ih,List.append_assoc]

/-- All that a file declares, its enums first. -/
def FileDraft.located (draft : FileDraft) : List Located :=
  draft.enums.flatMap (EnumDraft.located draft.package) ++
    locatedWithin draft.package draft.messages

namespace Draft

theorem located_addEnumItem {draft next : EnumDraft} {i : EnumItem} (scope : String)
    (h : addEnumItem draft i = some next) : next.name = draft.name ∧
      next.located scope = draft.located scope ++ i.located (draft.fullName scope) := by
  cases addsItem_of_addEnumItem h with
  | @value v value hvalue =>
    obtain ⟨n,-,hvalue⟩ := Option.map_eq_some_iff.mp (ofValue_eq v ▸ hvalue)
    cases hvalue
    refine ⟨rfl,?_⟩
    rw [EnumDraft.located,List.map_append]
    rfl
  | option | reserved | empty => exact ⟨rfl,(List.append_nil _).symm⟩

theorem located_foldlM_addEnumItem {items : List EnumItem} {draft last : EnumDraft}
    (scope : String) (h : items.foldlM addEnumItem draft = some last) : last.located scope =
      draft.located scope ++ items.flatMap (EnumItem.located (draft.fullName scope)) := by
  rw [foldlM_eq_some_iff] at h
  induction h with
  | nil => exact (List.append_nil _).symm
  | @cons draft next _ i rest hnext _ ih =>
    obtain ⟨hname,hfirst⟩ := located_addEnumItem scope hnext
    have hfull : next.fullName scope = draft.fullName scope := congrArg (qualify scope) hname
    rw [ih,hfirst,hfull,List.flatMap_cons,List.append_assoc]

theorem located_ofEnum {e : EnumTree} {draft : EnumDraft} (scope : String)
    (h : ofEnum e = some draft) : draft.located scope = e.located scope :=
  located_foldlM_addEnumItem scope h

/-- All that a body declares inside a scope. -/
def Body.located (scope : String) (body : Body) : List Located :=
  (body.fields ++ body.members).map (FieldDraft.located scope) ++
    (body.enums.flatMap (EnumDraft.located scope) ++ locatedWithin scope body.messages)

/-- A message declares itself and its body. -/
theorem located_toMessage (scope name : String) (line : ℕ) (body : Body)
    (rest : List MessageDraft) :
    (locatedWithin scope (body.toMessage name line :: rest)).Perm
      (⟨.message (qualify scope name),line⟩ :: body.located (qualify scope name) ++
        locatedWithin scope rest) := by
  have hfields : (byLine (body.fields ++ body.members)).Perm (body.fields ++ body.members) :=
    List.mergeSort_perm _ _
  rw [Body.toMessage,locatedWithin]
  exact (((hfields.map _).append_right _).cons _).append_right _

theorem Body.Prepends.located {scope : String} {body next : Body} {i : MessageItem}
    (h : body.Prepends i next) : (next.located scope).Perm (i.located scope ++ body.located scope) := by
  cases h with
  | field hd =>
    rw [Body.located,List.cons_append,List.map_cons,FieldDraft.located,declared_ofField hd]
    exact .refl _
  | map hd =>
    rw [Body.located,List.cons_append,List.map_cons,FieldDraft.located,declared_ofMap hd]
    exact .refl _
  | @oneof name items drafts hd =>
    have hmembers : drafts.flatten.map (FieldDraft.located scope) =
        (items.flatMap OneofItem.declared).map (DeclaredField.located scope) := by
      rw [← declared_oneof hd,List.map_map]
      rfl
    rw [Body.located,Body.located,MessageItem.located_oneof,← hmembers,List.map_append,List.map_append,
      List.map_append,← List.append_assoc (drafts.flatten.map _)]
    exact (List.perm_append_comm_assoc ..).append_right _
  | enum hd =>
    rw [Body.located,Body.located,MessageItem.located,← located_ofEnum scope hd,List.flatMap_cons,
      List.append_assoc]
    exact List.perm_append_comm_assoc ..
  | option | reserved | empty => exact .refl _

/-- A body declares what its items do. -/
theorem located_bodyOf {items : List MessageItem} {body : Body} (h : bodyOf items = some body)
    (scope : String) : (body.located scope).Perm (MessageItem.locatedAll scope items) := by
  rw [bodyOf_eq_some_iff] at h
  induction h generalizing scope with
  | nil => simp [Body.located,locatedWithin,MessageItem.locatedAll]
  | @message line name items rest nested others _ _ ihitems ihrest =>
    have hmessage := located_toMessage scope name line nested others.messages
    have hnested := ((ihitems (qualify scope name)).cons
      ⟨.message (qualify scope name),line⟩).append_right (locatedWithin scope others.messages)
    rw [MessageItem.locatedAll,MessageItem.located]
    refine .trans ?_ ((ihrest scope).append_left _)
    rw [Body.located,Body.located]
    refine (((hmessage.trans hnested).append_left _).append_left _).trans ?_
    refine ((List.perm_append_comm_assoc ..).append_left _).trans ?_
    exact List.perm_append_comm_assoc ..
  | item _ hi ih => exact hi.located.trans ((ih scope).append_left _)

/-- All that some statements declare in a package. -/
def Contents.located (package : String) (c : Contents) : List Located :=
  c.enums.flatMap (EnumDraft.located package) ++ locatedWithin package c.messages

theorem located_add {c next : Contents} {s : Statement} (h : c.add s = some next)
    (package : String) :
    (next.located package).Perm (c.located package ++ s.located package) := by
  cases Contents.adds_of_add h with
  | @message line name items body hbody =>
    have hmessage := located_toMessage package name line body []
    rw [locatedWithin,List.append_nil] at hmessage
    rw [Contents.located,Contents.located,locatedWithin_append,List.append_assoc]
    refine ((hmessage.append_left _).append_left _).trans ?_
    exact (((located_bodyOf hbody _).cons _).append_left _).append_left _
  | enum hd =>
    rw [Contents.located,Contents.located,Statement.located,← located_ofEnum package hd,
      List.flatMap_append,List.flatMap_singleton,List.append_assoc,List.append_assoc]
    exact List.perm_append_comm.append_left _
  | syntaxIs | package | imports | option | empty => exact .of_eq (List.append_nil _).symm

theorem located_foldlM_add {statements : List Statement} {c last : Contents}
    (h : statements.foldlM Contents.add c = some last) (package : String) :
    (last.located package).Perm
      (c.located package ++ statements.flatMap (Statement.located package)) := by
  rw [foldlM_eq_some_iff] at h
  induction h with
  | nil => exact .of_eq (List.append_nil _).symm
  | cons hnext _ ih =>
    rw [List.flatMap_cons,← List.append_assoc]
    exact ih.trans ((located_add hnext package).append_right _)

end Draft

/-- A draft declares what its text does. -/
theorem located_draftOf {path : String} {text : List Char} {draft : FileDraft}
    (h : draftOf path text = .ok draft) : ∃ statements, read text = .ok statements ∧
      draft.lines = Text.lines text ∧
      draft.located.Perm (statements.flatMap (Statement.located draft.package)) := by
  obtain ⟨statements,hread,hdraft⟩ := draftOf_eq_ok h
  obtain ⟨c,package,hc,-,rfl⟩ := ofStatements_eq_ok hdraft
  have hlocated := Draft.located_foldlM_add hc package
  rw [show Draft.Contents.located package {} = [] by
    simp [Draft.Contents.located,locatedWithin],List.nil_append] at hlocated
  exact ⟨statements,hread,rfl,hlocated⟩

/-! ## Files -/

def Field.commented (scope : String) (f : Field) : Commented := ⟨.field scope f.name,f.comment⟩

def EnumValue.commented (scope : String) (v : EnumValue) : Commented :=
  ⟨.value scope v.name,v.comment⟩

/-- A declaration and what it lists, with their comments. -/
def Declaration.commented : Declaration → List Commented
  | enum e => ⟨.enum e.fullName,e.comment⟩ :: e.values.map (EnumValue.commented e.fullName)
  | message m => ⟨.message m.fullName,m.comment⟩ :: m.fields.map (Field.commented m.fullName)

/-- All comments of a file, with that at which each stands. -/
def SchemaFile.commented (file : SchemaFile) : List Commented :=
  file.declarations.flatMap Declaration.commented

namespace BuildContext

variable {ctx : BuildContext} {scope : String}

/-- A declaration with the comment that is found for its line. -/
def commented (ctx : BuildContext) (d : Located) : Commented := ⟨d.named,ctx.comment d.line⟩

theorem commented_field {full : String} {d : FieldDraft} {f : Field}
    (h : ctx.field scope d = .ok f) : f.commented full = ctx.commented (d.located full) := by
  obtain ⟨v,-,h⟩ := bind_eq_ok.mp h
  cases hshape : d.shape with
  | singular | repeated | member _ =>
    simp only [hshape,Except.ok.injEq] at h
    rw [← h]
    rfl
  | map ref =>
    simp only [hshape] at h
    obtain ⟨k,-,h⟩ := bind_eq_ok.mp h
    cases h
    rfl

theorem commented_enum {d : EnumDraft} {e : EnumDecl} (h : ctx.enum scope d = .ok e) :
    (Declaration.enum e).commented = (d.located scope).map ctx.commented := by
  rw [enum_eq_ok h,Declaration.commented,EnumDraft.located,List.map_cons,List.map_map,List.map_map]
  rfl

theorem commented_enums {drafts : List EnumDraft} {enums : List EnumDecl}
    (h : drafts.mapM (ctx.enum scope) = .ok enums) :
    (enums.map Declaration.enum).flatMap Declaration.commented =
      (drafts.flatMap (EnumDraft.located scope)).map ctx.commented := by
  have hall := (mapM_eq_ok_iff.mp h).imp fun d e he => commented_enum he
  rw [List.flatMap_map,List.flatMap_def,List.map_flatMap,List.flatMap_def,map_eq_map hall]

theorem commented_messages {drafts : List MessageDraft} {built : List Message}
    (h : ctx.messages scope drafts = .ok built) :
    (Message.declarationsOf built).flatMap Declaration.commented =
      (locatedWithin scope drafts).map ctx.commented := by
  induction scope, drafts using messageNames.induct generalizing built with
  | case1 scope =>
    rw [messages] at h
    cases h
    simp [Message.declarationsOf,locatedWithin]
  | case2 scope name fields nested enums reserved line rest _ ihn =>
    rename_i ihr
    obtain ⟨fs,ns,es,rs,-,hfs,hns,hes,hrs,rfl⟩ := messages_cons_eq_ok h
    have hfields : fs.map (Field.commented (qualify scope name)) =
        (fields.map (FieldDraft.located (qualify scope name))).map ctx.commented := by
      rw [List.map_map]
      exact map_eq_map ((mapM_eq_ok_iff.mp hfs).imp fun d f hf => commented_field hf)
    have hnested : (Message.declarationsOf ns).flatMap Declaration.commented =
        (locatedWithin (qualify scope name) nested).map ctx.commented := ihn hns
    rw [Message.declarationsOf,Message.declarations,locatedWithin,List.flatMap_append,
      List.cons_append,List.flatMap_cons,List.flatMap_append,hnested,ihr hrs,commented_enums hes,
      Declaration.commented,hfields]
    simp [commented]

end BuildContext

/-- A file has its declarations from its draft, each with the comment that is found for its line. -/
theorem commented_build {draft : FileDraft} {declared : Declared} {asked : Bool} {file : SchemaFile}
    (h : draft.build declared asked = .ok file) : file.package = draft.package ∧
      file.commented = draft.located.map
        (BuildContext.commented ⟨draft.path,draft.lines,declared⟩) := by
  obtain ⟨messages,hmessages,h⟩ := bind_eq_ok.mp h
  obtain ⟨enums,henums,h⟩ := bind_eq_ok.mp h
  cases h
  refine ⟨rfl,?_⟩
  rw [SchemaFile.commented,SchemaFile.declarations,List.flatMap_append,
    BuildContext.commented_enums henums,BuildContext.commented_messages hmessages,
    FileDraft.located,List.map_append]

end SchemaCodec
