import SchemaCodec.Proofs.Grammar.Lines
import SchemaCodec.Proofs.Schema.Declarations
import SchemaCodec.Proofs.Schema.Validation
import SchemaCodec.Proofs.Sorting

/-! # The order of fields

The fields of a message are those that its text declares. They stand in the order of the text, except
that a member of a oneof stands behind the other fields of its line: the order is that of the text
exactly if no member comes before another field that begins on the same line.
-/
namespace SchemaCodec
open Grammar

/-- A field as a text declares it: its name, the line of its first token, and whether it is a member
of a oneof. -/
structure DeclaredField where
  name : String
  line : ℕ
  member : Bool
  deriving DecidableEq

def Grammar.OneofItem.declared : OneofItem → List DeclaredField
  | member m => [⟨m.slot.name,m.line,true⟩]
  | _ => []

/-- The fields that an item of a message adds to it, in the order of the text. -/
def Grammar.MessageItem.declared : MessageItem → List DeclaredField
  | field f => [⟨f.slot.name,f.line,false⟩]
  | map m => [⟨m.slot.name,m.line,false⟩]
  | oneof _ items => items.flatMap OneofItem.declared
  | _ => []

namespace Grammar

mutual

/-- The body of a message and those of the messages in it, outermost first. -/
def MessageItem.bodies : MessageItem → List (List MessageItem)
  | .message _ _ items => items :: bodiesWithin items
  | _ => []

/-- The bodies of the messages among some items, at every depth. -/
def bodiesWithin : List MessageItem → List (List MessageItem)
  | [] => []
  | i :: rest => i.bodies ++ bodiesWithin rest

end

def Statement.bodies : Statement → List (List MessageItem)
  | message _ _ items => items :: bodiesWithin items
  | _ => []

/-! ## Lines -/

theorem begins_mark {line : Option ℕ} {ls : List Lexeme} (h : ls ≠ []) :
    (mark line ls).filterMap Marked.begins = line.toList := by
  cases ls with
  | nil => exact absurd rfl h
  | cons l ls => cases line <;> simp [mark]

theorem begins_mark_none (ls : List Lexeme) : (mark none ls).filterMap Marked.begins = [] := by
  cases ls with
  | nil => rfl
  | cons l ls => exact begins_mark (List.cons_ne_nil l ls)

theorem OneofItem.lines_declared (i : OneofItem) :
    i.declared.map (·.line) = i.marked.filterMap Marked.begins := by
  cases i with
  | member m =>
    rw [OneofItem.marked,begins_mark (by simp [OneofItem.derivation,MemberTree.derivation,
      Slot.children])]
    rfl
  | option s => exact (begins_mark_none _).symm
  | empty => exact (begins_mark_none _).symm

theorem sublist_flatMap {α β : Type} {f g : α → List β} (h : ∀ a, (f a).Sublist (g a)) (l : List α) :
    (l.flatMap f).Sublist (l.flatMap g) := by
  induction l with
  | nil => exact .slnil
  | cons a rest ih => exact (h a).append ih

/-- The lines of the fields of a message come among those of its declarations. -/
theorem MessageItem.lines_declared (i : MessageItem) :
    (i.declared.map (·.line)).Sublist (i.marked.filterMap Marked.begins) := by
  cases i with
  | field f =>
    rw [MessageItem.marked,begins_mark (by simp [FieldTree.derivation,Slot.children])]
    exact .refl _
  | map m =>
    rw [MessageItem.marked,begins_mark (by simp [MapTree.derivation,Slot.children])]
    exact .refl _
  | oneof name items =>
    rw [MessageItem.marked,markedBlock,List.filterMap_append,List.filterMap_append,
      begins_mark_none,begins_mark_none,List.nil_append,List.append_nil,MessageItem.declared,
      List.map_flatMap,List.filterMap_flatMap]
    exact sublist_flatMap (fun i => i.lines_declared ▸ .refl _) items
  | message | enum | option | reserved | empty => exact List.nil_sublist _

mutual

theorem MessageItem.bodies_sublist (i : MessageItem) :
    ∀ body ∈ i.bodies, (body.flatMap MessageItem.marked).Sublist i.marked := by
  cases i with
  | message line name items =>
    rw [MessageItem.bodies,MessageItem.marked,markedBlock,MessageItem.markedAll_eq_flatMap]
    have hinside : (items.flatMap MessageItem.marked).Sublist (mark (some line)
        (opening .messageKw name) ++ items.flatMap MessageItem.marked
          ++ mark none [.mark .closeBrace]) :=
      (List.sublist_append_right _ _).trans (List.sublist_append_left _ _)
    refine List.forall_mem_cons.mpr ⟨hinside,fun body hbody => ?_⟩
    exact (bodiesWithin_sublist items body hbody).trans hinside
  | field | map | oneof | enum | option | reserved | empty => simp [MessageItem.bodies]

theorem bodiesWithin_sublist (items : List MessageItem) : ∀ body ∈ bodiesWithin items,
    (body.flatMap MessageItem.marked).Sublist (items.flatMap MessageItem.marked) := by
  cases items with
  | nil => simp [bodiesWithin]
  | cons i rest =>
    rw [bodiesWithin,List.flatMap_cons]
    intro body hbody
    rcases List.mem_append.mp hbody with hbody | hbody
    · exact (MessageItem.bodies_sublist i body hbody).trans (List.sublist_append_left _ _)
    · exact (bodiesWithin_sublist rest body hbody).trans (List.sublist_append_right _ _)

end

theorem Statement.bodies_sublist {s : Statement} {body : List MessageItem} (h : body ∈ s.bodies) :
    (body.flatMap MessageItem.marked).Sublist s.marked := by
  cases s with
  | message line name items =>
    rw [marked_message]
    exact MessageItem.bodies_sublist (.message line name items) body h
  | _ => simp [Statement.bodies] at h

/-- In each message of a text, the lines of the fields do not descend. -/
theorem lines_ascend_within {text : List Char} {statements : List Statement}
    (h : read text = .ok statements) : ∀ body ∈ statements.flatMap Statement.bodies,
      (body.flatMap MessageItem.declared).Pairwise fun a b => a.line ≤ b.line := by
  intro body hbody
  obtain ⟨s,hs,hbody⟩ := List.mem_flatMap.mp hbody
  have hdeclared := sublist_flatMap MessageItem.lines_declared body
  rw [← List.map_flatMap,← List.filterMap_flatMap] at hdeclared
  have hmarked := (Statement.bodies_sublist hbody).trans
    (List.sublist_flatten_of_mem (List.mem_map_of_mem hs))
  rw [← List.flatMap_def] at hmarked
  exact List.pairwise_map.mp ((lines_ascend h).sublist (hdeclared.trans (hmarked.filterMap _)))

end Grammar

/-! ## Drafts -/

def FieldDraft.declared (d : FieldDraft) : DeclaredField where
  name := d.name
  line := d.line
  member := match d.shape with
    | .member _ => true
    | _ => false

/-- The fields that some items declare, in the order of the text. -/
def declaredIn (items : List MessageItem) : List DeclaredField := items.flatMap MessageItem.declared

/-- Some fields in the order of their lines, members of oneofs behind other fields of their line. -/
def LineOrder (ds listed : List DeclaredField) : Prop :=
  SortedBy DeclaredField.line (ds.filter (!·.member) ++ ds.filter (·.member)) listed

theorem declared_ofField {f : FieldTree} {d : FieldDraft} (h : Draft.ofField f = some d) :
    d.declared = ⟨f.slot.name,f.line,false⟩ := by
  obtain ⟨n,-,hd⟩ := Option.bind_eq_some_iff.mp h
  cases hd
  by_cases hl : f.label = some .repeated <;> simp [FieldDraft.declared,hl]

theorem declared_ofMap {m : MapTree} {d : FieldDraft} (h : Draft.ofMap m = some d) :
    d.declared = ⟨m.slot.name,m.line,false⟩ := by
  obtain ⟨n,-,hd⟩ := Option.bind_eq_some_iff.mp h
  cases hd
  rfl

theorem declared_membersOf {group : String} {i : OneofItem} {ds : List FieldDraft}
    (h : Draft.membersOf group i = some ds) : ds.map FieldDraft.declared = i.declared := by
  cases i with
  | member m =>
    obtain ⟨d,hd,rfl⟩ := Option.map_eq_some_iff.mp h
    obtain ⟨n,-,hd⟩ := Option.bind_eq_some_iff.mp hd
    cases hd
    rfl
  | option s =>
    obtain ⟨-,-,rfl⟩ := Option.map_eq_some_iff.mp h
    rfl
  | empty =>
    cases h
    rfl

theorem declared_oneof {group : String} {items : List OneofItem} {drafts : List (List FieldDraft)}
    (h : items.mapM (Draft.membersOf group) = some drafts) :
    drafts.flatten.map FieldDraft.declared = items.flatMap OneofItem.declared := by
  have hall := (mapM_eq_some_iff.mp h).imp fun i ds => declared_membersOf
  rw [List.map_flatten,map_eq_map hall,List.flatMap_def]

theorem member_of_oneof (items : List OneofItem) :
    ∀ d ∈ items.flatMap OneofItem.declared, d.member = true := by
  intro d hd
  obtain ⟨i,-,hd⟩ := List.mem_flatMap.mp hd
  cases i with
  | member m =>
    rw [OneofItem.declared,List.mem_singleton] at hd
    rw [hd]
  | option s => simp [OneofItem.declared] at hd
  | empty => simp [OneofItem.declared] at hd

/-- A body holds what some items declare, members of oneofs apart, and below it are the messages
among the items. -/
structure Draft.Body.Declares (body : Draft.Body) (items : List MessageItem) : Prop where
  fields : body.fields.map FieldDraft.declared = (declaredIn items).filter (!·.member)
  members : body.members.map FieldDraft.declared = (declaredIn items).filter (·.member)
  messages : ∀ scope, List.Forall₂
    (fun p below => LineOrder (declaredIn below) (p.2.fields.map FieldDraft.declared))
    (messagesWithin scope body.messages) (bodiesWithin items)

theorem Draft.Body.Declares.lineOrder {body : Draft.Body} {items : List MessageItem}
    (h : body.Declares items) (name : String) (line : ℕ) :
    LineOrder (declaredIn items) ((body.toMessage name line).fields.map FieldDraft.declared) := by
  have hsort := List.map_mergeSort (l := body.fields ++ body.members) (f := FieldDraft.declared)
    (r := fun a b => decide (a.line ≤ b.line)) (s := fun a b => decide (a.line ≤ b.line))
    fun _ _ _ _ => rfl
  rw [List.map_append,h.fields,h.members] at hsort
  rw [toMessage,byLine,hsort]
  exact sortedBy_mergeSort DeclaredField.line _

/-- An item that is no message has no message below it. -/
theorem Draft.Body.Prepends.bodiesWithin {body next : Draft.Body} {i : MessageItem}
    (h : body.Prepends i next) (items : List MessageItem) :
    bodiesWithin (i :: items) = bodiesWithin items := by
  cases h <;> rfl

theorem Draft.Body.Declares.prepends {body next : Draft.Body} {items : List MessageItem}
    {i : MessageItem} (h : body.Declares items) (hi : body.Prepends i next) :
    next.Declares (i :: items) := by
  have hdeclared : declaredIn (i :: items) = i.declared ++ declaredIn items := List.flatMap_cons
  have hbodies := hi.bodiesWithin items
  have hsame (he : i.declared = []) : body.Declares (i :: items) := by
    rw [he,List.nil_append] at hdeclared
    exact ⟨hdeclared ▸ h.fields,hdeclared ▸ h.members,hbodies ▸ h.messages⟩
  have hplain {d : FieldDraft} {e : DeclaredField} (hd : d.declared = e) (he : e.member = false)
      (hi : i.declared = [e]) : Declares { body with fields := d :: body.fields } (i :: items) := by
    rw [hi,List.singleton_append] at hdeclared
    refine ⟨?_,?_,hbodies ▸ h.messages⟩
    · rw [hdeclared,List.map_cons,h.fields,hd,List.filter_cons_of_pos (by simp [he])]
    · rw [hdeclared,h.members,List.filter_cons_of_neg (by simp [he])]
  cases hi with
  | field hd => exact hplain (declared_ofField hd) rfl rfl
  | map hd => exact hplain (declared_ofMap hd) rfl rfl
  | @oneof name members drafts hdrafts =>
    have hall := member_of_oneof members
    refine ⟨?_,?_,hbodies ▸ h.messages⟩
    · rw [hdeclared,List.filter_append,MessageItem.declared,
        List.filter_eq_nil_iff.mpr (by simpa using hall),List.nil_append]
      exact h.fields
    · rw [hdeclared,List.filter_append,MessageItem.declared,List.filter_eq_self.mpr hall,
        List.map_append,declared_oneof hdrafts,h.members]
  | enum | reserved =>
    obtain ⟨hfields,hmembers,hmessages⟩ := hsame rfl
    exact ⟨hfields,hmembers,hmessages⟩
  | option | empty => exact hsame rfl

theorem declares_bodyOf {items : List MessageItem} {body : Draft.Body}
    (h : Draft.bodyOf items = some body) : body.Declares items := by
  rw [Draft.bodyOf_eq_some_iff] at h
  induction h with
  | nil => exact ⟨rfl,rfl,fun scope => by simp [messagesWithin,bodiesWithin]⟩
  | @message line name items rest nested others _ _ hinside ihrest =>
    obtain ⟨hfields,hmembers,hmessages⟩ := ihrest
    refine ⟨hfields,hmembers,fun scope => ?_⟩
    rw [bodiesWithin,MessageItem.bodies,Draft.Body.toMessage,messagesWithin]
    refine List.rel_append (.cons ?_ (hinside.messages _)) (hmessages scope)
    exact hinside.lineOrder name line
  | item _ hi ih => exact ih.prepends hi

theorem messagesWithin_append (scope : String) (drafts more : List MessageDraft) :
    messagesWithin scope (drafts ++ more) =
      messagesWithin scope drafts ++ messagesWithin scope more := by
  induction drafts with
  | nil => simp [messagesWithin]
  | cons d rest ih =>
    obtain ⟨name,fields,nested,enums,reserved,line⟩ := d
    rw [List.cons_append,messagesWithin,messagesWithin,ih,List.append_assoc]

/-- A statement adds the message that it is, with the messages in it. -/
theorem lineOrder_add {c next : Draft.Contents} {s : Statement} (h : c.add s = some next) :
    ∃ messages, next.messages = c.messages ++ messages ∧ ∀ scope, List.Forall₂
      (fun p below => LineOrder (declaredIn below) (p.2.fields.map FieldDraft.declared))
      (messagesWithin scope messages) s.bodies := by
  have hnone (scope : String) : List.Forall₂ (fun (p : String × MessageDraft) below =>
      LineOrder (declaredIn below) (p.2.fields.map FieldDraft.declared))
      (messagesWithin scope []) [] := by
    simp [messagesWithin]
  cases Draft.Contents.adds_of_add h with
  | @message line name items body hbody =>
    have hdeclares := declares_bodyOf hbody
    refine ⟨[_],rfl,fun scope => ?_⟩
    rw [Draft.Body.toMessage,messagesWithin,messagesWithin,List.append_nil,Statement.bodies]
    exact .cons (hdeclares.lineOrder name line) (hdeclares.messages _)
  | syntaxIs | package | imports | option | enum | empty =>
    exact ⟨[],(List.append_nil _).symm,hnone⟩

theorem lineOrder_foldlM {statements : List Statement} {c last : Draft.Contents}
    (h : statements.foldlM Draft.Contents.add c = some last) :
    ∃ messages, last.messages = c.messages ++ messages ∧ ∀ scope, List.Forall₂
      (fun p below => LineOrder (declaredIn below) (p.2.fields.map FieldDraft.declared))
      (messagesWithin scope messages) (statements.flatMap Statement.bodies) := by
  rw [foldlM_eq_some_iff] at h
  induction h with
  | nil => exact ⟨[],(List.append_nil _).symm,fun scope => by simp [messagesWithin]⟩
  | cons hnext _ ih =>
    obtain ⟨messages,hmessages,hfirst⟩ := lineOrder_add hnext
    obtain ⟨more,hmore,hrest⟩ := ih
    refine ⟨messages ++ more,by rw [hmore,hmessages,List.append_assoc],fun scope => ?_⟩
    rw [messagesWithin_append,List.flatMap_cons]
    exact List.rel_append (hfirst scope) (hrest scope)

/-! ## Files -/

def Declaration.message? : Declaration → Option Message
  | message m => some m
  | enum _ => none

/-- The messages of a file at every depth, each before those in it. -/
def SchemaFile.allMessages (file : SchemaFile) : List Message :=
  file.declarations.filterMap Declaration.message?

theorem message?_enums (enums : List EnumDecl) :
    (enums.map Declaration.enum).filterMap Declaration.message? = [] := by
  simp [List.filterMap_map,Function.comp_def,Declaration.message?]

/-- A message with the fields of its draft, in their order. -/
def Message.FieldsOf (p : String × MessageDraft) (m : Message) : Prop :=
  m.fields.map (·.name) = p.2.fields.map (·.name)

/-- Building keeps messages and their fields in order. -/
theorem BuildContext.fieldsOf_messages {ctx : BuildContext} {scope : String}
    {drafts : List MessageDraft} {built : List Message}
    (h : ctx.messages scope drafts = .ok built) :
    List.Forall₂ Message.FieldsOf (messagesWithin scope drafts)
      ((Message.declarationsOf built).filterMap Declaration.message?) := by
  induction scope, drafts using messageNames.induct generalizing built with
  | case1 scope =>
    rw [messages] at h
    cases h
    simp [messagesWithin,Message.declarationsOf]
  | case2 scope name fields nested enums reserved line rest _ ihn =>
    rename_i ihr
    obtain ⟨fs,ns,es,rs,-,hfs,hns,-,hrs,rfl⟩ := messages_cons_eq_ok h
    have hknown : ∀ name sort, ctx.declared.sort? name = some sort →
        ⟨name,sort⟩ ∈ ctx.declared.map fun p => NamedSort.mk p.1 p.2 := by
      intro name sort hs
      obtain ⟨before,after,hsplit,-⟩ := List.lookup_eq_some_iff.mp hs
      exact List.mem_map.mpr ⟨(name,sort),by simp [hsplit],rfl⟩
    have hown : Message.FieldsOf (qualify scope name,⟨name,fields,nested,enums,reserved,line⟩)
        ⟨name,qualify scope name,fs,ns,es,ctx.comment line⟩ :=
      map_eq_map ((mapM_eq_ok_iff.mp hfs).imp fun d f hf => (field_eq_ok hknown hf).1)
    have hnested := ihn hns
    rw [← List.nil_append (List.filterMap _ _),← message?_enums es,← List.filterMap_append]
      at hnested
    rw [messagesWithin,Message.declarationsOf,Message.declarations,List.filterMap_append]
    exact List.rel_append (.cons hown hnested) (ihr hrs)

/-- The fields of a message that are declared by a body: they are in the order of lines, and in the
order of the text exactly if no member of a oneof comes before another field of its line. -/
structure Message.ListsFields (m : Message) (body : List MessageItem) : Prop where
  lineOrder : ∃ listed, LineOrder (declaredIn body) listed ∧
    m.fields.map (·.name) = listed.map (·.name)
  textOrder_iff : m.fields.map (·.name) = (declaredIn body).map (·.name) ↔
    (declaredIn body).Pairwise fun a b => a.line = b.line → a.member = true → b.member = true

/-- Where names are distinct, they tell in which order things are. -/
theorem map_eq_map_iff_of_perm {α β : Type} {f : α → β} {l r : List α} (hperm : l.Perm r)
    (hn : (l.map f).Nodup) : l.map f = r.map f ↔ l = r := by
  refine ⟨fun h => List.ext_getElem hperm.length_eq fun i hi hi' => ?_,fun h => h ▸ rfl⟩
  refine List.inj_on_of_nodup_map hn (List.getElem_mem hi)
    (hperm.mem_iff.mpr (List.getElem_mem hi')) ?_
  have hnames : (l.map f)[i]? = (r.map f)[i]? := by
    rw [h]
  simpa [hi,hi'] using hnames

theorem LineOrder.perm {ds listed : List DeclaredField} (h : LineOrder ds listed) :
    listed.Perm ds :=
  (SortedBy.perm h).trans (List.perm_append_comm.trans
    (by simpa using List.filter_append_perm (·.member) ds))

/-- Fields in the order of lines are in the order of the text exactly if no member of a oneof comes
before another field of its line. -/
theorem LineOrder.listsFields {m : Message} {body : List MessageItem}
    (hascend : (declaredIn body).Pairwise fun a b => a.line ≤ b.line)
    (hn : (m.fields.map (·.name)).Nodup) {listed : List DeclaredField}
    (h : LineOrder (declaredIn body) listed)
    (hnames : m.fields.map (·.name) = listed.map (·.name)) : m.ListsFields body := by
  refine ⟨⟨listed,h,hnames⟩,?_⟩
  rw [hnames,map_eq_map_iff_of_perm h.perm (hnames ▸ hn)]
  exact SortedBy.eq_iff hascend h

/-- A file that is built from a text has the messages of the text, with their fields in the order of
lines. -/
theorem lineOrder_of_build {path : String} {text : List Char} {draft : FileDraft}
    {declared : Declared} {asked : Bool} {file : SchemaFile} (hdraft : draftOf path text = .ok draft)
    (hbuild : draft.build declared asked = .ok file) : ∃ statements,
      read text = .ok statements ∧ List.Forall₂ (fun m body => ∃ listed,
        LineOrder (declaredIn body) listed ∧ m.fields.map (·.name) = listed.map (·.name))
        file.allMessages (statements.flatMap Statement.bodies) := by
  obtain ⟨statements,hread,hdraft⟩ := draftOf_eq_ok hdraft
  obtain ⟨c,package,hc,-,rfl⟩ := ofStatements_eq_ok hdraft
  obtain ⟨messages,hmessages,horder⟩ := lineOrder_foldlM hc
  obtain ⟨built,hbuilt,h⟩ := bind_eq_ok.mp hbuild
  obtain ⟨enums,-,h⟩ := bind_eq_ok.mp h
  cases h
  rw [List.nil_append] at hmessages
  have hfields := BuildContext.fieldsOf_messages (hmessages ▸ hbuilt)
  refine ⟨statements,hread,?_⟩
  rw [SchemaFile.allMessages,SchemaFile.declarations,List.filterMap_append,message?_enums,
    List.nil_append]
  refine (forall₂_comp hfields.flip (horder package)).imp ?_
  rintro m body ⟨p,hm,hp⟩
  refine ⟨_,hp,hm.trans ?_⟩
  rw [List.map_map]
  rfl

theorem mem_allMessages {file : SchemaFile} {m : Message} (h : m ∈ file.allMessages) :
    .message m ∈ file.declarations := by
  obtain ⟨d,hd,hm⟩ := List.mem_filterMap.mp h
  cases d with
  | message n =>
    cases hm
    exact hd
  | enum e => cases hm

/-- Every text that is accepted gives a file with the messages of the text, outermost first. Their
fields are in the order of lines, and in the order of the text exactly if in no message a member of a
oneof comes before another field that begins on its line. -/
theorem listsFields_of_parseAll {sources : List (String × String)} {files : List SchemaFile}
    (h : parseAll sources = .ok files) : List.Forall₂ (fun source file => ∃ statements,
      read source.2.toList = .ok statements ∧
      List.Forall₂ Marked.Fits (statements.flatMap Statement.marked) (tokens source.2.toList) ∧
      List.Forall₂ Message.ListsFields file.allMessages (statements.flatMap Statement.bodies))
    sources files := by
  have hsound := (parseAll_eq_ok h).1.sound
  obtain ⟨drafts,hdrafts,-,hbuild⟩ := parseAll_eq_ok_iff.mp h
  obtain ⟨declared,-,hfiles⟩ := bind_eq_ok.mp hbuild
  have hbuilt := (List.forall₂_and_left _ _).mpr ⟨hsound,(mapM_eq_ok_iff.mp hfiles).flip⟩
  refine (forall₂_comp hdrafts hbuilt.flip).imp ?_
  rintro source file ⟨draft,hdraft,hsound,hfile⟩
  obtain ⟨statements,hread,horder⟩ := lineOrder_of_build hdraft hfile
  have hnamed := (List.forall₂_and_left _ _).mpr
    ⟨fun m hm => (hsound m (mem_allMessages hm)).names,horder⟩
  have hascend := (List.forall₂_and_left _ _).mpr ⟨lines_ascend_within hread,hnamed.flip⟩
  refine ⟨statements,hread,fits_of_read hread,hascend.flip.imp ?_⟩
  rintro m body ⟨hlines,hnames,listed,hlisted,hm⟩
  exact hlisted.listsFields hlines hnames hm

/-- A member of a oneof and a field behind it, each on its own line. -/
def spreadSource : String := "message A \x7b oneof c \x7b\nint32 a = 1; \x7d\nint32 b = 2; \x7d\n"

/-- A member of a oneof and a field behind it on the same line. -/
def huddledSource : String := "message A \x7b oneof c \x7b int32 a = 1; \x7d int32 b = 2; \x7d\n"

section Source

/-- What both texts say; the fields are on the given lines. -/
def oneofBody (first second : ℕ) : List MessageItem :=
  [.oneof "c" [.member ⟨first,⟨false,⟨"int32",[]⟩⟩,⟨"a","1",[]⟩⟩],
    .field ⟨second,none,⟨false,⟨"int32",[]⟩⟩,⟨"b","2",[]⟩⟩]

def memberField : Field := ⟨"a",1,.oneof,⟨.scalar .int32,none⟩,none,some "c",none⟩

def plainField : Field := ⟨"b",2,.singular,⟨.scalar .int32,none⟩,none,none,none⟩

/-- A file of one message with some fields. -/
def fieldsFile (fields : List Field) : SchemaFile :=
  ⟨"a.proto","",[],[⟨"A","A",fields,[],[],none⟩],[],true⟩

theorem read_spreadSource :
    read spreadSource.toList = .ok [.message 1 "A" (oneofBody 2 3)] := by
  with_unfolding_all rfl

theorem read_huddledSource :
    read huddledSource.toList = .ok [.message 1 "A" (oneofBody 1 1)] := by
  with_unfolding_all rfl

def oneofDraft (fields : List FieldDraft) (text : String) : FileDraft :=
  ⟨"a.proto","",[],[⟨"A",fields,[],[],[],1⟩],[],Text.lines text.toList⟩

theorem draftOf_spreadSource : draftOf "a.proto" spreadSource.toList = .ok (oneofDraft
    [⟨"a",1,"int32",.member "c",2⟩,⟨"b",2,"int32",.singular,3⟩] spreadSource) :=
  draftOf_of_plain none read_spreadSource rfl rfl

theorem draftOf_huddledSource : draftOf "a.proto" huddledSource.toList = .ok (oneofDraft
    [⟨"b",2,"int32",.singular,1⟩,⟨"a",1,"int32",.member "c",1⟩] huddledSource) :=
  draftOf_of_plain none read_huddledSource rfl rfl

theorem parseAll_spreadSource :
    parseAll [("a.proto",spreadSource)] = .ok [fieldsFile [memberField,plainField]] :=
  parseAll_eq_ok_iff.mpr ⟨_,.cons draftOf_spreadSource .nil,rfl,buildAll_of_plain rfl rfl rfl⟩

theorem parseAll_huddledSource :
    parseAll [("a.proto",huddledSource)] = .ok [fieldsFile [plainField,memberField]] :=
  parseAll_eq_ok_iff.mpr ⟨_,.cons draftOf_huddledSource .nil,rfl,buildAll_of_plain rfl rfl rfl⟩

theorem allMessages_fieldsFile (fields : List Field) :
    (fieldsFile fields).allMessages = [⟨"A","A",fields,[],[],none⟩] := by
  simp [fieldsFile,SchemaFile.allMessages,SchemaFile.declarations,Message.declarationsOf,
    Message.declarations,Declaration.message?]

end Source

/-- On lines of their own the fields stay in the order of the text. -/
theorem spreadSource_listed :
    parseAll [("a.proto",spreadSource)] = .ok [fieldsFile [memberField,plainField]] ∧
    (fieldsFile [memberField,plainField]).allMessages.map (fun m => m.fields.map (·.name)) =
      [(declaredIn (oneofBody 2 3)).map (·.name)] := by
  refine ⟨parseAll_spreadSource,?_⟩
  obtain ⟨⟨statements,hread,-,hmessages⟩,-⟩ :=
    List.forall₂_cons.mp (listsFields_of_parseAll parseAll_spreadSource)
  obtain rfl := Except.ok.inj (read_spreadSource.symm.trans hread)
  rw [allMessages_fieldsFile] at hmessages ⊢
  obtain ⟨hlists,-⟩ := List.forall₂_cons.mp hmessages
  rw [List.map_singleton,hlists.textOrder_iff.mpr (by decide)]

/-- On one line the member of the oneof comes behind the field that the text has behind it. -/
theorem huddledSource_swapped : ∃ file body,
    parseAll [("a.proto",huddledSource)] = .ok [file] ∧
    read huddledSource.toList = .ok [.message 1 "A" body] ∧
    file.allMessages.map (fun m => m.fields.map (·.name)) = [["b","a"]] ∧
    (declaredIn body).map (·.name) = ["a","b"] :=
  ⟨_,_,parseAll_huddledSource,read_huddledSource,by rw [allMessages_fieldsFile]; rfl,rfl⟩

end SchemaCodec
