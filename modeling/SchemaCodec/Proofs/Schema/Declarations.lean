import Mathlib
import SchemaCodec.Proofs.Grammar.Reading
import SchemaCodec.Proofs.Schema.Build

/-! # Drafts hold what a text declares

A draft is that of a derivation if each declaration of the derivation is matched by one member of
the draft of the declaration around it: messages, enums and values in their order, fields in some
order. The draft of a text is that of the derivation of its tokens.
-/
namespace SchemaCodec
open Grammar Text

namespace Grammar.Derivation

def children : Derivation → List Derivation
  | leaf _ => []
  | node _ children => children

/-- The children that follow a rule. -/
def under (r : Rule) (d : Derivation) : List Derivation :=
  d.children.filter fun c => c.root = .rule r

def word? : Derivation → Option String
  | leaf (.word w) => some w
  | _ => none

def int? : Derivation → Option String
  | leaf (.int digits) => some digits
  | _ => none

/-- The words among the children. -/
def words (d : Derivation) : List String := d.children.filterMap word?

/-- The whole numbers among the children. -/
def ints (d : Derivation) : List String := d.children.filterMap int?

/-- The spellings of all lexemes below. -/
def text (d : Derivation) : String := String.ofList (d.yield.flatMap fun l => l.spelling.toList)

/-- What a child of a message declares as fields, members of a oneof with the name of the oneof. -/
def fieldsIn (d : Derivation) : List (Option String × Derivation) :=
  match d.root with
  | .rule .field | .rule .mapField => [(none,d)]
  | .rule .oneof => (d.under .oneofField).map fun member => (d.words.head?,member)
  | _ => []

end Grammar.Derivation

open Grammar.Derivation

/-- A declaration gives this name and this number. -/
def Gives (d : Derivation) (name : String) (number : Int) : Prop :=
  d.words = [name] ∧ ∃ digits, d.ints = [digits] ∧ intValue? digits = some number

inductive FieldDraft.IsDraftOf (f : FieldDraft) : Option String × Derivation → Prop
  | field {d : Derivation} (hroot : d.root = .rule .field) (hgives : Gives d f.name f.number)
      (htype : (d.under .typeRef).map text = [f.type])
      (hshape : f.shape =
        if (d.under .label).map text = ["repeated"] then .repeated else .singular) :
      IsDraftOf f (none,d)
  | map {d : Derivation} {key : String} (hroot : d.root = .rule .mapField)
      (hgives : Gives d f.name f.number) (htypes : (d.under .typeRef).map text = [key,f.type])
      (hshape : f.shape = .map key) : IsDraftOf f (none,d)
  | member {d : Derivation} {group : String} (hroot : d.root = .rule .oneofField)
      (hgives : Gives d f.name f.number) (htype : (d.under .typeRef).map text = [f.type])
      (hshape : f.shape = .member group) : IsDraftOf f (some group,d)

/-- A value with its name and its number, negative behind a minus. -/
def ValueDraft.IsDraftOf (v : ValueDraft) (d : Derivation) : Prop :=
  d.words = [v.name] ∧ ∃ digits n, intValue? digits = some n ∧
    (((d.under .signedInt).flatMap yield = [.int digits] ∧ v.number = n) ∨
      ((d.under .signedInt).flatMap yield = [.mark .minus,.int digits] ∧ v.number = -n))

structure EnumDraft.IsDraftOf (e : EnumDraft) (d : Derivation) : Prop where
  name : d.words = [e.name]
  values : List.Forall₂ ValueDraft.IsDraftOf e.values (d.under .enumValue)

inductive MessageDraft.IsDraftOf : MessageDraft → Derivation → Prop
  | intro {m : MessageDraft} {d : Derivation} (hname : d.words = [m.name])
      (fields : List FieldDraft) (hperm : fields.Perm m.fields)
      (hfields : List.Forall₂ FieldDraft.IsDraftOf fields (d.children.flatMap fieldsIn))
      (hmessages : List.Forall₂ MessageDraft.IsDraftOf m.messages (d.under .message))
      (henums : List.Forall₂ EnumDraft.IsDraftOf m.enums (d.under .enum)) : IsDraftOf m d

/-- Each message and each enum of a file stands in its draft, with all that they hold. -/
structure FileDraft.IsDraftOf (f : FileDraft) (d : Derivation) : Prop where
  messages : List.Forall₂ MessageDraft.IsDraftOf f.messages (d.under .message)
  enums : List.Forall₂ EnumDraft.IsDraftOf f.enums (d.under .enum)

/-! ## Drafting

What one step of drafting does, with all that it needs for it. -/

namespace Draft

/-- An item is added to the draft of an enum. -/
inductive AddsItem (draft : EnumDraft) : EnumItem → EnumDraft → Prop
  | value {v : ValueTree} {d : ValueDraft} (hd : ofValue v = some d) :
    AddsItem draft (.value v) { draft with values := draft.values ++ [d] }
  | option {s : Setting} (hs : checkSetting s = some ()) : AddsItem draft (.option s) draft
  | reserved {r : Reserved} {d : ReservedDraft} (hd : ofReserved r = some d) :
    AddsItem draft (.reserved r) { draft with reserved := draft.reserved ++ [d] }
  | empty : AddsItem draft .empty draft

theorem addsItem_of_addEnumItem {draft next : EnumDraft} {i : EnumItem}
    (h : addEnumItem draft i = some next) : AddsItem draft i next := by
  cases i with
  | value v =>
    obtain ⟨d,hd,hn⟩ := Option.bind_eq_some_iff.mp h
    cases hn
    exact .value hd
  | option s =>
    obtain ⟨_,hs,hn⟩ := Option.bind_eq_some_iff.mp h
    cases hn
    exact .option hs
  | reserved r =>
    obtain ⟨d,hd,hn⟩ := Option.bind_eq_some_iff.mp h
    cases hn
    exact .reserved hd
  | empty =>
    cases h
    exact .empty

/-- An item that is no message is put before what a body declares. -/
inductive Body.Prepends (body : Body) : MessageItem → Body → Prop
  | field {f : FieldTree} {d : FieldDraft} (hd : ofField f = some d) :
    Prepends body (.field f) { body with fields := d :: body.fields }
  | map {m : MapTree} {d : FieldDraft} (hd : ofMap m = some d) :
    Prepends body (.map m) { body with fields := d :: body.fields }
  | oneof {name : String} {items : List OneofItem} {drafts : List (List FieldDraft)}
      (hdrafts : items.mapM (membersOf name) = some drafts) :
    Prepends body (.oneof name items) { body with members := drafts.flatten ++ body.members }
  | enum {e : EnumTree} {d : EnumDraft} (hd : ofEnum e = some d) :
    Prepends body (.enum e) { body with enums := d :: body.enums }
  | option {s : Setting} (hs : checkSetting s = some ()) : Prepends body (.option s) body
  | reserved {r : Reserved} {d : ReservedDraft} (hd : ofReserved r = some d) :
    Prepends body (.reserved r) { body with reserved := d :: body.reserved }
  | empty : Prepends body .empty body

theorem Body.Prepends.prepend {body next : Body} {i : MessageItem} (h : body.Prepends i next) :
    body.prepend i = some next := by
  cases h with
  | field h | map h | oneof h | enum h | option h | reserved h => simp [Body.prepend,h]
  | empty => rfl

theorem Body.prepends_of_prepend {body next : Body} {i : MessageItem}
    (hi : ∀ line name items, i ≠ .message line name items) (h : body.prepend i = some next) :
    body.Prepends i next := by
  cases i with
  | field f =>
    obtain ⟨d,hd,hn⟩ := Option.bind_eq_some_iff.mp h
    cases hn
    exact .field hd
  | map m =>
    obtain ⟨d,hd,hn⟩ := Option.bind_eq_some_iff.mp h
    cases hn
    exact .map hd
  | oneof name items =>
    obtain ⟨drafts,hdrafts,hn⟩ := Option.bind_eq_some_iff.mp h
    cases hn
    exact .oneof hdrafts
  | message line name items => exact absurd rfl (hi line name items)
  | enum e =>
    obtain ⟨d,hd,hn⟩ := Option.bind_eq_some_iff.mp h
    cases hn
    exact .enum hd
  | option s =>
    obtain ⟨_,hs,hn⟩ := Option.bind_eq_some_iff.mp h
    cases hn
    exact .option hs
  | reserved r =>
    obtain ⟨d,hd,hn⟩ := Option.bind_eq_some_iff.mp h
    cases hn
    exact .reserved hd
  | empty =>
    cases h
    exact .empty

/-- Items make up a body, from the last to the first. -/
inductive MakesBody : List MessageItem → Body → Prop
  | nil : MakesBody [] {}
  | message {line : ℕ} {name : String} {items rest : List MessageItem} {nested body : Body}
      (hnested : MakesBody items nested) (hrest : MakesBody rest body) :
    MakesBody (.message line name items :: rest)
      { body with messages := nested.toMessage name line :: body.messages }
  | item {i : MessageItem} {rest : List MessageItem} {body next : Body}
      (hrest : MakesBody rest body) (hi : body.Prepends i next) : MakesBody (i :: rest) next

theorem bodyOf_eq_some_iff {items : List MessageItem} {body : Body} :
    bodyOf items = some body ↔ MakesBody items body := by
  constructor
  · intro h
    fun_induction bodyOf items generalizing body with
    | case1 =>
      cases h
      exact .nil
    | case2 line name items rest ihitems ihrest =>
      obtain ⟨nested,hnested,h⟩ := Option.bind_eq_some_iff.mp h
      obtain ⟨others,hothers,h⟩ := Option.bind_eq_some_iff.mp h
      cases h
      exact .message (ihitems hnested) (ihrest hothers)
    | case3 i rest hi ih =>
      obtain ⟨others,hothers,h⟩ := Option.bind_eq_some_iff.mp h
      exact .item (ih hothers) (Body.prepends_of_prepend hi h)
  · intro h
    induction h with
    | nil => rw [bodyOf]
    | message _ _ ihnested ihrest => simp [bodyOf,ihnested,ihrest]
    | item _ hi ih =>
      rw [bodyOf,ih]
      · exact hi.prepend
      · rintro line name items rfl
        cases hi

/-- A statement is added to what a file holds. -/
inductive Contents.Adds (c : Contents) : Statement → Contents → Prop
  | syntaxIs {literal value : String} (hvalue : textValue? literal = some value) :
    Adds c (.syntaxIs literal) { c with syntaxes := c.syntaxes ++ [value] }
  | package {name : Dotted} :
    Adds c (.package name) { c with packages := c.packages ++ [ofDotted name] }
  | imports {modifier : Option ImportModifier} {literal value : String}
      (hvalue : textValue? literal = some value) :
    Adds c (.imports modifier literal) { c with imports := c.imports ++ [value] }
  | option {s : Setting} (hs : checkSetting s = some ()) : Adds c (.option s) c
  | message {line : ℕ} {name : String} {items : List MessageItem} {body : Body}
      (hbody : bodyOf items = some body) :
    Adds c (.message line name items)
      { c with messages := c.messages ++ [body.toMessage name line] }
  | enum {e : EnumTree} {d : EnumDraft} (hd : ofEnum e = some d) :
    Adds c (.enum e) { c with enums := c.enums ++ [d] }
  | empty : Adds c .empty c

theorem Contents.adds_of_add {c next : Contents} {s : Statement} (h : c.add s = some next) :
    c.Adds s next := by
  cases s with
  | syntaxIs literal =>
    obtain ⟨value,hvalue,hn⟩ := Option.bind_eq_some_iff.mp h
    cases hn
    exact .syntaxIs hvalue
  | package name =>
    cases h
    exact .package
  | imports modifier literal =>
    obtain ⟨value,hvalue,hn⟩ := Option.bind_eq_some_iff.mp h
    cases hn
    exact .imports hvalue
  | option s =>
    obtain ⟨_,hs,hn⟩ := Option.bind_eq_some_iff.mp h
    cases hn
    exact .option hs
  | message line name items =>
    obtain ⟨body,hbody,hn⟩ := Option.bind_eq_some_iff.mp h
    cases hn
    exact .message hbody
  | enum e =>
    obtain ⟨d,hd,hn⟩ := Option.bind_eq_some_iff.mp h
    cases hn
    exact .enum hd
  | empty =>
    cases h
    exact .empty

end Draft

/-! ## What the parts of a derivation give -/

section Parts

theorem join_cons (sep : Char) (cs : List Char) (rest : List (List Char)) :
    join [sep] (cs :: rest) = cs ++ rest.flatMap fun ds => sep :: ds := by
  induction rest generalizing cs with
  | nil => simp [join]
  | cons ds rest ih =>
    rw [join,ih ds]
    · simp
    · simp

theorem text_typeRef (r : TypeRef) : r.derivation.text = Draft.ofTypeRef r := by
  obtain ⟨rooted,p⟩ := r
  have hsep : ".".toList = ['.'] := rfl
  have hwords : Draft.ofDotted p = String.ofList ((yields p.children).flatMap fun l =>
      l.spelling.toList) := by
    rw [Draft.ofDotted,joinStrings,Dotted.words,List.map_cons,hsep,join_cons,Dotted.yields_children]
    simp [Lexeme.spelling,List.flatMap_assoc,List.flatMap_map,Mark.spelling]
  cases rooted
  · simp [TypeRef.derivation,text,Draft.ofTypeRef,hwords]
  · simp [TypeRef.derivation,text,Draft.ofTypeRef,hwords,Lexeme.spelling,Mark.spelling]

/-- Settings in brackets give no name, no number and no type. -/
theorem bracketed_gives (settings : List Setting) :
    (bracketed settings).filterMap word? = [] ∧ (bracketed settings).filterMap int? = [] ∧
      ∀ r ≠ .fieldOptions, ((bracketed settings).filter fun c => c.root = .rule r) = [] := by
  cases settings with
  | nil => exact ⟨rfl,rfl,fun _ _ => rfl⟩
  | cons s rest => exact ⟨rfl,rfl,fun r hr => by simp [bracketed,root,Ne.symm hr]⟩

theorem slot_gives (slot : Slot) :
    slot.children.filterMap word? = [slot.name] ∧ slot.children.filterMap int? = [slot.number] ∧
      ∀ r ≠ .fieldOptions, (slot.children.filter fun c => c.root = .rule r) = [] := by
  obtain ⟨hwords,hints,hunder⟩ := bracketed_gives slot.settings
  refine ⟨?_,?_,fun r hr => ?_⟩
  · rw [Slot.children,List.filterMap_append,List.filterMap_append,hwords]
    rfl
  · rw [Slot.children,List.filterMap_append,List.filterMap_append,hints]
    rfl
  · rw [Slot.children,List.filter_append,List.filter_append,hunder r hr]
    rfl

theorem slotNumber_eq_some {slot : Slot} {n : Int} (h : Draft.slotNumber slot = some n) :
    intValue? slot.number = some n := by
  obtain ⟨_,-,hn⟩ := Option.bind_eq_some_iff.mp h
  exact hn

/-- What stands before a slot gives neither name nor number, and the slot gives both. -/
theorem gives_slot {r : Rule} {front : List Derivation} {slot : Slot} {n : Int}
    (hwords : front.filterMap word? = []) (hints : front.filterMap int? = [])
    (hn : Draft.slotNumber slot = some n) :
    Gives (node r (front ++ slot.children)) slot.name n := by
  obtain ⟨hw,hi,-⟩ := slot_gives slot
  refine ⟨?_,slot.number,?_,slotNumber_eq_some hn⟩
  · simp [words,children,List.filterMap_append,hwords,hw]
  · simp [ints,children,List.filterMap_append,hints,hi]

theorem under_slot (r r' : Rule) (front : List Derivation) (slot : Slot)
    (hr : r ≠ .fieldOptions) : (node r' (front ++ slot.children)).under r =
      front.filter fun c => c.root = .rule r := by
  simp [under,children,List.filter_append,(slot_gives slot).2.2 r hr]

theorem isDraftOf_field {f : FieldTree} {draft : FieldDraft} (h : Draft.ofField f = some draft) :
    draft.IsDraftOf (none,f.derivation) := by
  obtain ⟨n,hn,hd⟩ := Option.bind_eq_some_iff.mp h
  cases hd
  obtain ⟨line,label,type,slot⟩ := f
  have hd : (FieldTree.mk line label type slot).derivation = node .field
      (((label.map Label.derivation).toList ++ [type.derivation]) ++ slot.children) := by
    simp [FieldTree.derivation]
  rw [hd]
  refine .field rfl (gives_slot ?_ ?_ hn) ?_ ?_
  · cases label with
    | none => rfl
    | some l => cases l <;> rfl
  · cases label with
    | none => rfl
    | some l => cases l <;> rfl
  · rw [under_slot _ _ _ _ (by decide)]
    rcases label with _ | ⟨_ | _ | _⟩ <;>
      simp [Label.derivation,TypeRef.derivation,root] <;> exact text_typeRef type
  · rw [under_slot _ _ _ _ (by decide)]
    rcases label with _ | ⟨_ | _ | _⟩ <;>
      simp [Label.derivation,TypeRef.derivation,root,text,Lexeme.spelling,Keyword.spelling]

theorem isDraftOf_map {m : MapTree} {draft : FieldDraft} (h : Draft.ofMap m = some draft) :
    draft.IsDraftOf (none,m.derivation) := by
  obtain ⟨n,hn,hd⟩ := Option.bind_eq_some_iff.mp h
  cases hd
  have htypes : m.derivation.under .typeRef = [m.key.derivation,m.value.derivation] := by
    rw [MapTree.derivation,under_slot _ _ _ _ (by decide)]
    rfl
  refine .map rfl (gives_slot rfl rfl hn) ?_ rfl
  rw [htypes,← text_typeRef,← text_typeRef]
  rfl

theorem isDraftOf_member {group : String} {m : MemberTree} {draft : FieldDraft}
    (h : Draft.ofMember group m = some draft) : draft.IsDraftOf (some group,m.derivation) := by
  obtain ⟨n,hn,hd⟩ := Option.bind_eq_some_iff.mp h
  cases hd
  have hd : m.derivation = node .oneofField ([m.type.derivation] ++ m.slot.children) := rfl
  rw [hd]
  refine .member rfl (gives_slot rfl rfl hn) ?_ rfl
  rw [under_slot _ _ _ _ (by decide),← text_typeRef]
  rfl

/-- A value has the number of its slot, negative behind a minus. -/
theorem ofValue_eq (v : ValueTree) : Draft.ofValue v = (Draft.slotNumber v.slot).map fun n =>
    ⟨v.slot.name,if v.negative then -n else n,v.line⟩ := by
  rw [Draft.ofValue,Draft.slotNumber]
  cases Draft.checkSlot v.slot with
  | none => rfl
  | some _ => cases hn : intValue? v.slot.number <;> cases v.negative <;> simp [signedValue?,hn]

theorem isDraftOf_value {v : ValueTree} {draft : ValueDraft} (h : Draft.ofValue v = some draft) :
    draft.IsDraftOf v.derivation := by
  obtain ⟨n,hn,hd⟩ := Option.map_eq_some_iff.mp (ofValue_eq v ▸ h)
  cases hd
  obtain ⟨hwords,-,hunder⟩ := bracketed_gives v.slot.settings
  refine ⟨?_,v.slot.number,n,slotNumber_eq_some hn,?_⟩
  · rw [words,ValueTree.derivation,children,List.filterMap_append,List.filterMap_append,hwords]
    rfl
  · rw [under,ValueTree.derivation,children,List.filter_append,List.filter_append,
      hunder _ (by decide)]
    cases hv : v.negative
    · exact .inl ⟨rfl,rfl⟩
    · exact .inr ⟨rfl,rfl⟩

/-- A step of drafting an enum keeps what is drafted and adds what the item declares. -/
theorem addEnumItem_eq_some {draft next : EnumDraft} {i : EnumItem}
    (h : Draft.addEnumItem draft i = some next) : next.name = draft.name ∧
      ∃ values, next.values = draft.values ++ values ∧ List.Forall₂ ValueDraft.IsDraftOf values
        ([i.derivation].filter fun c => c.root = .rule .enumValue) := by
  cases Draft.addsItem_of_addEnumItem h with
  | value hv => exact ⟨rfl,[_],rfl,.cons (isDraftOf_value hv) .nil⟩
  | option | reserved | empty => exact ⟨rfl,[],(List.append_nil _).symm,.nil⟩

theorem foldlM_addEnumItem {items : List EnumItem} {draft last : EnumDraft}
    (h : items.foldlM Draft.addEnumItem draft = some last) : last.name = draft.name ∧
      ∃ values, last.values = draft.values ++ values ∧ List.Forall₂ ValueDraft.IsDraftOf values
        ((items.map EnumItem.derivation).filter fun c => c.root = .rule .enumValue) := by
  rw [foldlM_eq_some_iff] at h
  induction h with
  | nil => exact ⟨rfl,[],(List.append_nil _).symm,.nil⟩
  | cons hnext _ ih =>
    obtain ⟨hname,values,hvalues,hfirst⟩ := addEnumItem_eq_some hnext
    obtain ⟨hname',more,hmore,hrest⟩ := ih
    refine ⟨hname'.trans hname,values ++ more,by rw [hmore,hvalues,List.append_assoc],?_⟩
    rw [List.map_cons,← List.singleton_append,List.filter_append]
    exact List.rel_append hfirst hrest

/-- What a block holds is in its body. -/
theorem block_under (r : Rule) (k : Keyword) (name : String) (body : List Derivation) (r' : Rule) :
    (block r k name body).under r' = body.filter fun c => c.root = .rule r' := by
  rw [under,block,children,List.filter_append,List.filter_append]
  exact List.append_nil _

theorem block_words (r : Rule) (k : Keyword) (name : String) {body : List Derivation}
    (h : ∀ d ∈ body, d.word? = none) : (block r k name body).words = [name] := by
  rw [words,block,children,List.filterMap_append,List.filterMap_append,
    List.filterMap_eq_nil_iff.mpr h]
  rfl

theorem block_fieldsIn (r : Rule) (k : Keyword) (name : String) (body : List Derivation) :
    (block r k name body).children.flatMap fieldsIn = body.flatMap fieldsIn := by
  rw [block,children,List.flatMap_append,List.flatMap_append]
  exact List.append_nil _

theorem isDraftOf_enum {e : EnumTree} {draft : EnumDraft} (h : Draft.ofEnum e = some draft) :
    draft.IsDraftOf e.derivation := by
  obtain ⟨hname,values,hvalues,hrel⟩ := foldlM_addEnumItem h
  constructor
  · rw [hname]
    refine block_words _ _ _ fun d hd => ?_
    obtain ⟨i,-,rfl⟩ := List.mem_map.mp hd
    cases i <;> rfl
  · rw [EnumTree.derivation,block_under,hvalues]
    exact hrel

/-- The members of a oneof, each with its group. -/
theorem isDraftOf_members {group : String} {items : List OneofItem}
    {drafts : List (List FieldDraft)} (h : items.mapM (Draft.membersOf group) = some drafts) :
    List.Forall₂ FieldDraft.IsDraftOf drafts.flatten
      (((items.map OneofItem.derivation).filter fun c => c.root = .rule .oneofField).map
        fun d => (some group,d)) := by
  rw [mapM_eq_some_iff] at h
  induction h with
  | nil => exact .nil
  | @cons i members _ _ hi _ ih =>
    rw [List.flatten_cons,List.map_cons,← List.singleton_append,List.filter_append,List.map_append]
    refine List.rel_append ?_ ih
    cases i with
    | member m =>
      obtain ⟨d,hd,rfl⟩ := Option.map_eq_some_iff.mp hi
      exact .cons (isDraftOf_member hd) .nil
    | option s =>
      obtain ⟨_,-,rfl⟩ := Option.map_eq_some_iff.mp hi
      exact .nil
    | empty =>
      cases hi
      exact .nil

theorem OneofItem.word?_derivation (i : OneofItem) : i.derivation.word? = none := by
  cases i <;> rfl

/-- What the items of a message declare, as a draft of their derivations. -/
structure IsBodyOf (body : Draft.Body) (ds : List Derivation) : Prop where
  fields : ∃ fields : List FieldDraft, fields.Perm (body.fields ++ body.members) ∧
    List.Forall₂ FieldDraft.IsDraftOf fields (ds.flatMap fieldsIn)
  messages : List.Forall₂ MessageDraft.IsDraftOf body.messages
    (ds.filter fun c => c.root = .rule .message)
  enums : List.Forall₂ EnumDraft.IsDraftOf body.enums (ds.filter fun c => c.root = .rule .enum)

theorem MessageItem.word?_derivation (i : MessageItem) : i.derivation.word? = none := by
  cases i <;> rfl

theorem isDraftOf_message {items : List MessageItem} {body : Draft.Body} (line : Nat)
    (name : String) (h : IsBodyOf body (items.map MessageItem.derivation)) :
    (body.toMessage name line).IsDraftOf (MessageItem.message line name items).derivation := by
  obtain ⟨fields,hperm,hfields⟩ := h.fields
  rw [MessageItem.derivation,MessageItem.derivations_eq_map]
  refine .intro ?_ fields (hperm.trans (List.mergeSort_perm _ _).symm) ?_ ?_ ?_
  · refine block_words _ _ _ fun d hd => ?_
    obtain ⟨i,-,rfl⟩ := List.mem_map.mp hd
    exact MessageItem.word?_derivation i
  · rw [block_fieldsIn]
    exact hfields
  · rw [block_under]
    exact h.messages
  · rw [block_under]
    exact h.enums

/-- An item that is no message adds to the body what it declares. -/
theorem IsBodyOf.prepends {body next : Draft.Body} {ds : List Derivation} {i : MessageItem}
    (h : IsBodyOf body ds) (hi : body.Prepends i next) : IsBodyOf next (i.derivation :: ds) := by
  obtain ⟨fields,hperm,hfields⟩ := h.fields
  cases hi with
  | field hd =>
    exact ⟨⟨_ :: fields,hperm.cons _,.cons (isDraftOf_field hd) hfields⟩,h.messages,h.enums⟩
  | map hd =>
    exact ⟨⟨_ :: fields,hperm.cons _,.cons (isDraftOf_map hd) hfields⟩,h.messages,h.enums⟩
  | @oneof name items members hm =>
    refine ⟨⟨members.flatten ++ fields,?_,?_⟩,h.messages,h.enums⟩
    · refine (hperm.append_left _).trans ?_
      rw [← List.append_assoc,← List.append_assoc]
      exact List.perm_append_comm.append_right _
    · have hwords : (MessageItem.oneof name items).derivation.words = [name] :=
        block_words _ _ _ (by simp [OneofItem.word?_derivation])
      have hunder := block_under .oneof .oneofKw name (items.map OneofItem.derivation) .oneofField
      have hhead : (MessageItem.oneof name items).derivation.fieldsIn =
          ((items.map OneofItem.derivation).filter fun c => c.root = .rule .oneofField).map
            fun d => (some name,d) := by
        rw [← hunder,← List.head?_cons (a := name) (l := []),← hwords]
        rfl
      rw [List.flatMap_cons,hhead]
      exact List.rel_append (isDraftOf_members hm) hfields
  | enum hd => exact ⟨⟨fields,hperm,hfields⟩,h.messages,.cons (isDraftOf_enum hd) h.enums⟩
  | option | reserved | empty => exact ⟨⟨fields,hperm,hfields⟩,h.messages,h.enums⟩

theorem isBodyOf_bodyOf {items : List MessageItem} {body : Draft.Body}
    (h : Draft.bodyOf items = some body) : IsBodyOf body (items.map MessageItem.derivation) := by
  rw [Draft.bodyOf_eq_some_iff] at h
  induction h with
  | nil => exact ⟨⟨[],.refl _,.nil⟩,.nil,.nil⟩
  | message _ _ ihitems ihrest =>
    exact ⟨ihrest.fields,.cons (isDraftOf_message _ _ ihitems) ihrest.messages,ihrest.enums⟩
  | item _ hi ih => exact ih.prepends hi

/-- A statement adds to what is declared the message or the enum that it is. -/
theorem add_eq_some {c next : Draft.Contents} {s : Statement} (h : c.add s = some next) :
    (∃ messages, next.messages = c.messages ++ messages ∧
      List.Forall₂ MessageDraft.IsDraftOf messages
        ([s.derivation].filter fun d => d.root = .rule .message)) ∧
    ∃ enums, next.enums = c.enums ++ enums ∧
      List.Forall₂ EnumDraft.IsDraftOf enums
        ([s.derivation].filter fun d => d.root = .rule .enum) := by
  have hsame (c : Draft.Contents) : c.messages = c.messages ++ [] ∧ c.enums = c.enums ++ [] := by
    simp
  cases Draft.Contents.adds_of_add h with
  | @message line name items body hbody =>
    have hmessage := isDraftOf_message line name (isBodyOf_bodyOf hbody)
    rw [← derivation_message] at hmessage
    exact ⟨⟨[_],rfl,.cons hmessage .nil⟩,[],(hsame _).2,.nil⟩
  | enum hd => exact ⟨⟨[],(hsame _).1,.nil⟩,[_],rfl,.cons (isDraftOf_enum hd) .nil⟩
  | syntaxIs | package | imports | option | empty =>
    exact ⟨⟨[],(hsame _).1,.nil⟩,[],(hsame _).2,.nil⟩

theorem foldlM_add {statements : List Statement} {c last : Draft.Contents}
    (h : statements.foldlM Draft.Contents.add c = some last) :
    (∃ messages, last.messages = c.messages ++ messages ∧
      List.Forall₂ MessageDraft.IsDraftOf messages
        ((fileDerivation statements).under .message)) ∧
    ∃ enums, last.enums = c.enums ++ enums ∧
      List.Forall₂ EnumDraft.IsDraftOf enums ((fileDerivation statements).under .enum) := by
  have hunder (r : Rule) (s : Statement) (rest : List Statement) :
      (fileDerivation (s :: rest)).under r =
        ([s.derivation].filter fun d => d.root = .rule r) ++ (fileDerivation rest).under r := by
    rw [under,fileDerivation,children,List.map_cons,← List.singleton_append,List.filter_append]
    rfl
  rw [foldlM_eq_some_iff] at h
  induction h with
  | nil => exact ⟨⟨[],(List.append_nil _).symm,.nil⟩,[],(List.append_nil _).symm,.nil⟩
  | cons hnext _ ih =>
    obtain ⟨⟨messages,hmessages,hm⟩,enums,henums,he⟩ := add_eq_some hnext
    obtain ⟨⟨messages',hmessages',hm'⟩,enums',henums',he'⟩ := ih
    rw [hunder,hunder]
    exact ⟨⟨messages ++ messages',by rw [hmessages',hmessages,List.append_assoc],
      List.rel_append hm hm'⟩,enums ++ enums',by rw [henums',henums,List.append_assoc],
      List.rel_append he he'⟩

/-- The draft of a text is that of the derivation of its statements. -/
theorem isDraftOf_draftOf {path : String} {text : List Char} {draft : FileDraft}
    (h : draftOf path text = .ok draft) :
    ∃ statements, read text = .ok statements ∧ draft.IsDraftOf (fileDerivation statements) := by
  obtain ⟨statements,hread,h⟩ := draftOf_eq_ok h
  obtain ⟨c,package,hc,-,rfl⟩ := ofStatements_eq_ok h
  obtain ⟨⟨messages,hmessages,hm⟩,enums,henums,he⟩ := foldlM_add hc
  refine ⟨statements,hread,?_,?_⟩
  · rw [show c.messages = messages from hmessages]
    exact hm
  · rw [show c.enums = enums from henums]
    exact he

end Parts

/-- Reading accepts what the grammar derives. A text that is read is made of lexemes that have a
derivation and of what is ignored between them. Lexemes that have a derivation are read from their
text with single spaces as those lexemes and that derivation. A draft holds what the derivation of
its text declares, and there is only one. -/
theorem reading_accepts_grammar :
    (∀ text statements, read text = .ok statements → Woven text (lexemes text) ∧
      (∀ l ∈ lexemes text, l.Spelled) ∧ Derives (fileDerivation statements) (lexemes text)) ∧
    (∀ ls d, Derives d ls → (∀ l ∈ ls, l.Spelled ∧ l.Distinct) → lexemes (spaced ls) = ls ∧
      ∃ statements, read (spaced ls) = .ok statements ∧ d = fileDerivation statements) ∧
    ∀ path text draft, draftOf path text = .ok draft → ∃ d, Derives d (lexemes text) ∧
      (∀ d', Derives d' (lexemes text) → d' = d) ∧ draft.IsDraftOf d := by
  refine ⟨fun text statements => derives_of_read,fun ls d => read_spaced,
    fun path text draft h => ?_⟩
  obtain ⟨statements,hread,hdraft⟩ := isDraftOf_draftOf h
  exact ⟨_,(derives_of_read hread).2.2,fun d' => derivation_unique hread,hdraft⟩

def pairText : List Char := "message A \x7boneof g\x7bB b=1;\x7d\x7denum B\x7bZ=0;\x7d".toList

def pairStatements : List Statement :=
  [.message 1 "A" [.oneof "g" [.member ⟨1,⟨false,⟨"B",[]⟩⟩,⟨"b","1",[]⟩⟩]],
    .enum ⟨1,"B",[.value ⟨1,false,⟨"Z","0",[]⟩⟩]⟩]

theorem read_pairText : read pairText = .ok pairStatements := by
  with_unfolding_all rfl

def pairLexemes : List Lexeme :=
  [.keyword .messageKw,.word "A",.mark .openBrace,.keyword .oneofKw,.word "g",.mark .openBrace,
    .word "B",.word "b",.mark .equals,.int "1",.mark .semicolon,.mark .closeBrace,.mark .closeBrace,
    .keyword .enumKw,.word "B",.mark .openBrace,.word "Z",.mark .equals,.int "0",.mark .semicolon,
    .mark .closeBrace]

def pairDraft : FileDraft :=
  ⟨"pair","",[],[⟨"A",[⟨"b",1,"B",.member "g",1⟩],[],[],[],1⟩],[⟨"B",[⟨"Z",0,1⟩],[],1⟩],
    [pairText]⟩

theorem draftOf_pairText : draftOf "pair" pairText = .ok pairDraft :=
  draftOf_of_plain none read_pairText rfl rfl

/-- A message with a oneof and an enum are read from their text and from its spaced lexemes. -/
theorem pairText_accepted :
    read pairText = .ok pairStatements ∧ draftOf "pair" pairText = .ok pairDraft ∧
      Woven pairText pairLexemes ∧ lexemes (spaced pairLexemes) = pairLexemes ∧
      ∃ d, Derives d pairLexemes ∧ pairDraft.IsDraftOf d := by
  obtain ⟨hsound,hcomplete,hdrafts⟩ := reading_accepts_grammar
  obtain ⟨hwoven,hspelled,hderives⟩ := hsound _ _ read_pairText
  have hlexemes : lexemes pairText = pairLexemes := hderives.yield.symm.trans (by cbv)
  rw [hlexemes] at hwoven hspelled hderives
  have hdistinct : ∀ l ∈ pairLexemes, l.Distinct := by decide
  obtain ⟨hback,-⟩ := hcomplete _ _ hderives fun l hl => ⟨hspelled l hl,hdistinct l hl⟩
  obtain ⟨d,hd,-,hdraft⟩ := hdrafts _ _ _ draftOf_pairText
  rw [hlexemes] at hd
  exact ⟨read_pairText,draftOf_pairText,hwoven,hback,d,hd,hdraft⟩

end SchemaCodec
