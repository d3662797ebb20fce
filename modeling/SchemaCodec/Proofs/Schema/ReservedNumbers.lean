import SchemaCodec.Proofs.Schema.FieldOrder

/-! # Reserved numbers

A text is refused if one of its messages or enums uses a number or a name that it reserves itself. A
range up to `max` ends at the largest field number. For messages it is without end, as no field has a
larger number. The numbers of enum values are not bounded, and those behind the largest field number
stay free.
-/
namespace SchemaCodec
open Grammar

namespace Grammar

def OneofItem.slots : OneofItem → List Slot
  | member m => [m.slot]
  | _ => []

/-- The fields that an item of a message adds to it. -/
def MessageItem.slots : MessageItem → List Slot
  | field f => [f.slot]
  | map m => [m.slot]
  | oneof _ items => items.flatMap OneofItem.slots
  | _ => []

def MessageItem.reserved? : MessageItem → Option Reserved
  | reserved r => some r
  | _ => none

def MessageItem.enum? : MessageItem → Option EnumTree
  | enum e => some e
  | _ => none

def EnumItem.value? : EnumItem → Option ValueTree
  | value v => some v
  | _ => none

def EnumItem.reserved? : EnumItem → Option Reserved
  | reserved r => some r
  | _ => none

def EnumTree.values (e : EnumTree) : List ValueTree := e.items.filterMap EnumItem.value?

def EnumTree.reserved (e : EnumTree) : List Reserved := e.items.filterMap EnumItem.reserved?

/-- The enums that a statement declares, at every depth. -/
def Statement.enums : Statement → List EnumTree
  | enum e => [e]
  | s => s.bodies.flatMap (List.filterMap MessageItem.enum?)

def ValueTree.number? (v : ValueTree) : Option ℤ :=
  (intValue? v.slot.number).map fun n => if v.negative then -n else n

/-- Some reserved statement holds a range from a number to `max`. -/
def ReservesFrom (statements : List Reserved) (first : ℤ) : Prop :=
  ∃ ranges, .ranges ranges ∈ statements ∧
    ∃ spelling, ⟨spelling,some .max⟩ ∈ ranges ∧ intValue? spelling = some first

/-- No field of a message has a number that is too large or is covered by what the message reserves.
-/
def BodyFree (body : List MessageItem) : Prop :=
  ∀ slot ∈ body.flatMap MessageItem.slots, ∀ n, intValue? slot.number = some n →
    n ≤ maxFieldNumber ∧ ∀ r ∈ body.filterMap MessageItem.reserved?, ¬ r.Covers slot.name n

/-- No value of an enum is covered by what the enum reserves. -/
def EnumTree.Free (e : EnumTree) : Prop :=
  ∀ v ∈ e.values, ∀ n, v.number? = some n → ∀ r ∈ e.reserved, ¬ r.Covers v.slot.name n

end Grammar

/-! ## Enums -/

section Enums

theorem number_ofValue {v : ValueTree} {d : ValueDraft} (h : Draft.ofValue v = some d) :
    d.name = v.slot.name ∧ v.number? = some d.number := by
  obtain ⟨n,hn,hd⟩ := Option.map_eq_some_iff.mp (ofValue_eq v ▸ h)
  cases hd
  exact ⟨rfl,by rw [ValueTree.number?,slotNumber_eq_some hn]; rfl⟩

/-- A draft with values and reserved statements in the order of the items behind what it had. -/
structure EnumDraft.Extends (draft last : EnumDraft) (items : List EnumItem) : Prop where
  values : ∃ values, last.values = draft.values ++ values ∧ List.Forall₂
    (fun v d => Draft.ofValue v = some d) (items.filterMap EnumItem.value?) values
  reserved : ∃ reserved, last.reserved = draft.reserved ++ reserved ∧ List.Forall₂
    (fun r d => Draft.ofReserved r = some d) (items.filterMap EnumItem.reserved?) reserved

theorem extends_addEnumItem {draft next : EnumDraft} {i : EnumItem}
    (h : Draft.addEnumItem draft i = some next) : draft.Extends next [i] := by
  cases Draft.addsItem_of_addEnumItem h with
  | value hd => exact ⟨⟨[_],rfl,.cons hd .nil⟩,[],(List.append_nil _).symm,.nil⟩
  | reserved hd => exact ⟨⟨[],(List.append_nil _).symm,.nil⟩,[_],rfl,.cons hd .nil⟩
  | option | empty =>
    exact ⟨⟨[],(List.append_nil _).symm,.nil⟩,[],(List.append_nil _).symm,.nil⟩

theorem EnumDraft.Extends.trans {first next last : EnumDraft} {items more : List EnumItem}
    (h : first.Extends next items) (hmore : next.Extends last more) :
    first.Extends last (items ++ more) := by
  obtain ⟨⟨values,hvalues,hv⟩,reserved,hreserved,hr⟩ := h
  obtain ⟨⟨values',hvalues',hv'⟩,reserved',hreserved',hr'⟩ := hmore
  refine ⟨⟨values ++ values',by rw [hvalues',hvalues,List.append_assoc],?_⟩,
    reserved ++ reserved',by rw [hreserved',hreserved,List.append_assoc],?_⟩
  · rw [List.filterMap_append]
    exact List.rel_append hv hv'
  · rw [List.filterMap_append]
    exact List.rel_append hr hr'

theorem extends_foldlM {items : List EnumItem} {draft last : EnumDraft}
    (h : items.foldlM Draft.addEnumItem draft = some last) : draft.Extends last items := by
  rw [foldlM_eq_some_iff] at h
  induction h with
  | nil => exact ⟨⟨[],(List.append_nil _).symm,.nil⟩,[],(List.append_nil _).symm,.nil⟩
  | cons hnext _ ih => exact (extends_addEnumItem hnext).trans ih

/-- An enum keeps its rule exactly if its text is free of what it reserves. -/
theorem acceptable_ofEnum_iff {e : EnumTree} {draft : EnumDraft} (h : Draft.ofEnum e = some draft) :
    draft.Acceptable ↔ e.Free := by
  obtain ⟨⟨values,hvalues,hv⟩,reserved,hreserved,hr⟩ := extends_foldlM h
  rw [List.nil_append] at hvalues hreserved
  rw [EnumDraft.Acceptable,hvalues,hreserved]
  constructor
  · intro hfree v hvalue n hn r hmem hcovers
    obtain ⟨d,hd,hof⟩ := exists_of_mem_left hv hvalue
    obtain ⟨s,hs,hofs⟩ := exists_of_mem_left hr hmem
    obtain ⟨hname,hnumber⟩ := number_ofValue hof
    obtain rfl := Option.some.inj (hnumber.symm.trans hn)
    rw [← hname,← covers_ofReserved_iff hofs,hfree d hd s hs] at hcovers
    cases hcovers
  · intro hfree d hd s hs
    obtain ⟨v,hvalue,hof⟩ := exists_of_mem_right hv hd
    obtain ⟨r,hmem,hofs⟩ := exists_of_mem_right hr hs
    obtain ⟨hname,hnumber⟩ := number_ofValue hof
    rw [Bool.eq_false_iff,ne_eq,covers_ofReserved_iff hofs,hname]
    exact hfree v hvalue _ hnumber r hmem

end Enums

/-! ## Messages -/

namespace Draft

/-- All that a body holds is in the other one. -/
structure Body.Within (body other : Body) : Prop where
  fields : body.fields ⊆ other.fields
  members : body.members ⊆ other.members
  enums : body.enums ⊆ other.enums
  reserved : body.reserved ⊆ other.reserved

/-- A body holds what an item declares, messages apart. -/
def Body.Holds (body : Body) : MessageItem → Prop
  | .field f => ∃ d ∈ body.fields, ofField f = some d
  | .map m => ∃ d ∈ body.fields, ofMap m = some d
  | .oneof name items => ∀ m, .member m ∈ items → ∃ d ∈ body.members, ofMember name m = some d
  | .enum e => ∃ d ∈ body.enums, ofEnum e = some d
  | .reserved r => ∃ d ∈ body.reserved, ofReserved r = some d
  | .message _ _ _ | .option _ | .empty => True

theorem Body.Holds.mono {body other : Body} {i : MessageItem} (h : body.Holds i)
    (hw : body.Within other) : other.Holds i := by
  cases i with
  | field f => exact h.imp fun d => .imp_left (@hw.fields d)
  | map m => exact h.imp fun d => .imp_left (@hw.fields d)
  | oneof name items => exact fun m hm => (h m hm).imp fun d => .imp_left (@hw.members d)
  | enum e => exact h.imp fun d => .imp_left (@hw.enums d)
  | reserved r => exact h.imp fun d => .imp_left (@hw.reserved d)
  | message | option | empty => trivial

theorem member_of_mapM {group : String} {items : List OneofItem} {drafts : List (List FieldDraft)}
    (h : items.mapM (membersOf group) = some drafts) {m : MemberTree} (hm : .member m ∈ items) :
    ∃ d ∈ drafts.flatten, ofMember group m = some d := by
  obtain ⟨ds,hds,hof⟩ := exists_of_mem_left (mapM_eq_some_iff.mp h) hm
  obtain ⟨d,hd,rfl⟩ := Option.map_eq_some_iff.mp hof
  exact ⟨d,List.mem_flatten.mpr ⟨_,hds,List.mem_singleton_self d⟩,hd⟩

theorem Body.Prepends.holds {body next : Body} {i : MessageItem} (h : body.Prepends i next) :
    next.Holds i ∧ body.Within next ∧ next.messages = body.messages := by
  have hsame : body.Within body := ⟨fun _ => id,fun _ => id,fun _ => id,fun _ => id⟩
  cases h with
  | field hd | map hd =>
    exact ⟨⟨_,List.mem_cons_self,hd⟩,{ hsame with fields := List.subset_cons_self _ _ },rfl⟩
  | oneof hdrafts =>
    refine ⟨fun m hm => ?_,{ hsame with members := List.subset_append_right _ _ },rfl⟩
    obtain ⟨d,hd,hof⟩ := member_of_mapM hdrafts hm
    exact ⟨d,List.mem_append_left _ hd,hof⟩
  | enum hd => exact ⟨⟨_,List.mem_cons_self,hd⟩,{ hsame with enums := List.subset_cons_self _ _ },rfl⟩
  | reserved hd =>
    exact ⟨⟨_,List.mem_cons_self,hd⟩,{ hsame with reserved := List.subset_cons_self _ _ },rfl⟩
  | option | empty => exact ⟨trivial,hsame,rfl⟩

theorem holds_bodyOf {items : List MessageItem} {body : Body} (h : bodyOf items = some body) :
    ∀ i ∈ items, body.Holds i := by
  rw [bodyOf_eq_some_iff] at h
  induction h with
  | nil => simp
  | message _ _ _ ih =>
    refine List.forall_mem_cons.mpr ⟨trivial,fun i hi => (ih i hi).mono ?_⟩
    exact ⟨fun _ => id,fun _ => id,fun _ => id,fun _ => id⟩
  | item _ hi ih =>
    obtain ⟨hself,hwithin,-⟩ := hi.holds
    exact List.forall_mem_cons.mpr ⟨hself,fun j hj => (ih j hj).mono hwithin⟩

end Draft

/-- A message is drafted from the items of its body. -/
def MessageDraft.IsOf (m : MessageDraft) (items : List MessageItem) : Prop :=
  ∃ body name line, Draft.bodyOf items = some body ∧ m = body.toMessage name line

/-- Each body below some items is that of a message in their draft. -/
theorem exists_message_of_body {items : List MessageItem} {body : Draft.Body}
    (h : Draft.bodyOf items = some body) (scope : String) : ∀ below ∈ bodiesWithin items,
      ∃ p ∈ messagesWithin scope body.messages, p.2.IsOf below := by
  rw [Draft.bodyOf_eq_some_iff] at h
  induction h generalizing scope with
  | nil => simp [bodiesWithin]
  | @message line name items rest nested others hnested _ ihitems ihrest =>
    rw [bodiesWithin,MessageItem.bodies,Draft.Body.toMessage,messagesWithin]
    intro below hbelow
    rcases List.mem_append.mp hbelow with hbelow | hbelow
    · rcases List.mem_cons.mp hbelow with rfl | hbelow
      · exact ⟨_,List.mem_append_left _ List.mem_cons_self,nested,name,line,
          Draft.bodyOf_eq_some_iff.mpr hnested,rfl⟩
      · obtain ⟨p,hp,hof⟩ := ihitems (qualify scope name) below hbelow
        exact ⟨p,List.mem_append_left _ (List.mem_cons_of_mem _ hp),hof⟩
    · obtain ⟨p,hp,hof⟩ := ihrest scope below hbelow
      exact ⟨p,List.mem_append_right _ hp,hof⟩
  | item _ hi ih =>
    rw [hi.bodiesWithin,hi.holds.2.2]
    exact ih scope

theorem exists_field_of_slot {body : Draft.Body} {i : MessageItem} (h : body.Holds i) {slot : Slot}
    (hslot : slot ∈ i.slots) : ∃ f ∈ body.fields ++ body.members,
      f.name = slot.name ∧ intValue? slot.number = some f.number := by
  cases i with
  | field f =>
    obtain ⟨d,hd,hof⟩ := h
    obtain ⟨n,hn,hof⟩ := Option.bind_eq_some_iff.mp hof
    cases hof
    rw [List.mem_singleton.mp hslot]
    exact ⟨_,List.mem_append_left _ hd,rfl,slotNumber_eq_some hn⟩
  | map m =>
    obtain ⟨d,hd,hof⟩ := h
    obtain ⟨n,hn,hof⟩ := Option.bind_eq_some_iff.mp hof
    cases hof
    rw [List.mem_singleton.mp hslot]
    exact ⟨_,List.mem_append_left _ hd,rfl,slotNumber_eq_some hn⟩
  | oneof name items =>
    obtain ⟨item,hitem,hslot⟩ := List.mem_flatMap.mp hslot
    cases item with
    | member m =>
      obtain ⟨d,hd,hof⟩ := h m hitem
      obtain ⟨n,hn,hof⟩ := Option.bind_eq_some_iff.mp hof
      cases hof
      rw [List.mem_singleton.mp hslot]
      exact ⟨_,List.mem_append_right _ hd,rfl,slotNumber_eq_some hn⟩
    | option | empty => simp [OneofItem.slots] at hslot
  | message | enum | option | reserved | empty => simp [MessageItem.slots] at hslot

section IsOf
variable {m : MessageDraft} {items : List MessageItem} (h : m.IsOf items)
include h

/-- The fields of a message that keeps the rules are free of what its text reserves. -/
theorem MessageDraft.IsOf.bodyFree {names : List String} {full : String}
    (hm : m.Acceptable names full) : BodyFree items := by
  obtain ⟨body,name,line,hbody,rfl⟩ := h
  have hholds := Draft.holds_bodyOf hbody
  intro slot hslot n hn
  obtain ⟨i,hi,hslot⟩ := List.mem_flatMap.mp hslot
  obtain ⟨f,hf,hname,hnumber⟩ := exists_field_of_slot (hholds i hi) hslot
  obtain rfl := Option.some.inj (hnumber.symm.trans hn)
  have hadmissible := hm.admissible f (List.mem_mergeSort.mpr hf)
  refine ⟨hadmissible.le_max,fun r hr hcovers => ?_⟩
  obtain ⟨j,hj,hr⟩ := List.mem_filterMap.mp hr
  cases j with
  | reserved s =>
    cases hr
    obtain ⟨d,hd,hof⟩ := hholds _ hj
    rw [← hname,← covers_ofReserved_iff hof,hadmissible.not_reserved d hd] at hcovers
    cases hcovers
  | _ => cases hr

/-- The enums that a message has in its text are among its enums. -/
theorem MessageDraft.IsOf.exists_enum : ∀ e ∈ items.filterMap MessageItem.enum?,
    ∃ d ∈ m.enums, Draft.ofEnum e = some d := by
  obtain ⟨body,name,line,hbody,rfl⟩ := h
  intro e he
  obtain ⟨i,hi,he⟩ := List.mem_filterMap.mp he
  cases i with
  | enum e =>
    cases he
    exact Draft.holds_bodyOf hbody _ hi
  | _ => cases he

end IsOf

/-! ## Files -/

namespace Draft

/-- What a file has so far holds the message or the enum that a statement is. -/
def Contents.Holds (c : Contents) : Statement → Prop
  | .message line name items =>
    ∃ body, bodyOf items = some body ∧ body.toMessage name line ∈ c.messages
  | .enum e => ∃ d ∈ c.enums, ofEnum e = some d
  | _ => True

theorem holds_add {c next : Contents} {s : Statement} (h : c.add s = some next) :
    next.Holds s ∧ c.messages ⊆ next.messages ∧ c.enums ⊆ next.enums := by
  cases Contents.adds_of_add h with
  | message hbody =>
    exact ⟨⟨_,hbody,List.mem_concat_self⟩,List.subset_append_left _ _,fun _ => id⟩
  | enum hd => exact ⟨⟨_,List.mem_concat_self,hd⟩,fun _ => id,List.subset_append_left _ _⟩
  | syntaxIs | package | imports | option | empty => exact ⟨trivial,fun _ => id,fun _ => id⟩

theorem holds_foldlM {statements : List Statement} {c last : Contents}
    (h : statements.foldlM Contents.add c = some last) :
    (∀ s ∈ statements, last.Holds s) ∧ c.messages ⊆ last.messages ∧ c.enums ⊆ last.enums := by
  rw [foldlM_eq_some_iff] at h
  induction h with
  | nil => exact ⟨by simp,fun _ => id,fun _ => id⟩
  | @cons c next last s rest hnext _ ih =>
    obtain ⟨hself,hmessages,henums⟩ := holds_add hnext
    obtain ⟨hrest,hmessages',henums'⟩ := ih
    refine ⟨List.forall_mem_cons.mpr ⟨?_,hrest⟩,
      List.Subset.trans hmessages hmessages',List.Subset.trans henums henums'⟩
    cases s with
    | message line name items => exact hself.imp fun body => .imp_right (@hmessages' _)
    | enum e => exact hself.imp fun d => .imp_left (@henums' d)
    | _ => trivial

end Draft

theorem mem_messagesWithin (scope : String) {drafts : List MessageDraft} {m : MessageDraft}
    (h : m ∈ drafts) : (qualify scope m.name,m) ∈ messagesWithin scope drafts ∧
      messagesWithin (qualify scope m.name) m.messages ⊆ messagesWithin scope drafts := by
  obtain ⟨before,after,rfl⟩ := List.append_of_mem h
  obtain ⟨name,fields,nested,enums,reserved,line⟩ := m
  rw [messagesWithin_append,messagesWithin]
  refine ⟨List.mem_append_right _ (List.mem_append_left _ List.mem_cons_self),fun p hp => ?_⟩
  exact List.mem_append_right _ (List.mem_append_left _ (List.mem_cons_of_mem _ hp))

section Text
variable {path : String} {text : List Char} {draft : FileDraft} {statements : List Statement}
  (hdraft : draftOf path text = .ok draft) (hread : read text = .ok statements)
include hdraft hread

/-- Each message of a text, at every depth, is drafted. -/
theorem exists_message_of_mem_bodies : ∀ items ∈ statements.flatMap Statement.bodies,
    ∃ p ∈ draft.allMessages, p.2.IsOf items := by
  obtain ⟨found,hfound,hdraft⟩ := draftOf_eq_ok hdraft
  obtain rfl := Except.ok.inj (hfound.symm.trans hread)
  obtain ⟨c,package,hc,-,rfl⟩ := ofStatements_eq_ok hdraft
  intro items hitems
  obtain ⟨s,hs,hitems⟩ := List.mem_flatMap.mp hitems
  cases s with
  | message line name body =>
    obtain ⟨drafted,hbody,hm⟩ := (Draft.holds_foldlM hc).1 _ hs
    obtain ⟨hself,hnested⟩ := mem_messagesWithin package hm
    rcases List.mem_cons.mp hitems with rfl | hitems
    · exact ⟨_,hself,drafted,name,line,hbody,rfl⟩
    · obtain ⟨p,hp,hof⟩ := exists_message_of_body hbody (qualify package name) items hitems
      exact ⟨p,hnested hp,hof⟩
  | _ => simp [Statement.bodies] at hitems

/-- Each enum of a text, at every depth, is drafted. -/
theorem exists_enum_of_mem_enums : ∀ e ∈ statements.flatMap Statement.enums,
    ∃ p ∈ draft.allEnums, Draft.ofEnum e = some p.2 := by
  have hmessages := exists_message_of_mem_bodies hdraft hread
  obtain ⟨found,hfound,hdraft⟩ := draftOf_eq_ok hdraft
  obtain rfl := Except.ok.inj (hfound.symm.trans hread)
  intro e he
  obtain ⟨s,hs,he⟩ := List.mem_flatMap.mp he
  have hnested (hin : e ∈ s.bodies.flatMap (List.filterMap MessageItem.enum?)) :
      ∃ p ∈ draft.allEnums, Draft.ofEnum e = some p.2 := by
    obtain ⟨items,hitems,he⟩ := List.mem_flatMap.mp hin
    obtain ⟨p,hp,hof⟩ := hmessages items (List.mem_flatMap.mpr ⟨s,hs,hitems⟩)
    obtain ⟨d,hd,hof⟩ := hof.exists_enum e he
    exact ⟨(d.fullName p.1,d),List.mem_append_right _
      (List.mem_flatMap.mpr ⟨p,hp,List.mem_map.mpr ⟨d,hd,rfl⟩⟩),hof⟩
  cases s with
  | enum e' =>
    obtain ⟨c,package,hc,-,rfl⟩ := ofStatements_eq_ok hdraft
    obtain ⟨d,hd,hof⟩ := (Draft.holds_foldlM hc).1 _ hs
    rw [List.mem_singleton.mp he]
    exact ⟨(d.fullName package,d),List.mem_append_left _ (List.mem_map.mpr ⟨d,hd,rfl⟩),hof⟩
  | _ => exact hnested he

end Text

/-- The messages and enums of an accepted text, at every depth, use nothing that they reserve. -/
theorem free_of_parseAll {sources : List (String × String)} {files : List SchemaFile}
    (h : parseAll sources = .ok files) {source : String × String} (hsource : source ∈ sources)
    {statements : List Statement} (hread : read source.2.toList = .ok statements) :
    (∀ items ∈ statements.flatMap Statement.bodies, BodyFree items) ∧
      ∀ e ∈ statements.flatMap Statement.enums, e.Free := by
  obtain ⟨drafts,hdrafts,-⟩ := parseAll_eq_ok_iff.mp h
  have haccepted := (exists_parseAll_iff (mapM_eq_ok_iff.mpr hdrafts)).mp ⟨files,h⟩
  obtain ⟨draft,hmem,hdraft⟩ := exists_of_mem_left hdrafts hsource
  constructor
  · intro items hitems
    obtain ⟨p,hp,hof⟩ := exists_message_of_mem_bodies hdraft hread items hitems
    exact hof.bodyFree (haccepted.messages draft hmem p hp)
  · intro e he
    obtain ⟨p,hp,hof⟩ := exists_enum_of_mem_enums hdraft hread e he
    exact (acceptable_ofEnum_iff hof).mp (haccepted.enums draft hmem p hp)

/-- A text of a single enum is accepted exactly if its literals have values and the enum is free of
what it reserves. -/
theorem exists_parseAll_enum_iff {path text : String} {e : EnumTree}
    (hread : read text.toList = .ok [.enum e]) : (∃ files, parseAll [(path,text)] = .ok files) ↔
      (∃ draft, draftOf path text.toList = .ok draft) ∧ e.Free := by
  constructor
  · rintro ⟨files,h⟩
    obtain ⟨drafts,hdrafts,-⟩ := parseAll_eq_ok_iff.mp h
    obtain ⟨draft,-,hdraft⟩ := exists_of_mem_left hdrafts (List.mem_singleton_self _)
    refine ⟨⟨draft,hdraft⟩,?_⟩
    exact (free_of_parseAll h (List.mem_singleton_self _) hread).2 e (by simp [Statement.enums])
  · rintro ⟨⟨draft,hdraft⟩,hfree⟩
    refine (exists_parseAll_iff (mapM_eq_ok_iff.mpr (.cons hdraft .nil))).mpr ?_
    obtain ⟨found,hfound,hdraft⟩ := draftOf_eq_ok hdraft
    obtain rfl := Except.ok.inj (hfound.symm.trans hread)
    obtain ⟨c,package,hc,-,rfl⟩ := ofStatements_eq_ok hdraft
    obtain ⟨⟩ | ⟨hnext,⟨⟩⟩ := foldlM_eq_some_iff.mp hc
    cases Draft.Contents.adds_of_add hnext with
    | enum hd =>
      refine ⟨by simp,?_,?_,?_⟩
      · simp [FileDraft.fullNames,FileDraft.allMessages,FileDraft.allEnums,messagesWithin,
          enumsWithin]
      · simp [FileDraft.allMessages,messagesWithin]
      · rw [List.forall_mem_singleton,FileDraft.forall_mem_allEnums]
        exact ⟨by simpa using (acceptable_ofEnum_iff hd).mpr hfree,
          by simp [FileDraft.allMessages,messagesWithin]⟩

section ReservesFrom
variable {statements : List Reserved} {first : ℤ} (h : ReservesFrom statements first)
include h

/-- A range up to `max` covers the numbers from its first to the largest field number. -/
theorem Grammar.ReservesFrom.covers {n : ℤ} (hfirst : first ≤ n) (hn : n ≤ maxFieldNumber)
    (name : String) : ∃ r ∈ statements, r.Covers name n := by
  obtain ⟨ranges,hr,spelling,hmem,hvalue⟩ := h
  exact ⟨_,hr,_,hmem,first,maxFieldNumber,hvalue,hfirst,hn,rfl⟩

end ReservesFrom

/-- An enum that reserves one range up to `max` and nothing else is free of it exactly if its numbers
are below the range or behind the largest field number. -/
theorem free_iff_of_range {e : EnumTree} {spelling : String} {first : ℤ}
    (hreserved : e.reserved = [.ranges [⟨spelling,some .max⟩]])
    (hfirst : intValue? spelling = some first) :
    e.Free ↔ ∀ v ∈ e.values, ∀ n, v.number? = some n → n < first ∨ maxFieldNumber < n := by
  have hcovers (name : String) (n : ℤ) : Reserved.Covers name n (.ranges [⟨spelling,some .max⟩]) ↔
      first ≤ n ∧ n ≤ maxFieldNumber := by
    simp [Reserved.Covers,Range.Holds,hfirst,maxFieldNumber]
  simp only [EnumTree.Free,hreserved,List.forall_mem_singleton,hcovers,not_and_or,not_le]

/-- A text with a message that reserves the numbers from one on and gives one of these to a field is
refused, whichever message of the text it is and whatever is read with it. So is a text with an enum
that reserves the numbers from one on and gives one of these to a value, if the number is not larger
than the largest field number. With larger numbers enums are accepted: a text of a single enum that
reserves nothing else is accepted, if its literals have values, exactly if all its numbers are below
the range or larger than the largest field number. -/
theorem range_to_max_refused {sources : List (String × String)} {path text : String}
    (hsource : (path,text) ∈ sources) {statements : List Statement}
    (hread : read text.toList = .ok statements) :
    (∀ items ∈ statements.flatMap Statement.bodies, ∀ first,
      ReservesFrom (items.filterMap MessageItem.reserved?) first →
      ∀ slot ∈ items.flatMap MessageItem.slots, ∀ n, intValue? slot.number = some n →
        first ≤ n → ∃ cause, parseAll sources = .error cause) ∧
    (∀ e ∈ statements.flatMap Statement.enums, ∀ first, ReservesFrom e.reserved first →
      ∀ v ∈ e.values, ∀ n, v.number? = some n → first ≤ n → n ≤ 536870911 →
        ∃ cause, parseAll sources = .error cause) ∧
    ∀ e spelling first, statements = [.enum e] →
      e.reserved = [.ranges [⟨spelling,some .max⟩]] → intValue? spelling = some first →
      ((∃ files, parseAll [(path,text)] = .ok files) ↔
        (∃ draft, draftOf path text.toList = .ok draft) ∧
        ∀ v ∈ e.values, ∀ n, v.number? = some n → n < first ∨ 536870911 < n) := by
  have hrefused {p : Prop} (hp : ¬ p) (hok : ∀ files, parseAll sources = .ok files → p) :
      ∃ cause, parseAll sources = .error cause := by
    cases hresult : parseAll sources with
    | error cause => exact ⟨cause,rfl⟩
    | ok files => exact absurd (hok files hresult) hp
  refine ⟨fun items hitems first hfrom slot hslot n hn hfirst => ?_,
    fun e he first hfrom v hv n hn hfirst hle => ?_,?_⟩
  · refine hrefused (p := BodyFree items) (fun hfree => ?_) fun files h =>
      (free_of_parseAll h hsource hread).1 items hitems
    obtain ⟨hle,hnone⟩ := hfree slot hslot n hn
    obtain ⟨r,hr,hcovers⟩ := hfrom.covers hfirst hle slot.name
    exact hnone r hr hcovers
  · refine hrefused (p := e.Free) (fun hfree => ?_) fun files h =>
      (free_of_parseAll h hsource hread).2 e he
    obtain ⟨r,hr,hcovers⟩ := hfrom.covers hfirst hle v.slot.name
    exact hfree v hv n hn r hr hcovers
  · rintro e spelling first rfl hreserved hfirst
    rw [exists_parseAll_enum_iff hread,free_iff_of_range hreserved hfirst]
    rfl

section Source

def hoardSource : String :=
  "message A \x7breserved 5 to max; enum E \x7breserved 7 to max; S = 8;\x7d int32 a = 6;\x7d"

def hoardEnum : EnumTree :=
  ⟨1,"E",[.reserved (.ranges [⟨"7",some .max⟩]),.value ⟨1,false,⟨"S","8",[]⟩⟩]⟩

def hoardBody : List MessageItem :=
  [.reserved (.ranges [⟨"5",some .max⟩]),.enum hoardEnum,
    .field ⟨1,none,⟨false,⟨"int32",[]⟩⟩,⟨"a","6",[]⟩⟩]

theorem read_hoardSource : read hoardSource.toList = .ok [.message 1 "A" hoardBody] := by
  with_unfolding_all rfl

def farSource : String := "enum E \x7breserved 5 to max; A = 536870912;\x7d"

def farEnum : EnumTree :=
  ⟨1,"E",[.reserved (.ranges [⟨"5",some .max⟩]),.value ⟨1,false,⟨"A","536870912",[]⟩⟩]⟩

theorem read_farSource : read farSource.toList = .ok [.enum farEnum] := by
  with_unfolding_all rfl

def farDraft : FileDraft :=
  ⟨"far.proto","",[],[],[⟨"E",[⟨"A",536870912,1⟩],[⟨[(5,536870911)],[]⟩],1⟩],
    Text.lines farSource.toList⟩

theorem draftOf_farSource : draftOf "far.proto" farSource.toList = .ok farDraft :=
  draftOf_of_plain none read_farSource rfl rfl

end Source

/-- Both the message and the enum in it are a reason to refuse the first text; the second one is
accepted with a number that is larger than any that it may reserve. -/
theorem hoardSource_refused :
    (∃ cause, parseAll [("hoard.proto",hoardSource)] = .error cause) ∧
    (∃ cause, parseAll [("far.proto",farSource),("hoard.proto",hoardSource)] = .error cause) ∧
    ∃ files, parseAll [("far.proto",farSource)] = .ok files := by
  refine ⟨?_,?_,?_⟩
  · obtain ⟨hmessages,-,-⟩ :=
      range_to_max_refused (List.mem_singleton_self ("hoard.proto",hoardSource)) read_hoardSource
    exact hmessages hoardBody (by simp [Statement.bodies]) 5
      ⟨_,List.mem_singleton_self _,"5",by decide,by decide⟩ ⟨"a","6",[]⟩ (by decide) 6 (by decide)
      (by decide)
  · have hsource : ("hoard.proto",hoardSource) ∈ [("far.proto",farSource),
        ("hoard.proto",hoardSource)] := List.mem_cons_of_mem _ (List.mem_singleton_self _)
    obtain ⟨-,henums,-⟩ := range_to_max_refused hsource read_hoardSource
    exact henums hoardEnum (by decide) 7 ⟨_,List.mem_singleton_self _,"7",by decide,by decide⟩
      ⟨1,false,⟨"S","8",[]⟩⟩ (by decide) 8 (by decide) (by decide) (by decide)
  · obtain ⟨-,-,hsingle⟩ :=
      range_to_max_refused (List.mem_singleton_self ("far.proto",farSource)) read_farSource
    refine (hsingle farEnum "5" 5 rfl rfl (by decide)).mpr ⟨⟨_,draftOf_farSource⟩,?_⟩
    decide

/-- An accepted enum has a value among the numbers that it reserves. -/
theorem farSource_accepted : (∃ files, parseAll [("far.proto",farSource)] = .ok files) ∧
    read farSource.toList = .ok [.enum farEnum] ∧ ReservesFrom farEnum.reserved 5 ∧
    ∃ v ∈ farEnum.values, v.number? = some 536870912 :=
  ⟨⟨_,parseAll_eq_ok_iff.mpr ⟨_,.cons draftOf_farSource .nil,rfl,buildAll_of_plain rfl rfl rfl⟩⟩,
    read_farSource,⟨_,List.mem_singleton_self _,"5",by decide,by decide⟩,_,
    List.mem_singleton_self _,by decide⟩

end SchemaCodec
