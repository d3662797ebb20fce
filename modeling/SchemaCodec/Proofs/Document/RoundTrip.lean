import Mathlib
import SchemaCodec.Document.Read
import SchemaCodec.Proofs.Distinct
import SchemaCodec.Proofs.Json.ReadPrint
import SchemaCodec.Proofs.Outcome

/-! # Documents carry schema files

The document of a schema file is in its form already, so settling it changes nothing, and every part
is read from where it was written. Messages are settled and read with a bound on their nesting, which
the depth of the document is. There is a document exactly if every integer in the file can be
written, and the integers in the document are those in the file.
-/
namespace SchemaCodec

theorem FieldType.ofName?_name (t : FieldType) : FieldType.ofName? t.name = some t := by
  cases t with
  | scalar t => cases t <;> decide
  | enum => decide
  | message => decide

/-- What holds of a message if it holds of those nested in it holds of all messages. -/
theorem Message.nested_induction {P : Message → Prop}
    (h : ∀ m : Message, (∀ c ∈ m.messages, P c) → P m) (m : Message) : P m :=
  @Message.rec P (fun ms => ∀ m ∈ ms, P m)
    (fun name fullName fields messages enums comment ih =>
      h ⟨name,fullName,fields,messages,enums,comment⟩ ih)
    (by simp) (fun _ _ hm hrest => List.forall_mem_cons.mpr ⟨hm,hrest⟩) m

/-- The integers in a declaration, without those nested in it. -/
def Declaration.numbers : Declaration → List ℤ
  | .enum decl => decl.values.map (·.number)
  | .message decl => decl.fields.map (·.number)

def Message.numbers (m : Message) : List ℤ := m.declarations.flatMap Declaration.numbers

/-- The numbers of the fields and enum values of a file, at any depth. -/
def SchemaFile.numbers (f : SchemaFile) : List ℤ := f.declarations.flatMap Declaration.numbers

namespace Document
open Json Text

theorem ofMessages_eq_map (ms : List Message) : ofMessages ms = ms.map ofMessage := by
  induction ms with
  | nil => rfl
  | cons m rest ih => rw [ofMessages,ih,List.map_cons]

/-! ## Texts -/

section Whole

theorem isWhole_ofOption (s : Option String) : IsWhole (ofOption s) := by
  cases s with
  | none => exact .null
  | some s => exact .string s

theorem isWhole_map {α : Type} {f : α → Json} {l : List α} (h : ∀ a ∈ l, IsWhole (f a)) :
    IsWhole (.array (l.map f)) :=
  .array (List.forall_mem_map.mpr h)

theorem isWhole_ofValueType (v : ValueType) : IsWhole (ofValueType v) := by
  refine .object (by simp) ?_
  simp [isWhole_ofOption,IsWhole.string]

theorem isWhole_ofField (f : Field) : IsWhole (ofField f) := by
  have hkey : IsWhole ((f.key.map ofValueType).getD .null) := by
    cases f.key with
    | none => exact .null
    | some k => exact isWhole_ofValueType k
  refine .object (by simp) ?_
  simp [isWhole_ofOption,isWhole_ofValueType,hkey,IsWhole.string,IsWhole.int]

theorem isWhole_ofEnumValue (v : EnumValue) : IsWhole (ofEnumValue v) := by
  refine .object (by simp) ?_
  simp [isWhole_ofOption,IsWhole.string,IsWhole.int]

theorem isWhole_ofEnum (e : EnumDecl) : IsWhole (ofEnum e) := by
  have hvalues := isWhole_map (l := e.values) fun v _ => isWhole_ofEnumValue v
  refine .object (by simp) ?_
  simp [isWhole_ofOption,hvalues,IsWhole.string]

theorem isWhole_ofMessage (m : Message) : IsWhole (ofMessage m) := by
  induction m using Message.nested_induction with
  | h m ih =>
    have hfields := isWhole_map (l := m.fields) fun f _ => isWhole_ofField f
    have hmessages := isWhole_map ih
    have henums := isWhole_map (l := m.enums) fun e _ => isWhole_ofEnum e
    obtain ⟨name,fullName,fields,messages,enums,comment⟩ := m
    rw [ofMessage,ofMessages_eq_map]
    refine .object (by simp) ?_
    simp [isWhole_ofOption,hfields,hmessages,henums,IsWhole.string]

theorem isWhole_ofFile (f : SchemaFile) : IsWhole (ofFile f) := by
  have hdependencies := isWhole_map (l := f.dependencies) fun s _ => IsWhole.string s
  have hmessages := isWhole_map (l := f.messages) fun m _ => isWhole_ofMessage m
  have henums := isWhole_map (l := f.enums) fun e _ => isWhole_ofEnum e
  rw [ofFile,membersOf,ofMessages_eq_map]
  refine .object (by simp) ?_
  simp [hdependencies,hmessages,henums,IsWhole.string,IsWhole.bool]

end Whole

section Integers

theorem integers_ofValueType (v : ValueType) : (ofValueType v).integers = [] := by
  simp [ofValueType]

theorem integers_ofField (f : Field) : (ofField f).integers = [f.number] := by
  have hkey : ((f.key.map ofValueType).getD .null).integers = [] := by
    cases f.key with
    | none => exact integers_null
    | some k => exact integers_ofValueType k
  simp [ofField,integers_ofValueType,hkey]

theorem integers_ofEnum (e : EnumDecl) :
    (ofEnum e).integers = (Declaration.enum e).numbers := by
  have hvalue (v : EnumValue) : (ofEnumValue v).integers = [v.number] := by simp [ofEnumValue]
  simp [ofEnum,Declaration.numbers,List.flatMap_map,hvalue,← List.map_eq_flatMap]

/-- The document of a message has the integers of the message and of all that is nested in it. -/
theorem mem_integers_ofMessage (n : ℤ) (m : Message) :
    n ∈ (ofMessage m).integers ↔ n ∈ m.numbers := by
  induction m using Message.nested_induction with
  | h m ih =>
    have hnested : (∃ c ∈ m.messages, n ∈ (ofMessage c).integers) ↔
        ∃ c ∈ m.messages, n ∈ c.numbers :=
      exists_congr fun c => and_congr_right fun hc => ih c hc
    obtain ⟨name,fullName,fields,messages,enums,comment⟩ := m
    have hdocument : (ofMessage ⟨name,fullName,fields,messages,enums,comment⟩).integers =
        fields.map (·.number) ++ (messages.flatMap fun c => (ofMessage c).integers) ++
          enums.flatMap fun e => (Declaration.enum e).numbers := by
      rw [ofMessage,ofMessages_eq_map]
      simp [List.flatMap_map,integers_ofField,integers_ofEnum,← List.map_eq_flatMap]
    have hnumbers : (Message.mk name fullName fields messages enums comment).numbers =
        fields.map (·.number) ++ (enums.flatMap fun e => (Declaration.enum e).numbers) ++
          messages.flatMap Message.numbers := by
      rw [Message.numbers,Message.declarations,Message.declarationsOf_eq_flatMap]
      simp only [List.flatMap_append,List.flatMap_cons,List.flatMap_map,List.flatMap_assoc]
      rfl
    rw [hdocument,hnumbers]
    simp only [List.mem_append,List.mem_flatMap,hnested]
    exact or_right_comm

theorem mem_integers_ofFile (n : ℤ) (f : SchemaFile) :
    n ∈ (ofFile f).integers ↔ n ∈ f.numbers := by
  have hnested : (∃ m ∈ f.messages, n ∈ (ofMessage m).integers) ↔ ∃ m ∈ f.messages, n ∈ m.numbers :=
    exists_congr fun m => and_congr_right fun _ => mem_integers_ofMessage n m
  have hdocument : (ofFile f).integers = (f.messages.flatMap fun m => (ofMessage m).integers) ++
      f.enums.flatMap fun e => (Declaration.enum e).numbers := by
    rw [ofFile,membersOf,ofMessages_eq_map]
    simp [List.flatMap_map,integers_ofEnum]
  have hnumbers : f.numbers = (f.enums.flatMap fun e => (Declaration.enum e).numbers) ++
      f.messages.flatMap Message.numbers := by
    rw [SchemaFile.numbers,SchemaFile.declarations,Message.declarationsOf_eq_flatMap]
    simp only [List.flatMap_append,List.flatMap_map,List.flatMap_assoc]
    rfl
  rw [hdocument,hnumbers]
  simp only [List.mem_append,List.mem_flatMap,hnested]
  exact or_comm

end Integers

/-! ## Forms -/

section Settled

/-- An object whose members are its parts in order, each in its form, is in its form. -/
theorem settleObject_self {parts : List Part} {ms : List (String × Json)}
    (hn : (ms.map (·.1)).Nodup)
    (h : List.Forall₂ (fun p m => p.name = m.1 ∧ orNull p.settle m.2 = .ok m.2) parts ms) :
    settleObject parts (.object ms) = .ok (.object ms) := by
  have hparts : List.Forall₂ (fun p m => settlePart ms p = .ok m) parts ms := by
    -- the members are looked up in the whole object
    have hall (rest : List (String × Json)) (hsub : ∀ m ∈ rest, m ∈ ms) {parts : List Part}
        (h : List.Forall₂ (fun p m => p.name = m.1 ∧ orNull p.settle m.2 = .ok m.2) parts rest) :
        List.Forall₂ (fun p m => settlePart ms p = .ok m) parts rest := by
      induction h with
      | nil => exact .nil
      | cons hpm _ ih =>
        obtain ⟨hm,hrest⟩ := List.forall_mem_cons.mp hsub
        refine .cons ?_ (ih hrest)
        rw [settlePart,hpm.1,member?,lookup_of_mem hn hm]
        simp only [hpm.2]
        rfl
    exact hall ms (fun _ hm => hm) h
  rw [settleObject,mapM_eq_ok_iff.mpr hparts]
  rfl

theorem settleList_self {item : Settle} {l : List Json} (h : ∀ j ∈ l, item j = .ok j) :
    orNull (settleList item) (.array l) = .ok (.array l) := by
  have hitems : l.mapM item = .ok l := mapM_eq_ok_iff.mpr (List.forall₂_same.mpr h)
  change settleList item (.array l) = _
  simp only [settleList,itemsOf,bind,Except.bind,hitems]

theorem settleList_map {α : Type} {item : Settle} {f : α → Json} {l : List α}
    (h : ∀ a ∈ l, item (f a) = .ok (f a)) :
    orNull (settleList item) (.array (l.map f)) = .ok (.array (l.map f)) :=
  settleList_self (List.forall_mem_map.mpr h)

theorem settleText_string (s : String) : orNull settleText (.string s) = .ok (.string s) := rfl

theorem settleNumber_int (n : Int) : orNull settleNumber (.int n) = .ok (.int n) := rfl

theorem settleFlag_bool (b : Bool) : orNull settleFlag (.bool b) = .ok (.bool b) := rfl

theorem settleText_ofOption (s : Option String) :
    orNull settleText (ofOption s) = .ok (ofOption s) := by
  cases s <;> rfl

theorem settleWord_name {α : Type} {ofName? : String → Option α} {s : String} {a : α}
    (h : ofName? s = some a) : orNull (settleWord ofName?) (.string s) = .ok (.string s) := by
  simp [orNull,settleWord,h]

end Settled

/-! ## Reading -/

section Settled

theorem settle_ofValueType (v : ValueType) :
    settleObject valueTypeParts (ofValueType v) = .ok (ofValueType v) := by
  refine settleObject_self (by simp) ?_
  exact .cons ⟨rfl,settleWord_name (FieldType.ofName?_name v.type)⟩
    (.cons ⟨rfl,settleText_ofOption v.typeName⟩ .nil)

theorem settle_ofField (f : Field) : settleObject fieldParts (ofField f) = .ok (ofField f) := by
  have hkey : orNull (settleObject valueTypeParts) ((f.key.map ofValueType).getD .null) =
      .ok ((f.key.map ofValueType).getD .null) := by
    cases f.key with
    | none => rfl
    | some k => exact settle_ofValueType k
  refine settleObject_self (by simp) ?_
  exact .cons ⟨rfl,settleText_string f.name⟩ (.cons ⟨rfl,settleNumber_int f.number⟩
    (.cons ⟨rfl,settleWord_name (Cardinality.ofName?_name f.cardinality)⟩
    (.cons ⟨rfl,settle_ofValueType f.value⟩ (.cons ⟨rfl,hkey⟩
    (.cons ⟨rfl,settleText_ofOption f.oneof⟩ (.cons ⟨rfl,settleText_ofOption f.comment⟩ .nil))))))

theorem settle_ofEnumValue (v : EnumValue) :
    settleObject enumValueParts (ofEnumValue v) = .ok (ofEnumValue v) := by
  refine settleObject_self (by simp) ?_
  exact .cons ⟨rfl,settleText_string v.name⟩ (.cons ⟨rfl,settleNumber_int v.number⟩
    (.cons ⟨rfl,settleText_ofOption v.comment⟩ .nil))

theorem settle_ofEnum (e : EnumDecl) : settleObject enumParts (ofEnum e) = .ok (ofEnum e) := by
  refine settleObject_self (by simp) ?_
  exact .cons ⟨rfl,settleText_string e.name⟩ (.cons ⟨rfl,settleText_string e.fullName⟩
    (.cons ⟨rfl,settleList_map fun v _ => settle_ofEnumValue v⟩
    (.cons ⟨rfl,settleText_ofOption e.comment⟩ .nil)))

theorem depth_le_depthOfItems {l : List Json} {j : Json} (hj : j ∈ l) :
    depth j ≤ depthOfItems l := by
  induction l with
  | nil => simp at hj
  | cons first rest ih =>
    rw [depthOfItems]
    rcases List.mem_cons.mp hj with rfl | hj
    · exact Nat.le_max_left _ _
    · exact (ih hj).trans (Nat.le_max_right _ _)

theorem depth_le_depthOfMembers {ms : List (String × Json)} {m : String × Json} (hm : m ∈ ms) :
    depth m.2 ≤ depthOfMembers ms := by
  induction ms with
  | nil => simp at hm
  | cons first rest ih =>
    rw [depthOfMembers]
    rcases List.mem_cons.mp hm with rfl | hm
    · exact Nat.le_max_left _ _
    · exact (ih hm).trans (Nat.le_max_right _ _)

/-- An item of a list that an object has as a member is nested less deep than the object. -/
theorem depth_lt_of_member {ms : List (String × Json)} (name : String) {l : List Json}
    (hm : (name,array l) ∈ ms) {j : Json} (hj : j ∈ l) : depth j < depth (object ms) := by
  have hitem := depth_le_depthOfItems hj
  have hmember := depth_le_depthOfMembers hm
  have harray : depth (array l) = depthOfItems l + 1 := by rw [depth]
  have hobject : depth (object ms) = depthOfMembers ms + 1 := by rw [depth]
  rw [hobject]
  rw [harray] at hmember
  omega

theorem depth_lt_of_nested {m c : Message} (hc : c ∈ m.messages) :
    depth (ofMessage c) < depth (ofMessage m) := by
  obtain ⟨name,fullName,fields,messages,enums,comment⟩ := m
  rw [ofMessage,ofMessages_eq_map]
  exact depth_lt_of_member "messages" (by simp) (List.mem_map_of_mem hc)

theorem depth_lt_of_messages {f : SchemaFile} {m : Message} (hm : m ∈ f.messages) :
    depth (ofMessage m) < depth (ofFile f) := by
  rw [ofFile,membersOf,ofMessages_eq_map]
  exact depth_lt_of_member "messages" (by simp) (List.mem_map_of_mem hm)

theorem orNull_ofMessage (settle : Settle) (m : Message) :
    orNull settle (ofMessage m) = settle (ofMessage m) := by
  obtain ⟨name,fullName,fields,messages,enums,comment⟩ := m
  rw [ofMessage]
  rfl

/-- A message is in its form with any bound that its nesting is below. -/
theorem settleMessage_ofMessage (m : Message) {bound : ℕ} (h : depth (ofMessage m) < bound) :
    settleMessage bound (ofMessage m) = .ok (ofMessage m) := by
  induction m using Message.nested_induction generalizing bound with
  | h m ih =>
    obtain ⟨bound,rfl⟩ := Nat.exists_eq_succ_of_ne_zero (Nat.ne_zero_of_lt h)
    have hnested (c : Message) (hc : c ∈ m.messages) :
        settleMessage bound (ofMessage c) = .ok (ofMessage c) :=
      ih c hc ((depth_lt_of_nested hc).trans_le (Nat.le_of_lt_succ h))
    obtain ⟨name,fullName,fields,messages,enums,comment⟩ := m
    rw [ofMessage,ofMessages_eq_map,settleMessage]
    refine settleObject_self (by simp) ?_
    exact .cons ⟨rfl,settleText_string name⟩ (.cons ⟨rfl,settleText_string fullName⟩
      (.cons ⟨rfl,settleList_map fun f _ => settle_ofField f⟩
      (.cons ⟨rfl,settleList_map fun c hc => (orNull_ofMessage _ c).trans (hnested c hc)⟩
      (.cons ⟨rfl,settleList_map fun e _ => settle_ofEnum e⟩
      (.cons ⟨rfl,settleText_ofOption comment⟩ .nil)))))

theorem settleFile_ofFile (f : SchemaFile) : settleFile (ofFile f) = .ok (ofFile f) := by
  have hmessage (m : Message) (hm : m ∈ f.messages) :
      settleMessage (depth (ofFile f) + 1) (ofMessage m) = .ok (ofMessage m) :=
    settleMessage_ofMessage m (Nat.lt_succ_of_lt (depth_lt_of_messages hm))
  rw [settleFile]
  generalize depth (ofFile f) = bound at hmessage
  rw [ofFile,membersOf,ofMessages_eq_map]
  refine settleObject_self (by simp) ?_
  exact .cons ⟨rfl,settleText_string f.path⟩ (.cons ⟨rfl,settleText_string f.package⟩
    (.cons ⟨rfl,settleList_map fun _ _ => rfl⟩
    (.cons ⟨rfl,settleList_map fun m hm => (orNull_ofMessage _ m).trans (hmessage m hm)⟩
    (.cons ⟨rfl,settleList_map fun e _ => settle_ofEnum e⟩
    (.cons ⟨rfl,settleFlag_bool f.generate⟩ .nil)))))

end Settled

section Reading

theorem word_name {α : Type} {ofName? : String → Option α} {s : String} {a : α}
    (h : ofName? s = some a) : word ofName? (.string s) = .ok a := by
  simp [word,text,h,bind,Except.bind]

theorem optional_ofOption (s : Option String) : optional text (ofOption s) = .ok s := by
  cases s <;> rfl

theorem mapM_map {α : Type} {read : Json → Except DocumentError α} {f : α → Json} {l : List α}
    (h : ∀ a ∈ l, read (f a) = .ok a) : (l.map f).mapM read = .ok l :=
  mapM_eq_ok_iff.mpr (List.forall₂_map_left_iff.mpr (List.forall₂_same.mpr h))

theorem readValueType_ofValueType (v : ValueType) : readValueType (ofValueType v) = .ok v := by
  simp [readValueType,ofValueType,members,member,member?,List.lookup,
    word_name (FieldType.ofName?_name v.type),optional_ofOption,bind,Except.bind]

theorem readField_ofField (f : Field) : readField (ofField f) = .ok f := by
  have hkey : optional readValueType ((f.key.map ofValueType).getD .null) = .ok f.key := by
    cases f.key with
    | none => rfl
    | some k =>
      change (readValueType (ofValueType k)).map some = _
      rw [readValueType_ofValueType]
      rfl
  simp [readField,ofField,members,member,member?,List.lookup,text,number,hkey,
    word_name (Cardinality.ofName?_name f.cardinality),readValueType_ofValueType,optional_ofOption,
    bind,Except.bind]

theorem readEnumValue_ofEnumValue (v : EnumValue) : readEnumValue (ofEnumValue v) = .ok v := by
  simp [readEnumValue,ofEnumValue,members,member,member?,List.lookup,text,number,optional_ofOption,
    bind,Except.bind]

theorem readEnum_ofEnum (e : EnumDecl) : readEnum (ofEnum e) = .ok e := by
  have hvalues := mapM_map (l := e.values) fun v _ => readEnumValue_ofEnumValue v
  simp [readEnum,ofEnum,members,member,member?,List.lookup,text,items,hvalues,optional_ofOption,
    bind,Except.bind]

/-- A message is read with any bound that its nesting is below. -/
theorem readMessage_ofMessage (m : Message) {bound : ℕ} (h : depth (ofMessage m) < bound) :
    readMessage bound (ofMessage m) = .ok m := by
  induction m using Message.nested_induction generalizing bound with
  | h m ih =>
    obtain ⟨bound,rfl⟩ := Nat.exists_eq_succ_of_ne_zero (Nat.ne_zero_of_lt h)
    have hfields := mapM_map (l := m.fields) fun f _ => readField_ofField f
    have hmessages := mapM_map (l := m.messages) fun c hc =>
      ih c hc ((depth_lt_of_nested hc).trans_le (Nat.le_of_lt_succ h))
    have henums := mapM_map (l := m.enums) fun e _ => readEnum_ofEnum e
    obtain ⟨name,fullName,fields,messages,enums,comment⟩ := m
    rw [ofMessage,ofMessages_eq_map,readMessage]
    simp [members,member,member?,List.lookup,text,items,hfields,hmessages,henums,optional_ofOption,
      bind,Except.bind]

theorem readFile_ofFile (f : SchemaFile) : readFile (ofFile f) = .ok f := by
  have hdependencies : (f.dependencies.map .string).mapM text = .ok f.dependencies :=
    mapM_map fun _ _ => rfl
  have hmessages := mapM_map (l := f.messages) fun m hm =>
    readMessage_ofMessage m (depth_lt_of_messages hm)
  have henums := mapM_map (l := f.enums) fun e _ => readEnum_ofEnum e
  rw [readFile]
  generalize depth (ofFile f) = bound at hmessages ⊢
  rw [ofFile,membersOf,ofMessages_eq_map]
  simp [members,member,member?,List.lookup,text,items,optional,hdependencies,hmessages,henums,isSet,
    bind,Except.bind,Except.map]

end Reading

end Document

open Text

theorem SchemaFile.toDocument_of_writable {f : SchemaFile}
    (h : ∀ n ∈ f.numbers, isWritable n = true) :
    f.toDocument = .ok (String.ofList (Json.print ⟨none⟩ 0 (Document.ofFile f))) := by
  have hall : (Document.ofFile f).integers.all isWritable = true :=
    List.all_eq_true.mpr fun n hn => h n ((Document.mem_integers_ofFile n f).mp hn)
  rw [toDocument,Json.line?,Json.text?,if_pos hall]

theorem SchemaFile.toDocument_of_long {f : SchemaFile} {n : ℤ} (hn : n ∈ f.numbers)
    (h : 10 ^ digitLimit ≤ n.natAbs) : f.toDocument = .error .longNumber := by
  have hall : ¬ (Document.ofFile f).integers.all isWritable = true := fun hall =>
    Nat.not_lt.mpr h (isWritable_iff.mp
      (List.all_eq_true.mp hall n ((Document.mem_integers_ofFile n f).mpr hn)))
  rw [toDocument,Json.line?,Json.text?,if_neg hall]

/-- A schema file in which no integer has too many digits has a document and is read back from it.
Any other has no document. -/
theorem SchemaFile.ofDocument_toDocument (f : SchemaFile) :
    ((∀ n ∈ f.numbers, n.natAbs < 10 ^ digitLimit) →
      ∃ text, f.toDocument = .ok text ∧ SchemaFile.ofDocument text = .ok f) ∧
    ((∃ n ∈ f.numbers, 10 ^ digitLimit ≤ n.natAbs) → f.toDocument = .error .longNumber) := by
  refine ⟨fun h => ?_,fun ⟨n,hn,hlong⟩ => toDocument_of_long hn hlong⟩
  have hwritable : ∀ n ∈ f.numbers, isWritable n = true := fun n hn => isWritable_iff.mpr (h n hn)
  refine ⟨_,toDocument_of_writable hwritable,?_⟩
  have hread := Json.read_print ⟨none⟩ (Document.isWhole_ofFile f) fun n hn =>
    hwritable n ((Document.mem_integers_ofFile n f).mp hn)
  simp only [SchemaFile.ofDocument,Document.settled,hread,Document.settleFile_ofFile]
  exact Document.readFile_ofFile f

/-- A message inside another, a negative number, and texts that need escapes. -/
def letterFile : SchemaFile :=
  ⟨"letter.proto","post",["\"quoted\".proto"],
    [⟨"Letter","post.Letter",
      [⟨"clef",536870911,.singular,⟨.scalar .string,none⟩,none,none,some "𝄞\n"⟩],
      [⟨"Stamp","post.Letter.Stamp",[],[],[],none⟩],[],none⟩],
    [⟨"Tone","post.Tone",[⟨"LOW",-3,none⟩],none⟩],true⟩

theorem letterFile_read_back : (∀ n ∈ letterFile.numbers, n.natAbs < 10 ^ digitLimit) ∧
    ∃ text, letterFile.toDocument = .ok text ∧ SchemaFile.ofDocument text = .ok letterFile := by
  have hnumbers : letterFile.numbers = [-3,536870911] := by
    simp [letterFile,SchemaFile.numbers,SchemaFile.declarations,Message.declarationsOf,
      Message.declarations,Declaration.numbers]
  have hwritable : ∀ n ∈ [-3,536870911], isWritable n = true := by decide
  have hshort : ∀ n ∈ letterFile.numbers, n.natAbs < 10 ^ digitLimit := fun n hn =>
    isWritable_iff.mp (hwritable n (hnumbers ▸ hn))
  exact ⟨hshort,(SchemaFile.ofDocument_toDocument letterFile).1 hshort⟩

/-- A number with one digit too many. -/
def longFile : SchemaFile :=
  ⟨"long.proto","",[],[],[⟨"E","E",[⟨"A",10 ^ digitLimit,none⟩],none⟩],true⟩

theorem longFile_unwritten : longFile.toDocument = .error .longNumber ∧
    (longFile.toDocument >>= SchemaFile.ofDocument) ≠ .ok longFile := by
  have hmem : 10 ^ digitLimit ∈ longFile.numbers := by
    simp [longFile,SchemaFile.numbers,SchemaFile.declarations,Message.declarationsOf,
      Declaration.numbers]
  have hlong : longFile.toDocument = .error .longNumber :=
    SchemaFile.toDocument_of_long hmem (by simp [Int.natAbs_pow])
  exact ⟨hlong,by simp [hlong,bind,Except.bind]⟩

end SchemaCodec
