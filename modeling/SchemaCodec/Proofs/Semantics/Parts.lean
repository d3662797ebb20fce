import SchemaCodec.Proofs.Semantics.ByKind
import SchemaCodec.Proofs.Semantics.Runs

/-! # Messages by their parts

A message is written and read part by part: a plain field, a field that may hold a message, or a
oneof. What is written for a part depends on the value of its slot alone, and reading it stores in
that slot alone.
-/
namespace SchemaCodec.Codec
variable {α : Type}

/-- A member of a oneof. -/
structure Member where
  name : String
  number : Int
  kind : Kind

inductive Part where
  | plain (name : String) (kind : Kind)
  | optional (name type : String)
  | group (name : String) (members : List Member)

def Part.slot : Part → Slot
  | .plain name _ | .optional name _ => .field name
  | .group name _ => .group name

def Binding.member? (b : Binding α) : Option Member :=
  match b.kind with
  | .oneof _ number inner => some ⟨b.field.name,number,inner⟩
  | _ => none

def Run.part : Run α → Part
  | .plain b =>
    match b.kind with
    | .message type => .optional b.field.name type
    | kind => .plain b.field.name kind
  | .group name first more => .group name ((first :: more).filterMap Binding.member?)

theorem slot_part (run : Run α) : run.part.slot = run.slot := by
  cases run with
  | plain b =>
    obtain ⟨field,kind,code⟩ := b
    cases kind <;> rfl
  | group name first more => rfl

theorem slots_parts (runs : List (Run α)) :
    (runs.map Run.part).map Part.slot = runs.map Run.slot := by
  rw [List.map_map]
  exact List.map_congr_left fun run _ => slot_part run

theorem part_forget (run : Run α) : run.forget.part = run.part := by
  cases run with
  | plain b => rfl
  | group name first more =>
    have hmember : Binding.member? ∘ Binding.forget = @Binding.member? α := rfl
    rw [Run.forget,Run.part,Run.part,← List.map_cons,List.filterMap_map,hmember]

/-- What is written for the value of a part. -/
def Part.write (method : Value → Option Trace) : Part → Value → Option Trace
  | .plain _ kind,v => writeValue method kind v
  | .optional _ _,.none => some [.token .none]
  | .optional _ _,.some v => writeMessage method true v
  | .optional _ _,_ => none
  | .group _ _,.none => some [.token .none]
  | .group _ members,.member name v => do
    let member ← members.find? fun m => m.name == name
    let written ← writeValue method member.kind v
    some (.token (.scalar (.u32 member.number)) :: written)
  | .group _ _,_ => none

/-- What is read for a part; nothing at a none marker. -/
def Part.read (index : TypeIndex) (method : Methods) (part : Part) :
    List Token → Option (Option Value × List Token) :=
  unlessNone (fun rest => some (none,rest)) fun stream =>
    match part with
    | .plain _ kind => (readValue index method kind stream).map fun p => (some p.1,p.2)
    | .optional _ type => (method type stream).map fun p => (some (.some p.1),p.2)
    | .group _ members => do
      let (d,rest) ← readDatum Primitive.enumNumber stream
      let member ← members.find? fun m => d.payload = .number m.number
      (readValue index method member.kind rest).map fun p => (some (.member member.name p.1),p.2)

def Part.readInto (index : TypeIndex) (method : Methods)
    (state : (Slot → Value) × List Token) (part : Part) :
    Option ((Slot → Value) × List Token) :=
  (part.read index method state.2).map fun p =>
    (p.1.elim state.1 (storeSlot state.1 part.slot),p.2)

section Written
variable {index : TypeIndex} {m : Message}

/-- The code of every binding is the one that its field and its kind ask for. -/
def WrittenFor (index : TypeIndex) (m : Message) (b : Binding FieldWriter) : Prop :=
  fieldWriter index m b.field b.kind = .ok b.code

theorem arm?_writer {b : Binding FieldWriter} (h : WrittenFor index m b) {g : String}
    (hg : b.group? = some g) : ∃ member body, b.member? = some member ∧
      member.name = b.field.name ∧ writer member.kind (.bound (.item 1)) 2 = .ok body ∧
      ∀ name, b.code.arm? name = if member.name = name then some (member.number,body) else none := by
  obtain ⟨field,kind,code⟩ := b
  have h : fieldWriter index m field kind = .ok code := h
  cases kind with
  | oneof group number inner =>
    obtain ⟨variant,hvariant,h⟩ := bind_eq_ok.mp h
    obtain ⟨body,hbody,h⟩ := bind_eq_ok.mp h
    obtain ⟨owner,-,hvariant⟩ := bind_eq_ok.mp hvariant
    cases hvariant
    cases h
    exact ⟨⟨field.name,number,inner⟩,body,rfl,rfl,hbody,fun _ => rfl⟩
  | _ => cases hg

/-- The arm that a match takes writes the member as its kind asks for. -/
theorem write_arm (method : Value → Option Trace) (self : Slot → Value) (name : String) (v : Value)
    {bs : List (Binding FieldWriter)}
    (h : ∀ b ∈ bs, WrittenFor index m b ∧ ∃ g, b.group? = some g) :
    ((bs.findSome? fun b => b.code.arm? name).bind fun arm =>
      (arm.2.run method (Scope.bind ⟨self,fun _ => none⟩ (.item 1) v)).map fun written =>
        .token (.scalar (.u32 arm.1)) :: written) =
    (((bs.filterMap Binding.member?).find? fun member => member.name == name).bind fun member =>
      (writeValue method member.kind v).map fun written =>
        .token (.scalar (.u32 member.number)) :: written) := by
  induction bs with
  | nil => rfl
  | cons b rest ih =>
    obtain ⟨hb,g,hg⟩ := h b List.mem_cons_self
    obtain ⟨member,body,hmember,hname,hbody,harm⟩ := arm?_writer hb hg
    rw [List.findSome?_cons,List.filterMap_cons,hmember,harm]
    by_cases hn : member.name = name
    · have hrun := run_writer hbody method (Scope.bind ⟨self,fun _ => none⟩ (.item 1) v)
      rw [Scope.get_bind_self,Option.bind_some] at hrun
      simp [hn,hrun]
    · simpa [hn] using ih fun c hc => h c (List.mem_cons_of_mem b hc)

theorem run_plainWriter (method : Value → Option Trace) (self : Slot → Value)
    {b : Binding FieldWriter} (h : WrittenFor index m b) (hg : b.group? = none) :
    b.code.run method self = (Run.plain b).part.write method (self (.field b.field.name)) := by
  obtain ⟨field,kind,code⟩ := b
  have h : fieldWriter index m field kind = .ok code := h
  cases kind with
  | oneof group number inner => cases hg
  | message type =>
    cases h
    simp only [FieldWriter.run,Run.part]
    cases self (.field field.name) <;> rfl
  | _ =>
    obtain ⟨body,hbody,h⟩ := bind_eq_ok.mp h
    cases h
    exact run_writer hbody method ⟨self,fun _ => none⟩

/-- The code of a run writes what its part asks for. -/
theorem write_run (method : Value → Option Trace) (self : Slot → Value)
    {bs : List (Binding FieldWriter)} (h : ∀ b ∈ bs, WrittenFor index m b)
    {run : Run FieldWriter} (hfrom : run.IsFrom bs) :
    run.write method self = run.part.write method (self run.slot) := by
  cases run with
  | plain b =>
    obtain ⟨hmem,hgroup⟩ := hfrom
    exact run_plainWriter method self (h b hmem) hgroup
  | group name first more =>
    have hall : ∀ b ∈ first :: more, WrittenFor index m b ∧ ∃ g, b.group? = some g := by
      intro b hb
      obtain ⟨hmem,hgroup⟩ := hfrom.members b hb
      exact ⟨h b hmem,name,hgroup⟩
    simp only [Run.write,Run.part,Run.slot]
    cases hv : self (.group name) with
    | member member v =>
      have harm := write_arm method self member v hall
      simpa [Part.write,Option.map_eq_bind] using harm
    | _ => rfl

end Written

section ReadBack
variable {index : TypeIndex} {m : Message}

def ReadFor (index : TypeIndex) (m : Message) (b : Binding Decoding) : Prop :=
  fieldReader index m b.field b.kind = .ok b.code.reader

/-- What the caller of decode code sees of its state. -/
def Memory.view (mem : Memory) : (Slot → Value) × List Token := (mem.slots,mem.stream)

/-- Code that stores what it reads in a slot, wrapped in some way. -/
theorem view_run {run : Memory → Option Memory}
    {read : List Token → Option (Value × List Token)} {sink : Sink} {depth : ℕ}
    (h : Hands run read sink depth) {s : Slot} {wrap : Value → Value}
    (hsink : ∀ x mem, sink.apply x mem = some (mem.store s (wrap x))) (mem : Memory) :
    (run mem).map Memory.view =
      (read mem.stream).map fun p => (storeSlot mem.slots s (wrap p.1),p.2) := by
  obtain ⟨hnone,hsome⟩ := h mem
  cases hread : read mem.stream with
  | none =>
    rw [hnone hread]
    rfl
  | some p =>
    obtain ⟨locals,-,hrun⟩ := hsome p.1 p.2 hread
    rw [hrun,hsink]
    rfl

theorem arm?_reader {b : Binding Decoding} (h : ReadFor index m b) {g : String}
    (hg : b.group? = some g) : ∃ member body sink, b.member? = some member ∧
      reader index member.kind sink 1 = .ok body ∧
      (∀ x mem, sink.apply x mem = some (mem.store (.group g) (.member member.name x))) ∧
      ∀ d, b.code.reader.arm? d = if d.payload = .number member.number then some body else none := by
  obtain ⟨field,kind,code⟩ := b
  have h : fieldReader index m field kind = .ok code.reader := h
  cases kind with
  | oneof group number inner =>
    cases hg
    obtain ⟨variant,hvariant,hcode⟩ := bind_eq_ok.mp h
    obtain ⟨owner,-,hvariant⟩ := bind_eq_ok.mp hvariant
    cases hvariant
    obtain ⟨body,hbody,hcode⟩ := bind_eq_ok.mp hcode
    refine ⟨⟨field.name,number,inner⟩,body,_,rfl,hbody,fun _ _ => rfl,fun d => ?_⟩
    rw [← Except.ok.inj hcode]
    rfl
  | _ => cases hg

/-- The arm that a match takes reads the member as its kind asks for. -/
theorem read_arm (method : Methods) (g : String) (d : Datum) (mem : Memory)
    {bs : List (Binding Decoding)}
    (h : ∀ b ∈ bs, ReadFor index m b ∧ b.group? = some g) :
    ((bs.findSome? fun b => b.code.reader.arm? d).bind fun body =>
      (body.run index method mem).map Memory.view) =
    (((bs.filterMap Binding.member?).find? fun member => d.payload = .number member.number).bind
      fun member => (readValue index method member.kind mem.stream).map fun p =>
        (storeSlot mem.slots (.group g) (.member member.name p.1),p.2)) := by
  induction bs with
  | nil => rfl
  | cons b rest ih =>
    obtain ⟨hb,hg⟩ := h b List.mem_cons_self
    obtain ⟨member,body,sink,hmember,hbody,hsink,harm⟩ := arm?_reader hb hg
    rw [List.findSome?_cons,List.filterMap_cons,hmember,harm]
    by_cases hd : d.payload = .number member.number
    · have hview := view_run (hands_reader hbody method) hsink mem
      simp [hd,hview]
    · simpa [hd] using ih fun c hc => h c (List.mem_cons_of_mem b hc)

theorem readInto_eq (method : Methods) (part : Part) (slots : Slot → Value) (stream : List Token) :
    part.readInto index method (slots,stream) =
      unlessNone (fun rest => some (slots,rest)) (fun stream =>
        (part.read index method stream).map fun p =>
          (p.1.elim slots (storeSlot slots part.slot),p.2)) stream := by
  by_cases hhead : stream.head? = some .none
  · obtain ⟨rest,rfl⟩ := List.head?_eq_some_iff.mp hhead
    rfl
  · rw [unlessNone_of_head hhead]
    rfl

/-- Guarded code does what its part asks for, if its body stores what the part reads. -/
theorem view_guarded (method : Methods) (part : Part) (wrap : Value → Value) {body : Reader}
    {read : List Token → Option (Value × List Token)} {sink : Sink}
    (hbody : Hands (body.run index method) read sink 1)
    (hsink : ∀ x mem, sink.apply x mem = some (mem.store part.slot (wrap x)))
    (hread : ∀ stream : List Token, stream.head? ≠ some .none → part.read index method stream =
      (read stream).map fun p => (some (wrap p.1),p.2)) (mem : Memory) :
    ((FieldReader.guarded body).run index method mem).map Memory.view =
      part.readInto index method mem.view := by
  rw [Memory.view,readInto_eq,FieldReader.run]
  by_cases hhead : mem.stream.head? = some .none
  · obtain ⟨rest,hrest⟩ := List.head?_eq_some_iff.mp hhead
    rw [hrest]
    rfl
  · rw [unlessNone_of_head hhead,unlessNone_of_head hhead,view_run hbody hsink,hread _ hhead,
      Option.map_map]
    rfl

theorem run_plainReader (method : Methods) {b : Binding Decoding} (h : ReadFor index m b)
    (hg : b.group? = none) (mem : Memory) :
    (b.code.reader.run index method mem).map Memory.view =
      (Run.plain b).part.readInto index method mem.view := by
  obtain ⟨field,kind,code⟩ := b
  have h : fieldReader index m field kind = .ok code.reader := h
  cases kind with
  | oneof group number inner => cases hg
  | message type =>
    obtain ⟨body,hbody,hcode⟩ := bind_eq_ok.mp h
    rw [← Except.ok.inj hcode]
    exact view_guarded method (.optional field.name type) .some (hands_reader hbody method)
      (fun _ _ => rfl) (fun stream hhead => unlessNone_of_head hhead _ _) mem
  | _ =>
    obtain ⟨body,hbody,hcode⟩ := bind_eq_ok.mp h
    rw [← Except.ok.inj hcode]
    exact view_guarded method (.plain field.name _) id (hands_reader hbody method)
      (fun _ _ => rfl) (fun stream hhead => unlessNone_of_head hhead _ _) mem

/-- The code of a run reads what its part asks for. -/
theorem read_run (method : Methods) {bs : List (Binding Decoding)}
    (h : ∀ b ∈ bs, ReadFor index m b) {run : Run Decoding} (hfrom : run.IsFrom bs) (mem : Memory) :
    (run.read index method mem).map Memory.view = run.part.readInto index method mem.view := by
  cases run with
  | plain b =>
    obtain ⟨hmem,hgroup⟩ := hfrom
    exact run_plainReader method (h b hmem) hgroup mem
  | group name first more =>
    have hall : ∀ b ∈ first :: more, ReadFor index m b ∧ b.group? = some name :=
      fun b hb => (hfrom.members b hb).imp_left (h b)
    rw [Memory.view,readInto_eq,Run.read]
    by_cases hhead : mem.stream.head? = some .none
    · obtain ⟨rest,hrest⟩ := List.head?_eq_some_iff.mp hhead
      rw [hrest]
      rfl
    · rw [unlessNone_of_head hhead,unlessNone_of_head hhead,Run.part,Part.read,
        unlessNone_of_head hhead]
      cases hd : readDatum Primitive.enumNumber mem.stream with
      | none => rfl
      | some p =>
        have harm := read_arm method name p.1 { mem with stream := p.2 } hall
        change ((((first :: more).findSome? fun b => b.code.reader.arm? p.1).bind fun body =>
          body.run index method { mem with stream := p.2 }).map Memory.view) = _
        rw [Option.map_bind]
        refine Eq.trans harm ?_
        change _ = ((((first :: more).filterMap Binding.member?).find? fun member =>
          p.1.payload = .number member.number).bind fun member =>
            (readValue index method member.kind p.2).map fun q =>
              (some (Value.member member.name q.1),q.2)).map _
        rw [Option.map_bind]
        refine congrArg _ (funext fun member => ?_)
        rw [Function.comp_apply,Option.map_map]
        rfl

end ReadBack

end SchemaCodec.Codec
