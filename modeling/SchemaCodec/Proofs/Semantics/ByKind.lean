import SchemaCodec.Proofs.Outcome
import SchemaCodec.Proofs.Semantics.Decoding

/-! # Values by their kinds

What encode code writes for a value, and what decode code reads, depends on nothing but the kind of
the value. Here both are given by recursion on the kind alone, with no places, variables and sinks,
and generated code is shown to do just that.
-/
namespace SchemaCodec.Codec

def writeEntry (writeKey writeItem : Value → Option Trace) (e : Datum × Value) : Option Trace := do
  some ((← writeKey (.datum e.1)) ++ (← writeItem e.2))

/-- What is written for a value of a kind. -/
def writeValue (method : Value → Option Trace) : Kind → Value → Option Trace
  | .integer bits signed,v => writeDatum (.integer bits signed) v
  | .float bits,v => writeDatum (.float bits) v
  | .bool,v => writeDatum .bool v
  | .string,v => writeDatum .string v
  | .bytes,v => writeDatum .bytes v
  | .enum _,v => writeNumber v
  | .message _,v => writeMessage method false v
  | .repeated element,v => do
    let .array items := v | none
    let wire ← (wireKind element).toOption
    let parts ← items.mapM (writeValue method element)
    some (.token (.array items.length wire) :: parts.flatten)
  | .map key value,v => do
    let .map entries := v | none
    let keyWire ← (wireKind key).toOption
    let valueWire ← (wireKind value).toOption
    let parts ← entries.mapM (writeEntry (writeValue method key) (writeValue method value))
    some (.token (.map entries.length keyWire valueWire) :: parts.flatten)
  | .oneof _ _ _,_ => none

/-- Reads some number of items, one after the other. -/
def readItems {α : Type} (read : List Token → Option (α × List Token)) :
    ℕ → List Token → Option (List α × List Token)
  | 0,stream => some ([],stream)
  | n + 1,stream => do
    let (x,stream) ← read stream
    let (xs,stream) ← readItems read n stream
    some (x :: xs,stream)

theorem readItems_succ {α : Type} {read : List Token → Option (α × List Token)} (n : ℕ)
    {stream next : List Token} {x : α} (h : read stream = some (x,next)) :
    readItems read (n + 1) stream = (readItems read n next).map fun p => (x :: p.1,p.2) := by
  rw [readItems,h]
  change (readItems read n next).bind (fun p => some (x :: p.1,p.2)) = _
  cases readItems read n next <;> rfl

def readEntry (readKey readItem : List Token → Option (Value × List Token)) (stream : List Token) :
    Option ((Datum × Value) × List Token) := do
  let (key,stream) ← readKey stream
  let .datum d := key | none
  let (x,stream) ← readItem stream
  some ((d,x),stream)

def readPrimitive (type : Primitive) (stream : List Token) : Option (Value × List Token) :=
  (readDatum type stream).map fun (d,rest) => (.datum d,rest)

/-- What is read for a value of a kind. -/
def readValue (index : TypeIndex) (method : Methods) :
    Kind → List Token → Option (Value × List Token)
  | .integer bits signed,stream => readPrimitive (.integer bits signed) stream
  | .float bits,stream => readPrimitive (.float bits) stream
  | .bool,stream => readPrimitive .bool stream
  | .string,stream => readPrimitive .string stream
  | .bytes,stream => readPrimitive .bytes stream
  | .enum name,stream => readVariant index name stream
  | .message name,stream => method name stream
  | .repeated element,stream => do
    let wire ← (wireKind element).toOption
    let (n,stream) ← readArray wire stream
    let (items,stream) ← readItems (readValue index method element) n stream
    some (.array items,stream)
  | .map key value,stream => do
    let keyWire ← (wireKind key).toOption
    let valueWire ← (wireKind value).toOption
    let (n,stream) ← readMap keyWire valueWire stream
    let (entries,stream) ←
      readItems (readEntry (readValue index method key) (readValue index method value)) n stream
    some (.map (entries.foldl insertEntry []),stream)
  | .oneof _ _ _,_ => none

/-- Encode code for a value writes what its kind asks for. -/
theorem run_writer {kind : Kind} {place : Place} {depth : ℕ} {w : Writer}
    (h : writer kind place depth = .ok w) (method : Value → Option Trace) (scope : Scope) :
    w.run method scope = (scope.get place).bind (writeValue method kind) := by
  induction kind generalizing place depth w scope with
  | integer bits signed | float bits | bool | string | bytes | enum name | message name =>
    cases h
    rfl
  | repeated element ih =>
    obtain ⟨wire,hwire,h⟩ := bind_eq_ok.mp h
    obtain ⟨body,hbody,h⟩ := bind_eq_ok.mp h
    cases h
    have hitem : (fun x => body.run method (scope.bind (.item depth) x)) =
        writeValue method element := by
      funext x
      rw [ih hbody,Scope.get_bind_self]
      rfl
    rw [Writer.run]
    refine congrArg _ (funext fun v => ?_)
    cases v with
    | array items =>
      simp only [writeValue,hitem,hwire]
      rfl
    | _ => rfl
  | map key value ihKey ihValue =>
    obtain ⟨keyWire,hkeyWire,h⟩ := bind_eq_ok.mp h
    obtain ⟨valueWire,hvalueWire,h⟩ := bind_eq_ok.mp h
    obtain ⟨keyBody,hkey,h⟩ := bind_eq_ok.mp h
    obtain ⟨valueBody,hvalue,h⟩ := bind_eq_ok.mp h
    cases h
    have hentry : (fun e : Datum × Value => do
        let inner := (scope.bind (.key depth) (.datum e.1)).bind (.item depth) e.2
        some ((← keyBody.run method inner) ++ (← valueBody.run method inner))) =
        writeEntry (writeValue method key) (writeValue method value) := by
      funext e
      have hne : Local.key depth ≠ Local.item depth := by simp
      simp only [ihKey hkey,ihValue hvalue,Scope.get_bind_self,Scope.get_bind_of_ne hne]
      rfl
    rw [Writer.run]
    refine congrArg _ (funext fun v => ?_)
    cases v with
    | map entries =>
      simp only [writeValue,hentry,hkeyWire,hvalueWire]
      rfl
    | _ => rfl
  | oneof group number inner => cases h

/-- Variables of containers that are open around some depth are the same as before. -/
def KeptBelow (depth : ℕ) (before after : Local → Option Value) : Prop :=
  ∀ l : Local, l.depth < depth → after l = before l

theorem KeptBelow.trans {depth : ℕ} {a b c : Local → Option Value} (hab : KeptBelow depth a b)
    (hbc : KeptBelow depth b c) : KeptBelow depth a c :=
  fun l hl => (hbc l hl).trans (hab l hl)

theorem KeptBelow.mono {m n : ℕ} {a b : Local → Option Value} (h : KeptBelow n a b) (hmn : m ≤ n) :
    KeptBelow m a b :=
  fun l hl => h l (Nat.lt_of_lt_of_le hl hmn)

theorem keptBelow_setLocal {depth : ℕ} {v : Local} (hv : depth ≤ v.depth)
    (locals : Local → Option Value) (x : Value) : KeptBelow depth locals (setLocal locals v x) := by
  intro l hl
  have hne : l ≠ v := by
    rintro rfl
    omega
  simp [setLocal,hne]

@[simp] theorem setLocal_self (locals : Local → Option Value) (v : Local) (x : Value) :
    setLocal locals v x v = some x := by
  simp [setLocal]

/-- Code that reads a value as `read` does and hands it to a sink. The code may use variables, but
none of the containers around it. -/
def Hands (run : Memory → Option Memory) (read : List Token → Option (Value × List Token))
    (sink : Sink) (depth : ℕ) : Prop :=
  ∀ mem : Memory, (read mem.stream = none → run mem = none) ∧
    ∀ v rest, read mem.stream = some (v,rest) → ∃ locals, KeptBelow depth mem.locals locals ∧
      run mem = sink.apply v ⟨rest,locals,mem.slots⟩

theorem hands_of_bind {run : Memory → Option Memory}
    {read : List Token → Option (Value × List Token)} {sink : Sink} {depth : ℕ}
    (h : ∀ mem : Memory, run mem = (read mem.stream).bind fun p =>
      sink.apply p.1 ⟨p.2,mem.locals,mem.slots⟩) : Hands run read sink depth := by
  intro mem
  constructor
  · intro hread
    rw [h,hread]
    rfl
  · intro v rest hread
    refine ⟨mem.locals,fun _ _ => rfl,?_⟩
    rw [h,hread]
    rfl

/-- One turn of a loop, which reads what `read` does and puts it into the container `acc`. `content`
is the container after some items. -/
def Gathers {α : Type} (run : Memory → Option Memory)
    (read : List Token → Option (α × List Token)) (acc : Local) (content : List α → Value) : Prop :=
  ∀ (mem : Memory) (xs : List α), mem.locals acc = some (content xs) →
    (read mem.stream = none → run mem = none) ∧
    ∀ x rest, read mem.stream = some (x,rest) → ∃ locals, KeptBelow acc.depth mem.locals locals ∧
      locals acc = some (content (xs ++ [x])) ∧ run mem = some ⟨rest,locals,mem.slots⟩

/-- A loop gathers all that its turns read. -/
theorem repeatStep_gathers {α : Type} {run : Memory → Option Memory}
    {read : List Token → Option (α × List Token)} {acc : Local} {content : List α → Value}
    (h : Gathers run read acc content) (n : ℕ) (mem : Memory) (xs : List α)
    (hacc : mem.locals acc = some (content xs)) :
    (readItems read n mem.stream = none → repeatStep run n mem = none) ∧
    ∀ ys rest, readItems read n mem.stream = some (ys,rest) → ∃ locals,
      KeptBelow acc.depth mem.locals locals ∧ locals acc = some (content (xs ++ ys)) ∧
      repeatStep run n mem = some ⟨rest,locals,mem.slots⟩ := by
  induction n generalizing mem xs with
  | zero =>
    constructor
    · intro hread
      cases hread
    · intro ys rest hread
      cases hread
      exact ⟨mem.locals,fun _ _ => rfl,by simpa using hacc,rfl⟩
  | succ n ih =>
    obtain ⟨hnone,hsome⟩ := h mem xs hacc
    cases hx : read mem.stream with
    | none =>
      constructor
      · intro _
        rw [repeatStep,hnone hx]
        rfl
      · intro ys rest hread
        rw [readItems,hx] at hread
        cases hread
    | some p =>
      obtain ⟨x,next⟩ := p
      obtain ⟨locals,hkept,hnext,hrun⟩ := hsome x next hx
      obtain ⟨hnone',hsome'⟩ := ih ⟨next,locals,mem.slots⟩ (xs ++ [x]) hnext
      have hread := readItems_succ n hx
      have hloop : repeatStep run (n + 1) mem = repeatStep run n ⟨next,locals,mem.slots⟩ := by
        rw [repeatStep,hrun]
        rfl
      rw [hread,hloop]
      constructor
      · intro hmap
        exact hnone' (Option.map_eq_none_iff.mp hmap)
      · intro ys rest hmap
        obtain ⟨⟨zs,last⟩,hzs,heq⟩ := Option.map_eq_some_iff.mp hmap
        cases heq
        obtain ⟨after,hkept',hafter,hrun'⟩ := hsome' zs last hzs
        exact ⟨after,hkept.trans hkept',by simpa using hafter,hrun'⟩

theorem gathers_push {run : Memory → Option Memory}
    {read : List Token → Option (Value × List Token)} {depth : ℕ}
    (h : Hands run read (.push (.array depth)) (depth + 1)) :
    Gathers run read (.array depth) Value.array := by
  intro mem xs hacc
  obtain ⟨hnone,hsome⟩ := h mem
  refine ⟨hnone,fun x rest hx => ?_⟩
  obtain ⟨locals,hkept,hrun⟩ := hsome x rest hx
  have hlocal : locals (.array depth) = some (.array xs) :=
    (hkept (.array depth) (Nat.lt_succ_self depth)).trans hacc
  refine ⟨setLocal locals (.array depth) (.array (xs ++ [x])),?_,setLocal_self _ _ _,?_⟩
  · have hset := keptBelow_setLocal (v := .array depth) (Nat.le_refl depth) locals
      (.array (xs ++ [x]))
    exact (hkept.mono (Nat.le_succ depth)).trans hset
  · simp only [hrun,Sink.apply,hlocal]
    rfl

theorem foldl_insertEntry_append (es : List (Datum × Value)) (e : Datum × Value) :
    (es ++ [e]).foldl insertEntry [] = insertEntry (es.foldl insertEntry []) e :=
  List.foldl_concat insertEntry [] e es

section Entries
variable {readKey readItem : List Token → Option (Value × List Token)} {stream next : List Token}

theorem readEntry_of_none (h : readKey stream = none) :
    readEntry readKey readItem stream = none := by
  rw [readEntry,h]
  rfl

theorem readEntry_of_datum {d : Datum} (h : readKey stream = some (.datum d,next)) :
    readEntry readKey readItem stream = (readItem next).map fun p => ((d,p.1),p.2) := by
  rw [readEntry,h,Option.map_eq_bind]
  rfl

theorem readEntry_of_ne {key : Value} (hkey : ∀ d, key ≠ .datum d)
    (h : readKey stream = some (key,next)) : readEntry readKey readItem stream = none := by
  rw [readEntry,h]
  cases key with
  | datum d => exact absurd rfl (hkey d)
  | _ => rfl

end Entries

/-- An item goes into the map under the key that was bound before it was read. -/
theorem run_insert {run : Memory → Option Memory}
    {read : List Token → Option (Value × List Token)} {depth : ℕ}
    (h : Hands run read (.insert (.map depth) (.key depth)) (depth + 1)) (mem : Memory)
    {es : List (Datum × Value)} (hmap : mem.locals (.map depth) = some (.map es)) {key : Value}
    (hkey : mem.locals (.key depth) = some key) :
    (read mem.stream = none ∨ (∀ d, key ≠ .datum d) → run mem = none) ∧
    ∀ d x rest, key = .datum d → read mem.stream = some (x,rest) → ∃ locals,
      KeptBelow depth mem.locals locals ∧
      locals (.map depth) = some (.map (insertEntry es (d,x))) ∧
      run mem = some ⟨rest,locals,mem.slots⟩ := by
  obtain ⟨hnone,hsome⟩ := h mem
  have hbound : ∀ locals, KeptBelow (depth + 1) mem.locals locals →
      locals (.map depth) = some (.map es) ∧ locals (.key depth) = some key := by
    intro locals hkept
    exact ⟨(hkept (.map depth) (Nat.lt_succ_self depth)).trans hmap,
      (hkept (.key depth) (Nat.lt_succ_self depth)).trans hkey⟩
  constructor
  · rintro (hread | hkind)
    · exact hnone hread
    · cases hx : read mem.stream with
      | none => exact hnone hx
      | some p =>
        obtain ⟨locals,hkept,hrun⟩ := hsome p.1 p.2 hx
        obtain ⟨hlocalMap,hlocalKey⟩ := hbound locals hkept
        cases key with
        | datum d => exact absurd rfl (hkind d)
        | _ => simp only [hrun,Sink.apply,hlocalMap,hlocalKey]
  · rintro d x rest rfl hx
    obtain ⟨locals,hkept,hrun⟩ := hsome x rest hx
    obtain ⟨hlocalMap,hlocalKey⟩ := hbound locals hkept
    refine ⟨setLocal locals (.map depth) (.map (insertEntry es (d,x))),?_,setLocal_self _ _ _,?_⟩
    · exact (hkept.mono (Nat.le_succ depth)).trans
        (keptBelow_setLocal (v := .map depth) (Nat.le_refl depth) locals _)
    · simp only [hrun,Sink.apply,hlocalMap,hlocalKey]
      rfl

theorem gathers_insert {runKey runItem : Memory → Option Memory}
    {readKey readItem : List Token → Option (Value × List Token)} {depth : ℕ}
    (hkey : Hands runKey readKey (.bind (.key depth)) (depth + 1))
    (hitem : Hands runItem readItem (.insert (.map depth) (.key depth)) (depth + 1)) :
    Gathers (fun mem => (runKey mem).bind runItem) (readEntry readKey readItem) (.map depth)
      fun es => .map (es.foldl insertEntry []) := by
  intro mem es hacc
  obtain ⟨hnoKey,hsomeKey⟩ := hkey mem
  cases hk : readKey mem.stream with
  | none =>
    rw [readEntry_of_none hk]
    exact ⟨fun _ => by simp [hnoKey hk],fun _ _ hread => by cases hread⟩
  | some p =>
    obtain ⟨key,afterKey⟩ := p
    obtain ⟨bound,hbound,hrunKey⟩ := hsomeKey key afterKey hk
    have hmap : setLocal bound (.key depth) key (.map depth) =
        some (.map (es.foldl insertEntry [])) := by
      have hother : setLocal bound (.key depth) key (.map depth) = bound (.map depth) := by
        simp [setLocal]
      exact hother.trans ((hbound (.map depth) (Nat.lt_succ_self depth)).trans hacc)
    have hrun : (fun mem => (runKey mem).bind runItem) mem =
        runItem ⟨afterKey,setLocal bound (.key depth) key,mem.slots⟩ := by
      simp only [hrunKey]
      rfl
    obtain ⟨hfails,hinserts⟩ := run_insert hitem
      ⟨afterKey,setLocal bound (.key depth) key,mem.slots⟩ hmap (setLocal_self _ _ _)
    have hkept := (hbound.mono (Nat.le_succ depth)).trans
      (keptBelow_setLocal (v := .key depth) (Nat.le_refl depth) bound key)
    rw [hrun]
    by_cases hdatum : ∃ d, key = .datum d
    · obtain ⟨d,rfl⟩ := hdatum
      rw [readEntry_of_datum hk]
      refine ⟨fun hread => hfails (.inl (Option.map_eq_none_iff.mp hread)),fun e rest hread => ?_⟩
      obtain ⟨⟨x,after⟩,hx,heq⟩ := Option.map_eq_some_iff.mp hread
      cases heq
      obtain ⟨locals,hlocals,hlocalMap,hlast⟩ := hinserts d x after rfl hx
      refine ⟨locals,hkept.trans hlocals,?_,hlast⟩
      simp only [hlocalMap,foldl_insertEntry_append]
    · have hne : ∀ d, key ≠ .datum d := fun d hd => hdatum ⟨d,hd⟩
      rw [readEntry_of_ne hne hk]
      exact ⟨fun _ => hfails (.inr hne),fun _ _ hread => by cases hread⟩

/-- Code that reads a container: its length from a header, and its items by a loop into `acc`. -/
theorem hands_container {α : Type} (header : List Token → Option (ℕ × List Token))
    {step : Memory → Option Memory} {read : List Token → Option (α × List Token)} {acc : Local}
    {content : List α → Value} (h : Gathers step read acc content) (sink : Sink) :
    Hands
      (fun mem => (header mem.stream).bind fun p =>
        (repeatStep step p.1 ⟨p.2,setLocal mem.locals acc (content []),mem.slots⟩).bind fun mem =>
          (mem.locals acc).bind fun x => sink.apply x mem)
      (fun stream => (header stream).bind fun p => (readItems read p.1 p.2).map fun q =>
        (content q.1,q.2))
      sink acc.depth := by
  intro mem
  cases hp : header mem.stream with
  | none => simp [hp]
  | some p =>
    obtain ⟨n,rest⟩ := p
    have hstart := setLocal_self mem.locals acc (content [])
    obtain ⟨hnone,hsome⟩ :=
      repeatStep_gathers h n ⟨rest,setLocal mem.locals acc (content []),mem.slots⟩ [] hstart
    simp only [hp,Option.bind_some]
    constructor
    · intro hread
      rw [hnone (Option.map_eq_none_iff.mp hread)]
      rfl
    · intro v last hread
      obtain ⟨⟨xs,after⟩,hxs,heq⟩ := Option.map_eq_some_iff.mp hread
      cases heq
      obtain ⟨locals,hkept,hacc,hrun⟩ := hsome xs after hxs
      refine ⟨locals,(keptBelow_setLocal (Nat.le_refl _) _ _).trans hkept,?_⟩
      simp only [hrun,Option.bind_some,hacc]
      rfl

/-- Decode code for a value reads what its kind asks for and hands it to the sink. -/
theorem hands_reader {index : TypeIndex} {kind : Kind} {sink : Sink} {depth : ℕ} {r : Reader}
    (h : reader index kind sink depth = .ok r) (method : Methods) :
    Hands (r.run index method) (readValue index method kind) sink depth := by
  induction kind generalizing sink depth r with
  | integer bits signed | float bits | bool | string | bytes =>
    cases h
    refine hands_of_bind fun mem => ?_
    rw [Reader.run,readValue,readPrimitive,Option.bind_map]
    rfl
  | enum name =>
    obtain ⟨type,htype,h⟩ := bind_eq_ok.mp h
    cases h
    obtain ⟨identifier,-,htype⟩ := bind_eq_ok.mp htype
    cases htype
    exact hands_of_bind fun mem => rfl
  | message name =>
    obtain ⟨type,htype,h⟩ := bind_eq_ok.mp h
    cases h
    obtain ⟨identifier,-,htype⟩ := bind_eq_ok.mp htype
    cases htype
    exact hands_of_bind fun mem => rfl
  | repeated element ih =>
    obtain ⟨wire,hwire,h⟩ := bind_eq_ok.mp h
    obtain ⟨body,hbody,h⟩ := bind_eq_ok.mp h
    cases h
    have hloop := hands_container (readArray wire) (gathers_push (ih hbody)) sink
    have hread : readValue index method (.repeated element) = fun stream =>
        (readArray wire stream).bind fun p =>
          (readItems (readValue index method element) p.1 p.2).map fun q => (.array q.1,q.2) := by
      funext stream
      simp only [readValue,hwire,Option.map_eq_bind]
      rfl
    rw [hread]
    exact hloop
  | map key value ihKey ihValue =>
    obtain ⟨keyWire,hkeyWire,h⟩ := bind_eq_ok.mp h
    obtain ⟨valueWire,hvalueWire,h⟩ := bind_eq_ok.mp h
    obtain ⟨keyBody,hkey,h⟩ := bind_eq_ok.mp h
    obtain ⟨valueBody,hvalue,h⟩ := bind_eq_ok.mp h
    cases h
    have hloop := hands_container (readMap keyWire valueWire)
      (gathers_insert (ihKey hkey) (ihValue hvalue)) sink
    have hread : readValue index method (.map key value) = fun stream =>
        (readMap keyWire valueWire stream).bind fun p =>
          (readItems (readEntry (readValue index method key) (readValue index method value))
            p.1 p.2).map fun q => (.map (q.1.foldl insertEntry []),q.2) := by
      funext stream
      simp only [readValue,hkeyWire,hvalueWire,Option.map_eq_bind]
      rfl
    rw [hread]
    exact hloop
  | oneof group number inner => cases h

end SchemaCodec.Codec
