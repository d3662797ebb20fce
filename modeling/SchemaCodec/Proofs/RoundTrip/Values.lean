import SchemaCodec.Proofs.Codec.WireStep
import SchemaCodec.Proofs.RoundTrip.Carries

/-! # Values over a stream

If the traces of messages carry them, so do the traces of all values that are made of messages, data
and variants, however deep arrays and maps are nested.
-/
namespace SchemaCodec.Codec

/-- Enums whose variants can be told apart by their numbers, as unsigned ones of 32 bits. -/
def EnumsApart (index : TypeIndex) : Prop :=
  ∀ name variants, variantsOf index name = some variants → (variants.map (·.number)).Nodup ∧
    ∀ v ∈ variants, 0 ≤ v.number ∧ v.number < 4294967296

/-- Where a key tells the members of a list apart, a look-up by the key finds the member. -/
theorem find?_of_nodup {α β : Type} {key : α → β} {l : List α} (hnodup : (l.map key).Nodup) {a : α}
    (ha : a ∈ l) {p : α → Bool} (hp : ∀ b, p b = true ↔ key b = key a) : l.find? p = some a := by
  cases hf : l.find? p with
  | none => exact absurd ((hp a).mpr rfl) (List.find?_eq_none.mp hf a ha)
  | some b =>
    have hkey := (hp b).mp (List.find?_some hf)
    rw [List.inj_on_of_nodup_map hnodup (List.mem_of_find?_eq_some hf) ha hkey]

theorem readDatum_scalar {type : Primitive} {d : Datum} (h : d.type = type) (rest : List Token) :
    readDatum type (.scalar d :: rest) = some (d,rest) :=
  if_pos h

theorem readDatum_u32 (n : Int) (rest : List Token) :
    readDatum Primitive.enumNumber (.scalar (.u32 n) :: rest) = some (.u32 n,rest) :=
  readDatum_scalar rfl rest

theorem carries_datum {type : Primitive} {v : Value} (h : IsDatum type v) (same : Value → Prop)
    (least : ℕ) : ∃ d, v = .datum d ∧
      Carries (fun _ => writeDatum type v) (fun _ => readPrimitive type) same least v
        [.token (.scalar d)] := by
  obtain ⟨d,rfl,hd⟩ := h
  have hwrite : writeDatum type (.datum d) = some [.token (.scalar d)] := if_pos hd
  refine ⟨d,rfl,?_⟩
  rw [hwrite]
  refine carries_token (fun rest => ?_) least
  rw [readPrimitive,readDatum_scalar hd]
  rfl

theorem carries_variant {index : TypeIndex} (he : EnumsApart index) {name : String}
    {variants : List EnumValue} (hvariants : variantsOf index name = some variants) {x : EnumValue}
    (hx : x ∈ variants) (same : Value → Prop) (least : ℕ) :
    Carries (fun _ => writeNumber (.variant x.name x.number)) (fun _ => readVariant index name) same
      least (.variant x.name x.number) [.token (.scalar (.u32 x.number))] := by
  obtain ⟨hnodup,hrange⟩ := he name variants hvariants
  obtain ⟨hlow,hhigh⟩ := hrange x hx
  refine carries_token (fun rest => ?_) least
  have hfind : variants.find? (fun v => (Datum.u32 x.number).payload = .number v.number) = some x := by
    rw [Datum.payload_u32 hlow hhigh]
    exact find?_of_nodup hnodup hx fun y => by simp [eq_comm]
  rw [readVariant,readDatum_u32]
  simp only [Option.bind_eq_bind,Option.bind_some,hvariants,hfind]

section Kinds
variable {index : TypeIndex} {isMessage : String → Value → Prop} {least : ℕ}

/-- Reading and writing the values of a kind. -/
def CarriesKind (index : TypeIndex) (least : ℕ) (kind : Kind) (v : Value) (trace : Trace) : Prop :=
  Carries (fun depth => writeValue (encodeRun index depth) kind v)
    (fun depth => readValue index (decodeRun index depth) kind) v.Same least v trace

/-- A key is a datum, so its token is all that is written, and reading cannot go wrong. -/
theorem carries_key (hstruct : ∀ name v, isMessage name v → ∃ type x, v = .struct type x)
    {kind : Kind} {d : Datum} (h : Fits index isMessage kind (.datum d)) :
    (∀ depth, writeValue (encodeRun index depth) kind (.datum d) = some [.token (.scalar d)]) ∧
    ∀ depth rest, readValue index (decodeRun index depth) kind (.scalar d :: rest) =
      some (.datum d,rest) := by
  have hdatum : ∀ type, IsDatum type (.datum d) → writeDatum type (.datum d) =
      some [.token (.scalar d)] ∧ ∀ rest, readPrimitive type (.scalar d :: rest) =
        some (.datum d,rest) := by
    rintro type ⟨c,hc,hd⟩
    cases hc
    refine ⟨if_pos hd,fun rest => ?_⟩
    rw [readPrimitive,readDatum_scalar hd]
    rfl
  cases kind with
  | integer bits signed | float bits | bool | string | bytes =>
    exact ⟨fun _ => (hdatum _ h).1,fun _ => (hdatum _ h).2⟩
  | enum name =>
    obtain ⟨variants,-,x,-,hx⟩ := h
    cases hx
  | message name =>
    obtain ⟨type,x,hx⟩ := hstruct name _ h
    cases hx
  | repeated element =>
    obtain ⟨items,hitems,-⟩ := h
    cases hitems
  | map key value =>
    obtain ⟨entries,hentries,-⟩ := h
    cases hentries
  | oneof group number inner => cases h

def CarriesEntry (index : TypeIndex) (least : ℕ) (key value : Kind) (e : Datum × Value)
    (trace : Trace) : Prop :=
  Carries (fun depth => writeEntry (writeValue (encodeRun index depth) key)
      (writeValue (encodeRun index depth) value) e)
    (fun depth => readEntry (readValue index (decodeRun index depth) key)
      (readValue index (decodeRun index depth) value))
    (fun f => f.1 = e.1 → e.2.Same f.2) least e trace

/-- An entry is its key's token and what is written for its value. -/
theorem carries_entry (hstruct : ∀ name v, isMessage name v → ∃ type x, v = .struct type x)
    {key value : Kind} {e : Datum × Value} (hkey : Fits index isMessage key (.datum e.1))
    {trace : Trace} (hvalue : CarriesKind index least value e.2 trace) :
    CarriesEntry index least key value e (.token (.scalar e.1) :: trace) := by
  obtain ⟨hwrite,hread⟩ := carries_key hstruct hkey
  have hentry : (fun depth => writeEntry (writeValue (encodeRun index depth) key)
      (writeValue (encodeRun index depth) value) e) = fun depth =>
        (writeValue (encodeRun index depth) value e.2).map (.token (.scalar e.1) :: ·) := by
    funext depth
    rw [writeEntry,hwrite,Option.map_eq_bind]
    rfl
  rw [CarriesEntry,hentry]
  refine Carries.cons hvalue (f := fun w => (e.1,w)) (fun depth stream => ?_) ?_
  · rw [readEntry,hread,Option.map_eq_bind]
    rfl
  · intro _ _ w _ _ hsame
    exact hsame rfl

theorem length_of_readItems {β : Type} {read : List Token → Option (β × List Token)} {n : ℕ}
    {stream after : List Token} {ys : List β} (h : readItems read n stream = some (ys,after)) :
    ys.length = n := by
  induction n generalizing stream ys with
  | zero =>
    cases h
    rfl
  | succ n ih =>
    obtain ⟨y,next,zs,-,hzs,rfl⟩ := readItems_succ_eq_some h
    rw [List.length_cons,ih hzs]

theorem carries_array {element : Kind} (hwire : ∃ wire, wireKind element = .ok wire)
    {items : List Value} (h : ∀ x ∈ items, ∃ trace, CarriesKind index least element x trace) :
    ∃ trace, CarriesKind index least (.repeated element) (.array items) trace := by
  obtain ⟨wire,hwire⟩ := hwire
  obtain ⟨trace,htrace⟩ := carries_items h
  refine ⟨.token (.array items.length wire) :: trace,?_⟩
  have hwrite : (fun depth => writeValue (encodeRun index depth) (.repeated element) (.array items)) =
      fun depth => ((items.mapM (writeValue (encodeRun index depth) element)).map
        List.flatten).map (.token (.array items.length wire) :: ·) := by
    funext depth
    rw [writeValue,hwire,Option.map_map,Option.map_eq_bind]
    rfl
  rw [CarriesKind,hwrite]
  refine htrace.cons (f := Value.array) (fun depth stream => ?_) ?_
  · rw [readValue,hwire,Option.map_eq_bind]
    simp [Except.toOption,readArray]
  · intro _ _ ys _ _ hsame
    cases hsame with
    | array hsame => exact hsame

theorem carries_map (hstruct : ∀ name v, isMessage name v → ∃ type x, v = .struct type x)
    {key value : Kind} (hkeyWire : ∃ wire, wireKind key = .ok wire)
    (hvalueWire : ∃ wire, wireKind value = .ok wire) {entries : List (Datum × Value)}
    (hnodup : (keysOf entries).Nodup) (hkey : ∀ e ∈ entries, Fits index isMessage key (.datum e.1))
    (h : ∀ e ∈ entries, ∃ trace, CarriesKind index least value e.2 trace) :
    ∃ trace, CarriesKind index least (.map key value) (.map entries) trace := by
  obtain ⟨keyWire,hkeyWire⟩ := hkeyWire
  obtain ⟨valueWire,hvalueWire⟩ := hvalueWire
  have hentries : ∀ e ∈ entries, ∃ trace, CarriesEntry index least key value e trace := by
    intro e he
    obtain ⟨trace,htrace⟩ := h e he
    exact ⟨_,carries_entry hstruct (hkey e he) htrace⟩
  obtain ⟨trace,htrace⟩ := carries_items hentries
  refine ⟨.token (.map entries.length keyWire valueWire) :: trace,?_⟩
  have hwrite : (fun depth => writeValue (encodeRun index depth) (.map key value) (.map entries)) =
      fun depth => ((entries.mapM (writeEntry (writeValue (encodeRun index depth) key)
        (writeValue (encodeRun index depth) value))).map List.flatten).map
          (.token (.map entries.length keyWire valueWire) :: ·) := by
    funext depth
    rw [writeValue,hkeyWire,hvalueWire,Option.map_map,Option.map_eq_bind]
    rfl
  have hinsert : entries.foldl insertEntry [] = entries := foldl_insertEntry_of_nodup hnodup
  rw [CarriesKind,hwrite]
  have hcons := htrace.cons (t := .map entries.length keyWire valueWire)
    (r := fun depth => readValue index (decodeRun index depth) (.map key value))
    (s := (Value.map entries).Same) (f := fun es => .map (es.foldl insertEntry [])) ?_ ?_
  · rwa [hinsert] at hcons
  · intro depth stream
    rw [readValue,hkeyWire,hvalueWire,Option.map_eq_bind]
    simp [Except.toOption,readMap]
  · intro _ _ fs _ hread hsame
    exact same_entries hnodup (length_of_readItems hread) hsame

/-- Every value of a kind is carried by a trace, if every message is. -/
theorem carries_value (he : EnumsApart index)
    (hstruct : ∀ name v, isMessage name v → ∃ type x, v = .struct type x)
    (hmessage : ∀ name v, isMessage name v →
      ∃ trace, CarriesKind index least (.message name) v trace)
    {kind : Kind} (hkind : holdsOneof kind = false) {v : Value} (h : Fits index isMessage kind v) :
    ∃ trace, CarriesKind index least kind v trace := by
  induction kind generalizing v with
  | integer bits signed | float bits | bool | string | bytes =>
    obtain ⟨d,rfl,hd⟩ := carries_datum h v.Same least
    exact ⟨_,hd⟩
  | enum name =>
    obtain ⟨variants,hvariants,x,hx,rfl⟩ := h
    exact ⟨_,carries_variant he hvariants hx _ least⟩
  | message name => exact hmessage name v h
  | repeated element ih =>
    have helement : holdsOneof element = false := hkind
    obtain ⟨items,rfl,hitems⟩ := h
    exact carries_array (wireKind_eq_ok helement) fun x hx => ih helement (hitems x hx)
  | map key value _ ihValue =>
    obtain ⟨hkey,hvalue⟩ : holdsOneof key = false ∧ holdsOneof value = false := by
      simpa [holdsOneof] using hkind
    obtain ⟨entries,rfl,hnodup,hentries⟩ := h
    exact carries_map hstruct (wireKind_eq_ok hkey) (wireKind_eq_ok hvalue) hnodup
      (fun e hmem => (hentries e hmem).1) fun e hmem => ihValue hvalue (hentries e hmem).2
  | oneof group number inner => cases hkind

end Kinds

end SchemaCodec.Codec
