import SchemaCodec.Proofs.RoundTrip.Fields

/-! # Messages over a stream

The trace of a message is made of those of its parts. The parts have slots of their own, so none of
them undoes what another one has stored. By induction on the depth of messages, every value of every
message is carried by its trace.
-/
namespace SchemaCodec.Codec

theorem stored_self (y : Slot → Value) (s : Slot) (r : Option Value) :
    (r.elim y (storeSlot y s)) s = r.getD (y s) := by
  cases r with
  | none => rfl
  | some v => simp [storeSlot]

theorem stored_of_ne (y : Slot → Value) {s t : Slot} (h : t ≠ s) (r : Option Value) :
    (r.elim y (storeSlot y s)) t = y t := by
  cases r with
  | none => rfl
  | some v => simp [storeSlot,h]

section Parts
variable {index : TypeIndex} {method : Methods}

theorem readParts_cons_eq_some {p : Part} {ps : List Part} {y z : Slot → Value}
    {stream after : List Token} (h : readParts index method (p :: ps) (y,stream) = some (z,after)) :
    ∃ r next, p.read index method stream = some (r,next) ∧
      readParts index method ps (r.elim y (storeSlot y p.slot),next) = some (z,after) := by
  obtain ⟨state,hstate,hrest⟩ := Option.bind_eq_some_iff.mp h
  obtain ⟨⟨r,next⟩,hr,rfl⟩ := Option.map_eq_some_iff.mp hstate
  exact ⟨r,next,hr,hrest⟩

theorem readParts_cons {p : Part} {ps : List Part} {y : Slot → Value} {stream next : List Token}
    {r : Option Value} (h : p.read index method stream = some (r,next)) :
    readParts index method (p :: ps) (y,stream) =
      readParts index method ps (r.elim y (storeSlot y p.slot),next) := by
  rw [readParts,List.foldlM_cons,Part.readInto,h]
  rfl

/-- Reading parts stores in their slots only. -/
theorem readParts_frame {ps : List Part} {y z : Slot → Value} {stream after : List Token}
    (h : readParts index method ps (y,stream) = some (z,after)) {s : Slot}
    (hs : s ∉ ps.map Part.slot) : z s = y s := by
  induction ps generalizing y stream with
  | nil =>
    cases h
    rfl
  | cons p ps ih =>
    obtain ⟨r,next,-,hrest⟩ := readParts_cons_eq_some h
    have hp : s ≠ p.slot := List.ne_of_not_mem_cons hs
    rw [ih hrest (List.not_mem_of_not_mem_cons hs),stored_of_ne y hp]

end Parts

/-- Writing parts leaves the trace. Reading them from slots that hold `initial` fills the slots with
the values of `x`, if the trace is clear, and cannot fill them with the same values otherwise. -/
structure CarriesParts (index : TypeIndex) (least : ℕ) (ps : List Part) (initial x : Slot → Value)
    (trace : Trace) : Prop where
  written : ∀ depth ≥ least, writeParts (encodeRun index depth) x ps = some trace
  forth : ∀ depth ≥ least, ∀ rest, Clear trace rest → ∀ y : Slot → Value,
    (∀ p ∈ ps, y p.slot = initial p.slot) → ∃ z,
      readParts index (decodeRun index depth) ps (y,tokens trace ++ rest) = some (z,rest) ∧
      ∀ p ∈ ps, z p.slot = x p.slot
  back : ∀ depth rest (y z : Slot → Value) after, (∀ p ∈ ps, y p.slot = initial p.slot) →
    readParts index (decodeRun index depth) ps (y,tokens trace ++ rest) = some (z,after) →
    (∀ p ∈ ps, (x p.slot).Same (z p.slot)) → Clear trace rest ∧ after = rest

theorem carries_parts {index : TypeIndex} {least : ℕ} {ps : List Part}
    (hnodup : (ps.map Part.slot).Nodup) {initial x : Slot → Value}
    (h : ∀ p ∈ ps, ∃ trace r, r.getD (initial p.slot) = x p.slot ∧
      CarriesPart index least p (initial p.slot) (x p.slot) r trace) :
    ∃ trace, CarriesParts index least ps initial x trace := by
  induction ps with
  | nil =>
    refine ⟨[],fun _ _ => rfl,fun _ _ rest _ y _ => ⟨y,rfl,by simp⟩,?_⟩
    intro _ rest y z after _ hread _
    cases hread
    exact ⟨trivial,rfl⟩
  | cons p ps ih =>
    obtain ⟨hslot,hslots⟩ := List.nodup_cons.mp hnodup
    obtain ⟨first,r,hr,hfirst⟩ := h p List.mem_cons_self
    obtain ⟨later,hlater⟩ := ih hslots fun q hq => h q (List.mem_cons_of_mem p hq)
    have hapart : ∀ q ∈ ps, q.slot ≠ p.slot := by
      intro q hq heq
      exact hslot (heq ▸ List.mem_map_of_mem hq)
    refine ⟨first ++ later,?_,?_,?_⟩
    · intro depth hdepth
      obtain ⟨parts,hparts,hflatten⟩ := Option.map_eq_some_iff.mp (hlater.written depth hdepth)
      rw [writeParts,List.mapM_cons,hfirst.written depth hdepth,hparts,← hflatten]
      rfl
    · intro depth hdepth rest hclear y hy
      obtain ⟨hclearFirst,hclearLater⟩ := clear_append.mp hclear
      have hread := hfirst.forth depth hdepth _ hclearFirst
      obtain ⟨z,hz,hzs⟩ := hlater.forth depth hdepth rest hclearLater
        (r.elim y (storeSlot y p.slot)) fun q hq => by
          rw [stored_of_ne y (hapart q hq),hy q (List.mem_cons_of_mem p hq)]
      refine ⟨z,?_,fun q hq => ?_⟩
      · rw [tokens_append,List.append_assoc,readParts_cons hread,hz]
      · rcases List.mem_cons.mp hq with rfl | hq
        · rw [readParts_frame hz hslot,stored_self,hy q List.mem_cons_self,hr]
        · exact hzs q hq
    · intro depth rest y z after hy hread hsame
      rw [tokens_append,List.append_assoc] at hread
      obtain ⟨r',next,hp,hps⟩ := readParts_cons_eq_some hread
      have hsameFirst : (x p.slot).Same (r'.getD (initial p.slot)) := by
        rw [← hy p List.mem_cons_self,← stored_self,← readParts_frame hps hslot]
        exact hsame p List.mem_cons_self
      obtain ⟨hclearFirst,rfl⟩ := hfirst.back depth _ r' next hp hsameFirst
      obtain ⟨hclearLater,rfl⟩ := hlater.back depth rest _ z after
        (fun q hq => by
          rw [stored_of_ne y (hapart q hq),hy q (List.mem_cons_of_mem p hq)])
        hps fun q hq => hsame q (List.mem_cons_of_mem p hq)
      exact ⟨clear_append.mpr ⟨hclearFirst,hclearLater⟩,rfl⟩

/-- An index whose messages have both methods, and whose types can be told apart where values are
read. -/
structure Codable (index : TypeIndex) : Prop where
  enums : EnumsApart index
  encode : ∀ name m, messageOf? index name = some m → ∃ table, encodeTable index m = .ok table
  decode : ∀ name m, messageOf? index name = some m → ∃ table, decodeTable index m = .ok table
  names : ∀ name m, messageOf? index name = some m → (m.fields.map (·.name)).Nodup
  parts : ∀ name m, messageOf? index name = some m → ∀ p ∈ partsOf m, p.Sound

section Message
variable {index : TypeIndex} (hc : Codable index) {name : String} {m : Message}
  (hm : messageOf? index name = some m)
include hc hm

theorem nodup_names {α : Type} {table : List (Binding α)}
    (h : table.map Binding.forget = fieldBindings m) : (table.map (·.field.name)).Nodup := by
  have hnodup := nodup_fieldBindings (hc.names name m hm)
  rw [← h,List.map_map] at hnodup
  exact hnodup

/-- Before anything is read, the slots that may hold nothing do so, and so do all that are not the
message's own. -/
theorem exists_initial : ∃ initial : Slot → Value,
    (∀ p ∈ partsOf m, p.mayBeAbsent = true → initial p.slot = .none) ∧
    (∀ s ∉ (partsOf m).map Part.slot, initial s = .none) ∧
    ∀ depth stream, decodeRun index (depth + 1) name stream =
      if stream.head? = some .error then none
      else (readParts index (decodeRun index depth) (partsOf m) (initial,stream)).map
        fun state => (.struct name state.1,state.2) := by
  obtain ⟨table,ht⟩ := hc.decode name m hm
  obtain ⟨hbindings,hread⟩ := decodeTable_eq_ok ht
  obtain ⟨entries,hentries,hmem⟩ := initialEntries_eq_some fun b hb => (hread b hb).2
  have hparts : (runs table).map Run.part = partsOf m := parts_of_table hbindings
  refine ⟨initialSlots entries,fun p hp habsent => ?_,fun s hs => ?_,
    decodeRun_succ hm ht hentries⟩
  · rw [← hparts] at hp
    obtain ⟨run,hrun,rfl⟩ := List.mem_map.mp hp
    refine initialSlots_eq_none hmem fun b hb hslot => ?_
    exact startsAbsent_of_slot (nodup_names hc hm hbindings)
      (isFrom_of_mem_runs table run hrun) habsent hb (hslot.trans (slot_part run))
  · refine initialSlots_eq_none hmem fun b hb hslot => absurd ?_ hs
    rw [← hparts,slots_parts,mem_slots_runs]
    exact List.mem_map.mpr ⟨b,hb,hslot⟩

theorem nodup_slots_parts : ((partsOf m).map Part.slot).Nodup := by
  rw [partsOf,slots_parts]
  exact nodup_slots_runs _ (nodup_fieldBindings (hc.names name m hm))

/-- The parts of a value are carried, if the messages in it are. -/
theorem carries_partsOf {depth : ℕ} {slots initial : Slot → Value}
    (hstruct : IsStruct index (IsMessage index depth) m slots)
    (hmessages : CarriesMessages index (IsMessage index depth) depth)
    (habsent : ∀ p ∈ partsOf m, p.mayBeAbsent = true → initial p.slot = .none) :
    ∃ trace, CarriesParts index depth (partsOf m) initial slots trace := by
  have hisStruct : ∀ type v, IsMessage index depth type v → ∃ t x, v = .struct t x := by
    intro type v hv
    cases depth with
    | zero => cases hv
    | succ depth =>
      obtain ⟨m',x,-,rfl,-⟩ := hv
      exact ⟨type,x,rfl⟩
  refine carries_parts (nodup_slots_parts hc hm) fun p hp => ?_
  exact carries_part hc.enums hisStruct hmessages (hc.parts name m hm p hp) (hstruct.parts p hp)
    (habsent p hp)

/-- A message is carried by the trace of its parts. -/
theorem carries_struct {depth : ℕ} {slots initial : Slot → Value} {trace : Trace}
    (htrace : CarriesParts index depth (partsOf m) initial slots trace)
    (hothers : ∀ s ∉ (partsOf m).map Part.slot, slots s = initial s)
    (hdecode : ∀ depth stream, decodeRun index (depth + 1) name stream =
      if stream.head? = some .error then none
      else (readParts index (decodeRun index depth) (partsOf m) (initial,stream)).map
        fun state => (.struct name state.1,state.2)) :
    CarriesKind index (depth + 1) (.message name) (.struct name slots) (.opened false :: trace) := by
  obtain ⟨table,ht⟩ := hc.encode name m hm
  have hsucc : ∀ d ≥ depth + 1, ∃ e ≥ depth, d = e + 1 := by
    intro d hd
    obtain ⟨e,rfl⟩ := Nat.exists_eq_add_of_le' (Nat.le_trans (Nat.succ_pos depth) hd)
    exact ⟨e,Nat.le_of_succ_le_succ hd,rfl⟩
  refine ⟨?_,?_,?_⟩
  · intro d hd
    obtain ⟨e,he,rfl⟩ := hsucc d hd
    rw [writeValue,writeMessage,encodeRun_succ hm ht,htrace.written e he]
    rfl
  · intro d hd rest hclear
    obtain ⟨e,he,rfl⟩ := hsucc d hd
    obtain ⟨herror,-,hclear⟩ := hclear
    obtain ⟨z,hz,hzs⟩ := htrace.forth e he rest hclear initial fun p _ => rfl
    have hslots : z = slots := by
      funext s
      by_cases hs : s ∈ (partsOf m).map Part.slot
      · obtain ⟨p,hp,rfl⟩ := List.mem_map.mp hs
        exact hzs p hp
      · rw [readParts_frame hz hs,hothers s hs]
    rw [tokens_opened,readValue,hdecode,if_neg herror,hz,hslots]
    rfl
  · intro d rest w after hread hsame
    cases d with
    | zero => cases hread
    | succ d =>
      rw [tokens_opened,readValue,hdecode] at hread
      by_cases herror : (tokens trace ++ rest).head? = some .error
      · rw [if_pos herror] at hread
        cases hread
      · rw [if_neg herror] at hread
        obtain ⟨⟨z,next⟩,hz,heq⟩ := Option.map_eq_some_iff.mp hread
        cases heq
        cases hsame with
        | struct _ hsame =>
          obtain ⟨hclear,hafter⟩ := htrace.back d rest initial z next (fun p _ => rfl) hz
            fun p _ => hsame p.slot
          exact ⟨⟨herror,fun h => absurd h Bool.false_ne_true,hclear⟩,hafter⟩

end Message

theorem carries_messages {index : TypeIndex} (hc : Codable index) (depth : ℕ) :
    CarriesMessages index (IsMessage index depth) depth := by
  induction depth with
  | zero =>
    intro name v hv
    cases hv
  | succ depth ih =>
    rintro name v ⟨m,slots,hm,rfl,hstruct⟩
    obtain ⟨initial,habsent,hothers,hdecode⟩ := exists_initial hc hm
    obtain ⟨trace,htrace⟩ := carries_partsOf hc hm hstruct ih habsent
    refine ⟨trace,carries_struct hc hm htrace (fun s hs => ?_) hdecode⟩
    rw [hstruct.others_parts s hs,hothers s hs]

end SchemaCodec.Codec
