import Mathlib
import SchemaCodec.Proofs.RoundTrip.Codable

/-! # What generated code reads back

A message announces itself by nothing: its trace starts with whatever its first part writes. So a
value is read back exactly if no message in it starts with what its reader takes for something else.
A message that holds a message without a value in its first field does not come back.
-/
namespace SchemaCodec
open Codec

namespace Codec

/-- Where `rest` follows the trace of a value, the value is read back and `rest` is left. -/
def ReadsBack (index : TypeIndex) (name : String) (v : Value) (trace : Trace) (rest : List Token) :
    Prop :=
  ∃ w, v.Same w ∧ Decodes index name (tokens trace ++ rest) w rest

section Same
variable {index : TypeIndex} {isMessage : String → Value → Prop}

theorem same_of_isDatum {type : Primitive} {v : Value} (h : IsDatum type v) : v.Same v := by
  obtain ⟨d,rfl,-⟩ := h
  exact .datum d

/-- Values of a kind are the same as themselves: the keys of their maps differ. -/
theorem same_of_fits (hmessage : ∀ name v, isMessage name v → v.Same v) {kind : Kind} {v : Value}
    (h : Fits index isMessage kind v) : v.Same v := by
  induction kind generalizing v with
  | integer bits signed | float bits | bool | string | bytes => exact same_of_isDatum h
  | enum name =>
    obtain ⟨variants,-,x,-,rfl⟩ := h
    exact .variant x.name x.number
  | message name => exact hmessage name v h
  | repeated element ih =>
    obtain ⟨items,rfl,hitems⟩ := h
    exact .array (List.forall₂_same.mpr fun x hx => ih (hitems x hx))
  | map key value _ ihValue =>
    obtain ⟨entries,rfl,hnodup,hentries⟩ := h
    refine .map (fun _ => Iff.rfl) fun k v w hv hw => ?_
    obtain rfl : v = w := congrArg Prod.snd (List.inj_on_of_nodup_map hnodup hv hw rfl)
    exact ihValue (hentries _ hv).2
  | oneof group number inner => cases h

theorem same_of_part (hmessage : ∀ name v, isMessage name v → v.Same v) {p : Part} {v : Value}
    (h : p.Fits index isMessage v) : v.Same v := by
  cases p with
  | plain name kind => exact same_of_fits hmessage h.2
  | optional name type =>
    rcases h with rfl | ⟨u,rfl,hu⟩
    · exact .none
    · exact .some (hmessage type u hu)
  | group name members =>
    rcases h with rfl | ⟨member,-,u,rfl,hu⟩
    · exact .none
    · exact .member member.name (same_of_fits hmessage hu)

theorem same_of_isMessage (depth : ℕ) (name : String) (v : Value)
    (h : IsMessage index depth name v) : v.Same v := by
  induction depth generalizing name v with
  | zero => cases h
  | succ depth ih =>
    obtain ⟨m,slots,-,rfl,hstruct⟩ := h
    refine .struct name fun s => ?_
    by_cases hs : s ∈ (partsOf m).map Part.slot
    · obtain ⟨p,hp,rfl⟩ := List.mem_map.mp hs
      exact same_of_part ih (hstruct.parts p hp)
    · rw [hstruct.others_parts s hs]
      exact .none

end Same

/-- A value is written, and it is read back exactly where its trace is clear. -/
theorem Codable.round_trip {index : TypeIndex} (hc : Codable index) {name : String} {v : Value}
    (hv : IsValueOf index name v) : ∃ trace, Encodes index v trace ∧ ∀ rest,
      (ReadsBack index name v trace rest ↔ Clear (.opened false :: trace) rest) ∧
      (ReadsBack index name v trace rest → Decodes index name (tokens trace ++ rest) v rest) := by
  obtain ⟨depth,hv⟩ := hv
  obtain ⟨trace,htrace⟩ := carries_messages hc depth name v hv
  have hwritten : ∀ d ≥ depth, encodeRun index d v = some trace := by
    intro d hd
    obtain ⟨written,hwritten,heq⟩ := Option.map_eq_some_iff.mp (htrace.written d hd)
    cases heq
    exact hwritten
  have hclear : ∀ rest, ReadsBack index name v trace rest → Clear (.opened false :: trace) rest := by
    rintro rest ⟨w,hsame,least,hread⟩
    exact (htrace.back least rest w rest (hread least (Nat.le_refl least)) hsame).1
  have hforth : ∀ rest, Clear (.opened false :: trace) rest →
      Decodes index name (tokens trace ++ rest) v rest :=
    fun rest hrest => ⟨depth,fun d hd => htrace.forth d hd rest hrest⟩
  refine ⟨trace,⟨depth,hwritten⟩,fun rest => ⟨⟨hclear rest,fun hrest => ?_⟩,fun h => ?_⟩⟩
  · exact ⟨v,same_of_isMessage depth name v hv,hforth rest hrest⟩
  · exact hforth rest (hclear rest h)

end Codec

/-- Generated code writes every value of every message. With more tokens behind them, the tokens are
read back as the value and the others are left exactly if the trace is clear: no message in it that
may be absent starts with a none marker, and none starts with an error. -/
theorem generated_round_trip_iff {sources : List (String × String)} {files : List SchemaFile}
    (h : Generates sources files) {name : String} {v : Value}
    (hv : IsValueOf (TypeIndex.ofFiles files) name v) :
    ∃ trace, Encodes (TypeIndex.ofFiles files) v trace ∧ ∀ rest,
      (ReadsBack (TypeIndex.ofFiles files) name v trace rest ↔
        Clear (.opened false :: trace) rest) ∧
      (ReadsBack (TypeIndex.ofFiles files) name v trace rest →
        Decodes (TypeIndex.ofFiles files) name (tokens trace ++ rest) v rest) :=
  h.codable.round_trip hv

/-- A message that may hold another, which may hold a third. -/
def nestedSource : String :=
  "message A \x7b B b = 1; \x7d\nmessage B \x7b C c = 1; \x7d\nmessage C \x7b bool x = 1; \x7d\n"

def nestedSources : List (String × String) := [("nested.proto",nestedSource)]

def soleField (name : String) (value : ValueType) : Field :=
  ⟨name,1,.singular,value,none,none,none⟩

/-- A message with one field. -/
def oneField (name field : String) (value : ValueType) : Message :=
  ⟨name,name,[soleField field value],[],[],none⟩

def nestedFile : SchemaFile :=
  ⟨"nested.proto","",[],[oneField "A" "b" ⟨.message,some "B"⟩,oneField "B" "c" ⟨.message,some "C"⟩,
    oneField "C" "x" ⟨.scalar .bool,none⟩],[],true⟩

section Nested
open Grammar

def oneFieldTree (line : ℕ) (name type field : String) : Statement :=
  .message line name [.field ⟨line,none,⟨false,⟨type,[]⟩⟩,⟨field,"1",[]⟩⟩]

theorem read_nestedSource : Grammar.read nestedSource.toList =
    .ok [oneFieldTree 1 "A" "B" "b",oneFieldTree 2 "B" "C" "c",oneFieldTree 3 "C" "bool" "x"] := by
  with_unfolding_all rfl

def oneFieldDraft (line : ℕ) (name type field : String) : MessageDraft :=
  ⟨name,[⟨field,1,type,.singular,line⟩],[],[],[],line⟩

def nestedDraft : FileDraft :=
  ⟨"nested.proto","",[],[oneFieldDraft 1 "A" "B" "b",oneFieldDraft 2 "B" "C" "c",
    oneFieldDraft 3 "C" "bool" "x"],[],Text.lines nestedSource.toList⟩

theorem parseAll_nestedSources : parseAll nestedSources = .ok [nestedFile] := by
  have hdraft : draftOf "nested.proto" nestedSource.toList = .ok nestedDraft :=
    draftOf_of_plain none read_nestedSource rfl rfl
  exact parseAll_eq_ok_iff.mpr ⟨_,.cons hdraft .nil,rfl,buildAll_of_plain rfl rfl rfl⟩

theorem generates_nestedSources : Generates nestedSources [nestedFile] :=
  generates_of_run (by decide) parseAll_nestedSources (by decide +kernel)

end Nested

namespace Codec

/-- A struct with one field. -/
def structOf (name field : String) (v : Value) : Value :=
  .struct name (storeSlot (fun _ => .none) (.field field) v)

theorem isMessage_structOf {index : TypeIndex} {name : String} {m : Message} {f : Field}
    (hm : messageOf? index name = some m) (hf : m.fields = [f]) {kind : Kind}
    (hkind : f.kind = .ok kind) (hslot : slotOf f kind = .field f.name) {depth : ℕ} {v : Value}
    (h : ∀ slots : Slot → Value, slots (.field f.name) = v →
      FitsField index (IsMessage index depth) m slots f kind) :
    IsMessage index (depth + 1) name (structOf name f.name v) := by
  refine ⟨m,_,hm,rfl,fun g hg k hk => ?_,fun s hs => ?_⟩
  · obtain rfl : g = f := by simpa [hf] using hg
    cases hkind.symm.trans hk
    exact h _ (if_pos rfl)
  · have hne : s ≠ .field f.name := by
      rintro rfl
      exact hs f (by simp [hf]) kind hkind hslot
    exact if_neg hne

def nestedIndex : TypeIndex := TypeIndex.ofFiles [nestedFile]

theorem messageOf?_a :
    messageOf? nestedIndex "A" = some (oneField "A" "b" ⟨.message,some "B"⟩) := rfl

theorem messageOf?_b :
    messageOf? nestedIndex "B" = some (oneField "B" "c" ⟨.message,some "C"⟩) := rfl

theorem messageOf?_c : messageOf? nestedIndex "C" = some (oneField "C" "x" ⟨.scalar .bool,none⟩) :=
  rfl

/-- An optional message that holds an optional message, which is absent. -/
def hollow : Value := structOf "A" "b" (.some (structOf "B" "c" .none))

theorem isValueOf_hollow : IsValueOf nestedIndex "A" hollow := by
  refine ⟨2,isMessage_structOf messageOf?_a rfl rfl rfl fun _ hb => ?_⟩
  refine .inr ⟨_,hb,isMessage_structOf messageOf?_b rfl rfl rfl fun _ hc => ?_⟩
  exact .inl hc

/-- The value in which everything is present. -/
def filled : Value :=
  structOf "A" "b" (.some (structOf "B" "c" (.some (structOf "C" "x"
    (.datum ⟨.bool,.flag true,rfl⟩)))))

theorem isValueOf_filled : IsValueOf nestedIndex "A" filled := by
  refine ⟨3,isMessage_structOf messageOf?_a rfl rfl rfl fun _ hb => ?_⟩
  refine .inr ⟨_,hb,isMessage_structOf messageOf?_b rfl rfl rfl fun _ hc => ?_⟩
  refine .inr ⟨_,hc,isMessage_structOf messageOf?_c rfl rfl rfl fun _ hx => ?_⟩
  exact ⟨_,hx,rfl⟩

theorem partsOf_a : partsOf (oneField "A" "b" ⟨.message,some "B"⟩) = [.optional "b" "B"] := by
  cbv

theorem partsOf_b : partsOf (oneField "B" "c" ⟨.message,some "C"⟩) = [.optional "c" "C"] := by
  cbv

/-- All that is written is the none marker of the field that is absent inside. -/
theorem encodes_hollow : Encodes nestedIndex hollow [.opened true,.token .none] := by
  have hc : Codable nestedIndex := generates_nestedSources.codable
  obtain ⟨tableA,hA⟩ := hc.encode _ _ messageOf?_a
  obtain ⟨tableB,hB⟩ := hc.encode _ _ messageOf?_b
  have hinner : ∀ d, encodeRun nestedIndex (d + 1) (structOf "B" "c" .none) =
      some [.token .none] := by
    intro d
    rw [structOf,encodeRun_succ messageOf?_b hB,partsOf_b]
    rfl
  refine ⟨2,fun depth hdepth => ?_⟩
  obtain ⟨d,rfl⟩ := Nat.exists_eq_add_of_le' hdepth
  rw [hollow,structOf,encodeRun_succ messageOf?_a hA,partsOf_a]
  simp [writeParts,Part.write,Part.slot,storeSlot,writeMessage,hinner]

/-- The same is written where the optional message is absent itself. -/
theorem encodes_absent : Encodes nestedIndex (structOf "A" "b" .none) [.token .none] := by
  have hc : Codable nestedIndex := generates_nestedSources.codable
  obtain ⟨tableA,hA⟩ := hc.encode _ _ messageOf?_a
  refine ⟨1,fun depth hdepth => ?_⟩
  obtain ⟨d,rfl⟩ := Nat.exists_eq_add_of_le' hdepth
  rw [structOf,encodeRun_succ messageOf?_a hA,partsOf_a]
  rfl

end Codec

theorem filled_round_trip : Generates nestedSources [nestedFile] ∧
    IsValueOf (TypeIndex.ofFiles [nestedFile]) "A" filled ∧
    ∃ trace, Encodes (TypeIndex.ofFiles [nestedFile]) filled trace ∧ ∀ rest,
      (ReadsBack (TypeIndex.ofFiles [nestedFile]) "A" filled trace rest ↔
        Clear (.opened false :: trace) rest) ∧
      (ReadsBack (TypeIndex.ofFiles [nestedFile]) "A" filled trace rest →
        Decodes (TypeIndex.ofFiles [nestedFile]) "A" (tokens trace ++ rest) filled rest) :=
  ⟨generates_nestedSources,isValueOf_filled,
    generated_round_trip_iff generates_nestedSources isValueOf_filled⟩

/-- The presence of a message is lost: a message without the field is read back. -/
theorem hollow_lost : Generates nestedSources [nestedFile] ∧
    IsValueOf nestedIndex "A" hollow ∧
    Encodes nestedIndex hollow [.opened true,.token .none] ∧
    Decodes nestedIndex "A" [.none] (structOf "A" "b" .none) [] ∧
    ¬ ReadsBack nestedIndex "A" hollow [.opened true,.token .none] [] := by
  have hc : Codable nestedIndex := generates_nestedSources.codable
  have habsent : IsValueOf nestedIndex "A" (structOf "A" "b" .none) := by
    refine ⟨1,isMessage_structOf messageOf?_a rfl rfl rfl fun _ hb => ?_⟩
    exact .inl hb
  refine ⟨generates_nestedSources,isValueOf_hollow,encodes_hollow,?_,?_⟩
  · obtain ⟨trace,htrace,h⟩ := hc.round_trip habsent
    obtain rfl := htrace.unique encodes_absent
    exact (h []).2 ((h []).1.mpr (by decide))
  · obtain ⟨trace,htrace,h⟩ := hc.round_trip isValueOf_hollow
    obtain rfl := htrace.unique encodes_hollow
    exact fun hread => absurd ((h []).1.mp hread) (by decide)

end SchemaCodec
