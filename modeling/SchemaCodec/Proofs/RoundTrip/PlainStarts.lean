import SchemaCodec.Proofs.RoundTrip.Generated

/-! # Messages that announce themselves

A message that writes a plain field first starts with a token that is taken for nothing else. Where
every message does so, no trace misleads its reader, and every value is read back.
-/
namespace SchemaCodec
open Codec

namespace Codec

/-- A trace that is clear whatever follows it. -/
def Steady (trace : Trace) : Prop := ∀ rest, Clear trace rest

theorem Announced.append {a : Trace} (h : Announced a) (b : Trace) : Announced (a ++ b) := by
  intro rest
  rw [tokens_append,List.append_assoc]
  exact h (tokens b ++ rest)

theorem Steady.append {a b : Trace} (ha : Steady a) (hb : Steady b) : Steady (a ++ b) :=
  fun rest => clear_append.mpr ⟨ha (tokens b ++ rest),hb rest⟩

theorem Steady.token {trace : Trace} (h : Steady trace) (t : Token) : Steady (.token t :: trace) := h

theorem steady_opened {trace : Trace} (ha : Announced trace) (hs : Steady trace) (guarded : Bool) :
    Steady (.opened guarded :: trace) :=
  fun rest => ⟨(ha rest).2,fun _ => (ha rest).1,hs rest⟩

theorem steady_flatten {β : Type} {write : β → Option Trace} {xs : List β} {parts : List Trace}
    (h : xs.mapM write = some parts) (hsteady : ∀ x ∈ xs, ∀ t, write x = some t → Steady t) :
    Steady parts.flatten := by
  induction xs generalizing parts with
  | nil =>
    cases h
    exact fun _ => trivial
  | cons x xs ih =>
    rw [List.mapM_cons] at h
    obtain ⟨t,ht,h⟩ := Option.bind_eq_some_iff.mp h
    obtain ⟨later,hlater,h⟩ := Option.bind_eq_some_iff.mp h
    cases h
    have hrest := ih hlater fun y hy => hsteady y (List.mem_cons_of_mem x hy)
    exact (hsteady x List.mem_cons_self t ht).append hrest

section Written
variable {method : Value → Option Trace}
  (hmethod : ∀ v t, method v = some t → Announced t ∧ Steady t)
include hmethod

theorem steady_message {guarded : Bool} {v : Value} {trace : Trace}
    (h : writeMessage method guarded v = some trace) : Steady trace := by
  obtain ⟨t,ht,rfl⟩ := Option.map_eq_some_iff.mp h
  obtain ⟨hannounced,hsteady⟩ := hmethod v t ht
  exact steady_opened hannounced hsteady guarded

/-- What is written for a value is steady, if what is written for messages is. -/
theorem steady_value {kind : Kind} {v : Value} {trace : Trace}
    (h : writeValue method kind v = some trace) : Steady trace := by
  induction kind generalizing v trace with
  | integer bits signed | float bits | bool | string | bytes =>
    unfold writeValue writeDatum at h
    split at h
    · split at h
      · cases h
        exact fun _ => trivial
      · cases h
    · cases h
  | enum name =>
    unfold writeValue writeNumber at h
    split at h
    · cases h
      exact fun _ => trivial
    · cases h
  | message name => exact steady_message hmethod h
  | repeated element ih =>
    cases v with
    | array items =>
      obtain ⟨wire,-,h⟩ := Option.bind_eq_some_iff.mp h
      obtain ⟨parts,hparts,h⟩ := Option.bind_eq_some_iff.mp h
      cases h
      exact (steady_flatten hparts fun x _ t ht => ih ht).token _
    | _ => cases h
  | map key value ihKey ihValue =>
    cases v with
    | map entries =>
      obtain ⟨keyWire,-,h⟩ := Option.bind_eq_some_iff.mp h
      obtain ⟨valueWire,-,h⟩ := Option.bind_eq_some_iff.mp h
      obtain ⟨parts,hparts,h⟩ := Option.bind_eq_some_iff.mp h
      cases h
      refine (steady_flatten hparts fun e _ t ht => ?_).token _
      obtain ⟨a,ha,ht⟩ := Option.bind_eq_some_iff.mp ht
      obtain ⟨b,hb,ht⟩ := Option.bind_eq_some_iff.mp ht
      cases ht
      exact (ihKey ha).append (ihValue hb)
    | _ => cases h
  | oneof group number inner => cases h

theorem steady_part {p : Part} {v : Value} {trace : Trace} (h : p.write method v = some trace) :
    Steady trace := by
  cases p with
  | plain name kind => exact steady_value hmethod h
  | optional name type =>
    cases v with
    | none =>
      cases h
      exact fun _ => trivial
    | some u => exact steady_message hmethod h
    | _ => cases h
  | group name members =>
    cases v with
    | none =>
      cases h
      exact fun _ => trivial
    | member variant u =>
      obtain ⟨member,-,h⟩ := Option.bind_eq_some_iff.mp h
      obtain ⟨written,hwritten,h⟩ := Option.bind_eq_some_iff.mp h
      cases h
      exact (steady_value hmethod hwritten).token _
    | _ => cases h

end Written

/-- The first part of a message, in the order of field numbers, is a plain field. -/
def StartsPlain (m : Message) : Prop := ∃ name kind later, partsOf m = .plain name kind :: later

theorem startsAbsent_of_plain {m : Message} {name : String} {kind : Kind}
    (h : .plain name kind ∈ partsOf m) : startsAbsent kind = false := by
  obtain ⟨run,hrun,hpart⟩ := List.mem_map.mp h
  cases run with
  | plain b =>
    obtain ⟨-,hgroup⟩ := isFrom_of_mem_runs _ _ hrun
    obtain ⟨field,kind',code⟩ := b
    cases kind' with
    | oneof group number inner => cases hgroup
    | message type => cases hpart
    | _ =>
      cases hpart
      rfl
  | group group first more => cases hpart

/-- Where all messages start with plain fields, every message announces itself, and its trace is
clear whatever follows. -/
theorem steady_encodeRun {index : TypeIndex} (hc : Codable index)
    (hplain : ∀ name m, messageOf? index name = some m → StartsPlain m) (depth : ℕ) (v : Value)
    (trace : Trace) (h : encodeRun index depth v = some trace) : Announced trace ∧ Steady trace := by
  induction depth generalizing v trace with
  | zero => cases h
  | succ depth ih =>
    cases v with
    | struct name slots =>
      cases hm : messageOf? index name with
      | none =>
        rw [encodeRun,hm] at h
        cases h
      | some m =>
        obtain ⟨table,ht⟩ := hc.encode name m hm
        obtain ⟨field,kind,later,hparts⟩ := hplain name m hm
        have hkind : startsAbsent kind = false :=
          startsAbsent_of_plain (m := m) (hparts ▸ List.mem_cons_self)
        rw [encodeRun_succ hm ht] at h
        obtain ⟨parts,hwritten,rfl⟩ := Option.map_eq_some_iff.mp h
        refine ⟨?_,steady_flatten hwritten fun p _ t hw => steady_part ih hw⟩
        rw [hparts,List.mapM_cons] at hwritten
        obtain ⟨first,hfirst,hwritten⟩ := Option.bind_eq_some_iff.mp hwritten
        obtain ⟨rest,-,hwritten⟩ := Option.bind_eq_some_iff.mp hwritten
        cases hwritten
        exact (announced_of_write hkind hfirst).append rest.flatten
    | _ => cases h

end Codec

/-- Where every message has a plain field first, each value of each message is read back from what
was written for it, whatever follows. -/
theorem Generates.reads_back {sources : List (String × String)} {files : List SchemaFile}
    (h : Generates sources files)
    (hplain : ∀ name m, messageOf? (TypeIndex.ofFiles files) name = some m → StartsPlain m)
    {name : String} {v : Value} (hv : IsValueOf (TypeIndex.ofFiles files) name v) :
    ∃ trace, Encodes (TypeIndex.ofFiles files) v trace ∧
      ∀ rest, Decodes (TypeIndex.ofFiles files) name (tokens trace ++ rest) v rest := by
  obtain ⟨trace,htrace,hback⟩ := h.codable.round_trip hv
  refine ⟨trace,htrace,fun rest => (hback rest).2 ((hback rest).1.mpr ?_)⟩
  obtain ⟨least,hleast⟩ := htrace
  obtain ⟨hannounced,hsteady⟩ :=
    steady_encodeRun h.codable hplain least v trace (hleast least (Nat.le_refl least))
  exact steady_opened hannounced hsteady false rest

end SchemaCodec
