import Mathlib.Data.List.Forall2
import Mathlib.Data.List.Nodup
import Mathlib.Data.List.Perm.Subperm
import Mathlib.Tactic.Positivity
import SchemaCodec.Codec.Basic

/-! # Values of generated types

What the variables and fields of generated code hold: data of primitive types, variants of enums,
vectors, maps and structs. A map is the list of its entries in the order in which it is iterated, so
two maps are the same when they have the same entries.
-/
namespace SchemaCodec.Codec

/-- What a value of a primitive type is made of. A floating-point number is its bit pattern. -/
inductive Payload where
  | number (n : Int)
  | pattern (bits : Nat)
  | flag (b : Bool)
  | text (s : String)
  | bytes (b : List UInt8)
  deriving DecidableEq

/-- Whether a primitive type has room for a payload. -/
def Payload.fits : Primitive → Payload → Bool
  | .integer bits true,.number n => decide (-2 ^ (bits - 1) ≤ n ∧ n < 2 ^ (bits - 1))
  | .integer bits false,.number n => decide (0 ≤ n ∧ n < 2 ^ bits)
  | .float bits,.pattern n => decide (n < 2 ^ bits)
  | .bool,.flag _ | .string,.text _ | .bytes,.bytes _ => true
  | _,_ => false

/-- A value of a primitive type. -/
structure Datum where
  type : Primitive
  payload : Payload
  fits : Payload.fits type payload = true
  deriving DecidableEq

def Datum.u32 (n : Int) : Datum where
  type := Primitive.enumNumber
  payload := .number (n % 4294967296)
  fits := by
    have hlow := Int.emod_nonneg n (b := 4294967296) (by decide)
    have hhigh := Int.emod_lt_of_pos n (b := 4294967296) (by decide)
    simpa [Payload.fits,Primitive.enumNumber] using And.intro hlow hhigh

theorem Datum.payload_u32 {n : Int} (hlow : 0 ≤ n) (hhigh : n < 4294967296) :
    (Datum.u32 n).payload = .number n :=
  congrArg Payload.number (Int.emod_eq_of_lt hlow hhigh)

/-- Where a struct holds a value: in a field, or in the one place of a oneof's members. Places go by
the names of the schema; what identifiers these are given in generated code is no matter here. -/
inductive Slot where
  | field (name : String)
  | group (name : String)
  deriving DecidableEq

inductive Value where
  | datum (d : Datum)
  | variant (name : String) (number : Int)
  | array (items : List Value)
  | map (entries : List (Datum × Value))
  | struct (type : String) (slots : Slot → Value)
  | none
  | some (v : Value)
  | member (name : String) (v : Value)

/-- Equality of values, where maps are compared by their entries and not by the order of these. -/
inductive Value.Same : Value → Value → Prop where
  | datum (d : Datum) : Same (.datum d) (.datum d)
  | variant (name : String) (number : Int) : Same (.variant name number) (.variant name number)
  | array {xs ys : List Value} (h : List.Forall₂ Same xs ys) : Same (.array xs) (.array ys)
  | map {es fs : List (Datum × Value)} (hkeys : ∀ k, k ∈ es.map (·.1) ↔ k ∈ fs.map (·.1))
    (h : ∀ k v w, (k,v) ∈ es → (k,w) ∈ fs → Same v w) : Same (.map es) (.map fs)
  | struct (type : String) {x y : Slot → Value} (h : ∀ s, Same (x s) (y s)) :
    Same (.struct type x) (.struct type y)
  | none : Same .none .none
  | some {v w : Value} (h : Same v w) : Same (.some v) (.some w)
  | member (name : String) {v w : Value} (h : Same v w) : Same (.member name v) (.member name w)

/-- The entries of a map after one more is inserted, which replaces an entry of its key. -/
def insertEntry (es : List (Datum × Value)) (e : Datum × Value) : List (Datum × Value) :=
  if e.1 ∈ es.map (·.1) then es.map fun old => if old.1 = e.1 then e else old else es ++ [e]

/-! ## Entries of a map

Entries of different keys are kept in the order of their insertion. If a map has as many keys as
entries were inserted, none of them replaced another.
-/

abbrev Entries := List (Datum × Value)

def keysOf (es : Entries) : List Datum := es.map (·.1)

theorem keysOf_insertEntry (es : Entries) (e : Datum × Value) :
    keysOf (insertEntry es e) = if e.1 ∈ keysOf es then keysOf es else keysOf es ++ [e.1] := by
  unfold insertEntry
  by_cases he : e.1 ∈ keysOf es
  · rw [if_pos he]
    simp only [show e.1 ∈ es.map (·.1) from he,if_true]
    rw [keysOf,keysOf,List.map_map]
    refine List.map_congr_left fun old _ => ?_
    by_cases ho : old.1 = e.1
    · simp [ho]
    · simp [ho]
  · rw [if_neg he]
    simp only [show e.1 ∉ es.map (·.1) from he,if_false]
    rw [keysOf,List.map_append]
    rfl

/-- Entries whose keys are all different are put behind those of the map. -/
theorem foldl_insertEntry_of_nodup {es acc : Entries} (h : (keysOf (acc ++ es)).Nodup) :
    es.foldl insertEntry acc = acc ++ es := by
  induction es generalizing acc with
  | nil => simp
  | cons e rest ih =>
    have hnew : e.1 ∉ acc.map (·.1) := by
      rw [keysOf,List.map_append] at h
      exact fun hmem => List.disjoint_of_nodup_append h hmem List.mem_cons_self
    have hstep : insertEntry acc e = acc ++ [e] := if_neg hnew
    rw [List.foldl_cons,hstep,ih (by simpa using h),List.append_assoc]
    rfl

theorem mem_keysOf_foldl {es acc : Entries} {k : Datum} (h : k ∈ keysOf (es.foldl insertEntry acc)) :
    k ∈ keysOf acc ∨ k ∈ keysOf es := by
  induction es generalizing acc with
  | nil => exact .inl h
  | cons e rest ih =>
    have hkeys : keysOf (e :: rest) = e.1 :: keysOf rest := rfl
    rw [hkeys]
    rcases ih h with hacc | hrest
    · rw [keysOf_insertEntry] at hacc
      split at hacc
      · exact .inl hacc
      · rcases List.mem_append.mp hacc with hacc | hnew
        · exact .inl hacc
        · exact .inr (List.mem_cons.mpr (.inl (List.mem_singleton.mp hnew)))
    · exact .inr (List.mem_cons_of_mem e.1 hrest)

/-- As many different keys as entries: no entry replaced another. -/
theorem foldl_insertEntry_of_keys {es fs : Entries} (hes : (keysOf es).Nodup)
    (hlength : fs.length = es.length)
    (h : ∀ k ∈ keysOf es, k ∈ keysOf (fs.foldl insertEntry [])) :
    fs.foldl insertEntry [] = fs := by
  have hsub : keysOf es ⊆ keysOf fs := by
    intro k hk
    rcases mem_keysOf_foldl (h k hk) with hnil | hfs
    · cases hnil
    · exact hfs
  have hle : (keysOf fs).length ≤ (keysOf es).length := by
    rw [keysOf,keysOf,List.length_map,List.length_map]
    exact Nat.le_of_eq hlength
  have hperm := (List.subperm_of_subset hes hsub).perm_of_length_le hle
  have hnodup : (keysOf ([] ++ fs)).Nodup := hperm.nodup_iff.mp hes
  exact foldl_insertEntry_of_nodup hnodup

theorem forall₂_of_forall_mem {β γ : Type} {r : β → γ → Prop} {xs : List β} {ys : List γ}
    (hlength : xs.length = ys.length) (h : ∀ x ∈ xs, ∀ y ∈ ys, r x y) : List.Forall₂ r xs ys := by
  induction xs generalizing ys with
  | nil =>
    cases ys with
    | nil => exact .nil
    | cons y ys => cases hlength
  | cons x xs ih =>
    cases ys with
    | nil => cases hlength
    | cons y ys =>
      refine .cons (h x List.mem_cons_self y List.mem_cons_self) (ih (Nat.succ.inj hlength) ?_)
      exact fun a ha b hb => h a (List.mem_cons_of_mem x ha) b (List.mem_cons_of_mem y hb)

/-- Where a map is the same as one that some entries were inserted into, their values are the same
key by key. -/
theorem same_entries {es fs : Entries} (hes : (keysOf es).Nodup) (hlength : fs.length = es.length)
    (h : (Value.map es).Same (.map (fs.foldl insertEntry []))) :
    List.Forall₂ (fun e f => f.1 = e.1 → e.2.Same f.2) es fs := by
  cases h with
  | map hkeys hsame =>
    rw [foldl_insertEntry_of_keys hes hlength fun k hk => (hkeys k).mp hk] at hsame
    refine forall₂_of_forall_mem hlength.symm fun e he f hf hkey => ?_
    exact hsame e.1 e.2 f.2 he (hkey ▸ hf)

/-! ## Tokens and traces

The runtime is a stream of tokens: each call of the encoder appends one, each call of the decoder
takes the one it asks for. A trace of an encode method also marks where the methods of messages
begin, since these write no token of their own. Reading goes right at a mark if what stands there
cannot be taken for an error, nor for a none marker where one is looked for.
-/

inductive Token where
  | none
  | error
  | scalar (d : Datum)
  | array (size : ℕ) (element : WireKind)
  | map (size : ℕ) (key value : WireKind)
  deriving DecidableEq

/-- A token that was written, or the beginning of a message's method; `guarded` says that reading the
message is skipped at a none marker. -/
inductive Event where
  | token (t : Token)
  | opened (guarded : Bool)
  deriving DecidableEq

def Event.token? : Event → Option Token
  | .token t => some t
  | .opened _ => none

abbrev Trace := List Event

/-- The tokens that a trace wrote. -/
def tokens (trace : Trace) : List Token := trace.filterMap Event.token?

/-- Whether nothing at the marks of a trace misleads the reader: `rest` follows the trace. -/
def Clear : (trace : Trace) → (rest : List Token) → Prop
  | [],_ => True
  | .token _ :: trace,rest => Clear trace rest
  | .opened guarded :: trace,rest =>
    (tokens trace ++ rest).head? ≠ some .error ∧
      (guarded = true → (tokens trace ++ rest).head? ≠ some .none) ∧ Clear trace rest

theorem tokens_append (a b : Trace) : tokens (a ++ b) = tokens a ++ tokens b :=
  List.filterMap_append

@[simp] theorem tokens_token (t : Token) (trace : Trace) :
    tokens (.token t :: trace) = t :: tokens trace := rfl

@[simp] theorem tokens_opened (guarded : Bool) (trace : Trace) :
    tokens (.opened guarded :: trace) = tokens trace := rfl

theorem clear_append {a b : Trace} {rest : List Token} :
    Clear (a ++ b) rest ↔ Clear a (tokens b ++ rest) ∧ Clear b rest := by
  induction a with
  | nil => simp [Clear]
  | cons e a ih =>
    cases e with
    | token t => exact ih
    | opened guarded =>
      simp only [List.cons_append,Clear,ih,tokens_append,List.append_assoc]
      tauto

instance decidableClear : (trace : Trace) → (rest : List Token) → Decidable (Clear trace rest)
  | [],_ => isTrue trivial
  | .token _ :: trace,rest => decidableClear trace rest
  | .opened _ :: trace,rest =>
    have := decidableClear trace rest
    inferInstanceAs (Decidable (_ ∧ _ ∧ _))

end SchemaCodec.Codec
