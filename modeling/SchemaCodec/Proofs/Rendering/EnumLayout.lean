import Mathlib.Data.List.Nodup
import SchemaCodec.Proofs.Text.Radix
import SchemaCodec.Rendering.EnumLayout

/-! # Enums with a layout

An enum has no fault exactly if it has values, their numbers fit in 32 bits, and no two values share
a number. Otherwise its fault is that of its first value out of order: one that does not fit, or that
shares its number with a value before it. A fault has a report unless a number in it is too long.
-/
namespace SchemaCodec
open Rendering

/-- An enum whose values have numbers of their own, which fit in 32 bits. -/
structure EnumDecl.HasLayout (decl : EnumDecl) : Prop where
  nonempty : decl.values ≠ []
  distinct : (decl.values.map (·.number)).Nodup
  range : ∀ v ∈ decl.values, 0 ≤ v.number ∧ v.number ≤ maxEnumNumber

namespace Rendering

theorem valuesFault?_eq_none_iff {enum : String} {before rest : List EnumValue} :
    valuesFault? enum before rest = none ↔
      (∀ v ∈ rest, 0 ≤ v.number ∧ v.number ≤ maxEnumNumber) ∧ (rest.map (·.number)).Nodup ∧
        ∀ v ∈ rest, ∀ w ∈ before, w.number ≠ v.number := by
  induction rest generalizing before with
  | nil => simp [valuesFault?]
  | cons v rest ih =>
    unfold valuesFault?
    by_cases hrange : v.number < 0 ∨ maxEnumNumber < v.number
    · rw [if_pos hrange]
      refine iff_of_false (by simp) fun ⟨hranges,_⟩ => ?_
      have := hranges v List.mem_cons_self
      omega
    rw [if_neg hrange]
    cases hfind : before.find? fun w => w.number == v.number with
    | some w =>
      refine iff_of_false (by simp) fun ⟨_,_,hbefore⟩ => ?_
      have hsame : w.number = v.number := by simpa using List.find?_some hfind
      exact hbefore v List.mem_cons_self w (List.mem_of_find?_eq_some hfind) hsame
    | none =>
      have hfirst : ∀ w ∈ before, w.number ≠ v.number := by
        simpa [List.find?_eq_none] using hfind
      simp only
      rw [ih]
      constructor
      · rintro ⟨hranges,hnodup,hbefore⟩
        refine ⟨?_,List.nodup_cons.mpr ⟨fun hmem => ?_,hnodup⟩,?_⟩
        · intro w hw
          rcases List.mem_cons.mp hw with rfl | hw
          · omega
          · exact hranges w hw
        · obtain ⟨w,hw,heq⟩ := List.mem_map.mp hmem
          exact hbefore w hw v (by simp) heq.symm
        · intro w hw u hu
          rcases List.mem_cons.mp hw with rfl | hw
          · exact hfirst u hu
          · exact hbefore w hw u (List.mem_append_left _ hu)
      · rintro ⟨hranges,hnodup,hbefore⟩
        obtain ⟨hnew,hnodup⟩ := List.nodup_cons.mp hnodup
        refine ⟨fun w hw => hranges w (List.mem_cons_of_mem v hw),hnodup,fun w hw u hu heq => ?_⟩
        rcases List.mem_append.mp hu with hu | hu
        · exact hbefore w (List.mem_cons_of_mem v hw) u hu heq
        · rw [List.mem_singleton.mp hu] at heq
          exact hnew (List.mem_map.mpr ⟨w,hw,heq.symm⟩)

theorem enumFault?_eq_none_iff {decl : EnumDecl} : enumFault? decl = none ↔ decl.HasLayout := by
  unfold enumFault?
  by_cases hempty : decl.values = []
  · exact iff_of_false (by simp [hempty]) fun h => h.nonempty hempty
  · rw [if_neg (by simpa using hempty),valuesFault?_eq_none_iff]
    constructor
    · rintro ⟨hrange,hnodup,-⟩
      exact ⟨hempty,hnodup,hrange⟩
    · rintro ⟨-,hnodup,hrange⟩
      exact ⟨hrange,hnodup,by simp⟩

/-- A file has no fault of layout exactly if all of its enums have one. -/
theorem layoutFault?_eq_none_iff {file : SchemaFile} :
    layoutFault? file = none ↔ ∀ decl, .enum decl ∈ file.declarations → decl.HasLayout := by
  rw [layoutFault?,List.findSome?_eq_none_iff]
  constructor
  · intro h decl hdecl
    exact enumFault?_eq_none_iff.mp (h _ hdecl)
  · intro h d hd
    cases d with
    | message m => rfl
    | enum decl => exact enumFault?_eq_none_iff.mpr (h decl hd)

/-! ## The first fault -/

/-- Values whose numbers fit and are distinct. -/
structure LaidOut (values : List EnumValue) : Prop where
  distinct : (values.map (·.number)).Nodup
  range : ∀ v ∈ values, 0 ≤ v.number ∧ v.number ≤ maxEnumNumber

/-- The first thing that is wrong with an enum: that it has no values, that a number does not fit, or
that a number comes up for the second time. All values before it are in order. -/
inductive EnumFault.FirstOf (decl : EnumDecl) : EnumFault → Prop
  | noValues (hempty : decl.values = []) : FirstOf decl (.noValues decl.fullName)
  | outOfRange {before after : List EnumValue} {v : EnumValue}
      (hsplit : decl.values = before ++ v :: after) (hbefore : LaidOut before)
      (hv : v.number < 0 ∨ maxEnumNumber < v.number) :
      FirstOf decl (.outOfRange decl.fullName v.name v.number)
  | sharedNumber {before after : List EnumValue} {v w : EnumValue}
      (hsplit : decl.values = before ++ v :: after) (hbefore : LaidOut before)
      (hv : 0 ≤ v.number ∧ v.number ≤ maxEnumNumber) (hw : w ∈ before)
      (hnumber : w.number = v.number) : FirstOf decl (.sharedNumber decl.fullName v.name w.name)

theorem LaidOut.concat {before : List EnumValue} {v : EnumValue} (h : LaidOut before)
    (hv : 0 ≤ v.number ∧ v.number ≤ maxEnumNumber) (hnew : ∀ w ∈ before, w.number ≠ v.number) :
    LaidOut (before ++ [v]) := by
  constructor
  · rw [List.map_append,List.map_singleton,List.nodup_append]
    refine ⟨h.distinct,List.nodup_singleton _,fun n hn m hm => ?_⟩
    obtain ⟨w,hw,rfl⟩ := List.mem_map.mp hn
    rw [List.mem_singleton.mp hm]
    exact hnew w hw
  · exact List.forall_mem_append.mpr ⟨h.range,List.forall_mem_singleton.mpr hv⟩

/-- The values after those in order are read up to the first that is out of order. -/
theorem firstOf_valuesFault? {decl : EnumDecl} {before rest : List EnumValue} {fault : EnumFault}
    (hsplit : decl.values = before ++ rest) (hbefore : LaidOut before)
    (h : valuesFault? decl.fullName before rest = some fault) : fault.FirstOf decl := by
  induction rest generalizing before with
  | nil => cases h
  | cons v rest ih =>
    unfold valuesFault? at h
    by_cases hrange : v.number < 0 ∨ maxEnumNumber < v.number
    · rw [if_pos hrange] at h
      cases h
      exact .outOfRange hsplit hbefore hrange
    rw [if_neg hrange] at h
    have hv : 0 ≤ v.number ∧ v.number ≤ maxEnumNumber := by omega
    cases hfind : before.find? fun w => w.number == v.number with
    | some w =>
      rw [hfind] at h
      cases h
      exact .sharedNumber hsplit hbefore hv (List.mem_of_find?_eq_some hfind)
        (by simpa using List.find?_some hfind)
    | none =>
      rw [hfind] at h
      have hnew : ∀ w ∈ before, w.number ≠ v.number := by
        simpa [List.find?_eq_none] using hfind
      refine ih ?_ (hbefore.concat hv hnew) h
      rw [hsplit,List.append_assoc,List.singleton_append]

theorem firstOf_enumFault? {decl : EnumDecl} {fault : EnumFault}
    (h : enumFault? decl = some fault) : fault.FirstOf decl := by
  unfold enumFault? at h
  by_cases hempty : decl.values = []
  · rw [if_pos (by simpa using hempty)] at h
    cases h
    exact .noValues hempty
  · rw [if_neg (by simpa using hempty)] at h
    exact firstOf_valuesFault? (List.nil_append _).symm ⟨List.nodup_nil,by simp⟩ h

theorem LaidOut.of_append {before more : List EnumValue} (h : LaidOut (before ++ more)) :
    LaidOut before :=
  ⟨h.distinct.sublist ((List.sublist_append_left _ _).map _),
    fun v hv => h.range v (List.mem_append_left _ hv)⟩

theorem valuesFault?_append (enum : String) {before more : List EnumValue}
    (h : LaidOut (before ++ more)) (rest : List EnumValue) :
    valuesFault? enum before (more ++ rest) = valuesFault? enum (before ++ more) rest := by
  induction more generalizing before with
  | nil => rw [List.nil_append,List.append_nil]
  | cons v more ih =>
    rw [List.append_cons] at h ⊢
    rw [← ih h,List.cons_append,valuesFault?]
    obtain ⟨hdistinct,hrange⟩ := h.of_append
    have hv := hrange v (by simp)
    have hnone : before.find? (fun w => w.number == v.number) = none := by
      refine List.find?_eq_none.mpr fun w hw hsame => ?_
      rw [List.map_append,List.nodup_append] at hdistinct
      exact hdistinct.2.2 _ (List.mem_map_of_mem hw) _ List.mem_cons_self (by simpa using hsame)
    rw [if_neg (by omega),hnone]

/-- Of values with distinct numbers, the one that is found by its number is the only one. -/
theorem find?_number {values : List EnumValue} (hn : (values.map (·.number)).Nodup)
    {v : EnumValue} (hv : v ∈ values) :
    values.find? (fun w => w.number == v.number) = some v := by
  cases hfind : values.find? fun w => w.number == v.number with
  | none => simpa using List.find?_eq_none.mp hfind v hv
  | some w =>
    have hsame : w.number = v.number := by simpa using List.find?_some hfind
    rw [List.inj_on_of_nodup_map hn (List.mem_of_find?_eq_some hfind) hv hsame]

theorem enumFault?_of_firstOf {decl : EnumDecl} {fault : EnumFault} (h : fault.FirstOf decl) :
    enumFault? decl = some fault := by
  have hfrom {before rest : List EnumValue} (hsplit : decl.values = before ++ rest)
      (hbefore : LaidOut before) (hrest : rest ≠ []) :
      enumFault? decl = valuesFault? decl.fullName before rest := by
    rw [enumFault?,if_neg (by simp [hsplit,hrest]),hsplit,
      valuesFault?_append _ (by simpa using hbefore),List.nil_append]
  cases h with
  | noValues hempty => rw [enumFault?,if_pos (by simp [hempty])]
  | outOfRange hsplit hbefore hv =>
    rw [hfrom hsplit hbefore (List.cons_ne_nil _ _),valuesFault?,if_pos hv]
  | @sharedNumber before after v w hsplit hbefore hv hw hnumber =>
    rw [hfrom hsplit hbefore (List.cons_ne_nil _ _),valuesFault?,if_neg (by omega),← hnumber,
      find?_number hbefore.distinct hw]

theorem enumFault?_eq_some_iff {decl : EnumDecl} {fault : EnumFault} :
    enumFault? decl = some fault ↔ fault.FirstOf decl :=
  ⟨firstOf_enumFault?,enumFault?_of_firstOf⟩

/-- The fault of a file is the first one of the first enum that has one. -/
theorem layoutFault?_eq_some_iff {file : SchemaFile} {fault : EnumFault} :
    layoutFault? file = some fault ↔ ∃ before decl after,
      file.declarations = before ++ .enum decl :: after ∧
      (∀ e, .enum e ∈ before → e.HasLayout) ∧ fault.FirstOf decl := by
  rw [layoutFault?,List.findSome?_eq_some_iff]
  constructor
  · rintro ⟨before,d,after,hsplit,hd,hbefore⟩
    cases d with
    | message m => cases hd
    | enum decl =>
      refine ⟨before,decl,after,hsplit,fun e he => ?_,enumFault?_eq_some_iff.mp hd⟩
      exact enumFault?_eq_none_iff.mp (hbefore _ he)
  · rintro ⟨before,decl,after,hsplit,hbefore,hfirst⟩
    refine ⟨before,.enum decl,after,hsplit,enumFault?_eq_some_iff.mpr hfirst,fun d hd => ?_⟩
    cases d with
    | message m => rfl
    | enum e => exact enumFault?_eq_none_iff.mpr (hbefore e hd)

/-! ## Reports -/

/-- A fault in whose report no number has too many digits. -/
def EnumFault.Reportable (fault : EnumFault) : Prop :=
  ∀ enum value number, fault = .outOfRange enum value number →
    number.natAbs < 10 ^ Text.digitLimit

theorem EnumFault.exists_message?_iff {fault : EnumFault} :
    (∃ text, fault.message? = some text) ↔ fault.Reportable := by
  cases fault with
  | noValues enum => exact iff_of_true ⟨_,rfl⟩ fun _ _ _ h => nomatch h
  | sharedNumber enum value earlier => exact iff_of_true ⟨_,rfl⟩ fun _ _ _ h => nomatch h
  | outOfRange enum value number =>
    have hwritable : (EnumFault.outOfRange enum value number).Reportable ↔
        Text.isWritable number = true := by
      rw [Text.isWritable_iff]
      refine ⟨fun h => h enum value number rfl,fun h => ?_⟩
      rintro _ _ _ ⟨⟩
      exact h
    rw [hwritable,message?,Text.decimalText?]
    cases Text.isWritable number <;> simp

theorem EnumFault.message?_eq_none_iff {fault : EnumFault} :
    fault.message? = none ↔ ¬ fault.Reportable := by
  rw [← exists_message?_iff,← Option.isSome_iff_exists,Option.not_isSome_iff_eq_none]

end Rendering
end SchemaCodec
