import Mathlib.Algebra.Group.Nat.Defs
import Mathlib.Data.List.Basic
import Mathlib.Data.List.Induction
import Mathlib.Order.Basic
import SchemaCodec.Text.Radix

/-! # Digits and the numbers they write

In every base up to sixteen the digits of a number write that number. The other way round, digits
are some zeros and then the digits of the number that they write.
-/
namespace SchemaCodec.Text
variable {base : ℕ}

/-- A digit of a base, in small letters. -/
def IsDigitOf (base : ℕ) (c : Char) : Prop := ∃ d < base, c = d.digitChar

instance (base : ℕ) (c : Char) : Decidable (IsDigitOf base c) :=
  inferInstanceAs (Decidable (∃ d < base, c = d.digitChar))

theorem ascii_of_isDigitOf (hlimit : base ≤ 16) {c : Char} (h : IsDigitOf base c) :
    c.toNat < 128 := by
  obtain ⟨d,hd,rfl⟩ := h
  have hall : ∀ d < 16, d.digitChar.toNat < 128 := by decide
  exact hall d (by omega)

theorem digitValue_digitChar : ∀ d < 16, digitValue d.digitChar = d := by decide

theorem ofDigits_concat (base : ℕ) (digits : List Char) (c : Char) :
    ofDigits base (digits ++ [c]) = base * ofDigits base digits + digitValue c := by
  simp [ofDigits]

/-- Zeros in front do not change a number. -/
theorem ofDigits_zeros (base zeros : ℕ) (digits : List Char) :
    ofDigits base (List.replicate zeros '0' ++ digits) = ofDigits base digits := by
  have hzero : ofDigits base (List.replicate zeros '0') = 0 := by
    induction zeros with
    | zero => rfl
    | succ zeros ih =>
      rw [List.replicate_succ',ofDigits_concat,ih]
      rfl
  rw [ofDigits,List.foldl_append]
  exact congrArg (fun start => digits.foldl _ start) hzero

section Base
variable (hbase : 1 < base)
include hbase

theorem isDigitOf_of_mem_toDigits {n : ℕ} {c : Char} (h : c ∈ Nat.toDigits base n) :
    IsDigitOf base c := by
  induction n using Nat.strongRecOn with
  | ind n ih =>
    rcases Nat.lt_or_ge n base with hsmall | hlarge
    · rw [Nat.toDigits_of_lt_base hsmall,List.mem_singleton] at h
      exact ⟨n,hsmall,h⟩
    · rw [Nat.toDigits_of_base_le hbase hlarge,List.mem_append,List.mem_singleton] at h
      rcases h with h | h
      · exact ih (n / base) (Nat.div_lt_self (by omega) hbase) h
      · exact ⟨n % base,Nat.mod_lt _ (by omega),h⟩

/-- Zeros and the digits of a number are digits. -/
theorem isDigitOf_of_mem_zeros {zeros n : ℕ} {c : Char}
    (h : c ∈ List.replicate zeros '0' ++ Nat.toDigits base n) : IsDigitOf base c := by
  rcases List.mem_append.mp h with h | h
  · exact ⟨0,by omega,List.eq_of_mem_replicate h⟩
  · exact isDigitOf_of_mem_toDigits hbase h

/-- Only zero begins with a zero. -/
theorem eq_zero_of_head?_toDigits {n : ℕ} (h : (Nat.toDigits base n).head? = some '0') :
    n = 0 := by
  induction n using Nat.strongRecOn with
  | ind n ih =>
    rcases Nat.lt_or_ge n base with hsmall | hlarge
    · rw [Nat.toDigits_of_lt_base hsmall] at h
      exact Nat.digitChar_eq_zero.mp (Option.some.inj h)
    · rw [Nat.toDigits_of_base_le hbase hlarge,
        List.head?_append_of_ne_nil _ Nat.toDigits_ne_nil] at h
      have hzero := ih (n / base) (Nat.div_lt_self (by omega) hbase) h
      have hpos : 0 < n / base := Nat.div_pos hlarge (by omega)
      omega

variable (hlimit : base ≤ 16)
include hlimit

theorem ofDigits_toDigits (n : ℕ) : ofDigits base (Nat.toDigits base n) = n := by
  induction n using Nat.strongRecOn with
  | ind n ih =>
    rcases Nat.lt_or_ge n base with hsmall | hlarge
    · rw [Nat.toDigits_of_lt_base hsmall]
      simpa [ofDigits] using digitValue_digitChar n (by omega)
    · have hlast : n % base < base := Nat.mod_lt _ (by omega)
      rw [Nat.toDigits_of_base_le hbase hlarge,ofDigits_concat,
        ih (n / base) (Nat.div_lt_self (by omega) hbase),digitValue_digitChar _ (by omega)]
      exact Nat.div_add_mod n base

/-- Digits are those of the number that they write, behind some zeros. -/
theorem exists_zeros {digits : List Char} (hne : digits ≠ [])
    (hdigits : ∀ c ∈ digits, IsDigitOf base c) :
    ∃ zeros, digits = List.replicate zeros '0' ++ Nat.toDigits base (ofDigits base digits) := by
  induction digits using List.reverseRecOn with
  | nil => exact absurd rfl hne
  | append_singleton front c ih =>
    obtain ⟨hfront,hc⟩ := List.forall_mem_append.mp hdigits
    obtain ⟨d,hd,rfl⟩ := hc c List.mem_cons_self
    have hlast : Nat.toDigits base d = [d.digitChar] := Nat.toDigits_of_lt_base hd
    rw [ofDigits_concat,digitValue_digitChar d (by omega)]
    by_cases hnil : front = []
    · exact ⟨0,by simp [hnil,ofDigits,hlast]⟩
    · obtain ⟨zeros,hzeros⟩ := ih hnil hfront
      rcases Nat.eq_zero_or_pos (ofDigits base front) with hvalue | hvalue
      · -- What stands before the last digit is all zeros.
        rw [hvalue,Nat.toDigits_zero,← List.replicate_succ'] at hzeros
        refine ⟨zeros + 1,?_⟩
        rw [hvalue,Nat.mul_zero,Nat.zero_add,hlast,← hzeros]
      · refine ⟨zeros,?_⟩
        rw [← Nat.toDigits_append_toDigits hbase hvalue hd,hlast,← List.append_assoc,← hzeros]

end Base

/-- The numbers that can be written in decimal are those of at most so many digits. -/
theorem isWritable_iff {n : Int} : isWritable n = true ↔ n.natAbs < 10 ^ digitLimit := by
  rw [isWritable,decide_eq_true_iff]
  exact Nat.length_toDigits_le_iff (by decide) (by decide)

theorem ofDecimal?_toDigits {n : ℕ} (h : isWritable n = true) :
    ofDecimal? (Nat.toDigits 10 n) = some n := by
  have hlength : (Nat.toDigits 10 n).length ≤ digitLimit := of_decide_eq_true h
  rw [ofDecimal?,if_pos hlength,ofDigits_toDigits (by decide) (by decide)]

end SchemaCodec.Text
