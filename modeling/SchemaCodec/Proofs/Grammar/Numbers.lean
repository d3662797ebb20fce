import SchemaCodec.Grammar.Literal
import SchemaCodec.Proofs.Grammar.Recognition
import SchemaCodec.Proofs.Text.Radix
import SchemaCodec.Text.CodePoints

/-! # Numbers and their spellings

A number can be written in three bases. Each of its spellings is taken whole as one token and has
the number as its value, with a sign before it or none, unless it is decimal and too long. What else
is taken as such a token looks octal and has a digit that octal numbers do not have; it has no value.
-/
namespace SchemaCodec.Grammar
open Text

/-- The ways to write a number: in decimal without needless zeros; in hexadecimal with letters of
either case, behind a zero and an `x`; in octal behind a zero. Zeros may fill up the last two. -/
inductive Writes (n : ℕ) : List Char → Prop
  | decimal : Writes n (Nat.toDigits 10 n)
  | hexadecimal {x : Char} (hx : x = 'x' ∨ x = 'X') {digits : List Char} (zeros : ℕ)
      (h : digits.map Char.toLower = List.replicate zeros '0' ++ Nat.toDigits 16 n) :
      Writes n ('0' :: x :: digits)
  | octal (zeros : ℕ) : Writes n ('0' :: (List.replicate zeros '0' ++ Nat.toDigits 8 n))

/-- What is taken as one integer token, from its first character to its last. -/
def IsIntLiteral (spelling : String) : Prop :=
  spelling ≠ "" ∧ Terminal.int.length spelling.toList = spelling.length

instance (spelling : String) : Decidable (IsIntLiteral spelling) :=
  inferInstanceAs (Decidable (_ ∧ _))

def IsHexadecimal (cs : List Char) : Prop :=
  ∃ x digits, (x = 'x' ∨ x = 'X') ∧ cs = '0' :: x :: digits

/-- Behind a zero, but not hexadecimal, and with a digit that octal numbers do not have. -/
structure Misspelled (cs : List Char) : Prop where
  long : 2 ≤ cs.length
  zero : cs.head? = some '0'
  not_hexadecimal : ¬ IsHexadecimal cs
  digit : '8' ∈ cs ∨ '9' ∈ cs

/-- Decimal, with more digits than a decimal number may have. -/
structure Overlong (cs : List Char) : Prop where
  nonzero : cs.head? ≠ some '0'
  long : digitLimit < cs.length

theorem isIntLiteral_iff {spelling : String} :
    IsIntLiteral spelling ↔ IsInt spelling.toList := by
  have hpos : spelling ≠ "" → 0 < spelling.length := fun hne =>
    Nat.pos_of_ne_zero fun hzero => hne (String.length_eq_zero_iff.mp hzero)
  constructor
  · rintro ⟨hne,hlength⟩
    have hwhole : intLength spelling.toList = spelling.toList.length :=
      hlength.trans String.length_toList.symm
    have htake := isInt_take (hwhole ▸ String.length_toList.symm ▸ hpos hne)
    rwa [hwhole,List.take_length] at htake
  · intro h
    refine ⟨?_,?_⟩
    · rintro rfl
      rcases h with ⟨hne,-⟩ | ⟨_,_,_,_,_,he⟩
      · exact hne rfl
      · cases he
    · have hlength := intLength_append h (show Apart [] from .inl rfl)
      rwa [List.append_nil,String.length_toList] at hlength

/-! ## Digits of each base -/

section Digits

theorem isDigitOf_iff {base : ℕ} (hlimit : base ≤ 16) {p : Char → Bool}
    (hascii : ∀ n < 128, IsDigitOf base (Char.ofNat n) ↔ p (Char.ofNat n) = true)
    (hp : ∀ c, p c = true → c.toNat < 128) {c : Char} : IsDigitOf base c ↔ p c = true := by
  constructor
  · intro h
    exact (forall_ascii (P := fun c => IsDigitOf base c ↔ p c = true) hascii
      (ascii_of_isDigitOf hlimit h)).mp h
  · intro h
    exact (forall_ascii (P := fun c => IsDigitOf base c ↔ p c = true) hascii (hp c h)).mpr h

theorem ascii_of_isDigit {c : Char} (h : c.isDigit = true) : c.toNat < 128 := by
  simp only [Char.isDigit,Bool.and_eq_true,decide_eq_true_eq] at h
  exact Nat.lt_of_le_of_lt (UInt32.le_iff_toNat_le.mp h.2) (by decide)

theorem isDigitOf_ten_iff {c : Char} : IsDigitOf 10 c ↔ c.isDigit = true :=
  isDigitOf_iff (by decide) (by decide) fun _ => ascii_of_isDigit

theorem isDigitOf_eight_iff {c : Char} : IsDigitOf 8 c ↔ isOctalDigit c = true := by
  refine isDigitOf_iff (by decide) (by decide) fun c h => ?_
  simp only [isOctalDigit,Bool.and_eq_true,decide_eq_true_eq] at h
  exact Nat.lt_of_le_of_lt (UInt32.le_iff_toNat_le.mp h.2) (by decide)

theorem ascii_of_isHexDigit {c : Char} (h : isHexDigit c = true) : c.toNat < 128 := by
  simp only [isHexDigit,Bool.or_eq_true,Bool.and_eq_true,decide_eq_true_eq] at h
  rcases h with (h | h) | h
  · exact ascii_of_isDigit h
  · exact Nat.lt_of_le_of_lt (UInt32.le_iff_toNat_le.mp h.2) (by decide)
  · exact Nat.lt_of_le_of_lt (UInt32.le_iff_toNat_le.mp h.2) (by decide)

/-- A character is a hexadecimal digit if it is one in small letters. -/
theorem isDigitOf_toLower_iff {c : Char} : IsDigitOf 16 c.toLower ↔ isHexDigit c = true := by
  by_cases hc : c.toNat < 128
  · exact forall_ascii (P := fun c => IsDigitOf 16 c.toLower ↔ isHexDigit c = true)
      (by decide +kernel) hc
  · have hsame : c.toLower = c := dif_neg fun hupper =>
      hc (Nat.lt_of_le_of_lt (UInt32.le_iff_toNat_le.mp hupper.2) (by decide))
    refine iff_of_false (fun h => hc ?_) fun h => hc (ascii_of_isHexDigit h)
    exact ascii_of_isDigitOf (by decide) (hsame ▸ h)

theorem ofDigits_map_toLower {digits : List Char} (h : ∀ c ∈ digits, isHexDigit c = true) :
    ofDigits 16 (digits.map Char.toLower) = ofDigits 16 digits := by
  rw [ofDigits,List.foldl_map]
  refine List.foldl_ext _ _ 0 fun n c hc => ?_
  have hvalue := forall_ascii (P := fun c => isHexDigit c = true →
    digitValue c.toLower = digitValue c) (by decide) (ascii_of_isHexDigit (h c hc)) (h c hc)
  rw [hvalue]

theorem isOctalDigit_iff {c : Char} (h : c.isDigit = true) :
    isOctalDigit c = true ↔ c ≠ '8' ∧ c ≠ '9' :=
  forall_ascii (P := fun c => c.isDigit = true → (isOctalDigit c = true ↔ c ≠ '8' ∧ c ≠ '9'))
    (by decide) (ascii_of_isDigit h) h

end Digits

/-! ## Values -/

section Values
variable {cs : List Char} {n : ℕ}

theorem natValue?_hexadecimal {x : Char} (hx : x = 'x' ∨ x = 'X') (digits : List Char) :
    natValue? ('0' :: x :: digits) = some (ofDigits 16 digits) := by
  rw [natValue?,if_pos hx]

/-- The value behind a zero, if no mark of hexadecimal numbers follows. -/
theorem natValue?_zero {digits : List Char} (hne : digits ≠ [])
    (hdigits : ∀ c ∈ digits, c.isDigit = true) : natValue? ('0' :: digits) =
      if digits.all isOctalDigit = true then some (ofDigits 8 digits) else none := by
  obtain ⟨d,digits,rfl⟩ := List.exists_cons_of_ne_nil hne
  have hmark : ¬ (d = 'x' ∨ d = 'X') := by
    have hd := isDigit_ne_x (hdigits d List.mem_cons_self)
    simpa using hd
  rw [natValue?,if_neg hmark]

theorem natValue?_decimal (h : ∀ rest, cs = '0' :: rest → rest = []) :
    natValue? cs = ofDecimal? cs := by
  unfold natValue?
  split
  · exact absurd (h _ rfl) (List.cons_ne_nil _ _)
  · rfl

/-- A zero that stands alone is not too long. -/
theorem overlong_iff (h : ∀ rest, cs = '0' :: rest → rest = []) :
    Overlong cs ↔ digitLimit < cs.length := by
  refine ⟨Overlong.long,fun hlong => ⟨fun hzero => ?_,hlong⟩⟩
  obtain ⟨rest,rfl⟩ := List.head?_eq_some_iff.mp hzero
  rw [h rest rfl] at hlong
  exact absurd hlong (by decide)

theorem not_overlong_zero (digits : List Char) : ¬ Overlong ('0' :: digits) := fun h =>
  h.nonzero rfl

/-- An integer token is hexadecimal, or has digits behind a zero, or is decimal without needless
zeros. -/
theorem IsInt.cases (h : IsInt cs) :
    (∃ x digits, (x = 'x' ∨ x = 'X') ∧ digits ≠ [] ∧ (∀ c ∈ digits, isHexDigit c = true) ∧
      cs = '0' :: x :: digits) ∨
    (∃ digits, digits ≠ [] ∧ (∀ c ∈ digits, c.isDigit = true) ∧ cs = '0' :: digits) ∨
    IsDigits cs ∧ ∀ rest, cs = '0' :: rest → rest = [] := by
  rcases h with h | h
  · by_cases hzero : ∃ digits, digits ≠ [] ∧ cs = '0' :: digits
    · obtain ⟨digits,hne,rfl⟩ := hzero
      exact .inr (.inl ⟨digits,hne,(List.forall_mem_cons.mp h.2).2,rfl⟩)
    · refine .inr (.inr ⟨h,fun rest he => ?_⟩)
      by_contra hrest
      exact hzero ⟨rest,hrest,he⟩
  · exact .inl h

theorem not_isHexadecimal {digits : List Char} (h : ∀ c ∈ digits, c.isDigit = true) :
    ¬ IsHexadecimal ('0' :: digits) := by
  rintro ⟨x,rest,hx,he⟩
  cases he
  have hdigit := isDigit_ne_x (h x List.mem_cons_self)
  simp_all

/-- Digits behind a zero have no value exactly if one of them is too large. -/
theorem all_isOctalDigit_iff {digits : List Char} (h : ∀ c ∈ digits, c.isDigit = true) :
    digits.all isOctalDigit = true ↔ ¬ ('8' ∈ digits ∨ '9' ∈ digits) := by
  rw [List.all_eq_true,not_or]
  constructor
  · intro hall
    exact ⟨fun hmem => absurd (hall _ hmem) (by decide),
      fun hmem => absurd (hall _ hmem) (by decide)⟩
  · rintro ⟨height,hnine⟩ c hc
    refine (isOctalDigit_iff (h c hc)).mpr ⟨?_,?_⟩
    · rintro rfl
      exact height hc
    · rintro rfl
      exact hnine hc

theorem natValue?_eq_none_iff (h : IsInt cs) :
    natValue? cs = none ↔ Misspelled cs ∨ Overlong cs := by
  rcases h.cases with ⟨x,digits,hx,-,-,rfl⟩ | ⟨digits,hne,hdigits,rfl⟩ | ⟨⟨hne,hdigits⟩,hfirst⟩
  · rw [natValue?_hexadecimal hx,or_iff_left (not_overlong_zero _)]
    exact iff_of_false (Option.some_ne_none _) fun hbad =>
      hbad.not_hexadecimal ⟨x,digits,hx,rfl⟩
  · have hsame : ∀ c, c ≠ '0' → (c ∈ '0' :: digits ↔ c ∈ digits) := fun c hc => by simp [hc]
    rw [natValue?_zero hne hdigits,or_iff_left (not_overlong_zero _)]
    constructor
    · intro hnone
      refine ⟨?_,rfl,not_isHexadecimal hdigits,?_⟩
      · exact Nat.succ_le_succ (List.length_pos_iff.mpr hne)
      · rw [hsame _ (by decide),hsame _ (by decide)]
        by_contra hoctal
        rw [if_pos ((all_isOctalDigit_iff hdigits).mpr hoctal)] at hnone
        cases hnone
    · rintro ⟨-,-,-,hdigit⟩
      rw [hsame _ (by decide),hsame _ (by decide)] at hdigit
      rw [if_neg fun hall => (all_isOctalDigit_iff hdigits).mp hall hdigit]
  · have hspelled : ¬ Misspelled cs := by
      intro hbad
      obtain ⟨rest,rfl⟩ := List.head?_eq_some_iff.mp hbad.zero
      have hlong := hbad.long
      rw [hfirst rest rfl] at hlong
      exact absurd hlong (by decide)
    rw [natValue?_decimal hfirst,or_iff_right hspelled,overlong_iff hfirst,← Nat.not_le,ofDecimal?]
    split <;> simp [*]

theorem isInt_of_writes (h : Writes n cs) : IsInt cs := by
  cases h with
  | decimal =>
    exact .inl ⟨Nat.toDigits_ne_nil,fun c hc =>
      isDigitOf_ten_iff.mp (isDigitOf_of_mem_toDigits (by decide) hc)⟩
  | @hexadecimal x hx digits zeros h =>
    refine .inr ⟨x,digits,hx,?_,fun c hc => ?_,rfl⟩
    · rintro rfl
      simp [Nat.toDigits_ne_nil] at h
    · have hlower := isDigitOf_of_mem_zeros (by decide) (h ▸ List.mem_map_of_mem hc)
      exact isDigitOf_toLower_iff.mp hlower
  | octal zeros =>
    refine .inl ⟨List.cons_ne_nil _ _,List.forall_mem_cons.mpr ⟨rfl,fun c hc => ?_⟩⟩
    have hoctal : IsDigitOf 8 c := isDigitOf_of_mem_zeros (by decide) hc
    obtain ⟨d,hd,rfl⟩ := hoctal
    exact isDigitOf_ten_iff.mp ⟨d,by omega,rfl⟩

theorem natValue?_of_writes (h : Writes n cs) (hshort : ¬ Overlong cs) :
    natValue? cs = some n := by
  cases h with
  | decimal =>
    have hfirst : ∀ rest, Nat.toDigits 10 n = '0' :: rest → rest = [] := by
      intro rest he
      have hhead : (Nat.toDigits 10 n).head? = some '0' := by rw [he]; rfl
      have hzero : n = 0 := eq_zero_of_head?_toDigits (by decide) hhead
      rw [hzero,Nat.toDigits_zero] at he
      exact (List.cons.inj he).2.symm
    rw [overlong_iff hfirst,Nat.not_lt] at hshort
    rw [natValue?_decimal hfirst,ofDecimal?,if_pos hshort,ofDigits_toDigits (by decide) (by decide)]
  | @hexadecimal x hx digits zeros h =>
    have hdigits : ∀ c ∈ digits, isHexDigit c = true := fun c hc =>
      isDigitOf_toLower_iff.mp
        (isDigitOf_of_mem_zeros (by decide) (h ▸ List.mem_map_of_mem hc))
    rw [natValue?_hexadecimal hx,← ofDigits_map_toLower hdigits,h,ofDigits_zeros,
      ofDigits_toDigits (by decide) (by decide)]
  | octal zeros =>
    have hoctal : ∀ c ∈ List.replicate zeros '0' ++ Nat.toDigits 8 n, IsDigitOf 8 c :=
      fun c => isDigitOf_of_mem_zeros (by decide)
    have hdigits : ∀ c ∈ List.replicate zeros '0' ++ Nat.toDigits 8 n, c.isDigit = true := by
      intro c hc
      obtain ⟨d,hd,rfl⟩ := hoctal c hc
      exact isDigitOf_ten_iff.mp ⟨d,by omega,rfl⟩
    have hall := List.all_eq_true.mpr fun c hc => isDigitOf_eight_iff.mp (hoctal c hc)
    rw [natValue?_zero (by simp [Nat.toDigits_ne_nil]) hdigits,if_pos hall,ofDigits_zeros,
      ofDigits_toDigits (by decide) (by decide)]

/-- Digits without a needless zero in front are those of the number that they write. -/
theorem writes_decimal (h : IsDigits cs) (hfirst : ∀ rest, cs = '0' :: rest → rest = []) :
    Writes (ofDigits 10 cs) cs := by
  obtain ⟨zeros,hzeros⟩ := exists_zeros (by decide) (by decide) h.1 fun c hc =>
    isDigitOf_ten_iff.mpr (h.2 c hc)
  cases zeros with
  | zero =>
    rw [hzeros,ofDigits_zeros,ofDigits_toDigits (by decide) (by decide)]
    exact .decimal
  | succ zeros =>
    -- A zero in front would have to stand alone.
    have hrest := hfirst _ hzeros
    simp [Nat.toDigits_ne_nil] at hrest

theorem writes_of_natValue? (h : IsInt cs) (hvalue : natValue? cs = some n) : Writes n cs := by
  rcases h.cases with
    ⟨x,digits,hx,hne,hdigits,rfl⟩ | ⟨digits,hne,hdigits,rfl⟩ | ⟨hdigits,hfirst⟩
  · rw [natValue?_hexadecimal hx,← ofDigits_map_toLower hdigits] at hvalue
    have hlower : ∀ c ∈ digits.map Char.toLower, IsDigitOf 16 c :=
      List.forall_mem_map.mpr fun c hc => isDigitOf_toLower_iff.mpr (hdigits c hc)
    obtain ⟨zeros,hzeros⟩ := exists_zeros (by decide) (by decide) (by simpa using hne) hlower
    cases hvalue
    exact .hexadecimal hx zeros hzeros
  · rw [natValue?_zero hne hdigits] at hvalue
    split at hvalue
    · next hall =>
      have hoctal : ∀ c ∈ digits, IsDigitOf 8 c := fun c hc =>
        isDigitOf_eight_iff.mpr (List.all_eq_true.mp hall c hc)
      obtain ⟨zeros,hzeros⟩ := exists_zeros (by decide) (by decide) hne hoctal
      cases hvalue
      rw [hzeros,ofDigits_zeros,ofDigits_toDigits (by decide) (by decide)]
      exact .octal zeros
    · cases hvalue
  · rw [natValue?_decimal hfirst] at hvalue
    obtain ⟨-,hn⟩ := Option.ite_none_right_eq_some.mp hvalue
    cases hn
    exact writes_decimal hdigits hfirst

end Values

/-- Integers mean what they say. Every way to write a number is taken whole as one integer token,
and unless it is too long, its value behind a sign is the number with that sign. Every text that is
taken as one integer token and has a value writes that value and no other number. Whatever its sign,
it has none exactly if it is misspelled, that is, has at least two characters, begins with a zero, is
not hexadecimal and has a digit 8 or 9, or if it is decimal with more digits than the limit. -/
theorem integers_mean_numbers (spelling : String) :
    (∀ n : ℕ, Writes n spelling.toList → IsIntLiteral spelling ∧
      (¬ Overlong spelling.toList →
        signedValue? none spelling = some (n : ℤ) ∧
        signedValue? (some .plus) spelling = some (n : ℤ) ∧
        signedValue? (some .minus) spelling = some (-n : ℤ))) ∧
    (IsIntLiteral spelling →
      (∀ n : ℕ, signedValue? none spelling = some (n : ℤ) → Writes n spelling.toList) ∧
      ∀ sign, signedValue? sign spelling = none ↔
        Misspelled spelling.toList ∨ Overlong spelling.toList) := by
  refine ⟨fun n h => ⟨isIntLiteral_iff.mpr (isInt_of_writes h),fun hshort => ?_⟩,
    fun h => ⟨fun n hvalue => ?_,fun sign => ?_⟩⟩
  · have hvalue : intValue? spelling = some (n : ℤ) := by
      rw [intValue?,natValue?_of_writes h hshort]
      rfl
    refine ⟨?_,?_,?_⟩ <;> rw [signedValue?,hvalue] <;> rfl
  · have hint : intValue? spelling = some (n : ℤ) := by simpa [signedValue?] using hvalue
    refine writes_of_natValue? (isIntLiteral_iff.mp h) ?_
    obtain ⟨m,hm,he⟩ := Option.map_eq_some_iff.mp hint
    rw [hm,Int.ofNat.inj he]
  · rw [← natValue?_eq_none_iff (isIntLiteral_iff.mp h),signedValue?,Option.map_eq_none_iff,
      intValue?,Option.map_eq_none_iff]

/-- Zeros may fill up a hexadecimal number, and behind a zero an 8 leaves no value. -/
theorem integers_written_00ff_08 :
    (IsIntLiteral "0X00fF" ∧ signedValue? (some .minus) "0X00fF" = some (-255)) ∧
    IsIntLiteral "08" ∧ signedValue? (some .plus) "08" = none := by
  have hwrites : Writes 255 "0X00fF".toList := .hexadecimal (.inr rfl) 2 (by decide)
  have hwritten := (integers_mean_numbers "0X00fF").1 255 hwrites
  have hvalues := hwritten.2 (not_overlong_zero _)
  have hliteral : IsIntLiteral "08" := by decide +kernel
  have hbad : Misspelled ['0','8'] :=
    ⟨by decide,rfl,not_isHexadecimal (List.forall_mem_singleton.mpr rfl),.inl (by decide)⟩
  exact ⟨⟨hwritten.1,hvalues.2.2⟩,hliteral,
    (((integers_mean_numbers "08").2 hliteral).2 (some .plus)).mpr (.inl hbad)⟩

/-- A one and as many zeros as a decimal number may have digits. -/
def longSpelling : String := String.ofList ('1' :: List.replicate digitLimit '0')

/-- A number with one digit too many is written by a well formed integer that has no value. -/
theorem longSpelling_unread : IsIntLiteral longSpelling ∧
    Writes (10 ^ digitLimit) longSpelling.toList ∧ ¬ Misspelled longSpelling.toList ∧
    signedValue? none longSpelling = none := by
  have hlist : longSpelling.toList = '1' :: List.replicate digitLimit '0' := String.toList_ofList
  have hdigits : IsDigits longSpelling.toList := by
    rw [hlist]
    refine ⟨List.cons_ne_nil _ _,List.forall_mem_cons.mpr ⟨rfl,fun c hc => ?_⟩⟩
    rw [List.eq_of_mem_replicate hc]
    rfl
  have hfirst : ∀ rest, longSpelling.toList = '0' :: rest → rest = [] := by
    rw [hlist]
    exact fun rest he => absurd (List.cons.inj he).1 (by decide)
  have hvalue (zeros : ℕ) : ofDigits 10 ('1' :: List.replicate zeros '0') = 10 ^ zeros := by
    induction zeros with
    | zero => rfl
    | succ zeros ih =>
      rw [List.replicate_succ',← List.cons_append,ofDigits_concat,ih,Nat.pow_succ,Nat.mul_comm]
      rfl
  have hnone : natValue? longSpelling.toList = none := by
    refine (natValue?_eq_none_iff (.inl hdigits)).mpr (.inr ((overlong_iff hfirst).mpr ?_))
    rw [hlist,List.length_cons,List.length_replicate]
    exact Nat.lt_succ_self _
  refine ⟨isIntLiteral_iff.mpr (.inl hdigits),?_,fun hbad => ?_,?_⟩
  · rw [← hvalue,← hlist]
    exact writes_decimal hdigits hfirst
  · have hzero := hbad.zero
    rw [hlist] at hzero
    exact absurd (Option.some.inj hzero) (by decide)
  · rw [signedValue?,intValue?,hnone]
    rfl

end SchemaCodec.Grammar
