import Mathlib
import SchemaCodec.Text.Line
import SchemaCodec.Text.Utf8

/-! # Texts are read back from their bytes

A lead byte tells how many bytes follow it and which of them may come next, and each of those adds
six bits. So a character is read from its bytes whatever follows them. No bytes give more characters
than there are bytes.
-/
namespace SchemaCodec.Text

/-! ## Lead bytes -/

theorem leadByte_one : ∀ n < 0x80, leadByte n = ([Char.ofNat n],none) := by decide

theorem leadByte_two : ∀ k < 0x20, 2 ≤ k → leadByte (0xC0 + k) = ([],some ⟨1,0x80,0xBF,k⟩) := by
  decide

theorem leadByte_three : ∀ k < 0x10, leadByte (0xE0 + k) =
    ([],some ⟨2,if k = 0 then 0xA0 else 0x80,if k = 13 then 0x9F else 0xBF,k⟩) := by
  decide

theorem leadByte_four : ∀ k < 5, leadByte (0xF0 + k) =
    ([],some ⟨3,if k = 0 then 0x90 else 0x80,if k = 4 then 0x8F else 0xBF,k⟩) := by
  decide

/-! ## Lengths -/

theorem length_leadByte (b : ℕ) : (leadByte b).1.length + (leadByte b).2.toList.length = 1 := by
  unfold leadByte
  repeat' split
  all_goals rfl

theorem length_nextByte_le (u : Unfinished) (b : ℕ) :
    (nextByte u b).1.length + (nextByte u b).2.toList.length ≤ 2 := by
  have hlead := length_leadByte b
  unfold nextByte
  split
  · dsimp only
    split <;> simp
  · simp only [List.length_cons]
    omega

/-- A character that is begun takes one character at most, like each byte behind it. -/
theorem length_decodeFrom_le (begun : Option Unfinished) (bytes : List UInt8) :
    (decodeFrom begun bytes).length ≤ begun.toList.length + bytes.length := by
  fun_induction decodeFrom begun bytes with
  | case1 => exact Nat.le_refl 0
  | case2 u => exact Nat.le_refl 1
  | case3 b rest out next hb ih =>
    have hlead := length_leadByte b.toNat
    rw [hb] at hlead
    simp only [List.length_append,List.length_cons,Option.toList_none,List.length_nil] at *
    omega
  | case4 u b rest out next hb ih =>
    have hnext := length_nextByte_le u b.toNat
    rw [hb] at hnext
    simp only [List.length_append,List.length_cons,Option.toList_some,List.length_nil] at *
    omega

/-! ## Bytes of a character -/

section Decode
variable {b : ℕ} {u : Unfinished}

theorem decodeFrom_lead (hb : b < 256) (h : leadByte b = ([],some u)) (rest : List UInt8) :
    decodeFrom none (UInt8.ofNat b :: rest) = decodeFrom (some u) rest := by
  rw [decodeFrom,UInt8.toNat_ofNat_of_lt' hb]
  simp only [h,List.nil_append]

theorem decodeFrom_next (hb : b < 0x40) (lacking value : ℕ) {low high : ℕ} (hlow : low ≤ b + 0x80)
    (hhigh : b + 0x80 ≤ high) (rest : List UInt8) :
    decodeFrom (some ⟨lacking + 2,low,high,value⟩) (UInt8.ofNat (b + 0x80) :: rest) =
      decodeFrom (some ⟨lacking + 1,0x80,0xBF,value * 64 + b⟩) rest := by
  have hbyte : b + 0x80 < 256 := by omega
  have hlacking : ¬ lacking + 2 ≤ 1 := by omega
  rw [decodeFrom,UInt8.toNat_ofNat_of_lt' hbyte,nextByte,if_pos ⟨hlow,hhigh⟩,if_neg hlacking,
    Nat.add_sub_cancel]
  rfl

theorem decodeFrom_last (hb : b < 0x40) (value : ℕ) {low high : ℕ} (hlow : low ≤ b + 0x80)
    (hhigh : b + 0x80 ≤ high) (rest : List UInt8) :
    decodeFrom (some ⟨1,low,high,value⟩) (UInt8.ofNat (b + 0x80) :: rest) =
      Char.ofNat (value * 64 + b) :: decodeFrom none rest := by
  have hbyte : b + 0x80 < 256 := by omega
  rw [decodeFrom,UInt8.toNat_ofNat_of_lt' hbyte,nextByte,if_pos ⟨hlow,hhigh⟩,if_pos (Nat.le_refl 1),
    Nat.add_sub_cancel]
  rfl

/-- A character is read from its bytes. -/
theorem decodeFrom_utf8EncodeChar (c : Char) (rest : List UInt8) :
    decodeFrom none (String.utf8EncodeChar c ++ rest) = c :: decodeFrom none rest := by
  have hvalid : c.toNat < 0xD800 ∨ 0xDFFF < c.toNat ∧ c.toNat < 0x110000 := c.valid
  have hval : c.val.toNat = c.toNat := rfl
  have hc : Char.ofNat c.toNat = c := Char.ofNat_toNat c
  obtain ⟨n,hn⟩ : ∃ n, c.toNat = n := ⟨_,rfl⟩
  rw [hn] at hvalid hval hc
  rw [String.utf8EncodeChar,hval,← hc]
  split
  · next h =>
    have hbyte : n < UInt8.size := Nat.lt_of_le_of_lt h (by decide)
    rw [List.singleton_append,decodeFrom,UInt8.toNat_ofNat_of_lt' hbyte]
    simp only [leadByte_one n (Nat.lt_succ_of_le h),List.singleton_append]
  split
  · next h h' =>
    have hlead := leadByte_two (n / 64 % 32) (by omega) (by omega)
    rw [Nat.add_comm] at hlead
    simp only [List.cons_append,List.nil_append]
    rw [decodeFrom_lead (by omega) hlead,decodeFrom_last (by omega) _ (by omega) (by omega)]
    congr 2
    omega
  split
  · next h h' h'' =>
    have hlead := leadByte_three (n / 4096 % 16) (by omega)
    rw [Nat.add_comm] at hlead
    simp only [List.cons_append,List.nil_append]
    rw [decodeFrom_lead (by omega) hlead,
      decodeFrom_next (by omega) 0 _ (by split <;> omega) (by split <;> omega),
      decodeFrom_last (by omega) _ (by omega) (by omega)]
    congr 2
    omega
  · next h h' h'' =>
    have hlead := leadByte_four (n / 262144 % 8) (by omega)
    rw [Nat.add_comm] at hlead
    simp only [List.cons_append,List.nil_append]
    rw [decodeFrom_lead (by omega) hlead,
      decodeFrom_next (by omega) 1 _ (by split <;> omega) (by split <;> omega),
      decodeFrom_next (by omega) 0 _ (by omega) (by omega),
      decodeFrom_last (by omega) _ (by omega) (by omega)]
    congr 2
    omega

end Decode

/-! ## Texts -/

theorem toList_loop (bytes : ByteArray) (i : ℕ) (r : List UInt8) :
    ByteArray.toList.loop bytes i r = r.reverse ++ bytes.data.toList.drop i := by
  fun_induction ByteArray.toList.loop bytes i r with
  | case1 i r h ih =>
    have hi : i < bytes.data.toList.length := h
    have hget : bytes.get! i = bytes.data.toList[i] := getElem!_pos bytes.data i h
    rw [ih,List.drop_eq_getElem_cons hi,List.reverse_cons,hget]
    simp
  | case2 i r h =>
    have hi : bytes.data.toList.length ≤ i := Nat.le_of_not_lt h
    rw [List.drop_of_length_le hi,List.append_nil]

theorem encodeUtf8_eq_flatMap (s : String) :
    encodeUtf8 s = s.toList.flatMap String.utf8EncodeChar := by
  rw [encodeUtf8,String.toUTF8_eq_toByteArray,ByteArray.toList,toList_loop,← String.utf8Encode_toList,
    List.utf8Encode,List.toList_data_toByteArray]
  rfl

/-- A text is read back from its bytes. -/
theorem decodeUtf8_encodeUtf8 (s : String) : decodeUtf8 (encodeUtf8 s) = s := by
  have hdecode (cs : List Char) : decodeFrom none (cs.flatMap String.utf8EncodeChar) = cs := by
    induction cs with
    | nil => rfl
    | cons c rest ih => rw [List.flatMap_cons,decodeFrom_utf8EncodeChar,ih]
  rw [decodeUtf8,encodeUtf8_eq_flatMap,hdecode,String.ofList_toList]

theorem decodeUtf8?_eq_some_iff {bytes : List UInt8} {s : String} :
    decodeUtf8? bytes = some s ↔ bytes = encodeUtf8 s := by
  unfold decodeUtf8?
  constructor
  · intro h
    obtain ⟨hbytes,hs⟩ := Option.ite_none_right_eq_some.mp h
    rw [← Option.some.inj hs,hbytes]
  · rintro rfl
    rw [decodeUtf8_encodeUtf8,if_pos rfl]

@[simp] theorem decodeUtf8?_encodeUtf8 (s : String) : decodeUtf8? (encodeUtf8 s) = some s :=
  decodeUtf8?_eq_some_iff.mpr rfl

/-- A text has no more characters than bytes. -/
theorem length_le_of_decodeUtf8? {bytes : List UInt8} {s : String} (h : decodeUtf8? bytes = some s) :
    s.toList.length ≤ bytes.length := by
  have hdecoded := length_decodeFrom_le none bytes
  rw [Option.toList_none,List.length_nil,Nat.zero_add] at hdecoded
  have hs : decodeUtf8 bytes = s := decodeUtf8?_eq_some_iff.mp h ▸ decodeUtf8_encodeUtf8 s
  rwa [← hs,decodeUtf8,String.toList_ofList]

/-! ## Line ends -/

theorem length_unifyLineEnds_le (cs : List Char) : (unifyLineEnds cs).length ≤ cs.length := by
  fun_induction unifyLineEnds cs with
  | case1 => exact Nat.le_refl 0
  | case2 rest ih =>
    simp only [List.length_cons]
    omega
  | case3 rest _ ih => exact Nat.succ_le_succ ih
  | case4 c rest _ _ ih => exact Nat.succ_le_succ ih

theorem unifyLineEnds_of_not_mem {cs : List Char} (h : '\r' ∉ cs) : unifyLineEnds cs = cs := by
  fun_induction unifyLineEnds cs with
  | case1 => rfl
  | case2 => simp at h
  | case3 => simp at h
  | case4 c rest _ _ ih => rw [ih (mt (List.mem_cons_of_mem c) h)]

end SchemaCodec.Text
