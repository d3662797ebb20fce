import Mathlib
import SchemaCodec.Schema.Index

/-! # Characters of generated type names

The name of a generated type is made of letters and digits of the declared name and of their other
cases. So no dot, no colon and no other mark of ASCII ever stands in it.
-/
namespace SchemaCodec
open Text

/-- An ASCII letter or digit, or any character beyond ASCII. -/
def IsWordChar (c : Char) : Prop := c.isAlphanum = true ∨ 128 ≤ c.toNat

instance : DecidablePred IsWordChar := fun _ => inferInstanceAs (Decidable (_ ∨ _))

/-- A character that can stand in the name of a type. -/
def IsNameChar (c : Char) : Prop := c ≠ '.' ∧ c ≠ ':'

theorem IsWordChar.ne {c d : Char} (h : IsWordChar c) (hd : ¬ IsWordChar d) : c ≠ d := by
  rintro rfl
  exact hd h

theorem IsWordChar.isNameChar {c : Char} (h : IsWordChar c) : IsNameChar c :=
  ⟨h.ne (by decide),h.ne (by decide)⟩

section Case

/-- Code points from `first` to `last` that are those of letters, or of characters beyond ASCII. -/
def LetterPoints (first last : Int) : Prop :=
  (65 ≤ first ∧ last ≤ 90) ∨ (97 ≤ first ∧ last ≤ 122) ∨ (128 ≤ first ∧ last < 0xD800) ∨
    (0xDFFF < first ∧ last < 0x110000)

instance (first last : Int) : Decidable (LetterPoints first last) :=
  inferInstanceAs (Decidable (_ ∨ _))

theorem isWordChar_ofNat {n : ℕ} {first last : Int} (h : LetterPoints first last) (hl : first ≤ n)
    (hr : n ≤ last) : IsWordChar (Char.ofNat n) := by
  have hvalid : n.isValidChar := by
    unfold LetterPoints at h
    unfold Nat.isValidChar
    omega
  have hletters : ∀ k < 128, (65 ≤ k ∧ k ≤ 90) ∨ (97 ≤ k ∧ k ≤ 122) →
      (Char.ofNat k).isAlphanum = true := by
    decide
  unfold LetterPoints at h
  by_cases hn : n < 128
  · exact .inl (hletters n hn (by omega))
  · right
    rw [Char.toNat_ofNat,if_pos hvalid]
    omega

/-- A table that maps characters to letters and to characters beyond ASCII. -/
structure MapsToLetters (runs : List CaseRun) (sequences : List (ℕ × List ℕ)) : Prop where
  runs : ∀ r ∈ runs, LetterPoints (Int.ofNat r.1 + r.2.2.2) (Int.ofNat r.2.1 + r.2.2.2)
  sequences : ∀ s ∈ sequences, ∀ m ∈ s.2, LetterPoints m m

/-- A table has another form of a character in a list or by a shift, or it keeps the character. -/
theorem mapCase_cases (runs : List CaseRun) (sequences : List (ℕ × List ℕ)) (n : ℕ) :
    (∃ out, (n,out) ∈ sequences ∧ mapCase runs sequences n = out) ∨
    (∃ r ∈ runs, r.1 ≤ n ∧ n ≤ r.2.1 ∧ mapCase runs sequences n = [(n + r.2.2.2 : Int).toNat]) ∨
    mapCase runs sequences n = [n] := by
  unfold mapCase
  split
  · next out hs =>
    obtain ⟨l,r,he,-⟩ := List.lookup_eq_some_iff.mp hs
    exact .inl ⟨out,by simp [he],rfl⟩
  · split
    · next first last step shift hr =>
      have hin := List.find?_some hr
      simp only [Bool.and_eq_true,decide_eq_true_eq] at hin
      exact .inr (.inl ⟨_,List.mem_of_find?_eq_some hr,hin.1.1,hin.1.2,rfl⟩)
    · exact .inr (.inr rfl)

theorem isWordChar_mapCase {runs : List CaseRun} {sequences : List (ℕ × List ℕ)}
    (h : MapsToLetters runs sequences) {c d : Char} (hc : IsWordChar c)
    (hd : d ∈ (mapCase runs sequences c.toNat).map Char.ofNat) : IsWordChar d := by
  obtain ⟨m,hm,rfl⟩ := List.mem_map.mp hd
  rcases mapCase_cases runs sequences c.toNat with ⟨out,hout,he⟩ | ⟨r,hr,hl,hu,he⟩ | he
  · exact isWordChar_ofNat (h.sequences _ hout m (he ▸ hm)) (by omega) (by omega)
  · have hrun := h.runs r hr
    rw [he,List.mem_singleton] at hm
    have hpos : 0 < Int.ofNat r.1 + r.2.2.2 := by
      unfold LetterPoints at hrun
      omega
    simp only [Int.ofNat_eq_natCast] at hrun hpos
    exact isWordChar_ofNat hrun (by omega) (by omega)
  · rw [he,List.mem_singleton] at hm
    rwa [hm,Char.ofNat_toNat]

theorem mapsToLetters_upper : MapsToLetters upperRuns upperSequences :=
  ⟨by decide +kernel,by decide +kernel⟩

theorem mapsToLetters_lower : MapsToLetters lowerRuns lowerSequences :=
  ⟨by decide +kernel,by decide +kernel⟩

theorem isWordChar_of_ascii {f : Char → Char}
    (hall : ∀ n < 128, IsWordChar (Char.ofNat n) → IsWordChar (f (Char.ofNat n))) {c : Char}
    (h : IsWordChar c) (hc : c.toNat < 128) : IsWordChar (f c) := by
  have hn := hall c.toNat hc
  rw [Char.ofNat_toNat] at hn
  exact hn h

theorem isWordChar_upperChar {c : Char} (h : IsWordChar c) : ∀ d ∈ upperChar c, IsWordChar d := by
  intro d hd
  unfold upperChar at hd
  split at hd
  · next hc =>
    rw [List.mem_singleton.mp hd]
    exact isWordChar_of_ascii (by decide) h hc
  · exact isWordChar_mapCase mapsToLetters_upper h hd

theorem not_isLower_ofNat {n : ℕ} (h : n < 97 ∨ 122 < n) : (Char.ofNat n).isLower = false := by
  have hascii : ∀ n < 128, n < 97 ∨ 122 < n → (Char.ofNat n).isLower = false := by decide
  by_cases hn : n < 128
  · exact hascii n hn h
  · by_cases hvalid : n.isValidChar
    · have hlarge : ¬ (Char.ofNat n).toNat ≤ 122 := by
        rw [Char.toNat_ofNat,if_pos hvalid]
        omega
      simp only [Char.isLower,Bool.and_eq_false_iff,decide_eq_false_iff_not]
      exact .inr fun hle => hlarge (UInt32.le_iff_toNat_le.mp hle)
    · rw [Char.ofNat,dif_neg hvalid]
      rfl

/-- The upper case of a character begins with no small letter of ASCII. -/
theorem exists_upperChar (c : Char) : ∃ d rest, upperChar c = d :: rest ∧ d.isLower = false := by
  unfold upperChar
  split
  · next hc =>
    exact ⟨_,[],rfl,forall_ascii (P := fun c => c.toUpper.isLower = false) (by decide) hc⟩
  · next hc =>
    have hsequences : ∀ s ∈ upperSequences, s.2 ≠ [] ∧ ∀ m ∈ s.2.head?, m < 97 ∨ 122 < m := by
      decide +kernel
    have hruns : ∀ r ∈ upperRuns, Int.ofNat r.2.1 + r.2.2.2 < 97 ∨ 122 < Int.ofNat r.1 + r.2.2.2 := by
      decide +kernel
    rcases mapCase_cases upperRuns upperSequences c.toNat with ⟨out,hout,he⟩ | ⟨r,hr,hl,hu,he⟩ | he
    · obtain ⟨hne,hhead⟩ := hsequences _ hout
      obtain ⟨m,more,hm⟩ := List.exists_cons_of_ne_nil hne
      obtain rfl : out = m :: more := hm
      exact ⟨_,_,by rw [he,List.map_cons],not_isLower_ofNat (hhead m rfl)⟩
    · have hrun := hruns r hr
      simp only [Int.ofNat_eq_natCast] at hrun
      exact ⟨_,[],by rw [he,List.map_singleton],not_isLower_ofNat (by omega)⟩
    · exact ⟨_,[],by rw [he,List.map_singleton],not_isLower_ofNat (by omega)⟩

theorem isWordChar_lowerChar {c : Char} (h : IsWordChar c) : ∀ d ∈ lowerChar c, IsWordChar d := by
  intro d hd
  unfold lowerChar at hd
  split at hd
  · next hc =>
    rw [List.mem_singleton.mp hd]
    exact isWordChar_of_ascii (by decide) h hc
  · exact isWordChar_mapCase mapsToLetters_lower h hd

theorem isWordChar_lowerAfter {before cs : List Char} (h : ∀ c ∈ cs, IsWordChar c) :
    ∀ d ∈ lowerAfter before cs, IsWordChar d := by
  induction cs generalizing before with
  | nil => simp [lowerAfter]
  | cons c rest ih =>
    intro d hd
    rw [lowerAfter,List.mem_append] at hd
    rcases hd with hd | hd
    · by_cases hs : c = 'Σ'
      · rw [if_pos hs] at hd
        have hsigma : d = 'ς' ∨ d = 'σ' := by
          split at hd <;> simp_all
        rcases hsigma with rfl | rfl <;> exact .inr (by decide)
      · rw [if_neg hs] at hd
        exact isWordChar_lowerChar (h c List.mem_cons_self) d hd
    · exact ih (fun e he => h e (List.mem_cons_of_mem c he)) d hd

/-- Only letters get another case, and they become letters. -/
theorem eq_of_mem_lowerChar {c d : Char} (hd : ¬ IsWordChar d) (h : d ∈ lowerChar c) : d = c := by
  by_cases hc : IsWordChar c
  · exact absurd (isWordChar_lowerChar hc d h) hd
  · have hascii : c.toNat < 128 := Nat.lt_of_not_le fun hle => hc (.inr hle)
    have hkept : ∀ n < 128, ¬ IsWordChar (Char.ofNat n) →
        (Char.ofNat n).toLower = Char.ofNat n := by decide
    have hlower := hkept c.toNat hascii
    rw [Char.ofNat_toNat] at hlower
    rw [lowerChar,if_pos hascii,hlower hc] at h
    exact List.mem_singleton.mp h

theorem mem_of_mem_lowerAfter {before cs : List Char} {d : Char} (hd : ¬ IsWordChar d)
    (h : d ∈ lowerAfter before cs) : d ∈ cs := by
  induction cs generalizing before with
  | nil => exact h
  | cons c rest ih =>
    rw [lowerAfter,List.mem_append] at h
    rcases h with h | h
    · by_cases hs : c = 'Σ'
      · have hword : IsWordChar 'ς' ∧ IsWordChar 'σ' := by decide
        rw [if_pos hs] at h
        split at h <;> rw [List.mem_singleton.mp h] at hd
        · exact absurd hword.1 hd
        · exact absurd hword.2 hd
      · rw [if_neg hs] at h
        exact eq_of_mem_lowerChar hd h ▸ List.mem_cons_self
    · exact List.mem_cons_of_mem c (ih h)

end Case

namespace Identifier

theorem mem_of_mem_separateWords {cs : List Char} {d : Char} (hd : d ≠ '_')
    (h : d ∈ separateWords cs) : d ∈ cs := by
  induction cs using separateWords.induct with
  | case1 | case2 => exact h
  | case3 a b rest hstarts ih =>
    rw [separateWords,if_pos hstarts] at h
    rcases List.mem_cons.mp h with rfl | h
    · exact List.mem_cons_self
    · exact List.mem_cons_of_mem a (ih ((List.mem_cons.mp h).resolve_left hd))
  | case4 a b rest hstarts ih =>
    rw [separateWords,if_neg hstarts] at h
    rcases List.mem_cons.mp h with rfl | h
    · exact List.mem_cons_self
    · exact List.mem_cons_of_mem a (ih h)

/-- What is neither a letter nor an underscore in the name of a module is in what it is named by. -/
theorem mem_of_mem_snakeChars {cs : List Char} {d : Char} (hd : ¬ IsWordChar d) (hunder : d ≠ '_')
    (h : d ∈ snakeChars cs) : d ∈ cs := by
  obtain ⟨c,hc,rfl⟩ := List.mem_map.mp (mem_of_mem_lowerAfter hd h)
  unfold hyphenToUnderscore at hunder ⊢
  split at hunder
  · exact absurd rfl hunder
  · next hhyphen =>
    rw [if_neg hhyphen] at *
    exact mem_of_mem_separateWords hunder hc

/-- What begins with a letter or digit begins with a word. -/
theorem exists_words_cons {c : Char} (hc : isAlphanumeric c = true) (rest : List Char) :
    ∃ word more, words (c :: rest) = (c :: word) :: more := by
  induction rest generalizing c with
  | nil => exact ⟨[],[],by simp [words,hc]⟩
  | cons d rest ih =>
    by_cases hd : isAlphanumeric d = true
    · obtain ⟨word,more,hw⟩ := ih hd
      exact ⟨d :: word,more,by simp [words,hc,hd,hw]⟩
    · exact ⟨[],words (d :: rest),by simp [words,hc,hd]⟩

/-- The words of a name are its letters and digits in their order. -/
theorem flatten_words (cs : List Char) : (words cs).flatten = cs.filter isAlphanumeric := by
  induction cs using words.induct with
  | case1 => rfl
  | case2 c hc | case3 c hc => simp [words,hc]
  | case4 c d rest hc hd ih =>
    obtain ⟨word,more,hw⟩ := exists_words_cons hd rest
    rw [hw] at ih
    simpa [words,hc,hd,hw] using ih
  | case5 c d rest hc hd ih => simp [words,hc,hd,ih]
  | case6 c d rest hc ih => simp [words,hc,ih]

theorem mem_of_mem_words {cs word : List Char} (h : word ∈ words cs) {c : Char} (hc : c ∈ word) :
    c ∈ cs ∧ isAlphanumeric c = true :=
  List.mem_filter.mp (flatten_words cs ▸ List.mem_flatten_of_mem h hc)

theorem ne_nil_of_mem_words {cs word : List Char} (h : word ∈ words cs) : word ≠ [] := by
  induction cs using words.induct generalizing word with
  | case1 => cases h
  | case2 c hc | case3 c hc => simp_all [words]
  | case4 c d rest hc hd ih =>
    obtain ⟨first,more,hw⟩ := exists_words_cons hd rest
    simp only [words,hc,hd,hw,↓reduceIte,List.modifyHead_cons,List.mem_cons] at h ih
    rcases h with rfl | h
    · exact List.cons_ne_nil _ _
    · exact ih (.inr h)
  | case5 c d rest hc hd ih =>
    simp only [words,hc,hd,Bool.false_eq_true,↓reduceIte,List.mem_cons] at h
    rcases h with rfl | h
    · exact List.cons_ne_nil _ _
    · exact ih h
  | case6 c d rest hc ih =>
    simp only [words,hc,Bool.false_eq_true,↓reduceIte] at h
    exact ih h

theorem isWordChar_of_isAlphanumeric {c : Char} (h : isAlphanumeric c = true) : IsWordChar c := by
  by_cases hc : c.toNat < 128
  · rw [isAlphanumeric_of_ascii hc] at h
    exact .inl h
  · exact .inr (Nat.le_of_not_lt hc)

theorem isWordChar_camelChars {name : List Char} : ∀ c ∈ camelChars name, IsWordChar c := by
  intro c hc
  obtain ⟨word,hword,hc⟩ := List.mem_flatMap.mp hc
  have hletters : ∀ d ∈ word, IsWordChar d := fun d hd =>
    isWordChar_of_isAlphanumeric (mem_of_mem_words hword hd).2
  have hcase : ∀ d ∈ (if isUpperText word then lower word else word), IsWordChar d := by
    split
    · exact isWordChar_lowerAfter hletters
    · exact hletters
  unfold capitalize at hc
  cases hw : (if isUpperText word then lower word else word) with
  | nil => simp [hw] at hc
  | cons d rest =>
    rw [hw] at hcase
    simp only [hw,List.mem_append] at hc
    rcases hc with hc | hc
    · exact isWordChar_upperChar (hcase d List.mem_cons_self) c hc
    · exact hcase c (List.mem_cons_of_mem d hc)

theorem isWordChar_camel {name : String} : ∀ c ∈ (camel name).toList, IsWordChar c := by
  intro c hc
  exact isWordChar_camelChars c (by simpa [camel] using hc)

/-- Nothing in camel case begins with a small letter of ASCII. -/
theorem not_isLower_of_mem_head?_camel {name : String} {c : Char}
    (hc : c ∈ (camel name).toList.head?) : c.isLower = false := by
  rw [camel,String.toList_ofList,camelChars] at hc
  generalize words name.toList = ws at hc
  induction ws with
  | nil => cases hc
  | cons word more ih =>
    rw [List.flatMap_cons] at hc
    unfold capitalize at hc
    split at hc
    · exact ih hc
    · next _ d rest _ =>
      obtain ⟨e,es,he,hlower⟩ := exists_upperChar d
      rw [he] at hc
      obtain rfl : e = c := Option.some.inj hc
      exact hlower

end Identifier

theorem isWordChar_typeIdentifier {fullName package : String} :
    ∀ c ∈ (typeIdentifier fullName package).toList, IsWordChar c := by
  unfold typeIdentifier
  intro c hc
  simp only at hc
  split at hc
  · exact Identifier.isWordChar_camelChars c (by simpa using hc)
  · exact Identifier.isWordChar_camel c hc

theorem isNameChar_typeIdentifier {fullName package : String} :
    ∀ c ∈ (typeIdentifier fullName package).toList, IsNameChar c :=
  fun c hc => (isWordChar_typeIdentifier c hc).isNameChar

end SchemaCodec
