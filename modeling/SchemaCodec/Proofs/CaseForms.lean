import SchemaCodec.Proofs.Identifier

/-! # Names in camel and in snake case

The camel form of an ASCII name is its letters and digits, some in another case, and the form of a
path is those of its parts run together. The snake form is its characters in small letters with an
underscore behind every word that another one follows directly; it is its own snake form.
-/
namespace SchemaCodec.Identifier
open Text

def IsAscii (name : String) : Prop := ∀ c ∈ name.toList, c.toNat < 128

instance (name : String) : Decidable (IsAscii name) := List.decidableBAll _ name.toList

/-! ## ASCII words -/

section Words
variable {cs word : List Char}

/-- A word of ASCII letters and digits. -/
def IsAsciiWord (word : List Char) : Prop := word ≠ [] ∧ ∀ c ∈ word, c.isAlphanum = true

theorem ascii_of_isAlphanum {c : Char} (h : c.isAlphanum = true) : c.toNat < 128 := by
  simp only [Char.isAlphanum,Char.isAlpha,Char.isUpper,Char.isLower,Char.isDigit,Bool.or_eq_true,
    Bool.and_eq_true,decide_eq_true_eq] at h
  rcases h with (h | h) | h <;>
    exact Nat.lt_of_le_of_lt (UInt32.le_iff_toNat_le.mp h.2) (by decide)

theorem isAsciiWord_of_mem_words (hascii : ∀ c ∈ cs, c.toNat < 128) (h : word ∈ words cs) :
    IsAsciiWord word := by
  refine ⟨ne_nil_of_mem_words h,fun c hc => ?_⟩
  obtain ⟨hin,halnum⟩ := mem_of_mem_words h hc
  rwa [isAlphanumeric_of_ascii (hascii c hin)] at halnum

theorem not_isLower_of_isUpperText (h : isUpperText word = true)
    (hascii : ∀ c ∈ word, c.toNat < 128) : ∀ c ∈ word, c.isLower = false := by
  intro c hc
  simp only [isUpperText,Bool.and_eq_true,Bool.not_eq_true',List.any_eq_false,Bool.or_eq_true,
    not_or,Bool.not_eq_true] at h
  have hlower := (h.2 c hc).1
  rwa [isLower,if_pos (hascii c hc)] at hlower

theorem capitalize_cons {c : Char} {rest : List Char}
    (h : ∀ d ∈ c :: rest, d.isAlphanum = true) : capitalize (c :: rest) =
      c.toUpper :: if isUpperText (c :: rest) then rest.map Char.toLower else rest := by
  have hascii : ∀ d ∈ c :: rest, d.toNat < 128 := fun d hd => ascii_of_isAlphanum (h d hd)
  obtain ⟨hc,-⟩ := List.forall_mem_cons.mp hascii
  have hcase := forall_ascii (P := fun c => c.toLower.toNat < 128 ∧
    c.toLower.toUpper = c.toUpper) (by decide) hc
  by_cases hupper : isUpperText (c :: rest) = true
  · rw [capitalize,if_pos hupper,if_pos hupper,lower_of_ascii hascii]
    simp [upperChar,hcase]
  · rw [capitalize,if_neg hupper,if_neg hupper]
    simp [upperChar,hc]

theorem isAlphanum_capitalize (h : IsAsciiWord word) :
    ∀ c ∈ capitalize word, c.isAlphanum = true := by
  obtain ⟨c,rest,rfl⟩ := List.exists_cons_of_ne_nil h.1
  have hcase {d : Char} (hd : d.isAlphanum = true) :
      d.toUpper.isAlphanum = true ∧ d.toLower.isAlphanum = true :=
    forall_ascii (P := fun d => d.isAlphanum = true → d.toUpper.isAlphanum = true ∧
      d.toLower.isAlphanum = true) (by decide) (ascii_of_isAlphanum hd) hd
  obtain ⟨hc,hrest⟩ := List.forall_mem_cons.mp h.2
  rw [capitalize_cons h.2]
  refine List.forall_mem_cons.mpr ⟨(hcase hc).1,?_⟩
  split
  · intro e he
    obtain ⟨d,hd,rfl⟩ := List.mem_map.mp he
    exact (hcase (hrest d hd)).2
  · exact hrest

theorem map_toLower_capitalize (h : IsAsciiWord word) :
    (capitalize word).map Char.toLower = word.map Char.toLower := by
  obtain ⟨c,rest,rfl⟩ := List.exists_cons_of_ne_nil h.1
  have hcase {d : Char} (hd : d ∈ c :: rest) :
      d.toUpper.toLower = d.toLower ∧ d.toLower.toLower = d.toLower :=
    forall_ascii (P := fun d => d.toUpper.toLower = d.toLower ∧ d.toLower.toLower = d.toLower)
      (by decide) (ascii_of_isAlphanum (h.2 d hd))
  rw [capitalize_cons h.2,List.map_cons,List.map_cons,(hcase List.mem_cons_self).1]
  split
  · rw [List.map_map]
    exact congrArg (c.toLower :: ·) (List.map_congr_left fun d hd =>
      (hcase (List.mem_cons_of_mem c hd)).2)
  · rfl

theorem words_cons_separator {s : Char} (hs : isAlphanumeric s = false) (ds : List Char) :
    words (s :: ds) = words ds := by
  cases ds <;> simp [words,hs]

/-- What is neither a letter nor a digit parts the words on its sides. -/
theorem words_append_separator {s : Char} (hs : isAlphanumeric s = false) (cs ds : List Char) :
    words (cs ++ s :: ds) = words cs ++ words ds := by
  have hsep := words_cons_separator hs ds
  induction cs using words.induct with
  | case1 => simpa [words] using hsep
  | case2 c hc => simp [words,hc,hs,hsep]
  | case3 c hc => simp [words,hc,hsep]
  | case4 c d rest hc hd ih =>
    obtain ⟨word,more,hw⟩ := exists_words_cons hd rest
    rw [hw,List.cons_append] at ih
    simp [words,hc,hd,hw,ih]
  | case5 c d rest hc hd ih =>
    rw [List.cons_append] at ih
    simp [words,hc,hd,ih]
  | case6 c d rest hc ih =>
    rw [List.cons_append] at ih
    simp [words,hc,ih]

end Words

/-! ## Camel case -/

section Camel
variable {name : String}

/-- The ASCII letters and digits of a name. -/
def alphanumerics (name : String) : List Char := name.toList.filter Char.isAlphanum

theorem camel_append_dot (a b : String) : camel (a ++ "." ++ b) = camel a ++ camel b := by
  have htext : (a ++ "." ++ b).toList = a.toList ++ '.' :: b.toList := by simp
  rw [camel,camelChars,htext,words_append_separator (isAlphanumeric_of_ascii (by decide)),
    List.flatMap_append,String.ofList_append]
  rfl

theorem isAlphanum_camel (h : IsAscii name) : ∀ c ∈ (camel name).toList, c.isAlphanum = true := by
  intro c hc
  rw [camel,String.toList_ofList] at hc
  obtain ⟨word,hword,hc⟩ := List.mem_flatMap.mp hc
  exact isAlphanum_capitalize (isAsciiWord_of_mem_words h hword) c hc

theorem map_toLower_camel (h : IsAscii name) :
    (camel name).toList.map Char.toLower = (alphanumerics name).map Char.toLower := by
  have hwords : (words name.toList).map (fun w => (capitalize w).map Char.toLower) =
      (words name.toList).map (fun w => w.map Char.toLower) :=
    List.map_congr_left fun w hw => map_toLower_capitalize (isAsciiWord_of_mem_words h hw)
  have hletters : name.toList.filter isAlphanumeric = alphanumerics name :=
    List.filter_congr fun c hc => isAlphanumeric_of_ascii (h c hc)
  rw [camel,camelChars,String.toList_ofList,List.map_flatMap,List.flatMap_def,hwords,
    ← List.map_flatten,flatten_words,hletters]

end Camel

/-! ## Snake case -/

section Snake
variable {name : String} {cs : List Char}

/-- A small letter or a digit stands here before a capital, or a capital before one that a small
letter follows. -/
def EndsWord (cs : List Char) (i : ℕ) : Prop :=
  ∃ a ∈ cs[i]?, ∃ b ∈ cs[i + 1]?, (a.isLower ∨ a.isDigit) ∧ b.isUpper ∨
    a.isUpper ∧ b.isUpper ∧ ∃ c ∈ cs[i + 2]?, c.isLower

instance (cs : List Char) (i : ℕ) : Decidable (EndsWord cs i) :=
  decidable_of_iff ((cs[i]?.any fun a => cs[i + 1]?.any fun b =>
    (a.isLower || a.isDigit) && b.isUpper ||
      a.isUpper && b.isUpper && cs[i + 2]?.any Char.isLower) = true)
    (by simp [EndsWord,Option.any_eq_true,and_assoc])

/-- The underscore that parts a word from the next one. -/
def separator (cs : List Char) (i : ℕ) : List Char := if EndsWord cs i then ['_'] else []

theorem separator_zero (a b : Char) (rest : List Char) :
    separator (a :: b :: rest) 0 = if startsWord a b rest = true then ['_'] else [] := by
  have hstarts : EndsWord (a :: b :: rest) 0 ↔ startsWord a b rest = true := by
    cases rest <;> simp [EndsWord,startsWord,and_assoc]
  simp only [separator,hstarts]

theorem separator_cons_succ (a : Char) (cs : List Char) (i : ℕ) :
    separator (a :: cs) (i + 1) = separator cs i :=
  if_congr (by simp [EndsWord]) rfl rfl

/-- The characters of a name, each with the underscore behind it. -/
def separated (cs : List Char) : List Char := (cs.mapIdx fun i c => c :: separator cs i).flatten

theorem separated_cons (a : Char) (cs : List Char) :
    separated (a :: cs) = a :: (separator (a :: cs) 0 ++ separated cs) := by
  rw [separated,List.mapIdx_cons,List.flatten_cons,List.cons_append]
  simp only [separator_cons_succ,separated]

theorem separateWords_eq (cs : List Char) : separateWords cs = separated cs := by
  induction cs using separateWords.induct with
  | case1 => rfl
  | case2 a => simp [separateWords,separated,separator,EndsWord]
  | case3 a b rest hstarts ih => simp [separateWords,separated_cons a,separator_zero,hstarts,ih]
  | case4 a b rest hstarts ih => simp [separateWords,separated_cons a,separator_zero,hstarts,ih]

theorem separateWords_of_not_isUpper (h : ∀ c ∈ cs, c.isUpper = false) :
    separateWords cs = cs := by
  induction cs using separateWords.induct with
  | case1 | case2 => rfl
  | case3 a b rest hstarts => simp [startsWord,h b (by simp)] at hstarts
  | case4 a b rest hstarts ih =>
    rw [separateWords,if_neg hstarts,ih fun c hc => h c (List.mem_cons_of_mem a hc)]

theorem ascii_of_mem_separateWords (h : IsAscii name) {c : Char}
    (hc : c ∈ separateWords name.toList) : c.toNat < 128 := by
  by_cases hunder : c = '_'
  · rw [hunder]
    decide
  · exact h c (mem_of_mem_separateWords hunder hc)

theorem snake_of_ascii (h : IsAscii name) : (snake name).toList =
    (separateWords name.toList).map fun c => (hyphenToUnderscore c).toLower := by
  have hascii : ∀ c ∈ (separateWords name.toList).map hyphenToUnderscore, c.toNat < 128 :=
    List.forall_mem_map.mpr fun c hc => forall_ascii
      (P := fun c => (hyphenToUnderscore c).toNat < 128) (by decide)
      (ascii_of_mem_separateWords h hc)
  rw [snake,snakeChars,String.toList_ofList,lower_of_ascii hascii,List.map_map]
  rfl

/-- No capital and no hyphen stays. -/
theorem small_of_mem_snake (h : IsAscii name) {c : Char} (hc : c ∈ (snake name).toList) :
    c.toNat < 128 ∧ c.isUpper = false ∧ c ≠ '-' := by
  rw [snake_of_ascii h] at hc
  obtain ⟨d,hd,rfl⟩ := List.mem_map.mp hc
  exact forall_ascii (P := fun d => (hyphenToUnderscore d).toLower.toNat < 128 ∧
    (hyphenToUnderscore d).toLower.isUpper = false ∧ (hyphenToUnderscore d).toLower ≠ '-')
    (by decide) (ascii_of_mem_separateWords h hd)

theorem snake_snake (h : IsAscii name) : snake (snake name) = snake name := by
  have hsmall := fun c => small_of_mem_snake (c := c) h
  rw [← String.toList_inj,snake_of_ascii fun c hc => (hsmall c hc).1,
    separateWords_of_not_isUpper fun c hc => (hsmall c hc).2.1]
  refine (List.map_congr_left fun c hc => ?_).trans (List.map_id _)
  obtain ⟨hascii,hupper,hhyphen⟩ := hsmall c hc
  rw [hyphenToUnderscore,if_neg hhyphen]
  exact forall_ascii (P := fun c => c.isUpper = false → c.toLower = id c) (by decide) hascii hupper

/-- What is neither an underscore nor a hyphen. -/
def isKept (c : Char) : Bool := c != '_' && c != '-'

theorem filter_isKept_separateWords (cs : List Char) :
    (separateWords cs).filter isKept = cs.filter isKept := by
  induction cs using separateWords.induct with
  | case1 | case2 => rfl
  | case3 a b rest hstarts ih =>
    rw [separateWords,if_pos hstarts,List.filter_cons,List.filter_cons_of_neg (by decide),ih,
      ← List.filter_cons]
  | case4 a b rest hstarts ih =>
    rw [separateWords,if_neg hstarts,List.filter_cons,ih,← List.filter_cons]

theorem filter_isKept_snake (h : IsAscii name) :
    (snake name).toList.filter isKept = (name.toList.filter isKept).map Char.toLower := by
  have hcase {c : Char} (hc : c ∈ separateWords name.toList) :
      isKept (hyphenToUnderscore c).toLower = isKept c ∧
        (isKept c = true → hyphenToUnderscore c = c) :=
    forall_ascii (P := fun c => isKept (hyphenToUnderscore c).toLower = isKept c ∧
      (isKept c = true → hyphenToUnderscore c = c)) (by decide)
      (ascii_of_mem_separateWords h hc)
  have hsame : (separateWords name.toList).filter
      (isKept ∘ fun c => (hyphenToUnderscore c).toLower) = name.toList.filter isKept :=
    (List.filter_congr fun c hc => (hcase hc).1).trans (filter_isKept_separateWords _)
  rw [snake_of_ascii h,List.filter_map,hsame]
  refine List.map_congr_left fun c hc => ?_
  rw [← filter_isKept_separateWords] at hc
  obtain ⟨hin,hkept⟩ := List.mem_filter.mp hc
  rw [(hcase hin).2 hkept]

end Snake

/-- The case forms of ASCII names. The camel form of a path is those of its parts run together; a
camel form has letters and digits only, those of the name in their order but for their case, so two
names with one camel form differ in nothing else but case. The snake form is the name in small
letters with underscores for hyphens, and one more exactly where a small letter or a digit stands
before a capital, or a capital before one that a small letter follows. It is its own snake form. -/
theorem case_forms {a b : String} (ha : IsAscii a) (hb : IsAscii b) :
    (camel (a ++ "." ++ b) = camel a ++ camel b ∧
      (∀ c ∈ (camel a).toList, c.isAlphanum = true) ∧
      (camel a).toList.map Char.toLower = (alphanumerics a).map Char.toLower ∧
      (camel a = camel b →
        (alphanumerics a).map Char.toLower = (alphanumerics b).map Char.toLower)) ∧
    snake (snake a) = snake a ∧
    (∀ c ∈ (snake a).toList, c.isUpper = false ∧ c ≠ '-') ∧
    (snake a).toList.filter isKept = (a.toList.filter isKept).map Char.toLower ∧
    (snake a).toList =
      (separated a.toList).map fun c => if c = '-' then '_' else c.toLower := by
  refine ⟨⟨camel_append_dot a b,isAlphanum_camel ha,map_toLower_camel ha,fun he => ?_⟩,
    snake_snake ha,fun c hc => (small_of_mem_snake ha hc).2,filter_isKept_snake ha,?_⟩
  · rw [← map_toLower_camel ha,he,map_toLower_camel hb]
  · rw [snake_of_ascii ha,separateWords_eq]
    refine List.map_congr_left fun c _ => ?_
    by_cases hc : c = '-'
    · subst hc
      decide
    · rw [hyphenToUnderscore,if_neg hc,if_neg hc]

/-- Capitals in a row stay one word, but for the last of them before a small letter. -/
theorem case_forms_httpServer : camel ("HTTPServer" ++ "." ++ "io-v2") = "HTTPServerIoV2" ∧
    snake (snake "HTTPServer") = "http_server" := by
  have hforms :=
    case_forms (a := "HTTPServer") (b := "io-v2") (by decide +kernel) (by decide +kernel)
  refine ⟨hforms.1.1.trans ?_,hforms.2.1.trans ?_⟩
  · decide +kernel
  · decide +kernel

end SchemaCodec.Identifier
