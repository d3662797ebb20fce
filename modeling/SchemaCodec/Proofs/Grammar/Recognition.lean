import Mathlib.Data.Fintype.Defs
import SchemaCodec.Proofs.Grammar.Spelling

/-! # Spelled tokens are recognized

A token that is spelled as its kind is recognized as such where it is acceptable and a space or the
end of the text follows, unless it is a word that spells a keyword. Kinds of tokens are told apart
by their first character; where two keywords begin alike, a word has to be acceptable too.
-/
namespace SchemaCodec.Grammar
open Text

/-- What stands behind a token: nothing, or a space. -/
def Apart (rest : List Char) : Prop := rest = [] ∨ ∃ more, rest = ' ' :: more

variable {rest : List Char}

theorem takeWhile_stop {p : Char → Bool} {cs tail : List Char} (h : ∀ c ∈ cs, p c = true)
    (htail : ∀ c ∈ tail.head?, p c = false) : (cs ++ tail).takeWhile p = cs := by
  rw [List.takeWhile_append_of_pos h]
  cases tail with
  | nil => simp
  | cons c tail => simp [htail c rfl]

theorem takeWhile_apart {p : Char → Bool} {cs : List Char} (h : ∀ c ∈ cs, p c = true)
    (hspace : p ' ' = false) (hr : Apart rest) : (cs ++ rest).takeWhile p = cs := by
  refine takeWhile_stop h ?_
  rcases hr with rfl | ⟨more,rfl⟩ <;> simp [hspace]

theorem wordLength_append {cs : List Char} (h : IsWord cs) (hr : Apart rest) :
    wordLength (cs ++ rest) = cs.length := by
  obtain ⟨c,word,hc,hword,rfl⟩ := h
  rw [List.cons_append,wordLength,if_pos hc,takeWhile_apart hword (by decide) hr,List.length_cons,
    Nat.add_comm]

theorem digitsLength_append {cs : List Char} (h : ∀ c ∈ cs, c.isDigit = true) (hr : Apart rest) :
    digitsLength (cs ++ rest) = cs.length := by
  rw [digitsLength,takeWhile_apart h (by decide) hr]

theorem isDigit_ne_x {c : Char} (h : c.isDigit = true) : (c == 'x' || c == 'X') = false := by
  have hx : c ≠ 'x' := by rintro rfl; cases h
  have hX : c ≠ 'X' := by rintro rfl; cases h
  simp [hx,hX]

theorem intLength_of_digits {cs : List Char} (h : ∀ c ∈ cs, c.isDigit = true) (hr : Apart rest) :
    intLength (cs ++ rest) = digitsLength (cs ++ rest) := by
  rcases cs with _ | ⟨c,_ | ⟨d,cs⟩⟩
  · rcases hr with rfl | ⟨more,rfl⟩ <;> rfl
  · rcases hr with rfl | ⟨more,rfl⟩
    · unfold intLength
      split <;> simp_all
    · unfold intLength
      split
      · rename_i he
        cases he
        simp
      · rfl
  · have hd := isDigit_ne_x (h d (by simp))
    unfold intLength
    split
    · rename_i he
      cases he
      simp [hd]
    · rfl

theorem intLength_append {cs : List Char} (h : IsInt cs) (hr : Apart rest) :
    intLength (cs ++ rest) = cs.length := by
  rcases h with h | ⟨x,digits,hx,hne,hdigits,rfl⟩
  · rw [intLength_of_digits h.2 hr,digitsLength_append h.2 hr]
  · have htake := takeWhile_apart hdigits (by decide) hr
    have hpos : 0 < digits.length := List.length_pos_iff.mpr hne
    have hmark : (x == 'x' || x == 'X') = true := by simpa using hx
    simp only [List.cons_append,intLength,htake,hmark,hpos,decide_true,Bool.and_self,if_true,
      List.length_cons]
    omega

theorem exponentLength_apart (hr : Apart rest) : exponentLength rest = 0 := by
  rcases hr with rfl | ⟨more,rfl⟩ <;> rfl

theorem exponentLength_append {cs : List Char} (h : IsExponent cs) (hr : Apart rest) :
    exponentLength (cs ++ rest) = cs.length := by
  obtain ⟨e,sign,digits,he,hsign,⟨hne,hdigits⟩,rfl⟩ := h
  have hlength := digitsLength_append hdigits hr
  have hmark : (e == 'e' || e == 'E') = true := by simpa using he
  have hpos : digits.length ≠ 0 := fun h0 => hne (List.length_eq_zero_iff.mp h0)
  rcases hsign with rfl | rfl | rfl
  · obtain ⟨d,digits,rfl⟩ := List.exists_cons_of_ne_nil hne
    have hd := hdigits d (by simp)
    have hplus : d ≠ '+' := by rintro rfl; cases hd
    have hminus : d ≠ '-' := by rintro rfl; cases hd
    simp only [List.cons_append,List.nil_append] at hlength ⊢
    simp [exponentLength,hmark,hplus,hminus,hlength]
    omega
  · simp [exponentLength,hmark,hlength,hpos]
    omega
  · simp [exponentLength,hmark,hlength,hpos]
    omega

/-- An exponent, or none, begins with no digit. -/
theorem digitsLength_exponent {whole exponent : List Char} (h : ∀ c ∈ whole, c.isDigit = true)
    (he : exponent = [] ∨ IsExponent exponent) (hr : Apart rest) :
    digitsLength (whole ++ (exponent ++ rest)) = whole.length := by
  rw [digitsLength,takeWhile_stop h]
  rcases he with rfl | ⟨e,sign,digits,rfl | rfl,-,-,rfl⟩
  · rcases hr with rfl | ⟨more,rfl⟩ <;> simp
  · simp
  · simp

theorem floatLength_append {cs : List Char} (h : IsFloat cs) (hr : Apart rest) :
    floatLength (cs ++ rest) = cs.length := by
  rcases h with ⟨whole,fraction,exponent,⟨hne,hwhole⟩,hfraction,he,rfl⟩ |
    ⟨whole,exponent,⟨hne,hwhole⟩,he,rfl⟩
  · have hpos : whole.length ≠ 0 := fun h0 => hne (List.length_eq_zero_iff.mp h0)
    have hw : digitsLength (whole ++ '.' :: (fraction ++ exponent ++ rest)) = whole.length := by
      rw [digitsLength,takeWhile_stop hwhole (by simp)]
    have hf := digitsLength_exponent hfraction he hr
    have hexp : exponentLength (exponent ++ rest) = exponent.length := by
      rcases he with rfl | he
      · exact exponentLength_apart hr
      · exact exponentLength_append he hr
    rw [List.append_assoc,List.cons_append]
    simp only [floatLength,hw,hpos,if_false,List.drop_left]
    rw [List.append_assoc,hf,List.drop_left,hexp]
    simp
    omega
  · have hpos : whole.length ≠ 0 := fun h0 => hne (List.length_eq_zero_iff.mp h0)
    have hw := digitsLength_exponent hwhole (.inr he) hr
    have hexp := exponentLength_append he hr
    have hepos : exponent.length ≠ 0 := by
      obtain ⟨e,sign,digits,-,-,-,rfl⟩ := he
      simp
    rw [List.append_assoc]
    simp only [floatLength,hw,hpos,if_false,List.drop_left]
    split
    · rename_i he' 
      obtain ⟨e,sign,digits,rfl | rfl,-,-,rfl⟩ := he <;> cases he'
    · rw [hexp,if_neg hepos,List.length_append]

theorem floatLength_of_int {cs : List Char} (h : IsInt cs) (hr : Apart rest) :
    floatLength (cs ++ rest) = 0 := by
  rcases h with h | ⟨x,digits,hx,hne,hdigits,rfl⟩
  · have hw := digitsLength_append h.2 hr
    have hexp := exponentLength_apart hr
    simp only [floatLength,hw,List.drop_left]
    split
    · rfl
    · split
      · rcases hr with h0 | ⟨more,h0⟩ <;> cases h0
      · simp [hexp]
  · rcases hx with rfl | rfl <;> rfl

theorem quotedLength?_append {quote : Char} {inside : List Char} (h : InQuotes quote inside)
    (hq : quote ≠ '\\') (rest : List Char) :
    quotedLength? quote (inside ++ quote :: rest) = some (inside.length + 1) := by
  induction h with
  | nil => simp [quotedLength?,hq]
  | plain c cs hquote hline hescape _ ih => simp [quotedLength?,hquote,hline,hescape,ih]
  | escaped c cs hline _ ih => simp [quotedLength?,hline,ih]

theorem textLength_append {cs : List Char} (h : IsText cs) :
    textLength (cs ++ rest) = cs.length := by
  obtain ⟨quote,inside,hq,hin,rfl⟩ := h
  have hne : quote ≠ '\\' := by rcases hq with rfl | rfl <;> decide
  have hlength := quotedLength?_append hin hne rest
  simp [textLength,hq,hlength]

/-! ## First characters -/

/-- What a kind of token may begin with. -/
def Terminal.Opens : Terminal → Char → Prop
  | keyword k, c => k.spelling.toList.head? = some c
  | mark m, c => c = m.spelling
  | word, c => isWordStart c = true
  | int, c | float, c => c.isDigit = true
  | text, c => c = '"' ∨ c = '\''

theorem digitsLength_cons {c : Char} {cs : List Char} (h : 0 < digitsLength (c :: cs)) :
    c.isDigit = true := by
  by_contra hc
  simp [digitsLength,hc] at h

theorem opens_of_length {t : Terminal} {c : Char} {cs : List Char} (h : 0 < t.length (c :: cs)) :
    t.Opens c := by
  cases t with
  | keyword k =>
    by_cases hk : k.spelling.toList.isPrefixOf (c :: cs) = true
    · obtain ⟨more,hmore⟩ := List.isPrefixOf_iff_prefix.mp hk
      cases hs : k.spelling.toList with
      | nil => cases k <;> cases hs
      | cons d ds =>
        rw [hs,List.cons_append] at hmore
        rw [Terminal.Opens,hs,List.head?_cons,(List.cons.inj hmore).1]
    · simp [Terminal.length,keywordLength,hk] at h
  | mark m =>
    by_cases hm : c = m.spelling
    · exact hm
    · simp [Terminal.length,markLength,hm] at h
  | word =>
    by_contra hc
    have hc' : ¬ isWordStart c = true := hc
    simp [Terminal.length,wordLength,hc'] at h
  | int =>
    simp only [Terminal.length,intLength] at h
    split at h
    · rename_i he
      cases he
      rfl
    · exact digitsLength_cons h
  | float =>
    have hdigits : 0 < digitsLength (c :: cs) :=
      Nat.pos_of_ne_zero fun h0 => by simp [Terminal.length,floatLength,h0] at h
    exact digitsLength_cons hdigits
  | text =>
    by_contra hc
    have hc' : ¬ (c = '"' ∨ c = '\'') := hc
    simp [Terminal.length,textLength,hc'] at h

theorem isWordStart_of_opens_keyword {k : Keyword} {c : Char} (h : (Terminal.keyword k).Opens c) :
    isWordStart c = true := by
  obtain ⟨more,hmore⟩ := List.head?_eq_some_iff.mp h
  cases k <;> cases hmore <;> rfl

/-- Letters, digits, quotes and the other marks are apart from one another. -/
theorem apart_of_mark (m : Mark) : isWordStart m.spelling = false ∧ m.spelling.isDigit = false ∧
    m.spelling ≠ '"' ∧ m.spelling ≠ '\'' := by
  cases m <;> decide

theorem isDigit_of_isWordStart {c : Char} (h : isWordStart c = true) : c.isDigit = false := by
  by_contra hd
  simp only [Bool.not_eq_false,isWordStart,Bool.or_eq_true,beq_iff_eq] at hd h
  rcases h with h | rfl
  · unfold Char.isAlpha Char.isUpper Char.isLower at h
    simp only [Char.isDigit,Bool.and_eq_true,Bool.or_eq_true,decide_eq_true_eq,
      UInt32.le_iff_toNat_le] at hd h
    simp at hd h
    omega
  · cases hd

theorem ne_quote_of_isWordStart {c : Char} (h : isWordStart c = true) : c ≠ '"' ∧ c ≠ '\'' := by
  constructor <;> rintro rfl <;> cases h

theorem ne_quote_of_isDigit {c : Char} (h : c.isDigit = true) : c ≠ '"' ∧ c ≠ '\'' := by
  constructor <;> rintro rfl <;> cases h

theorem Mark.spelling_injective : Function.Injective Mark.spelling := by
  intro a b h
  cases a <;> cases b <;> first | rfl | cases h

variable {t : Terminal} {c : Char}

theorem opens_mark {m : Mark} (ht : t.Opens m.spelling) : t = .mark m := by
  obtain ⟨hstart,hdigit,hdouble,hsingle⟩ := apart_of_mark m
  cases t with
  | keyword k => simp [isWordStart_of_opens_keyword ht] at hstart
  | mark m' => rw [Mark.spelling_injective ht]
  | word => simp [show isWordStart m.spelling = true from ht] at hstart
  | int => simp [show m.spelling.isDigit = true from ht] at hdigit
  | float => simp [show m.spelling.isDigit = true from ht] at hdigit
  | text => exact absurd ht (by simp [Terminal.Opens,hdouble,hsingle])

theorem opens_letter (hc : isWordStart c = true) (ht : t.Opens c) :
    (∃ k, t = .keyword k) ∨ t = .word := by
  cases t with
  | keyword k => exact .inl ⟨k,rfl⟩
  | word => exact .inr rfl
  | mark m => rw [show c = m.spelling from ht,(apart_of_mark m).1] at hc; cases hc
  | int => rw [Terminal.Opens,isDigit_of_isWordStart hc] at ht; cases ht
  | float => rw [Terminal.Opens,isDigit_of_isWordStart hc] at ht; cases ht
  | text => exact absurd ht (by simp [Terminal.Opens,ne_quote_of_isWordStart hc])

theorem opens_digit (hc : c.isDigit = true) (ht : t.Opens c) : t = .int ∨ t = .float := by
  cases t with
  | int => exact .inl rfl
  | float => exact .inr rfl
  | keyword k =>
    rw [isDigit_of_isWordStart (isWordStart_of_opens_keyword ht)] at hc; cases hc
  | word => rw [isDigit_of_isWordStart ht] at hc; cases hc
  | mark m => rw [show c = m.spelling from ht,(apart_of_mark m).2.1] at hc; cases hc
  | text => exact absurd ht (by simp [Terminal.Opens,ne_quote_of_isDigit hc])

theorem opens_quote (hc : c = '"' ∨ c = '\'') (ht : t.Opens c) : t = .text := by
  cases t with
  | text => rfl
  | keyword k =>
    have h := ne_quote_of_isWordStart (isWordStart_of_opens_keyword ht)
    exact absurd hc (by simp [h])
  | word => exact absurd hc (by simp [ne_quote_of_isWordStart (show isWordStart c = true from ht)])
  | mark m => rw [show c = m.spelling from ht] at hc; exact absurd hc (by simp [apart_of_mark m])
  | int => exact absurd hc (by simp [ne_quote_of_isDigit (show c.isDigit = true from ht)])
  | float => exact absurd hc (by simp [ne_quote_of_isDigit (show c.isDigit = true from ht)])

/-! ## Keywords -/

theorem Keyword.spelling_injective : Function.Injective Keyword.spelling := by
  intro a b h
  cases a <;> cases b <;> first | rfl | exact absurd h (by decide)

theorem Keyword.space_not_mem (k : Keyword) : ' ' ∉ k.spelling.toList := by cases k <;> decide

/-- Only one keyword begins as another is spelled. -/
theorem Keyword.eq_of_prefix {k k' : Keyword} (h : k'.spelling.toList <+: k.spelling.toList) :
    k' = k ∨ (k' = .optionKw ∧ k = .optionalKw) := by
  have h := List.isPrefixOf_iff_prefix.mpr h
  cases k <;> cases k' <;>
    first | exact .inl rfl | exact .inr ⟨rfl,rfl⟩ | exact absurd h (by decide)

theorem Keyword.eq_of_prefix_append {k k' : Keyword}
    (h : k'.spelling.toList <+: k.spelling.toList ++ rest) (hr : Apart rest) :
    k' = k ∨ (k' = .optionKw ∧ k = .optionalKw) := by
  rcases List.prefix_or_prefix_of_prefix h (List.prefix_append _ rest) with hp | ⟨more,hmore⟩
  · exact Keyword.eq_of_prefix hp
  · rw [← hmore,List.prefix_append_right_inj] at h
    cases more with
    | nil =>
      rw [List.append_nil] at hmore
      exact .inl (Keyword.spelling_injective (String.ext hmore)).symm
    | cons d more =>
      rcases hr with rfl | ⟨tail,rfl⟩
      · cases List.prefix_nil.mp h
      · obtain ⟨_,he⟩ := h
        cases he
        exact absurd (hmore ▸ by simp) k'.space_not_mem

theorem keywordOf?_eq {acceptable : List Terminal} {k : Keyword} (h : .keyword k ∈ acceptable) :
    keywordOf? acceptable k.spelling.toList = some k := by
  cases hk : keywordOf? acceptable k.spelling.toList with
  | none =>
    have h0 := List.findSome?_eq_none_iff.mp hk _ h
    simp at h0
  | some k' =>
    obtain ⟨-,hs⟩ := keywordOf?_eq_some hk
    rw [Keyword.spelling_injective (String.ext hs)]

theorem isWord_keyword (k : Keyword) : IsWord k.spelling.toList := by
  have h : isWordStart (k.spelling.toList.headD ' ') = true ∧
      k.spelling.toList.tail.all isWordPart = true ∧
        k.spelling.toList = k.spelling.toList.headD ' ' :: k.spelling.toList.tail := by
    cases k <;> decide
  exact ⟨_,_,h.1,List.all_eq_true.mp h.2.1,h.2.2⟩

/-- A spelling of a kind of token begins as such. -/
theorem exists_opens_of_spells {cs : List Char} (h : t.Spells cs) :
    ∃ c more, cs = c :: more ∧ t.Opens c := by
  have hdigits {whole : List Char} (more : List Char) (hw : IsDigits whole) :
      ∃ c rest, whole ++ more = c :: rest ∧ c.isDigit = true := by
    obtain ⟨c,rest,rfl⟩ := List.exists_cons_of_ne_nil hw.1
    exact ⟨c,rest ++ more,rfl,hw.2 c List.mem_cons_self⟩
  cases t with
  | keyword k =>
    obtain ⟨c,more,-,-,hs⟩ := isWord_keyword k
    exact ⟨c,more,h.trans hs,by rw [Terminal.Opens,hs,List.head?_cons]⟩
  | mark m => exact ⟨m.spelling,[],h,rfl⟩
  | word =>
    obtain ⟨c,more,hc,-,rfl⟩ := h
    exact ⟨c,more,rfl,hc⟩
  | int =>
    rcases h with h | ⟨x,digits,-,-,-,rfl⟩
    · have hd := hdigits [] h
      rw [List.append_nil] at hd
      exact hd
    · exact ⟨'0',x :: digits,rfl,rfl⟩
  | float =>
    rcases h with ⟨whole,_,_,hw,-,-,rfl⟩ | ⟨whole,_,hw,-,rfl⟩
    · exact hdigits _ hw
    · exact hdigits _ hw
  | text =>
    obtain ⟨quote,inside,hq,-,rfl⟩ := h
    exact ⟨quote,_,rfl,hq⟩

/-! ## Recognition -/

variable {acceptable : List Terminal} {cs : List Char}

/-- The only kind of token that fits, no word and no float, is recognized. -/
theorem recognize_of_only {n : ℕ} (hmem : t ∈ acceptable) (hlength : t.length (c :: cs) = n)
    (hpos : 0 < n) (honly : ∀ u ∈ acceptable, u.Opens c → 0 < u.length (c :: cs) → u = t)
    (hfloat : t ≠ .float) (hword : t ≠ .word) : recognize acceptable (c :: cs) = some (t,n) := by
  have hall (u : Terminal) (hu : u ∈ acceptable.filter fun t => 0 < t.length (c :: cs)) :
      u = t := by
    obtain ⟨hmem,hpos⟩ := List.mem_filter.mp hu
    have hpos := of_decide_eq_true hpos
    exact honly u hmem (opens_of_length hpos) hpos
  have ht : t ∈ acceptable.filter fun t => 0 < t.length (c :: cs) :=
    List.mem_filter.mpr ⟨hmem,decide_eq_true (hlength ▸ hpos)⟩
  unfold recognize
  rw [if_neg fun h => hfloat (hall _ h).symm,if_neg fun h => hword (hall _ h).symm]
  cases hf : acceptable.filter fun t => 0 < t.length (c :: cs) with
  | nil =>
    rw [hf] at ht
    cases ht
  | cons u more =>
    rw [hall u (hf ▸ List.mem_cons_self),List.head?_cons,Option.map_some,hlength]

/-- Where words are acceptable, a word is recognized as its keyword or as a word. -/
theorem recognize_word (hmem : .word ∈ acceptable) (h : IsWord cs) (hr : Apart rest) :
    recognize acceptable (cs ++ rest) =
      some (((keywordOf? acceptable cs).map Terminal.keyword).getD .word,cs.length) := by
  have hlength := wordLength_append h hr
  obtain ⟨c,word,hc,-,rfl⟩ := h
  have hfloat : .float ∉ acceptable.filter fun t => 0 < t.length (c :: word ++ rest) := by
    intro hf
    have hpos := of_decide_eq_true (List.mem_filter.mp hf).2
    rcases opens_letter hc (opens_of_length hpos) with ⟨_,he⟩ | he <;> cases he
  have hword : .word ∈ acceptable.filter fun t => 0 < t.length (c :: word ++ rest) := by
    refine List.mem_filter.mpr ⟨hmem,decide_eq_true ?_⟩
    rw [Terminal.length,hlength]
    exact Nat.succ_pos _
  unfold recognize
  rw [if_neg hfloat,if_pos hword,hlength]
  simp only [List.take_left]
  cases keywordOf? acceptable (c :: word) <;> rfl

/-- A lexeme that spells no keyword without being one. -/
def Lexeme.Distinct : Lexeme → Prop
  | word w => ∀ k : Keyword, w ≠ k.spelling
  | _ => True

instance : Fintype Keyword where
  elems := {.syntaxKw,.packageKw,.importKw,.publicKw,.weakKw,.optionKw,.messageKw,.enumKw,
    .repeatedKw,.optionalKw,.requiredKw,.mapKw,.oneofKw,.reservedKw,.toKw,.maxKw}
  complete k := by cases k <;> decide

instance : DecidablePred Lexeme.Distinct
  | .word w => inferInstanceAs (Decidable (∀ k : Keyword, w ≠ k.spelling))
  | .keyword _ | .mark _ | .int _ | .float _ | .text _ => .isTrue trivial

/-- Where words are not acceptable, a keyword is recognized if no other one begins it. -/
theorem recognize_keyword {k : Keyword} (hmem : .keyword k ∈ acceptable)
    (hword : .word ∉ acceptable) (hclash : k ≠ .optionalKw) (hr : Apart rest) :
    recognize acceptable (k.spelling.toList ++ rest) =
      some (.keyword k,k.spelling.toList.length) := by
  have hlength : Terminal.length (.keyword k) (k.spelling.toList ++ rest) =
      k.spelling.toList.length := by
    simp [Terminal.length,keywordLength,List.isPrefixOf_iff_prefix,String.length_toList]
  have honly (k' : Keyword) (hpos : 0 < keywordLength k' (k.spelling.toList ++ rest)) :
      k' = k := by
    by_cases hp : k'.spelling.toList.isPrefixOf (k.spelling.toList ++ rest) = true
    · have hp := List.isPrefixOf_iff_prefix.mp hp
      exact (Keyword.eq_of_prefix_append hp hr).resolve_right fun he => hclash he.2
    · simp [keywordLength,hp] at hpos
  obtain ⟨c,more,hc,-,hs⟩ := isWord_keyword k
  rw [hs,List.cons_append] at hlength honly ⊢
  refine recognize_of_only hmem hlength (Nat.succ_pos _) (fun u hu hopens hpos => ?_)
    (by simp) (by simp)
  rcases opens_letter hc hopens with ⟨k',rfl⟩ | rfl
  · rw [honly k' hpos]
  · exact absurd hu hword

theorem recognize_int {s : List Char} (hmem : .int ∈ acceptable) (hs : IsInt s) (hr : Apart rest) :
    recognize acceptable (s ++ rest) = some (.int,s.length) := by
  have hlength := intLength_append hs hr
  have hfloat := floatLength_of_int hs hr
  obtain ⟨c,more,rfl,hc⟩ := exists_opens_of_spells (t := .int) hs
  refine recognize_of_only hmem hlength (Nat.succ_pos _) (fun u _ hopens hpos => ?_)
    (by simp) (by simp)
  rcases opens_digit hc hopens with rfl | rfl
  · rfl
  · have hpos : 0 < floatLength (c :: more ++ rest) := hpos
    omega

theorem recognize_float {s : List Char} (hmem : .float ∈ acceptable) (hs : IsFloat s)
    (hr : Apart rest) : recognize acceptable (s ++ rest) = some (.float,s.length) := by
  have hlength := floatLength_append hs hr
  have hpos : 0 < s.length := by
    obtain ⟨c,more,rfl,-⟩ := exists_opens_of_spells (t := .float) hs
    exact Nat.succ_pos _
  have hf : .float ∈ acceptable.filter fun t => 0 < t.length (s ++ rest) := by
    refine List.mem_filter.mpr ⟨hmem,decide_eq_true ?_⟩
    rw [Terminal.length,hlength]
    exact hpos
  unfold recognize
  rw [if_pos hf,hlength]

/-- What is spelled as an acceptable token is recognized as that token. -/
theorem recognize_append {l : Lexeme} (hl : l.Spelled) (hdistinct : l.Distinct)
    (hmem : l.terminal ∈ acceptable)
    (hclash : .keyword .optionalKw ∈ acceptable → .word ∈ acceptable) (hr : Apart rest) :
    recognize acceptable (l.spelling.toList ++ rest) =
      some (l.terminal,l.spelling.toList.length) := by
  cases l with
  | keyword k =>
    by_cases hword : .word ∈ acceptable
    · have h := recognize_word hword (isWord_keyword k) hr
      rw [keywordOf?_eq hmem] at h
      exact h
    · have hk : k ≠ .optionalKw := by
        rintro rfl
        exact hword (hclash hmem)
      exact recognize_keyword hmem hword hk hr
  | mark m =>
    have hs : (Lexeme.mark m).spelling.toList = [m.spelling] := by simp [Lexeme.spelling]
    rw [hs]
    exact recognize_of_only hmem (by simp [Lexeme.terminal,Terminal.length,markLength])
      Nat.one_pos (fun u _ hopens _ => opens_mark hopens) (by simp [Lexeme.terminal])
      (by simp [Lexeme.terminal])
  | word w =>
    have hnone : keywordOf? acceptable w.toList = none := by
      cases hk : keywordOf? acceptable w.toList with
      | none => rfl
      | some k => exact absurd (String.ext (keywordOf?_eq_some hk).2).symm (hdistinct k)
    have h := recognize_word hmem hl hr
    rw [Lexeme.spelling,hnone] at h
    exact h
  | int s => exact recognize_int hmem hl hr
  | float s => exact recognize_float hmem hl hr
  | text s =>
    have htext : IsText s.toList := hl
    have hlength : textLength (s.toList ++ rest) = _ := textLength_append htext
    obtain ⟨c,inside,hc,-,hs⟩ := htext
    rw [Lexeme.spelling]
    rw [hs,List.cons_append] at hlength ⊢
    exact recognize_of_only hmem hlength (Nat.succ_pos _)
      (fun u _ hopens _ => opens_quote hc hopens) (by simp [Lexeme.terminal])
      (by simp [Lexeme.terminal])

end SchemaCodec.Grammar
