import Mathlib
import SchemaCodec.Json.Print
import SchemaCodec.Json.Read
import SchemaCodec.Proofs.Text.Radix

/-! # Printed documents are read back

Whatever follows a printed value, as long as it does not go on like a number, reading it gives the
value and leaves what follows. Strings are read character by character, each from its own escape; a
character beyond the first plane comes from the two units of its pair.
-/
namespace SchemaCodec.Json
open Text

/-! ## Strings -/

theorem isHexDigit_hexDigit : ∀ d < 16, isHexDigit (hexDigit d) = true := by decide

theorem digitValue_hexDigit : ∀ d < 16, digitValue (hexDigit d) = d := by decide

theorem readUnit?_hexDigits {n : ℕ} (hn : n < 0x10000) (rest : List Char) :
    readUnit? (hexDigits 4 n ++ rest) = some (n,rest) := by
  have hdigit (d : ℕ) : isHexDigit (hexDigit (d % 16)) = true :=
    isHexDigit_hexDigit _ (Nat.mod_lt _ (by decide))
  have hvalue (d : ℕ) : digitValue (hexDigit (d % 16)) = d % 16 :=
    digitValue_hexDigit _ (Nat.mod_lt _ (by decide))
  simp only [hexDigits,List.nil_append,List.cons_append,readUnit?,List.all_cons,List.all_nil,hdigit,
    Bool.and_true,if_true,ofDigits,List.foldl_cons,List.foldl_nil,hvalue,Option.some.injEq,
    Prod.mk.injEq,and_true]
  omega

theorem isValidChar_toNat (c : Char) : c.toNat.isValidChar := c.valid

theorem charOfUnit_toNat (c : Char) : charOfUnit c.toNat = c := by
  rw [charOfUnit,if_pos (isValidChar_toNat c),Char.ofNat_toNat]

/-- A pair of units is read as one character. -/
theorem readEscapedUnits?_pair {high low : ℕ} (hhigh : 0xD800 ≤ high ∧ high < 0xDC00)
    (hlow : 0xDC00 ≤ low ∧ low < 0xE000) (rest : List Char) :
    readEscapedUnits? (hexDigits 4 high ++ (escapeUnit low ++ rest)) =
      some (Char.ofNat (0x10000 + (high - 0xD800) * 0x400 + (low - 0xDC00)),rest) := by
  have hpair : escapeUnit low ++ rest = '\\' :: 'u' :: (hexDigits 4 low ++ rest) := rfl
  rw [readEscapedUnits?,readUnit?_hexDigits (by omega),hpair]
  simp only [Option.bind_eq_bind,Option.bind_some,if_pos hhigh]
  rw [readUnit?_hexDigits (by omega)]
  simp only [if_pos hlow]

/-- The units of a character are read as the character. -/
theorem readEscapedUnits?_units (c : Char) (rest : List Char) :
    ∃ digits, (units c.toNat).flatMap escapeUnit = '\\' :: 'u' :: digits ∧
      readEscapedUnits? (digits ++ rest) = some (c,rest) := by
  have hvalid : c.toNat < 0xD800 ∨ 0xDFFF < c.toNat ∧ c.toNat < 0x110000 := isValidChar_toNat c
  by_cases hsmall : c.toNat < 0x10000
  · refine ⟨hexDigits 4 c.toNat,by simp [units,hsmall,escapeUnit],?_⟩
    have hhigh : ¬ (0xD800 ≤ c.toNat ∧ c.toNat < 0xDC00) := by omega
    simp [readEscapedUnits?,readUnit?_hexDigits hsmall,hhigh,charOfUnit_toNat]
  · -- beyond the first plane, a character has a pair of units
    obtain ⟨high,hhigh⟩ : ∃ high, 0xD800 + (c.toNat - 0x10000) / 0x400 = high := ⟨_,rfl⟩
    obtain ⟨low,hlow⟩ : ∃ low, 0xDC00 + (c.toNat - 0x10000) % 0x400 = low := ⟨_,rfl⟩
    have hsum : 0x10000 + (high - 0xD800) * 0x400 + (low - 0xDC00) = c.toNat := by omega
    refine ⟨hexDigits 4 high ++ escapeUnit low,?_,?_⟩
    · rw [units,if_neg hsmall,hhigh,hlow]
      simp [escapeUnit]
    · rw [List.append_assoc,readEscapedUnits?_pair (by omega) (by omega),hsum,Char.ofNat_toNat]

theorem escapeChar_ne_nil (c : Char) : escapeChar c ≠ [] := by
  obtain ⟨digits,hdigits,-⟩ := readEscapedUnits?_units c []
  unfold escapeChar
  repeat' split
  all_goals simp [hdigits]

section Character
variable (count : ℕ) (rest : List Char)

theorem readStringRest?_simple {e c : Char} (h : simpleEscape? e = some c) :
    readStringRest? (count + 1) ('\\' :: e :: rest) =
      (readStringRest? count rest).map fun (s,rest) => (c :: s,rest) := by
  have hu : e ≠ 'u' := by
    rintro rfl
    exact absurd h (by simp [simpleEscape?])
  rw [readStringRest?,h,Option.bind_eq_bind,Option.bind_some]
  · cases readStringRest? count rest <;> rfl
  · exact fun h => hu h

theorem readStringRest?_plain {c : Char} (hquote : c ≠ '"') (hslash : c ≠ '\\')
    (hprintable : 0x20 ≤ c.toNat) : readStringRest? (count + 1) (c :: rest) =
      (readStringRest? count rest).map fun (s,rest) => (c :: s,rest) := by
  have hallowed : ¬ (c = '\\' ∨ c.toNat < 0x20) := not_or.mpr ⟨hslash,Nat.not_lt.mpr hprintable⟩
  rw [readStringRest?,if_neg hallowed]
  · cases readStringRest? count rest <;> rfl
  · exact fun h => hquote h
  · exact fun _ h => absurd h hslash
  · exact fun _ _ h => absurd h hslash

theorem readStringRest?_unit (count : ℕ) (cs : List Char) :
    readStringRest? (count + 1) ('\\' :: 'u' :: cs) = (do
      let (c,rest) ← readEscapedUnits? cs
      let (s,rest) ← readStringRest? count rest
      some (c :: s,rest)) := rfl

theorem readStringRest?_units (c : Char) :
    readStringRest? (count + 1) ((units c.toNat).flatMap escapeUnit ++ rest) =
      (readStringRest? count rest).map fun (s,rest) => (c :: s,rest) := by
  obtain ⟨digits,hdigits,hread⟩ := readEscapedUnits?_units c rest
  rw [hdigits,List.cons_append,List.cons_append,readStringRest?_unit]
  simp only [hread,Option.bind_eq_bind,Option.bind_some]
  cases readStringRest? count rest <;> rfl

/-- A character is read from its escape. -/
theorem readStringRest?_escapeChar (c : Char) :
    readStringRest? (count + 1) (escapeChar c ++ rest) =
      (readStringRest? count rest).map fun (s,rest) => (c :: s,rest) := by
  unfold escapeChar
  -- the characters that have an escape of two characters
  iterate 7
    split
    · next h =>
      subst h
      exact readStringRest?_simple count rest rfl
  split
  · next hquote hslash _ _ _ _ _ hprintable =>
    exact readStringRest?_plain count rest hquote hslash hprintable.1
  · exact readStringRest?_units count rest c

end Character

/-- A string is read up to the quote that closes it. -/
theorem readStringRest?_flatMap {cs : List Char} {count : ℕ} (h : cs.length < count)
    (rest : List Char) :
    readStringRest? count (cs.flatMap escapeChar ++ '"' :: rest) = some (cs,rest) := by
  induction cs generalizing count with
  | nil =>
    obtain ⟨count,rfl⟩ := Nat.exists_eq_add_of_lt h
    simp [readStringRest?]
  | cons c cs ih =>
    obtain ⟨count,rfl⟩ := Nat.exists_eq_succ_of_ne_zero (Nat.ne_zero_of_lt h)
    rw [List.flatMap_cons,List.append_assoc,readStringRest?_escapeChar,
      ih (Nat.lt_of_succ_lt_succ h)]
    rfl

theorem length_le_flatMap_escapeChar (cs : List Char) :
    cs.length ≤ (cs.flatMap escapeChar).length := by
  induction cs with
  | nil => exact Nat.le_refl 0
  | cons c cs ih =>
    have hpos := List.length_pos_iff.mpr (escapeChar_ne_nil c)
    rw [List.flatMap_cons,List.length_append,List.length_cons]
    omega

theorem readString?_printString (s : String) (rest : List Char) :
    ∃ text, printString s ++ rest = '"' :: text ∧ readString? text = some (s,rest) := by
  refine ⟨s.toList.flatMap escapeChar ++ '"' :: rest,by simp [printString],?_⟩
  have hcount : s.toList.length < (s.toList.flatMap escapeChar ++ '"' :: rest).length + 1 := by
    have hle := length_le_flatMap_escapeChar s.toList
    rw [List.length_append]
    omega
  rw [readString?,readStringRest?_flatMap hcount,Option.map_some]
  simp only [String.ofList_toList]

/-! ## Whole numbers -/

/-- A text that does not go on like a number. -/
def EndsNumber (rest : List Char) : Prop :=
  ∀ c ∈ rest.head?, c.isDigit = false ∧ c ≠ '.' ∧ c ≠ 'e' ∧ c ≠ 'E'

theorem endsNumber_cons {c : Char} (h : c.isDigit = false ∧ c ≠ '.' ∧ c ≠ 'e' ∧ c ≠ 'E')
    (rest : List Char) : EndsNumber (c :: rest) := by
  rintro _ ⟨⟩
  exact h

section Digits

theorem isDigit_of_mem_toDigits {n : ℕ} {c : Char} (h : c ∈ Nat.toDigits 10 n) :
    c.isDigit = true :=
  Nat.isDigit_of_mem_toDigits (by decide) (by decide) h

theorem digitCount_append {digits rest : List Char} (hdigits : ∀ c ∈ digits, c.isDigit = true)
    (hrest : EndsNumber rest) : digitCount (digits ++ rest) = digits.length := by
  rw [digitCount,List.takeWhile_append_of_pos hdigits]
  cases rest with
  | nil => simp
  | cons c more => simp [(hrest c rfl).1]

theorem wholeLength_toDigits (n : ℕ) {rest : List Char} (hrest : EndsNumber rest) :
    wholeLength (Nat.toDigits 10 n ++ rest) = (Nat.toDigits 10 n).length := by
  obtain ⟨c,more,hdigits⟩ := List.exists_cons_of_ne_nil (Nat.toDigits_ne_nil (n := n) (b := 10))
  by_cases hc : c = '0'
  · subst hc
    have hhead : (Nat.toDigits 10 n).head? = some '0' := by rw [hdigits]; rfl
    have hzero : n = 0 := eq_zero_of_head?_toDigits (by decide) hhead
    subst hzero
    simp [wholeLength]
  · have hcount := digitCount_append (fun _ => isDigit_of_mem_toDigits (n := n)) hrest
    rw [hdigits,List.cons_append] at hcount ⊢
    rw [wholeLength,hcount]
    exact fun _ he => hc (List.cons.inj he).1

theorem fractionLength_of_ends {rest : List Char} (h : EndsNumber rest) :
    fractionLength rest = 0 := by
  cases rest with
  | nil => rfl
  | cons c more =>
    rw [fractionLength]
    exact fun _ he => (h c rfl).2.1 (List.cons.inj he).1

theorem exponentLength_of_ends {rest : List Char} (h : EndsNumber rest) :
    exponentLength rest = 0 := by
  cases rest with
  | nil => rfl
  | cons c more => simp [exponentLength,(h c rfl).2.2]

theorem printInt_ofNat (n : ℕ) : printInt (Int.ofNat n) = Nat.toDigits 10 n := by
  have htext : toString (Int.ofNat n) = toString n := rfl
  rw [printInt,htext,Nat.toString_eq_ofList_toDigits,String.toList_ofList]

theorem printInt_negSucc (n : ℕ) : printInt (Int.negSucc n) = '-' :: Nat.toDigits 10 (n + 1) := by
  have htext : toString (Int.negSucc n) = "-" ++ toString (n + 1) := rfl
  rw [printInt,htext,Nat.toString_eq_ofList_toDigits]
  simp

theorem readNumber_toDigits (negative : Bool) {n : ℕ} (hn : isWritable n = true)
    {rest : List Char} (hrest : EndsNumber rest) :
    readNumber negative (Nat.toDigits 10 n ++ rest) =
      .ok (int (if negative then -n else n),rest) := by
  have hpos : (Nat.toDigits 10 n).length ≠ 0 := Nat.length_toDigits_pos.ne'
  simp only [readNumber,wholeLength_toDigits n hrest,if_neg hpos,List.drop_left,
    fractionLength_of_ends hrest,exponentLength_of_ends hrest,Nat.add_zero,if_true,List.take_left,
    ofDecimal?_toDigits hn]

end Digits

/-! ## Values -/

/-- A value whose numbers are whole and whose objects name each member once. -/
inductive IsWhole : Json → Prop
  | null : IsWhole null
  | bool (b : Bool) : IsWhole (bool b)
  | int (n : Int) : IsWhole (int n)
  | string (s : String) : IsWhole (string s)
  | array {items : List Json} (h : ∀ j ∈ items, IsWhole j) : IsWhole (array items)
  | object {members : List (String × Json)} (hn : (members.map (·.1)).Nodup)
      (h : ∀ m ∈ members, IsWhole m.2) : IsWhole (object members)

section Blanks
variable {blanks : List Char}

theorem skipBlanks_append (h : ∀ c ∈ blanks, isJsonBlank c = true) {c : Char}
    (hc : isJsonBlank c = false) (rest : List Char) :
    skipBlanks (blanks ++ c :: rest) = c :: rest := by
  rw [skipBlanks,List.dropWhile_append_of_pos h,List.dropWhile_cons_of_neg (by simp [hc])]

theorem skipBlanks_cons {c : Char} (hc : isJsonBlank c = false) (rest : List Char) :
    skipBlanks (c :: rest) = c :: rest := by
  have hnone : ∀ c ∈ [], isJsonBlank c = true := by simp
  exact skipBlanks_append hnone hc rest

theorem isJsonBlank_newline (width : ℕ) : ∀ c ∈ newline width, isJsonBlank c = true := by
  intro c hc
  rcases List.mem_cons.mp hc with rfl | hc
  · rfl
  · rw [List.eq_of_mem_replicate hc]
    rfl

variable (layout : Layout) (depth : ℕ)

theorem isJsonBlank_opening : ∀ c ∈ layout.opening depth, isJsonBlank c = true := by
  unfold Layout.opening
  split
  · simp
  · exact isJsonBlank_newline _

theorem isJsonBlank_closing : ∀ c ∈ layout.closing depth, isJsonBlank c = true := by
  unfold Layout.closing
  split
  · simp
  · exact isJsonBlank_newline _

theorem exists_between : ∃ blanks, layout.between depth = ',' :: blanks ∧
    ∀ c ∈ blanks, isJsonBlank c = true := by
  unfold Layout.between
  split
  · exact ⟨[' '],rfl,by simp [isJsonBlank]⟩
  · exact ⟨_,rfl,isJsonBlank_newline _⟩

theorem endsNumber_closing {c : Char} (hc : c = ']' ∨ c = '\x7d') (rest : List Char) :
    EndsNumber (layout.closing depth ++ c :: rest) := by
  unfold Layout.closing
  split
  · rcases hc with rfl | rfl <;> exact endsNumber_cons (by decide) rest
  · rw [newline,List.cons_append]
    exact endsNumber_cons (by decide) _

end Blanks

section Printing
variable (layout : Layout) (depth : ℕ)

theorem print_int (n : ℤ) : print layout depth (int n) = printInt n := rfl

theorem print_string (s : String) : print layout depth (string s) = printString s := rfl

theorem print_array_cons (item : Json) (rest : List Json) :
    print layout depth (array (item :: rest)) = '[' :: layout.opening depth
      ++ print layout (depth + 1) item ++ printItems layout depth rest ++ layout.closing depth
      ++ [']'] := rfl

theorem print_object_cons (name : String) (value : Json) (rest : List (String × Json)) :
    print layout depth (object ((name,value) :: rest)) = '\x7b' :: layout.opening depth
      ++ printString name ++ [':',' '] ++ print layout (depth + 1) value
      ++ printMembers layout depth rest ++ layout.closing depth ++ ['\x7d'] := rfl

theorem printItems_nil : printItems layout depth [] = [] := rfl

theorem printItems_cons (item : Json) (rest : List Json) :
    printItems layout depth (item :: rest) = layout.between depth ++ print layout (depth + 1) item
      ++ printItems layout depth rest := rfl

theorem printMembers_nil : printMembers layout depth [] = [] := rfl

theorem printMembers_cons (name : String) (value : Json) (rest : List (String × Json)) :
    printMembers layout depth ((name,value) :: rest) = layout.between depth ++ printString name
      ++ [':',' '] ++ print layout (depth + 1) value ++ printMembers layout depth rest := rfl

end Printing

/-- The first character of a printed value neither is blank nor closes anything. -/
theorem exists_print_cons (layout : Layout) (depth : ℕ) {j : Json} (h : IsWhole j) :
    ∃ c text, print layout depth j = c :: text ∧ isJsonBlank c = false ∧ c ≠ ']' := by
  have hdigits (n : ℕ) : ∃ c text, Nat.toDigits 10 n = c :: text ∧ isJsonBlank c = false ∧
      c ≠ ']' := by
    obtain ⟨c,text,he⟩ := List.exists_cons_of_ne_nil (Nat.toDigits_ne_nil (n := n) (b := 10))
    have hc : c.isDigit = true := isDigit_of_mem_toDigits (he ▸ List.mem_cons_self)
    refine ⟨c,text,he,?_,?_⟩
    · by_contra hblank
      have hcases : ((c = ' ' ∨ c = '\t') ∨ c = '\n') ∨ c = '\r' := by
        simpa only [isJsonBlank,Bool.not_eq_false,Bool.or_eq_true,beq_iff_eq] using hblank
      rcases hcases with ((rfl | rfl) | rfl) | rfl <;> exact absurd hc (by decide)
    · rintro rfl
      exact absurd hc (by decide)
  cases h with
  | null => exact ⟨_,_,rfl,by decide,by decide⟩
  | bool b => cases b <;> exact ⟨_,_,rfl,by decide,by decide⟩
  | int n =>
    cases n with
    | ofNat n =>
      obtain ⟨c,text,he,hc⟩ := hdigits n
      exact ⟨c,text,by rw [print_int,printInt_ofNat,he],hc⟩
    | negSucc n => exact ⟨_,_,by rw [print_int,printInt_negSucc],by decide,by decide⟩
  | string s => exact ⟨_,_,rfl,by decide,by decide⟩
  | @array items _ =>
    cases items with
    | nil => exact ⟨_,_,rfl,by decide,by decide⟩
    | cons item rest => exact ⟨_,_,rfl,by decide,by decide⟩
  | @object members _ _ =>
    cases members with
    | nil => exact ⟨_,_,rfl,by decide,by decide⟩
    | cons m rest =>
      obtain ⟨name,value⟩ := m
      exact ⟨_,_,rfl,by decide,by decide⟩

/-! ## Whole numbers in a value -/

@[simp] theorem integers_null : null.integers = [] := by simp [integers]

@[simp] theorem integers_bool (b : Bool) : (bool b).integers = [] := by simp [integers]

@[simp] theorem integers_int (n : Int) : (int n).integers = [n] := by rw [integers]

@[simp] theorem integers_string (s : String) : (string s).integers = [] := by simp [integers]

@[simp] theorem integers_array (items : List Json) :
    (array items).integers = items.flatMap integers := by
  have hitems : integersOfItems items = items.flatMap integers := by
    induction items with
    | nil => rw [integersOfItems,List.flatMap_nil]
    | cons item rest ih => rw [integersOfItems,ih,List.flatMap_cons]
  rw [integers,hitems]

@[simp] theorem integers_object (members : List (String × Json)) :
    (object members).integers = members.flatMap fun m => m.2.integers := by
  have hmembers : integersOfMembers members = members.flatMap fun m => m.2.integers := by
    induction members with
    | nil => rw [integersOfMembers,List.flatMap_nil]
    | cons m rest ih => rw [integersOfMembers,ih,List.flatMap_cons]
  rw [integers,hmembers]

@[simp] theorem integers_ofOption (s : Option String) : (ofOption s).integers = [] := by
  cases s with
  | none => exact integers_null
  | some s => exact integers_string s

section Reading
variable (layout : Layout)

/-- A value is read back wherever it is printed and whatever follows, given a bound that is above
the length of its text. -/
def ReadsBack (j : Json) : Prop :=
  ∀ depth rest bound, EndsNumber rest → (print layout depth j).length < bound →
    readValue bound (print layout depth j ++ rest) = .ok (j,rest)

variable {layout}

theorem readValue_openBracket (bound : ℕ) (cs : List Char) :
    readValue (bound + 1) ('[' :: cs) = match skipBlanks cs with
      | ']' :: rest => .ok (array [],rest)
      | rest => (readItems bound rest).map fun (items,rest) => (array items,rest) := rfl

theorem readValue_openBrace (bound : ℕ) (cs : List Char) :
    readValue (bound + 1) ('\x7b' :: cs) = match skipBlanks cs with
      | '\x7d' :: rest => .ok (object [],rest)
      | rest => (readMembers bound [] rest).map fun (members,rest) => (object members,rest) := rfl

theorem readValue_minus (bound : ℕ) (cs : List Char) :
    readValue (bound + 1) ('-' :: cs) = readNumberOrWord true cs := rfl

theorem readValue_quote (bound : ℕ) (cs : List Char) :
    readValue (bound + 1) ('"' :: cs) =
      (orMalformed (readString? cs)).map fun (s,rest) => (string s,rest) := rfl

theorem readNumberOrWord_toDigits (negative : Bool) {n : ℕ} (hn : isWritable n = true)
    {rest : List Char} (hrest : EndsNumber rest) :
    readNumberOrWord negative (Nat.toDigits 10 n ++ rest) =
      .ok (int (if negative then -n else n),rest) := by
  rw [readNumberOrWord,readNumber_toDigits negative hn hrest]

theorem readValue_bracket {bound : ℕ} {cs text : List Char} {c : Char}
    (h : skipBlanks cs = c :: text) (hc : c ≠ ']') : readValue (bound + 1) ('[' :: cs) =
      (readItems bound (c :: text)).map fun (items,rest) => (array items,rest) := by
  rw [readValue_openBracket,h]
  split
  · next he => exact absurd (List.cons.inj he).1 hc
  · rfl

theorem readValue_brace {bound : ℕ} {cs text : List Char} {c : Char}
    (h : skipBlanks cs = c :: text) (hc : c ≠ '\x7d') : readValue (bound + 1) ('\x7b' :: cs) =
      (readMembers bound [] (c :: text)).map fun (members,rest) => (object members,rest) := by
  rw [readValue_openBrace,h]
  split
  · next he => exact absurd (List.cons.inj he).1 hc
  · rfl

theorem readValue_digit (bound : ℕ) {c : Char} (hc : c.isDigit = true) (cs : List Char) :
    readValue (bound + 1) (c :: cs) = readNumberOrWord false (c :: cs) := by
  have hne (d : Char) (hd : d.isDigit = false) : c ≠ d := by
    rintro rfl
    exact Bool.false_ne_true (hd.symm.trans hc)
  rw [readValue.eq_def]
  simp only
  split
  · next he => exact absurd (List.cons.inj he).1 (hne _ (by decide))
  · next he => exact absurd (List.cons.inj he).1 (hne _ (by decide))
  · next he => exact absurd (List.cons.inj he).1 (hne _ (by decide))
  · next he => exact absurd (List.cons.inj he).1 (hne _ (by decide))
  · rfl

theorem readsBack_null : ReadsBack layout null := by
  intro depth rest bound _ hbound
  obtain ⟨bound,rfl⟩ := Nat.exists_eq_succ_of_ne_zero (Nat.ne_zero_of_lt hbound)
  rfl

theorem readsBack_bool (b : Bool) : ReadsBack layout (bool b) := by
  intro depth rest bound _ hbound
  obtain ⟨bound,rfl⟩ := Nat.exists_eq_succ_of_ne_zero (Nat.ne_zero_of_lt hbound)
  cases b <;> rfl

theorem readsBack_int {n : Int} (hn : isWritable n = true) : ReadsBack layout (int n) := by
  intro depth rest bound hrest hbound
  obtain ⟨bound,rfl⟩ := Nat.exists_eq_succ_of_ne_zero (Nat.ne_zero_of_lt hbound)
  rw [print_int]
  cases n with
  | ofNat n =>
    have hread := readNumberOrWord_toDigits false hn hrest
    obtain ⟨c,more,he⟩ := List.exists_cons_of_ne_nil (Nat.toDigits_ne_nil (n := n) (b := 10))
    have hc : c.isDigit = true := isDigit_of_mem_toDigits (he ▸ List.mem_cons_self)
    rw [printInt_ofNat]
    rw [he,List.cons_append] at hread ⊢
    exact (readValue_digit bound hc _).trans hread
  | negSucc n =>
    have habs : isWritable ((n + 1 : ℕ) : ℤ) = true := hn
    rw [printInt_negSucc,List.cons_append,readValue_minus,readNumberOrWord_toDigits true habs hrest]
    rfl

theorem readsBack_string (s : String) : ReadsBack layout (string s) := by
  intro depth rest bound _ hbound
  obtain ⟨bound,rfl⟩ := Nat.exists_eq_succ_of_ne_zero (Nat.ne_zero_of_lt hbound)
  obtain ⟨text,htext,hread⟩ := readString?_printString s rest
  rw [print_string,htext,readValue_quote,hread]
  rfl

/-- One item is read, and what follows it tells whether there are more. -/
theorem readItems_succ (bound : ℕ) (cs : List Char) :
    readItems (bound + 1) cs = (do
      let (item,rest) ← readValue bound cs
      match skipBlanks rest with
      | ']' :: rest => .ok ([item],rest)
      | ',' :: rest => do
        let (items,rest) ← readItems bound (skipBlanks rest)
        .ok (item :: items,rest)
      | _ => .error .malformed) := rfl

/-- Items are read back up to the bracket that closes them. -/
theorem readItems_print {item : Json} {rest : List Json}
    (hwhole : ∀ j ∈ item :: rest, IsWhole j) (hback : ∀ j ∈ item :: rest, ReadsBack layout j)
    (depth : ℕ) (tail : List Char) {bound : ℕ}
    (hbound : (print layout (depth + 1) item).length + (printItems layout depth rest).length + 1 <
      bound) :
    readItems bound (print layout (depth + 1) item ++ (printItems layout depth rest ++
      (layout.closing depth ++ ']' :: tail))) = .ok (item :: rest,tail) := by
  induction rest generalizing item bound with
  | nil =>
    obtain ⟨bound,rfl⟩ := Nat.exists_eq_succ_of_ne_zero (Nat.ne_zero_of_lt hbound)
    have hread := hback item List.mem_cons_self (depth + 1) (layout.closing depth ++ ']' :: tail)
      bound (endsNumber_closing layout depth (.inl rfl) tail) (by omega)
    rw [printItems_nil,List.nil_append,readItems_succ]
    simp only [hread,bind,Except.bind,
      skipBlanks_append (isJsonBlank_closing layout depth) (by decide : isJsonBlank ']' = false)]
  | cons next rest ih =>
    obtain ⟨bound,rfl⟩ := Nat.exists_eq_succ_of_ne_zero (Nat.ne_zero_of_lt hbound)
    obtain ⟨blanks,hbetween,hblanks⟩ := exists_between layout depth
    obtain ⟨hitem,hnext⟩ := List.forall_mem_cons.mp hback
    obtain ⟨c,text,htext,hc,-⟩ := exists_print_cons layout (depth + 1)
      (hwhole next (List.mem_cons_of_mem _ List.mem_cons_self))
    rw [printItems_cons,hbetween] at hbound ⊢
    simp only [List.length_append,List.length_cons] at hbound
    have hlt : (print layout (depth + 1) next).length + (printItems layout depth rest).length + 1 <
        bound := by omega
    have hrest := ih (fun j hj => hwhole j (List.mem_cons_of_mem _ hj)) hnext hlt
    have hread := hitem (depth + 1) (',' :: (blanks ++ (print layout (depth + 1) next ++
      (printItems layout depth rest ++ (layout.closing depth ++ ']' :: tail))))) bound
      (endsNumber_cons (by decide) _) (by omega)
    simp only [List.cons_append,List.append_assoc]
    rw [readItems_succ]
    simp only [hread,bind,Except.bind,
      skipBlanks_cons (by decide : isJsonBlank ',' = false)]
    rw [htext] at hrest ⊢
    simp only [List.cons_append,skipBlanks_append hblanks hc] at hrest ⊢
    rw [hrest]

theorem readsBack_array {items : List Json} (hwhole : ∀ j ∈ items, IsWhole j)
    (hback : ∀ j ∈ items, ReadsBack layout j) : ReadsBack layout (array items) := by
  intro depth rest bound _ hbound
  obtain ⟨bound,rfl⟩ := Nat.exists_eq_succ_of_ne_zero (Nat.ne_zero_of_lt hbound)
  cases items with
  | nil => rfl
  | cons item more =>
    obtain ⟨c,text,htext,hc,hne⟩ := exists_print_cons layout (depth + 1)
      (hwhole item List.mem_cons_self)
    rw [print_array_cons] at hbound ⊢
    simp only [List.length_append,List.length_cons] at hbound
    have hlt : (print layout (depth + 1) item).length + (printItems layout depth more).length + 1 <
        bound := by omega
    have hread := readItems_print hwhole hback depth rest hlt
    simp only [List.cons_append,List.append_assoc,List.nil_append]
    rw [htext] at hread ⊢
    simp only [List.cons_append] at hread ⊢
    rw [readValue_bracket (skipBlanks_append (isJsonBlank_opening layout depth) hc _) hne,hread]
    rfl

theorem setMember_of_not_mem {members : List (String × Json)} {name : String}
    (h : name ∉ members.map (·.1)) (value : Json) :
    setMember members name value = members ++ [(name,value)] := by
  induction members with
  | nil => rfl
  | cons m rest ih =>
    obtain ⟨n,v⟩ := m
    obtain ⟨hn,hrest⟩ := not_or.mp (mt List.mem_cons.mpr h)
    rw [setMember,if_neg (Ne.symm hn),ih hrest,List.cons_append]

theorem name_not_mem {before rest : List (String × Json)} {name : String} {value : Json}
    (hn : ((before ++ (name,value) :: rest).map (·.1)).Nodup) : name ∉ before.map (·.1) := by
  rw [List.map_append,List.map_cons] at hn
  exact fun h => List.disjoint_of_nodup_append hn h List.mem_cons_self

/-- A member is read with its name, its colon and its value; then a brace ends the object, and a
comma goes before more members. -/
theorem readMembers_member {name : String} {value : Json} (hwhole : IsWhole value)
    (hback : ReadsBack layout value) (depth : ℕ) {bound : ℕ}
    (hbound : (print layout depth value).length < bound) (before : List (String × Json))
    {rest : List Char} (hrest : EndsNumber rest) :
    (∀ tail, skipBlanks rest = '\x7d' :: tail →
      readMembers (bound + 1) before (printString name ++ (':' :: ' ' ::
        (print layout depth value ++ rest))) = .ok (setMember before name value,tail)) ∧
    ∀ tail, skipBlanks rest = ',' :: tail →
      readMembers (bound + 1) before (printString name ++ (':' :: ' ' ::
        (print layout depth value ++ rest))) =
          readMembers bound (setMember before name value) (skipBlanks tail) := by
  obtain ⟨text,htext,hname⟩ := readString?_printString name
    (':' :: ' ' :: (print layout depth value ++ rest))
  obtain ⟨c,more,hmore,hc,-⟩ := exists_print_cons layout depth hwhole
  have hvalue := hback depth rest bound hrest hbound
  have hblank : skipBlanks (' ' :: (print layout depth value ++ rest)) =
      print layout depth value ++ rest := by
    have hspace : ∀ c ∈ [' '], isJsonBlank c = true := by simp [isJsonBlank]
    rw [hmore,List.cons_append]
    exact skipBlanks_append hspace hc _
  have hcolon := skipBlanks_cons (by decide : isJsonBlank ':' = false)
  rw [htext,readMembers.eq_def]
  constructor
  · intro tail htail
    simp only [hname,orMalformed,bind,Except.bind,hcolon,hblank,hvalue,htail]
  · intro tail htail
    simp only [hname,orMalformed,bind,Except.bind,hcolon,hblank,hvalue,htail]

/-- Members are read back up to the brace that closes them, behind those read before. -/
theorem readMembers_print {name : String} {value : Json} {rest before : List (String × Json)}
    (hn : ((before ++ (name,value) :: rest).map (·.1)).Nodup)
    (hwhole : ∀ m ∈ (name,value) :: rest, IsWhole m.2)
    (hback : ∀ m ∈ (name,value) :: rest, ReadsBack layout m.2) (depth : ℕ) (tail : List Char)
    {bound : ℕ} (hbound : (print layout (depth + 1) value).length +
      (printMembers layout depth rest).length + 1 < bound) :
    readMembers bound before (printString name ++ (':' :: ' ' ::
      (print layout (depth + 1) value ++ (printMembers layout depth rest ++
        (layout.closing depth ++ '\x7d' :: tail))))) =
      .ok (before ++ (name,value) :: rest,tail) := by
  induction rest generalizing name value before bound with
  | nil =>
    obtain ⟨bound,rfl⟩ := Nat.exists_eq_succ_of_ne_zero (Nat.ne_zero_of_lt hbound)
    have hlt : (print layout (depth + 1) value).length < bound := by omega
    have hclose : skipBlanks (layout.closing depth ++ '\x7d' :: tail) = '\x7d' :: tail :=
      skipBlanks_append (isJsonBlank_closing layout depth) (by decide) tail
    obtain ⟨hlast,-⟩ := readMembers_member (hwhole _ List.mem_cons_self)
      (hback _ List.mem_cons_self) (depth + 1) hlt before
      (endsNumber_closing layout depth (.inr rfl) tail)
    rw [printMembers_nil,List.nil_append,hlast tail hclose,setMember_of_not_mem (name_not_mem hn)]
  | cons next rest ih =>
    obtain ⟨bound,rfl⟩ := Nat.exists_eq_succ_of_ne_zero (Nat.ne_zero_of_lt hbound)
    obtain ⟨nextName,nextValue⟩ := next
    obtain ⟨blanks,hbetween,hblanks⟩ := exists_between layout depth
    rw [printMembers_cons,hbetween] at hbound ⊢
    simp only [List.length_append,List.length_cons] at hbound
    have hlt : (print layout (depth + 1) value).length < bound := by omega
    have hmore : (print layout (depth + 1) nextValue).length +
        (printMembers layout depth rest).length + 1 < bound := by omega
    have hnames : ((before ++ [(name,value)] ++ (nextName,nextValue) :: rest).map (·.1)).Nodup := by
      rwa [List.append_assoc,List.singleton_append]
    have hrest := ih hnames (fun m hm => hwhole m (List.mem_cons_of_mem _ hm))
      (fun m hm => hback m (List.mem_cons_of_mem _ hm)) hmore
    simp only [List.cons_append,List.append_assoc,List.nil_append]
    rw [(readMembers_member (hwhole _ List.mem_cons_self) (hback _ List.mem_cons_self) (depth + 1)
      hlt before (endsNumber_cons (by decide) _)).2 _ (skipBlanks_cons (by decide) _)]
    obtain ⟨text,htext⟩ : ∃ text, printString nextName = '"' :: text := ⟨_,rfl⟩
    simp only [htext,List.cons_append,setMember_of_not_mem (name_not_mem hn),
      skipBlanks_append hblanks (by decide : isJsonBlank '"' = false)] at hrest ⊢
    rw [hrest,List.append_assoc,List.singleton_append]

theorem readsBack_object {members : List (String × Json)} (hn : (members.map (·.1)).Nodup)
    (hwhole : ∀ m ∈ members, IsWhole m.2) (hback : ∀ m ∈ members, ReadsBack layout m.2) :
    ReadsBack layout (object members) := by
  intro depth rest bound _ hbound
  obtain ⟨bound,rfl⟩ := Nat.exists_eq_succ_of_ne_zero (Nat.ne_zero_of_lt hbound)
  cases members with
  | nil => rfl
  | cons m more =>
    obtain ⟨name,value⟩ := m
    obtain ⟨text,htext⟩ : ∃ text, printString name = '"' :: text := ⟨_,rfl⟩
    rw [print_object_cons] at hbound ⊢
    simp only [List.length_append,List.length_cons] at hbound
    have hnames : (([] ++ (name,value) :: more).map Prod.fst).Nodup := hn
    have hlt : (print layout (depth + 1) value).length +
        (printMembers layout depth more).length + 1 < bound := by omega
    have hread := readMembers_print hnames hwhole hback depth rest hlt
    simp only [htext,List.cons_append,List.append_assoc,List.nil_append] at hread ⊢
    rw [readValue_brace (skipBlanks_append (isJsonBlank_opening layout depth)
      (by decide : isJsonBlank '"' = false) _) (by decide),hread]
    rfl

theorem readsBack_of_isWhole {j : Json} (h : IsWhole j)
    (hwritable : ∀ n ∈ j.integers, isWritable n = true) : ReadsBack layout j := by
  induction h with
  | null => exact readsBack_null
  | bool b => exact readsBack_bool b
  | int n => exact readsBack_int (hwritable n (by simp))
  | string s => exact readsBack_string s
  | array h ih =>
    rw [integers_array,List.forall_mem_flatMap] at hwritable
    exact readsBack_array h fun j hj => ih j hj (hwritable j hj)
  | object hn h ih =>
    rw [integers_object,List.forall_mem_flatMap] at hwritable
    exact readsBack_object hn h fun m hm => ih m hm (hwritable m hm)

/-- A document is read back from its text in any layout. -/
theorem read_print (layout : Layout) {j : Json} (h : IsWhole j)
    (hwritable : ∀ n ∈ j.integers, isWritable n = true) :
    read (String.ofList (print layout 0 j)) = .ok j := by
  obtain ⟨c,text,htext,hc,-⟩ := exists_print_cons layout 0 h
  have hskip : skipBlanks (print layout 0 j) = print layout 0 j := by
    rw [htext]
    exact skipBlanks_cons hc text
  have hback : ReadsBack layout j := readsBack_of_isWhole h hwritable
  have hread := hback 0 [] ((print layout 0 j).length + 1) (fun _ hc => absurd hc (by simp))
    (Nat.lt_succ_self _)
  rw [List.append_nil] at hread
  rw [read,String.toList_ofList,hskip,hread]
  rfl

end Reading

end SchemaCodec.Json
