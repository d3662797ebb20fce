import SchemaCodec.Proofs.Codec.EncodedLines
import SchemaCodec.Proofs.Outcome

/-! # Variables of loops in encode code

A loop hands out references. Every line inside a loop uses one variable that a loop binds, and
dereferences it exactly where a number, a truth value or an enum is written.
-/
namespace SchemaCodec.Codec

theorem exists_of_isLoopVariable {v : List Char} (h : isLoopVariable v = true) :
    ∃ c digits, v = c :: digits ∧ (c = 'v' ∨ c = 'k') ∧ ∀ d ∈ digits, d.isDigit = true := by
  cases v with
  | nil => cases h
  | cons c digits =>
    simp only [isLoopVariable,Bool.and_eq_true,Bool.or_eq_true,beq_iff_eq,List.all_eq_true] at h
    exact ⟨c,digits,rfl,h.1.1,h.2⟩

theorem isWord_of_isLoopVariable {v : List Char} (h : isLoopVariable v = true) : IsWord v := by
  obtain ⟨c,digits,rfl,hc,hdigits⟩ := exists_of_isLoopVariable h
  intro d hd
  rcases List.mem_cons.mp hd with rfl | hd
  · rcases hc with rfl | rfl <;> rfl
  · exact isAlphanum_of_isDigit (hdigits d hd)

section Call
variable {name args : List Char}

theorem argument?_callText (hname : '(' ∉ name) :
    argument? (callText name args) =
      if name = "array".toList ∨ name = "map".toList then
        some ⟨false,upTo '.' (upTo ' ' (args ++ ");".toList))⟩
      else some ⟨name != "string".toList && name != "bytes".toList,
        upTo ')' (upTo ' ' (args ++ ");".toList))⟩ := by
  rw [argument?,dropBlanks_callText]
  simp only [not_for_callText,dropPrefix?_callText,Bool.false_eq_true,↓reduceIte,
    upTo_append hname,behind_append hname]

theorem upTo_eq_self {mark : Char} {word : List Char} (h : mark ∉ word) : upTo mark word = word := by
  rw [upTo,← List.append_nil word,List.takeWhile_append_of_pos,List.takeWhile_nil]
  intro c hc
  simpa using fun he : c = mark => h (he ▸ hc)

/-- What a call of the runtime is passed, where this holds neither a blank nor a bracket and the call
ends or goes on behind a blank. -/
theorem argument?_scalar (hname : IsWord name)
    (hother : name ≠ "array".toList ∧ name ≠ "map".toList) {word : List Char}
    (hword : ' ' ∉ word ∧ ')' ∉ word)
    (hargs : args = word ∨ ∃ more, args = word ++ ' ' :: more) :
    argument? (callText name args) =
      some ⟨name != "string".toList && name != "bytes".toList,word⟩ := by
  have hpassed : upTo ')' (upTo ' ' (args ++ ");".toList)) = word := by
    rcases hargs with rfl | ⟨more,rfl⟩
    · have hblank : ' ' ∉ args ++ ");".toList := by
        simpa using hword.1
      rw [upTo_eq_self hblank]
      exact upTo_append hword.2 [';']
    · rw [List.append_assoc,List.cons_append,upTo_append hword.1,upTo_eq_self hword.2]
  rw [argument?_callText (hname.not_mem (by decide)),if_neg (not_or.mpr hother),hpassed]

/-- The container whose length a header announces. -/
theorem argument?_header (hname : name = "array".toList ∨ name = "map".toList) {word more : List Char}
    (hword : ' ' ∉ word ∧ '.' ∉ word) (hargs : args = word ++ (".len(), ".toList ++ more)) :
    argument? (callText name args) = some ⟨false,word⟩ := by
  have hbracket : '(' ∉ name := by
    rcases hname with rfl | rfl <;> decide
  have hblank : ' ' ∉ word ++ ".len(),".toList := by
    simpa using hword.1
  have hsplit : args ++ ");".toList =
      (word ++ ".len(),".toList) ++ ' ' :: (more ++ ");".toList) := by
    rw [hargs]
    simp
  rw [argument?_callText hbracket,if_pos hname,hsplit,upTo_append hblank]
  exact congrArg (fun text => some (Argument.mk false text)) (upTo_append hword.2 "len(),".toList)

end Call

/-- The container that a loop runs over. -/
theorem argument?_for {word before : List Char} (hword : ' ' ∉ word ∧ '.' ∉ word) :
    argument? ("for ".toList ++ (before ++ ' ' :: (word ++ ".iter() \x7b".toList))) =
      some ⟨false,word⟩ := by
  have htext : ∀ rest : List Char,
      ("for ".toList ++ rest).dropWhile (· = ' ') = "for ".toList ++ rest := by
    intro rest
    simp
  have hloop : ∀ rest : List Char, "for ".toList.isPrefixOf ("for ".toList ++ rest) = true := by
    intro rest
    simp [List.isPrefixOf]
  have hiter : ' ' ∉ word ++ ".iter()".toList := by
    simpa using hword.1
  have hsplit : "for ".toList ++ (before ++ ' ' :: (word ++ ".iter() \x7b".toList)) =
      (("for ".toList ++ before) ++ ' ' :: (word ++ ".iter()".toList)) ++ ' ' :: ['\x7b'] := by
    simp
  rw [argument?,htext]
  simp only [hloop,↓reduceIte]
  rw [hsplit,beforeLastWord_append (by decide),lastWord_append hiter]
  exact congrArg (fun text => some (Argument.mk false text)) (upTo_append hword.2 "iter()".toList)

/-- The value that is sent to its own method. -/
theorem argument?_message {v : List Char} (hv : isLoopVariable v = true) :
    argument? ("e = ".toList ++ (v ++ ".encode(e);".toList)) = some ⟨false,v⟩ := by
  have htext : ("e = ".toList ++ (v ++ ".encode(e);".toList)).dropWhile (· = ' ') =
      "e = ".toList ++ (v ++ ".encode(e);".toList) := by
    simp
  have hloop : "for ".toList.isPrefixOf ("e = ".toList ++ (v ++ ".encode(e);".toList)) = false := by
    simp [List.isPrefixOf]
  have hcall : ("e = ".toList ++ (v ++ ".encode(e);".toList)).dropPrefix? "e = e.encode_".toList =
      none := by
    obtain ⟨c,digits,rfl,hc,-⟩ := exists_of_isLoopVariable hv
    rcases hc with rfl | rfl <;> simp [List.dropPrefix?]
  rw [argument?,htext]
  simp only [hloop,hcall,receiver?_eq_some.mpr rfl,Bool.false_eq_true,↓reduceIte,Option.map_some]

theorem usesLoopVariable_indent {lines : List String}
    (h : ∀ line ∈ lines, UsesLoopVariable line.toList) (level : ℕ) :
    ∀ line ∈ indent level lines, UsesLoopVariable line.toList := by
  intro line hline
  obtain ⟨old,hold,rfl⟩ := List.mem_map.mp hline
  by_cases he : old = ""
  · rw [if_pos he]
    exact h old hold
  · have hblanks := dropWhile_replicate_append (4 * level) old.toList
    rw [if_neg he,String.toList_append,toList_indentation,UsesLoopVariable,argument?]
    simp only [hblanks]
    exact h old hold

theorem usesLoopVariable_close : UsesLoopVariable "\x7d".toList := .inl rfl

/-- Strings and bytes are called by their own names, every other type is passed by value. -/
theorem suffix_isCopied (type : Primitive) :
    (type.suffix.toList != "string".toList && type.suffix.toList != "bytes".toList) =
      type.isCopied := by
  cases type with
  | integer bits signed =>
    rw [Primitive.suffix,Kind.integerName,String.toList_append]
    cases signed <;> simp [Primitive.isCopied]
  | float bits =>
    rw [Primitive.suffix,String.toList_append]
    simp [Primitive.isCopied]
  | bool | string | bytes => rfl

section Bound
variable {v : Local} (hv : isLoopVariable v.text.toList = true)
include hv

theorem usesLoopVariable_primitive (type : Primitive) :
    ∀ line ∈ (Writer.primitive type (.bound v)).lines, UsesLoopVariable line.toList := by
  have hword := isWord_of_isLoopVariable hv
  intro line hline
  obtain rfl := List.mem_singleton.mp hline
  refine .inr ⟨v.text.toList,type.isCopied,hv,?_⟩
  have hargs : (if type.isCopied = true then '*' :: v.text.toList else v.text.toList) =
      (if type.isCopied then (Place.bound v).value else (Place.bound v).borrowed).toList := by
    cases type.isCopied <;> simp [Place.value,Place.borrowed,Place.byRef,Place.text]
  have hline : ("e = e.encode_" ++ type.suffix ++ "(" ++ (if type.isCopied then
      (Place.bound v).value else (Place.bound v).borrowed) ++ ");").toList =
      callText type.suffix.toList
        (if type.isCopied = true then '*' :: v.text.toList else v.text.toList) := by
    rw [hargs]
    unfold callText
    simp
  have hplain : ∀ c : Char, c.isAlphanum = false → c ≠ '*' →
      c ∉ (if type.isCopied = true then '*' :: v.text.toList else v.text.toList) := by
    intro c hc hne
    split
    · exact List.not_mem_cons_of_ne_of_not_mem hne (hword.not_mem hc)
    · exact hword.not_mem hc
  rw [hline,argument?_scalar (isWord_suffix type) (suffix_ne_container type)
    ⟨hplain _ (by decide) (by decide),hplain _ (by decide) (by decide)⟩ (.inl rfl),
    suffix_isCopied]

theorem usesLoopVariable_enum :
    ∀ line ∈ (Writer.enumNumber (.bound v)).lines, UsesLoopVariable line.toList := by
  have hword := isWord_of_isLoopVariable hv
  intro line hline
  obtain rfl := List.mem_singleton.mp hline
  refine .inr ⟨v.text.toList,true,hv,?_⟩
  have hline : ("e = e.encode_" ++ Primitive.enumNumber.suffix ++ "(" ++ (Place.bound v).value
      ++ " as u32);").toList =
      callText Primitive.enumNumber.suffix.toList
        ('*' :: v.text.toList ++ ' ' :: "as u32".toList) := by
    unfold callText
    simp [Place.value,Place.byRef,Place.text]
  have hplain : ∀ c : Char, c.isAlphanum = false → c ≠ '*' → c ∉ '*' :: v.text.toList :=
    fun c hc hne => List.not_mem_cons_of_ne_of_not_mem hne (hword.not_mem hc)
  rw [hline,argument?_scalar (isWord_suffix _) (suffix_ne_container _)
    ⟨hplain _ (by decide) (by decide),hplain _ (by decide) (by decide)⟩
    (.inr ⟨"as u32".toList,rfl⟩),suffix_isCopied]
  rfl

theorem usesLoopVariable_message :
    ∀ line ∈ (Writer.message (.bound v)).lines, UsesLoopVariable line.toList := by
  intro line hline
  obtain rfl := List.mem_singleton.mp hline
  refine .inr ⟨v.text.toList,false,hv,?_⟩
  have hline : ("e = " ++ (Place.bound v).text ++ ".encode(e);").toList =
      "e = ".toList ++ (v.text.toList ++ ".encode(e);".toList) := by
    simp [Place.text]
  rw [hline]
  exact argument?_message hv

theorem usesLoopVariable_header {name : List Char}
    (hname : name = "array".toList ∨ name = "map".toList) (more : List Char) :
    UsesLoopVariable (callText name (v.text.toList ++ (".len(), ".toList ++ more))) := by
  have hword := isWord_of_isLoopVariable hv
  exact .inr ⟨_,false,hv,argument?_header hname
    ⟨hword.not_mem (by decide),hword.not_mem (by decide)⟩ rfl⟩

theorem usesLoopVariable_for (before : List Char) :
    UsesLoopVariable
      ("for ".toList ++ (before ++ ' ' :: (v.text.toList ++ ".iter() \x7b".toList))) := by
  have hword := isWord_of_isLoopVariable hv
  exact .inr ⟨_,false,hv,argument?_for ⟨hword.not_mem (by decide),hword.not_mem (by decide)⟩⟩

theorem usesLoopVariable_array {element : WireKind} {item : Local} {body : Writer}
    (hbody : ∀ line ∈ body.lines, UsesLoopVariable line.toList) :
    ∀ line ∈ (Writer.array (.bound v) element item body).lines,
      UsesLoopVariable line.toList := by
  intro line hline
  rw [Writer.lines,List.mem_append,List.mem_append,List.mem_cons,List.mem_singleton] at hline
  rcases hline with ((rfl | rfl) | hline) | hline
  · have hheader := usesLoopVariable_header hv (.inl rfl) element.text.toList
    unfold callText at hheader
    simpa [Place.text] using hheader
  · have hfor := usesLoopVariable_for hv (item.text.toList ++ " in".toList)
    simpa [Place.text] using hfor
  · exact usesLoopVariable_indent hbody 1 line hline
  · obtain rfl := List.mem_singleton.mp hline
    exact usesLoopVariable_close

theorem usesLoopVariable_map {keyKind valueKind : WireKind} {key item : Local}
    {keyBody valueBody : Writer} (hkey : ∀ line ∈ keyBody.lines, UsesLoopVariable line.toList)
    (hvalue : ∀ line ∈ valueBody.lines, UsesLoopVariable line.toList) :
    ∀ line ∈ (Writer.map (.bound v) keyKind valueKind key item keyBody valueBody).lines,
      UsesLoopVariable line.toList := by
  intro line hline
  rw [Writer.lines,List.mem_append,List.mem_append,List.mem_append,List.mem_cons,
    List.mem_singleton] at hline
  rcases hline with (((rfl | rfl) | hline) | hline) | hline
  · have hheader := usesLoopVariable_header hv (.inr rfl)
      (keyKind.text.toList ++ (", ".toList ++ valueKind.text.toList))
    unfold callText at hheader
    simpa [Place.text] using hheader
  · have hfor := usesLoopVariable_for hv
      ('(' :: key.text.toList ++ (", ".toList ++ (item.text.toList ++ ") in".toList)))
    simpa [Place.text] using hfor
  · exact usesLoopVariable_indent hkey 1 line hline
  · exact usesLoopVariable_indent hvalue 1 line hline
  · obtain rfl := List.mem_singleton.mp hline
    exact usesLoopVariable_close

end Bound

/-- Every line that writes the value of a loop's variable uses such a variable. -/
theorem usesLoopVariable_writer (kind : Kind) {v : Local} (hv : isLoopVariable v.text.toList = true)
    {depth : ℕ} {w : Writer} (h : writer kind (.bound v) depth = .ok w) :
    ∀ line ∈ w.lines, UsesLoopVariable line.toList := by
  induction kind generalizing v depth w with
  | integer bits signed | float bits | bool | string | bytes =>
    cases h
    exact usesLoopVariable_primitive hv _
  | enum name =>
    cases h
    exact usesLoopVariable_enum hv
  | message name =>
    cases h
    exact usesLoopVariable_message hv
  | repeated element ih =>
    obtain ⟨kind,-,h⟩ := bind_eq_ok.mp h
    obtain ⟨body,hbody,h⟩ := bind_eq_ok.mp h
    cases h
    exact usesLoopVariable_array hv (ih (isLoopVariable_item depth) hbody)
  | map key value ihKey ihValue =>
    obtain ⟨keyKind,-,h⟩ := bind_eq_ok.mp h
    obtain ⟨valueKind,-,h⟩ := bind_eq_ok.mp h
    obtain ⟨keyBody,hkey,h⟩ := bind_eq_ok.mp h
    obtain ⟨valueBody,hvalue,h⟩ := bind_eq_ok.mp h
    cases h
    exact usesLoopVariable_map hv (ihKey (isLoopVariable_key depth) hkey)
      (ihValue (isLoopVariable_item depth) hvalue)
  | oneof group number inner => cases h

/-- Wherever the value to be written stands: the lines inside of a loop use its variables. -/
theorem usesLoopVariable_of_indented (kind : Kind) {p : Place} {depth : ℕ} {w : Writer}
    (h : writer kind p depth = .ok w) :
    ∀ line ∈ w.lines, line.toList.head? = some ' ' → UsesLoopVariable line.toList := by
  cases kind with
  | integer bits signed | float bits | bool | string | bytes | enum name | message name =>
    cases h
    intro line hline hhead
    obtain rfl := List.mem_singleton.mp hline
    simp at hhead
  | repeated element =>
    obtain ⟨kind,-,h⟩ := bind_eq_ok.mp h
    obtain ⟨body,hbody,h⟩ := bind_eq_ok.mp h
    cases h
    intro line hline hhead
    rw [Writer.lines,List.mem_append,List.mem_append,List.mem_cons,List.mem_singleton] at hline
    rcases hline with ((rfl | rfl) | hline) | hline
    · simp at hhead
    · simp at hhead
    · have hlines := usesLoopVariable_writer element (isLoopVariable_item depth) hbody
      exact usesLoopVariable_indent hlines 1 line hline
    · obtain rfl := List.mem_singleton.mp hline
      exact usesLoopVariable_close
  | map key value =>
    obtain ⟨keyKind,-,h⟩ := bind_eq_ok.mp h
    obtain ⟨valueKind,-,h⟩ := bind_eq_ok.mp h
    obtain ⟨keyBody,hkey,h⟩ := bind_eq_ok.mp h
    obtain ⟨valueBody,hvalue,h⟩ := bind_eq_ok.mp h
    cases h
    intro line hline hhead
    rw [Writer.lines,List.mem_append,List.mem_append,List.mem_append,List.mem_cons,
      List.mem_singleton] at hline
    rcases hline with (((rfl | rfl) | hline) | hline) | hline
    · simp at hhead
    · simp at hhead
    · have hlines := usesLoopVariable_writer key (isLoopVariable_key depth) hkey
      exact usesLoopVariable_indent hlines 1 line hline
    · have hlines := usesLoopVariable_writer value (isLoopVariable_item depth) hvalue
      exact usesLoopVariable_indent hlines 1 line hline
    · obtain rfl := List.mem_singleton.mp hline
      exact usesLoopVariable_close
  | oneof group number inner => cases h

end SchemaCodec.Codec
