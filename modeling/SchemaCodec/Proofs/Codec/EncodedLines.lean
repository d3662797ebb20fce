import SchemaCodec.Proofs.Codec.Vocabulary

/-! # Steps of encode code

The lines that write a value spell the steps of its kind, whatever expression the value is given by:
no other line can be taken for a call of a message's own method. A variable bound by a loop is
dereferenced exactly where its value is wanted.
-/
namespace SchemaCodec.Codec

theorem upTo_append {mark : Char} {word : List Char} (h : mark ∉ word) (rest : List Char) :
    upTo mark (word ++ mark :: rest) = word := by
  rw [upTo,List.takeWhile_append_of_pos]
  · simp
  · intro c hc
    simpa using fun he : c = mark => h (he ▸ hc)

theorem behind_append {mark : Char} {word : List Char} (h : mark ∉ word) (rest : List Char) :
    behind mark (word ++ mark :: rest) = rest := by
  rw [behind,List.dropWhile_append_of_pos]
  · simp
  · intro c hc
    simpa using fun he : c = mark => h (he ▸ hc)

theorem lastWord_append {word : List Char} (h : ' ' ∉ word) (before : List Char) :
    lastWord (before ++ ' ' :: word) = word := by
  have hrev : (before ++ ' ' :: word).reverse = word.reverse ++ ' ' :: before.reverse := by simp
  rw [lastWord,hrev,upTo_append (by simpa using h),List.reverse_reverse]

theorem beforeLastWord_append {word : List Char} (h : ' ' ∉ word) (before : List Char) :
    beforeLastWord (before ++ ' ' :: word) = before := by
  have hrev : (before ++ ' ' :: word).reverse = word.reverse ++ ' ' :: before.reverse := by simp
  rw [beforeLastWord,hrev,behind_append (by simpa using h),List.reverse_reverse]

theorem between?_eq_some {before after : String} {text inner : List Char} :
    between? before after text = some inner ↔ text = before.toList ++ (inner ++ after.toList) := by
  rw [between?,Option.bind_eq_some_iff]
  constructor
  · rintro ⟨rest,hrest,h⟩
    obtain ⟨back,hback,rfl⟩ := Option.map_eq_some_iff.mp h
    obtain ⟨p,rfl,hp⟩ := List.dropPrefix?_eq_some_iff.mp hrest
    obtain ⟨q,hq,hq'⟩ := List.dropPrefix?_eq_some_iff.mp hback
    rw [eq_of_beq hp]
    rw [eq_of_beq hq',← List.reverse_inj,List.reverse_append,List.reverse_reverse,
      List.reverse_reverse] at hq
    rw [hq]
  · rintro rfl
    refine ⟨inner ++ after.toList,List.dropPrefix?_eq_some_iff.mpr ⟨_,rfl,by simp⟩,?_⟩
    refine Option.map_eq_some_iff.mpr ⟨inner.reverse,?_,List.reverse_reverse inner⟩
    exact List.dropPrefix?_eq_some_iff.mpr ⟨_,List.reverse_append,by simp⟩

theorem receiver?_eq_some {text value : List Char} :
    receiver? text = some value ↔ text = "e = ".toList ++ (value ++ ".encode(e);".toList) :=
  between?_eq_some

/-- A line that calls the runtime under some name. -/
def callText (name args : List Char) : List Char :=
  "e = e.encode_".toList ++ (name ++ '(' :: (args ++ ");".toList))

section Call
variable {source name args : List Char}

theorem eq_of_receiver?_callText {value : List Char}
    (h : receiver? (callText name args) = some value) :
    value ++ ".encode(e".toList = "e.encode_".toList ++ (name ++ '(' :: args) := by
  have he := receiver?_eq_some.mp h
  have hcall : callText name args = "e = ".toList ++
      (("e.encode_".toList ++ (name ++ '(' :: args)) ++ ");".toList) := by
    unfold callText
    simp
  have hmethod : value ++ ".encode(e);".toList = (value ++ ".encode(e".toList) ++ ");".toList := by
    simp
  rw [hcall,hmethod] at he
  exact (List.append_cancel_right (List.append_cancel_left he)).symm

theorem not_isLoopVariable_of_receiver? {value : List Char}
    (h : receiver? (callText name args) = some value) : isLoopVariable value = false := by
  have he := eq_of_receiver?_callText h
  cases value with
  | nil => rfl
  | cons c rest =>
    have hc : c = 'e' := by
      simpa using congrArg List.head? he
    subst hc
    rfl

/-- A call that passes more than the source is no message's own method. -/
theorem writesMessage_eq_false_of_length (h : source.length ≤ args.length) :
    writesMessage source (callText name args) = false := by
  unfold writesMessage
  cases hr : receiver? (callText name args) with
  | none => rfl
  | some value =>
    have he := congrArg List.length (eq_of_receiver?_callText hr)
    have hne : (value == source) = false := by
      refine beq_eq_false_iff_ne.mpr fun hv => ?_
      subst hv
      simp at he
      omega
    simp [hne,not_isLoopVariable_of_receiver? hr]

/-- A call whose last argument ends in another character is no message's own method. -/
theorem writesMessage_eq_false_of_last {c : Char} (hc : args.getLast? = some c) (hne : c ≠ 'e') :
    writesMessage source (callText name args) = false := by
  unfold writesMessage
  cases hr : receiver? (callText name args) with
  | none => rfl
  | some value =>
    have he := congrArg List.getLast? (eq_of_receiver?_callText hr)
    simp [List.getLast?_append,List.getLast?_cons,hc] at he
    exact absurd he.symm hne

theorem dropBlanks_callText (name args : List Char) :
    (callText name args).dropWhile (· = ' ') = callText name args := by
  unfold callText
  simp

theorem not_for_callText (name args : List Char) :
    "for ".toList.isPrefixOf (callText name args) = false := by
  unfold callText
  simp [List.isPrefixOf]

/-- What a call says behind the encoder. -/
theorem dropPrefix?_callText (name args : List Char) :
    (callText name args).dropPrefix? "e = e.encode_".toList =
      some (name ++ '(' :: (args ++ ");".toList)) :=
  List.dropPrefix?_eq_some_iff.mpr ⟨_,rfl,by simp⟩

theorem encodedSteps_callText (hname : '(' ∉ name)
    (h : writesMessage source (callText name args) = false) :
    encodedSteps source (callText name args) = [stepOfCall name (callText name args)] := by
  have hclose : callText name args ≠ ['\x7d'] := by
    unfold callText
    simp
  rw [encodedSteps,dropBlanks_callText,if_neg hclose]
  simp only [not_for_callText,h,dropPrefix?_callText,Bool.false_eq_true,↓reduceIte,
    upTo_append hname]

end Call

theorem toList_indentation (level : ℕ) :
    (indentation level).toList = List.replicate (4 * level) ' ' := by
  rw [indentation,String.toList_ofList]

theorem dropWhile_replicate_append (n : ℕ) (text : List Char) :
    (List.replicate n ' ' ++ text).dropWhile (· = ' ') = text.dropWhile (· = ' ') := by
  rw [List.dropWhile_append_of_pos]
  intro c hc
  simpa using List.eq_of_mem_replicate hc

/-- Steps that are read from behind the blanks of a line are not changed by moving it right. -/
theorem stepsOf_indent {read : List Char → List WireStep}
    (h : ∀ a b : List Char, a.dropWhile (· = ' ') = b.dropWhile (· = ' ') → read a = read b)
    (level : ℕ) (lines : List String) : stepsOf read (indent level lines) = stepsOf read lines := by
  rw [stepsOf,stepsOf,indent,List.flatMap_map]
  refine List.flatMap_congr fun line _ => ?_
  by_cases he : line = ""
  · rw [if_pos he]
  · rw [if_neg he,String.toList_append,toList_indentation]
    exact h _ _ (dropWhile_replicate_append _ _)

theorem stepsOf_append (read : List Char → List WireStep) (a b : List String) :
    stepsOf read (a ++ b) = stepsOf read a ++ stepsOf read b :=
  List.flatMap_append

theorem encodedSteps_indent (source : List Char) (level : ℕ) (lines : List String) :
    stepsOf (encodedSteps source) (indent level lines) = stepsOf (encodedSteps source) lines := by
  refine stepsOf_indent (fun a b h => ?_) level lines
  simp only [encodedSteps,h]

/-- A place that holds the value of `source` or is a variable bound by a loop. -/
def Place.IsOf (source : List Char) (p : Place) : Prop :=
  p.text.toList = source ∨ ∃ v, p = .bound v ∧ isLoopVariable v.text.toList = true

theorem getLast_of_isLoopVariable {text : List Char} (h : isLoopVariable text = true) :
    ∃ c, text.getLast? = some c ∧ c ≠ 'e' := by
  cases text with
  | nil => cases h
  | cons c digits =>
    simp only [isLoopVariable,Bool.and_eq_true,Bool.not_eq_true',List.all_eq_true] at h
    obtain ⟨⟨-,hne⟩,hdigits⟩ := h
    have hne : digits ≠ [] := by simpa using hne
    refine ⟨digits.getLast hne,?_,?_⟩
    · rw [List.getLast?_cons,List.getLast?_eq_some_getLast hne]
      rfl
    · intro he
      have hd := hdigits _ (List.getLast_mem hne)
      rw [he] at hd
      exact absurd hd (by decide)

section Lines
variable {source : List Char} {p : Place}

/-- Passing a value or a reference to it is no call of a message's own method. -/
theorem writesMessage_argument (hp : p.IsOf source) (name : List Char) {args : String}
    (ha : args = p.value ∨ args = p.borrowed) :
    writesMessage source (callText name args.toList) = false := by
  rcases hp with hsource | ⟨v,rfl,hv⟩
  · refine writesMessage_eq_false_of_length ?_
    rw [← hsource]
    have htext : ∀ mark : String, p.text.toList.length ≤ (mark ++ p.text).toList.length := by
      intro mark
      rw [String.toList_append,List.length_append]
      omega
    rcases ha with rfl | rfl
    · rw [Place.value]
      split
      · exact htext "*"
      · exact Nat.le_refl _
    · rw [Place.borrowed]
      split
      · exact Nat.le_refl _
      · exact htext "&"
  · obtain ⟨c,hc,hne⟩ := getLast_of_isLoopVariable hv
    refine writesMessage_eq_false_of_last ?_ hne
    rcases ha with rfl | rfl
    · simp [Place.value,Place.byRef,Place.text,List.getLast?_cons,hc]
    · simpa [Place.borrowed,Place.byRef,Place.text] using hc

theorem encodedSteps_primitive (hp : p.IsOf source) (type : Primitive) {args : String}
    (ha : args = p.value ∨ args = p.borrowed) :
    encodedSteps source ("e = e.encode_" ++ type.suffix ++ "(" ++ args ++ ");").toList =
      [.scalar type.suffix] := by
  have hline : ("e = e.encode_" ++ type.suffix ++ "(" ++ args ++ ");").toList =
      callText type.suffix.toList args.toList := by
    unfold callText
    simp
  obtain ⟨harray,hmap⟩ := suffix_ne_container type
  rw [hline,encodedSteps_callText ((isWord_suffix type).not_mem (by decide))
    (writesMessage_argument hp _ ha),stepOfCall,if_neg harray,if_neg hmap,String.ofList_toList]

theorem encodedSteps_enum (value : String) :
    encodedSteps source
      ("e = e.encode_" ++ Primitive.enumNumber.suffix ++ "(" ++ value ++ " as u32);").toList =
      [.scalar "u32"] := by
  have hline : ("e = e.encode_" ++ Primitive.enumNumber.suffix ++ "(" ++ value
      ++ " as u32);").toList = callText "u32".toList (value.toList ++ " as u32".toList) := by
    unfold callText
    simp [Primitive.suffix,Primitive.enumNumber,Kind.integerName]
    rfl
  have hlast : (value.toList ++ " as u32".toList).getLast? = some '2' := by
    simp
  rw [hline,encodedSteps_callText (by decide) (writesMessage_eq_false_of_last hlast (by decide))]
  rfl

theorem encodedSteps_message (hp : p.IsOf source) :
    encodedSteps source ("e = " ++ p.text ++ ".encode(e);").toList = [.message] := by
  have hline : ("e = " ++ p.text ++ ".encode(e);").toList =
      "e = ".toList ++ (p.text.toList ++ ".encode(e);".toList) := by
    simp
  have hvalue : (p.text.toList == source || isLoopVariable p.text.toList) = true := by
    rcases hp with hsource | ⟨v,rfl,hv⟩
    · simp [hsource]
    · simp [Place.text,hv]
  have hwrites : writesMessage source ("e = " ++ p.text ++ ".encode(e);").toList = true := by
    rw [writesMessage,receiver?_eq_some.mpr hline]
    exact hvalue
  have htext : ("e = " ++ p.text ++ ".encode(e);").toList.dropWhile (· = ' ') =
      ("e = " ++ p.text ++ ".encode(e);").toList := by
    simp
  have hclose : ("e = " ++ p.text ++ ".encode(e);").toList ≠ ['\x7d'] := by
    simp
  have hloop : "for ".toList.isPrefixOf ("e = " ++ p.text ++ ".encode(e);").toList = false := by
    simp [List.isPrefixOf]
  rw [encodedSteps,htext,if_neg hclose]
  simp only [hloop,hwrites,Bool.false_eq_true,↓reduceIte]

theorem not_mem_kindText {c : Char} (hc : c.isAlphanum = false) (hcolon : c ≠ ':')
    (kind : WireKind) : c ∉ kind.text.toList := by
  intro hmem
  rcases isKindChar_text kind c hmem with h | h
  · rw [hc] at h
    cases h
  · exact hcolon h

/-- The kind that the last word of a line spells, when `closing` ends the line. -/
theorem announcedBy_append {before : List Char} {kind : WireKind} {closing : String}
    (h : ' ' ∉ closing.toList) :
    announcedBy (before ++ ' ' :: (kind.text.toList ++ closing.toList)) closing = kind.text := by
  have hword : ' ' ∉ kind.text.toList ++ closing.toList := by
    intro hmem
    rcases List.mem_append.mp hmem with hk | hc
    · exact not_mem_kindText (by decide) (by decide) kind hk
    · exact h hc
  rw [announcedBy,lastWord_append hword,List.length_append,← String.length_toList,
    Nat.add_sub_cancel,List.take_left,String.ofList_toList]

theorem encodedSteps_array (place : String) (element : WireKind) :
    encodedSteps source
      ("e = e.encode_array(" ++ place ++ ".len(), " ++ element.text ++ ");").toList =
      [.array element.text] := by
  have hline : ("e = e.encode_array(" ++ place ++ ".len(), " ++ element.text ++ ");").toList =
      callText "array".toList (place.toList ++ (".len(), ".toList ++ element.text.toList)) := by
    unfold callText
    simp
  have hlast : (place.toList ++ (".len(), ".toList ++ element.text.toList)).getLast? =
      element.text.toList.getLast? := by
    obtain ⟨c,hc,-⟩ := getLast_text element
    rw [List.getLast?_append,List.getLast?_append,hc]
    rfl
  have hwords : callText "array".toList (place.toList ++ (".len(), ".toList
      ++ element.text.toList)) = ("e = e.encode_array(".toList ++ (place.toList ++ ".len(),".toList))
      ++ ' ' :: (element.text.toList ++ ");".toList) := by
    unfold callText
    simp
  obtain ⟨c,hc,hne⟩ := getLast_text element
  rw [hline,encodedSteps_callText (by decide)
    (writesMessage_eq_false_of_last (hlast.trans hc) hne),stepOfCall,if_pos rfl,hwords,
    announcedBy_append (by decide)]

theorem encodedSteps_map (place : String) (key value : WireKind) :
    encodedSteps source ("e = e.encode_map(" ++ place ++ ".len(), " ++ key.text ++ ", "
      ++ value.text ++ ");").toList = [.map key.text value.text] := by
  have hline : ("e = e.encode_map(" ++ place ++ ".len(), " ++ key.text ++ ", " ++ value.text
      ++ ");").toList = callText "map".toList (place.toList ++ (".len(), ".toList
      ++ (key.text.toList ++ (", ".toList ++ value.text.toList)))) := by
    unfold callText
    simp
  have hlast : (place.toList ++ (".len(), ".toList ++ (key.text.toList ++ (", ".toList
      ++ value.text.toList)))).getLast? = value.text.toList.getLast? := by
    obtain ⟨c,hc,-⟩ := getLast_text value
    rw [List.getLast?_append,List.getLast?_append,List.getLast?_append,List.getLast?_append,hc]
    rfl
  have hwords : callText "map".toList (place.toList ++ (".len(), ".toList ++ (key.text.toList
      ++ (", ".toList ++ value.text.toList)))) =
      (("e = e.encode_map(".toList ++ (place.toList ++ ".len(),".toList))
      ++ ' ' :: (key.text.toList ++ ",".toList)) ++ ' ' :: (value.text.toList ++ ");".toList) := by
    unfold callText
    simp
  have hvalue : ' ' ∉ value.text.toList ++ ");".toList := by
    simpa using not_mem_kindText (by decide) (by decide) value
  obtain ⟨c,hc,hne⟩ := getLast_text value
  rw [hline,encodedSteps_callText (by decide)
    (writesMessage_eq_false_of_last (hlast.trans hc) hne),stepOfCall,if_neg (by decide),
    if_pos rfl,hwords,announcedBy_append (by decide),beforeLastWord_append hvalue,
    announcedBy_append (by decide)]

theorem encodedSteps_for (rest : List Char) :
    encodedSteps source ("for ".toList ++ rest) = [.loopBegin] := by
  have htext : ("for ".toList ++ rest).dropWhile (· = ' ') = "for ".toList ++ rest := by
    simp
  have hclose : "for ".toList ++ rest ≠ ['\x7d'] := by
    simp
  have hloop : "for ".toList.isPrefixOf ("for ".toList ++ rest) = true := by
    simp [List.isPrefixOf]
  rw [encodedSteps,htext,if_neg hclose]
  simp only [hloop,↓reduceIte]

theorem encodedSteps_loop (item : Local) (place : String) :
    encodedSteps source ("for " ++ item.text ++ " in " ++ place ++ ".iter() \x7b").toList =
      [.loopBegin] := by
  simp only [String.toList_append,List.append_assoc]
  exact encodedSteps_for _

theorem encodedSteps_entries (key item : Local) (place : String) :
    encodedSteps source
      ("for (" ++ key.text ++ ", " ++ item.text ++ ") in " ++ place ++ ".iter() \x7b").toList =
      [.loopBegin] := by
  have hopen : "for (".toList = "for ".toList ++ "(".toList := by decide
  simp only [String.toList_append,List.append_assoc,hopen]
  exact encodedSteps_for _

theorem encodedSteps_close : stepsOf (encodedSteps source) ["\x7d"] = [.loopEnd] := rfl

end Lines

theorem stepsOf_cons (read : List Char → List WireStep) (line : String) (rest : List String) :
    stepsOf read (line :: rest) = read line.toList ++ stepsOf read rest := rfl

theorem announced_eq {kind : Kind} {wire : WireKind} (h : wireKind kind = .ok wire) :
    announced kind = wire.text := by
  rw [announced,h]

theorem isOf_bound {source : List Char} {v : Local} (h : isLoopVariable v.text.toList = true) :
    (Place.bound v).IsOf source :=
  .inr ⟨v,rfl,h⟩

/-- The lines that write a value spell the steps of its kind. -/
theorem encodedSteps_writer (source : List Char) (kind : Kind) (h : holdsOneof kind = false)
    (p : Place) (hp : p.IsOf source) (depth : ℕ) :
    ∃ w, writer kind p depth = .ok w ∧ stepsOf (encodedSteps source) w.lines = wireSteps kind := by
  induction kind generalizing p depth with
  | integer bits signed | float bits | bool | string | bytes =>
    refine ⟨_,rfl,?_⟩
    rw [Writer.lines,stepsOf_cons]
    exact congrArg (· ++ []) (encodedSteps_primitive hp _ (by simp [Primitive.isCopied]))
  | enum name =>
    refine ⟨_,rfl,?_⟩
    rw [Writer.lines,stepsOf_cons,encodedSteps_enum]
    rfl
  | message name =>
    refine ⟨_,rfl,?_⟩
    rw [Writer.lines,stepsOf_cons,encodedSteps_message hp]
    rfl
  | repeated element ih =>
    have helement : holdsOneof element = false := h
    obtain ⟨wire,hwire⟩ := wireKind_eq_ok helement
    obtain ⟨body,hbody,hsteps⟩ :=
      ih helement _ (isOf_bound (isLoopVariable_item depth)) (depth + 1)
    refine ⟨.array p wire (.item depth) body,?_,?_⟩
    · simp only [writer,hwire,hbody]
      rfl
    · rw [Writer.lines,stepsOf_append,stepsOf_append,encodedSteps_indent,hsteps,stepsOf_cons,
        stepsOf_cons,encodedSteps_array,encodedSteps_loop,encodedSteps_close,wireSteps,
        announced_eq hwire]
      rfl
  | map key value ihKey ihValue =>
    obtain ⟨hkey,hvalue⟩ : holdsOneof key = false ∧ holdsOneof value = false := by
      simpa [holdsOneof] using h
    obtain ⟨keyKind,hkeyKind⟩ := wireKind_eq_ok hkey
    obtain ⟨valueKind,hvalueKind⟩ := wireKind_eq_ok hvalue
    obtain ⟨keyBody,hkeyBody,hkeySteps⟩ :=
      ihKey hkey _ (isOf_bound (isLoopVariable_key depth)) (depth + 1)
    obtain ⟨valueBody,hvalueBody,hvalueSteps⟩ :=
      ihValue hvalue _ (isOf_bound (isLoopVariable_item depth)) (depth + 1)
    refine ⟨.map p keyKind valueKind (.key depth) (.item depth) keyBody valueBody,?_,?_⟩
    · simp only [writer,hkeyKind,hvalueKind,hkeyBody,hvalueBody]
      rfl
    · rw [Writer.lines,stepsOf_append,stepsOf_append,stepsOf_append,encodedSteps_indent,
        encodedSteps_indent,hkeySteps,hvalueSteps,stepsOf_cons,stepsOf_cons,encodedSteps_map,
        encodedSteps_entries,encodedSteps_close,wireSteps,announced_eq hkeyKind,
        announced_eq hvalueKind]
      simp [stepsOf]
  | oneof group number inner => cases h

end SchemaCodec.Codec
