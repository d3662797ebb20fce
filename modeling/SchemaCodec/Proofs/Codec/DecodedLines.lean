import SchemaCodec.Proofs.Codec.EncodedLines
import SchemaCodec.Proofs.Identifier
import SchemaCodec.Proofs.Outcome
import SchemaCodec.Proofs.Schema.Index

/-! # Steps of decode code

The lines that read a value spell the steps of its kind, whatever is done with the value, as long as
this adds no call of the decoder. Neither a variable nor the name of a type can hide or feign a call.
-/
namespace SchemaCodec.Codec

/-- What calls of the decoder begin with. -/
def callMarks : List (List Char) := ["d.decode_".toList,"::decode(d)".toList]

/-- A text that adds no call of the decoder to what follows it. -/
def Quiet (text : List Char) : Prop := ∀ rest, calls (text ++ rest) = calls rest

theorem Quiet.append {a b : List Char} (ha : Quiet a) (hb : Quiet b) : Quiet (a ++ b) := by
  intro rest
  rw [List.append_assoc,ha,hb]

theorem Quiet.calls_eq_nil {text : List Char} (h : Quiet text) : calls text = [] := by
  have hrest := h []
  rwa [List.append_nil] at hrest

theorem callAt?_eq_none {text : List Char} (h : ∀ mark ∈ callMarks, ¬ mark <+: text) :
    callAt? text = none := by
  have hcall : text.dropPrefix? "d.decode_".toList = none := by
    cases hd : text.dropPrefix? "d.decode_".toList with
    | none => rfl
    | some call =>
      obtain ⟨mark,hmark,heq⟩ := List.dropPrefix?_eq_some_iff.mp hd
      rw [eq_of_beq heq] at hmark
      exact absurd ⟨call,hmark.symm⟩ (h _ List.mem_cons_self)
  have hmessage : "::decode(d)".toList.isPrefixOf text = false := by
    cases hp : "::decode(d)".toList.isPrefixOf text with
    | false => rfl
    | true =>
      exact absurd (List.isPrefixOf_iff_prefix.mp hp) (h _ (List.mem_cons_of_mem _ (.head _)))
  rw [callAt?,hcall]
  simp only [hmessage,Bool.false_eq_true,↓reduceIte]

theorem calls_cons {c : Char} {cs : List Char} (h : ∀ mark ∈ callMarks, ¬ mark <+: c :: cs) :
    calls (c :: cs) = calls cs := by
  rw [calls,callAt?_eq_none h]
  rfl

/-- No call begins in a text none of whose ends can be the beginning of a call. -/
theorem quiet_of_tails {text : List Char}
    (h : ∀ t ∈ text.tails, t ≠ [] → ∀ mark ∈ callMarks, ¬ t <+: mark ∧ ¬ mark <+: t) :
    Quiet text := by
  intro rest
  induction text with
  | nil => rfl
  | cons c cs ih =>
    have hhere := h (c :: cs) (by simp) (List.cons_ne_nil c cs)
    have hrest := ih fun t ht => h t (by simp [ht])
    rw [List.cons_append,calls_cons,hrest]
    intro mark hmark hprefix
    have htext : c :: cs <+: c :: (cs ++ rest) := List.prefix_append (c :: cs) rest
    rcases List.prefix_or_prefix_of_prefix hprefix htext with hp | hp
    · exact (hhere mark hmark).2 hp
    · exact (hhere mark hmark).1 hp

/-- A call begins with a letter that is followed by a dot, or with two colons. -/
theorem eq_of_mark_prefix {c : Char} {cs mark : List Char} (hmark : mark ∈ callMarks)
    (h : mark <+: c :: cs) : c = 'd' ∧ cs.head? = some '.' ∨ c = ':' := by
  obtain ⟨tail,htail⟩ := h
  rcases List.mem_cons.mp hmark with rfl | hmark
  · obtain ⟨rfl,rfl⟩ := List.cons.inj htail
    exact .inl ⟨rfl,rfl⟩
  · obtain rfl := List.mem_singleton.mp hmark
    exact .inr (List.cons.inj htail).1.symm

theorem quiet_of_chars {text : List Char} (h : ∀ c ∈ text, c ≠ 'd' ∧ c ≠ ':') : Quiet text := by
  intro rest
  induction text with
  | nil => rfl
  | cons c cs ih =>
    have hrest := ih fun d hd => h d (List.mem_cons_of_mem c hd)
    obtain ⟨hd,hcolon⟩ := h c List.mem_cons_self
    rw [List.cons_append,calls_cons,hrest]
    intro mark hmark hprefix
    rcases eq_of_mark_prefix hmark hprefix with ⟨hc,-⟩ | hc
    · exact hd hc
    · exact hcolon hc

/-- The name of a type adds no call, unless a dot follows it. -/
theorem calls_name_append {name rest : List Char} (hname : ∀ c ∈ name, IsNameChar c)
    (hrest : rest.head? ≠ some '.') : calls (name ++ rest) = calls rest := by
  induction name with
  | nil => rfl
  | cons c cs ih =>
    have hcs : ∀ d ∈ cs, IsNameChar d := fun d hd => hname d (List.mem_cons_of_mem c hd)
    rw [List.cons_append,calls_cons,ih hcs]
    intro mark hmark hprefix
    rcases eq_of_mark_prefix hmark hprefix with ⟨-,hdot⟩ | hc
    · cases cs with
      | nil => exact hrest hdot
      | cons d ds => exact (hcs d List.mem_cons_self).1 (Option.some.inj hdot)
    · exact (hname c List.mem_cons_self).2 hc

theorem quiet_digits (n : ℕ) : Quiet (toString n).toList := by
  refine quiet_of_chars fun c hc => ?_
  rw [toList_toString] at hc
  have hd := isDigit_of_mem hc
  constructor
  · rintro rfl
    exact absurd hd (by decide)
  · rintro rfl
    exact absurd hd (by decide)

theorem quiet_local (v : Local) : Quiet v.text.toList := by
  cases v with
  | item n | key n | size n | array n | map n =>
    rw [Local.text,String.toList_append]
    exact (quiet_of_tails (by decide)).append (quiet_digits n)

theorem quiet_suffix (type : Primitive) : Quiet type.suffix.toList := by
  cases type with
  | integer bits signed =>
    rw [Primitive.suffix,Kind.integerName,String.toList_append]
    refine Quiet.append ?_ (quiet_digits bits)
    cases signed <;> exact quiet_of_tails (by decide)
  | float bits =>
    rw [Primitive.suffix,String.toList_append]
    exact (quiet_of_tails (by decide)).append (quiet_digits bits)
  | bool | string | bytes => exact quiet_of_tails (by decide)

theorem quiet_kind (kind : WireKind) : Quiet kind.text.toList := by
  cases kind with
  | integer bits signed =>
    rw [WireKind.text,String.toList_append,String.toList_append]
    refine Quiet.append ?_ (quiet_digits bits)
    cases signed <;> exact quiet_of_tails (by decide)
  | float bits =>
    rw [WireKind.text,String.toList_append]
    exact (quiet_of_tails (by decide)).append (quiet_digits bits)
  | bool | string | bytes | any | array | map => exact quiet_of_tails (by decide)

/-- The step of a call that is named `name` and is passed `kinds`. -/
def stepOfDecoderCall (name kinds : List Char) : WireStep :=
  if name = "array".toList then .array (String.ofList kinds)
  else if name = "map".toList then
    .map (String.ofList (upTo ',' kinds)) (String.ofList ((behind ',' kinds).drop 1))
  else .scalar (String.ofList name)

theorem calls_call {name kinds rest : List Char} (hname : Quiet name) (hkinds : Quiet kinds)
    (hbracket : '(' ∉ name) (hclose : ')' ∉ kinds) :
    calls ("d.decode_".toList ++ (name ++ '(' :: (kinds ++ ')' :: rest))) =
      stepOfDecoderCall name kinds :: calls (')' :: rest) := by
  have hhere : callAt? ("d.decode_".toList ++ (name ++ '(' :: (kinds ++ ')' :: rest))) =
      some (stepOfDecoderCall name kinds) := by
    have hcall : ("d.decode_".toList ++ (name ++ '(' :: (kinds ++ ')' :: rest))).dropPrefix?
        "d.decode_".toList = some (name ++ '(' :: (kinds ++ ')' :: rest)) :=
      List.dropPrefix?_eq_some_iff.mpr ⟨_,rfl,by simp⟩
    rw [callAt?,hcall]
    simp only [upTo_append hbracket,behind_append hbracket,upTo_append hclose]
    rfl
  have hquiet : Quiet ".decode_".toList := quiet_of_tails (by decide)
  have hopen : Quiet ['('] := quiet_of_tails (by decide)
  have hbehind : calls (".decode_".toList ++ (name ++ '(' :: (kinds ++ ')' :: rest))) =
      calls (')' :: rest) := by
    rw [hquiet,hname,← List.singleton_append,hopen,hkinds]
  have hsplit : "d.decode_".toList = 'd' :: ".decode_".toList := by decide
  rw [← hbehind]
  rw [hsplit] at hhere ⊢
  rw [List.cons_append,calls,← List.cons_append,hhere]
  rfl

theorem calls_primitive (type : Primitive) (rest : List Char) :
    calls (("d.decode_" ++ type.suffix ++ "()?").toList ++ rest) =
      .scalar type.suffix :: calls rest := by
  have htext : ("d.decode_" ++ type.suffix ++ "()?").toList ++ rest =
      "d.decode_".toList ++ (type.suffix.toList ++ '(' :: ([] ++ ')' :: ('?' :: rest))) := by
    simp
  have hbehind : Quiet [')','?'] := quiet_of_tails (by decide)
  obtain ⟨harray,hmap⟩ := suffix_ne_container type
  rw [htext,calls_call (quiet_suffix type) (fun _ => rfl)
    ((isWord_suffix type).not_mem (by decide)) List.not_mem_nil]
  rw [stepOfDecoderCall,if_neg harray,if_neg hmap,String.ofList_toList]
  exact congrArg _ (hbehind rest)

/-- An expression that decode code hands on: a value of a primitive type, an enum or a message that
was just read, or the variable of a container that is complete. -/
inductive HandedOn (index : TypeIndex) : String → Prop where
  | primitive (type : Primitive) : HandedOn index ("d.decode_" ++ type.suffix ++ "()?")
  | enum {name : String} {type : TypeUse} (h : typeUse index name = .ok type) :
    HandedOn index (type.identifier ++ "::try_from("
      ++ ("d.decode_" ++ Primitive.enumNumber.suffix ++ "()?") ++ ")?")
  | message {name : String} {type : TypeUse} (h : typeUse index name = .ok type) :
    HandedOn index (type.identifier ++ "::decode(d)?")
  | local (v : Local) : HandedOn index v.text

/-- Handing a value on adds no call of the decoder to those that read the value. -/
def AddsNoCall (index : TypeIndex) (assign : String → String) : Prop :=
  ∀ value, HandedOn index value → decodedSteps (assign value).toList = calls value.toList

section Files
variable {files : List SchemaFile}

/-- An identifier is that of a declaration with this name. -/
theorem identifierOf_eq_ok {name identifier : String}
    (h : identifierOf (TypeIndex.ofFiles files) name = .ok identifier) :
    ∃ f ∈ files, ∃ d ∈ f.declarations, d.fullName = name ∧
      typeIdentifier d.fullName f.package = identifier := by
  unfold identifierOf at h
  split at h
  · next entry hfind =>
    cases h
    obtain ⟨hname,f,hf,d,hd,rfl⟩ := TypeIndex.exists_of_find? hfind
    exact ⟨f,hf,d,hd,hname,rfl⟩
  · cases h

theorem isWordChar_identifierOf {name identifier : String}
    (h : identifierOf (TypeIndex.ofFiles files) name = .ok identifier) :
    ∀ c ∈ identifier.toList, IsWordChar c := by
  obtain ⟨f,-,d,-,-,rfl⟩ := identifierOf_eq_ok h
  exact isWordChar_typeIdentifier

theorem isWordChar_typeUse {name : String} {type : TypeUse}
    (h : typeUse (TypeIndex.ofFiles files) name = .ok type) :
    ∀ c ∈ type.identifier.toList, IsWordChar c := by
  obtain ⟨identifier,hid,htype⟩ := bind_eq_ok.mp h
  cases htype
  exact isWordChar_identifierOf hid

theorem isNameChar_typeUse {name : String} {type : TypeUse}
    (h : typeUse (TypeIndex.ofFiles files) name = .ok type) :
    ∀ c ∈ type.identifier.toList, IsNameChar c :=
  fun c hc => (isWordChar_typeUse h c hc).isNameChar

theorem calls_enum {type : TypeUse} (h : ∀ c ∈ type.identifier.toList, IsNameChar c)
    (rest : List Char) :
    calls ((type.identifier ++ "::try_from("
      ++ ("d.decode_" ++ Primitive.enumNumber.suffix ++ "()?") ++ ")?").toList ++ rest) =
      .scalar "u32" :: calls rest := by
  have htry : Quiet "::try_from(".toList := quiet_of_tails (by decide)
  have hbehind : Quiet ")?".toList := quiet_of_tails (by decide)
  rw [String.toList_append,String.toList_append,String.toList_append,List.append_assoc,
    List.append_assoc,List.append_assoc,calls_name_append h (by simp),htry,calls_primitive,hbehind]
  rfl

theorem calls_message {type : TypeUse} (h : ∀ c ∈ type.identifier.toList, IsNameChar c)
    (rest : List Char) :
    calls ((type.identifier ++ "::decode(d)?").toList ++ rest) = .message :: calls rest := by
  have hbehind : Quiet ":decode(d)?".toList := quiet_of_tails (by decide)
  have hsplit : "::decode(d)?".toList = ':' :: ":decode(d)?".toList := by decide
  have hhere : callAt? (':' :: (":decode(d)?".toList ++ rest)) = some .message := by
    simp [callAt?,List.dropPrefix?,List.isPrefixOf]
  rw [String.toList_append,List.append_assoc,calls_name_append h (by simp),hsplit,
    List.cons_append,calls,hhere,hbehind]
  rfl

theorem calls_handedOn {value : String} (h : HandedOn (TypeIndex.ofFiles files) value)
    (rest : List Char) : calls (value.toList ++ rest) = calls value.toList ++ calls rest := by
  -- the calls of the value are the same whatever follows it, so also before the empty text
  have hsplit : ∀ steps : List WireStep,
      (∀ after, calls (value.toList ++ after) = steps ++ calls after) →
      calls (value.toList ++ rest) = calls value.toList ++ calls rest := by
    intro steps hsteps
    have hnil := hsteps []
    rw [List.append_nil,calls,List.append_nil] at hnil
    rw [hsteps,hnil]
  cases h with
  | primitive type => exact hsplit [_] (calls_primitive type)
  | enum h => exact hsplit [_] (calls_enum (isNameChar_typeUse h))
  | message h => exact hsplit [_] (calls_message (isNameChar_typeUse h))
  | «local» v => exact hsplit [] (quiet_local v)

/-- A line that begins neither with a blank nor like the head or the end of a loop. -/
def IsPlainLine (line : List Char) : Prop :=
  ∃ c, line.head? = some c ∧ c ≠ ' ' ∧ c ≠ '\x7d' ∧ c ≠ 'f'

theorem decodedSteps_of_head {line : List Char} (h : IsPlainLine line) :
    decodedSteps line = calls line := by
  obtain ⟨c,hc,hblank,hclose,hf⟩ := h
  obtain ⟨rest,rfl⟩ := List.head?_eq_some_iff.mp hc
  have htext : (c :: rest).dropWhile (· = ' ') = c :: rest := by
    simp [hblank]
  have hloop : "for ".toList.isPrefixOf (c :: rest) = false := by
    simp [List.isPrefixOf,Ne.symm hf]
  have hne : c :: rest ≠ ['\x7d'] := by
    simp [hclose]
  rw [decodedSteps,htext,if_neg hne]
  simp only [hloop,Bool.false_eq_true,↓reduceIte]

theorem IsPlainLine.append {line : List Char} (h : IsPlainLine line) (rest : List Char) :
    IsPlainLine (line ++ rest) := by
  obtain ⟨c,hc,hne⟩ := h
  exact ⟨c,by rw [List.head?_append,hc]; rfl,hne⟩

theorem isPlainLine_local (v : Local) : IsPlainLine v.text.toList := by
  cases v with
  | item n | key n | size n | array n | map n =>
    rw [Local.text,String.toList_append]
    exact IsPlainLine.append ⟨_,rfl,by decide⟩ _

/-- Handing a value on between two texts that add no call adds none. -/
theorem addsNoCall_of_quiet {assign : String → String} {pre post : List Char}
    (hline : ∀ value, (assign value).toList = pre ++ (value.toList ++ post))
    (hplain : IsPlainLine pre) (hpre : Quiet pre) (hpost : Quiet post) :
    AddsNoCall (TypeIndex.ofFiles files) assign := by
  intro value hvalue
  rw [hline,decodedSteps_of_head (hplain.append _),hpre,calls_handedOn hvalue,hpost.calls_eq_nil,
    List.append_nil]

theorem addsNoCall_bind (v : Local) :
    AddsNoCall (TypeIndex.ofFiles files) (Sink.bind v).line := by
  have hpre : Quiet ("let ".toList ++ (v.text.toList ++ " = ".toList)) :=
    (quiet_of_tails (by decide)).append ((quiet_local v).append (quiet_of_tails (by decide)))
  have hline : ∀ value, ((Sink.bind v).line value).toList =
      ("let ".toList ++ (v.text.toList ++ " = ".toList)) ++ (value.toList ++ ";".toList) := by
    intro value
    simp [Sink.line]
  exact addsNoCall_of_quiet hline (IsPlainLine.append ⟨_,rfl,by decide⟩ _) hpre
    (quiet_of_tails (by decide))

theorem addsNoCall_push (items : Local) :
    AddsNoCall (TypeIndex.ofFiles files) (Sink.push items).line := by
  have hpre : Quiet (items.text.toList ++ ".push(".toList) :=
    (quiet_local items).append (quiet_of_tails (by decide))
  have hline : ∀ value, ((Sink.push items).line value).toList =
      (items.text.toList ++ ".push(".toList) ++ (value.toList ++ ");".toList) := by
    intro value
    simp [Sink.line]
  exact addsNoCall_of_quiet hline ((isPlainLine_local items).append _) hpre
    (quiet_of_tails (by decide))

theorem addsNoCall_insert (entries key : Local) :
    AddsNoCall (TypeIndex.ofFiles files) (Sink.insert entries key).line := by
  have hpre : Quiet (entries.text.toList ++ (".insert(".toList ++ (key.text.toList
      ++ ", ".toList))) :=
    (quiet_local entries).append ((quiet_of_tails (by decide)).append
      ((quiet_local key).append (quiet_of_tails (by decide))))
  have hline : ∀ value, ((Sink.insert entries key).line value).toList =
      (entries.text.toList ++ (".insert(".toList ++ (key.text.toList ++ ", ".toList)))
        ++ (value.toList ++ ");".toList) := by
    intro value
    simp [Sink.line]
  exact addsNoCall_of_quiet hline ((isPlainLine_local entries).append _) hpre
    (quiet_of_tails (by decide))

end Files

theorem decodedSteps_size (size : Local) {name kinds : List Char} (hname : Quiet name)
    (hkinds : Quiet kinds) (hbracket : '(' ∉ name) (hclose : ')' ∉ kinds) :
    decodedSteps ("let ".toList ++ (size.text.toList ++ (" = ".toList ++ ("d.decode_".toList
      ++ (name ++ '(' :: (kinds ++ ')' :: "?;".toList)))))) = [stepOfDecoderCall name kinds] := by
  have hlet : Quiet "let ".toList := quiet_of_tails (by decide)
  have hbind : Quiet " = ".toList := quiet_of_tails (by decide)
  have hbehind : Quiet (')' :: "?;".toList) := quiet_of_tails (by decide)
  rw [decodedSteps_of_head (IsPlainLine.append ⟨_,rfl,by decide⟩ _),hlet,quiet_local size,hbind,
    calls_call hname hkinds hbracket hclose,hbehind.calls_eq_nil]

theorem decodedSteps_array (size : Local) (element : WireKind) :
    decodedSteps ("let " ++ size.text ++ " = d.decode_array(" ++ element.text ++ ")?;").toList =
      [.array element.text] := by
  have hline : ("let " ++ size.text ++ " = d.decode_array(" ++ element.text ++ ")?;").toList =
      "let ".toList ++ (size.text.toList ++ (" = ".toList ++ ("d.decode_".toList
        ++ ("array".toList ++ '(' :: (element.text.toList ++ ')' :: "?;".toList))))) := by
    simp
  rw [hline,decodedSteps_size size (quiet_of_tails (by decide)) (quiet_kind element) (by decide)
    (not_mem_kindText (by decide) (by decide) element),stepOfDecoderCall,if_pos rfl,
    String.ofList_toList]

theorem decodedSteps_map (size : Local) (key value : WireKind) :
    decodedSteps ("let " ++ size.text ++ " = d.decode_map(" ++ key.text ++ ", " ++ value.text
      ++ ")?;").toList = [.map key.text value.text] := by
  have hline : ("let " ++ size.text ++ " = d.decode_map(" ++ key.text ++ ", " ++ value.text
      ++ ")?;").toList =
      "let ".toList ++ (size.text.toList ++ (" = ".toList ++ ("d.decode_".toList
        ++ ("map".toList ++ '(' :: ((key.text.toList ++ ',' :: ' ' :: value.text.toList)
          ++ ')' :: "?;".toList))))) := by
    simp
  have hkinds : Quiet (key.text.toList ++ ',' :: ' ' :: value.text.toList) := by
    have hcomma : Quiet [',',' '] := quiet_of_tails (by decide)
    exact (quiet_kind key).append (hcomma.append (quiet_kind value))
  have hclose : ')' ∉ key.text.toList ++ ',' :: ' ' :: value.text.toList := by
    have hkey : ')' ∉ key.text.toList := not_mem_kindText (by decide) (by decide) key
    have hvalue : ')' ∉ value.text.toList := not_mem_kindText (by decide) (by decide) value
    simp [hkey,hvalue]
  have hcomma : ',' ∉ key.text.toList := not_mem_kindText (by decide) (by decide) key
  rw [hline,decodedSteps_size size (quiet_of_tails (by decide)) hkinds (by decide) hclose,
    stepOfDecoderCall,if_neg (by decide),if_pos rfl,upTo_append hcomma,behind_append hcomma,
    String.ofList_toList,List.drop_one,List.tail_cons,String.ofList_toList]

/-- A line that sets up an empty container. -/
theorem decodedSteps_empty (items size : Local) {constructor : String}
    (h : Quiet constructor.toList) :
    decodedSteps ("let mut " ++ items.text ++ constructor ++ size.text ++ ");").toList = [] := by
  have hquiet : Quiet ("let mut ".toList ++ (items.text.toList ++ (constructor.toList
      ++ (size.text.toList ++ ");".toList)))) :=
    (quiet_of_tails (by decide)).append ((quiet_local items).append (h.append
      ((quiet_local size).append (quiet_of_tails (by decide)))))
  simp only [String.toList_append,List.append_assoc]
  rw [decodedSteps_of_head (IsPlainLine.append ⟨_,rfl,by decide⟩ _),hquiet.calls_eq_nil]

theorem decodedSteps_loop (size : Local) :
    decodedSteps ("for _ in 0.." ++ size.text ++ " \x7b").toList = [.loopBegin] := by
  have htext : ("for _ in 0.." ++ size.text ++ " \x7b").toList.dropWhile (· = ' ') =
      ("for _ in 0.." ++ size.text ++ " \x7b").toList := by
    simp
  have hclose : ("for _ in 0.." ++ size.text ++ " \x7b").toList ≠ ['\x7d'] := by
    simp
  have hloop : "for ".toList.isPrefixOf ("for _ in 0.." ++ size.text ++ " \x7b").toList = true := by
    simp [List.isPrefixOf]
  rw [decodedSteps,htext,if_neg hclose]
  simp only [hloop,↓reduceIte]

theorem decodedSteps_close (rest : List String) :
    stepsOf decodedSteps ("\x7d" :: rest) = .loopEnd :: stepsOf decodedSteps rest := rfl

theorem decodedSteps_indent (level : ℕ) (lines : List String) :
    stepsOf decodedSteps (indent level lines) = stepsOf decodedSteps lines := by
  refine stepsOf_indent (fun a b h => ?_) level lines
  simp only [decodedSteps,h]

section Reader
variable {files : List SchemaFile} {sink : Sink}
  (hsink : AddsNoCall (TypeIndex.ofFiles files) sink.line)
include hsink

theorem decodedSteps_sink {value : String} (hvalue : HandedOn (TypeIndex.ofFiles files) value) :
    stepsOf decodedSteps [sink.line value] = calls value.toList := by
  rw [stepsOf_cons,hsink value hvalue]
  exact List.append_nil _

theorem decodedSteps_variable (v : Local) : stepsOf decodedSteps [sink.line v.text] = [] := by
  rw [decodedSteps_sink hsink (.local v),(quiet_local v).calls_eq_nil]

end Reader

theorem typeUse_eq_ok {index : TypeIndex} {name : String} (h : index.contains name = true) :
    ∃ type, typeUse index name = .ok type := by
  obtain ⟨entry,hentry⟩ := Option.isSome_iff_exists.mp h
  refine ⟨⟨name,entry.identifier⟩,?_⟩
  rw [typeUse,identifierOf,hentry]
  rfl

/-- The lines that read a value spell the steps of its kind. -/
theorem decodedSteps_reader (files : List SchemaFile) (kind : Kind) (h : holdsOneof kind = false)
    (hnamed : ∀ name ∈ namedTypes kind, (TypeIndex.ofFiles files).contains name = true)
    (sink : Sink) (hsink : AddsNoCall (TypeIndex.ofFiles files) sink.line) (depth : ℕ) :
    ∃ r, reader (TypeIndex.ofFiles files) kind sink depth = .ok r ∧
      stepsOf decodedSteps r.lines = wireSteps kind := by
  induction kind generalizing sink depth with
  | integer bits signed | float bits | bool | string | bytes =>
    refine ⟨_,rfl,?_⟩
    rw [Reader.lines,decodedSteps_sink hsink (.primitive _),← List.append_nil (String.toList _),
      calls_primitive]
    rfl
  | enum name =>
    obtain ⟨type,htype⟩ := typeUse_eq_ok (hnamed name List.mem_cons_self)
    refine ⟨.enumNumber type sink,?_,?_⟩
    · simp only [reader,htype]
      rfl
    · rw [Reader.lines,decodedSteps_sink hsink (.enum htype),← List.append_nil (String.toList _),
        calls_enum (isNameChar_typeUse htype)]
      rfl
  | message name =>
    obtain ⟨type,htype⟩ := typeUse_eq_ok (hnamed name List.mem_cons_self)
    refine ⟨.message type sink,?_,?_⟩
    · simp only [reader,htype]
      rfl
    · rw [Reader.lines,decodedSteps_sink hsink (.message htype),← List.append_nil (String.toList _),
        calls_message (isNameChar_typeUse htype)]
      rfl
  | repeated element ih =>
    have helement : holdsOneof element = false := h
    obtain ⟨wire,hwire⟩ := wireKind_eq_ok helement
    obtain ⟨body,hbody,hsteps⟩ := ih helement hnamed _ (addsNoCall_push (.array depth)) (depth + 1)
    refine ⟨.array wire (.size depth) (.array depth) body sink,?_,?_⟩
    · simp only [reader,hwire,hbody]
      rfl
    · rw [Reader.lines,stepsOf_append,stepsOf_append,decodedSteps_indent,hsteps,stepsOf_cons,
        stepsOf_cons,stepsOf_cons,decodedSteps_array,decodedSteps_loop,decodedSteps_close,
        decodedSteps_variable hsink,decodedSteps_empty _ _ (quiet_of_tails (by decide)),wireSteps,
        announced_eq hwire]
      rfl
  | map key value ihKey ihValue =>
    obtain ⟨hkey,hvalue⟩ : holdsOneof key = false ∧ holdsOneof value = false := by
      simpa [holdsOneof] using h
    obtain ⟨keyKind,hkeyKind⟩ := wireKind_eq_ok hkey
    obtain ⟨valueKind,hvalueKind⟩ := wireKind_eq_ok hvalue
    obtain ⟨keyBody,hkeyBody,hkeySteps⟩ :=
      ihKey hkey (fun name hn => hnamed name (List.mem_append_left _ hn)) _
        (addsNoCall_bind (.key depth)) (depth + 1)
    obtain ⟨valueBody,hvalueBody,hvalueSteps⟩ :=
      ihValue hvalue (fun name hn => hnamed name (List.mem_append_right _ hn)) _
        (addsNoCall_insert (.map depth) (.key depth)) (depth + 1)
    refine ⟨.map keyKind valueKind (.size depth) (.map depth) keyBody valueBody sink,?_,?_⟩
    · simp only [reader,hkeyKind,hvalueKind,hkeyBody,hvalueBody]
      rfl
    · rw [Reader.lines,stepsOf_append,stepsOf_append,stepsOf_append,decodedSteps_indent,
        decodedSteps_indent,hkeySteps,hvalueSteps,stepsOf_cons,stepsOf_cons,stepsOf_cons,
        decodedSteps_map,decodedSteps_loop,decodedSteps_close,decodedSteps_variable hsink,
        decodedSteps_empty _ _ (quiet_of_tails (by decide)),wireSteps,announced_eq hkeyKind,
        announced_eq hvalueKind]
      simp [stepsOf]
  | oneof group number inner => cases h

end SchemaCodec.Codec
