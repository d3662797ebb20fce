import SchemaCodec.Proofs.Codec.Mentions
import SchemaCodec.Proofs.FileTree
import SchemaCodec.Proofs.Rendering.FieldNames

/-! # Lines that write and read fields

The lines that write a value read the field that holds it, and no other one; values inside of a
container or of a oneof are held by local front. The lines that read a value assign it once, in
the last of them.
-/
namespace SchemaCodec.Codec

section Words

theorem isWord_local (v : Local) : IsWord v.text.toList := by
  cases v with
  | item n | key n | size n | array n | map n =>
    rw [Local.text,String.toList_append]
    exact (isWord_of_all (by decide)).append (isWord_toString n)

theorem isIdentifierChar_of_isWord {text : List Char} (h : IsWord text) :
    ∀ c ∈ text, isIdentifierChar c = true := by
  intro c hc
  simp [isIdentifierChar,h c hc]

theorem isIdentifierChar_escape {name : String} (h : IsName name) :
    ∀ c ∈ (Identifier.escape name).toList, isIdentifierChar c = true := by
  have hname : ∀ c ∈ name.toList, isIdentifierChar c = true := by
    obtain ⟨first,rest,hfirst,hrest,he⟩ := h
    rw [he]
    intro c hc
    rcases List.mem_cons.mp hc with rfl | hc
    · simp only [Grammar.isWordStart,Bool.or_eq_true] at hfirst
      rcases hfirst with halpha | hunderscore
      · simp [isIdentifierChar,Char.isAlphanum,halpha]
      · simp [isIdentifierChar,hunderscore]
    · have hpart := hrest c hc
      simp only [Grammar.isWordPart] at hpart
      simp [isIdentifierChar,hpart]
  have hraw : "r#".toList.all isIdentifierChar = true := by decide
  rcases Identifier.escape_cases name with ⟨-,he⟩ | he | he <;> rw [he]
  · rw [String.toList_append]
    intro c hc
    rcases List.mem_append.mp hc with hc | hc
    · exact hname c hc
    · rw [List.mem_singleton.mp hc]
      decide
  · rw [String.toList_append]
    intro c hc
    rcases List.mem_append.mp hc with hc | hc
    · exact List.all_eq_true.mp hraw c hc
    · exact hname c hc
  · exact hname

theorem escape_ne_self (name : String) : Identifier.escape name ≠ "self" := by
  unfold Identifier.escape
  split
  · next hpath =>
    have hall : ∀ w ∈ Identifier.pathWords, w ++ "_" ≠ "self" := by decide
    exact hall name hpath
  · next hpath =>
    split
    · have hne : "r#" ++ name ≠ "self" ++ "" := append_ne_append rfl rfl (by decide)
      exact hne
    · rintro rfl
      exact hpath (by decide)

theorem not_mem_escape {name : String} (h : IsName name) {c : Char}
    (hc : isIdentifierChar c = false) : c ∉ (Identifier.escape name).toList := by
  intro hmem
  rw [isIdentifierChar_escape h c hmem] at hc
  cases hc

end Words

/-! ## Lines that write -/

/-- A place in generated methods: a field under its name, or a local variable. -/
def Place.Named : Place → Prop
  | .given _ _ => False
  | .field name => IsName name
  | .bound _ => True

/-- The field that a place is in. -/
def Place.fields : Place → List String
  | .field name => [Identifier.escape name]
  | .given _ _ | .bound _ => []

section Places
variable {p : Place} (hp : p.Named)
include hp

theorem newline_not_mem_place : '\n' ∉ p.text.toList := by
  cases p with
  | given text byRef => cases hp
  | field name =>
    rw [Place.text,String.toList_append]
    simpa using not_mem_escape hp (by decide)
  | bound v => exact (isWord_local v).not_mem (by decide)

/-- Naming a place reads the field that it is in. -/
theorem fieldsRead_place {c : Char} (hc : isIdentifierChar c = false) (rest : List Char) :
    fieldsRead (p.text.toList ++ c :: rest) = p.fields ++ fieldsRead (c :: rest) := by
  cases p with
  | given text byRef => cases hp
  | field name =>
    have hself : (Identifier.escape name).toList ≠ "self".toList :=
      fun he => escape_ne_self name (String.toList_inj.mp he)
    rw [Place.text,String.toList_append,List.append_assoc,
      fieldsRead_self (isIdentifierChar_escape hp) hself hc,String.ofList_toList]
    rfl
  | bound v =>
    have hdot : '.' ∉ v.text.toList := (isWord_local v).not_mem (by decide)
    rw [Place.text,Place.fields,List.nil_append]
    by_cases hcd : c = '.'
    · subst hcd
      have hself : wordAfter [] v.text.toList ≠ "self".toList.reverse := by
        rw [wordAfter_identifier (isIdentifierChar_of_isWord (isWord_local v)),List.append_nil]
        intro he
        have hhead := congrArg List.head? (List.reverse_injective he)
        cases v <;> simp [Local.text] at hhead
      rw [fieldsRead_dot hdot hself]
      exact (fieldsRead_dot List.not_mem_nil (by decide) rest).symm
    · rw [fieldsRead_break hdot hc hcd]
      exact (fieldsRead_break List.not_mem_nil hc hcd rest).symm

/-- Passing a value or a reference to it reads the field that holds it. -/
theorem fieldsRead_argument {argument : String} (ha : argument = p.value ∨ argument = p.borrowed)
    {c : Char} (hc : isIdentifierChar c = false) (rest : List Char) :
    fieldsRead (argument.toList ++ c :: rest) = p.fields ++ fieldsRead (c :: rest) := by
  have hmark : ∀ mark, isIdentifierChar mark = false → mark ≠ '.' →
      fieldsRead ((String.ofList [mark] ++ p.text).toList ++ c :: rest) =
        p.fields ++ fieldsRead (c :: rest) := by
    intro mark hmark hdot
    rw [String.toList_append,String.toList_ofList,List.append_assoc,List.singleton_append,
      ← fieldsRead_place hp hc rest]
    exact fieldsRead_break List.not_mem_nil hmark hdot _
  rcases ha with rfl | rfl
  · rw [Place.value]
    split
    · exact hmark '*' (by decide) (by decide)
    · exact fieldsRead_place hp hc rest
  · rw [Place.borrowed]
    split
    · exact fieldsRead_place hp hc rest
    · exact hmark '&' (by decide) (by decide)

end Places

/-- A call of the runtime reads what it is passed. -/
theorem fieldsRead_call {name : List Char} (h : '.' ∉ name) (rest : List Char) :
    fieldsRead ("e = e.encode_".toList ++ (name ++ '(' :: rest)) = fieldsRead rest := by
  have htext : "e = e.encode_".toList ++ (name ++ '(' :: rest) =
      "e = e".toList ++ '.' :: (("encode_".toList ++ name) ++ '(' :: rest) := by
    simp
  have hcall : '.' ∉ "encode_".toList ++ name := by
    simpa using h
  rw [htext,fieldsRead_dot (by decide) (by decide),fieldsRead_break hcall (by decide) (by decide)]

section Lines
variable {p : Place} (hp : p.Named)
include hp

theorem fieldsRead_primitive (type : Primitive) {argument : String}
    (ha : argument = p.value ∨ argument = p.borrowed) :
    fieldsRead ("e = e.encode_" ++ type.suffix ++ "(" ++ argument ++ ");").toList = p.fields := by
  have hline : ("e = e.encode_" ++ type.suffix ++ "(" ++ argument ++ ");").toList =
      "e = e.encode_".toList ++ (type.suffix.toList ++ '(' :: (argument.toList ++ ')' :: [';'])) := by
    simp
  rw [hline,fieldsRead_call ((isWord_suffix type).not_mem (by decide)),
    fieldsRead_argument hp ha (by decide),fieldsRead_of_dotless (by decide),List.append_nil]

theorem fieldsRead_enum :
    fieldsRead ("e = e.encode_" ++ Primitive.enumNumber.suffix ++ "(" ++ p.value
      ++ " as u32);").toList = p.fields := by
  have hline : ("e = e.encode_" ++ Primitive.enumNumber.suffix ++ "(" ++ p.value
      ++ " as u32);").toList = "e = e.encode_".toList ++ (Primitive.enumNumber.suffix.toList
        ++ '(' :: (p.value.toList ++ ' ' :: "as u32);".toList)) := by
    simp
  rw [hline,fieldsRead_call ((isWord_suffix _).not_mem (by decide)),
    fieldsRead_argument hp (.inl rfl) (by decide),fieldsRead_of_dotless (by decide),List.append_nil]

theorem fieldsRead_message : fieldsRead ("e = " ++ p.text ++ ".encode(e);").toList = p.fields := by
  have hline : ("e = " ++ p.text ++ ".encode(e);").toList =
      "e =".toList ++ ' ' :: (p.text.toList ++ '.' :: "encode(e);".toList) := by
    simp
  have hbehind : fieldsRead ('.' :: "encode(e);".toList) = [] := by decide
  rw [hline,fieldsRead_break (by decide) (by decide) (by decide),fieldsRead_place hp (by decide),
    hbehind,List.append_nil]

/-- The head of a container reads the container to tell its length. -/
theorem fieldsRead_length {name kinds : List Char} (hname : '.' ∉ name) (hkinds : '.' ∉ kinds) :
    fieldsRead ("e = e.encode_".toList ++ (name ++ '(' :: (p.text.toList ++ '.' ::
      ("len(), ".toList ++ kinds)))) = p.fields := by
  have hbehind : fieldsRead ('.' :: ("len(), ".toList ++ kinds)) = [] := by
    have hdotless : '.' ∉ "len(), ".toList ++ kinds := by
      simpa using hkinds
    rw [← List.nil_append ('.' :: _),fieldsRead_dot List.not_mem_nil (by decide),
      fieldsRead_of_dotless hdotless]
  rw [fieldsRead_call hname,fieldsRead_place hp (by decide),hbehind,List.append_nil]

theorem fieldsRead_array (element : WireKind) :
    fieldsRead ("e = e.encode_array(" ++ p.text ++ ".len(), " ++ element.text ++ ");").toList =
      p.fields := by
  have hline : ("e = e.encode_array(" ++ p.text ++ ".len(), " ++ element.text ++ ");").toList =
      "e = e.encode_".toList ++ ("array".toList ++ '(' :: (p.text.toList ++ '.' ::
        ("len(), ".toList ++ (element.text.toList ++ ");".toList)))) := by
    simp
  have hkinds : '.' ∉ element.text.toList ++ ");".toList := by
    simpa using not_mem_kindText (by decide) (by decide) element
  rw [hline,fieldsRead_length hp (by decide) hkinds]

theorem fieldsRead_map (key value : WireKind) :
    fieldsRead ("e = e.encode_map(" ++ p.text ++ ".len(), " ++ key.text ++ ", " ++ value.text
      ++ ");").toList = p.fields := by
  have hline : ("e = e.encode_map(" ++ p.text ++ ".len(), " ++ key.text ++ ", " ++ value.text
      ++ ");").toList = "e = e.encode_".toList ++ ("map".toList ++ '(' :: (p.text.toList ++ '.' ::
        ("len(), ".toList ++ (key.text.toList ++ (", ".toList ++ (value.text.toList
          ++ ");".toList)))))) := by
    simp
  have hkinds : '.' ∉ key.text.toList ++ (", ".toList ++ (value.text.toList ++ ");".toList)) := by
    have hkey : '.' ∉ key.text.toList := not_mem_kindText (by decide) (by decide) key
    have hvalue : '.' ∉ value.text.toList := not_mem_kindText (by decide) (by decide) value
    simp [hkey,hvalue]
  rw [hline,fieldsRead_length hp (by decide) hkinds]

/-- The head of a loop reads the container that it runs over. -/
theorem fieldsRead_over {front : List Char} (h : '.' ∉ front) :
    fieldsRead (front ++ ' ' :: (p.text.toList ++ '.' :: "iter() \x7b".toList)) = p.fields := by
  have hbehind : fieldsRead ('.' :: "iter() \x7b".toList) = [] := by decide
  rw [fieldsRead_break h (by decide) (by decide),fieldsRead_place hp (by decide),hbehind,
    List.append_nil]

theorem fieldsRead_loop (item : Local) :
    fieldsRead ("for " ++ item.text ++ " in " ++ p.text ++ ".iter() \x7b").toList = p.fields := by
  have hline : ("for " ++ item.text ++ " in " ++ p.text ++ ".iter() \x7b").toList =
      ("for " ++ item.text ++ " in").toList ++ ' ' ::
        (p.text.toList ++ '.' :: "iter() \x7b".toList) := by
    simp
  have hitem : '.' ∉ item.text.toList := (isWord_local item).not_mem (by decide)
  rw [hline,fieldsRead_over hp (by simp [hitem])]

theorem fieldsRead_entries (key item : Local) :
    fieldsRead ("for (" ++ key.text ++ ", " ++ item.text ++ ") in " ++ p.text
      ++ ".iter() \x7b").toList = p.fields := by
  have hline : ("for (" ++ key.text ++ ", " ++ item.text ++ ") in " ++ p.text
      ++ ".iter() \x7b").toList = ("for (" ++ key.text ++ ", " ++ item.text ++ ") in").toList
        ++ ' ' :: (p.text.toList ++ '.' :: "iter() \x7b".toList) := by
    simp
  have hkey : '.' ∉ key.text.toList := (isWord_local key).not_mem (by decide)
  have hitem : '.' ∉ item.text.toList := (isWord_local item).not_mem (by decide)
  rw [hline,fieldsRead_over hp (by simp [hkey,hitem])]

end Lines

/-- The lines that write a value read the field that holds it, and no other one. -/
theorem mem_namesRead_writer {kind : Kind} {p : Place} {depth : ℕ} {w : Writer}
    (h : writer kind p depth = .ok w) (hp : p.Named) (name : String) :
    name ∈ namesRead w.lines ↔ name ∈ p.fields := by
  have hone : ∀ line : String, namesRead [line] = fieldsRead line.toList :=
    fun line => List.append_nil _
  have hclose : namesRead ["\x7d"] = [] := by decide
  induction kind generalizing p depth w with
  | integer _ _ | float _ | bool | string | bytes =>
    cases h
    rw [Writer.lines,hone]
    rw [fieldsRead_primitive hp _ (by simp [Primitive.isCopied])]
  | enum _ =>
    cases h
    rw [Writer.lines,hone,fieldsRead_enum hp]
  | message _ =>
    cases h
    rw [Writer.lines,hone,fieldsRead_message hp]
  | repeated element ih =>
    obtain ⟨wire,-,h⟩ := bind_eq_ok.mp h
    obtain ⟨body,hbody,h⟩ := bind_eq_ok.mp h
    cases h
    have hinner := ih hbody trivial
    rw [Writer.lines,namesRead_append,namesRead_append,namesRead_indent,namesRead,
      List.flatMap_cons,List.flatMap_cons,fieldsRead_array hp,fieldsRead_loop hp,hclose]
    simp [hinner,Place.fields]
  | map key value ihKey ihValue =>
    obtain ⟨keyWire,-,h⟩ := bind_eq_ok.mp h
    obtain ⟨valueWire,-,h⟩ := bind_eq_ok.mp h
    obtain ⟨keyBody,hkeyBody,h⟩ := bind_eq_ok.mp h
    obtain ⟨valueBody,hvalueBody,h⟩ := bind_eq_ok.mp h
    cases h
    have hkey := ihKey hkeyBody trivial
    have hvalue := ihValue hvalueBody trivial
    rw [Writer.lines,namesRead_append,namesRead_append,namesRead_append,namesRead_indent,
      namesRead_indent,namesRead,List.flatMap_cons,List.flatMap_cons,fieldsRead_map hp,
      fieldsRead_entries hp,hclose]
    simp [hkey,hvalue,Place.fields]
  | oneof _ _ _ => cases h

/-- The characters that lines of writers begin with. -/
def writerHeads : List Char := ['e','f','\x7d']

theorem newline_not_mem_argument {p : Place} (hplace : '\n' ∉ p.text.toList) {argument : String}
    (ha : argument = p.value ∨ argument = p.borrowed) : '\n' ∉ argument.toList := by
  rcases ha with rfl | rfl
  · rw [Place.value]
    split <;> simp [hplace]
  · rw [Place.borrowed]
    split <;> simp [hplace]

theorem newline_not_mem_kind (kind : WireKind) : '\n' ∉ kind.text.toList :=
  not_mem_kindText (by decide) (by decide) kind

theorem newline_not_mem_local (v : Local) : '\n' ∉ v.text.toList :=
  (isWord_local v).not_mem (by decide)

theorem newline_not_mem_suffix (type : Primitive) : '\n' ∉ type.suffix.toList :=
  (isWord_suffix type).not_mem (by decide)

theorem begins_close {heads : List Char} (h : '\x7d' ∈ heads) : Begins heads "\x7d" :=
  begins_of_head (by decide) rfl h (by decide)

theorem begins_writer {kind : Kind} {p : Place} {depth : ℕ} {w : Writer}
    (h : writer kind p depth = .ok w) (hplace : '\n' ∉ p.text.toList) :
    ∀ line ∈ w.lines, Begins writerHeads line := by
  have hcall : ∀ line : String, '\n' ∉ line.toList → line.toList.head? = some 'e' →
      Begins writerHeads line := fun line hline hhead =>
    begins_of_head hline hhead (by decide) (by decide)
  have hloop : ∀ line : String, '\n' ∉ line.toList → line.toList.head? = some 'f' →
      Begins writerHeads line := fun line hline hhead =>
    begins_of_head hline hhead (by decide) (by decide)
  induction kind generalizing p depth w with
  | integer _ _ | float _ | bool | string | bytes =>
    cases h
    have harg := newline_not_mem_argument hplace (.inl rfl)
    have hborrowed := newline_not_mem_argument hplace (.inr rfl)
    rw [Writer.lines,List.forall_mem_singleton]
    exact hcall _ (by simp [Primitive.isCopied,harg,hborrowed,newline_not_mem_suffix]) (by simp)
  | enum _ =>
    cases h
    have harg := newline_not_mem_argument hplace (.inl rfl)
    rw [Writer.lines,List.forall_mem_singleton]
    exact hcall _ (by simp [harg,newline_not_mem_suffix]) (by simp)
  | message _ =>
    cases h
    rw [Writer.lines,List.forall_mem_singleton]
    exact hcall _ (by simp [hplace]) (by simp)
  | repeated element ih =>
    obtain ⟨wire,-,h⟩ := bind_eq_ok.mp h
    obtain ⟨body,hbody,h⟩ := bind_eq_ok.mp h
    cases h
    have hinner := ih hbody (newline_not_mem_local _)
    rw [Writer.lines,List.forall_mem_append,List.forall_mem_append,List.forall_mem_cons,
      List.forall_mem_singleton,List.forall_mem_singleton]
    refine ⟨⟨⟨hcall _ ?_ (by simp),hloop _ ?_ (by simp)⟩,begins_indent hinner⟩,
      begins_close (by decide)⟩
    · simp [hplace,newline_not_mem_kind]
    · simp [hplace,newline_not_mem_local]
  | map key value ihKey ihValue =>
    obtain ⟨keyWire,-,h⟩ := bind_eq_ok.mp h
    obtain ⟨valueWire,-,h⟩ := bind_eq_ok.mp h
    obtain ⟨keyBody,hkeyBody,h⟩ := bind_eq_ok.mp h
    obtain ⟨valueBody,hvalueBody,h⟩ := bind_eq_ok.mp h
    cases h
    have hkey := ihKey hkeyBody (newline_not_mem_local _)
    have hvalue := ihValue hvalueBody (newline_not_mem_local _)
    rw [Writer.lines,List.forall_mem_append,List.forall_mem_append,List.forall_mem_append,
      List.forall_mem_cons,List.forall_mem_singleton,List.forall_mem_singleton]
    refine ⟨⟨⟨⟨hcall _ ?_ (by simp),hloop _ ?_ (by simp)⟩,begins_indent hkey⟩,
      begins_indent hvalue⟩,begins_close (by decide)⟩
    · simp [hplace,newline_not_mem_kind]
    · simp [hplace,newline_not_mem_local]
  | oneof _ _ _ => cases h

/-! ## Lines that read -/

/-- The characters that the lines of a reader begin with, the last of them apart. -/
def readerHeads : List Char := ['l','f','\x7d','a','m']

section Values
variable {files : List SchemaFile} {value : String}
  (h : HandedOn (TypeIndex.ofFiles files) value)
include h

/-- A value that is handed on is an expression in one line that no bracket ends. -/
theorem handedOn_plain : '\n' ∉ value.toList ∧ value.toList.getLast? ≠ some ')' := by
  have hword : ∀ {name : String} {type : TypeUse},
      typeUse (TypeIndex.ofFiles files) name = .ok type → '\n' ∉ type.identifier.toList :=
    fun ht hmem => (isWordChar_typeUse ht _ hmem).ne (by decide) rfl
  cases h with
  | primitive type =>
    exact ⟨by simp [newline_not_mem_suffix],by simp [List.getLast?_cons]⟩
  | enum h =>
    exact ⟨by simp [hword h,newline_not_mem_suffix],by simp [List.getLast?_cons]⟩
  | message h =>
    exact ⟨by simp [hword h],by simp⟩
  | «local» v =>
    refine ⟨newline_not_mem_local v,fun hlast => ?_⟩
    exact (isWord_local v).not_mem (by decide) (List.mem_of_getLast? hlast)

end Values

/-- What becomes of a value inside of a container. -/
inductive Sink.Inner : Sink → Prop where
  | bind (v : Local) : Inner (.bind v)
  | push (depth : ℕ) : Inner (.push (.array depth))
  | insert (depth : ℕ) (key : Local) : Inner (.insert (.map depth) key)

theorem Sink.Inner.begins {sink : Sink} (hsink : sink.Inner) {files : List SchemaFile}
    {value : String} (h : HandedOn (TypeIndex.ofFiles files) value) :
    Begins readerHeads (sink.line value) := by
  have hvalue := (handedOn_plain h).1
  cases hsink with
  | bind v =>
    refine begins_of_head (c := 'l') ?_ (by simp [Sink.line]) (by decide) (by decide)
    simp [Sink.line,hvalue,newline_not_mem_local]
  | push depth =>
    refine begins_of_head (c := 'a') ?_ (by simp [Sink.line,Local.text]) (by decide) (by decide)
    simp [Sink.line,hvalue,newline_not_mem_local]
  | insert depth key =>
    refine begins_of_head (c := 'm') ?_ (by simp [Sink.line,Local.text]) (by decide) (by decide)
    simp [Sink.line,hvalue,newline_not_mem_local]

/-- Lines that hand a value on in the last of them, and assign nothing before. -/
def HandOn (files : List SchemaFile) (sink : Sink) (lines : List String) : Prop :=
  ∃ front value, lines = front ++ [sink.line value] ∧
    HandedOn (TypeIndex.ofFiles files) value ∧ ∀ line ∈ front, Begins readerHeads line

theorem HandOn.begins {files : List SchemaFile} {sink : Sink} {lines : List String}
    (h : HandOn files sink lines) (hsink : sink.Inner) :
    ∀ line ∈ indent 1 lines, Begins readerHeads line := by
  obtain ⟨front,value,rfl,hvalue,hfront⟩ := h
  refine begins_indent (List.forall_mem_append.mpr ⟨hfront,?_⟩)
  exact List.forall_mem_singleton.mpr (hsink.begins hvalue)

theorem handOn_reader {files : List SchemaFile} {kind : Kind} {sink : Sink} {depth : ℕ} {r : Reader}
    (h : reader (TypeIndex.ofFiles files) kind sink depth = .ok r) : HandOn files sink r.lines := by
  have hlet : ∀ line : String, '\n' ∉ line.toList → line.toList.head? = some 'l' →
      Begins readerHeads line := fun line hline hhead =>
    begins_of_head hline hhead (by decide) (by decide)
  have hloop : ∀ size : Local, Begins readerHeads ("for _ in 0.." ++ size.text ++ " \x7b") := by
    intro size
    refine begins_of_head (c := 'f') ?_ (by simp) (by decide) (by decide)
    simp [newline_not_mem_local]
  have hclose : Begins readerHeads "\x7d" := begins_close (by decide)
  induction kind generalizing sink depth r with
  | integer _ _ | float _ | bool | string | bytes =>
    cases h
    exact ⟨[],_,rfl,.primitive _,by simp⟩
  | enum name =>
    obtain ⟨type,htype,h⟩ := bind_eq_ok.mp h
    cases h
    exact ⟨[],_,rfl,.enum htype,by simp⟩
  | message name =>
    obtain ⟨type,htype,h⟩ := bind_eq_ok.mp h
    cases h
    exact ⟨[],_,rfl,.message htype,by simp⟩
  | repeated element ih =>
    obtain ⟨wire,-,h⟩ := bind_eq_ok.mp h
    obtain ⟨body,hbody,h⟩ := bind_eq_ok.mp h
    cases h
    refine ⟨_,(Local.array depth).text,List.append_cons ..,.local _,?_⟩
    simp only [List.forall_mem_append,List.forall_mem_cons,List.not_mem_nil,false_implies,
      implies_true,and_true]
    refine ⟨⟨⟨hlet _ ?_ (by simp),hlet _ ?_ (by simp),hloop _⟩,
      (ih hbody).begins (.push depth)⟩,hclose⟩
    · simp [newline_not_mem_local,newline_not_mem_kind]
    · simp [newline_not_mem_local]
  | map key value ihKey ihValue =>
    obtain ⟨keyWire,-,h⟩ := bind_eq_ok.mp h
    obtain ⟨valueWire,-,h⟩ := bind_eq_ok.mp h
    obtain ⟨keyBody,hkeyBody,h⟩ := bind_eq_ok.mp h
    obtain ⟨valueBody,hvalueBody,h⟩ := bind_eq_ok.mp h
    cases h
    refine ⟨_,(Local.map depth).text,List.append_cons ..,.local _,?_⟩
    simp only [List.forall_mem_append,List.forall_mem_cons,List.not_mem_nil,false_implies,
      implies_true,and_true]
    refine ⟨⟨⟨⟨hlet _ ?_ (by simp),hlet _ ?_ (by simp),hloop _⟩,
      (ihKey hkeyBody).begins (.bind _)⟩,(ihValue hvalueBody).begins (.insert depth _)⟩,hclose⟩
    · simp [newline_not_mem_local,newline_not_mem_kind]
    · simp [newline_not_mem_local]
  | oneof _ _ _ => cases h

end SchemaCodec.Codec
