import SchemaCodec.Proofs.Codec.DecodedLines
import SchemaCodec.Proofs.Schema.Names

/-! # What lines of methods mention

Which fields of the struct a line of an encode method reads, which one a line of a decode method
assigns and what it assigns, and the arms for members of oneofs in the lines of either method. All of
it is read off the text of the lines.
-/
namespace SchemaCodec

/-- The one text stands in the other. -/
def Occurs (part text : String) : Prop := part.toList <:+: text.toList

instance (part text : String) : Decidable (Occurs part text) :=
  inferInstanceAs (Decidable (_ <:+: _))

namespace Codec

/-- A character of an identifier; a raw identifier holds a hash besides. -/
def isIdentifierChar (c : Char) : Bool := c.isAlphanum || c == '_' || c == '#'

/-- The accesses `object.member` in a text. `word` is the identifier that ends where the text begins,
spelled backwards. -/
def accesses (word : List Char) : List Char → List (List Char × List Char)
  | [] => []
  | c :: rest =>
    if c = '.' then (word.reverse,rest.takeWhile isIdentifierChar) :: accesses [] rest
    else accesses (if isIdentifierChar c then c :: word else []) rest

/-- The names that a text reads behind `self.`. -/
def fieldsRead (text : List Char) : List String :=
  (accesses [] text).filterMap fun access =>
    if access.1 = "self".toList then some (String.ofList access.2) else none

/-- The names that some lines read behind `self.`. -/
def namesRead (lines : List String) : List String := lines.flatMap fun line => fieldsRead line.toList

/-- A line without the blanks that it begins with. -/
def unindented (line : String) : List Char := line.toList.dropWhile (· = ' ')

/-- A statement `x.field = value;`. -/
structure Assignment where
  field : String
  value : String
  deriving DecidableEq

def assignment? (line : String) : Option Assignment :=
  ((unindented line).dropPrefix? "x.".toList).bind fun text =>
    (between? "= " ";" (behind ' ' text)).map fun value =>
      ⟨String.ofList (upTo ' ' text),String.ofList value⟩

/-- The assignments to fields of the struct in some lines. -/
def assignments (lines : List String) : List Assignment := lines.filterMap assignment?

/-- Whether a text begins and ends with two others. -/
def isWrapped (before after text : String) : Bool :=
  before.toList.isPrefixOf text.toList && after.toList.isSuffixOf text.toList

/-- An arm for a member of a oneof: the struct's field of the oneof, the variant as a member of its
type, and the number that stands for it on the wire. -/
structure Arm where
  field : String
  owner : String
  variant : String
  number : String
  deriving DecidableEq

/-- The type and the variant in a path `owner::variant`. -/
def pathParts (path : List Char) : String × String :=
  (String.ofList (upTo ':' path),String.ofList ((behind ':' path).drop 1))

/-- The field that a match of an encode method stands on. -/
def matchedField? (line : String) : Option String :=
  (between? "match &self." " \x7b" (unindented line)).map String.ofList

/-- The variant that an arm of an encode method matches. -/
def matchedVariant? (line : String) : Option (String × String) :=
  (between? "Some(" "(v1)) => \x7b" (unindented line)).map pathParts

/-- The number that a line of an encode method writes. -/
def writtenNumber? (line : String) : Option String :=
  (between? "e = e.encode_u32(" ");" (unindented line)).map String.ofList

/-- What one item after the other gives to a reader that keeps a state. -/
def scan {σ α β : Type} (step : σ → β → σ × Option α) : σ → List β → List α
  | _,[] => []
  | s,b :: rest => (step s b).2.toList ++ scan step (step s b).1 rest

/-- What a line of an encode method says of the arms: it opens a match on a field, opens the arm of a
variant, or writes a number. -/
inductive WrittenLine where
  | field (name : String)
  | variant (path : String × String)
  | number (text : String)
  | other

def writtenLine (line : String) : WrittenLine :=
  ((matchedField? line).map WrittenLine.field <|> (matchedVariant? line).map WrittenLine.variant <|>
    (writtenNumber? line).map WrittenLine.number).getD .other

/-- The state is the field that the last match stands on, and the variant that was matched last, as
long as its number has not been written. -/
def writtenStep : String × Option (String × String) → WrittenLine →
    (String × Option (String × String)) × Option Arm
  | _,.field name => ((name,none),none)
  | (field,_),.variant path => ((field,some path),none)
  | (field,some (owner,variant)),.number text => ((field,none),some ⟨field,owner,variant,text⟩)
  | s,_ => (s,none)

/-- The arms in the lines of an encode method. -/
def writtenArms (field : String) (pending : Option (String × String)) (lines : List String) :
    List Arm :=
  scan writtenStep (field,pending) (lines.map writtenLine)

/-- The number that an arm of a decode method matches. -/
def matchedNumber? (line : String) : Option String :=
  ((between? "" " => \x7b" (unindented line)).filter
    (·.all fun c => c.isDigit || c == '-')).map String.ofList

/-- The variant that an assigned value constructs, with what it holds. -/
def constructed? (value : String) : Option ((String × String) × String) :=
  (between? "Some(" "))" value.toList).map fun call =>
    (pathParts (upTo '(' call),String.ofList (behind '(' call))

/-- What a line of a decode method says of the arms: it opens the arm of a number, or assigns a
variant with what it holds to a field. -/
inductive ReadLine where
  | number (text : String)
  | variant (field : String) (path : String × String) (payload : String)
  | other

def readLine (line : String) : ReadLine :=
  ((matchedNumber? line).map ReadLine.number <|> (assignment? line).bind fun a =>
    (constructed? a.value).map fun c => ReadLine.variant a.field c.1 c.2).getD .other

/-- The state is the number that was matched last, as long as no variant has been constructed for
it. -/
def readStep : Option String → ReadLine → Option String × Option (Arm × String)
  | _,.number text => (some text,none)
  | some number,.variant field path payload => (none,some (⟨field,path.1,path.2,number⟩,payload))
  | s,_ => (s,none)

/-- The arms in the lines of a decode method, each with what its variant holds. -/
def readArms (pending : Option String) (lines : List String) : List (Arm × String) :=
  scan readStep pending (lines.map readLine)

/-! ## Fields that are read -/

section Accesses

/-- The identifier that ends where a text ends, spelled backwards. -/
def wordAfter (word text : List Char) : List Char :=
  text.foldl (fun word c => if isIdentifierChar c then c :: word else []) word

theorem accesses_append {text : List Char} (h : '.' ∉ text) (word rest : List Char) :
    accesses word (text ++ rest) = accesses (wordAfter word text) rest := by
  induction text generalizing word with
  | nil => rfl
  | cons c cs ih =>
    obtain ⟨hc,hcs⟩ := not_or.mp (mt List.mem_cons.mpr h)
    rw [List.cons_append,accesses,if_neg (Ne.symm hc),ih hcs]
    rfl

theorem wordAfter_identifier {name : List Char} (h : ∀ c ∈ name, isIdentifierChar c = true)
    (word : List Char) : wordAfter word name = name.reverse ++ word := by
  induction name generalizing word with
  | nil => rfl
  | cons c cs ih =>
    rw [wordAfter,List.foldl_cons,if_pos (h c List.mem_cons_self),← wordAfter,
      ih fun d hd => h d (List.mem_cons_of_mem c hd)]
    simp

theorem fieldsRead_of_dotless {text : List Char} (h : '.' ∉ text) : fieldsRead text = [] := by
  have hnone := accesses_append h [] []
  rw [List.append_nil] at hnone
  rw [fieldsRead,hnone]
  rfl

/-- An object of another name reads no field of the struct. -/
theorem fieldsRead_dot {text : List Char} (h : '.' ∉ text)
    (hself : wordAfter [] text ≠ "self".toList.reverse) (rest : List Char) :
    fieldsRead (text ++ '.' :: rest) = fieldsRead rest := by
  have hne : (wordAfter [] text).reverse ≠ "self".toList :=
    fun he => hself (by rw [← he,List.reverse_reverse])
  rw [fieldsRead,accesses_append h,accesses,if_pos rfl,List.filterMap_cons,if_neg hne]
  rfl

/-- Where no identifier goes on, what came before does not matter. -/
theorem fieldsRead_break {text : List Char} (h : '.' ∉ text) {c : Char}
    (hc : isIdentifierChar c = false) (hdot : c ≠ '.') (rest : List Char) :
    fieldsRead (text ++ c :: rest) = fieldsRead rest := by
  rw [fieldsRead,accesses_append h,accesses,if_neg hdot,hc]
  rfl

/-- A name behind `self.` is read, unless more of it follows. -/
theorem fieldsRead_self {name rest : List Char} (hname : ∀ c ∈ name, isIdentifierChar c = true)
    (hself : name ≠ "self".toList) {c : Char} (hc : isIdentifierChar c = false) :
    fieldsRead ("self.".toList ++ (name ++ c :: rest)) =
      String.ofList name :: fieldsRead (c :: rest) := by
  have hdot : '.' ∉ name := fun hmem => absurd (hname _ hmem) (by decide)
  have hopen : "self.".toList ++ (name ++ c :: rest) = "self".toList ++ '.' :: (name ++ c :: rest) :=
    rfl
  have htake : (name ++ c :: rest).takeWhile isIdentifierChar = name := by
    rw [List.takeWhile_append_of_pos hname]
    simp [hc]
  have hrest : (accesses [] (name ++ c :: rest)).filterMap (fun access =>
      if access.1 = "self".toList then some (String.ofList access.2) else none) =
      fieldsRead (c :: rest) := by
    by_cases hcd : c = '.'
    · subst hcd
      rw [← fieldsRead,fieldsRead_dot hdot _ rest]
      · exact (fieldsRead_dot List.not_mem_nil (by decide) rest).symm
      · rw [wordAfter_identifier hname,List.append_nil]
        exact fun he => hself (List.reverse_injective he)
    · rw [← fieldsRead,fieldsRead_break hdot hc hcd]
      exact (fieldsRead_break List.not_mem_nil hc hcd rest).symm
  rw [hopen,fieldsRead,accesses_append (by decide),accesses,if_pos rfl,List.filterMap_cons,htake,
    hrest]
  rfl

end Accesses

/-! ## Lines and their first characters -/

/-- A line without a line feed that begins, behind its blanks, with one of some characters. -/
def Begins (heads : List Char) (line : String) : Prop :=
  '\n' ∉ line.toList ∧ ∃ c ∈ heads, (unindented line).head? = some c

theorem unindented_indentation (level : ℕ) (line : String) :
    unindented (indentation level ++ line) = unindented line := by
  rw [unindented,unindented,String.toList_append,toList_indentation,dropWhile_replicate_append]

theorem unindented_of_head {line : String} {c : Char} (h : line.toList.head? = some c)
    (hc : c ≠ ' ') : unindented line = line.toList := by
  obtain ⟨rest,hrest⟩ := List.head?_eq_some_iff.mp h
  rw [unindented,hrest]
  simp [hc]

/-- What is read behind the blanks of a line is read from the line moved right. -/
theorem map_indent {α : Type} {f : String → α}
    (h : ∀ a b, unindented a = unindented b → f a = f b) (level : ℕ) (lines : List String) :
    (indent level lines).map f = lines.map f := by
  rw [indent,List.map_map]
  refine List.map_congr_left fun line _ => ?_
  rw [Function.comp_apply]
  split
  · rfl
  · exact h _ _ (unindented_indentation level line)

theorem fieldsRead_indentation (level : ℕ) (line : String) :
    fieldsRead (indentation level ++ line).toList = fieldsRead line.toList := by
  have hblanks : ∀ n, wordAfter [] (List.replicate n ' ') = [] := by
    intro n
    induction n with
    | zero => rfl
    | succ n ih => exact ih
  have hdot : '.' ∉ List.replicate (4 * level) ' ' :=
    fun hmem => absurd (List.eq_of_mem_replicate hmem) (by decide)
  rw [String.toList_append,toList_indentation,fieldsRead,accesses_append hdot,hblanks]
  rfl

theorem namesRead_indent (level : ℕ) (lines : List String) :
    namesRead (indent level lines) = namesRead lines := by
  rw [namesRead,namesRead,indent,List.flatMap_map]
  refine List.flatMap_congr fun line _ => ?_
  split
  · rfl
  · exact fieldsRead_indentation level line

theorem namesRead_cons (line : String) (rest : List String) :
    namesRead (line :: rest) = fieldsRead line.toList ++ namesRead rest := rfl

theorem namesRead_append (a b : List String) : namesRead (a ++ b) = namesRead a ++ namesRead b :=
  List.flatMap_append

theorem newline_not_mem_indent {level : ℕ} {lines : List String}
    (h : ∀ line ∈ lines, '\n' ∉ line.toList) :
    ∀ line ∈ indent level lines, '\n' ∉ line.toList := by
  intro line hline
  obtain ⟨l,hl,rfl⟩ := List.mem_map.mp hline
  split
  · exact h l hl
  · rw [String.toList_append,toList_indentation]
    simpa using h l hl

theorem begins_indent {heads : List Char} {level : ℕ} {lines : List String}
    (h : ∀ line ∈ lines, Begins heads line) : ∀ line ∈ indent level lines, Begins heads line := by
  intro line hline
  refine ⟨newline_not_mem_indent (fun l hl => (h l hl).1) line hline,?_⟩
  obtain ⟨l,hl,rfl⟩ := List.mem_map.mp hline
  obtain ⟨c,hc,hhead⟩ := (h l hl).2
  refine ⟨c,hc,?_⟩
  split
  · exact hhead
  · rw [unindented_indentation,hhead]

theorem begins_of_head {heads : List Char} {c : Char} {line : String} (hline : '\n' ∉ line.toList)
    (h : line.toList.head? = some c) (hc : c ∈ heads) (hblank : c ≠ ' ') : Begins heads line := by
  obtain ⟨cs,hcs⟩ := List.head?_eq_some_iff.mp h
  refine ⟨hline,c,hc,?_⟩
  rw [unindented,hcs]
  simp [hblank]

theorem between?_eq_none {before after : String} {text : List Char} {c d : Char}
    (hc : before.toList.head? = some c) (hd : text.head? = some d) (h : d ≠ c) :
    between? before after text = none := by
  refine Option.eq_none_iff_forall_ne_some.mpr fun inner hinner => h ?_
  obtain ⟨cs,hcs⟩ := List.head?_eq_some_iff.mp hc
  rw [between?_eq_some.mp hinner,hcs] at hd
  exact (Option.some.inj hd).symm

theorem assignment?_eq_none {line : String} {c : Char} (hc : (unindented line).head? = some c)
    (h : c ≠ 'x') : assignment? line = none := by
  have hnone : (unindented line).dropPrefix? "x.".toList = none := by
    refine Option.eq_none_iff_forall_ne_some.mpr fun rest hrest => h ?_
    obtain ⟨p,hp,he⟩ := List.dropPrefix?_eq_some_iff.mp hrest
    rw [hp,eq_of_beq he] at hc
    exact (Option.some.inj hc).symm
  rw [assignment?,hnone]
  rfl

theorem assignments_eq_nil {heads : List Char} (hx : 'x' ∉ heads) {lines : List String}
    (h : ∀ line ∈ lines, Begins heads line) : assignments lines = [] := by
  refine List.filterMap_eq_nil_iff.mpr fun line hline => ?_
  obtain ⟨-,c,hc,hhead⟩ := h line hline
  exact assignment?_eq_none hhead fun he => hx (he ▸ hc)

theorem assignments_append (a b : List String) :
    assignments (a ++ b) = assignments a ++ assignments b :=
  List.filterMap_append

theorem assignments_indent (level : ℕ) (lines : List String) :
    assignments (indent level lines) = assignments lines := by
  have hmap := map_indent (f := assignment?) (fun a b h => by rw [assignment?,assignment?,h])
    level lines
  have hkept := congrArg (List.filterMap id) hmap
  simpa [assignments,List.filterMap_map] using hkept

theorem assignment?_eq {field value : String} (h : ' ' ∉ field.toList) :
    assignment? ("x." ++ field ++ " = " ++ value ++ ";") = some ⟨field,value⟩ := by
  have htext : unindented ("x." ++ field ++ " = " ++ value ++ ";") =
      "x.".toList ++ (field.toList ++ ' ' :: ("= ".toList ++ (value.toList ++ ";".toList))) := by
    simp [unindented]
  have hdrop : (unindented ("x." ++ field ++ " = " ++ value ++ ";")).dropPrefix? "x.".toList =
      some (field.toList ++ ' ' :: ("= ".toList ++ (value.toList ++ ";".toList))) :=
    List.dropPrefix?_eq_some_iff.mpr ⟨_,htext,by simp⟩
  rw [assignment?,hdrop,Option.bind_some,upTo_append h,behind_append h,between?_eq_some.mpr rfl]
  simp

/-! ## Arms -/

section Scan
variable {σ α β : Type} {step : σ → β → σ × Option α} {s : σ}

theorem scan_cons (step : σ → β → σ × Option α) (s : σ) (b : β) (rest : List β) :
    scan step s (b :: rest) = (step s b).2.toList ++ scan step (step s b).1 rest := rfl

/-- Items that give nothing and keep the state can be left out. -/
theorem scan_append {items : List β} (h : ∀ b ∈ items, step s b = (s,none)) (rest : List β) :
    scan step s (items ++ rest) = scan step s rest := by
  induction items with
  | nil => rfl
  | cons b more ih =>
    obtain ⟨hb,hmore⟩ := List.forall_mem_cons.mp h
    rw [List.cons_append,scan_cons,hb,ih hmore]
    rfl

end Scan

section Written
variable {field : String} {pending : Option (String × String)} {line : String} {rest : List String}

theorem writtenLine_field {name : String} (h : matchedField? line = some name) :
    writtenLine line = .field name := by
  rw [writtenLine,h]
  rfl

theorem writtenLine_variant {path : String × String} (hfield : matchedField? line = none)
    (h : matchedVariant? line = some path) : writtenLine line = .variant path := by
  rw [writtenLine,hfield,h]
  rfl

theorem writtenLine_of_none (hfield : matchedField? line = none)
    (hvariant : matchedVariant? line = none) :
    writtenLine line = ((writtenNumber? line).map WrittenLine.number).getD .other := by
  rw [writtenLine,hfield,hvariant]
  rfl

theorem writtenArms_cons (line : String) (rest : List String) :
    writtenArms field pending (line :: rest) =
      (writtenStep (field,pending) (writtenLine line)).2.toList ++
        scan writtenStep (writtenStep (field,pending) (writtenLine line)).1 (rest.map writtenLine) :=
  rfl

theorem writtenArms_field {name : String} (h : matchedField? line = some name) :
    writtenArms field pending (line :: rest) = writtenArms name none rest := by
  rw [writtenArms_cons,writtenLine_field h]
  rfl

theorem writtenArms_variant {path : String × String} (hfield : matchedField? line = none)
    (h : matchedVariant? line = some path) :
    writtenArms field pending (line :: rest) = writtenArms field (some path) rest := by
  rw [writtenArms_cons,writtenLine_variant hfield h]
  rfl

theorem writtenArms_number {owner variant n : String} (hfield : matchedField? line = none)
    (hvariant : matchedVariant? line = none) (h : writtenNumber? line = some n) :
    writtenArms field (some (owner,variant)) (line :: rest) =
      ⟨field,owner,variant,n⟩ :: writtenArms field none rest := by
  rw [writtenArms_cons,writtenLine_of_none hfield hvariant,h]
  rfl

/-- Lines that neither open a match nor an arm hold no arm. -/
theorem writtenArms_append {lines : List String}
    (h : ∀ line ∈ lines, matchedField? line = none ∧ matchedVariant? line = none) :
    writtenArms field none (lines ++ rest) = writtenArms field none rest := by
  have hidle : ∀ item ∈ lines.map writtenLine, writtenStep (field,none) item = ((field,none),none) := by
    intro item hitem
    obtain ⟨line,hline,rfl⟩ := List.mem_map.mp hitem
    rw [writtenLine_of_none (h line hline).1 (h line hline).2]
    cases writtenNumber? line <;> rfl
  have hscan := scan_append hidle (rest.map writtenLine)
  rwa [← List.map_append] at hscan

theorem writtenArms_indent (level : ℕ) (lines : List String) :
    writtenArms field pending (indent level lines ++ rest) =
      writtenArms field pending (lines ++ rest) := by
  have hline : ∀ a b, unindented a = unindented b → writtenLine a = writtenLine b := by
    intro a b h
    rw [writtenLine,writtenLine,matchedField?,matchedField?,matchedVariant?,matchedVariant?,
      writtenNumber?,writtenNumber?,h]
  rw [writtenArms,writtenArms,List.map_append,List.map_append,map_indent hline]

end Written

section Read
variable {number : Option String} {line : String} {rest : List String}

theorem readLine_number {n : String} (h : matchedNumber? line = some n) :
    readLine line = .number n := by
  rw [readLine,h]
  rfl

theorem readLine_of_none (h : matchedNumber? line = none) :
    readLine line = ((assignment? line).bind fun a =>
      (constructed? a.value).map fun c => ReadLine.variant a.field c.1 c.2).getD .other := by
  rw [readLine,h]
  rfl

theorem readArms_cons (line : String) (rest : List String) :
    readArms number (line :: rest) = (readStep number (readLine line)).2.toList ++
      scan readStep (readStep number (readLine line)).1 (rest.map readLine) := rfl

theorem readArms_number {n : String} (h : matchedNumber? line = some n) :
    readArms number (line :: rest) = readArms (some n) rest := by
  rw [readArms_cons,readLine_number h]
  rfl

theorem readArms_variant {n f value owner variant payload : String}
    (hnumber : matchedNumber? line = none) (hvalue : assignment? line = some ⟨f,value⟩)
    (h : constructed? value = some ((owner,variant),payload)) :
    readArms (some n) (line :: rest) = (⟨f,owner,variant,n⟩,payload) :: readArms none rest := by
  rw [readArms_cons,readLine_of_none hnumber,hvalue,Option.bind_some,h]
  rfl

/-- Where no number is matched, no arm is read. -/
theorem readArms_append_idle {lines : List String} (h : ∀ line ∈ lines, matchedNumber? line = none) :
    readArms none (lines ++ rest) = readArms none rest := by
  have hidle : ∀ item ∈ lines.map readLine, readStep none item = (none,none) := by
    intro item hitem
    obtain ⟨line,hline,rfl⟩ := List.mem_map.mp hitem
    rw [readLine_of_none (h line hline)]
    cases assignment? line with
    | none => rfl
    | some a =>
      rw [Option.bind_some]
      cases constructed? a.value <;> rfl
  have hscan := scan_append hidle (rest.map readLine)
  rwa [← List.map_append] at hscan

theorem readArms_idle (hnumber : matchedNumber? line = none) :
    readArms none (line :: rest) = readArms none rest := by
  rw [← List.singleton_append]
  exact readArms_append_idle (List.forall_mem_singleton.mpr hnumber)

/-- Lines that match no number and assign nothing hold no arm. -/
theorem readArms_append_other {lines : List String}
    (h : ∀ line ∈ lines, matchedNumber? line = none ∧ assignment? line = none) :
    readArms number (lines ++ rest) = readArms number rest := by
  have hidle : ∀ item ∈ lines.map readLine, readStep number item = (number,none) := by
    intro item hitem
    obtain ⟨line,hline,rfl⟩ := List.mem_map.mp hitem
    rw [readLine_of_none (h line hline).1,(h line hline).2]
    cases number <;> rfl
  have hscan := scan_append hidle (rest.map readLine)
  rwa [← List.map_append] at hscan

theorem readArms_indent (level : ℕ) (lines : List String) :
    readArms number (indent level lines ++ rest) = readArms number (lines ++ rest) := by
  have hline : ∀ a b, unindented a = unindented b → readLine a = readLine b := by
    intro a b h
    rw [readLine,readLine,matchedNumber?,matchedNumber?,assignment?,assignment?,h]
  rw [readArms,readArms,List.map_append,List.map_append,map_indent hline]

end Read

end Codec
end SchemaCodec
