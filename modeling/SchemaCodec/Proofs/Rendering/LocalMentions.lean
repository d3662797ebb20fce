import SchemaCodec.Proofs.Rendering.TypeMentions

/-! # Local variables that generated code mentions

A numbered local variable is mentioned by a word of the text. Members behind a dot and names in a path
can be spelled in the same way but are no variables. A line that begins a loop or an arm or that
declares a variable binds some of the variables that it mentions.
-/
namespace SchemaCodec.Codec

/-! ## Words for local variables -/

/-- The variables that a letter stands for. -/
def numbered? : Char → Option (ℕ → Local)
  | 'v' => some .item
  | 'k' => some .key
  | 'n' => some .size
  | 'a' => some .array
  | 'm' => some .map
  | _ => none

/-- The local variable that a word spells. -/
def localOf? : List Char → Option Local
  | [] => none
  | letter :: digits => (numbered? letter).bind fun numbered =>
    if digits.all Char.isDigit = true ∧ Nat.toDigits 10 (Nat.ofDigitChars 10 digits 0) = digits then
      some (numbered (Nat.ofDigitChars 10 digits 0))
    else none

/-- What a word stands behind: a dot makes it a member, two dots a bound of a range, and two colons a
part of a path. -/
inductive Lead where
  | free
  | dot
  | colon
  | path
  deriving DecidableEq

def Lead.next (lead : Lead) (c : Char) : Lead :=
  if c = '.' then if lead = .dot then .free else .dot
  else if c = ':' then if lead = .colon then .path else .colon
  else .free

/-- The variable that a word mentions where it stands; the word is spelled backwards. -/
def mentioned (lead : Lead) (word : List Char) : List Local :=
  match localOf? word.reverse with
  | some v => if lead = .dot ∨ lead = .path then [] else [v]
  | none => []

/-- The variables that a text mentions; `word` is what stands before it of its first word, spelled
backwards. A word before two colons is part of a path. -/
def localsFrom (lead : Lead) (word : List Char) : List Char → List Local
  | [] => mentioned lead word
  | c :: rest =>
    if isNamePart c then localsFrom lead (c :: word) rest
    else (if c = ':' ∧ rest.head? = some ':' then [] else mentioned lead word) ++
      localsFrom ((if word = [] then lead else .free).next c) [] rest

def locals (text : List Char) : List Local := localsFrom .free [] text

theorem localOf?_text (v : Local) : localOf? v.text.toList = some v := by
  have hdigits : ∀ n : ℕ, (Nat.toDigits 10 n).all Char.isDigit = true :=
    fun n => List.all_eq_true.mpr fun _ => isDigit_of_mem
  cases v with
  | item n | key n | size n | array n | map n =>
    rw [Local.text,String.toList_append,toList_toString]
    simp [localOf?,numbered?,hdigits,Nat.ofDigitChars_ten_toDigits]

/-- A character that ends a word and makes neither a member nor a path of what follows it. -/
def isGap (c : Char) : Bool := !isNamePart c && c != '.' && c != ':'

section Gap
variable {c : Char} (hc : isGap c = true)
include hc

theorem next_of_isGap (lead : Lead) : lead.next c = .free := by
  simp only [isGap,Bool.and_eq_true,bne_iff_ne] at hc
  rw [Lead.next,if_neg hc.1.2,if_neg hc.2]

theorem localsFrom_gap (lead : Lead) (word rest : List Char) :
    localsFrom lead word (c :: rest) = mentioned lead word ++ locals rest := by
  have hnext := next_of_isGap hc
  simp only [isGap,Bool.and_eq_true,bne_iff_ne,Bool.not_eq_true'] at hc
  rw [localsFrom,if_neg (by simp [hc.1.1]),if_neg (by simp [hc.2]),hnext,locals]

/-- What stands before a gap and what stands behind it mention their variables by themselves. -/
theorem localsFrom_append_gap (lead : Lead) (word a b : List Char) :
    localsFrom lead word (a ++ c :: b) = localsFrom lead word a ++ locals b := by
  have hcolon : c ≠ ':' := by
    simp only [isGap,Bool.and_eq_true,bne_iff_ne] at hc
    exact hc.2
  induction a generalizing lead word with
  | nil => exact localsFrom_gap hc lead word b
  | cons d a ih =>
    have hhead : (a ++ c :: b).head? = some ':' ↔ a.head? = some ':' := by
      cases a <;> simp [hcolon]
    simp only [List.cons_append,localsFrom,hhead,ih]
    split
    · rfl
    · rw [List.append_assoc]

theorem locals_append_gap (a b : List Char) : locals (a ++ c :: b) = locals a ++ locals b :=
  localsFrom_append_gap hc .free [] a b

end Gap

theorem locals_append_of_last {a b : List Char} (h : a.getLast?.any isGap = true) :
    locals (a ++ b) = locals a ++ locals b := by
  cases hlast : a.getLast? with
  | none => simp [hlast] at h
  | some c =>
    have hc : isGap c = true := by simpa [hlast] using h
    obtain ⟨front,rfl⟩ := List.getLast?_eq_some_iff.mp hlast
    have hgap := locals_append_gap hc front []
    have hnone : locals [] = [] := rfl
    rw [List.append_assoc,List.singleton_append,locals_append_gap hc,hgap,hnone,List.append_nil]

theorem locals_append_of_head {a b : List Char} (h : b.head?.any isGap = true) :
    locals (a ++ b) = locals a ++ locals b := by
  cases b with
  | nil => cases h
  | cons c b =>
    have hgap := locals_append_gap (c := c) (by simpa using h) [] b
    rw [locals_append_gap (by simpa using h)]
    exact congrArg _ hgap.symm

/-! ## Members and paths -/

theorem localsFrom_word {word : List Char} (h : ∀ c ∈ word, isNamePart c = true) (lead : Lead)
    (before rest : List Char) :
    localsFrom lead before (word ++ rest) = localsFrom lead (word.reverse ++ before) rest := by
  induction word generalizing before with
  | nil => rfl
  | cons c word ih =>
    obtain ⟨hc,hword⟩ := List.forall_mem_cons.mp h
    rw [List.cons_append,localsFrom,if_pos hc,ih hword]
    simp

/-- A member and a name in a path mention no variable. -/
theorem mentioned_eq_nil {lead : Lead} (h : lead = .dot ∨ lead = .path) (word : List Char) :
    mentioned lead word = [] := by
  rw [mentioned]
  split
  · exact if_pos h
  · rfl

/-- Behind a dot what was mentioned before it counts no more, except for a second dot. -/
theorem localsFrom_append_dot (lead : Lead) (word a : List Char) : ∃ after, ∀ b,
    localsFrom lead word (a ++ '.' :: b) = localsFrom lead word a ++ localsFrom after [] b := by
  induction a generalizing lead word with
  | nil => exact ⟨_,fun b => rfl⟩
  | cons d a ih =>
    have hhead : ∀ b : List Char, (a ++ '.' :: b).head? = some ':' ↔ a.head? = some ':' := by
      intro b
      cases a <;> simp
    simp only [List.cons_append,localsFrom,hhead]
    split
    · exact ih lead (d :: word)
    · obtain ⟨after,hafter⟩ := ih ((if word = [] then lead else .free).next d) []
      exact ⟨after,fun b => by rw [hafter,List.append_assoc]⟩

theorem mentioned_of_none {lead : Lead} {word : List Char} (h : localOf? word.reverse = none) :
    mentioned lead word = [] := by
  rw [mentioned,h]

/-- A call of a method mentions what stands before it and what stands behind its name. -/
theorem locals_append_member {member : List Char} (hparts : ∀ c ∈ member, isNamePart c = true)
    (hmember : localOf? member = none) (a b : List Char) :
    locals (a ++ '.' :: (member ++ '(' :: b)) = locals a ++ locals b := by
  obtain ⟨after,hafter⟩ := localsFrom_append_dot .free [] a
  rw [locals,hafter,localsFrom_word hparts,localsFrom_gap (by decide),
    mentioned_of_none (by simpa using hmember)]
  rfl

theorem locals_path {word : List Char} (h : ∀ c ∈ word, isNamePart c = true) (rest : List Char) :
    locals (word ++ ':' :: ':' :: rest) = localsFrom .path [] rest := by
  have hcolon : isNamePart ':' = false := by decide
  have hempty : mentioned .colon [] = [] := rfl
  have hsecond : localsFrom .colon [] (':' :: rest) = localsFrom .path [] rest := by
    simp [localsFrom,hcolon,hempty,Lead.next]
  rw [locals,localsFrom_word h,localsFrom]
  simp [hcolon,hsecond,Lead.next]

/-- A member and the last name in a path mention no variable. -/
theorem localsFrom_bound {lead : Lead} (h : lead = .dot ∨ lead = .path) {word : List Char}
    (hword : ∀ c ∈ word, isNamePart c = true) (rest : List Char)
    (hrest : rest.head?.all isGap = true) : localsFrom lead [] (word ++ rest) = locals rest := by
  rw [localsFrom_word hword]
  cases rest with
  | nil => exact mentioned_eq_nil h _
  | cons c rest =>
    have hc : isGap c = true := by simpa using hrest
    have hfree := localsFrom_gap hc .free [] rest
    rw [localsFrom_gap hc,mentioned_eq_nil h]
    exact hfree.symm

theorem locals_text (v : Local) : locals v.text.toList = [v] := by
  have hword := localsFrom_word (isNamePart_of_isWord (isWord_local v)) .free [] []
  rw [List.append_nil] at hword
  rw [locals,hword,localsFrom,mentioned]
  simp [localOf?_text]

/-! ## Words of the runtime -/

theorem exists_kindText (kind : WireKind) :
    ∃ word : List Char, IsWord word ∧ kind.text.toList = "Kind::".toList ++ word := by
  cases kind with
  | integer bits signed =>
    refine ⟨(if signed then "I" else "U").toList ++ (toString bits).toList,?_,?_⟩
    · refine IsWord.append ?_ (isWord_toString bits)
      cases signed <;> exact isWord_of_all (by decide)
    · simp [WireKind.text]
  | float bits =>
    refine ⟨'F' :: (toString bits).toList,?_,by simp [WireKind.text]⟩
    have hletter : IsWord ['F'] := isWord_of_all (by decide)
    exact hletter.append (isWord_toString bits)
  | bool => exact ⟨"Bool".toList,isWord_of_all (by decide),rfl⟩
  | string => exact ⟨"String".toList,isWord_of_all (by decide),rfl⟩
  | bytes => exact ⟨"Bytes".toList,isWord_of_all (by decide),rfl⟩
  | any => exact ⟨"Any".toList,isWord_of_all (by decide),rfl⟩
  | array => exact ⟨"Array".toList,isWord_of_all (by decide),rfl⟩
  | map => exact ⟨"Map".toList,isWord_of_all (by decide),rfl⟩

theorem locals_kind (kind : WireKind) : locals kind.text.toList = [] := by
  obtain ⟨word,hword,htext⟩ := exists_kindText kind
  have hparts : "Kind".toList.all isNamePart = true := by decide
  have hpath := locals_path (List.all_eq_true.mp hparts) word
  have hbound := localsFrom_bound (.inr rfl) (isNamePart_of_isWord hword) [] rfl
  rw [List.append_nil] at hbound
  rw [htext]
  exact hpath.trans hbound

theorem locals_typeUse {files : List SchemaFile} {name : String} {type : TypeUse}
    (h : typeUse (TypeIndex.ofFiles files) name = .ok type) (rest : List Char) :
    locals (type.identifier.toList ++ ':' :: ':' :: rest) = localsFrom .path [] rest :=
  locals_path (fun c hc => isNamePart_of_isWordChar (isWordChar_typeUse h c hc)) rest

/-- The runtime's call for a type mentions no variable before its arguments. -/
theorem locals_call {front : List Char} {lead : Lead} {before : List Char}
    (hlead : lead = .dot ∨ lead = .path)
    (hfront : ∀ rest, localsFrom .free [] (front ++ rest) = localsFrom lead before rest)
    (type : Primitive) :
    locals (front ++ type.suffix.toList) = [] := by
  have hword := localsFrom_word (isNamePart_of_isWord (isWord_suffix type)) lead before []
  rw [List.append_nil] at hword
  rw [locals,hfront,hword,localsFrom,mentioned_eq_nil hlead]

end SchemaCodec.Codec
