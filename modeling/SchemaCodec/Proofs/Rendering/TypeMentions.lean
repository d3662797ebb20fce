import SchemaCodec.Proofs.Rendering.MethodLines

/-! # Types that generated code mentions

The types in a type are all the names in it. In other code a type is mentioned at the head of a
path, before two colons, as in `Color::Red` or `Vec::new()`. Names of fields and oneofs are written
as they are, so colons in them make no path.
-/
namespace SchemaCodec.Codec
open Text

/-- A character of a name in generated code. -/
def isNamePart (c : Char) : Bool := c.isAlphanum || c == '_' || decide (128 ≤ c.toNat)

/-- A character that neither a name nor a path goes on with. -/
def isBreak (c : Char) : Bool := !isNamePart c && c != ':'

/-- The name in a list, if it is not empty, spelled backwards. -/
def spelledBack (name : List Char) : List String :=
  if name = [] then [] else [String.ofList name.reverse]

/-- The names in a text; `name` is what stands before the text of its first one, backwards. -/
def namesFrom (name : List Char) : List Char → List String
  | [] => spelledBack name
  | c :: rest =>
    if isNamePart c then namesFrom (c :: name) rest else spelledBack name ++ namesFrom [] rest

/-- The names in a text: its longest runs of letters, digits and underscores. -/
def namesIn (text : String) : List String := namesFrom [] text.toList

/-- The name that a text ends in, empty if it ends in none. -/
def lastName (text : List Char) : String :=
  String.ofList (text.reverse.takeWhile isNamePart).reverse

/-! ## Names in types -/

theorem namesFrom_append_cons {c : Char} (hc : isNamePart c = false) (name a b : List Char) :
    namesFrom name (a ++ c :: b) = namesFrom name a ++ namesFrom [] b := by
  induction a generalizing name with
  | nil => simp [namesFrom,hc]
  | cons d a ih =>
    simp only [List.cons_append,namesFrom]
    split
    · exact ih (d :: name)
    · rw [ih,List.append_assoc]

theorem namesFrom_of_parts {text : List Char} (h : ∀ c ∈ text, isNamePart c = true)
    (name : List Char) : namesFrom name text = spelledBack (text.reverse ++ name) := by
  induction text generalizing name with
  | nil => rfl
  | cons c rest ih =>
    obtain ⟨hc,hrest⟩ := List.forall_mem_cons.mp h
    rw [namesFrom,if_pos hc,ih hrest,List.reverse_cons,List.append_assoc,List.singleton_append]

/-- A text of one name has no other names in it. -/
theorem eq_of_mem_namesIn {text : String} (h : ∀ c ∈ text.toList, isNamePart c = true)
    {name : String} (hname : name ∈ namesIn text) : name = text := by
  rw [namesIn,namesFrom_of_parts h,List.append_nil,spelledBack] at hname
  split at hname
  · cases hname
  · simpa using hname

/-- The names in a text and in what stands around it. -/
theorem namesIn_around {a c : List Char} {before after : String} {x y : Char}
    (hbefore : before.toList = a ++ [x]) (hx : isNamePart x = false)
    (hafter : after.toList = y :: c) (hy : isNamePart y = false) (text : String) :
    namesIn (before ++ text ++ after) = namesFrom [] a ++ namesIn text ++ namesFrom [] c := by
  have hlist : (before ++ text ++ after).toList = a ++ x :: (text.toList ++ y :: c) := by
    simp [String.toList_append,hbefore,hafter]
  rw [namesIn,hlist,namesFrom_append_cons hx,namesFrom_append_cons hy,List.append_assoc]
  rfl

/-! ## Names before colons -/

theorem lastName_append_cons {c : Char} (hc : isNamePart c = false) (a b : List Char) :
    lastName (a ++ c :: b) = lastName b := by
  have hreverse : (a ++ c :: b).reverse = b.reverse ++ c :: a.reverse := by simp
  rw [lastName,hreverse,List.takeWhile_append]
  split
  · next hall =>
    have hb := (List.takeWhile_prefix (l := b.reverse) isNamePart).eq_of_length hall
    rw [List.takeWhile_cons_of_neg (by simp [hc]),List.append_nil,lastName,hb]
  · rfl

theorem lastName_of_parts {name : String} (h : ∀ c ∈ name.toList, isNamePart c = true) :
    lastName name.toList = name := by
  have hall : ∀ c ∈ name.toList.reverse, isNamePart c = true := fun c hc =>
    h c (List.mem_reverse.mp hc)
  rw [lastName,List.takeWhile_eq_self_iff.mpr hall,List.reverse_reverse,String.ofList_toList]

theorem not_isNamePart_of_isBreak {c : Char} (h : isBreak c = true) : isNamePart c = false := by
  simp only [isBreak,Bool.and_eq_true,Bool.not_eq_true'] at h
  exact h.1

theorem ne_colon_of_isBreak {c : Char} (h : isBreak c = true) : c ≠ ':' := by
  simp only [isBreak,Bool.and_eq_true,bne_iff_ne] at h
  exact h.2

/-- Neither a name nor a path goes on from the one text to the other. -/
def Apart (a b : List Char) : Prop :=
  (∃ init c, a = init ++ [c] ∧ isBreak c = true) ∨ ∃ c rest, b = c :: rest ∧ isBreak c = true

/-- Where two colons stand in texts that are apart, they stand in one of them. -/
theorem Apart.colons {a b before after : List Char} (h : Apart a b)
    (he : a ++ b = before ++ ':' :: ':' :: after) :
    (∃ rest, a = before ++ ':' :: ':' :: rest) ∨ ∃ inner, before = a ++ inner ∧
      b = inner ++ ':' :: ':' :: after ∧ lastName before = lastName inner := by
  have hnot : ¬ ∃ tail, b = ':' :: tail ∧ ∃ init, a = init ++ [':'] := by
    rintro ⟨tail,rfl,init,rfl⟩
    rcases h with ⟨init',c,he,hc⟩ | ⟨c,rest,he,hc⟩
    · exact ne_colon_of_isBreak hc (List.append_inj_right' he rfl |> List.singleton_inj.mp).symm
    · exact ne_colon_of_isBreak hc (List.cons.inj he).1.symm
  have hlast : ∀ inner, b = inner ++ ':' :: ':' :: after →
      lastName (a ++ inner) = lastName inner := by
    intro inner hb
    rcases h with ⟨init,c,rfl,hc⟩ | ⟨c,rest,rfl,hc⟩
    · rw [List.append_assoc]
      exact lastName_append_cons (not_isNamePart_of_isBreak hc) init inner
    · cases inner with
      | nil => exact absurd (List.cons.inj hb).1 (ne_colon_of_isBreak hc)
      | cons d inner =>
        obtain ⟨rfl,-⟩ := List.cons.inj hb
        have hd := not_isNamePart_of_isBreak hc
        rw [lastName_append_cons hd,← lastName_append_cons hd [] inner,List.nil_append]
  rcases List.append_eq_append_iff.mp he with ⟨inner,rfl,hb⟩ | ⟨rest,rfl,hrest⟩
  · exact .inr ⟨inner,rfl,hb,hlast inner hb⟩
  · match rest,hrest with
    | [],hrest =>
      refine .inr ⟨[],by simp,hrest.symm,?_⟩
      simpa using hlast [] hrest.symm
    | [c],hrest =>
      obtain ⟨rfl,hb⟩ := List.cons.inj hrest
      exact absurd ⟨after,hb.symm,before,rfl⟩ hnot
    | c :: d :: rest,hrest =>
      simp only [List.cons_append,List.cons.injEq] at hrest
      obtain ⟨rfl,rfl,-⟩ := hrest
      exact .inl ⟨rest,rfl⟩

/-- A piece of code in one line all of whose paths begin with known names. -/
structure Tidy (known : String → Prop) (text : String) : Prop where
  heads : ∀ before after, text.toList = before ++ ':' :: ':' :: after → known (lastName before)
  whole : '\n' ∉ text.toList

/-- A text that begins with a character that nothing goes on with. -/
def beginsApart (text : String) : Bool := text.toList.head?.any isBreak

/-- A text that ends in a character that nothing goes on from. -/
def endsApart (text : String) : Bool := text.toList.getLast?.any isBreak

theorem apart_of_beginsApart {b : String} (h : beginsApart b = true) (a : List Char) :
    Apart a b.toList := by
  cases hb : b.toList with
  | nil => simp [beginsApart,hb] at h
  | cons c rest => exact .inr ⟨c,rest,rfl,by simpa [beginsApart,hb] using h⟩

theorem apart_of_endsApart {a : String} (h : endsApart a = true) (b : List Char) :
    Apart a.toList b := by
  rcases List.eq_nil_or_concat a.toList with ha | ⟨init,c,ha⟩
  · simp [endsApart,ha] at h
  · exact .inl ⟨init,c,by simpa using ha,by simpa [endsApart,ha] using h⟩

theorem isNamePart_of_isWordChar {c : Char} (h : IsWordChar c) : isNamePart c = true := by
  rcases h with h | h <;> simp [isNamePart,h]

theorem isNamePart_of_isWord {text : List Char} (h : IsWord text) :
    ∀ c ∈ text, isNamePart c = true := fun c hc => isNamePart_of_isWordChar (.inl (h c hc))

section Tidy
variable {known : String → Prop} {a b : String}

theorem tidy_of_not_mem {text : String} (h : ':' ∉ text.toList ∧ '\n' ∉ text.toList) :
    Tidy known text :=
  ⟨fun before after he => absurd (he ▸ by simp) h.1,h.2⟩

theorem tidy_of_parts {text : String} (h : ∀ c ∈ text.toList, isNamePart c = true) :
    Tidy known text :=
  tidy_of_not_mem ⟨fun hc => absurd (h _ hc) (by decide),fun hc => absurd (h _ hc) (by decide)⟩

theorem Tidy.append (ha : Tidy known a) (hb : Tidy known b) (h : Apart a.toList b.toList) :
    Tidy known (a ++ b) := by
  refine ⟨fun before after he => ?_,?_⟩
  · rw [String.toList_append] at he
    rcases h.colons he with ⟨rest,ha'⟩ | ⟨inner,-,hb',hlast⟩
    · exact ha.heads _ _ ha'
    · exact hlast ▸ hb.heads _ _ hb'
  · rw [String.toList_append,List.mem_append,not_or]
    exact ⟨ha.whole,hb.whole⟩

/-- Code goes on with what begins apart. -/
theorem Tidy.followed (ha : Tidy known a) (hb : Tidy known b) (h : beginsApart b = true) :
    Tidy known (a ++ b) :=
  ha.append hb (apart_of_beginsApart h _)

theorem Tidy.behind (hb : Tidy known b) (ha : Tidy known a) (h : endsApart a = true) :
    Tidy known (a ++ b) :=
  ha.append hb (apart_of_endsApart h _)

/-- Between texts that are apart from it code stays what it is. -/
theorem Tidy.around {text before after : String} (h : Tidy known text)
    (hbefore : Tidy known before) (hends : endsApart before = true) (hafter : Tidy known after)
    (hbegins : beginsApart after = true) : Tidy known (before ++ text ++ after) :=
  (h.behind hbefore hends).followed hafter hbegins

/-- A path begins with the name before its colons. -/
theorem tidy_path {head rest : String} (hhead : ∀ c ∈ head.toList, isNamePart c = true)
    (hknown : known head) (hrest : ':' ∉ rest.toList ∧ '\n' ∉ rest.toList) :
    Tidy known (head ++ "::" ++ rest) := by
  have hlist : (head ++ "::" ++ rest).toList = head.toList ++ ':' :: ':' :: rest.toList := by
    simp [String.toList_append]
  have hcolon : ':' ∉ head.toList := fun hc => absurd (hhead _ hc) (by decide)
  refine ⟨fun before after he => ?_,?_⟩
  · rw [hlist] at he
    -- there are no other colons, so the text before these is the text before the first one
    have hcount := congrArg (List.count ':') he
    simp only [List.count_append,List.count_cons_self,List.count_eq_zero.mpr hcolon,
      List.count_eq_zero.mpr hrest.1] at hcount
    have hbefore : ':' ∉ before := List.count_eq_zero.mp (by omega)
    have hkeep : ∀ {text : List Char}, ':' ∉ text → ∀ c ∈ text, decide (c ≠ ':') = true :=
      fun h c hc => decide_eq_true fun he => h (he ▸ hc)
    have hsame : before = head.toList := by
      have htake := congrArg (List.takeWhile fun c => decide (c ≠ ':')) he
      rw [List.takeWhile_append_of_pos (hkeep hcolon),List.takeWhile_append_of_pos (hkeep hbefore),
        List.takeWhile_cons_of_neg (by simp),List.takeWhile_cons_of_neg (by simp)] at htake
      simpa using htake.symm
    rw [hsame,lastName_of_parts hhead]
    exact hknown
  · rw [hlist]
    have hwhole : '\n' ∉ head.toList := fun hc => absurd (hhead _ hc) (by decide)
    simpa using ⟨hwhole,hrest.2⟩

end Tidy
/-! ## Lines in which names stand -/

/-- A line of code, in which a name may stand as it is. -/
inductive TidyLine (known : String → Prop) (names : List String) : String → Prop
  | plain {line : String} (h : Tidy known line) : TidyLine known names line
  | named {before name after : String} (hname : name ∈ names) (hbefore : Tidy known before)
      (hends : endsApart before = true) (hafter : Tidy known after)
      (hbegins : beginsApart after = true) : TidyLine known names (before ++ name ++ after)

/-- Every path in a line begins with a known name, if its colons are not those of a name that stands
in the line as it is. -/
def PathsKnown (known : String → Prop) (names : List (List Char)) (line : List Char) : Prop :=
  ∀ before after, line = before ++ ':' :: ':' :: after → known (lastName before) ∨
    ∃ name ∈ names, ∃ front back, line = front ++ name ++ back ∧
      front.length ≤ before.length ∧ before.length + 2 ≤ (front ++ name).length

/-- The parts of names that stand in one line. -/
def cutNames (names : List String) : List (List Char) := names.flatMap fun n => split '\n' n.toList

/-- Texts without line feeds around another one stay with the first and the last of its lines. -/
theorem exists_of_mem_split_around {p n q piece : List Char} (hp : '\n' ∉ p) (hq : '\n' ∉ q)
    (h : piece ∈ split '\n' (p ++ n ++ q)) : ∃ n' ∈ split '\n' n, ∃ p' q',
      piece = p' ++ n' ++ q' ∧ (p' = [] ∨ p' = p) ∧ (q' = [] ∨ q' = q) := by
  induction hn : n.length using Nat.strong_induction_on generalizing n p with
  | _ k ih =>
    by_cases hmem : '\n' ∈ n
    · obtain ⟨first,rest,rfl,hfirst⟩ := List.eq_append_cons_of_mem hmem
      have hsplit : split '\n' (p ++ (first ++ '\n' :: rest) ++ q) =
          (p ++ first) :: split '\n' ([] ++ rest ++ q) := by
        have hlist : p ++ (first ++ '\n' :: rest) ++ q = (p ++ first) ++ '\n' :: (rest ++ q) := by
          simp
        rw [hlist,split_append,split_of_not_mem (by simp [hp,hfirst])]
        rfl
      rw [hsplit] at h
      rw [split_append,split_of_not_mem hfirst]
      rcases List.mem_cons.mp h with rfl | h
      · exact ⟨first,List.mem_cons_self,p,[],by simp,.inr rfl,.inl rfl⟩
      · obtain ⟨n',hn',p',q',hpiece,hp',hq'⟩ :=
          ih rest.length (by rw [← hn]; simp; omega) List.not_mem_nil h rfl
        exact ⟨n',List.mem_cons_of_mem _ hn',p',q',hpiece,.inl (by simpa using hp'),hq'⟩
    · rw [split_of_not_mem (by simp [hp,hmem,hq]),List.mem_singleton] at h
      rw [split_of_not_mem hmem]
      exact ⟨n,List.mem_cons_self,p,q,h,.inr rfl,.inr rfl⟩

/-- What a text is in front of names: nothing, or code that ends in a break. -/
def Fronts (known : String → Prop) (text : List Char) : Prop :=
  text = [] ∨ ∃ line, Tidy known line ∧ endsApart line = true ∧ line.toList = text

/-- What a text is behind names: nothing, or code that begins with a break. -/
def Backs (known : String → Prop) (text : List Char) : Prop :=
  text = [] ∨ ∃ line, Tidy known line ∧ beginsApart line = true ∧ line.toList = text

section Lines
variable {known : String → Prop}

/-- Code beside a name has its own paths, and all others are in the name. -/
theorem pathsKnown_around {names : List (List Char)} {p n q : List Char} (hn : n ∈ names)
    (hp : Fronts known p) (hq : Backs known q) : PathsKnown known names (p ++ n ++ q) := by
  intro before after he
  rw [List.append_assoc] at he
  have hfront : known (lastName before) ∨ ∃ inner, before = p ++ inner ∧
      n ++ q = inner ++ ':' :: ':' :: after ∧ lastName before = lastName inner := by
    rcases hp with rfl | ⟨line,htidy,hends,rfl⟩
    · exact .inr ⟨before,rfl,he,rfl⟩
    · exact ((apart_of_endsApart hends _).colons he).imp_left fun ⟨_,hline⟩ => htidy.heads _ _ hline
  rcases hfront with hknown | ⟨inner,rfl,hinner,hlast⟩
  · exact .inl hknown
  · have hback : (∃ rest, n = inner ++ ':' :: ':' :: rest) ∨ known (lastName inner) := by
      rcases hq with rfl | ⟨line,htidy,hbegins,rfl⟩
      · exact .inl ⟨after,by simpa using hinner⟩
      · refine ((apart_of_beginsApart hbegins _).colons hinner).imp_right ?_
        rintro ⟨rest,-,hline,hsame⟩
        exact hsame ▸ htidy.heads _ _ hline
    rcases hback with ⟨rest,rfl⟩ | hknown
    · exact .inr ⟨_,hn,p,q,by simp,by simp,by simp; omega⟩
    · exact .inl (hlast ▸ hknown)

variable {names : List String} {line : String}

theorem TidyLine.pathsKnown (h : TidyLine known names line) :
    ∀ piece ∈ splitString '\n' line, PathsKnown known (cutNames names) piece.toList := by
  intro piece hpiece
  obtain ⟨cs,hcs,rfl⟩ := List.mem_map.mp hpiece
  rw [String.toList_ofList]
  cases h with
  | plain h =>
    rw [split_of_not_mem h.whole,List.mem_singleton] at hcs
    exact fun before after he => .inl (h.heads before after (hcs ▸ he))
  | @named before name after hname hbefore hends hafter hbegins =>
    rw [String.toList_append,String.toList_append] at hcs
    obtain ⟨n,hn,p,q,rfl,hp,hq⟩ := exists_of_mem_split_around hbefore.whole hafter.whole hcs
    refine pathsKnown_around (List.mem_flatMap.mpr ⟨name,hname,hn⟩) ?_ ?_
    · exact hp.imp_right fun he => ⟨before,hbefore,hends,he.symm⟩
    · exact hq.imp_right fun he => ⟨after,hafter,hbegins,he.symm⟩

theorem endsApart_append (a : String) {b : String} (h : endsApart b = true) :
    endsApart (a ++ b) = true := by
  rcases List.eq_nil_or_concat b.toList with hb | ⟨init,c,hb⟩
  · simp [endsApart,hb] at h
  · simp only [endsApart,String.toList_append,hb] at h ⊢
    simpa [List.getLast?_append] using h

theorem tidy_indentation (level : ℕ) : Tidy known (indentation level) :=
  tidy_of_not_mem (by simp [toList_indentation])

theorem endsApart_indentation (level : ℕ) : endsApart (indentation (level + 1)) = true := by
  rw [endsApart,toList_indentation,List.getLast?_replicate,if_neg (by omega)]
  rfl

theorem TidyLine.indented (h : TidyLine known names line) (level : ℕ) :
    TidyLine known names (indentation level ++ line) := by
  cases level with
  | zero => exact (String.empty_append (s := line)).symm ▸ h
  | succ level =>
    have hblanks := endsApart_indentation level
    cases h with
    | plain h => exact .plain (h.behind (tidy_indentation _) hblanks)
    | named hname hbefore hends hafter hbegins =>
      rw [← String.append_assoc,← String.append_assoc]
      exact .named hname (hbefore.behind (tidy_indentation _) hblanks) (endsApart_append _ hends)
        hafter hbegins

theorem tidyLine_indent {lines : List String} (h : ∀ line ∈ lines, TidyLine known names line)
    (level : ℕ) : ∀ line ∈ indent level lines, TidyLine known names line := by
  intro line hline
  obtain ⟨l,hl,rfl⟩ := List.mem_map.mp hline
  split
  · exact h l hl
  · exact (h l hl).indented level

theorem PathsKnown.indented {names : List (List Char)} (h : PathsKnown known names line.toList)
    (level : ℕ) : PathsKnown known names (indentation level ++ line).toList := by
  cases level with
  | zero => exact (String.empty_append (s := line)).symm ▸ h
  | succ level =>
    intro before after he
    rw [String.toList_append] at he
    rcases (apart_of_endsApart (endsApart_indentation level) _).colons he with
      ⟨rest,hblanks⟩ | ⟨inner,rfl,hline,hlast⟩
    · exact .inl ((tidy_indentation (level + 1)).heads _ _ hblanks)
    · rw [hlast]
      refine (h inner after hline).imp_right ?_
      rintro ⟨name,hname,front,back,hparts,hfront,hback⟩
      refine ⟨name,hname,(indentation (level + 1)).toList ++ front,back,?_,?_,?_⟩
      · rw [String.toList_append,hparts,List.append_assoc,List.append_assoc,List.append_assoc]
      · simpa using hfront
      · simp only [List.length_append] at hback ⊢
        omega

theorem pathsKnown_indent {names : List (List Char)} {lines : List String}
    (h : ∀ line ∈ lines, PathsKnown known names line.toList) (level : ℕ) :
    ∀ line ∈ indent level lines, PathsKnown known names line.toList := by
  intro line hline
  obtain ⟨l,hl,rfl⟩ := List.mem_map.mp hline
  split
  · exact h l hl
  · exact (h l hl).indented level

theorem pathsKnown_cutLines {lines : List String} (h : ∀ line ∈ lines, TidyLine known names line) :
    ∀ line ∈ cutLines lines, PathsKnown known (cutNames names) line.toList := by
  intro piece hpiece
  obtain ⟨line,hline,hpiece⟩ := List.mem_flatMap.mp hpiece
  exact (h line hline).pathsKnown piece hpiece

/-! ## Lines that read values -/

/-- What is done with a value adds no unknown path to it. -/
def Sink.KeepsTidy (known : String → Prop) (names : List String) (sink : Sink) : Prop :=
  ∀ value, Tidy known value → TidyLine known names (sink.line value)

theorem tidy_local (v : Local) : Tidy known v.text :=
  tidy_of_parts (isNamePart_of_isWord (isWord_local v))

theorem keepsTidy_bind (v : Local) : (Sink.bind v).KeepsTidy known names := by
  intro value hvalue
  have hlet : Tidy known ("let " ++ v.text) :=
    (tidy_local v).behind (tidy_of_not_mem (by decide)) (by decide)
  have hset : Tidy known ("let " ++ v.text ++ " = ") :=
    hlet.followed (tidy_of_not_mem (by decide)) (by decide)
  exact .plain (hvalue.around hset (endsApart_append _ (by decide)) (tidy_of_not_mem (by decide))
    (by decide))

theorem keepsTidy_push (items : Local) : (Sink.push items).KeepsTidy known names := by
  intro value hvalue
  have hcall : Tidy known (items.text ++ ".push(") :=
    (tidy_local items).followed (tidy_of_not_mem (by decide)) (by decide)
  exact .plain (hvalue.around hcall (endsApart_append _ (by decide)) (tidy_of_not_mem (by decide))
    (by decide))

theorem keepsTidy_insert (entries key : Local) :
    (Sink.insert entries key).KeepsTidy known names := by
  intro value hvalue
  have hcall : Tidy known (entries.text ++ ".insert(") :=
    (tidy_local entries).followed (tidy_of_not_mem (by decide)) (by decide)
  have hkey : Tidy known (entries.text ++ ".insert(" ++ key.text ++ ", ") :=
    (tidy_local key).around hcall (endsApart_append _ (by decide)) (tidy_of_not_mem (by decide))
      (by decide)
  exact .plain (hvalue.around hkey (endsApart_append _ (by decide)) (tidy_of_not_mem (by decide))
    (by decide))

theorem beginsApart_append {a : String} (h : beginsApart a = true) (b : String) :
    beginsApart (a ++ b) = true := by
  cases ha : a.toList with
  | nil => simp [beginsApart,ha] at h
  | cons c rest =>
    simp only [beginsApart,String.toList_append,ha] at h ⊢
    simpa using h

/-- An assignment to a field of the struct is code around its name. -/
theorem tidyLine_assign {field rest : String} (hfield : Identifier.escape field ∈ names)
    (hrest : Tidy known rest) (hbegins : beginsApart rest = true) :
    TidyLine known names ("x." ++ Identifier.escape field ++ rest) :=
  .named hfield (tidy_of_not_mem (by decide)) (by decide) hrest hbegins

theorem keepsTidy_store {field : String} (hfield : Identifier.escape field ∈ names) :
    (Sink.store field).KeepsTidy known names := by
  intro value hvalue
  have hline : (Sink.store field).line value =
      "x." ++ Identifier.escape field ++ (" = " ++ value ++ ";") := by
    simp only [Sink.line,String.append_assoc]
  rw [hline]
  refine tidyLine_assign hfield (hvalue.around ?_ (by decide) ?_ (by decide)) ?_
  · exact tidy_of_not_mem (by decide)
  · exact tidy_of_not_mem (by decide)
  · exact beginsApart_append (beginsApart_append (by decide) _) _

theorem keepsTidy_storeSome {field : String} (hfield : Identifier.escape field ∈ names) :
    (Sink.storeSome field).KeepsTidy known names := by
  intro value hvalue
  have hline : (Sink.storeSome field).line value =
      "x." ++ Identifier.escape field ++ (" = Some(" ++ value ++ ");") := by
    simp only [Sink.line,String.append_assoc]
  rw [hline]
  refine tidyLine_assign hfield (hvalue.around ?_ (by decide) ?_ (by decide)) ?_
  · exact tidy_of_not_mem (by decide)
  · exact tidy_of_not_mem (by decide)
  · exact beginsApart_append (beginsApart_append (by decide) _) _

theorem isNamePart_camel (name : String) : ∀ c ∈ (Identifier.camel name).toList, isNamePart c = true :=
  fun _ hc => isNamePart_of_isWordChar (Identifier.isWordChar_camel _ hc)

theorem not_mem_of_parts {text : String} (h : ∀ c ∈ text.toList, isNamePart c = true) :
    ':' ∉ text.toList ∧ '\n' ∉ text.toList :=
  ⟨fun hc => absurd (h _ hc) (by decide),fun hc => absurd (h _ hc) (by decide)⟩

theorem tidy_variant {v : Variant} (hparts : ∀ c ∈ v.owner.toList, isNamePart c = true)
    (hknown : known v.owner) : Tidy known v.text :=
  tidy_path hparts hknown (not_mem_of_parts (isNamePart_camel v.member))

/-- A call of a function of a known type, with code in front of it. -/
theorem tidy_call {before head rest : String} (hbefore : ':' ∉ before.toList ∧ '\n' ∉ before.toList)
    (hends : endsApart before = true) (hhead : ∀ c ∈ head.toList, isNamePart c = true)
    (hknown : known head) (hrest : ':' ∉ rest.toList ∧ '\n' ∉ rest.toList) :
    Tidy known (before ++ (head ++ "::" ++ rest)) :=
  (tidy_path hhead hknown hrest).behind (tidy_of_not_mem hbefore) hends

theorem keepsTidy_storeVariant {group : String} {v : Variant} {boxed : Bool}
    (hgroup : Identifier.escape group ∈ names)
    (hparts : ∀ c ∈ v.owner.toList, isNamePart c = true) (hknown : known v.owner)
    (hbox : known "Box") : (Sink.storeVariant group v boxed).KeepsTidy known names := by
  intro value hvalue
  have hopen : Tidy known ("Box" ++ "::" ++ "new(") :=
    tidy_path (List.all_eq_true.mp rfl) hbox (by decide)
  have hclose : Tidy known ")" := tidy_of_not_mem (by decide)
  have hpayload : Tidy known (if boxed then "Box::new(" ++ value ++ ")" else value) := by
    split
    · exact hvalue.around hopen (by decide) hclose (by decide)
    · exact hvalue
  have hpath : Tidy known (" = Some(" ++ v.text ++ "(") :=
    (tidy_variant hparts hknown).around (tidy_of_not_mem (by decide)) (by decide)
      (tidy_of_not_mem (by decide)) (by decide)
  have hline : (Sink.storeVariant group v boxed).line value = "x." ++ Identifier.escape group ++
      (" = Some(" ++ v.text ++ "(" ++ (if boxed then "Box::new(" ++ value ++ ")" else value) ++
        "));") := by
    simp only [Sink.line,String.append_assoc]
  rw [hline]
  refine tidyLine_assign hgroup (hpayload.around hpath ?_ ?_ (by decide)) ?_
  · exact endsApart_append _ (by decide)
  · exact tidy_of_not_mem (by decide)
  · refine beginsApart_append (beginsApart_append (beginsApart_append ?_ _) _) _
    exact beginsApart_append (by decide) _

/-- The names of the declared types in a kind are known, and so is that of maps where it has any. -/
structure KindKnown (index : TypeIndex) (known : String → Prop) (kind : Kind) : Prop where
  types : ∀ name ∈ namedTypes kind, ∀ identifier, identifierOf index name = .ok identifier →
    known identifier ∧ ∀ c ∈ identifier.toList, isNamePart c = true
  maps : kind.usesMap = true → known "HashMap"

theorem tidy_wireKind (hkind : known "Kind") (wire : WireKind) : Tidy known wire.text := by
  have hword : ∀ rest : String, (∀ c ∈ rest.toList, isNamePart c = true) →
      Tidy known ("Kind" ++ "::" ++ rest) := fun _ h =>
    tidy_path (List.all_eq_true.mp rfl) hkind (not_mem_of_parts h)
  have hnumbered : ∀ (sign : String) (n : ℕ), sign.toList.all isNamePart = true →
      Tidy known ("Kind" ++ "::" ++ (sign ++ toString n)) := by
    intro sign n hsign
    refine hword _ fun c hc => ?_
    rw [String.toList_append,List.mem_append] at hc
    exact hc.elim (List.all_eq_true.mp hsign c) (isNamePart_of_isWord (isWord_toString n) c)
  cases wire with
  | integer bits signed =>
    have htext : (WireKind.integer bits signed).text =
        "Kind" ++ "::" ++ ((if signed then "I" else "U") ++ toString bits) := by
      rw [WireKind.text,← String.append_assoc]
      rfl
    rw [htext]
    cases signed <;> exact hnumbered _ bits rfl
  | float bits =>
    have htext : (WireKind.float bits).text = "Kind" ++ "::" ++ ("F" ++ toString bits) := by
      rw [WireKind.text,← String.append_assoc]
      rfl
    rw [htext]
    exact hnumbered _ bits rfl
  | bool => exact hword "Bool" (List.all_eq_true.mp rfl)
  | string => exact hword "String" (List.all_eq_true.mp rfl)
  | bytes => exact hword "Bytes" (List.all_eq_true.mp rfl)
  | any => exact hword "Any" (List.all_eq_true.mp rfl)
  | array => exact hword "Array" (List.all_eq_true.mp rfl)
  | map => exact hword "Map" (List.all_eq_true.mp rfl)

/-- A container is made with room for what it will hold. -/
theorem tidy_container {container : String} (hparts : container.toList.all isNamePart = true)
    (hknown : known container) (items size : Local) :
    Tidy known ("let mut " ++ items.text ++ (" = " ++ (container ++ "::" ++ "with_capacity(")) ++
      size.text ++ ");") := by
  have hopen : Tidy known (" = " ++ (container ++ "::" ++ "with_capacity(")) :=
    tidy_call (by decide) (by decide) (List.all_eq_true.mp hparts) hknown (by decide)
  have hlet : Tidy known ("let mut " ++ items.text) :=
    (tidy_local items).behind (tidy_of_not_mem (by decide)) (by decide)
  refine (tidy_local size).around (hlet.followed hopen (beginsApart_append (by decide) _)) ?_
    (tidy_of_not_mem (by decide)) (by decide)
  exact endsApart_append _ (endsApart_append _ (endsApart_append _ (by decide)))

theorem tidy_loop (size : Local) : Tidy known ("for _ in 0.." ++ size.text ++ " \x7b") :=
  (tidy_local size).around (tidy_of_not_mem (by decide)) (by decide) (tidy_of_not_mem (by decide))
    (by decide)

theorem tidyLine_close : TidyLine known names "\x7d" := .plain (tidy_of_not_mem (by decide))

theorem tidy_callSize (size : Local) {call : String} (hcall : ':' ∉ call.toList ∧ '\n' ∉ call.toList)
    (hbegins : beginsApart call = true) : Tidy known ("let " ++ size.text ++ call) :=
  (tidy_local size).around (tidy_of_not_mem (by decide)) (by decide) (tidy_of_not_mem hcall) hbegins

theorem tidy_decodeCall (type : Primitive) : Tidy known ("d.decode_" ++ type.suffix ++ "()?") := by
  obtain ⟨hcolon,hwhole⟩ := not_mem_of_parts (isNamePart_of_isWord (isWord_suffix type))
  have hcall : Tidy known ("d.decode_" ++ type.suffix) := by
    refine tidy_of_not_mem ⟨?_,?_⟩
    · rw [String.toList_append,List.mem_append,not_or]
      exact ⟨by decide,hcolon⟩
    · rw [String.toList_append,List.mem_append,not_or]
      exact ⟨by decide,hwhole⟩
  exact hcall.followed (tidy_of_not_mem (by decide)) (by decide)

/-- The lines before the loop that fills a container, and the line that opens it. -/
theorem tidyLine_open {call container : String} (hcall : Tidy known call)
    (hparts : container.toList.all isNamePart = true) (hknown : known container)
    (items size : Local) : ∀ line ∈ [call,"let mut " ++ items.text ++
      (" = " ++ (container ++ "::" ++ "with_capacity(")) ++ size.text ++ ");",
      "for _ in 0.." ++ size.text ++ " \x7b"], TidyLine known names line :=
  List.forall_mem_cons.mpr ⟨.plain hcall,List.forall_mem_cons.mpr
    ⟨.plain (tidy_container hparts hknown items size),
      List.forall_mem_singleton.mpr (.plain (tidy_loop size))⟩⟩

/-- The line that closes the loop, and what is done with the container. -/
theorem tidyLine_end {sink : Sink} (hsink : sink.KeepsTidy known names) (items : Local) :
    ∀ line ∈ ["\x7d",sink.line items.text], TidyLine known names line :=
  List.forall_mem_cons.mpr
    ⟨tidyLine_close,List.forall_mem_singleton.mpr (hsink _ (tidy_local items))⟩

/-- The lines that read a value have no unknown paths, if what is done with the value adds none. -/
theorem tidyLine_reader {index : TypeIndex} (hkind : known "Kind") (hvec : known "Vec") {kind : Kind}
    (hknown : KindKnown index known kind) {sink : Sink} (hsink : sink.KeepsTidy known names)
    {depth : ℕ} {r : Reader} (h : reader index kind sink depth = .ok r) :
    ∀ line ∈ r.lines, TidyLine known names line := by
  induction kind generalizing sink depth r with
  | integer bits signed | float bits | bool | string | bytes =>
    cases h
    exact List.forall_mem_singleton.mpr (hsink _ (tidy_decodeCall _))
  | enum name =>
    obtain ⟨use,huse,h⟩ := bind_eq_ok.mp h
    obtain ⟨identifier,hid,huse⟩ := bind_eq_ok.mp huse
    cases h
    cases huse
    obtain ⟨hname,hparts⟩ := hknown.types name List.mem_cons_self identifier hid
    have hvalue : identifier ++ "::try_from(" ++ ("d.decode_" ++ Primitive.enumNumber.suffix ++
        "()?") ++ ")?" = identifier ++ "::" ++ "try_from(d.decode_u32()?)?" := by
      simp only [String.append_assoc]
      rfl
    refine List.forall_mem_singleton.mpr (hsink _ ?_)
    exact hvalue ▸ tidy_path hparts hname (by decide)
  | message name =>
    obtain ⟨use,huse,h⟩ := bind_eq_ok.mp h
    obtain ⟨identifier,hid,huse⟩ := bind_eq_ok.mp huse
    cases h
    cases huse
    obtain ⟨hname,hparts⟩ := hknown.types name List.mem_cons_self identifier hid
    have hvalue : identifier ++ "::decode(d)?" = identifier ++ "::" ++ "decode(d)?" := by
      rw [String.append_assoc]
      rfl
    refine List.forall_mem_singleton.mpr (hsink _ ?_)
    exact hvalue ▸ tidy_path hparts hname (by decide)
  | repeated element ih =>
    obtain ⟨wire,hwire,h⟩ := bind_eq_ok.mp h
    obtain ⟨body,hbody,h⟩ := bind_eq_ok.mp h
    cases h
    have hinner := ih ⟨hknown.types,hknown.maps⟩ (keepsTidy_push _) hbody
    have hsize : Tidy known ("let " ++ (Local.size depth).text ++ " = d.decode_array(" ++ wire.text ++
        ")?;") :=
      (tidy_wireKind hkind wire).around (tidy_callSize _ (by decide) (by decide))
        (endsApart_append _ (by decide)) (tidy_of_not_mem (by decide)) (by decide)
    rw [Reader.lines,List.forall_mem_append,List.forall_mem_append]
    refine ⟨⟨?_,tidyLine_indent hinner 1⟩,tidyLine_end hsink _⟩
    exact tidyLine_open hsize rfl hvec (.array depth) (.size depth)
  | map key value ihk ihv =>
    obtain ⟨keyWire,hkeyWire,h⟩ := bind_eq_ok.mp h
    obtain ⟨valueWire,hvalueWire,h⟩ := bind_eq_ok.mp h
    obtain ⟨keyBody,hkeyBody,h⟩ := bind_eq_ok.mp h
    obtain ⟨valueBody,hvalueBody,h⟩ := bind_eq_ok.mp h
    cases h
    have hmap : known "HashMap" := hknown.maps rfl
    have hkeys := ihk ⟨fun name hname => hknown.types name (List.mem_append_left _ hname),
      fun _ => hmap⟩ (keepsTidy_bind _) hkeyBody
    have hvalues := ihv ⟨fun name hname => hknown.types name (List.mem_append_right _ hname),
      fun _ => hmap⟩ (keepsTidy_insert _ _) hvalueBody
    have hopen : Tidy known ("let " ++ (Local.size depth).text ++ " = d.decode_map(" ++
        keyWire.text ++ ", ") :=
      (tidy_wireKind hkind keyWire).around (tidy_callSize _ (by decide) (by decide))
        (endsApart_append _ (by decide)) (tidy_of_not_mem (by decide)) (by decide)
    have hclose : Tidy known ")?;" := tidy_of_not_mem (by decide)
    have hsize := (tidy_wireKind hkind valueWire).around hopen (endsApart_append _ (by decide))
      hclose (by decide)
    rw [Reader.lines,List.forall_mem_append,List.forall_mem_append,List.forall_mem_append]
    refine ⟨⟨⟨?_,tidyLine_indent hkeys 1⟩,tidyLine_indent hvalues 1⟩,tidyLine_end hsink _⟩
    exact tidyLine_open hsize rfl hmap (.map depth) (.size depth)
  | oneof _ _ _ => cases h

end Lines
end SchemaCodec.Codec
