import SchemaCodec.Proofs.Schema.Declarations

/-! # Texts that have a draft

A draft gives every literal of its text a value, wherever in the text it stands and whether or not
the draft keeps it. So a text that follows the grammar has a draft exactly if each literal has a
value, the syntax is said at most once and is a known one, and the package is said at most once.
-/
namespace SchemaCodec
open Grammar Grammar.Derivation

/-- Numbers and texts need a value; every other lexeme stands for itself. -/
def Grammar.Lexeme.Valued : Lexeme → Prop
  | .int spelling => ∃ n, intValue? spelling = some n
  | .text literal => ∃ value, textValue? literal = some value
  | _ => True

/-- Each literal in a row of derivations has a value. -/
def Valued (ds : List Derivation) : Prop := ∀ l ∈ yields ds, l.Valued

section Valued
variable {ds es : List Derivation}

@[simp] theorem valued_nil : Valued [] := by simp [Valued]

@[simp] theorem valued_leaf (l : Lexeme) : Valued (leaf l :: ds) ↔ l.Valued ∧ Valued ds := by
  simp [Valued]

@[simp] theorem valued_node (r : Rule) (children : List Derivation) :
    Valued (node r children :: ds) ↔ Valued children ∧ Valued ds := by
  simp [Valued,or_imp,forall_and]

theorem valued_cons {d : Derivation} : Valued (d :: ds) ↔ Valued [d] ∧ Valued ds := by
  simp [Valued,or_imp,forall_and]

@[simp] theorem valued_append : Valued (ds ++ es) ↔ Valued ds ∧ Valued es := by
  simp [Valued,or_imp,forall_and]

theorem valued_map {α : Type} {f : α → Derivation} {l : List α} :
    Valued (l.map f) ↔ ∀ a ∈ l, Valued [f a] := by
  induction l with
  | nil => simp
  | cons a rest ih => rw [List.map_cons,valued_cons,ih,List.forall_mem_cons]

/-- The marks between neighbours are no literals. -/
theorem valued_separate (m : Mark) {rows : List (List Derivation)} :
    Valued (separate m rows) ↔ ∀ row ∈ rows, Valued row := by
  have hmore (rest : List (List Derivation)) :
      Valued (rest.flatMap fun es => leaf (.mark m) :: es) ↔ ∀ row ∈ rest, Valued row := by
    induction rest with
    | nil => simp
    | cons row rest ih => simp [ih,Lexeme.Valued]
  cases rows with
  | nil => simp [separate]
  | cons row rest => rw [separate,valued_append,hmore,List.forall_mem_cons]

@[simp] theorem valued_block (r : Rule) (k : Keyword) (name : String) (body : List Derivation) :
    Valued [block r k name body] ↔ Valued body := by
  simp [block,Lexeme.Valued]

theorem valued_dotted (p : Dotted) : Valued p.children := by
  refine (valued_separate .dot).mpr fun row hrow => ?_
  obtain ⟨w,-,rfl⟩ := List.mem_map.mp hrow
  simp [Lexeme.Valued]

@[simp] theorem valued_typeRef (r : TypeRef) : Valued (r.derivation :: ds) ↔ Valued ds := by
  cases hr : r.rooted <;> simp [TypeRef.derivation,hr,valued_dotted,Lexeme.Valued]

theorem valued_optionName (name : List OptionPart) :
    Valued (separate .dot (name.map OptionPart.children)) := by
  refine (valued_separate .dot).mpr fun row hrow => ?_
  obtain ⟨part,-,rfl⟩ := List.mem_map.mp hrow
  cases part <;> simp [OptionPart.children,Lexeme.Valued]

end Valued

/-! ## What each part of a text needs -/

namespace Draft

theorem exists_checkSetting_iff (s : Setting) :
    (∃ u, checkSetting s = some u) ↔ Valued s.children := by
  have hname := valued_optionName s.name
  cases hv : s.value with
  | path p =>
    simp [checkSetting,hv,Setting.children,Constant.derivation,Dotted.derivation,hname,
      valued_dotted,Lexeme.Valued]
  | number sign n =>
    have hsign : Valued (sign.map Sign.derivation).toList := by
      rcases sign with _ | ⟨_ | _⟩ <;> simp [Sign.derivation,Lexeme.Valued]
    cases n <;> simp [checkSetting,signedValue?,hv,Setting.children,Constant.derivation,
      Number.derivation,hname,hsign,Lexeme.Valued]
  | text literal =>
    simp [checkSetting,hv,Setting.children,Constant.derivation,hname,Lexeme.Valued]

theorem valued_alone (s : Setting) : Valued [s.alone] ↔ Valued s.children := by
  simp [Setting.alone,Lexeme.Valued]

theorem exists_checkSlot_iff (slot : Slot) :
    (∃ u, checkSlot slot = some u) ↔ ∀ s ∈ slot.settings, ∃ u, checkSetting s = some u := by
  have hall (settings : List Setting) :
      (∃ u, (do for s in settings do checkSetting s : Option Unit) = some u) ↔
        ∀ s ∈ settings, ∃ u, checkSetting s = some u := by
    induction settings with
    | nil => simp
    | cons s rest ih =>
      rw [List.forall_mem_cons,← ih]
      cases hs : checkSetting s <;> simp [hs]
  exact hall slot.settings

theorem valued_bracketed (settings : List Setting) :
    Valued (bracketed settings) ↔ ∀ s ∈ settings, Valued s.children := by
  have hrows : Valued (separate .comma (settings.map fun s => [s.inBrackets])) ↔
      ∀ s ∈ settings, Valued s.children := by
    rw [valued_separate,List.forall_mem_map]
    simp [Setting.inBrackets]
  cases settings with
  | nil => simp [bracketed]
  | cons s rest =>
    rw [bracketed,valued_node,valued_append,valued_append,hrows]
    simp [Lexeme.Valued]

theorem exists_slotNumber_iff (slot : Slot) : (∃ n, slotNumber slot = some n) ↔
    (Lexeme.int slot.number).Valued ∧ Valued (bracketed slot.settings) := by
  have hsettings : (∃ u, checkSlot slot = some u) ↔ Valued (bracketed slot.settings) := by
    rw [exists_checkSlot_iff,valued_bracketed]
    exact forall₂_congr fun s _ => exists_checkSetting_iff s
  rw [slotNumber,exists_bind_eq_some_iff,← hsettings]
  constructor
  · rintro ⟨u,hu,hn⟩
    exact ⟨hn,u,hu⟩
  · rintro ⟨hn,u,hu⟩
    exact ⟨u,hu,hn⟩

theorem valued_slot (slot : Slot) :
    Valued slot.children ↔ ∃ n, slotNumber slot = some n := by
  rw [exists_slotNumber_iff]
  simp [Slot.children,Lexeme.Valued]

theorem exists_ofField_iff (f : FieldTree) :
    (∃ d, ofField f = some d) ↔ Valued [f.derivation] := by
  have hlabel : Valued (f.label.map Label.derivation).toList := by
    rcases f.label with _ | ⟨_ | _ | _⟩ <;> simp [Label.derivation,Lexeme.Valued]
  rw [ofField,exists_bind_some_iff,FieldTree.derivation,valued_node,valued_append,valued_typeRef,
    valued_slot]
  simp [hlabel]

theorem exists_ofMap_iff (m : MapTree) : (∃ d, ofMap m = some d) ↔ Valued [m.derivation] := by
  rw [ofMap,exists_bind_some_iff,MapTree.derivation,valued_node,valued_append,valued_slot]
  simp [Lexeme.Valued]

theorem exists_ofMember_iff (group : String) (m : MemberTree) :
    (∃ d, ofMember group m = some d) ↔ Valued [m.derivation] := by
  rw [ofMember,exists_bind_some_iff,MemberTree.derivation,valued_node,valued_typeRef,
    valued_slot]
  simp

theorem exists_ofValue_iff (v : ValueTree) :
    (∃ d, ofValue v = some d) ↔ Valued [v.derivation] := by
  have hsign : Valued (if v.negative then [leaf (.mark .minus)] else []) := by
    cases v.negative <;> simp [Lexeme.Valued]
  have hslot := exists_slotNumber_iff v.slot
  simp only [ofValue_eq,Option.map_eq_some_iff,exists_comm (α := ValueDraft),exists_eq_right']
  simp only [ValueTree.derivation,valued_node,valued_append,valued_leaf,valued_nil,hsign]
  simpa [Lexeme.Valued] using hslot

theorem exists_ofRange_iff (r : Range) : (∃ d, ofRange r = some d) ↔ Valued [r.derivation] := by
  rw [ofRange,exists_bind_eq_some_iff,Range.derivation,valued_node]
  rcases r.last with _ | ⟨spelling | _⟩
  · simp [Lexeme.Valued]
  · have hlast (first : Int) := exists_bind_some_iff (x := intValue? spelling) (g := Prod.mk first)
    simp only [hlast]
    simp [RangeEnd.derivation,Lexeme.Valued]
  · simp [RangeEnd.derivation,Lexeme.Valued]

theorem exists_ofReserved_iff (r : Reserved) :
    (∃ d, ofReserved r = some d) ↔ Valued [r.derivation] := by
  have hmembers : (∃ d, ofReserved r = some d) ↔ ∀ row ∈ r.members, Valued row := by
    cases r with
    | ranges rs =>
      rw [ofReserved,exists_bind_some_iff,exists_mapM_eq_some_iff,Reserved.members,
        List.forall_mem_map]
      exact forall₂_congr fun r _ => exists_ofRange_iff r
    | names literals =>
      rw [ofReserved,exists_bind_some_iff,exists_mapM_eq_some_iff,Reserved.members,
        List.forall_mem_map]
      simp [Lexeme.Valued]
  rw [hmembers,Reserved.derivation,valued_node,valued_append,valued_append,valued_separate]
  simp [Lexeme.Valued]

theorem exists_membersOf_iff (group : String) (i : OneofItem) :
    (∃ ds, membersOf group i = some ds) ↔ Valued [i.derivation] := by
  cases i with
  | member m =>
    rw [OneofItem.derivation,← exists_ofMember_iff group]
    simp [membersOf]
  | option s =>
    rw [OneofItem.derivation,valued_alone,← exists_checkSetting_iff]
    simp [membersOf]
  | empty => simp [membersOf,OneofItem.derivation,emptyDerivation,Lexeme.Valued]

theorem exists_addEnumItem_iff (draft : EnumDraft) (i : EnumItem) :
    (∃ next, addEnumItem draft i = some next) ↔ Valued [i.derivation] := by
  cases i with
  | value v =>
    rw [EnumItem.derivation,← exists_ofValue_iff]
    exact exists_bind_some_iff
  | option s =>
    rw [EnumItem.derivation,valued_alone,← exists_checkSetting_iff]
    exact exists_bind_some_iff
  | reserved r =>
    rw [EnumItem.derivation,← exists_ofReserved_iff]
    exact exists_bind_some_iff
  | empty => simp [addEnumItem,EnumItem.derivation,emptyDerivation,Lexeme.Valued]

theorem exists_ofEnum_iff (e : EnumTree) : (∃ d, ofEnum e = some d) ↔ Valued [e.derivation] := by
  rw [ofEnum,EnumTree.derivation,valued_block,valued_map]
  exact exists_foldlM_eq_some_iff exists_addEnumItem_iff

/-- What a message holds besides messages can be drafted exactly if its literals have values. -/
theorem exists_prepend_iff (body : Body) {i : MessageItem}
    (hi : ∀ line name items, i ≠ .message line name items) :
    (∃ next, body.prepend i = some next) ↔ Valued [i.derivation] := by
  cases i with
  | field f =>
    rw [MessageItem.derivation,← exists_ofField_iff]
    exact exists_bind_some_iff
  | map m =>
    rw [MessageItem.derivation,← exists_ofMap_iff]
    exact exists_bind_some_iff
  | oneof name items =>
    have hitems : (∃ ds, items.mapM (membersOf name) = some ds) ↔
        Valued (items.map OneofItem.derivation) := by
      rw [exists_mapM_eq_some_iff,valued_map]
      exact forall₂_congr fun i _ => exists_membersOf_iff name i
    rw [MessageItem.derivation,valued_block,← hitems]
    exact exists_bind_some_iff
  | message line name items => exact absurd rfl (hi line name items)
  | enum e =>
    rw [MessageItem.derivation,← exists_ofEnum_iff]
    exact exists_bind_some_iff
  | option s =>
    rw [MessageItem.derivation,valued_alone,← exists_checkSetting_iff]
    exact exists_bind_some_iff
  | reserved r =>
    rw [MessageItem.derivation,← exists_ofReserved_iff]
    exact exists_bind_some_iff
  | empty => simp [Body.prepend,MessageItem.derivation,emptyDerivation,Lexeme.Valued]

/-- However deeply messages nest, their items can be drafted exactly if all literals have values. -/
theorem exists_bodyOf_iff (items : List MessageItem) :
    (∃ body, bodyOf items = some body) ↔ Valued (items.map MessageItem.derivation) := by
  induction items using bodyOf.induct with
  | case1 => simp [bodyOf]
  | case2 line name items rest ihitems ihrest =>
    rw [List.map_cons,valued_cons,← ihrest,MessageItem.derivation,MessageItem.derivations_eq_map,
      valued_block,← ihitems,bodyOf,exists_bind_eq_some_iff]
    constructor
    · rintro ⟨nested,hnested,h⟩
      obtain ⟨body,hbody,-⟩ := exists_bind_eq_some_iff.mp h
      exact ⟨⟨nested,hnested⟩,body,hbody⟩
    · rintro ⟨⟨nested,hnested⟩,body,hbody⟩
      exact ⟨nested,hnested,exists_bind_eq_some_iff.mpr ⟨body,hbody,_,rfl⟩⟩
  | case3 i rest hi ih =>
    rw [List.map_cons,valued_cons,← ih,bodyOf,exists_bind_eq_some_iff]
    · constructor
      · rintro ⟨body,hbody,h⟩
        exact ⟨(exists_prepend_iff body hi).mp h,body,hbody⟩
      · rintro ⟨h,body,hbody⟩
        exact ⟨body,hbody,(exists_prepend_iff body hi).mpr h⟩
    · exact hi

theorem exists_add_iff (c : Contents) (s : Statement) :
    (∃ next, c.add s = some next) ↔ Valued [s.derivation] := by
  cases s with
  | syntaxIs literal =>
    refine exists_bind_some_iff.trans ?_
    simp [Statement.derivation,Lexeme.Valued]
  | package name =>
    simp [Contents.add,Statement.derivation,Dotted.derivation,valued_dotted,Lexeme.Valued]
  | imports modifier literal =>
    have hmodifier : Valued (modifier.map ImportModifier.derivation).toList := by
      rcases modifier with _ | ⟨_ | _⟩ <;> simp [ImportModifier.derivation,Lexeme.Valued]
    refine exists_bind_some_iff.trans ?_
    simp [Statement.derivation,hmodifier,Lexeme.Valued]
  | option s =>
    rw [Statement.derivation,valued_alone,← exists_checkSetting_iff]
    exact exists_bind_some_iff
  | message line name items =>
    rw [Statement.derivation,valued_block,← exists_bodyOf_iff]
    exact exists_bind_some_iff
  | enum e =>
    rw [Statement.derivation,← exists_ofEnum_iff]
    exact exists_bind_some_iff
  | empty => simp [Contents.add,Statement.derivation,emptyDerivation,Lexeme.Valued]

/-- The statements of a text can be drafted exactly if all its literals have values. -/
theorem exists_contents_iff (statements : List Statement) :
    (∃ c, statements.foldlM Contents.add {} = some c) ↔
      ∀ l ∈ (fileDerivation statements).yield, l.Valued := by
  rw [fileDerivation,yield_node]
  refine Iff.trans ?_ (valued_map (f := Statement.derivation)).symm
  exact exists_foldlM_eq_some_iff exists_add_iff

/-! ## What a file says at most once -/

/-- The syntax that a statement says. -/
def version? : Statement → Option String
  | .syntaxIs literal => textValue? literal
  | _ => none

/-- The package that a statement says. -/
def package? : Statement → Option String
  | .package name => some (ofDotted name)
  | _ => none

def versions (statements : List Statement) : List String := statements.filterMap version?

def packages (statements : List Statement) : List String := statements.filterMap package?

theorem add_says {c next : Contents} {s : Statement} (h : c.add s = some next) :
    next.syntaxes = c.syntaxes ++ (version? s).toList ∧
      next.packages = c.packages ++ (package? s).toList := by
  cases Contents.adds_of_add h with
  | syntaxIs hvalue => simp [version?,package?,hvalue]
  | package | imports | option | message | enum | empty => simp [version?,package?]

theorem contents_says {statements : List Statement} {c last : Contents}
    (h : statements.foldlM Contents.add c = some last) :
    last.syntaxes = c.syntaxes ++ versions statements ∧
      last.packages = c.packages ++ packages statements := by
  rw [foldlM_eq_some_iff] at h
  induction h with
  | nil => simp [versions,packages]
  | @cons c next last s rest hnext _ ih =>
    obtain ⟨hversion,hpackage⟩ := add_says hnext
    obtain ⟨hversions,hpackages⟩ := ih
    rw [hversions,hpackages,hversion,hpackage,List.append_assoc,List.append_assoc]
    cases hv : version? s <;> cases hp : package? s <;> simp [versions,packages,hv,hp]

theorem only?_cases (values : List String) (repeated : DraftError) :
    (∃ value : Option String, values = value.toList ∧ only? values repeated = .ok value) ∨
      (1 < values.length ∧ only? values repeated = .error repeated) := by
  match values with
  | [] => exact .inl ⟨none,rfl,rfl⟩
  | [v] => exact .inl ⟨some v,rfl,rfl⟩
  | _ :: _ :: _ => exact .inr ⟨by simp,rfl⟩

/-- The syntax is said at most once, and is one that there is. -/
def KnownSyntax (statements : List Statement) : Prop :=
  versions statements = [] ∨ versions statements = ["proto2"] ∨ versions statements = ["proto3"]

/-- What keeps well formed statements from being drafted, or the draft. -/
inductive Outcome (statements : List Statement) : Except DraftError FileDraft → Prop
  | unvalued {l : Lexeme} (hl : l ∈ (fileDerivation statements).yield) (hvalue : ¬ l.Valued) :
      Outcome statements (.error .malformedLiteral)
  | syntaxes (hvalued : ∀ l ∈ (fileDerivation statements).yield, l.Valued)
      (h : 1 < (versions statements).length) : Outcome statements (.error .repeatedSyntax)
  | unsupported (hvalued : ∀ l ∈ (fileDerivation statements).yield, l.Valued) {version : String}
      (hversion : versions statements = [version]) (h : version ≠ "proto2" ∧ version ≠ "proto3") :
      Outcome statements (.error (.unsupportedSyntax version))
  | packages (hvalued : ∀ l ∈ (fileDerivation statements).yield, l.Valued)
      (hknown : KnownSyntax statements) (h : 1 < (packages statements).length) :
      Outcome statements (.error .repeatedPackage)
  | drafted (hvalued : ∀ l ∈ (fileDerivation statements).yield, l.Valued)
      (hknown : KnownSyntax statements) (h : (packages statements).length ≤ 1) {draft : FileDraft} :
      Outcome statements (.ok draft)

/-- Behind a known syntax, only the packages still matter. -/
theorem outcome_packages {statements : List Statement} {said : List String}
    {draft : Option String → FileDraft}
    (hvalued : ∀ l ∈ (fileDerivation statements).yield, l.Valued)
    (hknown : KnownSyntax statements) (hsaid : said = packages statements) :
    Outcome statements (only? said .repeatedPackage >>= fun package => .ok (draft package)) := by
  rcases only?_cases said .repeatedPackage with ⟨package,hp,hpackage⟩ | ⟨hmore,hpackage⟩
  · have hlength : (packages statements).length ≤ 1 := by
      rw [← hsaid,hp]
      cases package <;> simp
    rw [hpackage]
    exact .drafted hvalued hknown hlength
  · rw [hpackage]
    exact .packages hvalued hknown (hsaid ▸ hmore)

theorem outcome_ofStatements (path : String) (text : List Char) (statements : List Statement) :
    Outcome statements (ofStatements path text statements) := by
  rw [ofStatements]
  cases hc : statements.foldlM Contents.add {} with
  | none =>
    have hnone : ¬ ∀ l ∈ (fileDerivation statements).yield, l.Valued := by
      rw [← exists_contents_iff,hc]
      simp
    push Not at hnone
    obtain ⟨l,hl,hvalue⟩ := hnone
    exact .unvalued hl hvalue
  | some c =>
    have hvalued := (exists_contents_iff statements).mp ⟨c,hc⟩
    obtain ⟨hversions,hpackages⟩ := contents_says hc
    rw [List.nil_append] at hversions hpackages
    dsimp only
    rcases only?_cases c.syntaxes .repeatedSyntax with ⟨version,hv,hversion⟩ | ⟨hmore,hversion⟩
    · rw [hversions] at hv
      rw [hversion]
      cases version with
      | none => exact outcome_packages hvalued (.inl hv) hpackages
      | some v =>
        by_cases hbad : v ≠ "proto2" ∧ v ≠ "proto3"
        · simp only [bind,Except.bind,if_pos hbad]
          exact .unsupported hvalued hv hbad
        · have hknown : KnownSyntax statements := by
            rcases not_and_or.mp hbad with h2 | h3
            · exact .inr (.inl (hv.trans (by rw [not_not.mp h2]; rfl)))
            · exact .inr (.inr (hv.trans (by rw [not_not.mp h3]; rfl)))
          simp only [bind,Except.bind,if_neg hbad]
          exact outcome_packages hvalued hknown hpackages
    · rw [hversion]
      exact .syntaxes hvalued (hversions ▸ hmore)

end Draft

/-- Well formed statements without a draft that no report tells about: a literal of them has no
value, or they say twice what a file says once. -/
inductive Unreported (statements : List Statement) : Prop
  | literal {l : Lexeme} (hl : l ∈ (fileDerivation statements).yield) (hvalue : ¬ l.Valued)
  | syntaxes (hvalued : ∀ l ∈ (fileDerivation statements).yield, l.Valued)
      (h : 1 < (Draft.versions statements).length)
  | packages (hvalued : ∀ l ∈ (fileDerivation statements).yield, l.Valued)
      (hknown : Draft.KnownSyntax statements) (h : 1 < (Draft.packages statements).length)

/-- A text that has no draft for a reason that no report tells. -/
def Escapes (text : List Char) : Prop :=
  ∃ statements, Grammar.read text = .ok statements ∧ Unreported statements

theorem Draft.KnownSyntax.length_le {statements : List Statement} (h : KnownSyntax statements) :
    (versions statements).length ≤ 1 := by
  rcases h with h | h | h <;> simp [h]

theorem Draft.not_knownSyntax {statements : List Statement} {version : String}
    (hversion : versions statements = [version]) (h : version ≠ "proto2" ∧ version ≠ "proto3") :
    ¬ KnownSyntax statements := by
  rw [KnownSyntax,hversion]
  simpa using h

theorem not_unreported {statements : List Statement}
    (hvalued : ∀ l ∈ (fileDerivation statements).yield, l.Valued)
    (hversions : (Draft.versions statements).length ≤ 1)
    (hpackages : Draft.KnownSyntax statements → (Draft.packages statements).length ≤ 1) :
    ¬ Unreported statements := by
  intro h
  cases h with
  | literal hl hvalue => exact hvalue (hvalued _ hl)
  | syntaxes _ h => exact absurd h (Nat.not_lt.mpr hversions)
  | packages _ hknown h => exact absurd h (Nat.not_lt.mpr (hpackages hknown))

theorem draftOf_escapes_iff (path : String) (text : List Char) :
    (∃ e, draftOf path text = .error e ∧ e.message? = none) ↔ Escapes text := by
  rw [draftOf]
  cases hread : Grammar.read text with
  | error place => simp [Escapes,hread,SchemaError.message?]
  | ok statements =>
    have hescapes : Escapes text ↔ Unreported statements := by
      simp [Escapes,hread]
    rw [hescapes]
    dsimp only
    have hsettled := Draft.outcome_ofStatements path text statements
    generalize Draft.ofStatements path text statements = outcome at hsettled ⊢
    cases hsettled with
    | unvalued hl hvalue => exact iff_of_true ⟨_,rfl,rfl⟩ (.literal hl hvalue)
    | syntaxes hvalued h => exact iff_of_true ⟨_,rfl,rfl⟩ (.syntaxes hvalued h)
    | packages hvalued hknown h => exact iff_of_true ⟨_,rfl,rfl⟩ (.packages hvalued hknown h)
    | unsupported hvalued hversion hbad =>
      refine iff_of_false (by simp [SchemaError.message?]) ?_
      refine not_unreported hvalued (by simp [hversion]) fun hknown => ?_
      exact absurd hknown (Draft.not_knownSyntax hversion hbad)
    | drafted hvalued hknown h =>
      exact iff_of_false (by simp) (not_unreported hvalued hknown.length_le fun _ => h)

/-- A text with a draft: it follows the grammar, all its literals have values, and it says at most
one syntax, a known one, and at most one package. -/
def Draftable (text : List Char) : Prop :=
  ∃ statements, Grammar.read text = .ok statements ∧
    (∀ l ∈ (fileDerivation statements).yield, l.Valued) ∧ Draft.KnownSyntax statements ∧
      (Draft.packages statements).length ≤ 1

theorem exists_draftOf_iff (path : String) (text : List Char) :
    (∃ draft, draftOf path text = .ok draft) ↔ Draftable text := by
  rw [draftOf]
  cases hread : Grammar.read text with
  | error place => simp [Draftable,hread]
  | ok statements =>
    have hdraftable : Draftable text ↔ (∀ l ∈ (fileDerivation statements).yield, l.Valued) ∧
        Draft.KnownSyntax statements ∧ (Draft.packages statements).length ≤ 1 := by
      simp [Draftable,hread]
    rw [hdraftable]
    dsimp only
    have hsettled := Draft.outcome_ofStatements path text statements
    generalize Draft.ofStatements path text statements = outcome at hsettled ⊢
    cases hsettled with
    | unvalued hl hvalue => exact iff_of_false (by simp) fun h => hvalue (h.1 _ hl)
    | syntaxes hvalued hmore =>
      exact iff_of_false (by simp) fun h => absurd hmore (Nat.not_lt.mpr h.2.1.length_le)
    | unsupported hvalued hversion hbad =>
      exact iff_of_false (by simp) fun h => Draft.not_knownSyntax hversion hbad h.2.1
    | packages hvalued hknown hmore =>
      exact iff_of_false (by simp) fun h => absurd hmore (Nat.not_lt.mpr h.2.2)
    | drafted hvalued hknown hle => exact iff_of_true ⟨_,rfl⟩ ⟨hvalued,hknown,hle⟩

end SchemaCodec
