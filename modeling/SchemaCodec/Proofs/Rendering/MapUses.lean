import SchemaCodec.Proofs.Rendering.Blocks
import SchemaCodec.Proofs.Rendering.DocLines
import SchemaCodec.Proofs.Rendering.KnownTypes

/-! # Where generated code uses maps

A kind uses maps exactly if the map type stands in the text of its type, and exactly if it stands in
some line that reads a value. Texts are put together from pieces, so it is shown of each piece, and
of each place where two pieces meet, that no such text is in it. A source that makes use of the map
type anywhere therefore has the line that brings it into scope.
-/
namespace SchemaCodec
open Codec Rendering Text

/-- How code makes use of the map type: by naming it with its parameters, by making an empty map, or
by making one with room for entries. -/
def mapUses : List String := ["HashMap<","HashMap::new(","HashMap::with_capacity("]

def InstantiatesMap (text : String) : Prop := ∃ use ∈ mapUses, Occurs use text

instance (text : String) : Decidable (InstantiatesMap text) :=
  inferInstanceAs (Decidable (∃ use ∈ mapUses, _))

/-- The name of the map type and its uses. -/
def mapTexts : List String := "HashMap" :: mapUses

section Parts
variable {part a b : String}

theorem Occurs.followed (h : Occurs part a) (b : String) : Occurs part (a ++ b) := by
  rw [Occurs,String.toList_append]
  exact List.IsInfix.trans h (List.prefix_append _ _).isInfix

theorem Occurs.behind (h : Occurs part b) (a : String) : Occurs part (a ++ b) := by
  rw [Occurs,String.toList_append]
  exact List.IsInfix.trans h (List.suffix_append _ _).isInfix

end Parts

/-! ## Texts without maps -/

section Texts
variable {part a b : String}

theorem not_occurs_of_not_mem {c : Char} (hc : c ∈ part.toList) (h : c ∉ a.toList) :
    ¬ Occurs part a :=
  fun hin => h (hin.subset hc)

/-- What is in neither of two texts is in both together only if it begins where the one ends and
ends where the other begins. -/
theorem not_occurs_append (ha : ¬ Occurs part a) (hb : ¬ Occurs part b)
    (hjoin : ∀ p q, part.toList = p ++ q → p ≠ [] → q ≠ [] → p <:+ a.toList → ¬ q <+: b.toList) :
    ¬ Occurs part (a ++ b) := by
  intro h
  rw [Occurs,String.toList_append,List.infix_append_iff] at h
  rcases h with h | h | ⟨p,q,he,hp,hq⟩
  · exact ha h
  · exact hb h
  · by_cases hp' : p = []
    · rw [hp',List.nil_append] at he
      exact hb (by rw [Occurs,he]; exact hq.isInfix)
    · by_cases hq' : q = []
      · rw [hq',List.append_nil] at he
        exact ha (by rw [Occurs,he]; exact hp.isInfix)
      · exact hjoin p q he hp' hq' hp hq

variable (hpart : part ∈ mapTexts)
include hpart

theorem not_occurs_of_plain (h : 'H' ∉ a.toList) : ¬ Occurs part a := by
  have hall : ∀ part ∈ mapTexts, 'H' ∈ part.toList := by decide
  exact not_occurs_of_not_mem (hall part hpart) h

/-- A use of maps does not begin in a text without its first letter. -/
theorem not_occurs_behind (ha : 'H' ∉ a.toList) (hb : ¬ Occurs part b) :
    ¬ Occurs part (a ++ b) := by
  refine not_occurs_append (not_occurs_of_plain hpart ha) hb fun p q he hp _ hsuffix _ => ha ?_
  have hall : ∀ part ∈ mapTexts, part.toList.head? = some 'H' := by decide
  obtain ⟨c,rest,rfl⟩ := List.exists_cons_of_ne_nil hp
  have hhead := hall part hpart
  rw [he] at hhead
  obtain rfl : c = 'H' := Option.some.inj hhead
  exact hsuffix.subset List.mem_cons_self

/-- A use of maps goes on only behind parts of names and colons. -/
theorem not_occurs_apart (ha : ¬ Occurs part a) (hends : endsApart a = true)
    (hb : ¬ Occurs part b) : ¬ Occurs part (a ++ b) := by
  refine not_occurs_append ha hb fun p q he hp hq hsuffix _ => ?_
  have hall : ∀ part ∈ mapTexts, part.toList.dropLast.all (fun c => !isBreak c) = true := by
    decide
  obtain ⟨init,c,rfl⟩ := (List.eq_nil_or_concat p).resolve_left hp
  obtain ⟨before,hbefore⟩ := hsuffix
  have hlast : a.toList.getLast? = some c := by
    rw [← hbefore]
    simp
  rw [endsApart,hlast] at hends
  have hin : c ∈ part.toList.dropLast := by
    rw [he,List.dropLast_append_of_ne_nil hq]
    simp
  have hgoes := List.all_eq_true.mp (hall part hpart) c hin
  rw [Option.any_some] at hends
  simp [hends] at hgoes

/-- A text in which no use of maps stands or ends. -/
def Inert (text : String) : Prop := ∀ part ∈ mapTexts, ¬ Occurs part text ∧
  ∀ q ∈ part.toList.tails, q ≠ [] → ¬ q <+: text.toList

instance (text : String) : Decidable (Inert text) :=
  inferInstanceAs (Decidable (∀ part ∈ mapTexts, _ ∧ ∀ q ∈ part.toList.tails, _))

theorem not_occurs_followed (ha : ¬ Occurs part a) (hb : Inert b) : ¬ Occurs part (a ++ b) := by
  refine not_occurs_append ha (hb part hpart).1 fun p q he _ hq _ => (hb part hpart).2 q ?_ hq
  exact (List.mem_tails _ _).mpr ⟨p,he.symm⟩

/-- Between plain code and inert code nothing that uses maps comes about. -/
theorem not_occurs_around (h : ¬ Occurs part a) {before after : String}
    (hbefore : 'H' ∉ before.toList) (hafter : Inert after) :
    ¬ Occurs part (before ++ a ++ after) :=
  not_occurs_followed hpart (not_occurs_behind hpart hbefore h) hafter

end Texts

/-! ## Words of generated code -/

theorem plain_numeral (n : ℕ) : 'H' ∉ Nat.toDigits 10 n :=
  fun h => absurd (isDigit_of_mem h) (by decide)

theorem plain_integerName (signed : Bool) (bits : ℕ) :
    'H' ∉ (Kind.integerName signed bits).toList := by
  cases signed <;> simp [Kind.integerName,plain_numeral]

theorem plain_suffix (type : Primitive) : 'H' ∉ type.suffix.toList := by
  cases type with
  | integer bits signed => exact plain_integerName signed bits
  | float bits => simp [Primitive.suffix,plain_numeral]
  | bool | string | bytes => decide

theorem plain_local (v : Local) : 'H' ∉ v.text.toList := by
  cases v <;> simp [Local.text,plain_numeral]

theorem plain_wireKind (kind : WireKind) : 'H' ∉ kind.text.toList := by
  cases kind with
  | integer bits signed => cases signed <;> simp [WireKind.text,plain_numeral]
  | float bits => simp [WireKind.text,plain_numeral]
  | bool | string | bytes | any | array | map => decide

/-! ## Types and first values -/

section Kinds
variable {part : String} {index : TypeIndex} {kind : Kind}

/-- The types that a kind names are not called after the map type or a use of it. -/
def NamedWithout (part : String) (index : TypeIndex) (kind : Kind) : Prop :=
  ∀ name ∈ namedTypes kind, ∀ identifier, identifierOf index name = .ok identifier →
    ¬ Occurs part identifier

theorem occurs_typeText (huses : kind.usesMap = true) {text : String}
    (h : typeText index kind = .ok text) : Occurs "HashMap" text := by
  induction kind generalizing text with
  | integer _ _ | float _ | bool | string | bytes | enum _ | message _ => cases huses
  | repeated element ih =>
    obtain ⟨inner,hinner,h⟩ := bind_eq_ok.mp h
    cases h
    exact ((ih huses hinner).behind _).followed _
  | map key value =>
    obtain ⟨keyText,-,h⟩ := bind_eq_ok.mp h
    obtain ⟨valueText,-,h⟩ := bind_eq_ok.mp h
    cases h
    have hname : Occurs "HashMap" "HashMap<" := by decide
    exact (((hname.followed _).followed _).followed _).followed _
  | oneof _ _ inner ih =>
    obtain ⟨text',htext,h⟩ := bind_eq_ok.mp h
    cases h
    split
    · exact ((ih huses htext).behind _).followed _
    · exact ih huses htext

variable (hpart : part ∈ mapTexts)
include hpart

theorem not_occurs_typeText (hnamed : NamedWithout part index kind)
    (huses : kind.usesMap = false) {text : String} (h : typeText index kind = .ok text) :
    ¬ Occurs part text := by
  induction kind generalizing text with
  | integer bits signed =>
    cases h
    exact not_occurs_of_plain hpart (plain_integerName signed bits)
  | float bits =>
    cases h
    exact not_occurs_of_plain hpart (by simp [plain_numeral])
  | bool | string | bytes =>
    cases h
    exact not_occurs_of_plain hpart (by decide)
  | enum name | message name => exact hnamed name List.mem_cons_self text h
  | repeated element ih =>
    obtain ⟨inner,hinner,h⟩ := bind_eq_ok.mp h
    cases h
    exact not_occurs_around hpart (ih hnamed huses hinner) (by decide) (by decide)
  | map key value => cases huses
  | oneof _ _ inner ih =>
    obtain ⟨text',htext,h⟩ := bind_eq_ok.mp h
    cases h
    split
    · exact not_occurs_around hpart (ih hnamed huses htext) (by decide) (by decide)
    · exact ih hnamed huses htext

theorem not_occurs_fieldTypeText (hnamed : NamedWithout part index kind)
    (huses : kind.usesMap = false) {text : String} (h : fieldTypeText index kind = .ok text) :
    ¬ Occurs part text := by
  obtain ⟨type,htype,h⟩ := bind_eq_ok.mp h
  cases h
  have hinner := not_occurs_typeText hpart hnamed huses htype
  split
  · exact not_occurs_around hpart hinner (by decide) (by decide)
  · exact hinner

/-- What a field without maps begins with, if neither the path of an enum's first value is a use of
maps. -/
theorem not_occurs_defaultText (huses : kind.usesMap = false)
    (hfirst : ∀ name, kind = .enum name → ∀ decl, enumDeclaration index name = .ok decl →
      ∀ identifier, identifierOf index name = .ok identifier → ∀ v ∈ decl.values,
        ¬ Occurs part (identifier ++ "::" ++ Identifier.camel v.name)) {text : String}
    (h : defaultText index kind = .ok text) : ¬ Occurs part text := by
  cases kind with
  | integer _ _ | float _ | bool | string | bytes | message _ | repeated _ | oneof _ _ _ =>
    cases h
    exact not_occurs_of_plain hpart (by decide)
  | map _ _ => cases huses
  | enum name =>
    obtain ⟨decl,hdecl,h⟩ := bind_eq_ok.mp h
    split at h
    · cases h
    · next first rest hvalues =>
      obtain ⟨identifier,hid,h⟩ := bind_eq_ok.mp h
      cases h
      exact hfirst name rfl decl hdecl identifier hid first (by simp [hvalues])

end Kinds

/-! ## Lines that read values -/

section Lines
variable {part : String} {lines : List String}

theorem exists_occurs_indent (h : ∃ line ∈ lines, Occurs part line) (level : ℕ) :
    ∃ line ∈ indent level lines, Occurs part line := by
  obtain ⟨line,hline,hoccurs⟩ := h
  refine ⟨_,List.mem_map_of_mem hline,?_⟩
  split
  · exact hoccurs
  · exact hoccurs.behind _

theorem not_occurs_indent (hpart : part ∈ mapTexts) (h : ∀ line ∈ lines, ¬ Occurs part line)
    (level : ℕ) : ∀ line ∈ indent level lines, ¬ Occurs part line := by
  refine List.forall_mem_map.mpr fun line hline => ?_
  split
  · exact h line hline
  · exact not_occurs_behind hpart (by simp [indentation]) (h line hline)

end Lines

section Readers
variable {part : String} {index : TypeIndex} {kind : Kind} {sink : Sink} {depth : ℕ} {r : Reader}

/-- What is done with a value makes no use of maps that the value does not make. -/
def KeepsOut (part : String) (sink : Sink) : Prop :=
  ∀ value, ¬ Occurs part value → ¬ Occurs part (sink.line value)

/-- A map is made with room for its entries before any of them is read. -/
theorem occurs_reader (huses : kind.usesMap = true) (h : reader index kind sink depth = .ok r) :
    ∃ line ∈ r.lines, Occurs "HashMap" line := by
  induction kind generalizing sink depth r with
  | integer _ _ | float _ | bool | string | bytes | enum _ | message _ => cases huses
  | repeated element ih =>
    obtain ⟨wire,-,h⟩ := bind_eq_ok.mp h
    obtain ⟨body,hbody,h⟩ := bind_eq_ok.mp h
    cases h
    obtain ⟨line,hline,hoccurs⟩ := exists_occurs_indent (ih huses hbody) 1
    exact ⟨line,by simp [Reader.lines,hline],hoccurs⟩
  | map key value =>
    obtain ⟨keyWire,-,h⟩ := bind_eq_ok.mp h
    obtain ⟨valueWire,-,h⟩ := bind_eq_ok.mp h
    obtain ⟨keyBody,-,h⟩ := bind_eq_ok.mp h
    obtain ⟨valueBody,-,h⟩ := bind_eq_ok.mp h
    cases h
    have hmade : Occurs "HashMap" " = HashMap::with_capacity(" := by decide
    refine ⟨_,List.mem_append_left _ (List.mem_append_left _ (List.mem_append_left _
      (List.mem_cons_of_mem _ List.mem_cons_self))),?_⟩
    exact ((hmade.behind _).followed _).followed _
  | oneof _ _ _ => cases h

variable (hpart : part ∈ mapTexts)
include hpart

theorem keepsOut_push (items : Local) : KeepsOut part (.push items) := fun _ hvalue =>
  not_occurs_around hpart hvalue (by simp [plain_local]) (by decide)

/-- The lines that read a value without maps. -/
theorem not_occurs_reader (hnamed : NamedWithout part index kind) (huses : kind.usesMap = false)
    (hsink : KeepsOut part sink) (h : reader index kind sink depth = .ok r) :
    ∀ line ∈ r.lines, ¬ Occurs part line := by
  have hplain {text : String} (htext : 'H' ∉ text.toList) : ¬ Occurs part text :=
    not_occurs_of_plain hpart htext
  have hcall (type : Primitive) : ¬ Occurs part ("d.decode_" ++ type.suffix ++ "()?") :=
    hplain (by simp [plain_suffix])
  induction kind generalizing sink depth r with
  | integer _ _ | float _ | bool | string | bytes =>
    cases h
    exact List.forall_mem_singleton.mpr (hsink _ (hcall _))
  | enum name =>
    obtain ⟨type,htype,h⟩ := bind_eq_ok.mp h
    obtain ⟨identifier,hid,htype⟩ := bind_eq_ok.mp htype
    cases h
    cases htype
    have hname := hnamed name List.mem_cons_self identifier hid
    have hcalled := not_occurs_followed hpart hname (b := "::try_from(") (by decide)
    refine List.forall_mem_singleton.mpr (hsink _ ?_)
    refine not_occurs_followed hpart (not_occurs_apart hpart hcalled ?_ (hcall _)) (by decide)
    exact endsApart_append identifier (by decide)
  | message name =>
    obtain ⟨type,htype,h⟩ := bind_eq_ok.mp h
    obtain ⟨identifier,hid,htype⟩ := bind_eq_ok.mp htype
    cases h
    cases htype
    have hname := hnamed name List.mem_cons_self identifier hid
    exact List.forall_mem_singleton.mpr (hsink _ (not_occurs_followed hpart hname (by decide)))
  | repeated element ih =>
    obtain ⟨wire,-,h⟩ := bind_eq_ok.mp h
    obtain ⟨body,hbody,h⟩ := bind_eq_ok.mp h
    cases h
    have hbodyLines := not_occurs_indent hpart (ih hnamed huses (keepsOut_push hpart _) hbody) 1
    simp only [Reader.lines,List.forall_mem_append,List.forall_mem_cons]
    refine ⟨⟨⟨hplain ?_,hplain ?_,hplain ?_,by simp⟩,hbodyLines⟩,hplain (by decide),
      hsink _ (hplain (plain_local _)),by simp⟩
    · simp [plain_local,plain_wireKind]
    · simp [plain_local]
    · simp [plain_local]
  | map _ _ => cases huses
  | oneof _ _ _ => cases h

end Readers

/-! ## Code of a message -/

/-- The type or the first value of a field, or what a member of a oneof holds, makes use of the map
type. -/
def Rendering.StructBlock.DeclaresMap (b : StructBlock) : Prop :=
  (∃ s ∈ b.fields, InstantiatesMap s.type ∨ InstantiatesMap s.initial) ∨
    ∃ o ∈ b.oneofs, ∃ v ∈ o.variants, InstantiatesMap v.2

/-- A line of the decode method makes use of the map type. -/
def Rendering.StructBlock.ReadsMap (b : StructBlock) : Prop :=
  ∃ line ∈ b.decode, InstantiatesMap line

theorem infix_of_mem_split {sep : Char} {cs piece : List Char} (h : piece ∈ split sep cs) :
    piece <:+: cs := by
  induction hn : cs.length using Nat.strong_induction_on generalizing cs with
  | _ n ih =>
    by_cases hmem : sep ∈ cs
    · obtain ⟨first,rest,rfl,hfirst⟩ := List.eq_append_cons_of_mem hmem
      rw [split_append,split_of_not_mem hfirst] at h
      rcases List.mem_cons.mp h with rfl | h
      · exact (List.prefix_append _ _).isInfix
      · have hrest := ih rest.length (by rw [← hn]; simp; omega) h rfl
        exact hrest.trans ((List.suffix_cons sep rest).trans (List.suffix_append first _)).isInfix
    · rw [split_of_not_mem hmem,List.mem_singleton] at h
      exact h ▸ List.infix_refl _

theorem not_occurs_cutLines {part : String} {lines : List String}
    (h : ∀ line ∈ lines, ¬ Occurs part line) :
    ∀ line ∈ cutLines lines, ¬ Occurs part line := by
  intro piece hpiece
  obtain ⟨line,hline,hpiece⟩ := List.mem_flatMap.mp hpiece
  obtain ⟨cs,hcs,rfl⟩ := List.mem_map.mp hpiece
  intro hoccurs
  rw [Occurs,String.toList_ofList] at hoccurs
  exact h line hline (List.IsInfix.trans hoccurs (infix_of_mem_split hcs))

theorem lastName_member (owner member : String) :
    lastName (owner ++ "::" ++ Identifier.camel member).toList = Identifier.camel member := by
  have hlist : (owner ++ "::" ++ Identifier.camel member).toList =
      (owner.toList ++ [':']) ++ ':' :: (Identifier.camel member).toList := by
    simp
  rw [hlist,lastName_append_cons (by decide),lastName_of_parts (isNamePart_camel member)]

/-- The calls that make a map. -/
def mapCalls : List String := ["new","with_capacity"]

section Uses
variable {part : String} (hpart : part ∈ mapUses)
include hpart

theorem mem_mapTexts : part ∈ mapTexts := List.mem_cons_of_mem _ hpart

/-- A use of maps has a bracket, which no name and no path has. -/
theorem not_occurs_path {text : String} (h : ∀ c ∈ text.toList, isBreak c = false) :
    ¬ Occurs part text := by
  have hall : ∀ part ∈ mapUses, part.toList.any isBreak = true := by decide
  obtain ⟨c,hc,hbreak⟩ := List.any_eq_true.mp (hall part hpart)
  refine not_occurs_of_not_mem hc fun hmem => ?_
  rw [h c hmem] at hbreak
  cases hbreak

theorem not_occurs_parts {text : String} (h : ∀ c ∈ text.toList, isNamePart c = true) :
    ¬ Occurs part text :=
  not_occurs_path hpart fun c hc => by simp [isBreak,h c hc]

theorem not_occurs_escape {name : String} (h : ¬ Occurs part name) :
    ¬ Occurs part (Identifier.escape name) := by
  have hall : ∀ w ∈ Identifier.pathWords, 'H' ∉ (w ++ "_").toList := by decide
  rcases Identifier.escape_cases name with ⟨hpath,he⟩ | he | he <;> rw [he]
  · exact not_occurs_of_plain (mem_mapTexts hpart) (hall name hpath)
  · exact not_occurs_behind (mem_mapTexts hpart) (by decide) h
  · exact h

/-- The paths of an enum's value and of a member of a oneof. -/
theorem not_occurs_member {owner : String} (howner : ∀ c ∈ owner.toList, isNamePart c = true)
    (member : String) : ¬ Occurs part (owner ++ "::" ++ Identifier.camel member) := by
  refine not_occurs_path hpart fun c hc => ?_
  simp only [String.toList_append,List.mem_append] at hc
  rcases hc with (hc | hc) | hc
  · simp [isBreak,howner c hc]
  · have hcolons : "::".toList.all (fun c => !isBreak c) = true := by decide
    simpa using List.all_eq_true.mp hcolons c hc
  · simp [isBreak,isNamePart_camel member c hc]

/-- A value that is put into a member of a oneof does not make it a call that makes a map, since
members do not begin with small letters. -/
theorem not_occurs_member_call {owner : String} (howner : ∀ c ∈ owner.toList, isNamePart c = true)
    (member : String) : ¬ Occurs part (owner ++ "::" ++ Identifier.camel member ++ "(") := by
  refine not_occurs_append (not_occurs_member hpart howner member) ?_
    fun p q he _ hq hp hleads => ?_
  · exact not_occurs_of_plain (mem_mapTexts hpart) (by decide)
  have hopen : "(".toList = ['('] := rfl
  have hbracket : q = ['('] := by
    obtain ⟨c,rest,rfl⟩ := List.exists_cons_of_ne_nil hq
    rw [hopen,List.cons_prefix_cons,List.prefix_nil] at hleads
    rw [hleads.1,hleads.2]
  have hcall : ∀ part ∈ mapUses, part.toList.getLast? = some '(' → ∃ call ∈ mapCalls,
      part.toList = "HashMap:".toList ++ ':' :: call.toList ++ ['('] := by
    decide
  have hsmall : ∀ call ∈ mapCalls, call.toList.all isNamePart = true ∧
      call.toList.head?.any Char.isLower = true := by
    decide
  obtain ⟨call,hmem,hlist⟩ := hcall part hpart (by simp [he,hbracket])
  obtain ⟨hparts,hfirst⟩ := hsmall call hmem
  obtain ⟨c,hc,hlower⟩ := Option.any_eq_true _ _ |>.mp hfirst
  rw [he,hbracket] at hlist
  obtain rfl := List.append_inj_left' hlist rfl
  obtain ⟨before,hbefore⟩ := hp
  -- What stands behind the last colons is the member, and it is the call.
  have hlast := congrArg lastName hbefore
  rw [lastName_member,← List.append_assoc,lastName_append_cons (by decide),
    lastName_of_parts (List.all_eq_true.mp hparts)] at hlast
  rw [Identifier.not_isLower_of_mem_head?_camel (hlast ▸ hc)] at hlower
  cases hlower

/-- Code in front of a value that makes no use of maps. -/
theorem not_occurs_between {before value after : String} (hbefore : ¬ Occurs part before)
    (hends : endsApart before = true) (hvalue : ¬ Occurs part value) (hafter : Inert after) :
    ¬ Occurs part (before ++ value ++ after) :=
  not_occurs_followed (mem_mapTexts hpart)
    (not_occurs_apart (mem_mapTexts hpart) hbefore hends hvalue) hafter

theorem not_occurs_assign {name : String} (hname : ¬ Occurs part name) {set : String}
    (hset : Inert set) : ¬ Occurs part ("x." ++ Identifier.escape name ++ set) :=
  not_occurs_around (mem_mapTexts hpart) (not_occurs_escape hpart hname) (by decide) hset

theorem keepsOut_store {name : String} (hname : ¬ Occurs part name) :
    KeepsOut part (.store name) := fun _ hvalue =>
  not_occurs_between hpart (not_occurs_assign hpart hname (by decide))
    (endsApart_append _ (by decide)) hvalue (by decide)

theorem keepsOut_storeSome {name : String} (hname : ¬ Occurs part name) :
    KeepsOut part (.storeSome name) := fun _ hvalue =>
  not_occurs_between hpart (not_occurs_assign hpart hname (by decide))
    (endsApart_append _ (by decide)) hvalue (by decide)

theorem keepsOut_storeVariant {group : String} (hgroup : ¬ Occurs part group) {v : Variant}
    (howner : ∀ c ∈ v.owner.toList, isNamePart c = true) (boxed : Bool) :
    KeepsOut part (.storeVariant group v boxed) := by
  intro value hvalue
  have hmap := mem_mapTexts hpart
  have hpayload : ¬ Occurs part (if boxed then "Box::new(" ++ value ++ ")" else value) := by
    split
    · exact not_occurs_around hmap hvalue (by decide) (by decide)
    · exact hvalue
  have hset := not_occurs_assign hpart hgroup (show Inert " = Some(" by decide)
  have hopened := not_occurs_apart hmap hset (endsApart_append _ (by decide))
    (not_occurs_member_call hpart howner v.member)
  rw [← String.append_assoc] at hopened
  exact not_occurs_between hpart hopened (endsApart_append _ (by decide)) hpayload (by decide)

section Message
variable {files : List SchemaFile} {m : Message}

theorem namedWithout_ofFiles (kind : Kind) : NamedWithout part (TypeIndex.ofFiles files) kind :=
  fun _ _ _ hid => not_occurs_parts hpart (isNamePart_identifierOf hid)

/-- The lines that read a field without maps. -/
theorem not_occurs_fieldReader {f : Field} (hslot : ¬ Occurs part f.slot.name) {kind : Kind}
    (hkind : f.kind = .ok kind) (huses : kind.usesMap = false) {r : FieldReader}
    (h : fieldReader (TypeIndex.ofFiles files) m f kind = .ok r) :
    ∀ line ∈ r.lines, ¬ Occurs part line := by
  have hmap := mem_mapTexts hpart
  have hread : ∀ {kind sink body}, kind.usesMap = false → KeepsOut part sink →
      reader (TypeIndex.ofFiles files) kind sink 1 = .ok body →
        ∀ line ∈ indent 1 body.lines ++ ["\x7d"], ¬ Occurs part line := by
    intro kind sink body hkind hsink hbody
    refine List.forall_mem_append.mpr ⟨not_occurs_indent hmap ?_ 1,List.forall_mem_singleton.mpr ?_⟩
    · exact not_occurs_reader hmap (namedWithout_ofFiles hpart kind) hkind hsink hbody
    · exact not_occurs_of_plain hmap (by decide)
  cases readsField_of_fieldReader hkind h with
  | plain hfield hsink hbody =>
    rw [hfield] at hslot
    refine List.forall_mem_cons.mpr ⟨not_occurs_of_plain hmap (by decide),hread huses ?_ hbody⟩
    rcases hsink with rfl | rfl
    · exact keepsOut_store hpart hslot
    · exact keepsOut_storeSome hpart hslot
  | @member group owner number inner boxed body hgroup howner hbody =>
    rw [Field.slot_of_group hgroup] at hslot
    have hinner : inner.usesMap = false := huses
    refine List.forall_mem_cons.mpr ⟨?_,hread hinner ?_ hbody⟩
    · exact not_occurs_behind hmap (not_mem_toString number (by decide))
        (not_occurs_of_plain hmap (by decide))
    · exact keepsOut_storeVariant hpart hslot (isNamePart_groupIdentifier howner) boxed

variable (hslots : ∀ f ∈ m.fields, ¬ Occurs part f.slot.name)
  (huses : ∀ f ∈ m.fields, ∀ kind, f.kind = .ok kind → kind.usesMap = false)
  {table : List (Binding Decoding)}
  (htable : decodeTable (TypeIndex.ofFiles files) m = .ok table)
include hslots huses htable

theorem not_occurs_decodeBody : ∀ line ∈ decodeBody table, ¬ Occurs part line := by
  have hmap := mem_mapTexts hpart
  intro line hline
  rcases mem_decodeBody hline with hframe | ⟨b,hb,level,hline⟩
  · have hall : ∀ line ∈ frameLines, 'H' ∉ line.toList := by decide
    exact not_occurs_of_plain hmap (hall line hframe)
  · obtain ⟨hf,hkind,hreader,-⟩ := of_mem_decodeTable htable hb
    exact not_occurs_indent hmap (not_occurs_cutLines (not_occurs_fieldReader hpart
      (hslots _ hf) hkind (huses _ hf _ hkind) hreader)) level line hline

end Message
end Uses

section Struct
variable {files : List SchemaFile} {m : Message} {b : StructBlock}

section Plain
variable (huses : ∀ f ∈ m.fields, ∀ kind, f.kind = .ok kind → kind.usesMap = false)
  {encode : List (Binding FieldWriter)} {table : List (Binding Decoding)}
  (htable : decodeTable (TypeIndex.ofFiles files) m = .ok table)
  (h : structBlock (TypeIndex.ofFiles files) m encode table = .ok b)
include huses htable h

/-- The struct of a message without maps makes no use of the map type. -/
theorem not_declaresMap : ¬ b.DeclaresMap := by
  have hnamed : ∀ part ∈ mapUses, ∀ kind, NamedWithout part (TypeIndex.ofFiles files) kind :=
    fun part hpart => namedWithout_ofFiles hpart
  rintro (⟨s,hs,⟨part,hpart,hin⟩ | ⟨part,hpart,hin⟩⟩ | ⟨o,ho,v,hv,part,hpart,hin⟩)
  · rcases code_of_mem_fields htable h hs with
      ⟨f,-,g,type,-,htype,he,-⟩ | ⟨f,hf,kind,hkind,htype,-⟩
    · rw [he] at hin
      refine not_occurs_around (mem_mapTexts hpart) ?_ (by decide) (by decide) hin
      exact not_occurs_parts hpart (isNamePart_groupIdentifier htype)
    · exact not_occurs_fieldTypeText (mem_mapTexts hpart) (hnamed part hpart kind)
        (huses f hf kind hkind) htype hin
  · rcases code_of_mem_fields htable h hs with ⟨f,-,g,type,-,-,-,he⟩ | ⟨f,hf,kind,hkind,-,hinitial⟩
    · rw [he] at hin
      exact not_occurs_of_plain (mem_mapTexts hpart) (by decide) hin
    · refine not_occurs_defaultText (mem_mapTexts hpart) (huses f hf kind hkind) ?_ hinitial hin
      rintro name - decl - identifier hid v -
      exact not_occurs_member hpart (isNamePart_identifierOf hid) v.name
  · obtain ⟨f,hf,kind,hkind,htext⟩ := code_of_mem_oneofs htable h ho hv
    exact not_occurs_typeText (mem_mapTexts hpart) (hnamed part hpart kind)
      (huses f hf kind hkind) htext hin

/-- Nor does its decode method, unless a field is called like such a use. -/
theorem not_readsMap (hslots : ∀ f ∈ m.fields, ¬ InstantiatesMap f.slot.name) :
    ¬ b.ReadsMap := by
  rintro ⟨line,hline,part,hpart,hin⟩
  rw [(structBlock_eq_ok h).2.2.2.2] at hline
  refine not_occurs_decodeBody hpart (fun f hf hslot => ?_) huses htable line hline hin
  exact hslots f hf ⟨part,hpart,hslot⟩

end Plain

/-- A struct that makes use of the map type in any place belongs to a message with a map. -/
theorem usesMap_of_block {usesMap : Bool}
    (h : blockOf (TypeIndex.ofFiles files) (.message m) = .ok (.struct b,usesMap))
    (hin : b.DeclaresMap ∨ (∀ f ∈ m.fields, ¬ InstantiatesMap f.slot.name) ∧ b.ReadsMap) :
    usesMap = true := by
  obtain ⟨encode,hencode,h⟩ := bind_eq_ok.mp h
  obtain ⟨decode,hdecode,h⟩ := bind_eq_ok.mp h
  obtain ⟨struct,hstruct,h⟩ := bind_eq_ok.mp h
  cases h
  by_contra hnone
  have huses : ∀ f ∈ m.fields, ∀ kind, f.kind = .ok kind → kind.usesMap = false := by
    intro f hf kind hkind
    by_contra hmap
    have hfield := (Field.usesMap_kind_iff hkind).mp (by simpa using hmap)
    exact hnone ((any_usesMap_iff hencode).mpr ⟨f,hf,hfield⟩)
  rcases hin with hin | ⟨hslots,hin⟩
  · exact not_declaresMap huses hdecode hstruct hin
  · exact not_readsMap huses hdecode hstruct hslots hin

end Struct

/-- A source whose code uses maps brings the map type into scope. -/
theorem use_mem_source {file : SchemaFile} {plan : EmissionPlan} {version : String}
    (rest : List String) : "use std::collections::HashMap;" ∈
      splitString '\n' (terminateLines (headingLines file plan true version ++ rest)) := by
  have hwhole : splitString '\n' "use std::collections::HashMap;" =
      ["use std::collections::HashMap;"] := by
    decide
  rw [splitString_terminateLines]
  refine List.mem_append_left _ (List.mem_flatMap.mpr ⟨"use std::collections::HashMap;",?_,?_⟩)
  · simp [headingLines]
  · rw [hwhole]
    exact List.mem_singleton_self _

/-! ## Kinds among other names -/

section Names
variable {index : TypeIndex} {kind : Kind}

/-- Every type that a kind names is known, and the name of the map type stands neither in what it is
called nor, if it is an enum, in what a value of it is called. -/
def WithoutMapNames (index : TypeIndex) (kind : Kind) : Prop :=
  ∀ name ∈ namedTypes kind, ∃ entry, index.find? name = some entry ∧
    ¬ Occurs "HashMap" entry.identifier ∧ ∀ decl, entry.declaration = .enum decl →
      ∀ v ∈ decl.values, ¬ Occurs "HashMap" (Identifier.camel v.name)

theorem name_mem_mapTexts : "HashMap" ∈ mapTexts := List.mem_cons_self

/-- The colons of a path stand in no name. -/
theorem not_occurs_in_path {a b : String} (ha : ¬ Occurs "HashMap" a)
    (hb : ¬ Occurs "HashMap" b) : ¬ Occurs "HashMap" (a ++ "::" ++ b) := by
  rw [String.append_assoc]
  refine not_occurs_append ha (not_occurs_behind name_mem_mapTexts (by decide) hb)
    fun p q he _ hq _ hleads => ?_
  obtain ⟨c,rest,rfl⟩ := List.exists_cons_of_ne_nil hq
  have hlist : ("::" ++ b).toList = ':' :: ':' :: b.toList := by simp
  rw [hlist,List.cons_prefix_cons] at hleads
  have hcolon : ':' ∈ "HashMap".toList := by
    rw [he,hleads.1]
    simp
  exact absurd hcolon (by decide)

variable (h : WithoutMapNames index kind)
include h

theorem WithoutMapNames.contains : ∀ name ∈ namedTypes kind, index.contains name = true := by
  intro name hname
  obtain ⟨entry,hentry,-⟩ := h name hname
  rw [TypeIndex.contains,hentry]
  rfl

theorem WithoutMapNames.namedWithout : NamedWithout "HashMap" index kind := by
  intro name hname identifier hid
  obtain ⟨entry,hentry,hfree,-⟩ := h name hname
  rw [identifierOf,hentry] at hid
  exact Except.ok.inj hid ▸ hfree

theorem WithoutMapNames.exists_typeText : ∃ text, typeText index kind = .ok text ∧
    (kind.usesMap = true ↔ Occurs "HashMap" text) := by
  obtain ⟨text,htext⟩ := Rendering.exists_typeText h.contains
  refine ⟨text,htext,fun huses => occurs_typeText huses htext,fun hin => ?_⟩
  by_contra hnone
  exact not_occurs_typeText name_mem_mapTexts h.namedWithout (by simpa using hnone) htext hin

theorem WithoutMapNames.usesMap_of_defaultText {text : String}
    (htext : defaultText index kind = .ok text) (hin : Occurs "HashMap" text) :
    kind.usesMap = true := by
  by_contra hnone
  refine not_occurs_defaultText name_mem_mapTexts (by simpa using hnone) ?_ htext hin
  rintro name rfl decl hdecl identifier hid v hv
  obtain ⟨entry,hentry,hfree,hvalues⟩ := h name List.mem_cons_self
  rw [identifierOf,hentry] at hid
  refine not_occurs_in_path (Except.ok.inj hid ▸ hfree) (hvalues decl ?_ v hv)
  unfold enumDeclaration at hdecl
  rw [hentry] at hdecl
  split at hdecl
  · next he =>
    cases hdecl
    exact congrArg TypeEntry.declaration (Option.some.inj he)
  · cases hdecl
  · cases hdecl

end Names

/-- No field or oneof of a file is called like a use of the map type. -/
def FieldsWithoutMapUses (files : List SchemaFile) (file : SchemaFile) : Prop :=
  ∀ g ∈ files, ∀ m, .message m ∈ g.declarations → m.fullName ∈ file.declaredNames →
    ∀ f ∈ m.fields, ¬ InstantiatesMap f.slot.name

/-- A block of a source that makes use of the map type is recorded as one that does. -/
theorem Assembled.usesMap_of_mem {files : List SchemaFile} {file : SchemaFile}
    {version source : String} {plan : EmissionPlan} {blocks : List (Block × Bool)}
    (ha : Assembled (TypeIndex.ofFiles files) file version source plan blocks)
    {b : StructBlock} {usesMap : Bool} (hb : (.struct b,usesMap) ∈ blocks)
    (hin : b.DeclaresMap ∨ FieldsWithoutMapUses files file ∧ b.ReadsMap) : usesMap = true := by
  obtain ⟨name,hname,d,hplanned,hblock⟩ := exists_of_mem_right ha.built hb
  obtain ⟨hfull,g,hg,hd⟩ := exists_of_plannedDeclaration hplanned
  cases d with
  | enum decl =>
    obtain ⟨_,-,hblock⟩ := bind_eq_ok.mp hblock
    cases hblock
  | message m =>
    obtain rfl : m.fullName = name := hfull
    have hdeclared := (SchemaFile.of_plan ha.planned).2 m.fullName hname
    exact usesMap_of_block hblock (hin.imp_right fun ⟨hslots,hreads⟩ =>
      ⟨hslots g hg m hd hdeclared,hreads⟩)

/-- Maps are decided the same way everywhere. For a kind without oneofs whose types and their values
are not called after the map type, the name of the map type stands in the type of a value exactly if
the kind uses maps, exactly then in some line that reads a value, whatever is done with it that adds
no such name, and in what a field begins with only then. A member of a oneof has it in its type
likewise. So a source that makes use of the map type in the type of a field or of a member, in a
first value, or in a line that reads, if no field is called like such a use, also has the line that
brings the map type into scope. -/
theorem map_uses_decided :
    (∀ (index : TypeIndex) (kind : Kind), holdsOneof kind = false → WithoutMapNames index kind →
      (∃ text, typeText index kind = .ok text ∧
        (kind.usesMap = true ↔ Occurs "HashMap" text)) ∧
      (∀ sink depth, KeepsOut "HashMap" sink → ∃ r, reader index kind sink depth = .ok r ∧
        (kind.usesMap = true ↔ ∃ line ∈ r.lines, Occurs "HashMap" line)) ∧
      (∀ text, defaultText index kind = .ok text → Occurs "HashMap" text →
        kind.usesMap = true) ∧
      ∀ group number, ∃ text, typeText index (.oneof group number kind) = .ok text ∧
        ((Kind.oneof group number kind).usesMap = true ↔ Occurs "HashMap" text)) ∧
    ∀ (files : List SchemaFile) (file : SchemaFile) (version source : String),
      render (TypeIndex.ofFiles files) file version = .ok source →
      ∃ plan blocks, Assembled (TypeIndex.ofFiles files) file version source plan blocks ∧
        ∀ b usesMap, (.struct b,usesMap) ∈ blocks →
          b.DeclaresMap ∨ FieldsWithoutMapUses files file ∧ b.ReadsMap →
          blocks.any (·.2) = true ∧
            "use std::collections::HashMap;" ∈ splitString '\n' source := by
  refine ⟨fun index kind hone hnames => ⟨hnames.exists_typeText,fun sink depth hsink => ?_,
    fun text htext hin => hnames.usesMap_of_defaultText htext hin,fun group number => ?_⟩,?_⟩
  · obtain ⟨r,hr⟩ := exists_reader hone hnames.contains sink depth
    refine ⟨r,hr,fun huses => occurs_reader huses hr,fun ⟨line,hline,hin⟩ => ?_⟩
    by_contra hnone
    exact not_occurs_reader name_mem_mapTexts hnames.namedWithout (by simpa using hnone) hsink hr
      line hline hin
  · have hmember : WithoutMapNames index (.oneof group number kind) := hnames
    exact hmember.exists_typeText
  · intro files file version source hrender
    obtain ⟨plan,blocks,ha⟩ := render_eq_ok_iff.mp hrender
    refine ⟨plan,blocks,ha,fun b usesMap hb hin => ?_⟩
    have huses := ha.usesMap_of_mem hb hin
    have hany : blocks.any (·.2) = true := List.any_eq_true.mpr ⟨_,hb,huses⟩
    obtain ⟨texts,-,hsource⟩ := ha.text
    rw [hany] at hsource
    exact ⟨hany,hsource ▸ use_mem_source _⟩

/-- A message with a map. -/
def shelfMessage : Message :=
  ⟨"Shelf","p.Shelf",
    [⟨"stock",1,.map,⟨.enum,some "p.Grade"⟩,some ⟨.scalar .string,none⟩,none,none⟩],[],[],none⟩

def shelfGrade : EnumDecl := ⟨"Grade","p.Grade",[⟨"GRADE_NONE",0,none⟩],none⟩

def shelfFile : SchemaFile := ⟨"shelf.proto","p",[],[shelfMessage],[shelfGrade],true⟩

/-- The field of this message has a map for its type. -/
theorem declaresMap_shelfMessage {block : Block} {usesMap : Bool}
    (h : blockOf (TypeIndex.ofFiles [shelfFile]) (.message shelfMessage) = .ok (block,usesMap)) :
    ∃ b, block = .struct b ∧ b.DeclaresMap := by
  obtain ⟨encode,decode,b,hencode,hdecode,hstruct,rfl⟩ := blockOf_message_eq_ok h
  have hfield : (encodeTable (TypeIndex.ofFiles [shelfFile]) shelfMessage >>= fun encode =>
      decodeTable (TypeIndex.ofFiles [shelfFile]) shelfMessage >>= fun decode =>
        structBlock (TypeIndex.ofFiles [shelfFile]) shelfMessage encode decode).toOption.any
          fun b => b.fields.any fun s => decide (InstantiatesMap s.type) := by
    decide +kernel
  rw [hencode,hdecode] at hfield
  change (structBlock _ shelfMessage encode decode).toOption.any _ = true at hfield
  rw [hstruct] at hfield
  obtain ⟨s,hs,hin⟩ := List.any_eq_true.mp (Option.any_some .. ▸ hfield)
  exact ⟨b,rfl,.inl ⟨s,hs,.inl (of_decide_eq_true hin)⟩⟩

/-- The type of a field of this message is a map, so the source has its type in scope. -/
theorem shelfFile_uses_map :
    WithoutMapNames (TypeIndex.ofFiles [shelfFile]) (.map .string (.repeated (.enum "p.Grade"))) ∧
    (∃ text, typeText (TypeIndex.ofFiles [shelfFile]) (.map .string (.repeated (.enum "p.Grade"))) =
      .ok text ∧ Occurs "HashMap" text) ∧
    ∃ source, render (TypeIndex.ofFiles [shelfFile]) shelfFile version = .ok source ∧
      "use std::collections::HashMap;" ∈ splitString '\n' source := by
  have hnames : WithoutMapNames (TypeIndex.ofFiles [shelfFile])
      (.map .string (.repeated (.enum "p.Grade"))) := by
    rintro name hname
    obtain rfl : name = "p.Grade" := List.mem_singleton.mp hname
    refine ⟨TypeIndex.entryOf shelfFile (.enum shelfGrade),rfl,by decide +kernel,?_⟩
    rintro decl hdecl v hv
    cases hdecl
    obtain rfl := List.mem_singleton.mp hv
    decide +kernel
  obtain ⟨hkinds,hfiles⟩ := map_uses_decided
  obtain ⟨⟨text,htext,huses⟩,-⟩ := hkinds _ _ rfl hnames
  refine ⟨hnames,⟨text,htext,huses.mp rfl⟩,?_⟩
  have hdeclarations : shelfFile.declarations = [.enum shelfGrade,.message shelfMessage] := by
    simp [shelfFile,shelfMessage,SchemaFile.declarations,Message.declarationsOf,
      Message.declarations]
  obtain ⟨source,hrender⟩ : ∃ source,
      render (TypeIndex.ofFiles [shelfFile]) shelfFile version = .ok source := by
    decide +kernel
  obtain ⟨plan,blocks,ha,hsource⟩ := hfiles _ _ _ _ hrender
  obtain ⟨ds,hperm,hall⟩ := ha.declarations (List.mem_singleton_self _) (by decide +kernel)
  obtain ⟨⟨block,usesMap⟩,hb,hblock⟩ := exists_of_mem_left hall
    (hperm.mem_iff.mpr (hdeclarations ▸ List.mem_cons_of_mem _ List.mem_cons_self))
  obtain ⟨b,rfl,hdeclares⟩ := declaresMap_shelfMessage hblock
  exact ⟨source,hrender,(hsource b usesMap hb (.inl hdeclares)).2⟩

end SchemaCodec
