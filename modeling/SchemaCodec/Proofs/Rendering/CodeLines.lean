import SchemaCodec.Proofs.Rendering.Agreement
import SchemaCodec.Proofs.Rendering.Uncommented

/-! # Lines of code

A source without comments has lines of code alone where no name of a field or of a oneof puts a line
feed into a line or begins one with slashes. Types and variants are called by letters and digits, and
every other line begins with a word of the generated language.
-/
namespace SchemaCodec
open Codec Rendering Text

section Lines
variable {line : String}

instance (line : String) : Decidable (IsCode line) :=
  decidable_of_iff (opensDoc line = false ∧ '\n' ∉ line.toList)
    ⟨fun ⟨hclosed,hwhole⟩ => ⟨hclosed,hwhole⟩,fun h => ⟨h.closed,h.whole⟩⟩

theorem head_of_opensDoc (h : opensDoc line = true) : (unindented line).head? = some '/' := by
  obtain ⟨rest,hrest⟩ := List.isPrefixOf_iff_prefix.mp h
  rw [← hrest]
  rfl

/-- A text without line feeds and slashes. -/
def IsPlainText (text : String) : Prop := '\n' ∉ text.toList ∧ '/' ∉ text.toList

instance (text : String) : Decidable (IsPlainText text) := inferInstanceAs (Decidable (_ ∧ _))

theorem isPlainText_append {a b : String} :
    IsPlainText (a ++ b) ↔ IsPlainText a ∧ IsPlainText b := by
  simp only [IsPlainText,String.toList_append,List.mem_append,not_or]
  exact and_and_and_comm

theorem isPlainText_of_letters {text : String} (h : ∀ c ∈ text.toList, IsWordChar c) :
    IsPlainText text :=
  ⟨not_mem_name h (by decide),not_mem_name h (by decide)⟩

theorem isPlainText_toString (n : ℤ) : IsPlainText (toString n) :=
  ⟨not_mem_toString n (by decide),not_mem_toString n (by decide)⟩

theorem IsPlainText.isCode (h : IsPlainText line) : IsCode line := by
  refine ⟨Bool.eq_false_iff.mpr fun hopens => h.2 ?_,h.1⟩
  exact (List.dropWhile_sublist (· = ' ')).subset (List.mem_of_head? (head_of_opensDoc hopens))

/-- Between texts of this kind a text of this kind stands. -/
theorem IsPlainText.isCode_between {text before after : String} (h : IsPlainText text)
    (hbefore : IsPlainText before) (hafter : IsPlainText after) :
    IsCode (before ++ text ++ after) :=
  (isPlainText_append.mpr ⟨isPlainText_append.mpr ⟨hbefore,h⟩,hafter⟩).isCode

theorem Codec.Begins.isCode {heads : List Char} (h : Begins heads line) (hs : '/' ∉ heads) :
    IsCode line := by
  obtain ⟨hwhole,c,hc,hhead⟩ := h
  refine ⟨Bool.eq_false_iff.mpr fun hopens => hs ?_,hwhole⟩
  obtain rfl : c = '/' := Option.some.inj (hhead.symm.trans (head_of_opensDoc hopens))
  exact hc

/-- A line that begins with a word of the generated language is code. -/
theorem isCode_of_head {c : Char} (hwhole : '\n' ∉ line.toList) (h : line.toList.head? = some c)
    (hblank : c ≠ ' ') (hslash : c ≠ '/') : IsCode line :=
  (begins_of_head hwhole h (List.mem_singleton_self c) hblank).isCode (by simpa using hslash.symm)

theorem Rendering.IsCode.nested (h : IsCode line) (level : ℕ) : IsCode (nested level line) := by
  refine ⟨(opensDoc_nested level line).trans h.closed,?_⟩
  rw [Rendering.nested,String.toList_append,toList_indentation]
  simpa using h.whole

theorem isCode_indent {level : ℕ} {lines : List String} (h : ∀ line ∈ lines, IsCode line) :
    ∀ line ∈ indent level lines, IsCode line := by
  intro line hline
  obtain ⟨l,hl,rfl⟩ := List.mem_map.mp hline
  split
  · exact h l hl
  · exact (h l hl).nested level

/-- A name that opens no documentation opens none where other characters follow it. -/
theorem Rendering.IsCode.append {name rest : String} (h : IsCode name) {c : Char}
    (hrest : rest.toList.head? = some c) (hblank : c ≠ ' ') (hslash : c ≠ '/')
    (hwhole : '\n' ∉ rest.toList) : IsCode (name ++ rest) := by
  refine ⟨Bool.eq_false_iff.mpr fun hopens => ?_,by simp [h.whole,hwhole]⟩
  obtain ⟨cs,hcs⟩ := List.head?_eq_some_iff.mp hrest
  have htext : unindented (name ++ rest) = unindented name ++ c :: cs := by
    rw [unindented,unindented,String.toList_append,List.dropWhile_append,hcs]
    split
    · next hempty =>
      rw [List.isEmpty_iff.mp hempty]
      simp [hblank]
    · rfl
  obtain ⟨behind,hbehind⟩ := List.isPrefixOf_iff_prefix.mp hopens
  have hname : ∀ more, unindented name ≠ "///".toList ++ more := by
    intro more he
    have hclosed := h.closed
    rw [opensDoc,he,List.isPrefixOf_iff_prefix.mpr (List.prefix_append _ _)] at hclosed
    cases hclosed
  -- Either the slashes lie in the name, or the first of the other characters is one of them.
  rcases List.append_eq_append_iff.mp (hbehind.trans htext) with ⟨more,he,-⟩ | ⟨slashes,he,hrest⟩
  · exact hname more he
  · cases slashes with
    | nil => exact hname [] (by rw [he,List.append_nil,List.append_nil])
    | cons d more =>
      obtain rfl : c = d := (List.cons.inj hrest).1
      have hmem : c ∈ "///".toList := he ▸ List.mem_append_right _ List.mem_cons_self
      exact hslash (by simpa using hmem)

end Lines
/-! ## Names and types -/

theorem isCode_escape {name : String} (h : IsCode name) : IsCode (Identifier.escape name) := by
  have hpath : ∀ w ∈ Identifier.pathWords, IsCode (w ++ "_") := by decide
  rcases Identifier.escape_cases name with ⟨hmem,he⟩ | he | he <;> rw [he]
  · exact hpath name hmem
  · exact isCode_of_head (c := 'r') (by simp [h.whole]) (by simp) (by decide) (by decide)
  · exact h

theorem isPlainText_camel (name : String) : IsPlainText (Identifier.camel name) :=
  isPlainText_of_letters Identifier.isWordChar_camel

section Types
variable {files : List SchemaFile} {text : String}

theorem isPlainText_identifier {name : String}
    (h : identifierOf (TypeIndex.ofFiles files) name = .ok text) : IsPlainText text :=
  isPlainText_of_letters (isWordChar_identifierOf h)

theorem isPlainText_groupIdentifier {m : Message} {g : String}
    (h : groupIdentifier (TypeIndex.ofFiles files) m g = .ok text) : IsPlainText text := by
  obtain ⟨identifier,hid,h⟩ := bind_eq_ok.mp h
  cases h
  exact isPlainText_append.mpr ⟨isPlainText_identifier hid,isPlainText_camel g⟩

theorem newline_not_mem_typeText {kind : Kind}
    (h : typeText (TypeIndex.ofFiles files) kind = .ok text) : '\n' ∉ text.toList := by
  induction kind generalizing text with
  | integer bits signed =>
    cases h
    exact (isWord_integerName signed bits).not_mem (by decide)
  | float bits =>
    cases h
    exact (isWord_suffix (.float bits)).not_mem (by decide)
  | bool | string | bytes =>
    cases h
    decide
  | enum _ | message _ => exact (isPlainText_identifier h).1
  | repeated element ih =>
    obtain ⟨inner,hinner,h⟩ := bind_eq_ok.mp h
    cases h
    simp [ih hinner]
  | map key value ihKey ihValue =>
    obtain ⟨keyText,hkey,h⟩ := bind_eq_ok.mp h
    obtain ⟨valueText,hvalue,h⟩ := bind_eq_ok.mp h
    cases h
    simp [ihKey hkey,ihValue hvalue]
  | oneof _ _ inner ih =>
    obtain ⟨innerText,hinner,h⟩ := bind_eq_ok.mp h
    cases h
    split <;> simp [ih hinner]

theorem newline_not_mem_fieldTypeText {kind : Kind}
    (h : fieldTypeText (TypeIndex.ofFiles files) kind = .ok text) : '\n' ∉ text.toList := by
  obtain ⟨inner,hinner,h⟩ := bind_eq_ok.mp h
  cases h
  split <;> simp [newline_not_mem_typeText hinner]

theorem newline_not_mem_defaultText {kind : Kind}
    (h : defaultText (TypeIndex.ofFiles files) kind = .ok text) : '\n' ∉ text.toList := by
  cases kind with
  | enum name =>
    obtain ⟨decl,-,h⟩ := bind_eq_ok.mp h
    cases hv : decl.values with
    | nil => simp [hv] at h
    | cons first more =>
      rw [hv] at h
      obtain ⟨identifier,hid,h⟩ := bind_eq_ok.mp h
      cases h
      simp [(isPlainText_identifier hid).1,(isPlainText_camel first.name).1]
  | _ =>
    cases h
    decide

end Types

/-! ## Lines that write and read -/

section Methods
variable {files : List SchemaFile} {m : Message}

theorem isCode_writer {kind : Kind} {p : Codec.Place} {depth : ℕ} {w : Writer}
    (h : writer kind p depth = .ok w) (hplace : '\n' ∉ p.text.toList) :
    ∀ line ∈ w.lines, IsCode line :=
  fun line hline => (begins_writer h hplace line hline).isCode (by decide)

theorem isCode_reader {kind : Kind} {sink : Sink} {depth : ℕ} {r : Reader}
    (h : reader (TypeIndex.ofFiles files) kind sink depth = .ok r)
    (hsink : ∀ value, '\n' ∉ value.toList → IsCode (sink.line value)) :
    ∀ line ∈ r.lines, IsCode line := by
  obtain ⟨front,value,hlines,hvalue,hfront⟩ := handOn_reader h
  rw [hlines,List.forall_mem_append,List.forall_mem_singleton]
  exact ⟨fun line hline => (hfront line hline).isCode (by decide),
    hsink value (handedOn_plain hvalue).1⟩

theorem newline_not_mem_field {name : String} (h : IsCode name) :
    '\n' ∉ (Codec.Place.field name).text.toList := by
  simp [Codec.Place.text,(isCode_escape h).whole]

section Written
variable {b : Binding FieldWriter} (h : WrittenFor (TypeIndex.ofFiles files) m b)
include h

theorem isCode_plainWriter (hg : b.group? = none) (hn : IsCode b.field.name) :
    ∀ line ∈ b.code.lines, IsCode line := by
  obtain ⟨field,kind,code⟩ := b
  have h : fieldWriter (TypeIndex.ofFiles files) m field kind = .ok code := h
  have hplace : '\n' ∉ (Codec.Place.field field.name).text.toList := newline_not_mem_field hn
  cases kind with
  | oneof _ _ _ => cases hg
  | message type =>
    cases h
    rw [FieldWriter.lines,List.forall_mem_cons]
    refine ⟨isCode_of_head (c := 'e') (by simp [hplace]) (by simp) (by decide) (by decide),?_⟩
    decide
  | _ =>
    obtain ⟨body,hbody,h⟩ := bind_eq_ok.mp h
    cases h
    exact isCode_writer hbody hplace

theorem isCode_memberWriter {g : String} (hg : b.group? = some g) {owner : String}
    (ho : identifierOf (TypeIndex.ofFiles files) m.fullName = .ok owner) :
    ∀ line ∈ b.code.lines, IsCode line := by
  obtain ⟨number,inner,hk⟩ := exists_kind_of_group? hg
  obtain ⟨body,hcode,hbody⟩ := memberWriter h hk ho
  have hvariant := (spelled_variant ho g b.field.name).not_mem (c := '\n') (by decide) (by decide)
  have hlines : b.code.lines = matchLine ⟨owner ++ Identifier.camel g,b.field.name⟩ ::
      numberLine number :: (indent 1 body.lines ++ ["\x7d"]) := by
    rw [hcode]
    rfl
  rw [hlines,List.forall_mem_cons,List.forall_mem_cons,List.forall_mem_append,
    List.forall_mem_singleton]
  refine ⟨?_,?_,isCode_indent (isCode_writer hbody (newline_not_mem_local _)),by decide⟩
  · refine isCode_of_head (c := 'S') ?_ (by rw [toList_matchLine]; rfl) (by decide) (by decide)
    rw [toList_matchLine]
    simpa using hvariant
  · rw [numberLine_eq]
    exact ((isPlainText_toString number).isCode_between (by decide) (by decide)).nested 1

end Written

section Read
variable {b : Binding Decoding} (h : ReadFor (TypeIndex.ofFiles files) m b)
include h

theorem isCode_plainReader (hg : b.group? = none) (hn : IsCode b.field.name) :
    ∀ line ∈ b.code.reader.lines, IsCode line := by
  obtain ⟨field,kind,code,initial⟩ := b
  have h : fieldReader (TypeIndex.ofFiles files) m field kind = .ok code := h
  have hname : '\n' ∉ (Identifier.escape field.name).toList := (isCode_escape hn).whole
  have hguarded : ∀ {kind sink body}, reader (TypeIndex.ofFiles files) kind sink 1 = .ok body →
      (∀ value, '\n' ∉ value.toList → IsCode (sink.line value)) →
      ∀ line ∈ (FieldReader.guarded body).lines, IsCode line := by
    intro kind sink body hbody hsink
    rw [FieldReader.lines,List.forall_mem_append,List.forall_mem_append]
    exact ⟨⟨by decide,isCode_indent (isCode_reader hbody hsink)⟩,by decide⟩
  cases kind with
  | oneof _ _ _ => cases hg
  | message type =>
    obtain ⟨body,hbody,h⟩ := bind_eq_ok.mp h
    cases h
    refine hguarded hbody fun value hvalue => isCode_of_head (c := 'x') ?_ ?_ (by decide) (by decide)
    · simp [Sink.line,hname,hvalue]
    · simp [Sink.line]
  | _ =>
    obtain ⟨body,hbody,h⟩ := bind_eq_ok.mp h
    cases h
    refine hguarded hbody fun value hvalue => isCode_of_head (c := 'x') ?_ ?_ (by decide) (by decide)
    · simp [Sink.line,hname,hvalue]
    · simp [Sink.line]

theorem isCode_memberReader {g : String} (hg : b.group? = some g) (hn : IsCode g) {owner : String}
    (ho : identifierOf (TypeIndex.ofFiles files) m.fullName = .ok owner) :
    ∀ line ∈ b.code.reader.lines, IsCode line := by
  obtain ⟨number,inner,hk⟩ := exists_kind_of_group? hg
  obtain ⟨field,kind,code,initial⟩ := b
  have h : fieldReader (TypeIndex.ofFiles files) m field kind = .ok code := h
  obtain rfl : kind = .oneof g number inner := hk
  obtain ⟨variant,hvariant,h⟩ := bind_eq_ok.mp h
  obtain ⟨body,hbody,h⟩ := bind_eq_ok.mp h
  cases h
  rw [variantOf,groupIdentifier,ho] at hvariant
  cases hvariant
  have hname : '\n' ∉ (Identifier.escape g).toList := (isCode_escape hn).whole
  have hpath := (spelled_variant ho g field.name).not_mem (c := '\n') (by decide) (by decide)
  rw [FieldReader.lines,List.forall_mem_append,List.forall_mem_append]
  have harm : IsCode (toString number ++ " => \x7b") :=
    (isPlainText_append.mpr ⟨isPlainText_toString number,by decide⟩).isCode
  refine ⟨⟨List.forall_mem_singleton.mpr harm,isCode_indent (isCode_reader hbody ?_)⟩,by decide⟩
  intro value hvalue
  refine isCode_of_head (c := 'x') ?_ (by simp [Sink.line]) (by decide) (by decide)
  cases isMessage inner <;> simp [Sink.line,hname,hpath,hvalue]

end Read
end Methods

/-! ## Bodies of methods -/

section Tables
variable {files : List SchemaFile} {m : Message} (hm : ∀ f ∈ m.fields, IsCode f.slot.name)
include hm

theorem isCode_slot {α : Type} {table : List (Binding α)}
    (h : table.map Binding.forget = fieldBindings m) {b : Binding α} (hb : b ∈ table) :
    IsCode b.slot.name := by
  rw [(slot_of_mem_table h hb).2]
  exact hm b.field (field_of_mem_table h hb).1

theorem isCode_plain {α : Type} {table : List (Binding α)}
    (h : table.map Binding.forget = fieldBindings m) {b : Binding α} (hb : b ∈ table)
    (hg : b.group? = none) : IsCode b.field.name := by
  have hslot := isCode_slot hm h hb
  rwa [slot_of_plain hg] at hslot

theorem isCode_group {α : Type} {table : List (Binding α)}
    (h : table.map Binding.forget = fieldBindings m) {b : Binding α} (hb : b ∈ table) {g : String}
    (hg : b.group? = some g) : IsCode g := by
  have hslot := isCode_slot hm h hb
  rwa [slot_of_group? hg] at hslot

variable {owner : String} (ho : identifierOf (TypeIndex.ofFiles files) m.fullName = .ok owner)
include ho

theorem isCode_encodeBody {table : List (Binding FieldWriter)}
    (h : encodeTable (TypeIndex.ofFiles files) m = .ok table) :
    ∀ line ∈ encodeBody table, IsCode line := by
  obtain ⟨hbindings,hcode⟩ := encodeTable_eq_ok h
  rw [encodeBody_eq,List.forall_mem_flatMap]
  intro run hrun
  have hfrom := isFrom_of_mem_runs table run hrun
  cases run with
  | plain b =>
    obtain ⟨hb,hg⟩ := hfrom
    have hlines := isCode_plainWriter (hcode b hb) hg (isCode_plain hm hbindings hb hg)
    rwa [Run.encodeLines,cutLines_eq fun line hline => (hlines line hline).whole]
  | group name first more =>
    have hname : IsCode name := by
      obtain ⟨hb,hg⟩ := hfrom.members first List.mem_cons_self
      exact isCode_group hm hbindings hb hg
    rw [Run.encodeLines,List.forall_mem_append,List.forall_mem_append,List.forall_mem_singleton,
      List.forall_mem_flatMap]
    refine ⟨⟨isCode_of_head (c := 'm') ?_ (by simp) (by decide) (by decide),fun b hb => ?_⟩,
      by decide⟩
    · simp [newline_not_mem_field hname]
    · obtain ⟨hb,hg⟩ := hfrom.members b hb
      have hlines := isCode_memberWriter (hcode b hb) hg ho
      rw [cutLines_eq fun line hline => (hlines line hline).whole]
      exact isCode_indent hlines

theorem isCode_decodeBody {table : List (Binding Decoding)}
    (h : decodeTable (TypeIndex.ofFiles files) m = .ok table) :
    ∀ line ∈ decodeBody table, IsCode line := by
  obtain ⟨hbindings,hcode⟩ := decodeTable_eq_ok h
  rw [decodeBody_eq,List.forall_mem_flatMap]
  intro run hrun
  have hfrom := isFrom_of_mem_runs table run hrun
  cases run with
  | plain b =>
    obtain ⟨hb,hg⟩ := hfrom
    have hlines := isCode_plainReader (hcode b hb).1 hg (isCode_plain hm hbindings hb hg)
    rwa [Run.decodeLines,cutLines_eq fun line hline => (hlines line hline).whole]
  | group name first more =>
    rw [Run.decodeLines,List.forall_mem_append,List.forall_mem_append,List.forall_mem_flatMap]
    refine ⟨⟨by decide,fun b hb => ?_⟩,by decide⟩
    obtain ⟨hb,hg⟩ := hfrom.members b hb
    have hlines := isCode_memberReader (hcode b hb).1 hg (isCode_group hm hbindings hb hg) ho
    rw [cutLines_eq fun line hline => (hlines line hline).whole]
    exact isCode_indent hlines

end Tables

/-! ## Blocks -/

namespace Rendering

/-- A struct whose names and texts leave every line of code as it is. -/
structure StructBlock.IsPlain (b : StructBlock) : Prop where
  name : IsPlainText b.name
  fields : ∀ s ∈ b.fields, IsCode s.name ∧ '\n' ∉ s.type.toList ∧ '\n' ∉ s.initial.toList
  oneofs : ∀ o ∈ b.oneofs,
    IsPlainText o.name ∧ ∀ v ∈ o.variants, IsPlainText v.1 ∧ '\n' ∉ v.2.toList
  encode : ∀ line ∈ b.encode, IsCode line
  decode : ∀ line ∈ b.decode, IsCode line

theorem OneofBlock.isCode_lines {o : OneofBlock} (hname : IsPlainText o.name)
    (hvariants : ∀ v ∈ o.variants, IsPlainText v.1 ∧ '\n' ∉ v.2.toList) :
    ∀ line ∈ o.lines, IsCode line := by
  rw [OneofBlock.lines,List.forall_mem_append,List.forall_mem_append,List.forall_mem_cons,
    List.forall_mem_singleton,List.forall_mem_map]
  refine ⟨⟨⟨by decide,hname.isCode_between (by decide) (by decide)⟩,?_⟩,by decide⟩
  rintro ⟨variant,type⟩ hv
  obtain ⟨hvariant,htype⟩ := hvariants _ hv
  simp only [String.append_assoc]
  exact (hvariant.isCode.append (c := '(') (by simp) (by decide) (by decide)
    (by simp [htype])).nested 1

theorem StructBlock.IsPlain.isCode_lines {b : StructBlock} (h : b.IsPlain) :
    ∀ line ∈ b.uncommented.lines, IsCode line := by
  have hnamed : ∀ {before after : String}, IsPlainText before → IsPlainText after →
      IsCode (before ++ b.name ++ after) := fun hbefore hafter => h.name.isCode_between hbefore hafter
  have hopen : IsCode (b.name ++ " \x7b") := (isPlainText_append.mpr ⟨h.name,by decide⟩).isCode
  have hfields : ∀ s ∈ b.fields, ∀ line ∈ s.uncommented.lines, IsCode line := by
    intro s hs
    obtain ⟨hname,htype,-⟩ := h.fields s hs
    refine List.forall_mem_singleton.mpr (IsCode.nested ?_ 1)
    refine isCode_of_head (c := 'p') ?_ (by simp) (by decide) (by decide)
    simp [StructField.uncommented,hname.whole,htype]
  have hinitial : ∀ s ∈ b.fields, IsCode (nested 3 (s.name ++ ": " ++ s.initial ++ ",")) := by
    intro s hs
    obtain ⟨hname,-,hinitial⟩ := h.fields s hs
    simp only [String.append_assoc]
    exact (hname.append (c := ':') (by simp) (by decide) (by decide) (by simp [hinitial])).nested 3
  have honeofs : ∀ o ∈ b.oneofs, ∀ line ∈ o.lines, IsCode line := fun o ho =>
    OneofBlock.isCode_lines (h.oneofs o ho).1 (h.oneofs o ho).2
  simp only [StructBlock.uncommented,StructBlock.lines,List.forall_mem_append,
    List.forall_mem_flatMap,List.forall_mem_map]
  refine ⟨⟨⟨⟨⟨⟨⟨⟨⟨⟨honeofs,by decide⟩,?struct⟩,hfields⟩,?default⟩,hinitial⟩,?impl⟩,
    fun line hline => (h.encode line hline).nested 2⟩,?decode⟩,
    fun line hline => (h.decode line hline).nested 2⟩,by decide⟩
  all_goals simp only [List.forall_mem_cons]
  case struct => exact ⟨by decide,hnamed (by decide) (by decide),by simp⟩
  case default =>
    exact ⟨by decide,by decide,hnamed (by decide) (by decide),by decide,hopen.nested 2,by simp⟩
  case impl =>
    exact ⟨by decide,by decide,by decide,by decide,hnamed (by decide) (by decide),by decide,by simp⟩
  case decode =>
    exact ⟨by decide,by decide,by decide,(hnamed (by decide) (by decide)).nested 1,by decide,
      by decide,by decide,(hnamed (by decide) (by decide)).nested 2,by simp⟩

/-- The lines of an enum whose name and variants are plain texts are code. -/
theorem EnumBlock.isCode_lines {b : EnumBlock} {first : String} (hname : IsPlainText b.name)
    (hvariants : ∀ v ∈ b.variants, IsPlainText v.1) (hfirst : IsPlainText first) :
    ∀ line ∈ b.uncommented.lines first, IsCode line := by
  have hnamed : ∀ {before after : String}, IsPlainText before → IsPlainText after →
      IsCode (before ++ b.name ++ after) := fun hbefore hafter => hname.isCode_between hbefore hafter
  have hfirst : IsCode (b.name ++ "::" ++ first) :=
    (isPlainText_append.mpr ⟨isPlainText_append.mpr ⟨hname,by decide⟩,hfirst⟩).isCode
  simp only [EnumBlock.uncommented,EnumBlock.lines,List.forall_mem_append,List.forall_mem_map]
  refine ⟨⟨⟨⟨⟨by decide,?enum⟩,fun v hv => ?variant⟩,?impls⟩,fun v hv => ?arm⟩,by decide⟩
  case enum =>
    simp only [List.forall_mem_cons]
    exact ⟨by decide,by decide,hnamed (by decide) (by decide),by simp⟩
  case variant =>
    refine (IsPlainText.isCode ?_).nested 1
    simp only [isPlainText_append]
    exact ⟨⟨⟨hvariants v hv,by decide⟩,isPlainText_toString v.2⟩,by decide⟩
  case impls =>
    simp only [List.forall_mem_cons]
    exact ⟨by decide,by decide,hnamed (by decide) (by decide),by decide,hfirst.nested 2,by decide,
      by decide,by decide,hnamed (by decide) (by decide),by decide,by decide,by decide,by decide,
      by simp⟩
  case arm =>
    refine (IsPlainText.isCode ?_).nested 3
    simp only [isPlainText_append]
    exact ⟨⟨⟨⟨⟨isPlainText_toString v.2,by decide⟩,hname⟩,by decide⟩,hvariants v hv⟩,by decide⟩

end Rendering

section Blocks
variable {files : List SchemaFile}

theorem isPlain_of_structBlock {m : Message} (hm : ∀ f ∈ m.fields, IsCode f.slot.name)
    {encode : List (Binding FieldWriter)} {decode : List (Binding Decoding)}
    (he : encodeTable (TypeIndex.ofFiles files) m = .ok encode)
    (hd : decodeTable (TypeIndex.ofFiles files) m = .ok decode) {b : StructBlock}
    (hb : structBlock (TypeIndex.ofFiles files) m encode decode = .ok b) : b.IsPlain := by
  obtain ⟨hfields,honeofs,ho,hencode,hdecode⟩ := structBlock_eq_ok hb
  obtain ⟨hbindings,hcode⟩ := decodeTable_eq_ok hd
  have hbound : ∀ p ∈ boundFields decode m.fields, p.2 ∈ decode ∧ boundSlot p = p.2.slot := by
    intro p hp
    obtain ⟨f,-,hmap⟩ := List.mem_filterMap.mp hp
    obtain ⟨d,hfind,rfl⟩ := Option.map_eq_some_iff.mp hmap
    have hname : d.field.name = f.name := by simpa using List.find?_some hfind
    refine ⟨List.mem_reverse.mp (List.mem_of_find?_eq_some hfind),?_⟩
    cases hg : d.group? with
    | some g => simp [boundSlot,hg,slot_of_group? hg]
    | none => simp [boundSlot,hg,slot_of_plain hg,hname]
  refine ⟨isPlainText_identifier ho,fun s hs => ?_,fun o hmem => ?_,?_,?_⟩
  · obtain ⟨p,hp,hof⟩ := fieldOf_of_mem_structFields hfields s hs
    obtain ⟨hmem,hslot⟩ := hbound p hp
    refine ⟨?_,?_⟩
    · rw [hof.name,hslot]
      exact isCode_escape (isCode_slot hm hbindings hmem)
    · cases hg : p.2.group? with
      | some g =>
        obtain ⟨type,htype,hs,hinitial⟩ := hof.group g hg
        rw [hs,hinitial]
        exact ⟨by simp [(isPlainText_groupIdentifier htype).1],by decide⟩
      | none =>
        obtain ⟨htype,hinitial⟩ := hof.plain hg
        rw [hinitial]
        exact ⟨newline_not_mem_fieldTypeText htype,newline_not_mem_defaultText (hcode _ hmem).2⟩
  · obtain ⟨g,-,ho⟩ := exists_of_mem_right (mapM_eq_ok_iff.mp honeofs) hmem
    obtain ⟨name,hname,ho⟩ := bind_eq_ok.mp ho
    obtain ⟨variants,hvariants,ho⟩ := bind_eq_ok.mp ho
    cases ho
    refine ⟨isPlainText_groupIdentifier hname,fun v hv => ?_⟩
    obtain ⟨p,-,hp⟩ := exists_of_mem_right (mapM_eq_ok_iff.mp hvariants) hv
    obtain ⟨type,htype,hp⟩ := bind_eq_ok.mp hp
    cases hp
    exact ⟨isPlainText_camel p.1.name,newline_not_mem_typeText htype⟩
  · rw [hencode]
    exact isCode_encodeBody hm ho he
  · rw [hdecode]
    exact isCode_decodeBody hm ho hd

/-- The slots of a declaration's fields are called by names that keep lines of code as they are. -/
def Declaration.KeepsCode : Declaration → Prop
  | .enum _ => True
  | .message m => ∀ f ∈ m.fields, IsCode f.slot.name

instance (d : Declaration) : Decidable d.KeepsCode :=
  match d with
  | .enum _ => isTrue trivial
  | .message m => inferInstanceAs (Decidable (∀ f ∈ m.fields, IsCode f.slot.name))

/-- The block of such a declaration has lines of code alone, its comments apart. -/
theorem isCode_of_blockOf {d : Declaration} (hd : d.KeepsCode) {block : Block} {usesMap : Bool}
    (h : blockOf (TypeIndex.ofFiles files) d = .ok (block,usesMap)) {lines : List String}
    (hlines : block.uncommented.lines = .ok lines) : ∀ line ∈ lines, IsCode line := by
  cases d with
  | message m =>
    obtain ⟨encode,decode,b,he,hdecode,hb,rfl⟩ := blockOf_message_eq_ok h
    obtain rfl := Except.ok.inj hlines
    exact (isPlain_of_structBlock hd he hdecode hb).isCode_lines
  | enum decl =>
    obtain ⟨b,hb,h⟩ := bind_eq_ok.mp h
    obtain ⟨identifier,hid,hb⟩ := bind_eq_ok.mp hb
    cases hb
    cases h
    have hvariants : ∀ v ∈ decl.values.map fun v => (Identifier.camel v.name,v.number),
        IsPlainText v.1 := List.forall_mem_map.mpr fun v _ => isPlainText_camel v.name
    have hname := isPlainText_identifier hid
    cases hv : decl.values.map fun v => (Identifier.camel v.name,v.number) with
    | nil => simp [Block.uncommented,EnumBlock.uncommented,Block.lines,hv] at hlines
    | cons first more =>
      rw [hv] at hlines hvariants
      obtain rfl := Except.ok.inj hlines
      exact EnumBlock.isCode_lines hname hvariants (hvariants first List.mem_cons_self)

end Blocks

/-! ## Headings -/

section Headings
variable {file : SchemaFile}

/-- A comment that is no documentation. -/
theorem isCode_comment {line : String} (hwhole : '\n' ∉ line.toList)
    (h : line.toList.take 3 = ['/','/',' ']) : IsCode line := by
  refine ⟨Bool.eq_false_iff.mpr fun hopens => ?_,hwhole⟩
  have hhead : line.toList.head? = some '/' := by
    rw [← List.take_append_drop 3 line.toList,h]
    rfl
  rw [opensDoc,unindented_of_head hhead (by decide)] at hopens
  have htake := List.prefix_iff_eq_take.mp (List.isPrefixOf_iff_prefix.mp hopens)
  exact absurd (htake.trans h) (by decide)

theorem SchemaFile.newline_not_mem_modulePath (hpath : '\n' ∉ file.path.toList)
    (hpackage : '\n' ∉ file.package.toList) : '\n' ∉ file.modulePath.toList := by
  have hparts : ∀ part ∈ (if file.package = "" then split '/' file.stem
      else split '.' file.package.toList), '\n' ∉ part := by
    split
    · refine fun part hpart hmem => hpath ?_
      have hstem := mem_of_mem_split hpart hmem
      unfold SchemaFile.stem dropSuffix? at hstem
      split at hstem
      · exact List.mem_of_mem_take hstem
      · exact hstem
    · exact fun part hpart hmem => hpackage (mem_of_mem_split hpart hmem)
  intro hmem
  rw [SchemaFile.modulePath,joinStrings,String.toList_ofList] at hmem
  rcases mem_of_mem_join hmem with hmem | ⟨piece,hpiece,hmem⟩
  · exact absurd hmem (by decide)
  · obtain ⟨text,htext,rfl⟩ := List.mem_map.mp hpiece
    rcases List.mem_cons.mp htext with rfl | htext
    · exact absurd hmem (by decide)
    · obtain ⟨part,hpart,rfl⟩ := List.mem_map.mp htext
      rw [String.toList_ofList] at hmem
      exact hparts part hpart (Identifier.mem_of_mem_snakeChars (by decide) (by decide) hmem)

/-- The heading of a source is made of lines of code. -/
theorem isCode_headingLines {files : List SchemaFile}
    (h : ∀ g ∈ files, '\n' ∉ g.path.toList ∧ '\n' ∉ g.package.toList) (hfile : file ∈ files)
    {plan : EmissionPlan}
    (hplan : file.plan (TypeIndex.ofFiles files) = .ok plan) (usesMap : Bool) {version : String}
    (hversion : '\n' ∉ version.toList) :
    ∀ line ∈ headingLines file plan usesMap version, IsCode line := by
  obtain ⟨hpath,hpackage⟩ := h file hfile
  have himports : ∀ ref ∈ plan.imports, '\n' ∉ ref.rustPath.toList := by
    rw [(SchemaFile.of_plan hplan).1]
    intro ref href
    obtain ⟨name,-,hmap⟩ := List.mem_filterMap.mp ((List.mergeSort_perm _ _).mem_iff.mp href)
    obtain ⟨e,he,rfl⟩ := Option.map_eq_some_iff.mp hmap
    obtain ⟨-,g,hg,d,-,rfl⟩ := TypeIndex.exists_of_find? he
    have hmodule := g.newline_not_mem_modulePath (h g hg).1 (h g hg).2
    have hidentifier : IsPlainText (typeIdentifier d.fullName g.package) :=
      isPlainText_of_letters isWordChar_typeIdentifier
    simp [importOf,TypeIndex.entryOf,hmodule,hidentifier.1]
  rw [headingLines]
  simp only [List.forall_mem_append,List.forall_mem_map]
  refine ⟨⟨⟨⟨⟨?source,?package⟩,by decide⟩,?maps⟩,by decide⟩,fun ref href => ?uses⟩
  case source =>
    simp only [List.forall_mem_cons]
    exact ⟨isCode_comment (by simp [hversion]) (by simp),
      isCode_comment (by simp [hpath]) (by simp),by simp⟩
  case package =>
    split
    · simp
    · exact List.forall_mem_singleton.mpr (isCode_comment (by simp [hpackage]) (by simp))
  case maps => cases usesMap <;> decide
  case uses =>
    refine isCode_of_head (c := 'u') ?_ (by simp) (by decide) (by decide)
    simp [himports ref href]

end Headings
end SchemaCodec
