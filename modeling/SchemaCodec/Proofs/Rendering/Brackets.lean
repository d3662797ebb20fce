import SchemaCodec.Proofs.Rendering.Agreement
import SchemaCodec.Proofs.Schema.FieldOrder

/-! # Brackets of method bodies

The bodies of both methods are nested blocks. A block opens with a line that ends in a brace and
closes with a line that begins with one, and what stands between is moved right by one level. So the
blanks that a line begins with tell how many braces are open before it.
-/
namespace SchemaCodec
open Codec

namespace Codec

/-! ## Braces and margins -/

/-- The number of open braces behind one more character, if none is closed that was not open. -/
def brace (opened : ℕ) (c : Char) : Option ℕ :=
  if c = '\x7b' then some (opened + 1)
  else if c = '\x7d' then if opened = 0 then none else some (opened - 1)
  else some opened

/-- The number of open braces behind some lines, if none is closed that was not open. -/
def bracesAfter (opened : ℕ) (lines : List String) : Option ℕ :=
  (lines.flatMap String.toList).foldlM brace opened

/-- The number of blanks that a line begins with. -/
def margin (line : String) : ℕ := (line.toList.takeWhile (· = ' ')).length

/-- Whether a line begins with a closing brace behind its blanks. -/
def closesBlock (line : String) : Bool := (unindented line).head? == some '\x7d'

/-- Lines that close every brace they open, and each of which begins with four blanks for every brace
that is open before it, except for the one that it closes first. -/
structure Bracketed (lines : List String) : Prop where
  whole : ∀ line ∈ lines, '\n' ∉ line.toList
  balanced : bracesAfter 0 lines = some 0
  margins : ∀ before line after, lines = before ++ line :: after →
    ∃ opened, bracesAfter 0 before = some opened ∧
      margin line + (if closesBlock line then 4 else 0) = 4 * opened

theorem bracesAfter_cons (opened : ℕ) (line : String) (rest : List String) :
    bracesAfter opened (line :: rest) =
      line.toList.foldlM brace opened >>= fun n => bracesAfter n rest :=
  List.foldlM_append

/-- A line between two numbers of open braces. -/
structure Line (before : ℕ) (line : String) (after : ℕ) : Prop where
  whole : '\n' ∉ line.toList
  braces : line.toList.foldlM brace before = some after
  margin : margin line + (if closesBlock line then 4 else 0) = 4 * before

/-- Lines between two numbers of open braces. -/
inductive LaidOut : ℕ → List String → ℕ → Prop
  | nil (n : ℕ) : LaidOut n [] n
  | cons {n m k : ℕ} {line : String} {rest : List String} (hline : Line n line m)
      (hrest : LaidOut m rest k) : LaidOut n (line :: rest) k

section LaidOut
variable {n m k : ℕ} {a b lines : List String} {line : String}

theorem Line.laidOut (h : Line n line m) : LaidOut n [line] m := .cons h (.nil m)

theorem LaidOut.append (ha : LaidOut n a m) (hb : LaidOut m b k) : LaidOut n (a ++ b) k := by
  induction ha with
  | nil n => exact hb
  | cons hline _ ih => exact .cons hline (ih hb)

theorem LaidOut.whole (h : LaidOut n lines m) : ∀ line ∈ lines, '\n' ∉ line.toList := by
  induction h with
  | nil n => exact fun line hline => absurd hline List.not_mem_nil
  | cons hline _ ih => exact List.forall_mem_cons.mpr ⟨hline.whole,ih⟩

theorem LaidOut.bracesAfter (h : LaidOut n lines m) : bracesAfter n lines = some m := by
  induction h with
  | nil n => rfl
  | cons hline _ ih => rw [bracesAfter_cons,hline.braces,← ih]; rfl

/-- Lines that are laid out are so up to each of them. -/
theorem LaidOut.exists_line {before after : List String}
    (h : LaidOut n (before ++ line :: after) m) :
    ∃ opened next, LaidOut n before opened ∧ Line opened line next := by
  induction before generalizing n with
  | nil =>
    cases h with
    | cons hline _ => exact ⟨n,_,.nil n,hline⟩
  | cons first before ih =>
    cases h with
    | cons hfirst hrest =>
      obtain ⟨opened,next,hbefore,hline⟩ := ih hrest
      exact ⟨opened,next,.cons hfirst hbefore,hline⟩

theorem LaidOut.bracketed (h : LaidOut 0 lines 0) : Bracketed lines where
  whole := h.whole
  balanced := h.bracesAfter
  margins := by
    rintro before line after rfl
    obtain ⟨opened,next,hbefore,hline⟩ := h.exists_line
    exact ⟨opened,hbefore.bracesAfter,hline.margin⟩

end LaidOut

/-! ## Nested blocks -/

/-- A text in one line that holds no braces. -/
def IsFlat (text : String) : Prop :=
  '\n' ∉ text.toList ∧ '\x7b' ∉ text.toList ∧ '\x7d' ∉ text.toList

instance (text : String) : Decidable (IsFlat text) := inferInstanceAs (Decidable (_ ∧ _))

@[simp] theorem isFlat_append {a b : String} : IsFlat (a ++ b) ↔ IsFlat a ∧ IsFlat b := by
  simp only [IsFlat,String.toList_append,List.mem_append,not_or]
  tauto

/-- A text without braces that does not begin with a blank. -/
structure IsStatement (line : String) : Prop where
  flat : IsFlat line
  head : ∃ c, line.toList.head? = some c ∧ c ≠ ' '

/-- A line that ends in the one brace that it holds. -/
def OpensBlock (line : String) : Prop := ∃ front, IsStatement front ∧ line = front ++ "\x7b"

/-- A line that begins with the one brace that it holds. -/
def ClosesBlock (line : String) : Prop := ∃ rest, IsFlat rest ∧ line = "\x7d" ++ rest

/-- Lines in blocks: statements, and blocks in braces that hold further lines. -/
inductive Nested : List String → Prop
  | nil : Nested []
  | statement {line : String} (h : IsStatement line) : Nested [line]
  | append {a b : List String} (ha : Nested a) (hb : Nested b) : Nested (a ++ b)
  | block {first last : String} {body : List String} (hfirst : OpensBlock first)
      (hbody : Nested body) (hlast : ClosesBlock last) :
      Nested (first :: (indent 1 body ++ [last]))

theorem foldlM_brace {text : List Char} (hopen : '\x7b' ∉ text) (hclose : '\x7d' ∉ text) (n : ℕ) :
    text.foldlM brace n = some n := by
  induction text with
  | nil => rfl
  | cons c cs ih =>
    obtain ⟨hc,hopen⟩ := not_or.mp (mt List.mem_cons.mpr hopen)
    obtain ⟨hd,hclose⟩ := not_or.mp (mt List.mem_cons.mpr hclose)
    have hstep : brace n c = some n := by rw [brace,if_neg (Ne.symm hc),if_neg (Ne.symm hd)]
    rw [List.foldlM_cons,hstep]
    exact ih hopen hclose

theorem foldlM_brace_blanks (level n : ℕ) :
    (indentation level).toList.foldlM brace n = some n := by
  rw [toList_indentation]
  refine foldlM_brace ?_ ?_ n <;> simp

theorem margin_indentation {line : String} {c : Char} (hc : line.toList.head? = some c)
    (hblank : c ≠ ' ') (level : ℕ) : margin (indentation level ++ line) = 4 * level := by
  obtain ⟨cs,hcs⟩ := List.head?_eq_some_iff.mp hc
  rw [margin,String.toList_append,toList_indentation,List.takeWhile_append_of_pos (by simp),hcs]
  simp [hblank]

theorem closesBlock_indentation {line : String} {c : Char} (hc : line.toList.head? = some c)
    (hblank : c ≠ ' ') (level : ℕ) :
    closesBlock (indentation level ++ line) = (c == '\x7d') := by
  obtain ⟨cs,hcs⟩ := List.head?_eq_some_iff.mp hc
  rw [closesBlock,unindented_indentation,unindented,hcs]
  simp [hblank]

theorem newline_not_mem_indentation {line : String} (h : '\n' ∉ line.toList) (level : ℕ) :
    '\n' ∉ (indentation level ++ line).toList := by
  rw [String.toList_append,toList_indentation]
  simpa using h

section Line
variable {line : String}

theorem IsStatement.ne_empty (h : IsStatement line) : line ≠ "" := by
  rintro rfl
  obtain ⟨c,hc,-⟩ := h.head
  simp at hc

theorem IsStatement.append (h : IsStatement line) {rest : String} (hrest : IsFlat rest) :
    IsStatement (line ++ rest) := by
  obtain ⟨c,hc,hblank⟩ := h.head
  exact ⟨isFlat_append.mpr ⟨h.flat,hrest⟩,c,by simp [hc],hblank⟩

theorem IsStatement.ne_close (h : IsStatement line) {c : Char}
    (hc : line.toList.head? = some c) : (c == '\x7d') = false :=
  beq_false_of_ne fun he => h.flat.2.2 (he ▸ List.mem_of_head? hc)

/-- A statement leaves the braces as they are. -/
theorem IsStatement.stays (h : IsStatement line) (n : ℕ) :
    Line n (indentation n ++ line) n := by
  obtain ⟨c,hc,hblank⟩ := h.head
  refine ⟨newline_not_mem_indentation h.flat.1 n,?_,?_⟩
  · rw [String.toList_append,List.foldlM_append,foldlM_brace_blanks]
    exact foldlM_brace h.flat.2.1 h.flat.2.2 n
  · rw [margin_indentation hc hblank,closesBlock_indentation hc hblank,h.ne_close hc]
    rfl

theorem OpensBlock.opens (h : OpensBlock line) (n : ℕ) :
    Line n (indentation n ++ line) (n + 1) := by
  obtain ⟨front,hfront,rfl⟩ := h
  obtain ⟨c,hc,hblank⟩ := hfront.head
  have htext : (front ++ "\x7b").toList = front.toList ++ ['\x7b'] := by simp
  have hhead : (front ++ "\x7b").toList.head? = some c := by simp [htext,hc]
  refine ⟨newline_not_mem_indentation (by simp [hfront.flat.1]) n,?_,?_⟩
  · rw [String.toList_append,List.foldlM_append,foldlM_brace_blanks,htext]
    change (front.toList ++ ['\x7b']).foldlM brace n = _
    rw [List.foldlM_append,foldlM_brace hfront.flat.2.1 hfront.flat.2.2]
    rfl
  · rw [margin_indentation hhead hblank,closesBlock_indentation hhead hblank,hfront.ne_close hc]
    rfl

theorem ClosesBlock.closes (h : ClosesBlock line) (n : ℕ) :
    Line (n + 1) (indentation n ++ line) n := by
  obtain ⟨rest,hrest,rfl⟩ := h
  have hhead : ("\x7d" ++ rest).toList.head? = some '\x7d' := by simp
  refine ⟨newline_not_mem_indentation (by simp [hrest.1]) n,?_,?_⟩
  · rw [String.toList_append,List.foldlM_append,foldlM_brace_blanks,String.toList_append]
    exact foldlM_brace hrest.2.1 hrest.2.2 n
  · rw [margin_indentation hhead (by decide),closesBlock_indentation hhead (by decide)]
    exact (Nat.mul_succ 4 n).symm

end Line

theorem Nested.ne_empty {lines : List String} (h : Nested lines) : ∀ line ∈ lines, line ≠ "" := by
  have hblanks : ∀ {line : String} (level : ℕ), line ≠ "" → indentation level ++ line ≠ "" := by
    intro line level hline he
    exact hline (String.append_eq_empty_iff.mp he).2
  induction h with
  | nil => simp
  | statement h => exact List.forall_mem_singleton.mpr h.ne_empty
  | append _ _ iha ihb => exact List.forall_mem_append.mpr ⟨iha,ihb⟩
  | block hfirst _ hlast ih =>
    obtain ⟨front,-,rfl⟩ := hfirst
    obtain ⟨rest,-,rfl⟩ := hlast
    refine List.forall_mem_cons.mpr ⟨by simp,List.forall_mem_append.mpr ⟨?_,by simp⟩⟩
    intro line hline
    obtain ⟨l,hl,rfl⟩ := List.mem_map.mp hline
    rw [if_neg (ih l hl)]
    exact hblanks 1 (ih l hl)

theorem indent_eq {lines : List String} (h : ∀ line ∈ lines, line ≠ "") (level : ℕ) :
    indent level lines = lines.map (indentation level ++ ·) :=
  List.map_congr_left fun line hline => if_neg (h line hline)

theorem indentation_append (level more : ℕ) (line : String) :
    indentation level ++ (indentation more ++ line) = indentation (level + more) ++ line := by
  rw [← String.toList_inj]
  simp only [String.toList_append,toList_indentation]
  rw [← List.append_assoc,List.replicate_append_replicate,← Nat.mul_add]

theorem indent_indent {lines : List String} (h : ∀ line ∈ lines, line ≠ "") (level more : ℕ) :
    indent level (indent more lines) = indent (level + more) lines := by
  have hblanks : ∀ line : String, line ≠ "" → indentation more ++ line ≠ "" :=
    fun line hline he => hline (String.append_eq_empty_iff.mp he).2
  rw [indent_eq h,indent_eq h,indent_eq fun l hl => ?_,List.map_map]
  · exact List.map_congr_left fun line _ => indentation_append level more line
  · obtain ⟨line,hline,rfl⟩ := List.mem_map.mp hl
    exact hblanks line (h line hline)

/-- Nested blocks can be moved right by any number of levels. -/
theorem Nested.laidOut {lines : List String} (h : Nested lines) (n : ℕ) :
    LaidOut n (indent n lines) n := by
  induction h generalizing n with
  | nil => exact .nil n
  | statement h =>
    rw [indent_eq (Nested.statement h).ne_empty]
    exact (h.stays n).laidOut
  | append _ _ iha ihb =>
    rw [indent,List.map_append]
    exact (iha n).append (ihb n)
  | @block first last body hfirst hbody hlast ih =>
    have hne := (Nested.block hfirst hbody hlast).ne_empty
    have hmoved : indent n (first :: (indent 1 body ++ [last])) =
        (indentation n ++ first) :: (indent (n + 1) body ++ [indentation n ++ last]) := by
      rw [← indent_indent hbody.ne_empty,indent,List.map_cons,List.map_append,← indent,
        if_neg (hne first List.mem_cons_self)]
      simp [hne last (by simp)]
    rw [hmoved]
    exact .cons (hfirst.opens n) ((ih (n + 1)).append (hlast.closes n).laidOut)

theorem indent_append (level : ℕ) (a b : List String) :
    indent level (a ++ b) = indent level a ++ indent level b := List.map_append

theorem indent_cons {line : String} (h : line ≠ "") (level : ℕ) (rest : List String) :
    indent level (line :: rest) = (indentation level ++ line) :: indent level rest := by
  rw [indent,List.map_cons,if_neg h]
  rfl

theorem indent_flatMap {α : Type} (level : ℕ) (f : α → List String) (items : List α) :
    indent level (items.flatMap f) = items.flatMap fun a => indent level (f a) :=
  List.map_flatMap

theorem indent_zero (lines : List String) : indent 0 lines = lines := by
  refine (List.map_congr_left fun line _ => ?_).trans (List.map_id lines)
  have hnone : indentation 0 = "" := by decide
  simp [hnone]

theorem Nested.bracketed {lines : List String} (h : Nested lines) : Bracketed lines :=
  LaidOut.bracketed (indent_zero lines ▸ h.laidOut 0)

theorem Nested.whole {lines : List String} (h : Nested lines) :
    ∀ line ∈ lines, '\n' ∉ line.toList := h.bracketed.whole

theorem Nested.flatMap {α : Type} {f : α → List String} {items : List α}
    (h : ∀ a ∈ items, Nested (f a)) : Nested (items.flatMap f) := by
  induction items with
  | nil => exact .nil
  | cons a items ih =>
    obtain ⟨ha,hitems⟩ := List.forall_mem_cons.mp h
    exact .append ha (ih hitems)

theorem Nested.cons {line : String} {rest : List String} (h : IsStatement line)
    (hrest : Nested rest) : Nested (line :: rest) := .append (.statement h) hrest

theorem Nested.block_append {first last : String} {body rest : List String}
    (hfirst : OpensBlock first) (hbody : Nested body) (hlast : ClosesBlock last)
    (hrest : Nested rest) : Nested (first :: (indent 1 body ++ last :: rest)) := by
  have h := (Nested.block hfirst hbody hlast).append hrest
  rwa [List.cons_append,List.append_assoc,List.singleton_append] at h

/-! ## Code of a value -/

theorem isFlat_of_isWord {text : String} (h : IsWord text.toList) : IsFlat text :=
  ⟨h.not_mem (by decide),h.not_mem (by decide),h.not_mem (by decide)⟩

@[simp] theorem isFlat_local (v : Local) : IsFlat v.text := isFlat_of_isWord (isWord_local v)

@[simp] theorem isFlat_suffix (type : Primitive) : IsFlat type.suffix :=
  isFlat_of_isWord (isWord_suffix type)

@[simp] theorem isFlat_kind (kind : WireKind) : IsFlat kind.text :=
  ⟨not_mem_kindText (by decide) (by decide) kind,not_mem_kindText (by decide) (by decide) kind,
    not_mem_kindText (by decide) (by decide) kind⟩

theorem isFlat_argument {p : Place} (h : IsFlat p.text) : IsFlat p.value ∧ IsFlat p.borrowed := by
  rw [Place.value,Place.borrowed]
  split <;> simp [h,show IsFlat "*" by decide,show IsFlat "&" by decide]

instance (line : String) : Decidable (IsStatement line) :=
  decidable_of_iff (IsFlat line ∧ line.toList.head?.any (· ≠ ' ') = true) <| by
    constructor
    · rintro ⟨hflat,hhead⟩
      cases hc : line.toList.head? with
      | none => simp [hc] at hhead
      | some c => exact ⟨hflat,c,hc,by simpa [hc] using hhead⟩
    · rintro ⟨hflat,c,hc,hblank⟩
      exact ⟨hflat,by simp [hc,hblank]⟩

theorem closesBlock_brace : ClosesBlock "\x7d" := ⟨"",by decide,by decide⟩

/-- The block for a value that may be left out. -/
theorem opensBlock_guard : OpensBlock "if !d.decode_none() \x7b" :=
  ⟨"if !d.decode_none() ",by decide,by decide⟩

/-- The lines that write a value are nested blocks. -/
theorem nested_writer {kind : Kind} {p : Place} {depth : ℕ} {w : Writer}
    (h : writer kind p depth = .ok w) (hp : IsFlat p.text) : Nested w.lines := by
  induction kind generalizing p depth w with
  | integer _ _ | float _ | bool | string | bytes =>
    cases h
    obtain ⟨hvalue,hborrowed⟩ := isFlat_argument hp
    refine .statement ⟨?_,'e',by simp,by decide⟩
    simp +decide [Primitive.isCopied,hvalue,hborrowed]
  | enum _ | message _ =>
    cases h
    obtain ⟨hvalue,-⟩ := isFlat_argument hp
    refine .statement ⟨?_,'e',by simp,by decide⟩
    simp +decide [hvalue,hp]
  | repeated element ih =>
    obtain ⟨wire,-,h⟩ := bind_eq_ok.mp h
    obtain ⟨body,hbody,h⟩ := bind_eq_ok.mp h
    cases h
    have hinner := ih hbody (isFlat_local _)
    refine .cons ⟨?_,'e',by simp,by decide⟩ (.block ?_ hinner closesBlock_brace)
    · simp +decide [hp]
    · refine ⟨"for " ++ (Local.item depth).text ++ " in " ++ p.text ++ ".iter() ",
        ⟨?_,'f',by simp,by decide⟩,by simp [← String.toList_inj]⟩
      simp +decide [hp]
  | map key value ihKey ihValue =>
    obtain ⟨keyWire,-,h⟩ := bind_eq_ok.mp h
    obtain ⟨valueWire,-,h⟩ := bind_eq_ok.mp h
    obtain ⟨keyBody,hkeyBody,h⟩ := bind_eq_ok.mp h
    obtain ⟨valueBody,hvalueBody,h⟩ := bind_eq_ok.mp h
    cases h
    have hinner := (ihKey hkeyBody (isFlat_local _)).append (ihValue hvalueBody (isFlat_local _))
    rw [Writer.lines,List.append_assoc _ (indent 1 keyBody.lines),← indent_append]
    refine .cons ⟨?_,'e',by simp,by decide⟩ (.block ?_ hinner closesBlock_brace)
    · simp +decide [hp]
    · refine ⟨"for (" ++ (Local.key depth).text ++ ", " ++ (Local.item depth).text ++ ") in " ++
        p.text ++ ".iter() ",⟨?_,'f',by simp,by decide⟩,by simp [← String.toList_inj]⟩
      simp +decide [hp]
  | oneof _ _ _ => cases h

section Reader
variable {files : List SchemaFile}

theorem isFlat_handedOn {value : String} (h : HandedOn (TypeIndex.ofFiles files) value) :
    IsFlat value := by
  have hname : ∀ {name : String} {type : TypeUse},
      typeUse (TypeIndex.ofFiles files) name = .ok type → IsFlat type.identifier := by
    intro name type ht
    have hchars := isWordChar_typeUse ht
    exact ⟨not_mem_name hchars (by decide),not_mem_name hchars (by decide),
      not_mem_name hchars (by decide)⟩
  cases h with
  | primitive type => simp +decide
  | enum h | message h => simp +decide [hname h]
  | «local» v => exact isFlat_local v

/-- Handing on a value that is written in one line and holds no braces is a statement. -/
def Sink.States (sink : Sink) : Prop := ∀ value, IsFlat value → IsStatement (sink.line value)

theorem Sink.Inner.states {sink : Sink} (h : sink.Inner) : sink.States := by
  intro value hvalue
  cases h with
  | bind v =>
    refine ⟨?_,'l',by simp [Sink.line],by decide⟩
    simp +decide [Sink.line,hvalue]
  | push depth =>
    refine ⟨?_,'a',by simp [Sink.line,Local.text],by decide⟩
    simp +decide [Sink.line,hvalue]
  | insert depth key =>
    refine ⟨?_,'m',by simp [Sink.line,Local.text],by decide⟩
    simp +decide [Sink.line,hvalue]

/-- The lines that read a value are nested blocks. -/
theorem nested_reader {kind : Kind} {sink : Sink} {depth : ℕ} {r : Reader}
    (h : reader (TypeIndex.ofFiles files) kind sink depth = .ok r) (hs : sink.States) :
    Nested r.lines := by
  have hloop : ∀ size : Local, OpensBlock ("for _ in 0.." ++ size.text ++ " \x7b") := by
    intro size
    refine ⟨"for _ in 0.." ++ size.text ++ " ",⟨?_,'f',by simp,by decide⟩,?_⟩
    · simp +decide
    · simp [← String.toList_inj]
  induction kind generalizing sink depth r with
  | integer _ _ | float _ | bool | string | bytes =>
    cases h
    exact .statement (hs _ (@isFlat_handedOn files _ (.primitive _)))
  | enum name =>
    obtain ⟨type,htype,h⟩ := bind_eq_ok.mp h
    cases h
    exact .statement (hs _ (isFlat_handedOn (.enum htype)))
  | message name =>
    obtain ⟨type,htype,h⟩ := bind_eq_ok.mp h
    cases h
    exact .statement (hs _ (isFlat_handedOn (.message htype)))
  | repeated element ih =>
    obtain ⟨wire,-,h⟩ := bind_eq_ok.mp h
    obtain ⟨body,hbody,h⟩ := bind_eq_ok.mp h
    cases h
    have hinner := ih hbody (Sink.Inner.push depth).states
    have hlast := Nested.statement (hs _ (isFlat_local (.array depth)))
    have hrest := Nested.block_append (hloop (.size depth)) hinner closesBlock_brace hlast
    refine .cons ⟨?_,'l',by simp,by decide⟩ (.cons ⟨?_,'l',by simp,by decide⟩ hrest)
    · simp +decide
    · simp +decide
  | map key value ihKey ihValue =>
    obtain ⟨keyWire,-,h⟩ := bind_eq_ok.mp h
    obtain ⟨valueWire,-,h⟩ := bind_eq_ok.mp h
    obtain ⟨keyBody,hkeyBody,h⟩ := bind_eq_ok.mp h
    obtain ⟨valueBody,hvalueBody,h⟩ := bind_eq_ok.mp h
    cases h
    have hinner := (ihKey hkeyBody (Sink.Inner.bind (.key depth)).states).append
      (ihValue hvalueBody (Sink.Inner.insert depth (.key depth)).states)
    have hlast := Nested.statement (hs _ (isFlat_local (.map depth)))
    have hrest := Nested.block_append (hloop (.size depth)) hinner closesBlock_brace hlast
    rw [Reader.lines,List.append_assoc _ (indent 1 keyBody.lines),← indent_append]
    refine .cons ⟨?_,'l',by simp,by decide⟩ (.cons ⟨?_,'l',by simp,by decide⟩ hrest)
    · simp +decide
    · simp +decide
  | oneof _ _ _ => cases h

end Reader

/-! ## Code of a field -/

theorem isFlat_escape {name : String} (h : IsName name) : IsFlat (Identifier.escape name) :=
  ⟨not_mem_escape h (by decide),not_mem_escape h (by decide),not_mem_escape h (by decide)⟩

theorem isFlat_place {name : String} (h : IsName name) : IsFlat (Place.field name).text := by
  simp +decide [Place.text,isFlat_escape h]

theorem Variant.Spelled.isFlat {v : Variant} (h : v.Spelled) : IsFlat v.text :=
  ⟨h.not_mem (by decide) (by decide),h.not_mem (by decide) (by decide),
    h.not_mem (by decide) (by decide)⟩

theorem isStatement_number (n : ℤ) : IsStatement (toString n) := by
  have hnone : ∀ {c : Char}, (c.isDigit || c == '-') = false → c ∉ (toString n).toList :=
    fun hc => not_mem_toString n hc
  refine ⟨⟨hnone (by decide),hnone (by decide),hnone (by decide)⟩,?_⟩
  obtain ⟨c,cs,hcs⟩ := List.exists_cons_of_ne_nil (toString_int_ne_nil n)
  refine ⟨c,by rw [hcs]; rfl,?_⟩
  rintro rfl
  exact hnone (by decide) (hcs ▸ List.mem_cons_self)

section Field
variable {files : List SchemaFile} {m : Message}

theorem nested_fieldWriter {b : Binding FieldWriter}
    (h : WrittenFor (TypeIndex.ofFiles files) m b) (hn : b.Named) : Nested b.code.lines := by
  obtain ⟨field,kind,code⟩ := b
  have h : fieldWriter (TypeIndex.ofFiles files) m field kind = .ok code := h
  have hname : IsFlat (Place.field field.name).text := isFlat_place hn.1
  cases kind with
  | message type =>
    cases h
    have harms : Nested ["Some(v) => v.encode(e),","None => e.encode_none(),"] :=
      .cons (by decide) (.statement (by decide))
    have hmatch : OpensBlock ("e = match &" ++ (Place.field field.name).text ++ " \x7b") := by
      refine ⟨"e = match &" ++ (Place.field field.name).text ++ " ",⟨?_,'e',by simp,by decide⟩,
        by simp [← String.toList_inj]⟩
      simp +decide [hname]
    have hclose : ClosesBlock "\x7d;" := ⟨";",by decide,by decide⟩
    have hblock := Nested.block hmatch harms hclose
    exact hblock
  | oneof g number inner =>
    obtain ⟨variant,hvariant,h⟩ := bind_eq_ok.mp h
    obtain ⟨body,hbody,h⟩ := bind_eq_ok.mp h
    cases h
    have hvariant := (spelled_of_variantOf hvariant).isFlat
    have hnumber : IsStatement ("e = e.encode_" ++ Primitive.enumNumber.suffix ++ "(" ++
        toString number ++ ");") := by
      refine ⟨?_,'e',by simp,by decide⟩
      have hflat := (isStatement_number number).flat
      simp +decide only [isFlat_append,hflat,and_self]
    have hinner := Nested.cons hnumber (nested_writer hbody (isFlat_local (.item 1)))
    have hlines : (FieldWriter.member variant number body).lines =
        ("Some(" ++ variant.text ++ "(" ++ (Local.item 1).text ++ ")) => \x7b") ::
          (indent 1 (("e = e.encode_" ++ Primitive.enumNumber.suffix ++ "(" ++ toString number ++
            ");") :: body.lines) ++ ["\x7d"]) := by
      rw [indent_cons hnumber.ne_empty]
      simp [FieldWriter.lines,← String.toList_inj]
    rw [hlines]
    refine .block ?_ hinner closesBlock_brace
    refine ⟨"Some(" ++ variant.text ++ "(" ++ (Local.item 1).text ++ ")) => ",
      ⟨?_,'S',by simp,by decide⟩,by simp [← String.toList_inj]⟩
    simp +decide [hvariant]
  | _ =>
    obtain ⟨body,hbody,h⟩ := bind_eq_ok.mp h
    cases h
    exact nested_writer hbody hname

/-- What the code of a field hands on is assigned to a field of the struct. -/
theorem states_store {name : String} (h : IsName name) :
    (Sink.store name).States ∧ (Sink.storeSome name).States ∧
      ∀ variant : Variant, variant.Spelled → ∀ boxed,
        (Sink.storeVariant name variant boxed).States := by
  have hname := isFlat_escape h
  refine ⟨fun value hvalue => ?_,fun value hvalue => ?_,fun variant hv boxed value hvalue => ?_⟩
  · refine ⟨?_,'x',by simp [Sink.line],by decide⟩
    simp +decide [Sink.line,hname,hvalue]
  · refine ⟨?_,'x',by simp [Sink.line],by decide⟩
    simp +decide [Sink.line,hname,hvalue]
  · have hvariant := hv.isFlat
    refine ⟨?_,'x',by simp [Sink.line],by decide⟩
    cases boxed <;> simp +decide [Sink.line,hname,hvalue,hvariant]

theorem nested_fieldReader {b : Binding Decoding}
    (h : ReadFor (TypeIndex.ofFiles files) m b) (hn : b.Named) : Nested b.code.reader.lines := by
  obtain ⟨field,kind,code,initial⟩ := b
  have h : fieldReader (TypeIndex.ofFiles files) m field kind = .ok code := h
  obtain ⟨hstore,hsome,-⟩ := states_store hn.1
  cases kind with
  | message type =>
    obtain ⟨body,hbody,h⟩ := bind_eq_ok.mp h
    cases h
    exact .block opensBlock_guard (nested_reader hbody hsome) closesBlock_brace
  | oneof g number inner =>
    obtain ⟨variant,hvariant,h⟩ := bind_eq_ok.mp h
    obtain ⟨body,hbody,h⟩ := bind_eq_ok.mp h
    cases h
    obtain ⟨-,-,hgroup⟩ := states_store (hn.2 g rfl)
    have hinner := nested_reader hbody (hgroup variant (spelled_of_variantOf hvariant) _)
    have hopening : IsStatement (toString number ++ " => ") :=
      (isStatement_number number).append (by decide)
    exact .block ⟨_,hopening,by simp [← String.toList_inj]⟩ hinner closesBlock_brace
  | _ =>
    obtain ⟨body,hbody,h⟩ := bind_eq_ok.mp h
    cases h
    exact .block opensBlock_guard (nested_reader hbody hstore) closesBlock_brace

end Field

/-! ## Bodies -/

/-- The code of several bindings is moved right as a whole. -/
theorem indent_members {α : Type} {f : α → List String} {items : List α}
    (h : ∀ a ∈ items, Nested (f a)) (level : ℕ) :
    items.flatMap (fun a => indent level (cutLines (f a))) = indent level (items.flatMap f) := by
  rw [indent_flatMap]
  exact List.flatMap_congr fun a ha => by rw [cutLines_eq (h a ha).whole]

section Bodies
variable {files : List SchemaFile} {m : Message}

theorem nested_encodeBody {table : List (Binding FieldWriter)}
    (hw : ∀ b ∈ table, WrittenFor (TypeIndex.ofFiles files) m b) (hn : ∀ b ∈ table, b.Named) :
    Nested (encodeBody table) := by
  have hcode : ∀ b ∈ table, Nested b.code.lines :=
    fun b hb => nested_fieldWriter (hw b hb) (hn b hb)
  rw [encodeBody_eq]
  refine Nested.flatMap fun run hrun => ?_
  have hfrom := isFrom_of_mem_runs table run hrun
  cases run with
  | plain b =>
    have hlines := hcode b hfrom.1
    rwa [Run.encodeLines,cutLines_eq hlines.whole]
  | group name first more =>
    have hmembers : ∀ b ∈ first :: more, Nested b.code.lines :=
      fun b hb => hcode b (hfrom.members b hb).1
    have hname : IsName name := by
      obtain ⟨hb,hg⟩ := hfrom.members first List.mem_cons_self
      exact (hn first hb).2 name hg
    have hopening : OpensBlock ("match &" ++ (Place.field name).text ++ " \x7b") := by
      refine ⟨"match &" ++ (Place.field name).text ++ " ",⟨?_,'m',by simp,by decide⟩,
        by simp [← String.toList_inj]⟩
      simp +decide [isFlat_place hname]
    have hnone : IsStatement "None => e = e.encode_none()," := by decide
    have hblock := Nested.block hopening
      ((Nested.flatMap hmembers).append (.statement hnone)) closesBlock_brace
    rw [indent_append,indent_cons hnone.ne_empty,← indent_members hmembers] at hblock
    rw [Run.encodeLines]
    simpa [indent] using hblock

theorem nested_decodeBody {table : List (Binding Decoding)}
    (hr : ∀ b ∈ table, ReadFor (TypeIndex.ofFiles files) m b) (hn : ∀ b ∈ table, b.Named) :
    Nested (decodeBody table) := by
  have hcode : ∀ b ∈ table, Nested b.code.reader.lines :=
    fun b hb => nested_fieldReader (hr b hb) (hn b hb)
  have hmatch : OpensBlock "match d.decode_u32()? \x7b" :=
    ⟨"match d.decode_u32()? ",by decide,by decide⟩
  have hother : IsStatement "_ => return Err(DecodingError::InvalidStruct.into())," := by decide
  rw [decodeBody_eq]
  refine Nested.flatMap fun run hrun => ?_
  have hfrom := isFrom_of_mem_runs table run hrun
  cases run with
  | plain b =>
    have hlines := hcode b hfrom.1
    rwa [Run.decodeLines,cutLines_eq hlines.whole]
  | group name first more =>
    have hmembers : ∀ b ∈ first :: more, Nested b.code.reader.lines :=
      fun b hb => hcode b (hfrom.members b hb).1
    have hinner := (Nested.flatMap hmembers).append (.statement hother)
    have hblock := Nested.block opensBlock_guard (.block hmatch hinner closesBlock_brace)
      closesBlock_brace
    rw [indent_cons (by decide),indent_append,indent_indent hinner.ne_empty,indent_append,
      indent_cons hother.ne_empty,← indent_members hmembers] at hblock
    rw [Run.decodeLines]
    simpa [indent] using hblock

end Bodies

theorem named_of_parseAll {sources : List (String × String)} {files : List SchemaFile}
    (h : parseAll sources = .ok files) {file : SchemaFile} (hf : file ∈ files) {m : Message}
    (hm : .message m ∈ file.declarations) {α : Type} {table : List (Binding α)}
    (ht : table.map Binding.forget = fieldBindings m) : ∀ b ∈ table, b.Named := by
  have hnamed := (parseAll_named h hf _ hm).fields m rfl
  refine fun b => named_of_mem_table ht (fun f hf => (hnamed f hf).name) fun f hf g hg => ?_
  rw [Field.group?] at hg
  split at hg
  · exact (hnamed f hf).group g hg
  · cases hg

end Codec

/-- In the bodies of both methods of every declared message no line holds a line feed, every brace is
closed that is opened, and the blanks of each line tell the braces that are open before it. -/
theorem bracketed_bodies {sources : List (String × String)} {files : List SchemaFile}
    (h : parseAll sources = .ok files) {file : SchemaFile} (hf : file ∈ files) {m : Message}
    (hm : .message m ∈ file.declarations) {others : List SchemaFile}
    {encode : List (Binding FieldWriter)} {decode : List (Binding Decoding)}
    (he : encodeTable (TypeIndex.ofFiles others) m = .ok encode)
    (hd : decodeTable (TypeIndex.ofFiles others) m = .ok decode) :
    Bracketed (encodeBody encode) ∧ Bracketed (decodeBody decode) := by
  obtain ⟨hencoded,hwritten⟩ := encodeTable_eq_ok he
  obtain ⟨hdecoded,hread⟩ := decodeTable_eq_ok hd
  have hencode := nested_encodeBody hwritten (named_of_parseAll h hf hm hencoded)
  have hdecode := nested_decodeBody (fun b hb => (hread b hb).1)
    (named_of_parseAll h hf hm hdecoded)
  exact ⟨hencode.bracketed,hdecode.bracketed⟩

def spreadMessage : Message := ⟨"A","A",[memberField,plainField],[],[],none⟩

def spreadFiles : List SchemaFile := [fieldsFile [memberField,plainField]]

theorem encodeTable_spreadMessage :
    ∃ encode, encodeTable (TypeIndex.ofFiles spreadFiles) spreadMessage = .ok encode := by
  rw [encodeTable,byNumber,mergeSort_eq_insertionSort]
  exact ⟨_,rfl⟩

theorem decodeTable_spreadMessage :
    ∃ decode, decodeTable (TypeIndex.ofFiles spreadFiles) spreadMessage = .ok decode := by
  rw [decodeTable,byNumber,mergeSort_eq_insertionSort]
  exact ⟨_,rfl⟩

/-- A oneof and a field behind it give a match and a statement. -/
theorem spreadMessage_bracketed : parseAll [("a.proto",spreadSource)] = .ok spreadFiles ∧
    ∃ encode decode, encodeTable (TypeIndex.ofFiles spreadFiles) spreadMessage = .ok encode ∧
      decodeTable (TypeIndex.ofFiles spreadFiles) spreadMessage = .ok decode ∧
      Bracketed (encodeBody encode) ∧ Bracketed (decodeBody decode) := by
  obtain ⟨encode,hencode⟩ := encodeTable_spreadMessage
  obtain ⟨decode,hdecode⟩ := decodeTable_spreadMessage
  have hm : .message spreadMessage ∈ (fieldsFile [memberField,plainField]).declarations := by
    simp [fieldsFile,spreadMessage,SchemaFile.declarations,Message.declarationsOf,
      Message.declarations]
  exact ⟨parseAll_spreadSource,encode,decode,hencode,hdecode,
    bracketed_bodies parseAll_spreadSource List.mem_cons_self hm hencode hdecode⟩

end SchemaCodec
