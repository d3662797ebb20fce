import SchemaCodec.Plugin.Parameter
import SchemaCodec.Proofs.Outcome
import SchemaCodec.Proofs.Schema.InputNames

/-! # Settings of parameter strings

The items of two parameter strings with a comma between them are the items of the first and then
those of the second. The first item that is not known refuses them all; otherwise each setting has
the last value that is given to it. Blanks around items and blank items leave no trace in this.
-/
namespace SchemaCodec.Plugin
open Text

/-- A text of blanks alone. -/
def IsBlankText (text : String) : Prop := ∀ c ∈ text.toList, isBlank c = true

/-- The value that an item gives to a setting; an empty one counts for nothing. -/
def valueFor? (setting item : String) : Option String :=
  if (nameAndValue item).1 = setting ∧ (nameAndValue item).2 ≠ "" then some (nameAndValue item).2
  else none

/-- Some item of a parameter string gives a value to a setting. -/
def Sets (parameter setting : String) : Prop :=
  ∃ item ∈ items parameter, (valueFor? setting item).isSome = true

instance (parameter setting : String) : Decidable (Sets parameter setting) :=
  inferInstanceAs (Decidable (∃ item ∈ items parameter, _))

/-- The last value that some items give to a setting. -/
def lastValue? (setting : String) (items : List String) : Option String :=
  (items.filterMap (valueFor? setting)).getLast?

def forbidsFormat (item : String) : Bool := (nameAndValue item).1 == "no_format"

def isKnown (item : String) : Bool :=
  forbidsFormat item || (valueFor? "rustfmt" item).isSome || (valueFor? "edition" item).isSome

/-- The choice after some items that are known. -/
def overruled (choice : FormatChoice) (items : List String) : FormatChoice :=
  ⟨choice.format && !items.any forbidsFormat,
    (lastValue? "rustfmt" items).getD choice.program.executable,
    (lastValue? "edition" items).getD choice.program.edition⟩

/-! ## Items one after the other -/

section Items

theorem lastValue?_append (setting : String) (before after : List String) :
    lastValue? setting (before ++ after) =
      (lastValue? setting after).or (lastValue? setting before) := by
  rw [lastValue?,List.filterMap_append,List.getLast?_append]
  rfl

theorem lastValue?_eq_none_iff {setting : String} {items : List String} :
    lastValue? setting items = none ↔ ∀ item ∈ items, valueFor? setting item = none := by
  rw [lastValue?,List.getLast?_eq_none_iff,List.filterMap_eq_nil_iff]

theorem overruled_append (choice : FormatChoice) (before after : List String) :
    overruled choice (before ++ after) = overruled (overruled choice before) after := by
  have hset (setting fallback : String) : (lastValue? setting (before ++ after)).getD fallback =
      (lastValue? setting after).getD ((lastValue? setting before).getD fallback) := by
    rw [lastValue?_append,Option.getD_or]
  rw [overruled,hset,hset,List.any_append,Bool.not_or,← Bool.and_assoc]
  rfl

theorem lastValue?_singleton (setting item : String) :
    lastValue? setting [item] = valueFor? setting item := by
  rw [lastValue?,List.filterMap_cons]
  cases valueFor? setting item <;> rfl

theorem applyItem_eq (choice : FormatChoice) (item : String) : applyItem choice item =
    if isKnown item then .ok (overruled choice [item]) else .error ⟨item⟩ := by
  have hany : [item].any forbidsFormat = ((nameAndValue item).1 == "no_format") := Bool.or_false _
  rw [applyItem,isKnown,forbidsFormat,overruled,hany,lastValue?_singleton,lastValue?_singleton,
    valueFor?,valueFor?]
  cases nameAndValue item with
  | mk name value =>
    by_cases hformat : name = "no_format"
    · simp [hformat]
    · by_cases hprogram : name = "rustfmt" ∧ value ≠ ""
      · simp [hprogram]
      · by_cases hedition : name = "edition" ∧ value ≠ ""
        · simp [hedition]
        · simp [hformat,hprogram,hedition]

/-- The first unknown item refuses all of them; known ones overrule the choice. -/
theorem foldlM_applyItem (choice : FormatChoice) (items : List String) :
    items.foldlM applyItem choice = match items.find? fun item => !isKnown item with
      | some item => .error ⟨item⟩
      | none => .ok (overruled choice items) := by
  induction items generalizing choice with
  | nil => simp [overruled,lastValue?,pure,Except.pure]
  | cons item rest ih =>
    rw [List.foldlM_cons,applyItem_eq]
    cases hitem : isKnown item with
    | false => simp [hitem,bind,Except.bind]
    | true =>
      have hmore : overruled choice (item :: rest) = overruled (overruled choice [item]) rest :=
        overruled_append choice [item] rest
      simp [hitem,bind,Except.bind,ih,hmore]

theorem formatChoice_eq_error {parameter : String} {e : UnknownParameter} :
    formatChoice parameter = .error e ↔
      (items parameter).find? (fun item => !isKnown item) = some e.item := by
  rw [formatChoice,foldlM_applyItem]
  cases (items parameter).find? fun item => !isKnown item with
  | none => simp
  | some item =>
    obtain ⟨unknown⟩ := e
    simp

theorem formatChoice_eq_ok {parameter : String} {choice : FormatChoice} :
    formatChoice parameter = .ok choice ↔
      (items parameter).find? (fun item => !isKnown item) = none ∧
        choice = overruled {} (items parameter) := by
  rw [formatChoice,foldlM_applyItem]
  cases (items parameter).find? fun item => !isKnown item <;> simp [eq_comm]

theorem sets_iff {parameter setting : String} :
    Sets parameter setting ↔ lastValue? setting (items parameter) ≠ none := by
  rw [Ne,lastValue?_eq_none_iff,Sets]
  simp [Option.isSome_iff_ne_none]

/-- What a parameter string sets does not depend on the choice before, and all else is kept. -/
theorem overruled_of_sets (choice : FormatChoice) (parameter : String) :
    overruled choice (items parameter) =
      ⟨choice.format && (overruled {} (items parameter)).format,
        if Sets parameter "rustfmt" then (overruled {} (items parameter)).program.executable
        else choice.program.executable,
        if Sets parameter "edition" then (overruled {} (items parameter)).program.edition
        else choice.program.edition⟩ := by
  have hset (setting fallback other : String) :
      (lastValue? setting (items parameter)).getD fallback =
        if Sets parameter setting then (lastValue? setting (items parameter)).getD other
        else fallback := by
    cases hlast : lastValue? setting (items parameter) with
    | none => rw [if_neg (by simp [sets_iff,hlast])]; rfl
    | some value => rw [if_pos (by simp [sets_iff,hlast])]; rfl
  rw [overruled,hset "rustfmt" _ "rustfmt",hset "edition" _ "2021"]
  rfl

end Items

/-! ## Items of a string -/

section Blanks

theorem trim_behind_blanks {l : List Char} (hl : ∀ c ∈ l, isBlank c = true) (cs : List Char) :
    trim (l ++ cs) = trim cs := by
  rw [trim,dropBlanks,List.dropWhile_append_of_pos hl]
  rfl

theorem trim_before_blanks {r : List Char} (hr : ∀ c ∈ r, isBlank c = true) (cs : List Char) :
    trim (cs ++ r) = trim cs := by
  have hend (ds : List Char) : trimEnd (ds ++ r) = trimEnd ds := by
    have hreverse : ∀ c ∈ r.reverse, isBlank c = true := by simpa using hr
    rw [trimEnd,dropBlanks,List.reverse_append,List.dropWhile_append_of_pos hreverse]
    rfl
  rw [trim,dropBlanks,List.dropWhile_append]
  split
  · next hempty =>
    have hblank : r.dropWhile isBlank = [] := List.dropWhile_eq_nil_iff.mpr hr
    have hcs : dropBlanks cs = [] := List.isEmpty_iff.mp hempty
    rw [hblank,trim,hcs]
  · exact hend _

theorem isBlankText_empty : IsBlankText "" := by simp [IsBlankText]

theorem IsBlankText.comma_not_mem {text : String} (h : IsBlankText text) : ',' ∉ text.toList := by
  intro hmem
  have hblank := h ',' hmem
  exact absurd hblank (by decide)

/-- Blanks around a part of a parameter string belong to no item. -/
theorem items_around {l r : String} (hl : IsBlankText l) (hr : IsBlankText r) (part : String) :
    items (l ++ part ++ r) = items part := by
  have hfront : items (l ++ part ++ r) = items (part ++ r) := by
    obtain ⟨first,more,hsplit,hbehind⟩ :=
      exists_split_behind hl.comma_not_mem (part.toList ++ r.toList)
    rw [items,items,String.toList_append,String.toList_append,String.toList_append,
      List.append_assoc,hbehind,hsplit,List.map_cons,List.map_cons,trim_behind_blanks hl]
  obtain ⟨front,last,hsplit,hmore⟩ := split_append_of_not_mem part.toList hr.comma_not_mem
  rw [hfront,items,items,String.toList_append,hmore,hsplit,List.map_append,List.map_append,
    List.map_singleton,List.map_singleton,trim_before_blanks hr]

theorem items_of_blank {w : String} (h : IsBlankText w) : items w = [] := by
  have hw := items_around h isBlankText_empty ""
  rw [String.append_empty,String.append_empty] at hw
  rw [hw]
  decide

end Blanks

theorem items_append (p q : String) : items (p ++ "," ++ q) = items p ++ items q := by
  have htext : (p ++ "," ++ q).toList = p.toList ++ ',' :: q.toList := by simp
  rw [items,htext,split_append,List.map_append,List.filter_append,List.map_append]
  rfl

/-- The items between commas are those of each part. -/
theorem items_joinStrings (parts : List String) :
    items (joinStrings "," parts) = parts.flatMap items := by
  induction parts with
  | nil => decide
  | cons part rest ih =>
    cases rest with
    | nil =>
      rw [List.flatMap_singleton]
      exact congrArg items String.ofList_toList
    | cons next more =>
      have hjoin : joinStrings "," (part :: next :: more) =
          part ++ "," ++ joinStrings "," (next :: more) := by
        rw [← String.toList_inj,String.toList_append,String.toList_append]
        exact (String.toList_ofList).trans (congrArg _ String.toList_ofList.symm)
      rw [hjoin,items_append,ih]
      rfl

/-- The items of two parameter strings with a comma between them are refused for the first reason
that there is; otherwise formatting is off if either turns it off, and each setting has its last
value. Blank parts between commas and blanks around parts change nothing. -/
theorem formatChoice_append (p q : String) :
    (∀ e, formatChoice (p ++ "," ++ q) = .error e ↔ formatChoice p = .error e ∨
      (∃ choice, formatChoice p = .ok choice) ∧ formatChoice q = .error e) ∧
    (∀ a b, formatChoice p = .ok a → formatChoice q = .ok b →
      formatChoice (p ++ "," ++ q) = .ok ⟨a.format && b.format,
        if Sets q "rustfmt" then b.program.executable else a.program.executable,
        if Sets q "edition" then b.program.edition else a.program.edition⟩) ∧
    ∀ (before after : List String) (w part : String) (l r : String), IsBlankText w →
      IsBlankText l → IsBlankText r →
      formatChoice (joinStrings "," (before ++ w :: after)) =
        formatChoice (joinStrings "," (before ++ after)) ∧
      formatChoice (joinStrings "," (before ++ (l ++ part ++ r) :: after)) =
        formatChoice (joinStrings "," (before ++ part :: after)) := by
  refine ⟨fun e => ?_,fun a b ha hb => ?_,fun before after w part l r hw hl hr => ?_⟩
  · rw [formatChoice_eq_error,formatChoice_eq_error,formatChoice_eq_error,items_append,
      List.find?_append,Option.or_eq_some_iff]
    simp only [formatChoice_eq_ok]
    simp
  · obtain ⟨hpknown,rfl⟩ := formatChoice_eq_ok.mp ha
    obtain ⟨hqknown,rfl⟩ := formatChoice_eq_ok.mp hb
    refine formatChoice_eq_ok.mpr ⟨?_,?_⟩
    · rw [items_append,List.find?_append,hpknown,hqknown]
      rfl
    · rw [items_append,overruled_append]
      exact (overruled_of_sets _ q).symm
  · have hsame : items (joinStrings "," (before ++ w :: after)) =
        items (joinStrings "," (before ++ after)) := by
      rw [items_joinStrings,items_joinStrings,List.flatMap_append,List.flatMap_cons,
        items_of_blank hw,List.nil_append,← List.flatMap_append]
    have hround : items (joinStrings "," (before ++ (l ++ part ++ r) :: after)) =
        items (joinStrings "," (before ++ part :: after)) := by
      rw [items_joinStrings,items_joinStrings,List.flatMap_append,List.flatMap_append,
        List.flatMap_cons,List.flatMap_cons,items_around hl hr]
    exact ⟨congrArg (fun is => is.foldlM applyItem {}) hsame,
      congrArg (fun is => is.foldlM applyItem {}) hround⟩

/-- A string that gives no edition leaves the one that was given before it. -/
theorem formatChoice_older_newer :
    formatChoice "rustfmt=/opt/rustfmt, edition=2018" =
      .ok ⟨true,"/opt/rustfmt","2018"⟩ ∧
    formatChoice "no_format ,,rustfmt=a=b" = .ok ⟨false,"a=b","2021"⟩ ∧
    formatChoice "rustfmt=/opt/rustfmt, edition=2018,no_format ,,rustfmt=a=b" =
      .ok ⟨false,"a=b","2018"⟩ ∧
    formatChoice "no_format,\t ,rustfmt=a=b" = formatChoice "no_format,rustfmt=a=b" := by
  have hp : formatChoice "rustfmt=/opt/rustfmt, edition=2018" =
      .ok ⟨true,"/opt/rustfmt","2018"⟩ := by cbv
  have hq : formatChoice "no_format ,,rustfmt=a=b" = .ok ⟨false,"a=b","2021"⟩ := by cbv
  obtain ⟨-,hboth,hblank⟩ := formatChoice_append "rustfmt=/opt/rustfmt, edition=2018"
    "no_format ,,rustfmt=a=b"
  have hprogram : Sets "no_format ,,rustfmt=a=b" "rustfmt" := by decide
  have hedition : ¬ Sets "no_format ,,rustfmt=a=b" "edition" := by decide
  refine ⟨hp,hq,?_,?_⟩
  · have hchoice := hboth _ _ hp hq
    rw [if_pos hprogram,if_neg hedition] at hchoice
    exact hchoice
  · have htab : IsBlankText "\t " := List.all_eq_true.mp rfl
    exact (hblank ["no_format"] ["rustfmt=a=b"] "\t " "" "" "" htab isBlankText_empty
      isBlankText_empty).1

end SchemaCodec.Plugin
