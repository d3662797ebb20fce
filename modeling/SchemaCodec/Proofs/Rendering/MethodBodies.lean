import SchemaCodec.Proofs.Rendering.MethodLines
import SchemaCodec.Proofs.Semantics.Methods

/-! # Bodies of methods

Both methods of a message go through its fields run by run. For each run they mention the struct's
field that holds it, and no other one, and for each member of a oneof they have an arm with the same
variant and the same number.
-/
namespace SchemaCodec.Codec
variable {α : Type} {files : List SchemaFile} {m : Message}

/-- The arm that a member of a oneof has in either method, and whether its variant is boxed. `owner` is
the name of the message's struct. -/
def Binding.arm? (owner : String) (b : Binding α) : Option (Arm × Bool) :=
  match b.kind with
  | .oneof g number inner => some (⟨Identifier.escape g,owner ++ Identifier.camel g,
      Identifier.camel b.field.name,toString number⟩,isMessage inner)
  | _ => none

/-- The arms that a run has in either method. -/
def Run.arms (owner : String) : Run α → List (Arm × Bool)
  | .plain _ => []
  | .group _ first more => (first :: more).filterMap (Binding.arm? owner)

/-- The names in a binding are identifiers. -/
def Binding.Named (b : Binding α) : Prop :=
  IsName b.field.name ∧ ∀ g, b.group? = some g → IsName g

def Run.Named : Run α → Prop
  | .plain b => b.Named
  | .group name first more => IsName name ∧ ∀ b ∈ first :: more, b.Named ∧ b.group? = some name

theorem cutLines_eq {lines : List String} (h : ∀ line ∈ lines, '\n' ∉ line.toList) :
    cutLines lines = lines := by
  induction lines with
  | nil => rfl
  | cons line rest ih =>
    obtain ⟨hline,hrest⟩ := List.forall_mem_cons.mp h
    have hone : Text.splitString '\n' line = [line] := by
      rw [Text.splitString,Text.split_of_not_mem hline]
      simp
    rw [cutLines,List.flatMap_cons,hone,← cutLines,ih hrest]
    rfl

theorem exists_kind_of_group? {b : Binding α} {g : String} (h : b.group? = some g) :
    ∃ number inner, b.kind = .oneof g number inner := by
  unfold Binding.group? at h
  split at h
  · next group number inner hk =>
    cases h
    exact ⟨number,inner,hk⟩
  · cases h

/-! ## Encode bodies -/

/-- The lines of an encode method for a run. -/
def Run.encodeLines : Run FieldWriter → List String
  | .plain b => cutLines b.code.lines
  | .group name first more =>
    ["match &" ++ (Place.field name).text ++ " \x7b"]
      ++ (first :: more).flatMap (fun b => indent 1 (cutLines b.code.lines))
      ++ [indentation 1 ++ "None => e = e.encode_none(),","\x7d"]

theorem encodeBody_eq (table : List (Binding FieldWriter)) :
    encodeBody table = (runs table).flatMap Run.encodeLines := by
  rw [encodeBody]
  refine List.flatMap_congr fun run _ => ?_
  cases run <;> rfl

/-- A line that opens neither a match on a oneof nor an arm. -/
def OpensNothing (line : String) : Prop := matchedField? line = none ∧ matchedVariant? line = none

theorem opensNothing_of_head {line : String} {c : Char} (h : (unindented line).head? = some c)
    (hm : c ≠ 'm') (hs : c ≠ 'S') : OpensNothing line := by
  constructor
  · rw [matchedField?,between?_eq_none rfl h hm]
    rfl
  · rw [matchedVariant?,between?_eq_none rfl h hs]
    rfl

theorem Begins.opensNothing {line : String} (h : Begins writerHeads line) : OpensNothing line := by
  obtain ⟨-,c,hc,hhead⟩ := h
  refine opensNothing_of_head hhead ?_ ?_ <;> rintro rfl <;> exact absurd hc (by decide)

theorem fieldsRead_match {p : Place} (hp : p.Named) {front : List Char} (h : '.' ∉ front) :
    fieldsRead (front ++ '&' :: (p.text.toList ++ ' ' :: ['\x7b'])) = p.fields := by
  rw [fieldsRead_break h (by decide) (by decide),fieldsRead_place hp (by decide),
    fieldsRead_of_dotless (by decide),List.append_nil]

section Written
variable {b : Binding FieldWriter} (h : WrittenFor (TypeIndex.ofFiles files) m b)
include h

/-- The lines for a plain field read this field, and hold no arm. -/
theorem plainWriter (hg : b.group? = none) (hn : IsName b.field.name) :
    (∀ line ∈ b.code.lines, '\n' ∉ line.toList ∧ OpensNothing line) ∧
      ∀ name, name ∈ namesRead b.code.lines ↔ name = Identifier.escape b.field.name := by
  obtain ⟨field,kind,code⟩ := b
  have h : fieldWriter (TypeIndex.ofFiles files) m field kind = .ok code := h
  have hp : (Place.field field.name).Named := hn
  have hwriter : ∀ body, writer kind (.field field.name) 1 = .ok body →
      (∀ line ∈ body.lines, '\n' ∉ line.toList ∧ OpensNothing line) ∧
      ∀ name, name ∈ namesRead body.lines ↔ name = Identifier.escape field.name := by
    intro body hbody
    refine ⟨fun line hline => ?_,fun name => ?_⟩
    · have hbegins := begins_writer hbody (newline_not_mem_place hp) line hline
      exact ⟨hbegins.1,hbegins.opensNothing⟩
    · rw [mem_namesRead_writer hbody hp,Place.fields,List.mem_singleton]
  cases kind with
  | oneof _ _ _ => cases hg
  | message type =>
    cases h
    have hhead : ("e = match &" ++ (Place.field field.name).text ++ " \x7b").toList =
        "e = match ".toList ++ '&' :: ((Place.field field.name).text.toList ++ ' ' :: ['\x7b']) := by
      simp
    constructor
    · rw [FieldWriter.lines,List.forall_mem_cons]
      refine ⟨⟨?_,opensNothing_of_head (c := 'e') ?_ (by decide) (by decide)⟩,?_⟩
      · simpa using newline_not_mem_place hp
      · rw [unindented,hhead]
        rfl
      · simp only [List.forall_mem_cons]
        exact ⟨⟨by decide,by decide,by decide⟩,⟨by decide,by decide,by decide⟩,
          ⟨by decide,by decide,by decide⟩,by simp⟩
    · intro name
      have hrest : namesRead [indentation 1 ++ "Some(v) => v.encode(e),",
          indentation 1 ++ "None => e.encode_none(),","\x7d;"] = [] := by decide
      have hfront : '.' ∉ "e = match ".toList := by decide
      have hread := fieldsRead_match hp hfront
      rw [FieldWriter.lines,← List.singleton_append,namesRead_append,hrest,namesRead,
        List.flatMap_singleton,hhead,hread]
      simp [Place.fields]
  | _ =>
    obtain ⟨body,hbody,h⟩ := bind_eq_ok.mp h
    cases h
    exact hwriter body hbody

theorem memberWriter {g : String} {number : Int} {inner : Kind} (hk : b.kind = .oneof g number inner)
    {owner : String} (ho : identifierOf (TypeIndex.ofFiles files) m.fullName = .ok owner) :
    ∃ body, b.code = .member ⟨owner ++ Identifier.camel g,b.field.name⟩ number body ∧
      writer inner (.bound (.item 1)) 2 = .ok body := by
  obtain ⟨field,kind,code⟩ := b
  have h : fieldWriter (TypeIndex.ofFiles files) m field kind = .ok code := h
  obtain rfl : kind = .oneof g number inner := hk
  obtain ⟨variant,hvariant,h⟩ := bind_eq_ok.mp h
  obtain ⟨body,hbody,h⟩ := bind_eq_ok.mp h
  cases h
  rw [variantOf,groupIdentifier,ho] at hvariant
  cases hvariant
  exact ⟨body,rfl,hbody⟩

end Written

/-! ## Arms of oneofs -/

/-- The characters of a number: digits, or a minus before them. -/
theorem isNumeral_toString (n : ℤ) : ∀ c ∈ (toString n).toList, (c.isDigit || c == '-') = true := by
  intro c hc
  cases n with
  | ofNat n =>
    have htext : toString (Int.ofNat n) = toString n := rfl
    rw [htext,toList_toString] at hc
    simp [isDigit_of_mem hc]
  | negSucc n =>
    have htext : toString (Int.negSucc n) = "-" ++ toString (n + 1) := rfl
    rw [htext,String.toList_append,toList_toString] at hc
    rcases List.mem_append.mp hc with hc | hc
    · rw [List.mem_singleton.mp hc]
      rfl
    · simp [isDigit_of_mem hc]

theorem toString_int_ne_nil (n : ℤ) : (toString n).toList ≠ [] := by
  cases n with
  | ofNat n =>
    have htext : toString (Int.ofNat n) = toString n := rfl
    rw [htext,toList_toString]
    exact Nat.toDigits_ne_nil
  | negSucc n =>
    have htext : toString (Int.negSucc n) = "-" ++ toString (n + 1) := rfl
    rw [htext,String.toList_append]
    simp

theorem not_mem_toString (n : ℤ) {c : Char} (h : (c.isDigit || c == '-') = false) :
    c ∉ (toString n).toList := by
  intro hmem
  rw [isNumeral_toString n c hmem] at h
  cases h

theorem not_mem_name {name : List Char} (h : ∀ c ∈ name, IsWordChar c) {c : Char}
    (hc : ¬ IsWordChar c) : c ∉ name :=
  fun hmem => hc (h c hmem)

/-- A variant whose type is called by letters and digits. -/
def Variant.Spelled (v : Variant) : Prop := ∀ c ∈ v.owner.toList, IsWordChar c

theorem Variant.Spelled.not_mem {v : Variant} (hv : v.Spelled) {c : Char} (hc : ¬ IsWordChar c)
    (hcolon : c ≠ ':') : c ∉ v.text.toList := by
  have howner := not_mem_name hv hc
  have hmember : c ∉ (Identifier.camel v.member).toList :=
    not_mem_name Identifier.isWordChar_camel hc
  simp [Variant.text,howner,hmember,hcolon]

theorem Variant.Spelled.pathParts {v : Variant} (hv : v.Spelled) :
    pathParts v.text.toList = (v.owner,Identifier.camel v.member) := by
  have htext : v.text.toList =
      v.owner.toList ++ ':' :: (':' :: (Identifier.camel v.member).toList) := by
    simp [Variant.text]
  have hcolon : ':' ∉ v.owner.toList := not_mem_name hv (by decide)
  rw [Codec.pathParts,htext,upTo_append hcolon,behind_append hcolon]
  simp

def matchLine (v : Variant) : String := "Some(" ++ v.text ++ "(" ++ (Local.item 1).text ++ ")) => \x7b"

def numberLine (number : Int) : String :=
  indentation 1 ++ "e = e.encode_" ++ Primitive.enumNumber.suffix ++ "(" ++ toString number ++ ");"

theorem toList_matchLine (v : Variant) :
    (matchLine v).toList = "Some(".toList ++ (v.text.toList ++ "(v1)) => \x7b".toList) := by
  have hitem : (Local.item 1).text = "v1" := by decide
  simp [matchLine,hitem]

theorem numberLine_eq (number : Int) : numberLine number =
    indentation 1 ++ ("e = e.encode_" ++ "u32" ++ "(" ++ toString number ++ ");") := by
  have hsuffix : Primitive.enumNumber.suffix = "u32" := by decide
  rw [numberLine,hsuffix]
  simp only [String.append_assoc]

theorem unindented_numberLine (number : Int) : unindented (numberLine number) =
    "e = e.encode_u32(".toList ++ ((toString number).toList ++ ");".toList) := by
  rw [numberLine_eq,unindented_indentation,unindented]
  simp

theorem fieldsRead_numberLine (number : Int) : fieldsRead (numberLine number).toList = [] := by
  have htext : ("e = e.encode_" ++ "u32" ++ "(" ++ toString number ++ ");").toList =
      "e = e.encode_".toList ++ ("u32".toList ++ '(' ::
        ((toString number).toList ++ ");".toList)) := by
    simp
  have hnumber : '.' ∉ (toString number).toList := not_mem_toString number (by decide)
  have hdotless : '.' ∉ (toString number).toList ++ ");".toList :=
    fun hmem => (List.mem_append.mp hmem).elim hnumber (by decide)
  rw [numberLine_eq,fieldsRead_indentation,htext,fieldsRead_call (by decide),
    fieldsRead_of_dotless hdotless]

theorem newline_not_mem_numberLine (number : Int) : '\n' ∉ (numberLine number).toList := by
  have hnumber : '\n' ∉ (toString number).toList := not_mem_toString number (by decide)
  rw [numberLine_eq,String.toList_append,toList_indentation]
  simpa using hnumber

section Member
variable {v : Variant} (hv : v.Spelled)
include hv

theorem matchedVariant?_matchLine : matchedField? (matchLine v) = none ∧
    matchedVariant? (matchLine v) = some (v.owner,Identifier.camel v.member) := by
  have htext : unindented (matchLine v) =
      "Some(".toList ++ (v.text.toList ++ "(v1)) => \x7b".toList) := by
    rw [unindented,toList_matchLine]
    simp
  constructor
  · rw [matchedField?,htext,between?_eq_none (c := 'm') (d := 'S') rfl rfl (by decide)]
    rfl
  · rw [matchedVariant?,htext,between?_eq_some.mpr rfl,Option.map_some,hv.pathParts]

/-- The lines of an arm name its variant and write its number, and read no field. -/
theorem writerArm (number : Int) {inner : Kind} {body : Writer}
    (hbody : writer inner (.bound (.item 1)) 2 = .ok body) :
    (∀ line ∈ (FieldWriter.member v number body).lines, '\n' ∉ line.toList) ∧
      namesRead (FieldWriter.member v number body).lines = [] ∧
      ∀ field rest, writtenArms field none ((FieldWriter.member v number body).lines ++ rest) =
        ⟨field,v.owner,Identifier.camel v.member,toString number⟩ ::
          writtenArms field none rest := by
  have hlines : (FieldWriter.member v number body).lines =
      matchLine v :: numberLine number :: (indent 1 body.lines ++ ["\x7d"]) := rfl
  have hrest : ∀ line ∈ indent 1 body.lines ++ ["\x7d"], Begins writerHeads line := by
    rw [List.forall_mem_append,List.forall_mem_singleton]
    exact ⟨begins_indent (begins_writer hbody (newline_not_mem_local _)),begins_close (by decide)⟩
  rw [hlines]
  refine ⟨?_,?_,fun field rest => ?_⟩
  · have hvariant : '\n' ∉ v.text.toList :=
      hv.not_mem (by decide) (by decide)
    rw [List.forall_mem_cons,List.forall_mem_cons,toList_matchLine]
    exact ⟨by simp [hvariant],newline_not_mem_numberLine number,
      fun line hline => (hrest line hline).1⟩
  · have hvariant : '.' ∉ v.text.toList := hv.not_mem (by decide) (by decide)
    have hfirst : fieldsRead (matchLine v).toList = [] := by
      rw [toList_matchLine]
      exact fieldsRead_of_dotless (by simp [hvariant])
    have hinner : namesRead (indent 1 body.lines) = [] := by
      rw [namesRead_indent]
      refine List.eq_nil_iff_forall_not_mem.mpr fun name hname => ?_
      exact absurd ((mem_namesRead_writer hbody trivial name).mp hname) List.not_mem_nil
    have hclose : namesRead ["\x7d"] = [] := by decide
    rw [namesRead_cons,namesRead_cons,namesRead_append,hfirst,fieldsRead_numberLine,hinner,hclose]
    rfl
  · obtain ⟨hfield,hvariant⟩ := matchedVariant?_matchLine hv
    have hopens : OpensNothing (numberLine number) :=
      opensNothing_of_head (c := 'e') (by rw [unindented_numberLine]; rfl) (by decide) (by decide)
    have hnumber : writtenNumber? (numberLine number) = some (toString number) := by
      rw [writtenNumber?,unindented_numberLine,between?_eq_some.mpr rfl,Option.map_some,
        String.ofList_toList]
    rw [List.cons_append,List.cons_append,writtenArms_variant hfield hvariant,
      writtenArms_number hopens.1 hopens.2 hnumber,
      writtenArms_append fun line hline => (hrest line hline).opensNothing]

end Member

/-- The variant of a member of one of the message's oneofs. -/
theorem spelled_variant {owner : String}
    (ho : identifierOf (TypeIndex.ofFiles files) m.fullName = .ok owner) (g member : String) :
    Variant.Spelled ⟨owner ++ Identifier.camel g,member⟩ := by
  intro c hc
  rw [String.toList_append] at hc
  rcases List.mem_append.mp hc with hc | hc
  · exact isWordChar_identifierOf ho c hc
  · exact Identifier.isWordChar_camel c hc

theorem spelled_of_variantOf {field : Field} {g : String} {v : Variant}
    (h : variantOf (TypeIndex.ofFiles files) m field g = .ok v) : v.Spelled := by
  obtain ⟨type,htype,h⟩ := bind_eq_ok.mp h
  cases h
  obtain ⟨owner,howner,htype⟩ := bind_eq_ok.mp htype
  cases htype
  exact spelled_variant howner g field.name

section Encode
variable {owner : String} (ho : identifierOf (TypeIndex.ofFiles files) m.fullName = .ok owner)
include ho

/-- The arms of a oneof's members read no field, and each stands for its member. -/
theorem writerArms {g : String} {bs : List (Binding FieldWriter)}
    (hw : ∀ b ∈ bs, WrittenFor (TypeIndex.ofFiles files) m b) (hg : ∀ b ∈ bs, b.group? = some g) :
    namesRead (bs.flatMap fun b => indent 1 (cutLines b.code.lines)) = [] ∧
      ∀ rest, writtenArms (Identifier.escape g) none
        ((bs.flatMap fun b => indent 1 (cutLines b.code.lines)) ++ rest) =
          (bs.filterMap (Binding.arm? owner)).map (·.1) ++
            writtenArms (Identifier.escape g) none rest := by
  induction bs with
  | nil => exact ⟨rfl,fun _ => rfl⟩
  | cons b more ih =>
    obtain ⟨hb,hmore⟩ := List.forall_mem_cons.mp hw
    obtain ⟨hgroup,hgroups⟩ := List.forall_mem_cons.mp hg
    obtain ⟨hnames,harms⟩ := ih hmore hgroups
    obtain ⟨number,inner,hk⟩ := exists_kind_of_group? hgroup
    obtain ⟨body,hcode,hbody⟩ := memberWriter hb hk ho
    obtain ⟨hnewline,hread,harm⟩ := writerArm (spelled_variant ho g b.field.name) number hbody
    have hcut : cutLines b.code.lines = b.code.lines := cutLines_eq (hcode ▸ hnewline)
    have harm? : b.arm? owner = some (⟨Identifier.escape g,owner ++ Identifier.camel g,
        Identifier.camel b.field.name,toString number⟩,isMessage inner) := by
      rw [Binding.arm?,hk]
    constructor
    · rw [List.flatMap_cons,namesRead_append,hnames,namesRead_indent,hcut,hcode,hread]
      rfl
    · intro rest
      rw [List.flatMap_cons,List.append_assoc,writtenArms_indent,hcut,hcode,harm,harms,
        List.filterMap_cons,harm?]
      rfl

section Table
variable {table : List (Binding FieldWriter)}
  (hw : ∀ b ∈ table, WrittenFor (TypeIndex.ofFiles files) m b) (hn : ∀ b ∈ table, b.Named)
include hw hn

/-- A run reads the field that holds it, and has its arms. -/
theorem encodeLines_run {run : Run FieldWriter} (hrun : run.IsFrom table) :
    (∀ name, name ∈ namesRead run.encodeLines ↔ name = Identifier.escape run.slot.name) ∧
      ∀ field rest, ∃ next, writtenArms field none (run.encodeLines ++ rest) =
        (run.arms owner).map (·.1) ++ writtenArms next none rest := by
  cases run with
  | plain b =>
    obtain ⟨hb,hplain⟩ := hrun
    obtain ⟨hlines,hnames⟩ := plainWriter (hw b hb) hplain (hn b hb).1
    have hcut : cutLines b.code.lines = b.code.lines := cutLines_eq fun line hl => (hlines line hl).1
    rw [Run.encodeLines,hcut]
    refine ⟨hnames,fun field rest => ⟨field,?_⟩⟩
    exact writtenArms_append fun line hl => (hlines line hl).2
  | group name first more =>
    have hfrom := hrun.members
    have hp : (Place.field name).Named := by
      obtain ⟨hfirst,hgroup⟩ := hfrom first List.mem_cons_self
      exact (hn first hfirst).2 name hgroup
    obtain ⟨hnames,harms⟩ := writerArms ho (fun b hb => hw b (hfrom b hb).1)
      fun b hb => (hfrom b hb).2
    have hhead : ("match &" ++ (Place.field name).text ++ " \x7b").toList =
        "match ".toList ++ '&' :: ((Place.field name).text.toList ++ ' ' :: ['\x7b']) := by
      simp
    have hfield : matchedField? ("match &" ++ (Place.field name).text ++ " \x7b") =
        some (Identifier.escape name) := by
      have htext : unindented ("match &" ++ (Place.field name).text ++ " \x7b") =
          "match &self.".toList ++ ((Identifier.escape name).toList ++ " \x7b".toList) := by
        simp [unindented,Place.text]
      rw [matchedField?,htext,between?_eq_some.mpr rfl,Option.map_some,String.ofList_toList]
    rw [Run.encodeLines]
    constructor
    · intro field
      have hlast : namesRead [indentation 1 ++ "None => e = e.encode_none(),","\x7d"] = [] := by
        decide
      rw [namesRead_append,namesRead_append,hnames,hlast,namesRead_cons,hhead,
        fieldsRead_match hp (by decide)]
      simp [Place.fields,namesRead,Run.slot,Slot.name]
    · intro field rest
      refine ⟨Identifier.escape name,?_⟩
      have hlast : ∀ line ∈ [indentation 1 ++ "None => e = e.encode_none(),","\x7d"],
          OpensNothing line := by
        simp only [List.forall_mem_cons]
        exact ⟨⟨by decide,by decide⟩,⟨by decide,by decide⟩,by simp⟩
      rw [List.append_assoc,List.append_assoc,List.singleton_append,writtenArms_field hfield,harms,
        writtenArms_append hlast]
      rfl

/-- An encode body reads the fields that its runs are held by. -/
theorem mem_namesRead_encodeBody (name : String) : name ∈ namesRead (encodeBody table) ↔
    ∃ run ∈ runs table, name = Identifier.escape run.slot.name := by
  have hall : ∀ rs : List (Run FieldWriter), (∀ run ∈ rs, run.IsFrom table) →
      (name ∈ namesRead (rs.flatMap Run.encodeLines) ↔
        ∃ run ∈ rs, name = Identifier.escape run.slot.name) := by
    intro rs hrs
    induction rs with
    | nil => simp [namesRead]
    | cons run rest ih =>
      obtain ⟨hrun,hrest⟩ := List.forall_mem_cons.mp hrs
      rw [List.flatMap_cons,namesRead_append,List.mem_append,ih hrest,
        (encodeLines_run ho hw hn hrun).1 name]
      simp
  rw [encodeBody_eq]
  exact hall _ (isFrom_of_mem_runs table)

/-- An encode body has the arms of its runs. -/
theorem writtenArms_encodeBody (field : String) :
    writtenArms field none (encodeBody table) =
      (runs table).flatMap fun run => (run.arms owner).map (·.1) := by
  have hall : ∀ rs : List (Run FieldWriter), (∀ run ∈ rs, run.IsFrom table) → ∀ field,
      writtenArms field none (rs.flatMap Run.encodeLines) =
        rs.flatMap fun run => (run.arms owner).map (·.1) := by
    intro rs hrs
    induction rs with
    | nil => exact fun _ => rfl
    | cons run rest ih =>
      intro field
      obtain ⟨hrun,hrest⟩ := List.forall_mem_cons.mp hrs
      obtain ⟨next,harms⟩ := (encodeLines_run ho hw hn hrun).2 field (rest.flatMap Run.encodeLines)
      rw [List.flatMap_cons,harms,ih hrest next,List.flatMap_cons]
  rw [encodeBody_eq]
  exact hall _ (isFrom_of_mem_runs table) field

end Table
end Encode

/-! ## Decode bodies -/

/-- The lines of a decode method for a run. -/
def Run.decodeLines : Run Decoding → List String
  | .plain b => cutLines b.code.reader.lines
  | .group _ first more =>
    ["if !d.decode_none() \x7b",indentation 1 ++ "match d.decode_u32()? \x7b"]
      ++ (first :: more).flatMap (fun b => indent 2 (cutLines b.code.reader.lines))
      ++ [indentation 2 ++ "_ => return Err(DecodingError::InvalidStruct.into()),",
        indentation 1 ++ "\x7d","\x7d"]

theorem decodeBody_eq (table : List (Binding Decoding)) :
    decodeBody table = (runs table).flatMap Run.decodeLines := by
  rw [decodeBody]
  refine List.flatMap_congr fun run _ => ?_
  cases run <;> rfl

theorem matchedNumber?_eq_none {line : String} {c : Char} (h : (unindented line).head? = some c)
    (hc : (c.isDigit || c == '-') = false) (hblank : c ≠ ' ') : matchedNumber? line = none := by
  refine Option.eq_none_iff_forall_ne_some.mpr fun number hnumber => ?_
  obtain ⟨inner,hinner,-⟩ := Option.map_eq_some_iff.mp hnumber
  obtain ⟨hbetween,hall⟩ := Option.filter_eq_some_iff.mp hinner
  rw [between?_eq_some.mp hbetween] at h
  cases inner with
  | nil => exact hblank (Option.some.inj h).symm
  | cons d rest =>
    obtain rfl : d = c := Option.some.inj h
    have hd := List.all_eq_true.mp hall d List.mem_cons_self
    rw [hc] at hd
    cases hd

theorem Begins.matchedNumber? {line : String} (h : Begins readerHeads line) :
    matchedNumber? line = none ∧ assignment? line = none := by
  obtain ⟨-,c,hc,hhead⟩ := h
  have hall : readerHeads.all
      (fun c => !(c.isDigit || c == '-') && c != ' ' && c != 'x') = true := by decide
  have hc' := List.all_eq_true.mp hall c hc
  simp only [Bool.and_eq_true,Bool.not_eq_true',bne_iff_ne] at hc'
  exact ⟨matchedNumber?_eq_none hhead hc'.1.1 hc'.1.2,assignment?_eq_none hhead hc'.2⟩

theorem isWrapped_append (before value after : String) :
    isWrapped before after (before ++ value ++ after) = true := by
  rw [isWrapped,Bool.and_eq_true,List.isPrefixOf_iff_prefix,List.isSuffixOf_iff_suffix]
  simp only [String.toList_append,List.append_assoc]
  exact ⟨List.prefix_append ..,(List.suffix_append ..).trans (List.suffix_append ..)⟩

/-- A text that no bracket ends is not wrapped in one. -/
theorem isWrapped_eq_false {before text : String} (h : text.toList.getLast? ≠ some ')') :
    isWrapped before ")" text = false := by
  refine Bool.eq_false_iff.mpr fun hw => h ?_
  obtain ⟨-,hsuffix⟩ := Bool.and_eq_true_iff.mp hw
  obtain ⟨front,hfront⟩ := List.isSuffixOf_iff_suffix.mp hsuffix
  rw [← hfront]
  simp

/-- What a decode method assigns to a field of the struct. -/
def stored : Sink → String → Option Assignment
  | .store field,value => some ⟨Identifier.escape field,value⟩
  | .storeSome field,value => some ⟨Identifier.escape field,"Some(" ++ value ++ ")"⟩
  | .storeVariant group variant boxed,value =>
    let payload := if boxed then "Box::new(" ++ value ++ ")" else value
    some ⟨Identifier.escape group,"Some(" ++ variant.text ++ "(" ++ payload ++ "))"⟩
  | _,_ => none

/-- The names of fields in a sink are identifiers, and its variant is one of the message's. -/
def Sink.Named : Sink → Prop
  | .store field | .storeSome field => IsName field
  | .storeVariant group variant _ => IsName group ∧ variant.Spelled
  | _ => False

theorem sink_line {sink : Sink} {value : String} {a : Assignment} (h : stored sink value = some a) :
    sink.line value = "x." ++ a.field ++ " = " ++ a.value ++ ";" := by
  have hsome : " = Some(" = " = " ++ "Some(" := by decide
  have hclose : ");" = ")" ++ ";" := by decide
  have hcloses : "));" = "))" ++ ";" := by decide
  cases sink with
  | store field =>
    cases h
    rfl
  | storeSome field =>
    cases h
    simp only [Sink.line,hsome,hclose,String.append_assoc]
  | storeVariant group variant boxed =>
    cases h
    simp only [Sink.line,hsome,hcloses,String.append_assoc]
  | _ => cases h

theorem stored_line {sink : Sink} (hs : sink.Named) {value : String}
    (hv : HandedOn (TypeIndex.ofFiles files) value) : ∃ a, stored sink value = some a ∧
      '\n' ∉ (sink.line value).toList ∧ assignment? (sink.line value) = some a ∧
        matchedNumber? (sink.line value) = none := by
  have hvalue := (handedOn_plain hv).1
  have hparts : ∀ a, stored sink value = some a → ' ' ∉ a.field.toList → '\n' ∉ a.field.toList →
      '\n' ∉ a.value.toList → '\n' ∉ (sink.line value).toList ∧
        assignment? (sink.line value) = some a ∧ matchedNumber? (sink.line value) = none := by
    intro a ha hblank hfield hnewline
    rw [sink_line ha]
    refine ⟨by simp [hfield,hnewline],assignment?_eq hblank,?_⟩
    exact matchedNumber?_eq_none (c := 'x') (by simp [unindented]) (by decide) (by decide)
  cases sink with
  | store field =>
    refine ⟨_,rfl,hparts _ rfl ?_ ?_ hvalue⟩ <;> exact not_mem_escape hs (by decide)
  | storeSome field =>
    refine ⟨_,rfl,hparts _ rfl ?_ ?_ (by simp [hvalue])⟩ <;> exact not_mem_escape hs (by decide)
  | storeVariant group variant boxed =>
    have hvariant : '\n' ∉ variant.text.toList := hs.2.not_mem (by decide) (by decide)
    refine ⟨_,rfl,hparts _ rfl ?_ ?_ ?_⟩
    · exact not_mem_escape hs.1 (by decide)
    · exact not_mem_escape hs.1 (by decide)
    · cases boxed <;> simp [hvalue,hvariant]
  | _ => cases hs

/-- Lines of a decode method that read one value behind a line of their own. -/
theorem readerLines (sink : Sink) (hs : sink.Named) {body : Reader}
    (h : HandOn files sink body.lines) {head : String} (hnewline : '\n' ∉ head.toList)
    (hhead : assignment? head = none) :
    ∃ value a, HandedOn (TypeIndex.ofFiles files) value ∧ stored sink value = some a ∧
      (∀ line ∈ head :: (indent 1 body.lines ++ ["\x7d"]), '\n' ∉ line.toList) ∧
      assignments (head :: (indent 1 body.lines ++ ["\x7d"])) = [a] ∧
      (matchedNumber? head = none → ∀ rest,
        readArms none (head :: (indent 1 body.lines ++ ["\x7d"]) ++ rest) = readArms none rest) ∧
      ∀ number owner variant payload, matchedNumber? head = some number →
        constructed? a.value = some ((owner,variant),payload) → ∀ rest,
        readArms none (head :: (indent 1 body.lines ++ ["\x7d"]) ++ rest) =
          (⟨a.field,owner,variant,number⟩,payload) :: readArms none rest := by
  obtain ⟨front,value,hlines,hvalue,hfront⟩ := h
  obtain ⟨a,ha,hline,hassign,hnumber⟩ := stored_line hs hvalue
  have hclose : matchedNumber? "\x7d" = none := by decide
  refine ⟨value,a,hvalue,ha,?_,?_,fun hnone rest => ?_,
    fun number owner variant payload hsome hvariant rest => ?_⟩
  · rw [List.forall_mem_cons,List.forall_mem_append]
    refine ⟨hnewline,newline_not_mem_indent ?_,by decide⟩
    rw [hlines,List.forall_mem_append,List.forall_mem_singleton]
    exact ⟨fun line hl => (hfront line hl).1,hline⟩
  · have hinner : assignments body.lines = [a] := by
      rw [hlines,assignments_append,assignments_eq_nil (by decide) hfront,assignments]
      simp [hassign]
    have hlast : assignments ["\x7d"] = [] := by decide
    rw [assignments,List.filterMap_cons,hhead,← assignments,assignments_append,assignments_indent,
      hinner,hlast,List.append_nil]
  · rw [List.cons_append,readArms_idle hnone,List.append_assoc,readArms_indent,hlines,
      List.append_assoc,readArms_append_idle fun line hl => (hfront line hl).matchedNumber?.1,
      List.singleton_append,readArms_idle hnumber,List.singleton_append,readArms_idle hclose]
  · rw [List.cons_append,readArms_number hsome,List.append_assoc,readArms_indent,hlines,
      List.append_assoc,readArms_append_other fun line hl => (hfront line hl).matchedNumber?,
      List.singleton_append,readArms_variant hnumber hassign hvariant,List.singleton_append,
      readArms_idle hclose]

theorem armLine (number : Int) : '\n' ∉ (toString number ++ " => \x7b").toList ∧
    assignment? (toString number ++ " => \x7b") = none ∧
    matchedNumber? (toString number ++ " => \x7b") = some (toString number) := by
  obtain ⟨c,rest,hc⟩ := List.exists_cons_of_ne_nil (toString_int_ne_nil number)
  have hnumeral := isNumeral_toString number c (hc ▸ List.mem_cons_self)
  have hother : ∀ d, (d.isDigit || d == '-') = false → c ≠ d := by
    rintro d hd rfl
    rw [hnumeral] at hd
    cases hd
  have htext : unindented (toString number ++ " => \x7b") =
      (toString number).toList ++ " => \x7b".toList := by
    rw [unindented,String.toList_append,hc,List.cons_append]
    simp [hother ' ' (by decide)]
  have hnewline : '\n' ∉ (toString number).toList := not_mem_toString number (by decide)
  refine ⟨?_,assignment?_eq_none (c := c) ?_ (hother 'x' (by decide)),?_⟩
  · rw [String.toList_append]
    exact fun hmem => (List.mem_append.mp hmem).elim hnewline (by decide)
  · rw [htext,hc]
    rfl
  · have hbetween : between? "" " => \x7b" ((toString number).toList ++ " => \x7b".toList) =
        some (toString number).toList := between?_eq_some.mpr rfl
    have hall : (toString number).toList.all (fun c => c.isDigit || c == '-') = true :=
      List.all_eq_true.mpr (isNumeral_toString number)
    rw [matchedNumber?,htext,hbetween,Option.filter_some,if_pos hall,Option.map_some,
      String.ofList_toList]

theorem constructed?_eq {v : Variant} (hv : v.Spelled) (payload : String) :
    constructed? ("Some(" ++ v.text ++ "(" ++ payload ++ "))") =
      some ((v.owner,Identifier.camel v.member),payload) := by
  have htext : ("Some(" ++ v.text ++ "(" ++ payload ++ "))").toList =
      "Some(".toList ++ ((v.text.toList ++ '(' :: payload.toList) ++ "))".toList) := by
    simp
  have hopen : '(' ∉ v.text.toList := hv.not_mem (by decide) (by decide)
  rw [constructed?,htext,between?_eq_some.mpr rfl,Option.map_some,upTo_append hopen,
    behind_append hopen,hv.pathParts,String.ofList_toList]

section Read
variable {b : Binding Decoding} (h : ReadFor (TypeIndex.ofFiles files) m b)
include h

/-- The lines for a plain field assign to this field, an option exactly if it holds a message. -/
theorem plainReader (hg : b.group? = none) (hn : IsName b.field.name) :
    (∀ line ∈ b.code.reader.lines, '\n' ∉ line.toList) ∧
      (∀ rest, readArms none (b.code.reader.lines ++ rest) = readArms none rest) ∧
      ∃ a, assignments b.code.reader.lines = [a] ∧ a.field = Identifier.escape b.field.name ∧
        isWrapped "Some(" ")" a.value = isMessage b.kind := by
  obtain ⟨field,kind,code,initial⟩ := b
  have h : fieldReader (TypeIndex.ofFiles files) m field kind = .ok code := h
  have hguard : '\n' ∉ "if !d.decode_none() \x7b".toList ∧
      assignment? "if !d.decode_none() \x7b" = none ∧
      matchedNumber? "if !d.decode_none() \x7b" = none := by decide
  have hplain : ∀ body, isMessage kind = false →
      reader (TypeIndex.ofFiles files) kind (.store field.name) 1 = .ok body →
      (∀ line ∈ (FieldReader.guarded body).lines, '\n' ∉ line.toList) ∧
      (∀ rest, readArms none ((FieldReader.guarded body).lines ++ rest) = readArms none rest) ∧
      ∃ a, assignments (FieldReader.guarded body).lines = [a] ∧
        a.field = Identifier.escape field.name ∧ isWrapped "Some(" ")" a.value = isMessage kind := by
    intro body hkind hbody
    obtain ⟨value,a,hvalue,ha,hlines,hassign,harms,-⟩ :=
      readerLines (.store field.name) hn (handOn_reader hbody) hguard.1 hguard.2.1
    cases ha
    refine ⟨hlines,harms hguard.2.2,_,hassign,rfl,?_⟩
    rw [hkind]
    exact isWrapped_eq_false (handedOn_plain hvalue).2
  cases kind with
  | oneof _ _ _ => cases hg
  | message type =>
    obtain ⟨body,hbody,h⟩ := bind_eq_ok.mp h
    cases h
    obtain ⟨value,a,-,ha,hlines,hassign,harms,-⟩ :=
      readerLines (.storeSome field.name) hn (handOn_reader hbody) hguard.1 hguard.2.1
    cases ha
    exact ⟨hlines,harms hguard.2.2,_,hassign,rfl,isWrapped_append ..⟩
  | _ =>
    obtain ⟨body,hbody,h⟩ := bind_eq_ok.mp h
    cases h
    exact hplain body rfl hbody

/-- The lines for a member of a oneof assign to the field of the oneof, and have the member's arm. -/
theorem memberReader {g : String} (hg : b.group? = some g) (hn : IsName g) {owner : String}
    (ho : identifierOf (TypeIndex.ofFiles files) m.fullName = .ok owner) :
    (∀ line ∈ b.code.reader.lines, '\n' ∉ line.toList) ∧
      (assignments b.code.reader.lines).map (·.field) = [Identifier.escape g] ∧
      ∃ arm payload, b.arm? owner = some (arm,isWrapped "Box::new(" ")" payload) ∧
        ∀ rest, readArms none (b.code.reader.lines ++ rest) = (arm,payload) :: readArms none rest := by
  obtain ⟨number,inner,hk⟩ := exists_kind_of_group? hg
  obtain ⟨field,kind,code,initial⟩ := b
  have h : fieldReader (TypeIndex.ofFiles files) m field kind = .ok code := h
  obtain rfl : kind = .oneof g number inner := hk
  obtain ⟨variant,hvariant,h⟩ := bind_eq_ok.mp h
  obtain ⟨body,hbody,h⟩ := bind_eq_ok.mp h
  cases h
  rw [variantOf,groupIdentifier,ho] at hvariant
  cases hvariant
  have hspelled := spelled_variant ho g field.name
  obtain ⟨hnewline,hassign,hnumber⟩ := armLine number
  obtain ⟨value,a,hvalue,ha,hlines,hassigns,-,harms⟩ :=
    readerLines (.storeVariant g _ (isMessage inner)) ⟨hn,hspelled⟩ (handOn_reader hbody)
      hnewline hassign
  cases ha
  refine ⟨hlines,congrArg _ hassigns,_,_,?_,harms _ _ _ _ hnumber (constructed?_eq hspelled _)⟩
  have hboxed : isWrapped "Box::new(" ")"
      (if isMessage inner then "Box::new(" ++ value ++ ")" else value) = isMessage inner := by
    cases isMessage inner with
    | true => exact isWrapped_append ..
    | false => exact isWrapped_eq_false (handedOn_plain hvalue).2
  rw [hboxed]
  rfl

end Read

def boxedArm (arm : Arm × String) : Arm × Bool := (arm.1,isWrapped "Box::new(" ")" arm.2)

section Decode
variable {owner : String} (ho : identifierOf (TypeIndex.ofFiles files) m.fullName = .ok owner)
include ho

/-- The arms of a oneof's members assign to the field of the oneof, and each stands for its member. -/
theorem readerArms {g : String} (hn : IsName g) {bs : List (Binding Decoding)}
    (hr : ∀ b ∈ bs, ReadFor (TypeIndex.ofFiles files) m b) (hg : ∀ b ∈ bs, b.group? = some g) :
    (assignments (bs.flatMap fun b => indent 2 (cutLines b.code.reader.lines))).map (·.field) =
        bs.map (fun _ => Identifier.escape g) ∧
      ∀ rest, (readArms none
        ((bs.flatMap fun b => indent 2 (cutLines b.code.reader.lines)) ++ rest)).map boxedArm =
          bs.filterMap (Binding.arm? owner) ++ (readArms none rest).map boxedArm := by
  induction bs with
  | nil => exact ⟨rfl,fun _ => rfl⟩
  | cons b more ih =>
    obtain ⟨hb,hmore⟩ := List.forall_mem_cons.mp hr
    obtain ⟨hgroup,hgroups⟩ := List.forall_mem_cons.mp hg
    obtain ⟨hnames,harms⟩ := ih hmore hgroups
    obtain ⟨hlines,hassigns,arm,payload,harm?,harm⟩ := memberReader hb hgroup hn ho
    have hcut : cutLines b.code.reader.lines = b.code.reader.lines := cutLines_eq hlines
    constructor
    · rw [List.flatMap_cons,assignments_append,List.map_append,hnames,assignments_indent,hcut,
        hassigns]
      rfl
    · intro rest
      rw [List.flatMap_cons,List.append_assoc,readArms_indent,hcut,harm,List.map_cons,harms,
        List.filterMap_cons,harm?]
      rfl

section Table
variable {table : List (Binding Decoding)}
  (hr : ∀ b ∈ table, ReadFor (TypeIndex.ofFiles files) m b) (hn : ∀ b ∈ table, b.Named)
include hr hn

/-- A run assigns to the field that holds it, and has its arms. -/
theorem decodeLines_run {run : Run Decoding} (hrun : run.IsFrom table) :
    (∀ name, name ∈ (assignments run.decodeLines).map (·.field) ↔
        name = Identifier.escape run.slot.name) ∧
      ∀ rest, (readArms none (run.decodeLines ++ rest)).map boxedArm =
        run.arms owner ++ (readArms none rest).map boxedArm := by
  cases run with
  | plain b =>
    obtain ⟨hb,hplain⟩ := hrun
    obtain ⟨hlines,harms,a,hassigns,hfield,-⟩ := plainReader (hr b hb) hplain (hn b hb).1
    have hcut : cutLines b.code.reader.lines = b.code.reader.lines := cutLines_eq hlines
    rw [Run.decodeLines,hcut,hassigns]
    refine ⟨fun name => ?_,fun rest => by rw [harms]; rfl⟩
    rw [List.map_singleton,List.mem_singleton,hfield]
    rfl
  | group name first more =>
    have hfrom := hrun.members
    have hname : IsName name := by
      obtain ⟨hfirst,hgroup⟩ := hfrom first List.mem_cons_self
      exact (hn first hfirst).2 name hgroup
    obtain ⟨hnames,harms⟩ := readerArms ho hname (fun b hb => hr b (hfrom b hb).1)
      fun b hb => (hfrom b hb).2
    rw [Run.decodeLines]
    constructor
    · intro field
      have hopen : assignments ["if !d.decode_none() \x7b",
          indentation 1 ++ "match d.decode_u32()? \x7b"] = [] := by decide
      have hlast : assignments [indentation 2 ++
          "_ => return Err(DecodingError::InvalidStruct.into()),",indentation 1 ++ "\x7d",
          "\x7d"] = [] := by decide
      rw [assignments_append,assignments_append,hopen,hlast,List.append_nil,List.nil_append,hnames]
      simp [Run.slot,Slot.name]
    · intro rest
      have hopen : ∀ line ∈ ["if !d.decode_none() \x7b",
          indentation 1 ++ "match d.decode_u32()? \x7b"], matchedNumber? line = none := by
        simp only [List.forall_mem_cons]
        exact ⟨by decide,by decide,by simp⟩
      have hlast : ∀ line ∈ [indentation 2 ++
          "_ => return Err(DecodingError::InvalidStruct.into()),",indentation 1 ++ "\x7d","\x7d"],
          matchedNumber? line = none := by
        simp only [List.forall_mem_cons]
        exact ⟨by decide,by decide,by decide,by simp⟩
      rw [List.append_assoc,List.append_assoc,readArms_append_idle hopen,harms,
        readArms_append_idle hlast]
      rfl

/-- A decode body assigns to the fields that its runs are held by. -/
theorem mem_assignments_decodeBody (name : String) :
    name ∈ (assignments (decodeBody table)).map (·.field) ↔
      ∃ run ∈ runs table, name = Identifier.escape run.slot.name := by
  have hall : ∀ rs : List (Run Decoding), (∀ run ∈ rs, run.IsFrom table) →
      (name ∈ (assignments (rs.flatMap Run.decodeLines)).map (·.field) ↔
        ∃ run ∈ rs, name = Identifier.escape run.slot.name) := by
    intro rs hrs
    induction rs with
    | nil => simp [assignments]
    | cons run rest ih =>
      obtain ⟨hrun,hrest⟩ := List.forall_mem_cons.mp hrs
      rw [List.flatMap_cons,assignments_append,List.map_append,List.mem_append,ih hrest,
        (decodeLines_run ho hr hn hrun).1 name]
      simp
  rw [decodeBody_eq]
  exact hall _ (isFrom_of_mem_runs table)

/-- A decode body has the arms of its runs. -/
theorem readArms_decodeBody : (readArms none (decodeBody table)).map boxedArm =
    (runs table).flatMap (Run.arms owner) := by
  have hall : ∀ rs : List (Run Decoding), (∀ run ∈ rs, run.IsFrom table) →
      (readArms none (rs.flatMap Run.decodeLines)).map boxedArm = rs.flatMap (Run.arms owner) := by
    intro rs hrs
    induction rs with
    | nil => rfl
    | cons run rest ih =>
      obtain ⟨hrun,hrest⟩ := List.forall_mem_cons.mp hrs
      rw [List.flatMap_cons,(decodeLines_run ho hr hn hrun).2,ih hrest,List.flatMap_cons]
  rw [decodeBody_eq]
  exact hall _ (isFrom_of_mem_runs table)

end Table
end Decode

end SchemaCodec.Codec
