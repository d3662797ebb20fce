import SchemaCodec.Proofs.Codec.Bindings
import SchemaCodec.Proofs.Rendering.MethodBodies
import SchemaCodec.Proofs.Sorting

/-! # The order in which fields are visited

The table of a message for writing and the one for reading list its fields in the same order, that of
their numbers, and both methods take the same runs of them: each place of a table is in one run, a
run keeps the order of the table, and the runs come in the order of their first members.
-/
namespace SchemaCodec.Codec
open Text
variable {α : Type}

def Run.first : Run α → Binding α
  | .plain b => b
  | .group _ first _ => first

def Run.members : Run α → List (Binding α)
  | .plain b => [b]
  | .group _ first more => first :: more

def Run.name? : Run α → Option String
  | .plain _ => none
  | .group name _ _ => some name

theorem Run.first_mem_members (run : Run α) : run.first ∈ run.members := by
  cases run <;> exact List.mem_cons_self

theorem Run.head?_members (run : Run α) : run.members.head? = some run.first := by
  cases run <;> rfl

theorem Run.members_map {β : Type} (f : Binding α → Binding β) (run : Run α) :
    (run.map f).members = run.members.map f := by
  cases run <;> rfl

/-- Nothing gets lost in the runs, and nothing comes twice. -/
theorem members_runs_perm (bs : List (Binding α)) : ((runs bs).flatMap Run.members).Perm bs := by
  induction bs using runs_induction with
  | nil => simp [runs]
  | plain b rest hb ih =>
    rw [runs_plain hb,List.flatMap_cons]
    exact ih.cons b
  | group b rest g hb ih =>
    rw [runs_group hb,List.flatMap_cons]
    have hsplit := List.filter_append_perm (fun c => c.group? == some g) rest
    exact ((ih.append_left _).trans hsplit).cons b

theorem mem_of_mem_runs {bs : List (Binding α)} {run : Run α} (hrun : run ∈ runs bs)
    {b : Binding α} (hb : b ∈ run.members) : b ∈ bs :=
  (members_runs_perm bs).mem_iff.mp (List.mem_flatMap.mpr ⟨run,hrun,hb⟩)

theorem Run.IsFrom.sublist {bs : List (Binding α)} {run : Run α} (h : run.IsFrom bs) :
    run.members.Sublist bs := by
  cases run with
  | plain b => exact List.singleton_sublist.mpr h.1
  | group name first more =>
    have hmembers : first :: more = bs.filter (·.group? == some name) := h
    rw [Run.members,hmembers]
    exact List.filter_sublist

/-- Runs come in the order of their first members. -/
theorem first_runs {R : Binding α → Binding α → Prop} {bs : List (Binding α)}
    (h : bs.Pairwise R) : (runs bs).Pairwise fun r s => R r.first s.first := by
  induction bs using runs_induction with
  | nil => simp [runs]
  | plain b rest hb ih =>
    obtain ⟨hfirst,hrest⟩ := List.pairwise_cons.mp h
    rw [runs_plain hb]
    refine List.pairwise_cons.mpr ⟨fun run hrun => hfirst _ ?_,ih hrest⟩
    exact mem_of_mem_runs hrun run.first_mem_members
  | group b rest g hb ih =>
    obtain ⟨hfirst,hrest⟩ := List.pairwise_cons.mp h
    rw [runs_group hb]
    refine List.pairwise_cons.mpr ⟨fun run hrun => hfirst _ ?_,ih (hrest.filter _)⟩
    exact (List.mem_filter.mp (mem_of_mem_runs hrun run.first_mem_members)).1

/-- No oneof has two runs. -/
theorem nodup_names_runs (bs : List (Binding α)) : ((runs bs).filterMap Run.name?).Nodup := by
  induction bs using runs_induction with
  | nil => simp [runs]
  | plain b rest hb ih =>
    rw [runs_plain hb]
    exact ih
  | group b rest g hb ih =>
    rw [runs_group hb]
    refine List.nodup_cons.mpr ⟨fun hmem => ?_,ih⟩
    obtain ⟨run,hrun,hname⟩ := List.mem_filterMap.mp hmem
    cases run with
    | plain c => cases hname
    | group name first more =>
      obtain ⟨hfirst,hgroup⟩ := (isFrom_of_mem_runs _ _ hrun).members first List.mem_cons_self
      cases hname
      simp [hgroup] at hfirst

/-- What the runs of some bindings are, told by the places of their members. -/
structure Grouped (bs : List (Binding α)) (rs : List (Run α)) (places : List (List ℕ)) : Prop where
  /-- Each place of the list is in one run, and there but once. -/
  each : places.flatten.Perm (List.range bs.length)
  /-- The members of a run keep the order of the list. -/
  members : List.Forall₂
    (fun run ps => ps.Pairwise (· < ·) ∧ ps.map (bs[·]?) = run.members.map some) rs places
  /-- A binding outside of any oneof is by itself, and a oneof has all of its members. -/
  isFrom : ∀ run ∈ rs, run.IsFrom bs
  names : (rs.filterMap Run.name?).Nodup
  ordered : places.Pairwise fun ps qs => ∀ p ∈ ps.head?, ∀ q ∈ qs.head?, p < q

/-- The bindings, each with its place in the list. -/
def numbered (bs : List (Binding α)) : List (Binding (α × ℕ)) :=
  bs.zipIdx.map fun (b,i) => ⟨b.field,b.kind,b.code,i⟩

def Binding.unnumbered (b : Binding (α × ℕ)) : Binding α := ⟨b.field,b.kind,b.code.1⟩

theorem map_unnumbered_numbered (bs : List (Binding α)) :
    (numbered bs).map Binding.unnumbered = bs := by
  rw [numbered,List.map_map]
  exact List.zipIdx_map_fst 0 bs

theorem map_place_numbered (bs : List (Binding α)) :
    (numbered bs).map (·.code.2) = List.range bs.length := by
  rw [numbered,List.map_map,List.range_eq_range']
  exact List.zipIdx_map_snd 0 bs

theorem getElem?_of_mem_numbered {bs : List (Binding α)} {b : Binding (α × ℕ)}
    (hb : b ∈ numbered bs) : bs[b.code.2]? = some b.unnumbered := by
  obtain ⟨⟨c,i⟩,hmem,rfl⟩ := List.mem_map.mp hb
  exact List.mem_zipIdx_iff_getElem?.mp hmem

theorem grouped_runs (bs : List (Binding α)) : ∃ places, Grouped bs (runs bs) places := by
  have hruns : runs bs = (runs (numbered bs)).map (Run.map Binding.unnumbered) := by
    rw [← runs_map (f := Binding.unnumbered) fun _ => rfl,map_unnumbered_numbered]
  have hascending : (numbered bs).Pairwise fun a b => a.code.2 < b.code.2 := by
    rw [← List.pairwise_map (f := fun b : Binding (α × ℕ) => b.code.2),map_place_numbered]
    exact List.pairwise_lt_range
  refine ⟨(runs (numbered bs)).map fun run => run.members.map (·.code.2),?_,?_,
    isFrom_of_mem_runs bs,nodup_names_runs bs,?_⟩
  · rw [← List.flatMap_def,← List.map_flatMap,← map_place_numbered]
    exact (members_runs_perm _).map _
  · rw [hruns]
    refine List.forall₂_map_left_iff.mpr (List.forall₂_map_right_iff.mpr ?_)
    refine List.forall₂_same.mpr fun run hrun => ⟨?_,?_⟩
    · exact List.pairwise_map.mpr (hascending.sublist (isFrom_of_mem_runs _ run hrun).sublist)
    · rw [Run.members_map,List.map_map,List.map_map]
      exact List.map_congr_left fun b hb => getElem?_of_mem_numbered (mem_of_mem_runs hrun hb)
  · refine List.pairwise_map.mpr ((first_runs hascending).imp fun {r s} h => ?_)
    rw [List.head?_map,List.head?_map,r.head?_members,s.head?_members]
    simpa using h

section Tables
variable {index : TypeIndex} {m : Message}

theorem exists_fieldWriter_of_reader {f : Field} {kind : Kind} {code : FieldReader}
    (hk : f.kind = .ok kind) (h : fieldReader index m f kind = .ok code) :
    ∃ w, fieldWriter index m f kind = .ok w := by
  rcases Field.holdsOneof_kind hk with ⟨group,inner,rfl,-⟩ | hnone
  · obtain ⟨variant,hvariant,-⟩ := bind_eq_ok.mp h
    obtain ⟨identifier,hidentifier,-⟩ := bind_eq_ok.mp hvariant
    obtain ⟨owner,howner,-⟩ := bind_eq_ok.mp hidentifier
    exact exists_fieldWriter (contains_of_identifierOf howner) hk
  · exact exists_fieldWriter_of_plain hnone

theorem exists_encodeTable_of_decodeTable {decode : List (Binding Decoding)}
    (h : decodeTable index m = .ok decode) : ∃ encode, encodeTable index m = .ok encode := by
  refine exists_mapM_eq_ok_iff.mpr fun f hf => ?_
  obtain ⟨b,-,hb⟩ := exists_of_mem_left (mapM_eq_ok_iff.mp h) hf
  obtain ⟨kind,hkind,hb⟩ := bind_eq_ok.mp hb
  obtain ⟨code,hcode,-⟩ := bind_eq_ok.mp hb
  obtain ⟨w,hw⟩ := exists_fieldWriter_of_reader (kind_of_kindOf hkind) hcode
  refine ⟨⟨f,kind,w⟩,?_⟩
  rw [bindWriter,hkind]
  change (fieldWriter index m f kind >>= _) = _
  rw [hw]
  rfl

/-- A table lists the fields of its message by number, each with its kind. -/
theorem decodeTable_fields {decode : List (Binding Decoding)}
    (h : decodeTable index m = .ok decode) :
    decode.map (·.field) = byNumber m.fields ∧ ∀ b ∈ decode, b.field.kind = .ok b.kind := by
  have hbind : ∀ f (b : Binding Decoding), bindReader index m f = .ok b →
      b.field = f ∧ f.kind = .ok b.kind := by
    intro f b hb
    obtain ⟨kind,hkind,hb⟩ := bind_eq_ok.mp hb
    obtain ⟨code,-,hb⟩ := bind_eq_ok.mp hb
    obtain ⟨initial,-,hb⟩ := bind_eq_ok.mp hb
    cases hb
    exact ⟨rfl,kind_of_kindOf hkind⟩
  have hall := (mapM_eq_ok_iff.mp h).imp hbind
  constructor
  · rw [map_eq_map (f := id) (hall.imp fun _ _ hb => hb.1),List.map_id]
  · intro b hb
    obtain ⟨f,-,rfl,hkind⟩ := exists_of_mem_right hall hb
    exact hkind

end Tables

/-! ## Blocks of the bodies -/

section Text

/-- A text stands in some lines. It may go on from one of them to the next. -/
def Mentions (text : String) (lines : List String) : Prop := Occurs text (joinStrings "\n" lines)

theorem mentions_of_infix {text : String} {lines part : List String} (hpart : part <:+: lines)
    (h : Mentions text part) : Mentions text lines := by
  refine List.IsInfix.trans h ?_
  simp only [joinStrings,String.toList_ofList]
  exact join_infix_of_infix (hpart.map String.toList)

theorem mentions_of_mem {text line : String} {lines : List String} (hline : line ∈ lines)
    (h : Occurs text line) : Mentions text lines := by
  have hone : Mentions text [line] := by
    simpa [Mentions,Occurs,joinStrings,join] using h
  exact mentions_of_infix ((List.singleton_infix_iff _ _).mpr hline) hone

theorem mentions_cutLines {text line : String} {lines : List String} (hline : line ∈ lines)
    (h : Occurs text line) : Mentions text (cutLines lines) := by
  obtain ⟨before,after,rfl⟩ := List.append_of_mem hline
  have hpieces : Mentions text (splitString '\n' line) := by
    rw [Mentions,joinStrings_splitString rfl]
    exact h
  exact mentions_of_infix ⟨cutLines before,cutLines after,by simp [cutLines]⟩ hpieces

theorem occurs_indent (level : ℕ) {text line : String} {lines : List String} (hline : line ∈ lines)
    (h : Occurs text line) : ∃ moved ∈ indent level lines, Occurs text moved := by
  refine ⟨_,List.mem_map_of_mem hline,?_⟩
  split
  · exact h
  · rw [Occurs,String.toList_append]
    exact List.IsInfix.trans h (List.suffix_append _ _).isInfix

/-- A text without line feeds stays whole where lines are cut and moved. -/
theorem mentions_indent_cutLines {text line : String} {lines : List String} {level : ℕ}
    (htext : '\n' ∉ text.toList) (hline : line ∈ lines) (h : Occurs text line) :
    Mentions text (indent level (cutLines lines)) := by
  obtain ⟨piece,hpiece,hin⟩ := exists_piece_of_infix htext h
  have hmem : String.ofList piece ∈ cutLines lines :=
    List.mem_flatMap.mpr ⟨line,hline,List.mem_map_of_mem hpiece⟩
  have hoccurs : Occurs text (String.ofList piece) := by
    rwa [Occurs,String.toList_ofList]
  obtain ⟨moved,hmoved,hin⟩ := occurs_indent level hmem hoccurs
  exact mentions_of_mem hmoved hin

/-- A text is written out behind some others and before some others. -/
theorem occurs_append (before text after : String) : Occurs text (before ++ text ++ after) := by
  rw [Occurs,String.toList_append,String.toList_append]
  exact ⟨_,_,rfl⟩

end Text

/-- The path of a member of a oneof, from the name of the oneof on. -/
def memberPath (group member : String) : String :=
  Identifier.camel group ++ "::" ++ Identifier.camel member ++ "("

theorem newline_not_mem_memberPath (group member : String) :
    '\n' ∉ (memberPath group member).toList := by
  have hcamel : ∀ name, '\n' ∉ (Identifier.camel name).toList := fun name =>
    not_mem_name (fun c hc => Identifier.isWordChar_camel c hc) (by decide)
  simp [memberPath,hcamel]

theorem occurs_memberPath (before owner group member after : String) :
    Occurs (memberPath group member)
      (before ++ (Variant.text ⟨owner ++ Identifier.camel group,member⟩ ++ ("(" ++ after))) := by
  refine ⟨before.toList ++ owner.toList,after.toList,?_⟩
  simp [memberPath,Variant.text]

/-- Lines of an encode method that are those of a run: they read its field, or they match on its
oneof, with an arm for each member in turn that matches the member's variant and writes its number. -/
def Run.EncodedBy : Run Unit → List String → Prop
  | .plain b,lines => Mentions ("self." ++ Identifier.escape b.field.name) lines
  | .group name first more,lines => ∃ arms,
      lines = ["match &" ++ ("self." ++ Identifier.escape name) ++ " \x7b"] ++ arms.flatten
        ++ ["    None => e = e.encode_none(),","\x7d"] ∧
      List.Forall₂ (fun b arm => ∃ number inner, b.kind = .oneof name number inner ∧
        Mentions (memberPath name b.field.name) arm ∧
        Mentions ("e = e.encode_u32(" ++ toString number ++ ");") arm) (first :: more) arms

/-- Lines of a decode method that are those of a run: they assign to its field, or they match the
number that was read, with an arm for each member in turn that makes the member's variant. -/
def Run.DecodedBy : Run Unit → List String → Prop
  | .plain b,lines => Mentions ("x." ++ Identifier.escape b.field.name ++ " = ") lines
  | .group name first more,lines => ∃ arms,
      lines = ["if !d.decode_none() \x7b","    match d.decode_u32()? \x7b"] ++ arms.flatten
        ++ ["        _ => return Err(DecodingError::InvalidStruct.into()),","    \x7d","\x7d"] ∧
      List.Forall₂ (fun b arm => ∃ number inner, b.kind = .oneof name number inner ∧
        Mentions (toString number ++ " => \x7b") arm ∧ Mentions (memberPath name b.field.name) arm)
        (first :: more) arms

section Written
variable {index : TypeIndex} {m : Message}

/-- The first line of the code that writes a value names its place. -/
theorem exists_line_of_writer {kind : Kind} {p : Place} {depth : ℕ} {w : Writer}
    (h : writer kind p depth = .ok w) : ∃ line ∈ w.lines, Occurs p.text line := by
  have hvalue : Occurs p.text p.value := by
    rw [Place.value]
    split
    · simpa using occurs_append "*" p.text ""
    · simpa using occurs_append "" p.text ""
  have hborrowed : Occurs p.text p.borrowed := by
    rw [Place.borrowed]
    split
    · simpa using occurs_append "" p.text ""
    · simpa using occurs_append "&" p.text ""
  have hcall : ∀ type : Primitive, Occurs p.text ("e = e.encode_" ++ type.suffix ++ "("
      ++ (if type.isCopied then p.value else p.borrowed) ++ ");") := by
    intro type
    refine List.IsInfix.trans ?_ (occurs_append _ _ _)
    split
    · exact hvalue
    · exact hborrowed
  cases kind with
  | integer _ _ | float _ | bool | string | bytes =>
    cases h
    exact ⟨_,List.mem_cons_self,hcall _⟩
  | enum _ =>
    cases h
    exact ⟨_,List.mem_cons_self,hvalue.trans (occurs_append _ _ _)⟩
  | message _ =>
    cases h
    exact ⟨_,List.mem_cons_self,occurs_append "e = " p.text ".encode(e);"⟩
  | repeated element =>
    obtain ⟨wire,-,h⟩ := bind_eq_ok.mp h
    obtain ⟨body,-,h⟩ := bind_eq_ok.mp h
    cases h
    refine ⟨_,List.mem_cons_self,?_⟩
    simpa only [String.append_assoc] using occurs_append "e = e.encode_array(" p.text _
  | map key value =>
    obtain ⟨keyWire,-,h⟩ := bind_eq_ok.mp h
    obtain ⟨valueWire,-,h⟩ := bind_eq_ok.mp h
    obtain ⟨keyBody,-,h⟩ := bind_eq_ok.mp h
    obtain ⟨valueBody,-,h⟩ := bind_eq_ok.mp h
    cases h
    refine ⟨_,List.mem_cons_self,?_⟩
    simpa only [String.append_assoc] using occurs_append "e = e.encode_map(" p.text _
  | oneof _ _ _ => cases h

theorem mentions_plainWriter {b : Binding FieldWriter} (h : WrittenFor index m b)
    (hg : b.group? = none) :
    Mentions ("self." ++ Identifier.escape b.field.name) (cutLines b.code.lines) := by
  obtain ⟨field,kind,code⟩ := b
  have h : fieldWriter index m field kind = .ok code := h
  obtain ⟨line,hline,hoccurs⟩ : ∃ line ∈ code.lines, Occurs (Place.field field.name).text line := by
    cases kind with
    | oneof _ _ _ => cases hg
    | message _ =>
      cases h
      exact ⟨_,List.mem_cons_self,occurs_append "e = match &" _ " \x7b"⟩
    | _ =>
      obtain ⟨body,hbody,h⟩ := bind_eq_ok.mp h
      cases h
      exact exists_line_of_writer hbody
  exact mentions_cutLines hline hoccurs

/-- The arm of a member matches its variant and writes its number. -/
theorem mentions_memberWriter {b : Binding FieldWriter} (h : WrittenFor index m b) {g : String}
    (hg : b.group? = some g) : ∃ number inner, b.kind = .oneof g number inner ∧
      Mentions (memberPath g b.field.name) (indent 1 (cutLines b.code.lines)) ∧
      Mentions ("e = e.encode_u32(" ++ toString number ++ ");")
        (indent 1 (cutLines b.code.lines)) := by
  obtain ⟨number,inner,hk⟩ := exists_kind_of_group? hg
  refine ⟨number,inner,hk,?_⟩
  obtain ⟨field,kind,code⟩ := b
  have h : fieldWriter index m field kind = .ok code := h
  obtain rfl : kind = .oneof g number inner := hk
  obtain ⟨variant,hvariant,h⟩ := bind_eq_ok.mp h
  obtain ⟨body,-,h⟩ := bind_eq_ok.mp h
  cases h
  obtain ⟨identifier,hidentifier,hvariant⟩ := bind_eq_ok.mp hvariant
  cases hvariant
  obtain ⟨owner,-,hidentifier⟩ := bind_eq_ok.mp hidentifier
  cases hidentifier
  have hlines : (FieldWriter.member ⟨owner ++ Identifier.camel g,field.name⟩ number body).lines =
      matchLine ⟨owner ++ Identifier.camel g,field.name⟩ :: numberLine number ::
        (indent 1 body.lines ++ ["\x7d"]) := rfl
  rw [hlines]
  constructor
  · refine mentions_indent_cutLines (newline_not_mem_memberPath g field.name) List.mem_cons_self ?_
    simpa only [matchLine,String.append_assoc] using
      occurs_memberPath "Some(" owner g field.name ((Local.item 1).text ++ ")) => \x7b")
  · refine mentions_indent_cutLines ?_ (List.mem_cons_of_mem _ List.mem_cons_self) ?_
    · simpa using not_mem_toString number (c := '\n') (by decide)
    · have hcall : "e = e.encode_" ++ "u32" ++ "(" = "e = e.encode_u32(" := by decide
      rw [numberLine_eq,hcall]
      simpa only [String.append_empty] using
        occurs_append (indentation 1) ("e = e.encode_u32(" ++ toString number ++ ");") ""

/-- The lines of an encode method for a run of a table are those of the run. -/
theorem encodedBy_run {table : List (Binding FieldWriter)} (hw : ∀ b ∈ table, WrittenFor index m b)
    {run : Run FieldWriter} (hrun : run.IsFrom table) : run.forget.EncodedBy run.encodeLines := by
  cases run with
  | plain b => exact mentions_plainWriter (hw b hrun.1) hrun.2
  | group name first more =>
    have hfrom := hrun.members
    refine ⟨(first :: more).map fun b => indent 1 (cutLines b.code.lines),?_,?_⟩
    · rw [← List.flatMap_def]
      rfl
    · change List.Forall₂ _ ((first :: more).map Binding.forget) _
      rw [List.forall₂_map_left_iff,List.forall₂_map_right_iff,List.forall₂_same]
      exact fun b hb => mentions_memberWriter (hw b (hfrom b hb).1) (hfrom b hb).2

end Written

section Read
variable {index : TypeIndex} {m : Message}

/-- The last line of the code that reads a value hands it on. -/
theorem exists_line_of_reader {kind : Kind} {sink : Sink} {depth : ℕ} {r : Reader}
    (h : reader index kind sink depth = .ok r) : ∃ value, sink.line value ∈ r.lines := by
  cases kind with
  | integer _ _ | float _ | bool | string | bytes =>
    cases h
    exact ⟨_,List.mem_cons_self⟩
  | enum _ | message _ =>
    obtain ⟨type,-,h⟩ := bind_eq_ok.mp h
    cases h
    exact ⟨_,List.mem_cons_self⟩
  | repeated element =>
    obtain ⟨wire,-,h⟩ := bind_eq_ok.mp h
    obtain ⟨body,-,h⟩ := bind_eq_ok.mp h
    cases h
    exact ⟨(Local.array depth).text,by simp [Reader.lines]⟩
  | map key value =>
    obtain ⟨keyWire,-,h⟩ := bind_eq_ok.mp h
    obtain ⟨valueWire,-,h⟩ := bind_eq_ok.mp h
    obtain ⟨keyBody,-,h⟩ := bind_eq_ok.mp h
    obtain ⟨valueBody,-,h⟩ := bind_eq_ok.mp h
    cases h
    exact ⟨(Local.map depth).text,by simp [Reader.lines]⟩
  | oneof _ _ _ => cases h

theorem mentions_plainReader {b : Binding Decoding} (h : ReadFor index m b) (hg : b.group? = none) :
    Mentions ("x." ++ Identifier.escape b.field.name ++ " = ") (cutLines b.code.reader.lines) := by
  obtain ⟨field,kind,code,initial⟩ := b
  have h : fieldReader index m field kind = .ok code := h
  obtain ⟨line,hline,hoccurs⟩ : ∃ line ∈ code.lines,
      Occurs ("x." ++ Identifier.escape field.name ++ " = ") line := by
    have hguarded : ∀ body : Reader, (∃ line ∈ body.lines,
        Occurs ("x." ++ Identifier.escape field.name ++ " = ") line) →
        ∃ line ∈ (FieldReader.guarded body).lines,
          Occurs ("x." ++ Identifier.escape field.name ++ " = ") line := by
      rintro body ⟨line,hline,hoccurs⟩
      obtain ⟨moved,hmoved,hoccurs⟩ := occurs_indent 1 hline hoccurs
      exact ⟨moved,by simp [FieldReader.lines,hmoved],hoccurs⟩
    cases kind with
    | oneof _ _ _ => cases hg
    | message _ =>
      obtain ⟨body,hbody,h⟩ := bind_eq_ok.mp h
      cases h
      obtain ⟨value,hvalue⟩ := exists_line_of_reader hbody
      refine hguarded body ⟨_,hvalue,?_⟩
      have hsome : " = Some(" = " = " ++ "Some(" := by decide
      simp only [Sink.line,hsome]
      simpa only [String.append_assoc,String.empty_append] using
        occurs_append "" ("x." ++ Identifier.escape field.name ++ " = ") ("Some(" ++ value ++ ");")
    | _ =>
      obtain ⟨body,hbody,h⟩ := bind_eq_ok.mp h
      cases h
      obtain ⟨value,hvalue⟩ := exists_line_of_reader hbody
      refine hguarded body ⟨_,hvalue,?_⟩
      simpa only [Sink.line,String.append_assoc,String.empty_append] using
        occurs_append "" ("x." ++ Identifier.escape field.name ++ " = ") (value ++ ";")
  exact mentions_cutLines hline hoccurs

/-- The arm of a member matches its number and makes its variant. -/
theorem mentions_memberReader {b : Binding Decoding} (h : ReadFor index m b) {g : String}
    (hg : b.group? = some g) : ∃ number inner, b.kind = .oneof g number inner ∧
      Mentions (toString number ++ " => \x7b") (indent 2 (cutLines b.code.reader.lines)) ∧
      Mentions (memberPath g b.field.name) (indent 2 (cutLines b.code.reader.lines)) := by
  obtain ⟨number,inner,hk⟩ := exists_kind_of_group? hg
  refine ⟨number,inner,hk,?_⟩
  obtain ⟨field,kind,code,initial⟩ := b
  have h : fieldReader index m field kind = .ok code := h
  obtain rfl : kind = .oneof g number inner := hk
  obtain ⟨variant,hvariant,h⟩ := bind_eq_ok.mp h
  obtain ⟨body,hbody,h⟩ := bind_eq_ok.mp h
  cases h
  obtain ⟨identifier,hidentifier,hvariant⟩ := bind_eq_ok.mp hvariant
  cases hvariant
  obtain ⟨owner,-,hidentifier⟩ := bind_eq_ok.mp hidentifier
  cases hidentifier
  constructor
  · refine mentions_indent_cutLines ?_ List.mem_cons_self (List.infix_refl _)
    exact (armLine number).1
  · obtain ⟨value,hvalue⟩ := exists_line_of_reader hbody
    have hoccurs : Occurs (memberPath g field.name)
        ((Sink.storeVariant g ⟨owner ++ Identifier.camel g,field.name⟩ (isMessage inner)).line
          value) := by
      simpa only [Sink.line,String.append_assoc] using
        occurs_memberPath ("x." ++ Identifier.escape g ++ " = Some(") owner g field.name
          ((if isMessage inner then "Box::new(" ++ value ++ ")" else value) ++ "));")
    obtain ⟨moved,hmoved,hoccurs⟩ := occurs_indent 1 hvalue hoccurs
    refine mentions_indent_cutLines (newline_not_mem_memberPath g field.name) ?_ hoccurs
    exact List.mem_append_left _ (List.mem_append_right _ hmoved)

/-- The lines of a decode method for a run of a table are those of the run. -/
theorem decodedBy_run {table : List (Binding Decoding)} (hr : ∀ b ∈ table, ReadFor index m b)
    {run : Run Decoding} (hrun : run.IsFrom table) : run.forget.DecodedBy run.decodeLines := by
  cases run with
  | plain b => exact mentions_plainReader (hr b hrun.1) hrun.2
  | group name first more =>
    have hfrom := hrun.members
    refine ⟨(first :: more).map fun b => indent 2 (cutLines b.code.reader.lines),?_,?_⟩
    · rw [← List.flatMap_def]
      rfl
    · change List.Forall₂ _ ((first :: more).map Binding.forget) _
      rw [List.forall₂_map_left_iff,List.forall₂_map_right_iff,List.forall₂_same]
      exact fun b hb => mentions_memberReader (hr b (hfrom b hb).1) (hfrom b hb).2

end Read

/-- The lines that the two methods of a message have for one run of its fields. -/
structure MethodBlock where
  run : Run Unit
  encode : List String
  decode : List String

/-- Runs of two tables that face each other, with their lines. -/
theorem exists_blocks {rs : List (Run FieldWriter)} {ss : List (Run Decoding)}
    (h : rs.map Run.forget = ss.map Run.forget) : ∃ blocks : List MethodBlock,
      blocks.map (·.run) = rs.map Run.forget ∧
      rs.flatMap Run.encodeLines = blocks.flatMap (·.encode) ∧
      ss.flatMap Run.decodeLines = blocks.flatMap (·.decode) ∧
      ∀ block ∈ blocks, ∃ r ∈ rs, ∃ s ∈ ss,
        block = ⟨r.forget,r.encodeLines,s.decodeLines⟩ ∧ r.forget = s.forget := by
  induction rs generalizing ss with
  | nil =>
    obtain rfl : ss = [] := by simpa using h.symm
    exact ⟨[],rfl,rfl,rfl,by simp⟩
  | cons r rs ih =>
    cases ss with
    | nil => simp at h
    | cons s ss =>
      obtain ⟨hfirst,hrest⟩ := List.cons.inj h
      obtain ⟨blocks,hruns,hencode,hdecode,hblocks⟩ := ih hrest
      refine ⟨⟨r.forget,r.encodeLines,s.decodeLines⟩ :: blocks,?_,?_,?_,?_⟩
      · rw [List.map_cons,List.map_cons,hruns]
      · rw [List.flatMap_cons,List.flatMap_cons,hencode]
      · rw [List.flatMap_cons,List.flatMap_cons,hdecode]
      · refine List.forall_mem_cons.mpr ⟨?_,fun block hmem => ?_⟩
        · exact ⟨r,List.mem_cons_self,s,List.mem_cons_self,rfl,hfirst⟩
        · obtain ⟨r',hr',s',hs',he⟩ := hblocks block hmem
          exact ⟨r',List.mem_cons_of_mem _ hr',s',List.mem_cons_of_mem _ hs',he⟩

/-- Tables of the same fields and kinds, and methods made of them that go through the same runs of
these fields: block by block, the one writes and the other one reads a field or a oneof. Where all
names are identifiers, a block mentions no field of the struct but its own. -/
structure VisitAlike (index : TypeIndex) (m : Message) (encode : List (Binding FieldWriter))
    (decode : List (Binding Decoding)) : Prop where
  fields : encode.map Binding.forget = decode.map Binding.forget
  blocks : ∃ blocks : List MethodBlock,
    blocks.map (·.run) = runs (encode.map Binding.forget) ∧
    encodeBody encode = blocks.flatMap (·.encode) ∧
    decodeBody decode = blocks.flatMap (·.decode) ∧
    (∀ block ∈ blocks, block.run.EncodedBy block.encode ∧ block.run.DecodedBy block.decode) ∧
    ∀ files owner, index = .ofFiles files → identifierOf index m.fullName = .ok owner →
      (∀ b ∈ encode, b.Named) → ∀ block ∈ blocks, ∀ name,
        (name ∈ namesRead block.encode ↔ name = Identifier.escape block.run.slot.name) ∧
        (name ∈ (assignments block.decode).map (·.field) ↔
          name = Identifier.escape block.run.slot.name)

theorem slot_forget (run : Run α) : run.forget.slot = run.slot := by
  cases run <;> rfl

theorem named_of_forget {β : Type} {a : List (Binding α)} {b : List (Binding β)}
    (h : a.map Binding.forget = b.map Binding.forget) (hn : ∀ x ∈ a, x.Named) : ∀ y ∈ b, y.Named := by
  intro y hy
  obtain ⟨x,hx,he⟩ := List.mem_map.mp (h ▸ List.mem_map_of_mem hy)
  obtain ⟨hname,hgroup⟩ := hn x hx
  have hfield : x.field = y.field := congrArg (·.field) he
  have hgroups : x.group? = y.group? := congrArg (·.group?) he
  exact ⟨hfield ▸ hname,fun g hg => hgroup g (hgroups.trans hg)⟩

theorem visitAlike_of_tables {index : TypeIndex} {m : Message} {encode : List (Binding FieldWriter)}
    {decode : List (Binding Decoding)} (hencode : encodeTable index m = .ok encode)
    (hdecode : decodeTable index m = .ok decode) : VisitAlike index m encode decode := by
  obtain ⟨hfields,hw⟩ := encodeTable_eq_ok hencode
  obtain ⟨hfields',hr⟩ := decodeTable_eq_ok hdecode
  have hforget := hfields.trans hfields'.symm
  have hruns : (runs encode).map Run.forget = (runs decode).map Run.forget := by
    rw [← runs_map_forget,← runs_map_forget,hforget]
  obtain ⟨blocks,hblocks,hwritten,hread,hfaces⟩ := exists_blocks hruns
  refine ⟨hforget,blocks,?_,?_,?_,?_,?_⟩
  · rw [hblocks,runs_map_forget]
  · rw [encodeBody_eq,hwritten]
  · rw [decodeBody_eq,hread]
  · intro block hblock
    obtain ⟨r,hmem,s,hmem',rfl,hsame⟩ := hfaces block hblock
    refine ⟨encodedBy_run hw (isFrom_of_mem_runs _ r hmem),?_⟩
    rw [hsame]
    exact decodedBy_run (fun b hb => (hr b hb).1) (isFrom_of_mem_runs _ s hmem')
  · rintro files owner rfl howner hnamed block hblock name
    obtain ⟨r,hmem,s,hmem',rfl,hsame⟩ := hfaces block hblock
    have hslot : r.forget.slot = s.slot := hsame ▸ slot_forget s
    constructor
    · rw [slot_forget r]
      exact (encodeLines_run howner hw hnamed (isFrom_of_mem_runs _ r hmem)).1 name
    · rw [hslot]
      exact (decodeLines_run howner (fun b hb => (hr b hb).1) (named_of_forget hforget hnamed)
        (isFrom_of_mem_runs _ s hmem')).1 name

/-- A message that has code for reading has code for writing, and both visit its fields alike: each
of them once, by ascending number, fields of one number in the order of the message. However many
oneofs are mixed among the fields of a table, each place is in one run, and the runs are ordered by
their first members. -/
theorem tables_visit_alike {index : TypeIndex} {m : Message} {decode : List (Binding Decoding)}
    (h : decodeTable index m = .ok decode) (bs : List (Binding α)) :
    (∃ encode, encodeTable index m = .ok encode ∧ VisitAlike index m encode decode ∧
      SortedBy Field.number m.fields (decode.map (·.field)) ∧
      ∀ b ∈ decode, kindOf b.field = .ok b.kind) ∧
    ∃ places, Grouped bs (runs bs) places := by
  obtain ⟨encode,hencode⟩ := exists_encodeTable_of_decodeTable h
  obtain ⟨hfields,hkinds⟩ := decodeTable_fields h
  refine ⟨⟨encode,hencode,visitAlike_of_tables hencode h,?_,fun b hb => ?_⟩,grouped_runs bs⟩
  · exact hfields ▸ sortedBy_mergeSort Field.number m.fields
  · rw [kindOf,hkinds b hb]

/-- A message with two oneofs among each other and a number that two fields share. -/
def journey : Message where
  name := "Journey"
  fullName := "travel.Journey"
  fields := [⟨"train",3,.oneof,⟨.scalar .string,none⟩,none,some "by",none⟩,
    ⟨"adult",4,.oneof,⟨.scalar .bool,none⟩,none,some "fare",none⟩,
    ⟨"stops",3,.repeated,⟨.message,some "travel.Journey"⟩,none,none,none⟩,
    ⟨"seat",1,.singular,⟨.scalar .int32,none⟩,none,none,none⟩,
    ⟨"bus",9,.oneof,⟨.message,some "travel.Journey"⟩,none,some "by",none⟩,
    ⟨"child",2,.oneof,⟨.scalar .uint32,none⟩,none,some "fare",none⟩]

def travelIndex : TypeIndex := .ofFiles [⟨"travel.proto","travel",[],[journey],[],true⟩]

theorem journey_visited_alike : ∃ decode, decodeTable travelIndex journey = .ok decode ∧
    (∃ encode, encodeTable travelIndex journey = .ok encode ∧
      VisitAlike travelIndex journey encode decode ∧
      SortedBy Field.number journey.fields (decode.map (·.field)) ∧
      ∀ b ∈ decode, kindOf b.field = .ok b.kind) ∧
    ∃ places, Grouped decode (runs decode) places := by
  have hcode : ∀ f ∈ journey.fields, ∃ d, bindReader travelIndex journey f = .ok d := by decide
  obtain ⟨decode,hd⟩ := exists_mapM_eq_ok_iff.mpr fun f hf =>
    hcode f (mem_byNumber.mp hf)
  exact ⟨decode,hd,tables_visit_alike hd decode⟩

end SchemaCodec.Codec
