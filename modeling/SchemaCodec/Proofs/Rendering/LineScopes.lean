import SchemaCodec.Proofs.Rendering.LocalMentions
import SchemaCodec.Proofs.Rendering.MethodBodies
import SchemaCodec.Proofs.Rendering.Scopes

/-! # Scopes of lines of methods

Read off its text, every line that writes or reads a value uses and binds the variables that the
containers of the value's kind emit. A field may be called like a variable without being one.
-/
namespace SchemaCodec.Codec

/-! ## Scopes of lines -/

/-- What a line uses and binds. The pattern of a loop is a name or a tuple in brackets. -/
def readScoping (line : String) : Scoping Local :=
  let text := unindented line
  if text.head? = some '\x7d' then ⟨locals text,[],.closes⟩
  else if "for ".toList.isPrefixOf text then
    let rest := text.drop 4
    let mark := if rest.head? = some '(' then ')' else ' '
    let binds := locals (upTo mark rest)
    let uses := locals (behind mark rest)
    ⟨uses,binds,.opens ((binds ++ uses).head?.map Local.depth)⟩
  else if "let ".toList.isPrefixOf text then
    ⟨locals (behind '=' text),locals (upTo '=' text),.inside⟩
  else if "=> \x7b".toList.isSuffixOf text then ⟨[],locals text,.opens none⟩
  else if text.getLast? = some '\x7b' then ⟨locals text,[],.opens none⟩
  else ⟨locals text,[],.inside⟩

theorem readScoping_congr {a b : String} (h : unindented a = unindented b) :
    readScoping a = readScoping b := by
  rw [readScoping,readScoping,h]

theorem getLast?_append_of_eq {α : Type} {b : List α} {c : α} (h : b.getLast? = some c)
    (a : List α) : (a ++ b).getLast? = some c := by
  rw [List.getLast?_append,h]
  rfl

/-- A character that begins no loop and no declaration, and closes no block. -/
def IsPlainHead (c : Char) : Prop := c ≠ ' ' ∧ c ≠ '\x7d' ∧ c ≠ 'f' ∧ c ≠ 'l'

instance : DecidablePred IsPlainHead := fun _ => inferInstanceAs (Decidable (_ ∧ _))

section Lines
variable {line : String} {c : Char}

/-- A line that begins no loop and no declaration is told by its end. -/
theorem readScoping_of_head (hhead : line.toList.head? = some c) (hc : IsPlainHead c) :
    readScoping line =
      if "=> \x7b".toList.isSuffixOf line.toList then ⟨[],locals line.toList,.opens none⟩
      else if line.toList.getLast? = some '\x7b' then ⟨locals line.toList,[],.opens none⟩
      else ⟨locals line.toList,[],.inside⟩ := by
  obtain ⟨hblank,hclose,hfor,hlet⟩ := hc
  obtain ⟨cs,hcs⟩ := List.head?_eq_some_iff.mp hhead
  have hnotFor : "for ".toList.isPrefixOf line.toList = false := by
    simp [hcs,List.isPrefixOf,Ne.symm hfor]
  have hnotLet : "let ".toList.isPrefixOf line.toList = false := by
    simp [hcs,List.isPrefixOf,Ne.symm hlet]
  rw [readScoping,unindented_of_head hhead hblank]
  simp only [hhead,Option.some.injEq,hclose,hnotFor,hnotLet,Bool.false_eq_true,↓reduceIte]

theorem readScoping_statement {front back : String} (hhead : front.toList.head? = some c)
    (hc : IsPlainHead c) (hback : back.toList.getLast? = some ';') :
    readScoping (front ++ back) = ⟨locals (front ++ back).toList,[],.inside⟩ := by
  have hfirst : (front ++ back).toList.head? = some c := by simp [hhead]
  have hlast : (front ++ back).toList.getLast? = some ';' := by
    rw [String.toList_append,getLast?_append_of_eq hback]
  have hnotArm : "=> \x7b".toList.isSuffixOf (front ++ back).toList = false := by
    refine Bool.eq_false_iff.mpr fun h => ?_
    obtain ⟨before,hbefore⟩ := List.isSuffixOf_iff_suffix.mp h
    rw [← hbefore] at hlast
    simp at hlast
  have hnotOpen : some ';' ≠ some '\x7b' := by decide
  rw [readScoping_of_head hfirst hc]
  simp only [hnotArm,hlast,hnotOpen,Bool.false_eq_true,↓reduceIte]

theorem readScoping_let {pattern value : List Char} (hpattern : '=' ∉ pattern)
    (hline : line.toList = "let ".toList ++ (pattern ++ '=' :: value)) :
    readScoping line = ⟨locals value,locals pattern,.inside⟩ := by
  have hhead : line.toList.head? = some 'l' := by simp [hline]
  have hfront : '=' ∉ "let ".toList ++ pattern := by simp [hpattern]
  have hbinds : locals ("let ".toList ++ pattern) = locals pattern :=
    locals_append_of_last (by decide)
  rw [readScoping,unindented_of_head hhead (by decide),hline,← List.append_assoc]
  simp only [upTo_append hfront,behind_append hfront,hbinds]
  simp [List.isPrefixOf]

theorem readScoping_for {pattern source : List Char} {mark : Char} (hmark : mark ∉ pattern)
    (hline : line.toList = "for ".toList ++ (pattern ++ mark :: source))
    (hpattern : mark = if pattern.head? = some '(' then ')' else ' ') :
    readScoping line = ⟨locals source,locals pattern,
      .opens ((locals pattern ++ locals source).head?.map Local.depth)⟩ := by
  have hhead : line.toList.head? = some 'f' := by simp [hline]
  have hfirst : (pattern ++ mark :: source).head? = some '(' ↔ pattern.head? = some '(' := by
    cases pattern with
    | nil => simp [hpattern]
    | cons c cs => simp
  have hfor : "for ".toList.isPrefixOf ("for ".toList ++ (pattern ++ mark :: source)) = true := by
    simp [List.isPrefixOf]
  have hdrop : ("for ".toList ++ (pattern ++ mark :: source)).drop 4 = pattern ++ mark :: source :=
    List.drop_left' rfl
  have hclose : some 'f' ≠ some '\x7d' := by decide
  rw [readScoping,unindented_of_head hhead (by decide),if_neg (hhead ▸ hclose),hline]
  simp only [hfor,hdrop,hfirst,← hpattern,upTo_append hmark,behind_append hmark,↓reduceIte]

end Lines

theorem map_readScoping_indent (level : ℕ) (lines : List String) :
    (indent level lines).map readScoping = lines.map readScoping :=
  map_indent (fun _ _ => readScoping_congr) level lines

/-! ## Lines that write -/

/-- The names of the variables that a line uses and binds. -/
def Scoping.names (line : Scoping Occurrence) : Scoping Local := line.map Occurrence.name

theorem locals_argument (p : Place) : locals p.value.toList = locals p.text.toList ∧
    locals p.borrowed.toList = locals p.text.toList := by
  have hstar : locals ("*" ++ p.text).toList = locals p.text.toList := by
    rw [String.toList_append,locals_append_of_last (by decide)]
    rfl
  have hborrow : locals ("&" ++ p.text).toList = locals p.text.toList := by
    rw [String.toList_append,locals_append_of_last (by decide)]
    rfl
  rw [Place.value,Place.borrowed]
  constructor <;> split <;> first | rfl | assumption

/-- Between an opening bracket and a gap an expression mentions what it does by itself. -/
theorem locals_between {front body back : List Char} (hfront : front.getLast?.any isGap = true)
    (hback : back.head?.any isGap = true) :
    locals (front ++ body ++ back) = locals front ++ locals body ++ locals back := by
  rw [locals_append_of_head hback,locals_append_of_last hfront]

theorem readScoping_call (type : Primitive) {argument back : String}
    (hback : back.toList.head?.any isGap = true) (hlast : back.toList.getLast? = some ';')
    (hnone : locals back.toList = []) :
    readScoping ("e = e.encode_" ++ type.suffix ++ "(" ++ argument ++ back) =
      ⟨locals argument.toList,[],.inside⟩ := by
  have hname : locals ("e = e.encode_".toList ++ type.suffix.toList) = [] :=
    locals_call (.inl rfl) (fun _ => rfl) type
  have hfront : locals ("e = e.encode_".toList ++ type.suffix.toList ++ ['(']) = [] := by
    rw [locals_append_of_head (by decide),hname]
    rfl
  have hopen : ("e = e.encode_".toList ++ type.suffix.toList ++ ['(']).getLast?.any isGap = true := by
    rw [getLast?_append_of_eq rfl]
    rfl
  rw [readScoping_statement (c := 'e') (by simp) (by decide) hlast]
  have hline : ("e = e.encode_" ++ type.suffix ++ "(" ++ argument ++ back).toList =
      ("e = e.encode_".toList ++ type.suffix.toList ++ ['(']) ++ argument.toList ++ back.toList := by
    simp
  rw [hline,locals_between hopen hback,hfront,hnone,List.nil_append,List.append_nil]

theorem readScoping_send (source : String) : readScoping ("e = " ++ source ++ ".encode(e);") =
    ⟨locals source.toList,[],.inside⟩ := by
  have hlast : ".encode(e);".toList.getLast? = some ';' := by decide
  rw [readScoping_statement (c := 'e') (by simp) (by decide) hlast]
  have hline : ("e = " ++ source ++ ".encode(e);").toList =
      ("e = ".toList ++ source.toList) ++ '.' :: ("encode".toList ++ '(' :: "e);".toList) := by
    simp
  have hnone : locals "e);".toList = [] := by decide
  have hfront : locals "e = ".toList = [] := by decide
  rw [hline,locals_append_member (List.all_eq_true.mp (by decide)) (by decide),hnone,
    locals_append_of_last (by decide),hfront,List.nil_append,List.append_nil]

/-- What a method of an expression is called with stands for itself. -/
theorem locals_method {front method : List Char} (hfront : front.getLast?.any isGap = true)
    (hnone : locals front = []) (hparts : method.all isNamePart = true)
    (hmethod : localOf? method = none) (source rest : List Char) :
    locals ((front ++ source) ++ '.' :: (method ++ '(' :: rest)) = locals source ++ locals rest := by
  rw [locals_append_member (List.all_eq_true.mp hparts) hmethod,locals_append_of_last hfront,hnone,
    List.nil_append]

/-- The length of a container is announced with the kinds of what it holds. -/
theorem readScoping_announce (front : String) {kinds : String} (hhead : front.toList.head? = some 'e')
    (hfront : front.toList.getLast?.any isGap = true) (hnone : locals front.toList = [])
    (hkinds : locals kinds.toList = []) (source : String) :
    readScoping (front ++ source ++ ".len(), " ++ kinds ++ ");") =
      ⟨locals source.toList,[],.inside⟩ := by
  have hlast : ");".toList.getLast? = some ';' := by decide
  have hbehind : locals ("), ".toList ++ kinds.toList ++ ");".toList) = [] := by
    rw [locals_between (by decide) (by decide),hkinds]
    rfl
  have hline : (front ++ source ++ ".len(), " ++ kinds ++ ");").toList =
      (front.toList ++ source.toList) ++
        '.' :: ("len".toList ++ '(' :: ("), ".toList ++ kinds.toList ++ ");".toList)) := by
    simp
  rw [readScoping_statement (c := 'e') (by simp [hhead]) (by decide) hlast,hline,
    locals_method hfront hnone (by decide) (by decide),hbehind,List.append_nil]

/-- A loop over a list binds its item. -/
theorem readScoping_items (v : Local) (source : String) :
    readScoping ("for " ++ v.text ++ " in " ++ source ++ ".iter() \x7b") =
      ⟨locals source.toList,[v],.opens (some v.depth)⟩ := by
  have hline : ("for " ++ v.text ++ " in " ++ source ++ ".iter() \x7b").toList =
      "for ".toList ++ (v.text.toList ++ ' ' :: (("in ".toList ++ source.toList) ++
        '.' :: ("iter".toList ++ '(' :: ") \x7b".toList))) := by
    simp
  have hblank : ' ' ∉ v.text.toList := (isWord_local v).not_mem (by decide)
  have hname : v.text.toList.head? ≠ some '(' := fun h =>
    (isWord_local v).not_mem (by decide) (List.mem_of_head? h)
  have hbehind : locals ") \x7b".toList = [] := by decide
  rw [readScoping_for hblank hline (if_neg hname).symm,
    locals_method (by decide) (by decide) (by decide) (by decide),hbehind,locals_text,
    List.append_nil]
  rfl

/-- A loop over a map binds the key and the value of an entry. -/
theorem readScoping_entries (key item : Local) (source : String) :
    readScoping ("for (" ++ key.text ++ ", " ++ item.text ++ ") in " ++ source ++ ".iter() \x7b") =
      ⟨locals source.toList,[key,item],.opens (some key.depth)⟩ := by
  have hline : ("for (" ++ key.text ++ ", " ++ item.text ++ ") in " ++ source ++
        ".iter() \x7b").toList = "for ".toList ++
      (('(' :: (key.text.toList ++ ", ".toList ++ item.text.toList)) ++ ')' ::
        ((" in ".toList ++ source.toList) ++ '.' :: ("iter".toList ++ '(' :: ") \x7b".toList))) := by
    simp
  have hbracket : ∀ v : Local, ')' ∉ v.text.toList := fun v => (isWord_local v).not_mem (by decide)
  have hpattern : ')' ∉ '(' :: (key.text.toList ++ ", ".toList ++ item.text.toList) := by
    simp [hbracket]
  have hbinds : locals ('(' :: (key.text.toList ++ ", ".toList ++ item.text.toList)) =
      [key,item] := by
    have hgap : ", ".toList.getLast?.any isGap = true := by decide
    rw [← List.nil_append ('(' :: _),locals_append_gap (by decide),List.append_assoc,
      locals_append_of_head (by simp; decide),locals_append_of_last hgap,locals_text,locals_text]
    rfl
  have hbehind : locals ") \x7b".toList = [] := by decide
  rw [readScoping_for hpattern hline rfl,
    locals_method (by decide) (by decide) (by decide) (by decide),hbehind,hbinds,List.append_nil]
  rfl

theorem readScoping_close : readScoping "\x7d" = ⟨[],[],.closes⟩ := by decide

theorem locals_kinds (key value : WireKind) :
    locals (key.text ++ ", " ++ value.text).toList = [] := by
  have hgap : (key.text.toList ++ ", ".toList).getLast?.any isGap = true := by
    rw [getLast?_append_of_eq (c := ' ') (by decide)]
    rfl
  rw [String.toList_append,String.toList_append,locals_append_of_last hgap,
    locals_append_of_head (by decide),locals_kind,locals_kind]
  rfl

theorem readScoping_primitive (type : Primitive) (p : Place) :
    (Writer.primitive type p).lines.map readScoping = [⟨locals p.text.toList,[],.inside⟩] := by
  have hcall : ∀ argument : String, locals argument.toList = locals p.text.toList →
      readScoping ("e = e.encode_" ++ type.suffix ++ "(" ++ argument ++ ");") =
        ⟨locals p.text.toList,[],.inside⟩ :=
    fun argument h => h ▸ readScoping_call type (by decide) (by decide) (by decide)
  rw [Writer.lines,List.map_singleton]
  split
  · rw [hcall _ (locals_argument p).1]
  · rw [hcall _ (locals_argument p).2]

/-- The lines that write a value use and bind what the containers of its kind emit. -/
theorem readScoping_writer {kind : Kind} {p : Place} {depth : ℕ} {w : Writer}
    (h : writer kind p depth = .ok w) (source : List Occurrence)
    (hsource : source.map Occurrence.name = locals p.text.toList) (address : List Branch) :
    w.lines.map readScoping = (writes kind source depth address).map Scoping.names := by
  induction kind generalizing p depth w source address with
  | integer _ _ | float _ | bool | string | bytes =>
    cases h
    simp [readScoping_primitive,writes,Scoping.names,Scoping.map,hsource]
  | enum _ =>
    cases h
    have hline : readScoping ("e = e.encode_" ++ Primitive.enumNumber.suffix ++ "(" ++ p.value ++
        " as u32);") = ⟨locals p.value.toList,[],.inside⟩ :=
      readScoping_call _ (by decide) (by decide) (by decide)
    simp [Writer.lines,writes,Scoping.names,Scoping.map,hline,locals_argument p,hsource]
  | message _ =>
    cases h
    simp [Writer.lines,writes,Scoping.names,Scoping.map,readScoping_send,hsource]
  | repeated element ih =>
    obtain ⟨wire,-,h⟩ := bind_eq_ok.mp h
    obtain ⟨body,hbody,h⟩ := bind_eq_ok.mp h
    cases h
    have hinner := ih hbody [⟨.item depth,some address⟩]
      (locals_text (.item depth)).symm (.element :: address)
    have hheader := readScoping_announce "e = e.encode_array(" rfl (by decide)
      (by decide) (locals_kind wire) p.text
    simp [Writer.lines,writes,Scoping.names,Scoping.map,map_readScoping_indent,hheader,
      readScoping_items,readScoping_close,hinner,hsource,Local.depth]
  | map key value ihKey ihValue =>
    obtain ⟨keyWire,-,h⟩ := bind_eq_ok.mp h
    obtain ⟨valueWire,-,h⟩ := bind_eq_ok.mp h
    obtain ⟨keyBody,hkeyBody,h⟩ := bind_eq_ok.mp h
    obtain ⟨valueBody,hvalueBody,h⟩ := bind_eq_ok.mp h
    cases h
    have hkey := ihKey hkeyBody [⟨.key depth,some address⟩]
      (locals_text (.key depth)).symm (.key :: address)
    have hvalue := ihValue hvalueBody [⟨.item depth,some address⟩]
      (locals_text (.item depth)).symm (.value :: address)
    have hheader := readScoping_announce "e = e.encode_map(" rfl (by decide)
      (by decide) (locals_kinds keyWire valueWire) p.text
    have hkindsTogether : "e = e.encode_map(" ++ p.text ++ ".len(), " ++
          (keyWire.text ++ ", " ++ valueWire.text) ++ ");" =
        "e = e.encode_map(" ++ p.text ++ ".len(), " ++ keyWire.text ++ ", " ++ valueWire.text ++
          ");" := by
      simp only [String.append_assoc]
    rw [hkindsTogether] at hheader
    simp [Writer.lines,writes,Scoping.names,Scoping.map,map_readScoping_indent,hheader,
      readScoping_entries,readScoping_close,hkey,hvalue,hsource,Local.depth]
  | oneof _ _ _ => cases h

/-! ## Lines that read -/

theorem readScoping_declare {front : String} (hfront : front = "" ∨ front = "mut ") (v : Local)
    (value : String) : readScoping ("let " ++ front ++ v.text ++ " = " ++ value ++ ";") =
      ⟨locals value.toList,[v],.inside⟩ := by
  have hline : ("let " ++ front ++ v.text ++ " = " ++ value ++ ";").toList =
      "let ".toList ++ ((front.toList ++ v.text.toList ++ " ".toList) ++ '=' ::
        (" ".toList ++ value.toList ++ ";".toList)) := by
    simp
  have hname : '=' ∉ v.text.toList := (isWord_local v).not_mem (by decide)
  have hpattern : '=' ∉ front.toList ++ v.text.toList ++ " ".toList := by
    rcases hfront with rfl | rfl <;> simp [hname]
  have hbinds : locals (front.toList ++ v.text.toList ++ " ".toList) = [v] := by
    rw [locals_append_of_head (by decide)]
    rcases hfront with rfl | rfl
    · exact congrArg (· ++ []) (locals_text v)
    · rw [locals_append_of_last (by decide),locals_text]
      rfl
  have huses : locals (" ".toList ++ value.toList ++ ";".toList) = locals value.toList := by
    rw [locals_between (by decide) (by decide)]
    exact List.append_nil _
  rw [readScoping_let hpattern hline,hbinds,huses]

theorem readScoping_bind (v : Local) (value : String) :
    readScoping ((Sink.bind v).line value) = ⟨locals value.toList,[v],.inside⟩ := by
  have hline : (Sink.bind v).line value = "let " ++ "" ++ v.text ++ " = " ++ value ++ ";" := by
    simp [Sink.line]
  rw [hline,readScoping_declare (.inl rfl)]

/-- A loop that counts up to a size uses it, and binds nothing. -/
theorem readScoping_count (v : Local) : readScoping ("for _ in 0.." ++ v.text ++ " \x7b") =
    ⟨[v],[],.opens (some v.depth)⟩ := by
  have hline : ("for _ in 0.." ++ v.text ++ " \x7b").toList =
      "for ".toList ++ (['_'] ++ ' ' :: ("in 0..".toList ++ (v.text.toList ++ " \x7b".toList))) := by
    simp
  have huses : locals ("in 0..".toList ++ (v.text.toList ++ " \x7b".toList)) = [v] := by
    have hrange : ∀ rest, locals ("in 0..".toList ++ rest) = locals rest := fun _ => rfl
    rw [hrange,locals_append_of_head (by decide),locals_text]
    rfl
  have hbinds : locals ['_'] = [] := by decide
  rw [readScoping_for (by decide) hline (by decide),huses,hbinds]
  rfl

theorem readScoping_push (items : Local) {c : Char} (hhead : items.text.toList.head? = some c)
    (hc : IsPlainHead c) (value : String) :
    readScoping ((Sink.push items).line value) = ⟨items :: locals value.toList,[],.inside⟩ := by
  have hlast : ");".toList.getLast? = some ';' := by decide
  have hline : (items.text ++ ".push(" ++ value ++ ");").toList =
      items.text.toList ++ '.' :: ("push".toList ++ '(' :: (value.toList ++ ");".toList)) := by
    simp
  have hparts : "push".toList.all isNamePart = true := by decide
  rw [Sink.line,readScoping_statement (c := c) (by simp [hhead]) hc hlast,hline,
    locals_append_member (List.all_eq_true.mp hparts) (by decide),locals_text,
    locals_append_of_head (by decide)]
  exact congrArg (fun l => Scoping.mk (items :: l) [] .inside) (List.append_nil _)

theorem readScoping_insert (entries key : Local) {c : Char}
    (hhead : entries.text.toList.head? = some c)
    (hc : IsPlainHead c) (value : String) :
    readScoping ((Sink.insert entries key).line value) =
      ⟨entries :: key :: locals value.toList,[],.inside⟩ := by
  have hlast : ");".toList.getLast? = some ';' := by decide
  have hline : (entries.text ++ ".insert(" ++ key.text ++ ", " ++ value ++ ");").toList =
      entries.text.toList ++ '.' :: ("insert".toList ++ '(' ::
        ((key.text.toList ++ ", ".toList) ++ value.toList ++ ");".toList)) := by
    simp
  have hparts : "insert".toList.all isNamePart = true := by decide
  have hgap : (key.text.toList ++ ", ".toList).getLast?.any isGap = true := by
    rw [getLast?_append_of_eq (c := ' ') (by decide)]
    rfl
  rw [Sink.line,readScoping_statement (c := c) (by simp [hhead]) hc hlast,hline,
    locals_append_member (List.all_eq_true.mp hparts) (by decide),locals_text,
    locals_between hgap (by decide),locals_append_of_head (by decide),locals_text]
  exact congrArg (fun l => Scoping.mk (entries :: key :: l) [] .inside) (List.append_nil _)

section Reader
variable {files : List SchemaFile}

theorem locals_decodeCall (type : Primitive) :
    locals ("d.decode_" ++ type.suffix ++ "()?").toList = [] := by
  have hname : locals ("d.decode_".toList ++ type.suffix.toList) = [] :=
    locals_call (.inl rfl) (fun _ => rfl) type
  rw [String.toList_append,String.toList_append,locals_append_of_head (by decide),hname]
  rfl

section Sized
variable (opening call : String) (hopening : opening = " = " ++ call)
  (hcall : locals call.toList = []) (hgap : call.toList.getLast?.any isGap = true)
include hopening hcall hgap

/-- The size of a container is read in front of its loop. -/
theorem readScoping_size (size : Local) {kinds : String} (hkinds : locals kinds.toList = []) :
    readScoping ("let " ++ size.text ++ opening ++ kinds ++ ")?;") = ⟨[],[size],.inside⟩ := by
  have hline : "let " ++ size.text ++ opening ++ kinds ++ ")?;" =
      "let " ++ "" ++ size.text ++ " = " ++ (call ++ kinds ++ ")?") ++ ";" := by
    simp [hopening,← String.toList_inj]
  rw [hline,readScoping_declare (.inl rfl),String.toList_append,String.toList_append,
    locals_between hgap (by decide),hcall,hkinds]
  rfl

/-- A container is made for as many elements as its size tells. -/
theorem readScoping_make (size items : Local) :
    readScoping ("let mut " ++ items.text ++ opening ++ size.text ++ ");") =
      ⟨[size],[items],.inside⟩ := by
  have hline : "let mut " ++ items.text ++ opening ++ size.text ++ ");" =
      "let " ++ "mut " ++ items.text ++ " = " ++ (call ++ size.text ++ ")") ++ ";" := by
    simp [hopening,← String.toList_inj]
  rw [hline,readScoping_declare (.inr rfl),String.toList_append,String.toList_append,
    locals_between hgap (by decide),hcall,locals_text]
  rfl

end Sized

/-- The lines that read a value use and bind what the containers of its kind emit, and the last of them
hands an expression on that mentions what the kind hands on. -/
theorem readScoping_reader {kind : Kind} {sink : Sink} {depth : ℕ} {r : Reader}
    (h : reader (TypeIndex.ofFiles files) kind sink depth = .ok r) (address : List Branch) :
    ∃ front value, r.lines = front ++ [sink.line value] ∧
      front.map readScoping = (reads kind depth address).map Scoping.names ∧
      locals value.toList = (handed kind depth address).map Occurrence.name := by
  induction kind generalizing sink depth r address with
  | integer _ _ | float _ | bool | string | bytes =>
    cases h
    exact ⟨[],_,rfl,rfl,locals_decodeCall _⟩
  | enum name =>
    obtain ⟨type,htype,h⟩ := bind_eq_ok.mp h
    cases h
    refine ⟨[],_,rfl,rfl,?_⟩
    have htext : (type.identifier ++ "::try_from(" ++
          ("d.decode_" ++ Primitive.enumNumber.suffix ++ "()?") ++ ")?").toList =
        type.identifier.toList ++ ':' :: ':' :: "try_from(d.decode_u32()?)?".toList := by
      have hsuffix : Primitive.enumNumber.suffix = "u32" := by decide
      simp [hsuffix]
    rw [htext,locals_typeUse htype]
    rfl
  | message name =>
    obtain ⟨type,htype,h⟩ := bind_eq_ok.mp h
    cases h
    refine ⟨[],_,rfl,rfl,?_⟩
    have htext : (type.identifier ++ "::decode(d)?").toList =
        type.identifier.toList ++ ':' :: ':' :: "decode(d)?".toList := by
      simp
    rw [htext,locals_typeUse htype]
    rfl
  | repeated element ih =>
    obtain ⟨wire,-,h⟩ := bind_eq_ok.mp h
    obtain ⟨body,hbody,h⟩ := bind_eq_ok.mp h
    cases h
    obtain ⟨front,value,hlines,hfront,hvalue⟩ := ih hbody (.element :: address)
    have hsize := readScoping_size " = d.decode_array(" "d.decode_array("
      (by decide) (by decide) (by decide) (.size depth) (locals_kind wire)
    have hmake := readScoping_make " = Vec::with_capacity("
      "Vec::with_capacity(" (by decide) (by decide) (by decide) (.size depth)
      (.array depth)
    have hpush := readScoping_push (.array depth) (c := 'a') (by simp [Local.text]) (by decide) value
    refine ⟨_,_,(List.append_assoc _ ["\x7d"] [sink.line (Local.array depth).text]).symm,?_,
      locals_text (.array depth)⟩
    simp [reads,Scoping.names,Scoping.map,map_readScoping_indent,hsize,hmake,
      readScoping_count,readScoping_close,hlines,hfront,hpush,hvalue,Local.depth]
  | map key value ihKey ihValue =>
    obtain ⟨keyWire,-,h⟩ := bind_eq_ok.mp h
    obtain ⟨valueWire,-,h⟩ := bind_eq_ok.mp h
    obtain ⟨keyBody,hkeyBody,h⟩ := bind_eq_ok.mp h
    obtain ⟨valueBody,hvalueBody,h⟩ := bind_eq_ok.mp h
    cases h
    obtain ⟨keyFront,keyText,hkeyLines,hkeyFront,hkey⟩ := ihKey hkeyBody (.key :: address)
    obtain ⟨valueFront,valueText,hvalueLines,hvalueFront,hvalue⟩ :=
      ihValue hvalueBody (.value :: address)
    have hsize := readScoping_size " = d.decode_map(" "d.decode_map("
      (by decide) (by decide) (by decide) (.size depth) (locals_kinds keyWire valueWire)
    have hkindsTogether : "let " ++ (Local.size depth).text ++ " = d.decode_map(" ++
          (keyWire.text ++ ", " ++ valueWire.text) ++ ")?;" =
        "let " ++ (Local.size depth).text ++ " = d.decode_map(" ++ keyWire.text ++ ", " ++
          valueWire.text ++ ")?;" := by
      simp only [String.append_assoc]
    rw [hkindsTogether] at hsize
    have hmake := readScoping_make " = HashMap::with_capacity("
      "HashMap::with_capacity(" (by decide) (by decide) (by decide) (.size depth)
      (.map depth)
    have hinsert := readScoping_insert (.map depth) (.key depth) (c := 'm') (by simp [Local.text])
      (by decide) valueText
    refine ⟨_,_,(List.append_assoc _ ["\x7d"] [sink.line (Local.map depth).text]).symm,?_,
      locals_text (.map depth)⟩
    simp [reads,Scoping.names,Scoping.map,map_readScoping_indent,hsize,hmake,readScoping_count,
      readScoping_close,readScoping_bind,hinsert,hkeyLines,hkeyFront,hkey,hvalueLines,hvalueFront,
      hvalue,Local.depth]
  | oneof _ _ _ => cases h

end Reader

/-! ## Lines for fields -/

theorem isNamePart_of_isName {name : String} (h : IsName name) :
    ∀ c ∈ name.toList, isNamePart c = true := by
  intro c hc
  have hpart := h.isWordPart c hc
  rw [Grammar.isWordPart] at hpart
  simp [isNamePart,hpart]

/-- A field of an object mentions no variable, whatever it is called. -/
theorem locals_field {object : List Char}
    (hobject : ∀ rest, locals (object ++ '.' :: rest) = localsFrom .dot [] rest) {name : String}
    (h : IsName name) : locals (object ++ '.' :: (Identifier.escape name).toList) = [] := by
  have hparts := isNamePart_of_isName h
  have hword : ∀ word : List Char, (∀ c ∈ word, isNamePart c = true) →
      localsFrom .dot [] word = [] := by
    intro word hword
    have hbound := localsFrom_bound (.inl rfl) hword [] rfl
    rwa [List.append_nil] at hbound
  rw [hobject,Identifier.escape]
  split
  · refine hword _ fun c hc => ?_
    rw [String.toList_append] at hc
    rcases List.mem_append.mp hc with hc | hc
    · exact hparts c hc
    · rw [List.mem_singleton.mp hc]
      rfl
  · split
    · next hkeyword =>
      have hnone : ∀ w ∈ Identifier.keywords, locals w.toList = [] := by decide
      have htext : ("r#" ++ name).toList = 'r' :: '#' :: name.toList := by simp
      rw [htext]
      exact hnone name hkeyword
    · exact hword _ hparts

theorem locals_place {name : String} (h : IsName name) :
    locals (Place.field name).text.toList = [] := by
  have htext : (Place.field name).text.toList =
      "self".toList ++ '.' :: (Identifier.escape name).toList := by
    simp [Place.text]
  rw [htext]
  exact locals_field (fun _ => rfl) h

/-- What is assigned to a field is all that the assignment uses. -/
theorem readScoping_assign {name : String} (h : IsName name) {opening closing : String}
    (hopening : opening.toList.head?.any isGap = true ∧ opening.toList.getLast?.any isGap = true ∧
      locals opening.toList = [])
    (hclosing : closing.toList.head?.any isGap = true ∧ closing.toList.getLast? = some ';' ∧
      locals closing.toList = []) (value : String) :
    readScoping ("x." ++ Identifier.escape name ++ opening ++ value ++ closing) =
      ⟨locals value.toList,[],.inside⟩ := by
  obtain ⟨hhead,hlast,hopening⟩ := hopening
  obtain ⟨hback,hend,hclosing⟩ := hclosing
  have hline : ("x." ++ Identifier.escape name ++ opening ++ value ++ closing).toList =
      ((['x'] ++ '.' :: (Identifier.escape name).toList) ++ opening.toList) ++ value.toList ++
        closing.toList := by
    simp
  have hfront : locals ((['x'] ++ '.' :: (Identifier.escape name).toList) ++ opening.toList) = [] := by
    rw [locals_append_of_head hhead,locals_field (fun _ => rfl) h,hopening]
    rfl
  have hgap : ((['x'] ++ '.' :: (Identifier.escape name).toList) ++ opening.toList).getLast?.any
      isGap = true := by
    cases hc : opening.toList.getLast? with
    | none => simp [hc] at hlast
    | some c => rwa [getLast?_append_of_eq hc,← hc]
  rw [readScoping_statement (c := 'x') (by simp) (by decide) hend,hline,locals_between hgap hback,
    hfront,hclosing,List.nil_append,List.append_nil]

theorem locals_path_gap {name member : String} (hname : ∀ c ∈ name.toList, isNamePart c = true)
    (hmember : ∀ c ∈ member.toList, isNamePart c = true) {rest : List Char}
    (hrest : rest.head?.all isGap = true) :
    locals ((name ++ "::" ++ member).toList ++ rest) = locals rest := by
  have htext : (name ++ "::" ++ member).toList ++ rest =
      name.toList ++ ':' :: ':' :: (member.toList ++ rest) := by
    simp
  rw [htext,locals_path hname,localsFrom_bound (.inr rfl) hmember _ hrest]

/-- A variant is a path, and so mentions no variable. -/
theorem locals_variant {v : Variant} (hv : v.Spelled) {rest : List Char}
    (hrest : rest.head?.all isGap = true) : locals (v.text.toList ++ rest) = locals rest :=
  locals_path_gap (fun c hc => isNamePart_of_isWordChar (hv c hc)) (isNamePart_camel v.member) hrest

/-- What a member of a oneof is assigned is all that the assignment uses. -/
theorem readScoping_storeVariant {group : String} (h : IsName group) {v : Variant} (hv : v.Spelled)
    (boxed : Bool) (value : String) :
    readScoping ((Sink.storeVariant group v boxed).line value) =
      ⟨locals value.toList,[],.inside⟩ := by
  have hopening : ∀ back : String, back.toList.head?.all isGap = true →
      back.toList.getLast? = some '(' → locals back.toList = [] →
      let opening := " = Some(" ++ v.text ++ back
      opening.toList.head?.any isGap = true ∧ opening.toList.getLast?.any isGap = true ∧
        locals opening.toList = [] := by
    intro back hback hlast hnone
    have htext : (" = Some(" ++ v.text ++ back).toList =
        " = Some(".toList ++ (v.text.toList ++ back.toList) := by
      simp
    refine ⟨by rw [htext]; rfl,?_,?_⟩
    · rw [String.toList_append,getLast?_append_of_eq hlast]
      rfl
    · rw [htext,locals_append_of_last (by decide),locals_variant hv hback,hnone]
      rfl
  cases boxed with
  | false =>
    have hline : (Sink.storeVariant group v false).line value = "x." ++ Identifier.escape group ++
        (" = Some(" ++ v.text ++ "(") ++ value ++ "));" := by
      simp [Sink.line,← String.toList_inj]
    rw [hline]
    exact readScoping_assign h (hopening "(" (by decide) (by decide) (by decide)) (by decide) value
  | true =>
    have hline : (Sink.storeVariant group v true).line value = "x." ++ Identifier.escape group ++
        (" = Some(" ++ v.text ++ "(Box::new(") ++ value ++ ")));" := by
      simp [Sink.line,← String.toList_inj]
    rw [hline]
    exact readScoping_assign h (hopening "(Box::new(" (by decide) (by decide) (by decide))
      (by decide) value

theorem numbered?_of_isDigit {c : Char} (h : c.isDigit = true) : numbered? c = none := by
  unfold numbered?
  split <;> first | rfl | exact absurd h (by decide)

theorem locals_digits (n : ℕ) : locals (Nat.toDigits 10 n) = [] := by
  have hdigits : ∀ c ∈ Nat.toDigits 10 n, c.isDigit = true := fun _ => isDigit_of_mem
  have hparts : ∀ c ∈ Nat.toDigits 10 n, isNamePart c = true := fun c hc => by
    simp [isNamePart,isAlphanum_of_isDigit (hdigits c hc)]
  have hword := localsFrom_word hparts .free [] []
  rw [List.append_nil,List.append_nil] at hword
  rw [locals,hword,localsFrom,mentioned_of_none]
  obtain ⟨c,cs,hcs⟩ := List.exists_cons_of_ne_nil (Nat.toDigits_ne_nil (b := 10) (n := n))
  have hc : numbered? c = none := numbered?_of_isDigit (hdigits c (hcs ▸ List.mem_cons_self))
  rw [List.reverse_reverse,hcs,localOf?,hc]
  rfl

theorem locals_number (n : ℤ) : locals (toString n).toList = [] := by
  cases n with
  | ofNat n =>
    have htext : toString (Int.ofNat n) = toString n := rfl
    rw [htext,toList_toString,locals_digits]
  | negSucc n =>
    have htext : toString (Int.negSucc n) = "-" ++ toString (n + 1) := rfl
    rw [htext,String.toList_append,locals_append_of_last (by decide),toList_toString,locals_digits]
    rfl

section Openings
variable {front : String} {c : Char} (hhead : front.toList.head? = some c) (hc : IsPlainHead c)
include hhead hc

/-- An arm binds what it mentions, before the block that it opens. -/
theorem readScoping_arm : readScoping (front ++ " => \x7b") = ⟨[],locals front.toList,.opens none⟩ := by
  have htext : (front ++ " => \x7b").toList = front.toList ++ " => \x7b".toList := by simp
  have harm : "=> \x7b".toList.isSuffixOf (front ++ " => \x7b").toList = true := by
    refine List.isSuffixOf_iff_suffix.mpr ⟨front.toList ++ [' '],?_⟩
    simp [htext]
  have hmentions : locals (front ++ " => \x7b").toList = locals front.toList := by
    rw [htext,locals_append_of_head (by decide)]
    exact List.append_nil _
  rw [readScoping_of_head (c := c) (by simp [htext,hhead]) hc,if_pos harm,hmentions]

/-- What opens a block and is no arm uses what it mentions. -/
theorem readScoping_opening (harrow : '>' ∉ front.toList) :
    readScoping (front ++ " \x7b") = ⟨locals front.toList,[],.opens none⟩ := by
  have htext : (front ++ " \x7b").toList = front.toList ++ " \x7b".toList := by simp
  have hlast : (front ++ " \x7b").toList.getLast? = some '\x7b' := by
    rw [htext,getLast?_append_of_eq]
    rfl
  have hnotArm : ¬ "=> \x7b".toList.isSuffixOf (front ++ " \x7b").toList = true := by
    intro h
    obtain ⟨before,hbefore⟩ := List.isSuffixOf_iff_suffix.mp h
    have hsame : (before ++ ['=','>']) ++ " \x7b".toList = front.toList ++ " \x7b".toList := by
      rw [← htext,← hbefore,List.append_assoc]
      rfl
    refine harrow ?_
    rw [← List.append_cancel_right hsame]
    simp
  have hmentions : locals (front ++ " \x7b").toList = locals front.toList := by
    rw [htext,locals_append_of_head (by decide)]
    exact List.append_nil _
  rw [readScoping_of_head (c := c) (by simp [htext,hhead]) hc,if_neg hnotArm,if_pos hlast,hmentions]

end Openings

/-- The names of a field and of the oneof that it may be a member of are words. -/
def NamesOf (field : Field) (kind : Kind) : Prop :=
  IsName field.name ∧ ∀ g number inner, kind = .oneof g number inner → IsName g

theorem readScoping_matchLine {v : Variant} (hv : v.Spelled) :
    readScoping (matchLine v) = ⟨[],[.item 1],.opens none⟩ := by
  have hline : matchLine v = "Some(" ++ v.text ++ "(v1))" ++ " => \x7b" := by
    have hitem : (Local.item 1).text = "v1" := by decide
    simp [matchLine,hitem,← String.toList_inj]
  have hpattern : ("Some(" ++ v.text ++ "(v1))").toList =
      "Some(".toList ++ (v.text.toList ++ "(v1))".toList) := by
    simp
  rw [hline,readScoping_arm (c := 'S') (by simp) (by decide),hpattern,
    locals_append_of_last (by decide),locals_variant hv (by decide)]
  decide

theorem readScoping_numberLine (number : ℤ) :
    readScoping (numberLine number) = ⟨[],[],.inside⟩ := by
  have hline : numberLine number = indentation 1 ++ ("e = e.encode_" ++
      Primitive.enumNumber.suffix ++ "(" ++ toString number ++ ");") := by
    simp only [numberLine,String.append_assoc]
  rw [hline,readScoping_congr (unindented_indentation 1 _),
    readScoping_call _ (by decide) (by decide) (by decide),locals_number]

theorem readScoping_numberArm (number : ℤ) :
    readScoping (toString number ++ " => \x7b") = ⟨[],[],.opens none⟩ := by
  obtain ⟨c,cs,hcs⟩ := List.exists_cons_of_ne_nil (toString_int_ne_nil number)
  have hne : ∀ {d : Char}, (d.isDigit || d == '-') = false → c ≠ d := by
    rintro d hd rfl
    exact not_mem_toString number hd (hcs ▸ List.mem_cons_self)
  rw [readScoping_arm (c := c) (by rw [hcs]; rfl)
    ⟨hne (by decide),hne (by decide),hne (by decide),hne (by decide)⟩,locals_number]

section Field
variable {files : List SchemaFile} {m : Message} {field : Field} {kind : Kind}

/-- The lines that write a field use and bind what the containers of its kind emit, and an arm binds
the variable that holds the member. -/
theorem readScoping_fieldWriter {code : FieldWriter}
    (h : fieldWriter (TypeIndex.ofFiles files) m field kind = .ok code)
    (hn : NamesOf field kind) :
    code.lines.map readScoping = (fieldWrites kind).map Scoping.names := by
  have hplace := locals_place hn.1
  cases kind with
  | message type =>
    cases h
    have harrow : '>' ∉ (Place.field field.name).text.toList := by
      rw [Place.text,String.toList_append]
      simpa using not_mem_escape hn.1 (by decide)
    have hfirst : readScoping ("e = match &" ++ (Place.field field.name).text ++ " \x7b") =
        ⟨[],[],.opens none⟩ := by
      rw [readScoping_opening (c := 'e') (by simp) (by decide) (by simp [harrow]),
        String.toList_append,locals_append_of_last (by decide),hplace]
      rfl
    have hrest : [indentation 1 ++ "Some(v) => v.encode(e),",
        indentation 1 ++ "None => e.encode_none(),","\x7d;"].map readScoping =
          [⟨[],[],.inside⟩,⟨[],[],.inside⟩,⟨[],[],.closes⟩] := by decide
    rw [FieldWriter.lines,List.map_cons,hfirst,hrest]
    rfl
  | oneof g number inner =>
    obtain ⟨variant,hvariant,h⟩ := bind_eq_ok.mp h
    obtain ⟨body,hbody,h⟩ := bind_eq_ok.mp h
    cases h
    have hlines : (FieldWriter.member variant number body).lines =
        matchLine variant :: numberLine number :: (indent 1 body.lines ++ ["\x7d"]) := rfl
    have hinner := readScoping_writer hbody [⟨.item 1,none⟩]
      (locals_text (.item 1)).symm []
    rw [hlines,List.map_cons,List.map_cons,List.map_append,map_readScoping_indent,
      readScoping_matchLine (spelled_of_variantOf hvariant),readScoping_numberLine,hinner]
    simp [fieldWrites,Scoping.names,Scoping.map,readScoping_close]
  | _ =>
    obtain ⟨body,hbody,h⟩ := bind_eq_ok.mp h
    cases h
    exact readScoping_writer hbody [] hplace.symm []

theorem readScoping_block {first : String} (hfirst : readScoping first = ⟨[],[],.opens none⟩)
    {inner : Kind} {sink : Sink} {body : Reader}
    (h : reader (TypeIndex.ofFiles files) inner sink 1 = .ok body)
    (hsink : ∀ value, readScoping (sink.line value) = ⟨locals value.toList,[],.inside⟩) :
    ([first] ++ indent 1 body.lines ++ ["\x7d"]).map readScoping =
      (⟨[],[],.opens none⟩ :: (reads inner 1 [] ++
        [⟨handed inner 1 [],[],.inside⟩,⟨[],[],.closes⟩])).map Scoping.names := by
  obtain ⟨front,value,hlines,hfront,hvalue⟩ := readScoping_reader h []
  rw [hlines]
  simp [Scoping.names,Scoping.map,map_readScoping_indent,hfirst,hfront,hsink,hvalue,
    readScoping_close]

/-- The lines that read a field use and bind what the containers of its kind emit. -/
theorem readScoping_fieldReader {code : FieldReader}
    (h : fieldReader (TypeIndex.ofFiles files) m field kind = .ok code)
    (hn : NamesOf field kind) :
    code.lines.map readScoping = (fieldReads kind).map Scoping.names := by
  have hguard : readScoping "if !d.decode_none() \x7b" = ⟨[],[],.opens none⟩ := by decide
  have hstore : ∀ value, readScoping ((Sink.store field.name).line value) =
      ⟨locals value.toList,[],.inside⟩ := readScoping_assign hn.1 (by decide) (by decide)
  have hsome : ∀ value, readScoping ((Sink.storeSome field.name).line value) =
      ⟨locals value.toList,[],.inside⟩ := readScoping_assign hn.1 (by decide) (by decide)
  cases kind with
  | message type =>
    obtain ⟨body,hbody,h⟩ := bind_eq_ok.mp h
    cases h
    exact readScoping_block hguard hbody hsome
  | oneof g number inner =>
    obtain ⟨variant,hvariant,h⟩ := bind_eq_ok.mp h
    obtain ⟨body,hbody,h⟩ := bind_eq_ok.mp h
    cases h
    exact readScoping_block (readScoping_numberArm number) hbody
      (readScoping_storeVariant (hn.2 g number inner rfl) (spelled_of_variantOf hvariant) _)
  | _ =>
    obtain ⟨body,hbody,h⟩ := bind_eq_ok.mp h
    cases h
    exact readScoping_block hguard hbody hstore

end Field

end SchemaCodec.Codec
