import SchemaCodec.FileTree
import SchemaCodec.Proofs.Outcome

/-! # Places that paths spell

A path is cut at its slashes and followed piece by piece. Pieces that are names lead down one by
one, so a path that is put together from names spells the place of these names, and a lookup that
comes to an end ends at the place that its path spells.
-/
namespace SchemaCodec
open Text

namespace Text

theorem split_append (sep : Char) (cs ds : List Char) :
    split sep (cs ++ sep :: ds) = split sep cs ++ split sep ds := by
  induction cs with
  | nil => simp [split]
  | cons c rest ih =>
    by_cases hc : c = sep
    · simp [split,hc,ih]
    · obtain ⟨piece,more,hs⟩ := List.exists_cons_of_ne_nil (split_ne_nil sep rest)
      simp [split,hc,ih,hs]

theorem split_of_not_mem {sep : Char} {cs : List Char} (h : sep ∉ cs) : split sep cs = [cs] := by
  induction cs with
  | nil => rfl
  | cons c rest ih =>
    obtain ⟨hc,hrest⟩ := not_or.mp (mt List.mem_cons.mpr h)
    simp [split,Ne.symm hc,ih hrest]

theorem not_mem_of_mem_split {sep : Char} {cs piece : List Char} (h : piece ∈ split sep cs) :
    sep ∉ piece := by
  induction cs generalizing piece with
  | nil => simp_all [split]
  | cons c rest ih =>
    obtain ⟨first,more,hs⟩ := List.exists_cons_of_ne_nil (split_ne_nil sep rest)
    by_cases hc : c = sep
    · simp only [split,hc,if_true,List.mem_cons] at h
      rcases h with rfl | h
      · exact List.not_mem_nil
      · exact ih h
    · simp only [split,hc,if_false,hs,List.mem_cons] at h
      rcases h with rfl | h
      · exact mt List.mem_cons.mp (not_or.mpr ⟨Ne.symm hc,ih (hs ▸ List.mem_cons_self)⟩)
      · exact ih (hs ▸ List.mem_cons_of_mem first h)

/-- What holds no separator stands before the first piece. -/
theorem exists_split_behind {sep : Char} {l : List Char} (h : sep ∉ l) (cs : List Char) :
    ∃ first more, split sep cs = first :: more ∧ split sep (l ++ cs) = (l ++ first) :: more := by
  obtain ⟨first,more,hcs⟩ := List.exists_cons_of_ne_nil (split_ne_nil sep cs)
  refine ⟨first,more,hcs,?_⟩
  induction l with
  | nil => exact hcs
  | cons c l ih =>
    obtain ⟨hc,hl⟩ := not_or.mp (mt List.mem_cons.mpr h)
    rw [List.cons_append,split,if_neg (Ne.symm hc),ih hl]
    rfl

/-- A text without separators stands in one of the pieces. -/
theorem exists_piece_of_infix {sep : Char} {part cs : List Char} (h : sep ∉ part)
    (hpart : part <:+: cs) : ∃ piece ∈ split sep cs, part <:+: piece := by
  obtain ⟨before,after,rfl⟩ := hpart
  rw [List.append_assoc]
  induction before with
  | nil =>
    obtain ⟨first,more,-,hsplit⟩ := exists_split_behind h after
    exact ⟨part ++ first,hsplit ▸ List.mem_cons_self,(List.prefix_append _ _).isInfix⟩
  | cons c before ih =>
    obtain ⟨piece,hpiece,hin⟩ := ih
    obtain ⟨first,more,hs⟩ := List.exists_cons_of_ne_nil (split_ne_nil sep (before ++ (part ++ after)))
    rw [hs] at hpiece
    by_cases hc : c = sep
    · exact ⟨piece,by simp [split,hc,hs,List.mem_cons.mp hpiece],hin⟩
    · rcases List.mem_cons.mp hpiece with rfl | hpiece
      · exact ⟨c :: piece,by simp [split,hc,hs],hin.trans (List.suffix_cons c piece).isInfix⟩
      · exact ⟨piece,by simp [split,hc,hs,hpiece],hin⟩

theorem splitString_append (a b : String) :
    splitString '/' (a ++ "/" ++ b) = splitString '/' a ++ splitString '/' b := by
  have htext : (a ++ "/" ++ b).toList = a.toList ++ '/' :: b.toList := by simp
  rw [splitString,htext,split_append,List.map_append]
  rfl

theorem join_cons_cons (sep piece next : List Char) (more : List (List Char)) :
    join sep (piece :: next :: more) = piece ++ sep ++ join sep (next :: more) := rfl

/-- Some of the pieces in a row, put together, stand in what all pieces make. -/
theorem join_infix_of_infix {sep : Char} {some all : List (List Char)} (h : some <:+: all) :
    join [sep] some <:+: join [sep] all := by
  have hfront : ∀ pieces more : List (List Char), join [sep] pieces <+: join [sep] (pieces ++ more) := by
    intro pieces more
    induction pieces with
    | nil => exact List.nil_prefix
    | cons piece rest ih =>
      cases rest with
      | nil => cases more with
        | nil => exact List.prefix_rfl
        | cons next more => exact (List.prefix_append piece [sep]).trans (List.prefix_append _ _)
      | cons next rest => exact (List.prefix_append_right_inj _).mpr ih
  have hback : ∀ pieces more : List (List Char), join [sep] more <:+ join [sep] (pieces ++ more) := by
    intro pieces more
    induction pieces with
    | nil => exact List.suffix_rfl
    | cons piece rest ih =>
      cases hrest : rest ++ more with
      | nil => rw [(List.append_eq_nil_iff.mp hrest).2]; exact List.nil_suffix
      | cons next all =>
        rw [List.cons_append,hrest,join_cons_cons]
        exact (hrest ▸ ih).trans (List.suffix_append _ _)
  obtain ⟨before,after,rfl⟩ := h
  exact (hback before some).isInfix.trans (hfront (before ++ some) after).isInfix

theorem mem_join_of_mem {c : Char} {pieces : List (List Char)} {piece : List Char}
    (h : piece ∈ pieces) (hc : c ∈ piece) (sep : List Char) : c ∈ join sep pieces := by
  induction pieces with
  | nil => simp at h
  | cons first more ih =>
    cases more with
    | nil => exact List.mem_singleton.mp h ▸ hc
    | cons next more =>
      rw [join_cons_cons,List.mem_append,List.mem_append]
      rcases List.mem_cons.mp h with rfl | h
      · exact .inl (.inl hc)
      · exact .inr (ih h)

theorem mem_of_mem_join {sep : List Char} {c : Char} {pieces : List (List Char)}
    (h : c ∈ join sep pieces) : c ∈ sep ∨ ∃ piece ∈ pieces, c ∈ piece := by
  induction pieces with
  | nil => simp [join] at h
  | cons piece more ih =>
    cases more with
    | nil => exact .inr ⟨piece,List.mem_cons_self,h⟩
    | cons next more =>
      rw [join_cons_cons,List.mem_append,List.mem_append] at h
      rcases h with (h | h) | h
      · exact .inr ⟨piece,List.mem_cons_self,h⟩
      · exact .inl h
      · obtain h | ⟨p,hp,hc⟩ := ih h
        · exact .inl h
        · exact .inr ⟨p,List.mem_cons_of_mem piece hp,hc⟩

theorem mem_of_mem_split {sep c : Char} {cs piece : List Char} (h : piece ∈ split sep cs)
    (hc : c ∈ piece) : c ∈ cs :=
  join_split sep cs ▸ mem_join_of_mem h hc [sep]

/-- Pieces that hold no separator are cut apart again where they are put together. -/
theorem split_join {sep : Char} {pieces : List (List Char)} (h : ∀ piece ∈ pieces, sep ∉ piece)
    (hne : pieces ≠ []) : split sep (join [sep] pieces) = pieces := by
  obtain ⟨first,rest,rfl⟩ := List.exists_cons_of_ne_nil hne
  induction rest generalizing first with
  | nil => exact split_of_not_mem (h first List.mem_cons_self)
  | cons second rest ih =>
    obtain ⟨hfirst,hrest⟩ := List.forall_mem_cons.mp h
    rw [join_cons_cons,List.append_assoc,List.singleton_append,split_append,
      ih second hrest (List.cons_ne_nil second rest),split_of_not_mem hfirst]
    rfl

theorem splitString_joinStrings {sep : Char} {glue : String} (hglue : glue.toList = [sep])
    {pieces : List String} (h : ∀ piece ∈ pieces, sep ∉ piece.toList) (hne : pieces ≠ []) :
    splitString sep (joinStrings glue pieces) = pieces := by
  rw [splitString,joinStrings,String.toList_ofList,hglue,
    split_join (List.forall_mem_map.mpr h) (by simpa using hne),List.map_map]
  exact List.map_id'' (fun piece => String.ofList_toList) _

theorem not_mem_of_mem_splitString {sep : Char} {s piece : String}
    (h : piece ∈ splitString sep s) : sep ∉ piece.toList := by
  obtain ⟨cs,hcs,rfl⟩ := List.mem_map.mp h
  rw [String.toList_ofList]
  exact not_mem_of_mem_split hcs

/-- The pieces of a string are put together by what cuts it. -/
theorem joinStrings_splitString {sep : Char} {glue : String} (h : glue.toList = [sep])
    (s : String) : joinStrings glue (splitString sep s) = s := by
  have hpieces : (splitString sep s).map String.toList = split sep s.toList := by
    rw [splitString,List.map_map]
    exact List.map_id'' (fun piece => String.toList_ofList) _
  rw [joinStrings,hpieces,h,join_split,String.ofList_toList]

end Text

/-- A name that leads from a directory to a place in it. -/
structure IsStep (name : String) : Prop where
  ne_empty : name ≠ ""
  ne_stay : name ≠ "."
  ne_back : name ≠ ".."
  noSlash : '/' ∉ name.toList

/-- A place whose names all lead down. -/
def Place.Proper (place : Place) : Prop := ∀ name ∈ place, IsStep name

section Follow
variable {place : Place}

theorem follow_step {name : String} (h : IsStep name) (place : Place) :
    follow place name = place ++ [name] := by
  simp [follow,h.ne_empty,h.ne_stay,h.ne_back]

theorem foldl_follow_steps {names : List String} (h : ∀ name ∈ names, IsStep name)
    (place : Place) : names.foldl follow place = place ++ names := by
  induction names generalizing place with
  | nil => simp
  | cons name rest ih =>
    obtain ⟨hname,hrest⟩ := List.forall_mem_cons.mp h
    rw [List.foldl_cons,follow_step hname,ih hrest,List.append_assoc,List.singleton_append]

theorem Place.Proper.follow (h : place.Proper) {name : String} (hname : '/' ∉ name.toList) :
    Place.Proper (follow place name) := by
  unfold SchemaCodec.follow
  split
  · exact h
  · split
    · exact fun n hn => h n (List.dropLast_subset place hn)
    · rename_i hstay hback
      obtain ⟨hempty,hdot⟩ := not_or.mp hstay
      refine List.forall_mem_append.mpr ⟨h,?_⟩
      simpa using ⟨hempty,hdot,hback,hname⟩

theorem Place.Proper.foldl_follow (h : place.Proper) {names : List String}
    (hnames : ∀ name ∈ names, '/' ∉ name.toList) :
    Place.Proper (names.foldl SchemaCodec.follow place) := by
  induction names generalizing place with
  | nil => exact h
  | cons name rest ih =>
    obtain ⟨hname,hrest⟩ := List.forall_mem_cons.mp hnames
    exact ih (h.follow hname) hrest

/-- Names joined by slashes are cut into the names again. -/
theorem splitString_steps {names : List String} (h : ∀ name ∈ names, IsStep name)
    (hne : names ≠ []) : splitString '/' (joinStrings "/" names) = names :=
  splitString_joinStrings rfl (fun name hname => (h name hname).noSlash) hne

theorem foldl_follow_join {names : List String} (h : ∀ name ∈ names, IsStep name)
    (place : Place) : (splitString '/' (joinStrings "/" names)).foldl follow place =
      place ++ names := by
  by_cases hne : names = []
  · subst hne
    simp [splitString,joinStrings,join,split,follow]
  · rw [splitString_steps h hne,foldl_follow_steps h]

end Follow

namespace FileTree
variable {tree : FileTree}

/-- A path spells a proper place where the working directory is one. -/
theorem proper_placeOf (h : tree.workingDirectory.Proper) (path : String) :
    (tree.placeOf path).Proper := by
  unfold placeOf
  refine Place.Proper.foldl_follow ?_ fun name hname => ?_
  · split
    · exact fun name hname => absurd hname List.not_mem_nil
    · exact h
  · exact not_mem_of_mem_splitString hname

theorem foldlM_enter {names : List String} {start place : Place}
    (h : names.foldlM tree.enter start = .ok place) : place = names.foldl follow start := by
  rw [foldlM_eq_ok_iff] at h
  induction h with
  | nil => rfl
  | @cons start next place name rest hnext _ ih =>
    have hfollow : next = follow start name := by
      unfold enter at hnext
      split at hnext
      · cases hnext
      · cases hnext
      · cases hnext
      · split at hnext
        · cases hnext
        · exact (Except.ok.inj hnext).symm
    rw [List.foldl_cons,← hfollow]
    exact ih

theorem locate_eq_ok {path : String} {place : Place} (h : tree.locate path = .ok place) :
    place = tree.placeOf path := by
  unfold locate at h
  split at h
  · cases h
  · exact foldlM_enter h

/-- What is read at a place: the content of a file, and nothing from a device. -/
def contentAt? (tree : FileTree) (place : Place) : Option (List UInt8) :=
  match tree.node? place with
  | some (.file content) => some content
  | some .device => some []
  | _ => none

theorem contentAt?_of_read {path : String} {content : List UInt8}
    (h : tree.read path = .ok content) : tree.contentAt? (tree.placeOf path) = some content := by
  obtain ⟨node,hfind,h⟩ := bind_eq_ok.mp h
  obtain ⟨place,hplace,hnode⟩ := bind_eq_ok.mp hfind
  rw [← locate_eq_ok hplace,contentAt?]
  cases hn : tree.node? place with
  | none => simp [hn] at hnode
  | some n =>
    simp only [hn,Except.ok.injEq] at hnode
    subst hnode
    cases n with
    | file c => exact congrArg some (Except.ok.inj h)
    | device => exact congrArg some (Except.ok.inj h)
    | directory => cases h

theorem failsWith_enter (place : Place) (name : String) :
    FailsWith (· ≠ .embeddedNul) (tree.enter place name) := by
  unfold enter
  split
  · exact failsWith_error (by decide)
  · exact failsWith_error (by decide)
  · exact failsWith_error (by decide)
  · split
    · exact failsWith_error (by decide)
    · exact failsWith_ok _

theorem failsWith_locate {path : String} (h : '\x00' ∉ path.toList) :
    FailsWith (· ≠ .embeddedNul) (tree.locate path) := by
  unfold locate
  split
  · rename_i fault hfault
    refine failsWith_error fun hnul => ?_
    rw [pathFault?,if_neg h,hnul] at hfault
    split at hfault
    · cases hfault
    · split at hfault <;> cases hfault
  · exact failsWith_foldlM failsWith_enter _ _

/-- A path is refused as one that no system can be given exactly if a NUL character is in it. -/
theorem read_eq_embeddedNul_iff (tree : FileTree) {path : String} :
    tree.read path = .error .embeddedNul ↔ '\x00' ∈ path.toList := by
  constructor
  · intro hread
    by_contra h
    have hfind : FailsWith (· ≠ .embeddedNul) (tree.find path) := by
      refine (failsWith_locate h).bind fun place => ?_
      split
      · exact failsWith_ok _
      · exact failsWith_error (by decide)
    refine hfind.bind (fun node => ?_) _ hread rfl
    cases node with
    | file content => exact failsWith_ok content
    | device => exact failsWith_ok []
    | directory => exact failsWith_error (by decide)
  · intro h
    have hlocate : tree.locate path = .error .embeddedNul := by
      rw [locate,pathFault?,if_pos h]
    rw [read,find,hlocate]
    rfl

end FileTree
end SchemaCodec
