import SchemaCodec.Proofs.CaseForms
import SchemaCodec.Proofs.Rendering.FieldNames

/-! # Which identifiers are legal

An identifier of the generated language is an ASCII word other than the underscore that is no
keyword, or that is written as a raw identifier. Words run together in capitals begin like the first
of them, and the only keyword that they can become is `Self`; a name in small letters can become any
keyword; an escaped name is none.
-/
namespace SchemaCodec
open Grammar Text

namespace Identifier

/-- A name that the generated language takes for a declaration or for a part of a path. -/
inductive Legal : String → Prop
  | plain {name : String} (h : IsName name) (hunder : name ≠ "_") (hkey : name ∉ keywords)
      (hpath : name ∉ pathWords) : Legal name
  | raw {name : String} (h : IsName name) (hunder : name ≠ "_") (hpath : name ∉ pathWords) :
      Legal ("r#" ++ name)

/-- What is not written as a raw identifier is legal as it stands. -/
theorem legal_iff {name : String} (h : '#' ∉ name.toList) :
    Legal name ↔ IsName name ∧ name ≠ "_" ∧ name ∉ keywords ∧ name ∉ pathWords := by
  constructor
  · intro hlegal
    cases hlegal with
    | plain hname hunder hkey hpath => exact ⟨hname,hunder,hkey,hpath⟩
    | raw => simp at h
  · rintro ⟨hname,hunder,hkey,hpath⟩
    exact .plain hname hunder hkey hpath

theorem Legal.ne_empty {name : String} (h : Legal name) : name ≠ "" := by
  cases h with
  | plain hname => exact hname.ne_empty
  | raw => simp [← String.toList_inj]

theorem Legal.colon_not_mem {name : String} (h : Legal name) : ':' ∉ name.toList := by
  have hword {name : String} (h : IsName name) : ':' ∉ name.toList :=
    fun hc => absurd (h.isWordPart _ hc) (by decide)
  cases h with
  | plain hname => exact hword hname
  | raw hname => simpa using hword hname

/-! ## Paths -/

/-- What stands between the double colons of a path. -/
def segments : List Char → List (List Char)
  | ':' :: ':' :: rest => [] :: segments rest
  | c :: rest => (segments rest).modifyHead (c :: ·)
  | [] => [[]]

/-- A path with a legal identifier in each place. -/
def LegalPath (path : String) : Prop := ∀ s ∈ segments path.toList, Legal (String.ofList s)

theorem segments_cons {c : Char} {rest : List Char} (h : ∀ more, c = ':' → rest ≠ ':' :: more) :
    segments (c :: rest) = (segments rest).modifyHead (c :: ·) := by
  rw [segments]
  exact h

theorem segments_ne_nil (cs : List Char) : segments cs ≠ [] := by
  induction cs using segments.induct with
  | case1 | case3 => simp [segments]
  | case2 c rest h ih =>
    rw [segments_cons h]
    cases hs : segments rest with
    | nil => exact absurd hs ih
    | cons => simp

theorem segments_of_not_mem {cs : List Char} (h : ':' ∉ cs) : segments cs = [cs] := by
  induction cs with
  | nil => rfl
  | cons c rest ih =>
    obtain ⟨hc,hrest⟩ := not_or.mp (mt List.mem_cons.mpr h)
    rw [segments_cons fun more he => absurd he.symm hc,ih hrest]
    rfl

theorem legalPath_iff {name : String} (h : ':' ∉ name.toList) : LegalPath name ↔ Legal name := by
  rw [LegalPath,segments_of_not_mem h]
  simp

/-- A path that begins with a colon is not legal. -/
theorem exists_segment_of_colon (cs : List Char) :
    ∃ s ∈ segments (':' :: cs), s = [] ∨ ':' ∈ s := by
  by_cases hc : ∃ more, cs = ':' :: more
  · obtain ⟨more,rfl⟩ := hc
    exact ⟨[],by simp [segments],.inl rfl⟩
  · obtain ⟨first,more,hs⟩ := List.exists_cons_of_ne_nil (segments_ne_nil cs)
    refine ⟨':' :: first,?_,.inr List.mem_cons_self⟩
    rw [segments_cons fun more _ he => hc ⟨more,he⟩,hs]
    exact List.mem_cons_self

theorem modifyHead_nil_append (l : List (List Char)) : l.modifyHead ([] ++ ·) = l := by
  cases l <;> simp

/-- Where what is legal is not empty and has no colon, the segments of a path behind another one are
legal exactly if those of both are. The first segment may have begun before. -/
theorem forall_segments_append {P : List Char → Prop} (hP : ∀ s, P s → s ≠ [] ∧ ':' ∉ s)
    (cs ds before : List Char) :
    (∀ s ∈ (segments (cs ++ ':' :: ':' :: ds)).modifyHead (before ++ ·), P s) ↔
      (∀ s ∈ (segments cs).modifyHead (before ++ ·), P s) ∧ ∀ s ∈ segments ds, P s := by
  induction cs using segments.induct generalizing before with
  | case1 rest ih =>
    have hrest := ih []
    rw [modifyHead_nil_append,modifyHead_nil_append] at hrest
    simp only [List.cons_append,segments,List.modifyHead_cons,List.forall_mem_cons,hrest,and_assoc]
  | case3 => simp [segments]
  | case2 c rest h ih =>
    have hbefore (l : List (List Char)) : (l.modifyHead (c :: ·)).modifyHead (before ++ ·) =
        l.modifyHead ((before ++ [c]) ++ ·) := by
      cases l <;> simp
    by_cases hodd : c = ':' ∧ rest = []
    · -- The colon is the first of three, so it ends the one path or begins the other.
      obtain ⟨rfl,rfl⟩ := hodd
      refine iff_of_false (fun hall => ?_) fun hall => ?_
      · obtain ⟨s,hs,hbad⟩ := exists_segment_of_colon ds
        have hlegal := hP s (hall s (by simp [segments,hs]))
        exact hbad.elim hlegal.1 hlegal.2
      · have hlegal := hP (before ++ [':']) (hall.1 _ (by simp [segments]))
        exact hlegal.2 (by simp)
    · have hmore : segments (c :: (rest ++ ':' :: ':' :: ds)) =
          (segments (rest ++ ':' :: ':' :: ds)).modifyHead (c :: ·) := by
        refine segments_cons fun more hc he => ?_
        cases rest with
        | nil => exact hodd ⟨hc,rfl⟩
        | cons d rest =>
          obtain ⟨rfl,-⟩ := List.cons.inj he
          exact h rest hc rfl
      rw [List.cons_append,hmore,segments_cons h,hbefore,hbefore]
      exact ih (before ++ [c])

theorem legalPath_append_iff {path more : String} :
    LegalPath (path ++ "::" ++ more) ↔ LegalPath path ∧ LegalPath more := by
  have hP : ∀ s, Legal (String.ofList s) → s ≠ [] ∧ ':' ∉ s := by
    refine fun s hs => ⟨?_,by simpa using hs.colon_not_mem⟩
    rintro rfl
    exact hs.ne_empty rfl
  have happend := forall_segments_append hP path.toList more.toList []
  rw [modifyHead_nil_append,modifyHead_nil_append] at happend
  have htext : (path ++ "::" ++ more).toList = path.toList ++ ':' :: ':' :: more.toList := by simp
  rw [LegalPath,htext]
  exact happend

theorem legalPath_join_iff {parts : List String} (hne : parts ≠ []) :
    LegalPath (joinStrings "::" parts) ↔ ∀ part ∈ parts, LegalPath part := by
  obtain ⟨first,rest,rfl⟩ := List.exists_cons_of_ne_nil hne
  induction rest generalizing first with
  | nil => simp [joinStrings,join]
  | cons second rest ih =>
    have hjoin : joinStrings "::" (first :: second :: rest) =
        first ++ "::" ++ joinStrings "::" (second :: rest) := by
      simp [joinStrings,join,← String.toList_inj]
    rw [hjoin,legalPath_append_iff,ih second (List.cons_ne_nil _ _)]
    exact List.forall_mem_cons.symm

/-! ## Words run together -/

theorem ascii_of_isWordPart {c : Char} (h : isWordPart c = true) : c.toNat < 128 := by
  simp only [isWordPart,Char.isAlphanum,Char.isAlpha,Char.isUpper,Char.isLower,Char.isDigit,
    Bool.or_eq_true,Bool.and_eq_true,decide_eq_true_eq,beq_iff_eq] at h
  rcases h with ((h | h) | h) | rfl
  · exact Nat.lt_of_le_of_lt (UInt32.le_iff_toNat_le.mp h.2) (by decide)
  · exact Nat.lt_of_le_of_lt (UInt32.le_iff_toNat_le.mp h.2) (by decide)
  · exact Nat.lt_of_le_of_lt (UInt32.le_iff_toNat_le.mp h.2) (by decide)
  · decide

/-- The spellings of the word that becomes `Self`. -/
def selfSpellings : List (List Char) := ["self".toList,"Self".toList,"SELF".toList]

theorem mem_selfSpellings {w : List Char} (h : IsAsciiWord w)
    (hself : capitalize w = ['S','e','l','f']) : w ∈ selfSpellings := by
  obtain ⟨c,rest,rfl⟩ := List.exists_cons_of_ne_nil h.1
  have hascii : ∀ d ∈ c :: rest, d.toNat < 128 := fun d hd => ascii_of_isAlphanum (h.2 d hd)
  rw [capitalize_cons h.2] at hself
  obtain ⟨hfirst,htail⟩ := List.cons.inj hself
  have hc := forall_ascii (P := fun c => c.toUpper = 'S' → c = 's' ∨ c = 'S') (by decide)
    (hascii c List.mem_cons_self) hfirst
  by_cases hupper : isUpperText (c :: rest) = true
  · -- No letter is small, so each is the capital of the letter that it becomes.
    have hlower := not_isLower_of_isUpperText hupper hascii
    have hcapital : ∀ d ∈ c :: rest, d.toLower.toUpper = d := fun d hd =>
      forall_ascii (P := fun d => d.isLower = false → d.toLower.toUpper = d) (by decide)
        (hascii d hd) (hlower d hd)
    rw [if_pos hupper] at htail
    have hrest : rest = ['E','L','F'] := calc
      rest = rest.map id := (List.map_id rest).symm
      _ = (rest.map Char.toLower).map Char.toUpper := by
        rw [List.map_map]
        exact List.map_congr_left fun d hd => (hcapital d (List.mem_cons_of_mem c hd)).symm
      _ = ['E','L','F'] := by
        rw [htail]
        decide
    have hbig : c = 'S' := hc.resolve_left fun hs => by
      have hsmall := hlower c List.mem_cons_self
      rw [hs] at hsmall
      cases hsmall
    rw [hbig,hrest]
    decide
  · rw [if_neg hupper] at htail
    rw [htail]
    rcases hc with rfl | rfl <;> decide

/-- Words run together are `Self` only if they are a spelling of it alone. -/
theorem flatMap_capitalize_eq_self_iff {ws : List (List Char)} (h : ∀ w ∈ ws, IsAsciiWord w) :
    ws.flatMap capitalize = ['S','e','l','f'] ↔ ∃ w ∈ selfSpellings, ws = [w] := by
  constructor
  · intro hself
    cases ws with
    | nil => cases hself
    | cons w more =>
      obtain ⟨hw,hmore⟩ := List.forall_mem_cons.mp h
      cases more with
      | nil =>
        rw [List.flatMap_singleton] at hself
        exact ⟨w,mem_selfSpellings hw hself,rfl⟩
      | cons v more =>
        -- A second word would begin with a small letter, but none does when it is capitalized.
        obtain ⟨hv,-⟩ := List.forall_mem_cons.mp hmore
        obtain ⟨c,rest,rfl⟩ := List.exists_cons_of_ne_nil hw.1
        obtain ⟨d,ds,rfl⟩ := List.exists_cons_of_ne_nil hv.1
        rw [List.flatMap_cons,List.flatMap_cons,capitalize_cons hw.2,capitalize_cons hv.2] at hself
        obtain ⟨-,htail⟩ := List.cons.inj hself
        have hin : d.toUpper ∈ ['e','l','f'] := by
          rw [← htail]
          simp
        have hsmall := forall_ascii (P := fun d => d.toUpper ∉ ['e','l','f']) (by decide)
          (ascii_of_isAlphanum (hv.2 d List.mem_cons_self))
        exact absurd hin hsmall
  · rintro ⟨w,hw,rfl⟩
    have hall : ∀ w ∈ selfSpellings, [w].flatMap capitalize = ['S','e','l','f'] := by decide
    exact hall w hw

/-- Words that make the name of a type: the first begins with a letter, and they are not the word
that becomes `Self`. -/
def NamesType (ws : List (List Char)) : Prop :=
  (ws.head?.bind List.head?).any Char.isAlpha = true ∧ ∀ w ∈ selfSpellings, ws ≠ [w]

instance (ws : List (List Char)) : Decidable (NamesType ws) := inferInstanceAs (Decidable (_ ∧ _))

theorem NamesType.append {ws : List (List Char)} (h : NamesType ws) (more : List (List Char)) :
    NamesType (ws ++ more) := by
  obtain ⟨hletter,hself⟩ := h
  cases ws with
  | nil => cases hletter
  | cons w ws =>
    refine ⟨hletter,fun v hv he => hself v hv ?_⟩
    obtain ⟨rfl,hnone⟩ := List.cons.inj he
    rw [(List.append_eq_nil_iff.mp hnone).1]

theorem isName_ofList_cons_iff {c : Char} {cs : List Char} (h : ∀ d ∈ cs, d.isAlphanum = true) :
    IsName (String.ofList (c :: cs)) ↔ isWordStart c = true := by
  rw [IsName,String.toList_ofList]
  constructor
  · rintro ⟨d,rest,hd,-,he⟩
    exact (List.cons.inj he).1 ▸ hd
  · intro hc
    exact ⟨c,cs,hc,fun d hd => by simp [isWordPart,h d hd],rfl⟩

/-- Words run together are a legal identifier exactly if they make the name of a type. -/
theorem legal_flatMap_capitalize_iff {ws : List (List Char)} (h : ∀ w ∈ ws, IsAsciiWord w) :
    Legal (String.ofList (ws.flatMap capitalize)) ↔ NamesType ws := by
  have halnum : ∀ c ∈ ws.flatMap capitalize, c.isAlphanum = true := by
    intro c hc
    obtain ⟨w,hw,hc⟩ := List.mem_flatMap.mp hc
    exact isAlphanum_capitalize (h w hw) c hc
  have hself := flatMap_capitalize_eq_self_iff h
  have hhash : '#' ∉ (String.ofList (ws.flatMap capitalize)).toList := fun hc =>
    absurd (halnum '#' (by simpa using hc)) (by decide)
  rw [legal_iff hhash]
  cases ws with
  | nil => exact iff_of_false (fun hlegal => hlegal.1.ne_empty rfl) fun hnames => by cases hnames.1
  | cons w more =>
    obtain ⟨hw,-⟩ := List.forall_mem_cons.mp h
    obtain ⟨c,rest,rfl⟩ := List.exists_cons_of_ne_nil hw.1
    have hletter := forall_ascii (P := fun c => c.isAlphanum = true →
      isWordStart c.toUpper = c.isAlpha ∧ c.toUpper.isLower = false ∧ c.toUpper ≠ '_') (by decide)
      (ascii_of_isAlphanum (hw.2 c List.mem_cons_self)) (hw.2 c List.mem_cons_self)
    obtain ⟨hstart,hsmall,hunder⟩ := hletter
    rw [List.flatMap_cons,capitalize_cons hw.2,List.cons_append] at halnum hself ⊢
    rw [isName_ofList_cons_iff (List.forall_mem_cons.mp halnum).2,hstart]
    generalize (if isUpperText (c :: rest) then rest.map Char.toLower else rest) ++
      more.flatMap capitalize = tail at hself ⊢
    -- All words that are taken but `Self` begin with a small letter.
    have hfirst {name : String} (hname : (name.toList.head?.any fun d => d.isLower || d == '_')
        = true) : String.ofList (c.toUpper :: tail) ≠ name := by
      rintro rfl
      simp [hsmall,hunder] at hname
    have hkeys : ∀ k ∈ keywords, (k.toList.head?.any fun d => d.isLower || d == '_') = true := by
      decide
    have hpaths : ∀ k ∈ pathWords, k = "Self" ∨
        (k.toList.head?.any fun d => d.isLower || d == '_') = true := by
      decide
    constructor
    · rintro ⟨hc,-,-,hpath⟩
      refine ⟨by simpa using hc,fun w hw he => hpath ?_⟩
      rw [hself.mpr ⟨w,hw,he⟩]
      decide
    · rintro ⟨hc,hnot⟩
      refine ⟨by simpa using hc,hfirst (by decide),fun hk => hfirst (hkeys _ hk) rfl,fun hp => ?_⟩
      rcases hpaths _ hp with he | hp
      · obtain ⟨w,hw,hws⟩ := hself.mp (by simpa using congrArg String.toList he)
        exact hnot w hw hws
      · exact hfirst hp rfl

/-! ## Names in small letters -/

theorem separateWords_cons (c : Char) (rest : List Char) :
    ∃ more, separateWords (c :: rest) = c :: more ∧ (more = [] → rest = []) := by
  induction rest generalizing c with
  | nil => exact ⟨[],rfl,fun _ => rfl⟩
  | cons d rest ih =>
    rw [separateWords]
    split
    · exact ⟨_,rfl,fun h => absurd h (List.cons_ne_nil _ _)⟩
    · obtain ⟨more,hmore,-⟩ := ih d
      exact ⟨_,rfl,fun h => absurd (hmore.symm.trans h) (List.cons_ne_nil _ _)⟩

/-- Of the characters of a word, only the case changes; an underscore parts words further. -/
theorem snake_of_isName {name : String} (h : IsName name) : ∃ c more,
    (∀ d ∈ c :: more, isWordPart d = true) ∧ isWordStart c = true ∧
      snake name = String.ofList (c.toLower :: more.map Char.toLower) ∧
      (more = [] → name = String.ofList [c]) := by
  have hname := h
  obtain ⟨c,rest,hc,-,hchars⟩ := hname
  obtain ⟨more,hmore,hnone⟩ := separateWords_cons c rest
  have hpart : ∀ d ∈ c :: more, isWordPart d = true := by
    intro d hd
    by_cases hunder : d = '_'
    · subst hunder
      decide
    · refine h.isWordPart d (hchars ▸ mem_of_mem_separateWords hunder ?_)
      exact hmore ▸ hd
  have hhyphen : (c :: more).map hyphenToUnderscore = c :: more := by
    refine (List.map_congr_left fun d hd => ?_).trans (List.map_id _)
    have hne : d ≠ '-' := fun he => absurd (hpart d hd) (by rw [he]; decide)
    simp [hyphenToUnderscore,hne]
  refine ⟨c,more,hpart,hc,?_,fun hm => ?_⟩
  · rw [snake,snakeChars,hchars,hmore,hhyphen,
      lower_of_ascii fun d hd => ascii_of_isWordPart (hpart d hd)]
    rfl
  · rw [← hnone hm,← hchars,String.ofList_toList]

theorem lower_word {c : Char} (h : isWordPart c = true) :
    isWordPart c.toLower = true ∧ (isWordStart c = true → isWordStart c.toLower = true) ∧
      (c.toLower = '_' ↔ c = '_') :=
  forall_ascii (P := fun c => isWordPart c = true → isWordPart c.toLower = true ∧
    (isWordStart c = true → isWordStart c.toLower = true) ∧ (c.toLower = '_' ↔ c = '_'))
    (by decide) (ascii_of_isWordPart h) h

theorem isName_snake {name : String} (h : IsName name) : IsName (snake name) := by
  obtain ⟨c,more,hpart,hc,hsnake,-⟩ := snake_of_isName h
  obtain ⟨hfirst,hmore⟩ := List.forall_mem_cons.mp hpart
  rw [hsnake,IsName,String.toList_ofList]
  refine ⟨_,_,(lower_word hfirst).2.1 hc,fun d hd => ?_,rfl⟩
  obtain ⟨e,he,rfl⟩ := List.mem_map.mp hd
  exact (lower_word (hmore e he)).1

theorem snake_eq_underscore_iff {name : String} (h : IsName name) :
    snake name = "_" ↔ name = "_" := by
  constructor
  · intro he
    obtain ⟨c,more,hpart,-,hsnake,hone⟩ := snake_of_isName h
    rw [hsnake,← String.toList_inj,String.toList_ofList] at he
    obtain ⟨hlow,hmap⟩ := List.cons.inj he
    rw [hone (List.map_eq_nil_iff.mp hmap),
      (lower_word (hpart c List.mem_cons_self)).2.2.mp hlow]
  · rintro rfl
    decide

/-- A name in small letters is a legal identifier exactly if it is neither the underscore nor a
keyword. -/
theorem legal_snake_iff {name : String} (h : IsName name) :
    Legal (snake name) ↔ name ≠ "_" ∧ snake name ∉ keywords ∧ snake name ∉ pathWords := by
  rw [legal_iff (hash_not_mem (isName_snake h)),Ne,snake_eq_underscore_iff h]
  exact and_iff_right (isName_snake h)

/-! ## Escaped names -/

/-- An escaped name is a legal identifier exactly if it is not the underscore. -/
theorem legal_escape_iff {name : String} (h : IsName name) :
    Legal (escape name) ↔ name ≠ "_" := by
  have hpaths : ∀ w ∈ pathWords, w ≠ "_" ∧ IsName (w ++ "_") ∧ w ++ "_" ≠ "_" ∧
      w ++ "_" ∉ keywords ∧ w ++ "_" ∉ pathWords := by
    decide
  have hkeys : ∀ w ∈ keywords, w ≠ "_" := by decide
  unfold escape
  split
  · rename_i hpath
    obtain ⟨hne,hname,hunder,hkey,hnot⟩ := hpaths name hpath
    exact iff_of_true (.plain hname hunder hkey hnot) hne
  · rename_i hpath
    split
    · rename_i hkey
      exact iff_of_true (.raw h (hkeys name hkey) hpath) (hkeys name hkey)
    · rename_i hkey
      rw [legal_iff (hash_not_mem h)]
      exact ⟨fun hlegal => hlegal.2.1,fun hne => ⟨h,hne,hkey,hpath⟩⟩

end Identifier
end SchemaCodec
