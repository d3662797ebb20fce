import SchemaCodec.Proofs.FileTree
import SchemaCodec.Proofs.Schema.Literals
import SchemaCodec.Proofs.Schema.Loading
import SchemaCodec.Proofs.Text.Radix

/-! # Which errors have a report

Whatever is wrong with drafts is reported, unless it is a field number with too many digits, and so
is an import that is missing. What else ends loading without a report is a text that escapes, or a
path that no system can be given, and the first such text or path is met where everything before it
has a draft.
-/
namespace SchemaCodec
open Text

/-- An error that is told to whoever asked for the files. -/
def SchemaError.Reported (e : SchemaError) : Prop := ∃ message, e.message? = some message

theorem SchemaError.not_reported_iff {e : SchemaError} : ¬ e.Reported ↔ e.message? = none := by
  rw [Reported]
  cases e.message? <;> simp

/-- A field is out of range with a number of too many digits to be told. -/
def SchemaError.TooLong (e : SchemaError) : Prop := ∃ path line field n,
  e = .declaration path line (.numberOutOfRange field n) ∧ 10 ^ digitLimit ≤ n.natAbs

theorem decimalText?_eq_none_iff {n : ℤ} :
    decimalText? n = none ↔ 10 ^ digitLimit ≤ n.natAbs := by
  rw [decimalText?,← Nat.not_lt,← isWritable_iff]
  cases isWritable n <;> simp

theorem SchemaError.TooLong.message? {e : SchemaError} (h : e.TooLong) : e.message? = none := by
  obtain ⟨path,line,field,n,rfl,hlong⟩ := h
  rw [SchemaError.message?,DeclarationError.message?,decimalText?_eq_none_iff.mpr hlong]
  rfl

/-- A computation whose errors all have a report, unless a field number is too long for it. -/
abbrev Reports {α : Type} (x : Except SchemaError α) : Prop :=
  FailsWith (fun e => e.Reported ∨ e.TooLong) x

theorem Reports.message?_eq_none_iff {α : Type} {x : Except SchemaError α} (h : Reports x)
    {e : SchemaError} (he : x = .error e) : e.message? = none ↔ e.TooLong := by
  refine ⟨fun hnone => ?_,SchemaError.TooLong.message?⟩
  exact (h e he).resolve_left (SchemaError.not_reported_iff.mpr hnone)

/-! ## Building -/

/-- A fault that has a report, or is of a number with too many digits. -/
def DeclarationError.Told (cause : DeclarationError) : Prop :=
  (∃ message, cause.message? = some message) ∨
    ∃ field n, cause = .numberOutOfRange field n ∧ 10 ^ digitLimit ≤ n.natAbs

/-- Only a number that is out of range can be too long. -/
theorem told_fieldFault? {reserved : List ReservedDraft} {before : List FieldDraft} {f : FieldDraft}
    {cause : DeclarationError} (h : fieldFault? reserved before f = some cause) : cause.Told := by
  by_cases hrange : f.number < 1 ∨ maxFieldNumber < f.number
  · rw [fieldFault?,if_pos hrange,Option.some.injEq] at h
    subst h
    cases htext : decimalText? f.number with
    | none => exact .inr ⟨f.name,f.number,rfl,decimalText?_eq_none_iff.mp htext⟩
    | some text => exact .inl ⟨_,by rw [DeclarationError.message?,htext,Option.map_some]⟩
  · obtain ⟨text,htext⟩ : ∃ text, decimalText? f.number = some text := by
      have hsmall : f.number.natAbs < 10 ^ 9 := by
        unfold maxFieldNumber at hrange
        omega
      have hlimit : 10 ^ 9 ≤ 10 ^ digitLimit := Nat.pow_le_pow_right (by decide) (by decide)
      refine Option.ne_none_iff_exists'.mp fun hnone => ?_
      exact Nat.not_lt.mpr (decimalText?_eq_none_iff.mp hnone) (hsmall.trans_le hlimit)
    refine .inl ?_
    unfold fieldFault? at h
    rw [if_neg hrange] at h
    repeat' split at h
    all_goals cases h
    all_goals simp [DeclarationError.message?,htext]

theorem told_fieldsFault? {reserved : List ReservedDraft} {before rest : List FieldDraft}
    {line : ℕ} {cause : DeclarationError}
    (h : fieldsFault? reserved before rest = some (line,cause)) : cause.Told := by
  induction rest generalizing before with
  | nil => cases h
  | cons f rest ih =>
    unfold fieldsFault? at h
    split at h
    · next hfault =>
      cases h
      exact told_fieldFault? hfault
    · exact ih h

namespace BuildContext
variable (ctx : BuildContext)

theorem reports_fail {α : Type} (line : Nat) {cause : DeclarationError} (h : cause.Told) :
    Reports (ctx.fail line cause : Except SchemaError α) := by
  refine failsWith_error ?_
  rcases h with ⟨message,hmessage⟩ | ⟨field,n,rfl,hlong⟩
  · exact .inl ⟨_,by rw [SchemaError.message?,hmessage,Option.map_some]⟩
  · exact .inr ⟨_,_,_,_,rfl,hlong⟩

theorem reports_valueType (ref scope : String) (line : Nat) :
    Reports (ctx.valueType ref scope line) := by
  unfold valueType
  split
  · exact failsWith_ok _
  · split
    · exact ctx.reports_fail line (.inl ⟨_,rfl⟩)
    · split
      · exact failsWith_ok _
      · exact ctx.reports_fail line (.inl ⟨_,rfl⟩)

theorem reports_keyType (ref scope : String) (line : Nat) :
    Reports (ctx.keyType ref scope line) := by
  refine (ctx.reports_valueType ref scope line).bind fun key => ?_
  split
  · exact failsWith_ok key
  · exact ctx.reports_fail line (.inl ⟨_,rfl⟩)

theorem reports_field (scope : String) (d : FieldDraft) : Reports (ctx.field scope d) := by
  refine (ctx.reports_valueType d.type scope d.line).bind fun value => ?_
  cases d.shape with
  | singular | repeated | member group => exact failsWith_ok _
  | map ref => exact (ctx.reports_keyType ref scope d.line).bind fun key => failsWith_ok _

theorem reports_enum (scope : String) (d : EnumDraft) : Reports (ctx.enum scope d) := by
  unfold enum
  split
  · exact ctx.reports_fail _ (.inl ⟨_,rfl⟩)
  · exact failsWith_ok _

theorem reports_messages (scope : String) (drafts : List MessageDraft) :
    Reports (ctx.messages scope drafts) := by
  induction scope, drafts using messageNames.induct with
  | case1 scope =>
    rw [messages]
    exact failsWith_ok []
  | case2 scope name fields nested enums reserved line rest full ihn ihr =>
    have hcheck : Reports (ctx.checkFields reserved fields) := by
      unfold checkFields
      split
      · exact ctx.reports_fail _ (told_fieldsFault? ‹_›)
      · exact failsWith_ok ()
    rw [messages]
    refine hcheck.bind fun _ => ?_
    refine (failsWith_mapM (ctx.reports_field full) fields).bind fun _ => ?_
    refine ihn.bind fun _ => ?_
    refine (failsWith_mapM (ctx.reports_enum full) enums).bind fun _ => ?_
    exact ihr.bind fun _ => failsWith_ok _

end BuildContext

theorem reports_build (draft : FileDraft) (declared : Declared) (generate : Bool) :
    Reports (draft.build declared generate) := by
  refine (BuildContext.reports_messages _ draft.package draft.messages).bind fun _ => ?_
  exact (failsWith_mapM (BuildContext.reports_enum _ draft.package) draft.enums).bind
    fun _ => failsWith_ok _

theorem reports_declare (path : String) (declared : Declared) (n : NamedSort) :
    Reports (declare path declared n) := by
  unfold declare
  split
  · exact failsWith_error (.inl ⟨_,rfl⟩)
  · exact failsWith_ok _

/-- Whatever is wrong with drafts is reported, unless a field number is too long for it. -/
theorem reports_buildAll (drafts : List FileDraft) (generate : String → Bool) :
    Reports (buildAll drafts generate) := by
  have hdeclare : Reports (declareAll drafts) := by
    refine failsWith_foldlM (fun declared d => ?_) drafts []
    exact failsWith_foldlM (reports_declare d.path) d.names declared
  refine hdeclare.bind fun declared => ?_
  exact failsWith_mapM (fun d => reports_build d declared _) drafts

/-! ## Texts that are given -/

theorem parseAll_escapes_iff (sources : List (String × String)) :
    (∃ e, parseAll sources = .error e ∧ e.message? = none) ↔
      (∃ before path text after, sources = before ++ (path,text) :: after ∧
        (∀ s ∈ before, Draftable s.2.toList) ∧ Escapes text.toList) ∨
      ∃ e, parseAll sources = .error e ∧ e.TooLong := by
  constructor
  · rintro ⟨e,he,hnone⟩
    rcases bind_eq_error.mp he with hdraft | ⟨drafts,-,hbuild⟩
    · obtain ⟨before,⟨path,text⟩,after,rfl,hbefore,htext⟩ := mapM_eq_error.mp hdraft
      refine .inl ⟨before,path,text,after,rfl,fun s hs => ?_,?_⟩
      · exact (exists_draftOf_iff s.1 s.2.toList).mp (hbefore s hs)
      · exact (draftOf_escapes_iff path text.toList).mp ⟨e,htext,hnone⟩
    · split at hbuild
      · cases hbuild
        cases hnone
      · exact .inr ⟨e,he,((reports_buildAll drafts _).message?_eq_none_iff hbuild).mp hnone⟩
  · rintro (⟨before,path,text,after,rfl,hbefore,htext⟩ | ⟨e,he,hlong⟩)
    swap
    · exact ⟨e,he,hlong.message?⟩
    obtain ⟨e,he,hnone⟩ := (draftOf_escapes_iff path text.toList).mpr htext
    refine ⟨e,bind_eq_error.mpr (.inl (mapM_eq_error.mpr ⟨before,_,after,rfl,fun s hs => ?_,he⟩)),
      hnone⟩
    exact (exists_draftOf_iff s.1 s.2.toList).mpr (hbefore s hs)

/-! ## Files that are loaded -/

namespace FileTree
variable {tree : FileTree} {roots : List AbsolutePath}

/-- A request for a file that holds no text or one that escapes, or along a path that no system can
be given. -/
def RequestEscapes (tree : FileTree) (request : FileRequest) : Prop :=
  '\x00' ∈ request.location.toList ∨ ∃ content, tree.read request.location = .ok content ∧
    ∀ text, fileText? content = some text → Escapes text

theorem draft_escapes_iff (request : FileRequest) :
    (∃ e, tree.draft request = .error e ∧ e.message? = none) ↔ tree.RequestEscapes request := by
  rw [RequestEscapes,← read_eq_embeddedNul_iff tree,FileTree.draft]
  cases hread : tree.read request.location with
  | ok content =>
    cases htext : fileText? content with
    | none => exact iff_of_true ⟨.undecodable request.name,by simp [htext],rfl⟩ (by simp [htext])
    | some text => simpa [htext] using draftOf_escapes_iff request.name text
  | error cause =>
    cases cause with
    | embeddedNul => exact iff_of_true ⟨_,rfl,rfl⟩ (.inl rfl)
    | _ => exact iff_of_false (by simp [PathError.report?,SchemaError.message?]) (by simp)

theorem reports_importRequests (drafts : List FileDraft) (draft : FileDraft) :
    Reports (tree.importRequests roots drafts draft) := by
  refine failsWith_mapM (fun name => ?_) _
  split
  · exact failsWith_ok _
  · exact failsWith_error (.inl ⟨_,rfl⟩)

/-- Loading comes to a request that escapes. -/
def LoadEscapes (tree : FileTree) (paths includePaths : List String) : Prop :=
  ∃ request rest drafts, Relation.ReflTransGen (tree.Round (tree.inputs paths includePaths).roots)
      ⟨(tree.inputs paths includePaths).requests,[]⟩ ⟨request :: rest,drafts⟩ ∧
    request.name ∉ drafts.map (·.path) ∧ tree.RequestEscapes request

theorem load_escapes_iff (paths includePaths : List String) :
    (∃ e, tree.load paths includePaths = .error e ∧ e.message? = none) ↔
      tree.LoadEscapes paths includePaths ∨
        ∃ e, tree.load paths includePaths = .error e ∧ e.TooLong := by
  obtain ⟨last,hrounds,hends⟩ := tree.rounds_load (tree.inputs paths includePaths).roots
    (tree.inputs paths includePaths).requests
  constructor
  · rintro ⟨e,he,hnone⟩
    rcases bind_eq_error.mp he with hall | ⟨drafts,-,hbuild⟩
    · rw [hall] at hends
      cases hends with
      | unread hnew hdraft =>
        exact .inl ⟨_,_,_,hrounds,hnew,(draft_escapes_iff _).mp ⟨e,hdraft,hnone⟩⟩
      | missing hnew hdraft himports =>
        exact .inr ⟨e,he,((reports_importRequests _ _).message?_eq_none_iff himports).mp hnone⟩
    · exact .inr ⟨e,he,((reports_buildAll drafts _).message?_eq_none_iff hbuild).mp hnone⟩
  · rintro (⟨request,rest,drafts,hreached,hnew,hescapes⟩ | ⟨e,he,hlong⟩)
    swap
    · exact ⟨e,he,hlong.message?⟩
    obtain ⟨e,he,hnone⟩ := (draft_escapes_iff request).mpr hescapes
    exact ⟨e,bind_eq_error.mpr (.inl (draftAll_of_rounds hreached (.unread hnew he))),hnone⟩

end FileTree
end SchemaCodec
