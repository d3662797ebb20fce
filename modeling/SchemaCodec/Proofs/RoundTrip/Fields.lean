import SchemaCodec.Proofs.RoundTrip.Values

/-! # Fields over a stream

What is written for a part of a message carries the value of its slot. A field that holds nothing is a
none marker. A message in such a field is the one value whose first token may be taken for the
marker, so its trace is marked as guarded.
-/
namespace SchemaCodec.Codec

/-- A trace that starts with a token which is neither a none marker nor an error. -/
def Announced (trace : Trace) : Prop :=
  ∀ rest, (tokens trace ++ rest).head? ≠ some .none ∧ (tokens trace ++ rest).head? ≠ some .error

theorem announced_of_write {method : Value → Option Trace} {kind : Kind} {v : Value}
    {trace : Trace} (hkind : startsAbsent kind = false) (h : writeValue method kind v = some trace) :
    Announced trace := by
  have hdatum : ∀ type, writeDatum type v = some trace → Announced trace := by
    intro type hw
    unfold writeDatum at hw
    split at hw
    · split at hw
      · cases hw
        simp [Announced]
      · cases hw
    · cases hw
  cases kind with
  | integer bits signed | float bits | bool | string | bytes => exact hdatum _ h
  | enum name =>
    unfold writeValue writeNumber at h
    split at h
    · cases h
      simp [Announced]
    · cases h
  | message name => cases hkind
  | repeated element =>
    cases v with
    | array items =>
      obtain ⟨wire,-,h⟩ := Option.bind_eq_some_iff.mp h
      obtain ⟨parts,-,h⟩ := Option.bind_eq_some_iff.mp h
      cases h
      simp [Announced]
    | _ => cases h
  | map key value =>
    cases v with
    | map entries =>
      obtain ⟨keyWire,-,h⟩ := Option.bind_eq_some_iff.mp h
      obtain ⟨valueWire,-,h⟩ := Option.bind_eq_some_iff.mp h
      obtain ⟨parts,-,h⟩ := Option.bind_eq_some_iff.mp h
      cases h
      simp [Announced]
    | _ => cases h
  | oneof group number inner => cases h

/-- What the schema promises of a part: kinds without oneofs inside, and members that can be told
apart by their names and by their numbers. -/
def Part.Sound : Part → Prop
  | .plain _ kind => holdsOneof kind = false
  | .optional _ _ => True
  | .group _ members => (members.map (·.name)).Nodup ∧ (members.map (·.number)).Nodup ∧
      ∀ member ∈ members, (0 ≤ member.number ∧ member.number < 4294967296) ∧
        holdsOneof member.kind = false

def CarriesMessages (index : TypeIndex) (isMessage : String → Value → Prop) (least : ℕ) : Prop :=
  ∀ name v, isMessage name v →
    ∃ trace, CarriesKind index least (.message name) v (.opened false :: trace)

/-- Reading and writing a part; a part that is not read leaves `initial` in its slot. -/
def CarriesPart (index : TypeIndex) (least : ℕ) (p : Part) (initial v : Value) (r : Option Value)
    (trace : Trace) : Prop :=
  Carries (fun depth => p.write (encodeRun index depth) v)
    (fun depth => p.read index (decodeRun index depth)) (fun r' => v.Same (r'.getD initial)) least r
    trace

section Parts
variable {index : TypeIndex} {isMessage : String → Value → Prop} {least : ℕ}

theorem carries_absent {p : Part} (hp : p.mayBeAbsent = true) (initial : Value) :
    CarriesPart index least p initial .none none [.token .none] := by
  have hwrite : (fun depth => p.write (encodeRun index depth) .none) =
      fun _ => some [.token .none] := by
    funext depth
    cases p with
    | plain name kind => cases hp
    | optional name type => rfl
    | group name members => rfl
  rw [CarriesPart,hwrite]
  exact ⟨fun _ _ => rfl,fun _ _ _ _ => rfl,fun _ rest r after hread _ => by
    cases hread
    exact ⟨trivial,rfl⟩⟩

theorem carries_plain {name : String} {kind : Kind} (hkind : startsAbsent kind = false)
    {v initial : Value} {trace : Trace} (h : CarriesKind index least kind v trace) :
    CarriesPart index least (.plain name kind) initial v (some v) trace := by
  have hannounced := announced_of_write hkind (h.written least (Nat.le_refl least))
  have hread : ∀ depth rest, Part.read index (decodeRun index depth) (.plain name kind)
      (tokens trace ++ rest) = (readValue index (decodeRun index depth) kind
        (tokens trace ++ rest)).map fun p => (some p.1,p.2) :=
    fun depth rest => unlessNone_of_head (hannounced rest).1 _ _
  refine ⟨h.written,fun depth hdepth rest hclear => ?_,fun depth rest r after hr hsame => ?_⟩
  · rw [hread,h.forth depth hdepth rest hclear]
    rfl
  · rw [hread] at hr
    obtain ⟨⟨w,next⟩,hw,heq⟩ := Option.map_eq_some_iff.mp hr
    cases heq
    exact h.back depth rest w next hw hsame

theorem carries_present {name type : String} {u : Value} {trace : Trace}
    (h : CarriesKind index least (.message type) u (.opened false :: trace)) :
    CarriesPart index least (.optional name type) .none (.some u) (some (.some u))
      (.opened true :: trace) := by
  refine ⟨fun depth hdepth => ?_,fun depth hdepth rest hclear => ?_,
    fun depth rest r after hr hsame => ?_⟩
  · obtain ⟨written,hwritten,heq⟩ := Option.map_eq_some_iff.mp (h.written depth hdepth)
    cases heq
    exact Option.map_eq_some_iff.mpr ⟨trace,hwritten,rfl⟩
  · obtain ⟨herror,hnone,hclear⟩ := hclear
    have hread : Part.read index (decodeRun index depth) (.optional name type)
        (tokens trace ++ rest) = (decodeRun index depth type (tokens trace ++ rest)).map fun p =>
          (some (.some p.1),p.2) := unlessNone_of_head (hnone rfl) _ _
    have hforth := h.forth depth hdepth rest
      ⟨herror,fun h => absurd h Bool.false_ne_true,hclear⟩
    rw [tokens_opened,hread]
    exact congrArg (Option.map _) hforth
  · by_cases hhead : (tokens trace ++ rest).head? = some .none
    · -- the marker is taken, so nothing is stored, and the value was something
      obtain ⟨next,hnext⟩ := List.head?_eq_some_iff.mp hhead
      rw [tokens_opened,hnext] at hr
      cases hr
      cases hsame
    · have hread : Part.read index (decodeRun index depth) (.optional name type)
          (tokens trace ++ rest) = (decodeRun index depth type (tokens trace ++ rest)).map fun p =>
            (some (.some p.1),p.2) := unlessNone_of_head hhead _ _
      rw [tokens_opened,hread] at hr
      obtain ⟨⟨w,next⟩,hw,heq⟩ := Option.map_eq_some_iff.mp hr
      cases heq
      cases hsame with
      | some hsame =>
        obtain ⟨⟨herror,-,hclear⟩,hafter⟩ := h.back depth rest w next hw hsame
        exact ⟨⟨herror,fun _ => hhead,hclear⟩,hafter⟩

theorem carries_member {name : String} {members : List Member}
    (hsound : (Part.group name members).Sound) {member : Member} (hmember : member ∈ members)
    {u initial : Value} {trace : Trace} (h : CarriesKind index least member.kind u trace) :
    CarriesPart index least (.group name members) initial (.member member.name u)
      (some (.member member.name u)) (.token (.scalar (.u32 member.number)) :: trace) := by
  obtain ⟨hnames,hnumbers,hrange⟩ := hsound
  obtain ⟨⟨hlow,hhigh⟩,-⟩ := hrange member hmember
  have hname : members.find? (fun m => m.name == member.name) = some member :=
    find?_of_nodup hnames hmember fun m => by simp
  have hnumber : members.find? (fun m => (Datum.u32 member.number).payload = .number m.number) =
      some member := by
    rw [Datum.payload_u32 hlow hhigh]
    exact find?_of_nodup hnumbers hmember fun m => by simp [eq_comm]
  have hwrite : (fun depth => Part.write (encodeRun index depth) (.group name members)
      (.member member.name u)) = fun depth =>
        (writeValue (encodeRun index depth) member.kind u).map
          (.token (.scalar (.u32 member.number)) :: ·) := by
    funext depth
    rw [Part.write,hname,Option.map_eq_bind]
    rfl
  rw [CarriesPart,hwrite]
  refine Carries.cons h (f := fun w => some (Value.member member.name w)) (fun depth stream => ?_) ?_
  · rw [Part.read,unlessNone_of_head (by simp)]
    simp only [readDatum_u32,Option.bind_eq_bind,Option.bind_some,hnumber]
  · intro _ _ w _ _ hsame
    cases hsame with
    | member _ hsame => exact hsame

/-- The value of every part is carried by a trace, if every message is. -/
theorem carries_part (he : EnumsApart index)
    (hstruct : ∀ name v, isMessage name v → ∃ type x, v = .struct type x)
    (hmessages : CarriesMessages index isMessage least) {p : Part} (hsound : p.Sound)
    {v initial : Value} (hfits : p.Fits index isMessage v)
    (hinitial : p.mayBeAbsent = true → initial = .none) :
    ∃ trace r, r.getD initial = v ∧ CarriesPart index least p initial v r trace := by
  have hvalue : ∀ kind u, holdsOneof kind = false → Fits index isMessage kind u →
      ∃ trace, CarriesKind index least kind u trace :=
    fun kind u hkind hu => carries_value he hstruct
      (fun name w hw => (hmessages name w hw).imp' _ fun _ h => h) hkind hu
  cases p with
  | plain name kind =>
    obtain ⟨trace,htrace⟩ := hvalue kind v hsound hfits.2
    exact ⟨trace,some v,rfl,carries_plain hfits.1 htrace⟩
  | optional name type =>
    cases hinitial rfl
    rcases hfits with rfl | ⟨u,rfl,hu⟩
    · exact ⟨_,none,rfl,carries_absent rfl .none⟩
    · obtain ⟨trace,htrace⟩ := hmessages type u hu
      exact ⟨_,_,rfl,carries_present htrace⟩
  | group name members =>
    cases hinitial rfl
    rcases hfits with rfl | ⟨member,hmember,u,rfl,hu⟩
    · exact ⟨_,none,rfl,carries_absent rfl .none⟩
    · obtain ⟨trace,htrace⟩ := hvalue member.kind u (hsound.2.2 member hmember).2 hu
      exact ⟨_,_,rfl,carries_member hsound hmember htrace⟩

end Parts

end SchemaCodec.Codec
