import Mathlib.Data.List.Nodup
import SchemaCodec.Proofs.Distinct
import SchemaCodec.Proofs.Semantics.Decoding

/-! # Runs of bindings

Every binding of a message is in one run: by itself, or with all members of its oneof in the order
of the bindings. Each run has a slot of its own. How bindings are put into runs depends on the fields
and their kinds, and not on the code that is bound to them.
-/
namespace SchemaCodec.Codec
variable {α : Type}

def Binding.forget (b : Binding α) : Binding Unit := ⟨b.field,b.kind,()⟩

def Run.forget : Run α → Run Unit
  | .plain b => .plain b.forget
  | .group name first more => .group name first.forget (more.map Binding.forget)

theorem group?_forget (b : Binding α) : b.forget.group? = b.group? := rfl

/-- Bindings are taken one by one, the members of a oneof all at once. -/
@[elab_as_elim]
theorem runs_induction {motive : List (Binding α) → Prop} (nil : motive [])
    (plain : ∀ b rest, b.group? = none → motive rest → motive (b :: rest))
    (group : ∀ b rest g, b.group? = some g → motive (rest.filter (·.group? != some g)) →
      motive (b :: rest)) (bs : List (Binding α)) : motive bs := by
  induction hn : bs.length using Nat.strongRecOn generalizing bs with
  | ind n ih =>
    cases bs with
    | nil => exact nil
    | cons b rest =>
      have hlength : rest.length < n := by
        simp [← hn]
      cases hb : b.group? with
      | none => exact plain b rest hb (ih _ hlength rest rfl)
      | some g =>
        have hle := List.length_filter_le (fun b => b.group? != some g) rest
        exact group b rest g hb (ih _ (Nat.lt_of_le_of_lt hle hlength) _ rfl)

/-! ## The first run and the others -/

/-- A binding is a member of a oneof, if one is given. -/
def Binding.isIn (tag : Option String) (b : Binding α) : Bool := tag.isSome && b.group? == tag

namespace Grouping

/-- A grouping in which one more run comes first, that of a oneof perhaps. -/
def behind (tag : Option String) (run : List (Binding α)) (s : Grouping α) : Grouping α :=
  ⟨run :: s.runs,tag.toList.map (·,0) ++ s.groups.map fun p => (p.1,p.2 + 1)⟩

theorem lookup_behind {tag : Option String} {run : List (Binding α)} {s : Grouping α} {g : String}
    (h : tag ≠ some g) : (behind tag run s).groups.lookup g = (s.groups.lookup g).map (· + 1) := by
  have hshift := lookup_map_update (fun _ i => i + 1) s.groups g
  cases tag with
  | none => exact hshift
  | some first =>
    have hne : (g == first) = false := beq_false_of_ne fun he => h (congrArg some he.symm)
    change List.lookup g ((first,0) :: s.groups.map fun p => (p.1,p.2 + 1)) = _
    rw [List.lookup_cons,hne]
    exact hshift

/-- A member of the first run's oneof is added to the first run. -/
theorem add_behind_same {run : List (Binding α)} {s : Grouping α} {b : Binding α} {g : String}
    (hb : b.group? = some g) :
    (behind (some g) run s).add b = behind (some g) (run ++ [b]) s := by
  have hlookup : (behind (some g) run s).groups.lookup g = some 0 := List.lookup_cons_self
  rw [add,hb]
  simp only [hlookup]
  rfl

/-- Any other binding is added to the other runs. -/
theorem add_behind_other {tag : Option String} {run : List (Binding α)} {s : Grouping α}
    {b : Binding α} (hb : b.group? = none ∨ b.group? ≠ tag) :
    (behind tag run s).add b = behind tag run (s.add b) := by
  rw [add,add]
  cases hg : b.group? with
  | none => rfl
  | some g =>
    have htag : tag ≠ some g := by
      simpa [hg,eq_comm] using hb
    simp only [lookup_behind htag]
    cases s.groups.lookup g with
    | some i => rfl
    | none => simp [behind]

/-- The first run takes all members of its oneof. -/
theorem foldl_behind (tag : Option String) (run bs : List (Binding α)) (s : Grouping α) :
    bs.foldl add (behind tag run s) =
      behind tag (run ++ bs.filter (·.isIn tag)) ((bs.filter fun b => !b.isIn tag).foldl add s) := by
  induction bs generalizing run s with
  | nil => simp
  | cons b rest ih =>
    rw [List.foldl_cons]
    by_cases hb : b.isIn tag = true
    · obtain ⟨htag,hgroup⟩ := Bool.and_eq_true_iff.mp hb
      obtain ⟨g,rfl⟩ := Option.isSome_iff_exists.mp htag
      rw [add_behind_same (eq_of_beq hgroup),ih,List.filter_cons_of_pos hb,
        List.filter_cons_of_neg (by simp [hb]),List.append_assoc]
      rfl
    · have hother : b.group? = none ∨ b.group? ≠ tag := by
        cases tag with
        | none => exact eq_or_ne _ _
        | some g => exact .inr (by simpa [Binding.isIn] using hb)
      rw [add_behind_other hother,ih,List.filter_cons_of_neg hb,
        List.filter_cons_of_pos (by simp [hb])]
      rfl

end Grouping

theorem runs_plain {b : Binding α} {rest : List (Binding α)} (hb : b.group? = none) :
    runs (b :: rest) = .plain b :: runs rest := by
  have hfirst : Grouping.add {} b = .behind none [b] {} := by
    rw [Grouping.add,hb]
    rfl
  rw [runs,List.foldl_cons,hfirst,Grouping.foldl_behind]
  simp [Grouping.behind,Run.ofBindings,Binding.isIn,hb,runs]

theorem runs_group {b : Binding α} {rest : List (Binding α)} {g : String}
    (hb : b.group? = some g) :
    runs (b :: rest) = .group g b (rest.filter (·.group? == some g)) ::
      runs (rest.filter (·.group? != some g)) := by
  have hfirst : Grouping.add {} b = .behind (some g) [b] {} := by
    rw [Grouping.add,hb]
    rfl
  rw [runs,List.foldl_cons,hfirst,Grouping.foldl_behind]
  simp [Grouping.behind,Run.ofBindings,Binding.isIn,hb,runs,bne]

def Run.map {β : Type} (f : Binding α → Binding β) : Run α → Run β
  | .plain b => .plain (f b)
  | .group name first more => .group name (f first) (more.map f)

/-- Bindings that are changed but keep their groups are put into runs alike. -/
theorem runs_map {β : Type} {f : Binding α → Binding β} (hf : ∀ b, (f b).group? = b.group?)
    (bs : List (Binding α)) : runs (bs.map f) = (runs bs).map (Run.map f) := by
  have hgroup (p : Option String → Bool) : (fun b : Binding β => p b.group?) ∘ f =
      fun b => p b.group? := funext fun b => congrArg p (hf b)
  induction bs using runs_induction with
  | nil => simp [runs]
  | plain b rest hb ih =>
    rw [List.map_cons,runs_plain ((hf b).trans hb),runs_plain hb,ih]
    rfl
  | group b rest g hb ih =>
    rw [List.map_cons,runs_group ((hf b).trans hb),runs_group hb,List.filter_map,List.filter_map,
      hgroup (· == some g),hgroup (· != some g),ih]
    rfl

theorem runs_map_forget (bs : List (Binding α)) :
    runs (bs.map Binding.forget) = (runs bs).map Run.forget := by
  rw [runs_map group?_forget]
  refine List.map_congr_left fun run _ => ?_
  cases run <;> rfl

/-- A run as it is made from some bindings: one outside of any oneof, or all members of a oneof. -/
def Run.IsFrom (bs : List (Binding α)) : Run α → Prop
  | .plain b => b ∈ bs ∧ b.group? = none
  | .group name first more => first :: more = bs.filter (·.group? == some name)

/-- The members of a group's run are bindings of that group. -/
theorem Run.IsFrom.members {bs : List (Binding α)} {name : String} {first : Binding α}
    {more : List (Binding α)} (h : (Run.group name first more).IsFrom bs) :
    ∀ b ∈ first :: more, b ∈ bs ∧ b.group? = some name := by
  intro b hb
  have hmem : b ∈ bs.filter (·.group? == some name) := h ▸ hb
  simpa using List.mem_filter.mp hmem

theorem filter_group_of_ne {bs : List (Binding α)} {g name : String} (h : name ≠ g) :
    (bs.filter (·.group? != some g)).filter (·.group? == some name) =
      bs.filter (·.group? == some name) := by
  rw [List.filter_filter]
  refine List.filter_congr fun b _ => ?_
  by_cases hb : b.group? = some name
  · simp [hb,h]
  · simp [hb]

theorem Run.IsFrom.cons {b : Binding α} {bs : List (Binding α)} (hb : b.group? = none) {run : Run α}
    (h : run.IsFrom bs) : run.IsFrom (b :: bs) := by
  cases run with
  | plain c => exact ⟨List.mem_cons_of_mem b h.1,h.2⟩
  | group name first more =>
    have hfirst : first :: more = bs.filter (·.group? == some name) := h
    rw [Run.IsFrom,List.filter_cons,hfirst]
    simp [hb]

theorem Run.IsFrom.of_filter {bs : List (Binding α)} {b : Binding α} {g : String}
    (hb : b.group? = some g) {run : Run α} (h : run.IsFrom (bs.filter (·.group? != some g))) :
    run.IsFrom (b :: bs) := by
  cases run with
  | plain c => exact ⟨List.mem_cons_of_mem b (List.mem_filter.mp h.1).1,h.2⟩
  | group name first more =>
    have hfirst : first :: more =
        (bs.filter (·.group? != some g)).filter (·.group? == some name) := h
    -- the run is not empty, so its oneof is none whose members were taken out
    have hne : name ≠ g := by
      rintro rfl
      have hmem : first ∈ (bs.filter (·.group? != some name)).filter (·.group? == some name) :=
        hfirst ▸ List.mem_cons_self
      simp at hmem
    rw [filter_group_of_ne hne] at hfirst
    rw [Run.IsFrom,List.filter_cons,hfirst]
    simp [hb,hne.symm]

theorem isFrom_of_mem_runs (bs : List (Binding α)) : ∀ run ∈ runs bs, run.IsFrom bs := by
  induction bs using runs_induction with
  | nil => simp [runs]
  | plain b rest hb ih =>
    intro run hrun
    rw [runs_plain hb] at hrun
    rcases List.mem_cons.mp hrun with rfl | hrun
    · exact ⟨List.mem_cons_self,hb⟩
    · exact (ih run hrun).cons hb
  | group b rest g hb ih =>
    intro run hrun
    rw [runs_group hb] at hrun
    rcases List.mem_cons.mp hrun with rfl | hrun
    · rw [Run.IsFrom,List.filter_cons]
      simp [hb]
    · exact (ih run hrun).of_filter hb

/-- The slot of a field: members of a oneof share one. -/
def Binding.slot (b : Binding α) : Slot := slotOf b.field b.kind

def Run.slot : Run α → Slot
  | .plain b => .field b.field.name
  | .group name _ _ => .group name

theorem slot_of_group? {b : Binding α} {g : String} (hb : b.group? = some g) :
    b.slot = .group g := by
  rw [Binding.slot]
  unfold Binding.group? at hb
  cases hk : b.kind <;> rw [hk] at hb <;> cases hb
  rfl

theorem slot_of_plain {b : Binding α} (hb : b.group? = none) : b.slot = .field b.field.name := by
  rw [Binding.slot]
  unfold Binding.group? at hb
  cases hk : b.kind <;> rw [hk] at hb <;> cases hb <;> rfl

theorem slot_eq_group_iff {b : Binding α} {g : String} : b.slot = .group g ↔ b.group? = some g := by
  cases hb : b.group? with
  | none => simp [slot_of_plain hb]
  | some h => simp [slot_of_group? hb]

/-- The slots of the runs are those of the bindings. -/
theorem mem_slots_runs (bs : List (Binding α)) (s : Slot) :
    s ∈ (runs bs).map Run.slot ↔ s ∈ bs.map Binding.slot := by
  induction bs using runs_induction with
  | nil => simp [runs]
  | plain b rest hb ih =>
    rw [runs_plain hb,List.map_cons,List.map_cons,List.mem_cons,List.mem_cons,ih,slot_of_plain hb]
    rfl
  | group b rest g hb ih =>
    rw [runs_group hb,List.map_cons,List.map_cons,List.mem_cons,List.mem_cons,ih,slot_of_group? hb]
    refine or_congr_right' fun hs => ?_
    constructor
    · intro hmem
      obtain ⟨c,hc,rfl⟩ := List.mem_map.mp hmem
      exact List.mem_map_of_mem (List.mem_filter.mp hc).1
    · intro hmem
      obtain ⟨c,hc,rfl⟩ := List.mem_map.mp hmem
      have hne : c.group? ≠ some g := fun he => hs (slot_of_group? he)
      exact List.mem_map_of_mem (List.mem_filter.mpr ⟨hc,by simpa using hne⟩)

/-- No two runs have the same slot, if no two bindings have a field of the same name. -/
theorem nodup_slots_runs (bs : List (Binding α)) (h : (bs.map (·.field.name)).Nodup) :
    ((runs bs).map Run.slot).Nodup := by
  induction bs using runs_induction with
  | nil => simp [runs]
  | plain b rest hb ih =>
    obtain ⟨hname,hrest⟩ := List.nodup_cons.mp h
    rw [runs_plain hb,List.map_cons]
    refine List.nodup_cons.mpr ⟨fun hmem => hname ?_,ih hrest⟩
    obtain ⟨c,hc,hslot⟩ := List.mem_map.mp ((mem_slots_runs rest _).mp hmem)
    cases hg : c.group? with
    | none =>
      rw [slot_of_plain hg] at hslot
      exact List.mem_map.mpr ⟨c,hc,Slot.field.inj hslot⟩
    | some g =>
      rw [slot_of_group? hg] at hslot
      cases hslot
  | group b rest g hb ih =>
    obtain ⟨-,hrest⟩ := List.nodup_cons.mp h
    rw [runs_group hb,List.map_cons]
    refine List.nodup_cons.mpr ⟨fun hmem => ?_,ih (hrest.sublist (List.filter_sublist.map _))⟩
    obtain ⟨c,hc,hslot⟩ := List.mem_map.mp ((mem_slots_runs _ _).mp hmem)
    have hne := (List.mem_filter.mp hc).2
    simp [slot_eq_group_iff.mp hslot] at hne

end SchemaCodec.Codec
