import SchemaCodec.Codec.Reader
import SchemaCodec.Codec.Writer
import Mathlib.Data.List.Basic

/-! # Scopes of local variables

Code for a value binds variables whose numbers tell the depth of the container that binds them. A
variable is visible up to the end of the block that it is bound in, unless it is bound anew. Every
occurrence of a variable belongs to the container that emitted it, and it refers to the binding of the
same container.
-/
namespace SchemaCodec.Codec

/-! ## Lines and blocks -/

/-- How a line stands to the blocks of code: it is inside of one, it opens one, which may be a loop of
a container at some depth, or it closes one. -/
inductive Border where
  | inside
  | opens (loop : Option ℕ)
  | closes
  deriving DecidableEq

/-- The variables that a line uses and those that it binds. A line that opens a block binds them in
the block, and any other line in what follows it. -/
structure Scoping (α : Type) where
  uses : List α
  binds : List α
  border : Border
  deriving DecidableEq

def Scoping.map {α β : Type} (f : α → β) (line : Scoping α) : Scoping β :=
  ⟨line.uses.map f,line.binds.map f,line.border⟩

/-- The parts of a container that are values by themselves. -/
inductive Branch where
  | element
  | key
  | value
  deriving DecidableEq

/-- An occurrence of a variable. Its owner is the container that emitted it, given by the branches that
lead to it from inside out, or none for the caller. -/
structure Occurrence where
  name : Local
  owner : Option (List Branch)
  deriving DecidableEq

/-- The bindings that are visible, innermost first, and for every block around them those that are
visible behind it, with the depth of the loop that it is, if it is one. -/
structure Site where
  visible : List Occurrence
  around : List (List Occurrence × Option ℕ)

/-- Who made the binding that a variable refers to; the caller, if none of the code has. -/
def Site.owner? (s : Site) (v : Local) : Option (List Branch) :=
  (s.visible.find? fun o => o.name = v).bind Occurrence.owner

def Site.after? (s : Site) (line : Scoping Occurrence) : Option Site :=
  match line.border, s.around with
  | .inside,around => some ⟨line.binds ++ s.visible,around⟩
  | .opens loop,around => some ⟨line.binds ++ s.visible,(s.visible,loop) :: around⟩
  | .closes,[] => none
  | .closes,frame :: around => some ⟨frame.1,around⟩

/-- A variable that is numbered higher than every loop around it. -/
def DeeperThan (loops : List (Option ℕ)) (v : Local) : Prop :=
  ∀ depth, some depth ∈ loops → depth < v.depth

/-- A variable that is numbered higher than every loop around it, or the key of the innermost one. -/
def DeeperOrKey (loops : List (Option ℕ)) (v : Local) : Prop :=
  DeeperThan loops v ∨ ∃ depth outer, loops = some depth :: outer ∧ v = .key depth ∧
    DeeperThan outer v

section Runs
variable (nests : List (Option ℕ) → Local → Prop)

/-- A line in a scope: what it uses refers to bindings of who emitted it, and what it binds is nested
in the loops around it. -/
structure Site.Step (s : Site) (line : Scoping Occurrence) (t : Site) : Prop where
  uses : ∀ o ∈ line.uses, s.owner? o.name = o.owner
  binds : ∀ o ∈ line.binds, nests (s.around.map Prod.snd) o.name
  after : s.after? line = some t

inductive Site.Runs : Site → List (Scoping Occurrence) → Site → Prop
  | nil (s : Site) : Runs s [] s
  | cons {s t u : Site} {line : Scoping Occurrence} {rest : List (Scoping Occurrence)}
      (hline : s.Step nests line t) (hrest : Runs t rest u) : Runs s (line :: rest) u

end Runs

/-! ## Occurrences in code for a value -/

/-- The lines that write a value. `source` are the variables in the expression for the value, and the
container at some depth binds its own for what it holds. -/
def writes : Kind → (source : List Occurrence) → (depth : ℕ) → (address : List Branch) →
    List (Scoping Occurrence)
  | .repeated element,source,depth,address =>
    let item := ⟨.item depth,some address⟩
    ⟨source,[],.inside⟩ :: ⟨source,[item],.opens (some depth)⟩ ::
      (writes element [item] (depth + 1) (.element :: address) ++ [⟨[],[],.closes⟩])
  | .map key value,source,depth,address =>
    let entry := ⟨.key depth,some address⟩
    let item := ⟨.item depth,some address⟩
    ⟨source,[],.inside⟩ :: ⟨source,[entry,item],.opens (some depth)⟩ ::
      (writes key [entry] (depth + 1) (.key :: address) ++
        writes value [item] (depth + 1) (.value :: address) ++ [⟨[],[],.closes⟩])
  | _,source,_,_ => [⟨source,[],.inside⟩]

/-- The variables in the expression for a value that was read. -/
def handed : Kind → (depth : ℕ) → (address : List Branch) → List Occurrence
  | .repeated _,depth,address => [⟨.array depth,some address⟩]
  | .map _ _,depth,address => [⟨.map depth,some address⟩]
  | _,_,_ => []

/-- The lines that read a value, up to the one that hands it on. -/
def reads : Kind → (depth : ℕ) → (address : List Branch) → List (Scoping Occurrence)
  | .repeated element,depth,address =>
    let size := ⟨.size depth,some address⟩
    let items := ⟨.array depth,some address⟩
    ⟨[],[size],.inside⟩ :: ⟨[size],[items],.inside⟩ :: ⟨[size],[],.opens (some depth)⟩ ::
      (reads element (depth + 1) (.element :: address) ++
        [⟨items :: handed element (depth + 1) (.element :: address),[],.inside⟩,⟨[],[],.closes⟩])
  | .map key value,depth,address =>
    let size := ⟨.size depth,some address⟩
    let entries := ⟨.map depth,some address⟩
    let entry := ⟨.key depth,some address⟩
    ⟨[],[size],.inside⟩ :: ⟨[size],[entries],.inside⟩ :: ⟨[size],[],.opens (some depth)⟩ ::
      (reads key (depth + 1) (.key :: address) ++
        ⟨handed key (depth + 1) (.key :: address),[entry],.inside⟩ ::
        (reads value (depth + 1) (.value :: address) ++
          [⟨entries :: entry :: handed value (depth + 1) (.value :: address),[],.inside⟩,
            ⟨[],[],.closes⟩]))
  | _,_,_ => []

theorem owner_of_mem_handed {kind : Kind} {depth : ℕ} {address : List Branch} {o : Occurrence}
    (h : o ∈ handed kind depth address) : o.owner = some address := by
  cases kind with
  | repeated _ | map _ _ =>
    rw [List.mem_singleton.mp h]
  | _ => exact absurd h List.not_mem_nil

def NumberedFrom (depth : ℕ) (lines : List (Scoping Occurrence)) : Prop :=
  ∀ line ∈ lines, ∀ o ∈ line.binds, depth ≤ o.name.depth

theorem NumberedFrom.le {depth outer : ℕ} {lines : List (Scoping Occurrence)}
    (h : NumberedFrom depth lines) (hle : outer ≤ depth) : NumberedFrom outer lines :=
  fun line hline o ho => Nat.le_trans hle (h line hline o ho)

theorem numberedFrom_writes (kind : Kind) (source : List Occurrence) (depth : ℕ)
    (address : List Branch) : NumberedFrom depth (writes kind source depth address) := by
  induction kind generalizing source depth address with
  | integer _ _ | float _ | bool | string | bytes | enum _ | message _ | oneof _ _ _ =>
    simp [writes,NumberedFrom]
  | repeated element ih =>
    have hinner := (ih [⟨.item depth,some address⟩] (depth + 1) (.element :: address)).le
      depth.le_succ
    simp only [writes,NumberedFrom,List.forall_mem_cons,List.forall_mem_append]
    exact ⟨by simp,by simp [Local.depth],hinner,by simp⟩
  | map key value ihKey ihValue =>
    have hkey := (ihKey [⟨.key depth,some address⟩] (depth + 1) (.key :: address)).le depth.le_succ
    have hvalue := (ihValue [⟨.item depth,some address⟩] (depth + 1) (.value :: address)).le
      depth.le_succ
    simp only [writes,NumberedFrom,List.forall_mem_cons,List.forall_mem_append]
    exact ⟨by simp,by simp [Local.depth],⟨hkey,hvalue⟩,by simp⟩

theorem numberedFrom_reads (kind : Kind) (depth : ℕ) (address : List Branch) :
    NumberedFrom depth (reads kind depth address) := by
  induction kind generalizing depth address with
  | integer _ _ | float _ | bool | string | bytes | enum _ | message _ | oneof _ _ _ =>
    simp [reads,NumberedFrom]
  | repeated element ih =>
    have hinner := (ih (depth + 1) (.element :: address)).le depth.le_succ
    simp only [reads,NumberedFrom,List.forall_mem_cons,List.forall_mem_append]
    exact ⟨by simp [Local.depth],by simp [Local.depth],by simp,hinner,by simp⟩
  | map key value ihKey ihValue =>
    have hkey := (ihKey (depth + 1) (.key :: address)).le depth.le_succ
    have hvalue := (ihValue (depth + 1) (.value :: address)).le depth.le_succ
    simp only [reads,NumberedFrom,List.forall_mem_cons,List.forall_mem_append]
    exact ⟨by simp [Local.depth],by simp [Local.depth],by simp,hkey,by simp [Local.depth],hvalue,
      by simp⟩

/-! ## Runs -/

section Runs
variable {nests : List (Option ℕ) → Local → Prop} {s t u : Site}
  {a b : List (Scoping Occurrence)}

theorem Site.Runs.append (ha : s.Runs nests a t) (hb : t.Runs nests b u) :
    s.Runs nests (a ++ b) u := by
  induction ha with
  | nil s => exact hb
  | cons hline _ ih => exact .cons hline (ih hb)

theorem Site.Step.run {line : Scoping Occurrence} (h : s.Step nests line t) :
    s.Runs nests [line] t := .cons h (.nil t)

/-- Bindings of other names do not hide what was bound before them. -/
theorem owner?_append {new visible : List Occurrence} {around : List (List Occurrence × Option ℕ)}
    {v : Local} (h : ∀ o ∈ new, o.name ≠ v) :
    (Site.mk (new ++ visible) around).owner? v = (Site.mk visible around).owner? v := by
  have hnone : new.find? (fun o => o.name = v) = none :=
    List.find?_eq_none.mpr fun o ho => by simpa using h o ho
  rw [Site.owner?,Site.owner?,List.find?_append,hnone,Option.none_or]

theorem owner?_cons_self {o : Occurrence} {visible : List Occurrence}
    {around : List (List Occurrence × Option ℕ)} :
    (Site.mk (o :: visible) around).owner? o.name = o.owner := by
  simp [Site.owner?]

theorem owner?_cons_of_ne {o : Occurrence} {visible : List Occurrence}
    {around : List (List Occurrence × Option ℕ)} {v : Local} (h : o.name ≠ v) :
    (Site.mk (o :: visible) around).owner? v = (Site.mk visible around).owner? v :=
  have hnew : ∀ x ∈ [o], x.name ≠ v := List.forall_mem_singleton.mpr h
  owner?_append hnew

end Runs

def Below (depth : ℕ) (around : List (List Occurrence × Option ℕ)) : Prop :=
  ∀ loop, some loop ∈ around.map Prod.snd → loop < depth

theorem Below.inner {depth : ℕ} {around : List (List Occurrence × Option ℕ)} (h : Below depth around)
    (visible : List Occurrence) : Below (depth + 1) ((visible,some depth) :: around) := by
  intro loop hloop
  rcases List.mem_cons.mp hloop with he | hloop
  · cases he
    exact Nat.lt_succ_self depth
  · exact Nat.lt_succ_of_lt (h loop hloop)

section Steps
variable {nests : List (Option ℕ) → Local → Prop} {visible uses binds : List Occurrence}
  {around : List (List Occurrence × Option ℕ)}
  (huses : ∀ o ∈ uses, (Site.mk visible around).owner? o.name = o.owner)
  (hbinds : ∀ o ∈ binds, nests (around.map Prod.snd) o.name)
include huses hbinds

theorem step_inside : (Site.mk visible around).Step nests ⟨uses,binds,.inside⟩
    ⟨binds ++ visible,around⟩ := ⟨huses,hbinds,rfl⟩

theorem step_opens (loop : Option ℕ) :
    (Site.mk visible around).Step nests ⟨uses,binds,.opens loop⟩
      ⟨binds ++ visible,(visible,loop) :: around⟩ := ⟨huses,hbinds,rfl⟩

end Steps

theorem step_closes {nests : List (Option ℕ) → Local → Prop} (inner visible : List Occurrence)
    (loop : Option ℕ) (around : List (List Occurrence × Option ℕ)) :
    (Site.mk inner ((visible,loop) :: around)).Step nests ⟨[],[],.closes⟩ ⟨visible,around⟩ :=
  ⟨by simp,by simp,rfl⟩

/-- Lines that write a value leave the scope as it was, wherever they stand. -/
theorem runs_writes {kind : Kind} {source visible : List Occurrence} {depth : ℕ}
    {address : List Branch} {around : List (List Occurrence × Option ℕ)}
    (hsource : ∀ o ∈ source, (Site.mk visible around).owner? o.name = o.owner)
    (hbelow : Below depth around) :
    (Site.mk visible around).Runs DeeperThan (writes kind source depth address)
      ⟨visible,around⟩ := by
  induction kind generalizing source visible depth address around with
  | integer _ _ | float _ | bool | string | bytes | enum _ | message _ | oneof _ _ _ =>
    exact (step_inside hsource (by simp)).run
  | repeated element ih =>
    have hitem : ∀ o ∈ [(⟨.item depth,some address⟩ : Occurrence)],
        DeeperThan (around.map Prod.snd) o.name := List.forall_mem_singleton.mpr hbelow
    refine .cons (step_inside hsource (by simp)) (.cons (step_opens hsource hitem _) ?_)
    refine (ih ?_ (hbelow.inner visible)).append (step_closes _ visible _ around).run
    exact List.forall_mem_singleton.mpr owner?_cons_self
  | map key value ihKey ihValue =>
    have hbinds : ∀ o ∈ [(⟨.key depth,some address⟩ : Occurrence),⟨.item depth,some address⟩],
        DeeperThan (around.map Prod.snd) o.name := by
      refine List.forall_mem_cons.mpr ⟨hbelow,List.forall_mem_singleton.mpr hbelow⟩
    refine .cons (step_inside hsource (by simp)) (.cons (step_opens hsource hbinds _) ?_)
    have hinner := hbelow.inner visible
    refine ((ihKey ?_ hinner).append (ihValue ?_ hinner)).append (step_closes _ visible _ around).run
    · exact List.forall_mem_singleton.mpr owner?_cons_self
    · refine List.forall_mem_singleton.mpr ((owner?_cons_of_ne ?_).trans owner?_cons_self)
      rintro ⟨⟩

/-- The bindings of an inner container hide none of an outer one. -/
theorem owner?_append_inner {new visible : List Occurrence}
    {around : List (List Occurrence × Option ℕ)} {v : Local}
    (h : ∀ o ∈ new, o.name.depth = v.depth + 1) :
    (Site.mk (new ++ visible) around).owner? v = (Site.mk visible around).owner? v := by
  refine owner?_append fun o ho he => ?_
  have hdepth := h o ho
  rw [he] at hdepth
  omega

/-- Lines that read a value bind variables of their own, all numbered by the depth of the value, and
what is handed on refers to these. -/
theorem runs_reads (kind : Kind) {depth : ℕ} (address : List Branch) (visible : List Occurrence)
    {around : List (List Occurrence × Option ℕ)} (hbelow : Below depth around) :
    ∃ new, (Site.mk visible around).Runs DeeperOrKey (reads kind depth address)
        ⟨new ++ visible,around⟩ ∧ (∀ o ∈ new, o.name.depth = depth) ∧
      ∀ o ∈ handed kind depth address,
        (Site.mk (new ++ visible) around).owner? o.name = o.owner := by
  induction kind generalizing depth address visible around with
  | integer _ _ | float _ | bool | string | bytes | enum _ | message _ | oneof _ _ _ =>
    exact ⟨[],.nil _,by simp,by simp [handed]⟩
  | repeated element ih =>
    let size : Occurrence := ⟨.size depth,some address⟩
    let items : Occurrence := ⟨.array depth,some address⟩
    have hsize : ∀ o ∈ [size], DeeperOrKey (around.map Prod.snd) o.name :=
      List.forall_mem_singleton.mpr (.inl hbelow)
    have hitems : ∀ o ∈ [items], DeeperOrKey (around.map Prod.snd) o.name :=
      List.forall_mem_singleton.mpr (.inl hbelow)
    have hsizeUsed : (Site.mk (items :: size :: visible) around).owner? size.name = size.owner :=
      (owner?_cons_of_ne (by rintro ⟨⟩)).trans owner?_cons_self
    obtain ⟨new,hruns,hnew,hhanded⟩ := ih (.element :: address) (items :: size :: visible)
      (hbelow.inner (items :: size :: visible))
    refine ⟨[items,size],?_,by simp [items,size,Local.depth],
      List.forall_mem_singleton.mpr owner?_cons_self⟩
    refine .cons (step_inside (by simp) hsize) (.cons (step_inside ?_ hitems) (.cons
      (step_opens ?_ (by simp) _) (hruns.append (.cons (step_inside ?_ (by simp))
        (step_closes _ _ _ around).run))))
    · exact List.forall_mem_singleton.mpr owner?_cons_self
    · exact List.forall_mem_singleton.mpr hsizeUsed
    · exact List.forall_mem_cons.mpr
        ⟨(owner?_append_inner hnew).trans owner?_cons_self,hhanded⟩
  | map key value ihKey ihValue =>
    let size : Occurrence := ⟨.size depth,some address⟩
    let entries : Occurrence := ⟨.map depth,some address⟩
    let entry : Occurrence := ⟨.key depth,some address⟩
    have hsize : ∀ o ∈ [size], DeeperOrKey (around.map Prod.snd) o.name :=
      List.forall_mem_singleton.mpr (.inl hbelow)
    have hentries : ∀ o ∈ [entries], DeeperOrKey (around.map Prod.snd) o.name :=
      List.forall_mem_singleton.mpr (.inl hbelow)
    have hsizeUsed : (Site.mk (entries :: size :: visible) around).owner? size.name =
        size.owner := (owner?_cons_of_ne (by rintro ⟨⟩)).trans owner?_cons_self
    have hinner := hbelow.inner (entries :: size :: visible)
    obtain ⟨keys,hkeyRuns,hkeys,hkeyHanded⟩ :=
      ihKey (.key :: address) (entries :: size :: visible) hinner
    obtain ⟨values,hvalueRuns,hvalues,hvalueHanded⟩ :=
      ihValue (.value :: address) (entry :: (keys ++ entries :: size :: visible)) hinner
    -- The key is the one variable that is bound in a loop and not deeper than it.
    have hentry : ∀ o ∈ [entry],
        DeeperOrKey (some depth :: around.map Prod.snd) o.name :=
      List.forall_mem_singleton.mpr (.inr ⟨depth,_,rfl,rfl,hbelow⟩)
    refine ⟨[entries,size],?_,by simp [entries,size,Local.depth],
      List.forall_mem_singleton.mpr owner?_cons_self⟩
    refine .cons (step_inside (by simp) hsize) (.cons (step_inside ?_ hentries) (.cons
      (step_opens ?_ (by simp) _) (hkeyRuns.append (.cons (step_inside hkeyHanded hentry)
        (hvalueRuns.append (.cons (step_inside ?_ (by simp))
          (step_closes _ _ _ around).run))))))
    · exact List.forall_mem_singleton.mpr owner?_cons_self
    · exact List.forall_mem_singleton.mpr hsizeUsed
    · refine List.forall_mem_cons.mpr ⟨?_,List.forall_mem_cons.mpr ⟨?_,hvalueHanded⟩⟩
      · have hskip : entry.name ≠ entries.name := by rintro ⟨⟩
        exact (owner?_append_inner hvalues).trans <| (owner?_cons_of_ne hskip).trans <|
          (owner?_append_inner hkeys).trans owner?_cons_self
      · exact (owner?_append_inner hvalues).trans owner?_cons_self

/-! ## Fields -/

/-- The lines that write a field. The arm of a oneof binds the variable that is handed to the code for
its value. -/
def fieldWrites : Kind → List (Scoping Occurrence)
  | .message _ =>
    [⟨[],[],.opens none⟩,⟨[],[],.inside⟩,⟨[],[],.inside⟩,⟨[],[],.closes⟩]
  | .oneof _ _ inner => ⟨[],[⟨.item 1,none⟩],.opens none⟩ :: ⟨[],[],.inside⟩ ::
      (writes inner [⟨.item 1,none⟩] 2 [] ++ [⟨[],[],.closes⟩])
  | kind => writes kind [] 1 []

/-- The lines that read a field, all in one block. -/
def fieldReads (kind : Kind) : List (Scoping Occurrence) :=
  let value := match kind with
    | .oneof _ _ inner => inner
    | kind => kind
  ⟨[],[],.opens none⟩ ::
    (reads value 1 [] ++ [⟨handed value 1 [],[],.inside⟩,⟨[],[],.closes⟩])

def callerSite (bound : List Local) : Site := ⟨bound.map fun v => ⟨v,none⟩,[]⟩

theorem owner?_callerSite (bound : List Local) (v : Local) : (callerSite bound).owner? v = none := by
  rw [Site.owner?,Option.bind_eq_none_iff]
  intro o ho
  obtain ⟨w,-,rfl⟩ := List.mem_map.mp (List.mem_of_find?_eq_some ho)
  rfl

theorem below_nil (depth : ℕ) : Below depth [] := fun _ hloop => absurd hloop List.not_mem_nil

theorem below_block (depth : ℕ) (visible : List Occurrence) : Below depth [(visible,none)] := by
  intro loop hloop
  simp at hloop

theorem runs_fieldWrites (kind : Kind) (bound : List Local) :
    (callerSite bound).Runs DeeperThan (fieldWrites kind) (callerSite bound) := by
  let outer := bound.map fun v => (⟨v,none⟩ : Occurrence)
  have hopen : ∀ visible : List Occurrence, (Site.mk visible []).Step DeeperThan
      ⟨[],[],.opens none⟩ ⟨visible,[(visible,none)]⟩ :=
    fun visible => step_opens (by simp) (by simp) none
  cases kind with
  | message name =>
    exact .cons (hopen outer) (.cons (step_inside (by simp) (by simp)) (.cons
      (step_inside (by simp) (by simp)) (step_closes _ outer none []).run))
  | oneof group number inner =>
    let member : Occurrence := ⟨.item 1,none⟩
    have hmember : ∀ o ∈ [member], (Site.mk (member :: outer) [(outer,none)]).owner? o.name =
        o.owner := List.forall_mem_singleton.mpr owner?_cons_self
    have hbinds : ∀ o ∈ [member], DeeperThan [] o.name :=
      List.forall_mem_singleton.mpr fun _ hloop => absurd hloop List.not_mem_nil
    exact .cons (step_opens (by simp) hbinds none) (.cons (step_inside (by simp) (by simp))
      ((runs_writes hmember (below_block 2 outer)).append (step_closes _ outer none []).run))
  | _ => exact runs_writes (by simp) (below_nil 1)

theorem runs_fieldReads (kind : Kind) (bound : List Local) :
    (callerSite bound).Runs DeeperOrKey (fieldReads kind) (callerSite bound) := by
  let outer := bound.map fun v => (⟨v,none⟩ : Occurrence)
  have hblock : ∀ value : Kind, (callerSite bound).Runs DeeperOrKey (⟨[],[],.opens none⟩ ::
      (reads value 1 [] ++ [⟨handed value 1 [],[],.inside⟩,⟨[],[],.closes⟩]))
      (callerSite bound) := by
    intro value
    obtain ⟨new,hruns,-,hhanded⟩ := runs_reads value [] outer (below_block 1 outer)
    exact .cons (step_opens (by simp) (by simp) none) (hruns.append (.cons
      (step_inside hhanded (by simp)) (step_closes _ outer none []).run))
  exact hblock _

end SchemaCodec.Codec
