import SchemaCodec.Proofs.Rendering.Brackets
import SchemaCodec.Proofs.Rendering.LineScopes

/-! # Local variables are not captured

Every variable in the code for a value refers to the binding of the container that emitted it, whatever
kinds are nested in it, as long as the caller leaves the numbers from the depth of the value on to it.
-/
namespace SchemaCodec.Codec

theorem le_of_names {lines : List String} {tagged : List (Scoping Occurrence)} {depth : ℕ}
    (hlines : lines.map readScoping = tagged.map Scoping.names) (h : NumberedFrom depth tagged) :
    ∀ line ∈ lines, ∀ v ∈ (readScoping line).binds, depth ≤ v.depth := by
  intro line hline v hv
  obtain ⟨t,ht,he⟩ := List.mem_map.mp (hlines ▸ List.mem_map_of_mem hline)
  rw [← he] at hv
  obtain ⟨o,ho,rfl⟩ := List.mem_map.mp hv
  exact h t ht o ho

/-- In code for a value every variable refers to the binding of the container that emitted it, or to
the caller's if it comes from the caller, and so does what is handed on to the caller. Bindings are
numbered from the depth of the value, and higher than every loop around them, except for the key that
the loop of a map reads. All this holds for the code of fields as well, where the caller is an arm of a
oneof or the method itself. -/
theorem capture_free (files : List SchemaFile) :
    (∀ kind depth bound, holdsOneof kind = false →
      (∀ expr byRef, ∃ w, writer kind (.given expr byRef) depth = .ok w ∧
        let tagged := writes kind ((locals expr.toList).map fun v => ⟨v,none⟩) depth []
        w.lines.map readScoping = tagged.map Scoping.names ∧
        (∀ line ∈ w.lines, ∀ v ∈ (readScoping line).binds, depth ≤ v.depth) ∧
        (callerSite bound).Runs DeeperThan tagged (callerSite bound)) ∧
      ∀ assign : String → String,
        (∀ value, ∀ v ∈ locals (assign value).toList, depth ≤ v.depth → v ∈ locals value.toList) →
        (∀ name ∈ namedTypes kind, (TypeIndex.ofFiles files).contains name = true) →
        ∃ r front value s, reader (TypeIndex.ofFiles files) kind (.given assign) depth = .ok r ∧
          r.lines = front ++ [assign value] ∧
          front.map readScoping = (reads kind depth []).map Scoping.names ∧
          (∀ line ∈ front, ∀ v ∈ (readScoping line).binds, depth ≤ v.depth) ∧
          (callerSite bound).Runs DeeperOrKey (reads kind depth []) s ∧
          ∀ v ∈ locals (assign value).toList,
            s.owner? v = if v.depth < depth then none else some []) ∧
    ∀ m field kind bound, NamesOf field kind →
      (∀ code, fieldWriter (TypeIndex.ofFiles files) m field kind = .ok code →
        code.lines.map readScoping = (fieldWrites kind).map Scoping.names ∧
        (callerSite bound).Runs DeeperThan (fieldWrites kind) (callerSite bound)) ∧
      ∀ code, fieldReader (TypeIndex.ofFiles files) m field kind = .ok code →
        code.lines.map readScoping = (fieldReads kind).map Scoping.names ∧
        (callerSite bound).Runs DeeperOrKey (fieldReads kind) (callerSite bound) := by
  refine ⟨fun kind depth bound hkind => ⟨fun expr byRef => ?_,fun assign hassign hnamed => ?_⟩,
    fun m field kind bound hn => ⟨fun code h => ?_,fun code h => ?_⟩⟩
  · obtain ⟨w,hw⟩ := exists_writer hkind (.given expr byRef) depth
    have hnames : ((locals expr.toList).map fun v => (⟨v,none⟩ : Occurrence)).map Occurrence.name =
        locals expr.toList := by
      rw [List.map_map]
      exact List.map_id _
    have hlines := readScoping_writer hw _ hnames []
    refine ⟨w,hw,hlines,le_of_names hlines (numberedFrom_writes _ _ _ _),
      runs_writes (fun o ho => ?_) (below_nil depth)⟩
    obtain ⟨v,-,rfl⟩ := List.mem_map.mp ho
    exact owner?_callerSite bound v
  · obtain ⟨r,hr⟩ := exists_reader hkind hnamed (.given assign) depth
    obtain ⟨front,value,hlines,hfront,hvalue⟩ := readScoping_reader hr []
    obtain ⟨new,hruns,hnew,hhanded⟩ :=
      runs_reads kind [] (callerSite bound).visible (below_nil depth)
    refine ⟨r,front,value,_,hr,hlines,hfront,
      le_of_names hfront (numberedFrom_reads kind depth []),hruns,fun v hv => ?_⟩
    split
    · next hless =>
      have hskip : ∀ o ∈ new, o.name ≠ v := by
        rintro o ho rfl
        exact absurd (hnew o ho) (Nat.ne_of_lt hless)
      exact (owner?_append hskip).trans (owner?_callerSite bound v)
    · next hdeep =>
      obtain ⟨o,ho,rfl⟩ := List.mem_map.mp (hvalue ▸ hassign value v hv (Nat.le_of_not_lt hdeep))
      exact (hhanded o ho).trans (owner_of_mem_handed ho)
  · exact ⟨readScoping_fieldWriter h hn,runs_fieldWrites kind bound⟩
  · exact ⟨readScoping_fieldReader h hn,runs_fieldReads kind bound⟩

def assignF (value : String) : String := "x.f = " ++ value ++ ";"

theorem locals_assignF (value : String) : locals (assignF value).toList = locals value.toList := by
  rw [assignF,String.toList_append,String.toList_append,locals_between (by decide) (by decide)]
  exact List.append_nil _

/-- A map from texts to lists of numbers. -/
def listsByName : Kind := .map .string (.repeated (.integer 32 true))

theorem fieldCode_listsByName : (∃ code, fieldWriter (TypeIndex.ofFiles spreadFiles) spreadMessage
      memberField (.oneof "c" 1 listsByName) = .ok code) ∧
    ∃ code, fieldReader (TypeIndex.ofFiles spreadFiles) spreadMessage memberField
      (.oneof "c" 1 listsByName) = .ok code :=
  ⟨⟨_,rfl⟩,⟨_,rfl⟩⟩

/-- The variable of an arm is handed to the code for a map, which binds others. -/
theorem listsByName_free :
    (∃ w r front value s, writer listsByName (.given "v1" true) 2 = .ok w ∧
      (callerSite [.item 1]).Runs DeeperThan (writes listsByName [⟨.item 1,none⟩] 2 [])
        (callerSite [.item 1]) ∧
      reader (TypeIndex.ofFiles spreadFiles) listsByName (.given assignF) 2 = .ok r ∧
      r.lines = front ++ [assignF value] ∧
      (callerSite [.item 1]).Runs DeeperOrKey (reads listsByName 2 []) s ∧
      ∀ v ∈ locals (assignF value).toList, s.owner? v = if v.depth < 2 then none else some []) ∧
    (∃ code, fieldWriter (TypeIndex.ofFiles spreadFiles) spreadMessage memberField
        (.oneof "c" 1 listsByName) = .ok code ∧
      code.lines.map readScoping = (fieldWrites (.oneof "c" 1 listsByName)).map Scoping.names) ∧
    ∃ code, fieldReader (TypeIndex.ofFiles spreadFiles) spreadMessage memberField
        (.oneof "c" 1 listsByName) = .ok code ∧
      code.lines.map readScoping = (fieldReads (.oneof "c" 1 listsByName)).map Scoping.names := by
  obtain ⟨hcode,hfields⟩ := capture_free spreadFiles
  have hnames : NamesOf memberField (.oneof "c" 1 listsByName) := by
    refine ⟨by decide,?_⟩
    rintro g number inner ⟨⟩
    decide
  obtain ⟨hfieldWrites,hfieldReads⟩ := hfields spreadMessage _ _ [] hnames
  obtain ⟨⟨written,hwritten⟩,read,hread⟩ := fieldCode_listsByName
  refine ⟨?_,⟨written,hwritten,(hfieldWrites written hwritten).1⟩,
    read,hread,(hfieldReads read hread).1⟩
  obtain ⟨hwrites,hreads⟩ := hcode listsByName 2 [.item 1] (by decide)
  obtain ⟨w,hw,-,-,hruns⟩ := hwrites "v1" true
  obtain ⟨r,front,value,s,hr,hlines,-,-,hreader,hhanded⟩ := hreads assignF
    (fun value v hv _ => locals_assignF value ▸ hv) (by simp [listsByName,namedTypes])
  have hmentions : (locals "v1".toList).map (fun v => (⟨v,none⟩ : Occurrence)) =
      [⟨.item 1,none⟩] := by decide
  exact ⟨w,r,front,value,s,hw,hmentions ▸ hruns,hr,hlines,hreader,hhanded⟩

def bindK1 (value : String) : String := "let k1 = " ++ value ++ ";"

theorem locals_bindK1 (value : String) :
    locals (bindK1 value).toList = .key 1 :: locals value.toList := by
  rw [bindK1,String.toList_append,String.toList_append,locals_between (by decide) (by decide)]
  exact congrArg (Local.key 1 :: ·) (List.append_nil (locals value.toList))

/-- The loop of a map binds the key that it reads, which is not numbered higher than the loop. A caller
that declares a variable for what it is handed may choose any number below those of the code. -/
theorem shallow_bindings :
    (∃ r, (∀ value, ∀ v ∈ locals (assignF value).toList, 1 ≤ v.depth → v ∈ locals value.toList) ∧
      reader (TypeIndex.ofFiles []) (.map .string (.integer 32 true)) (.given assignF) 1 = .ok r ∧
      r.lines = ["let n1 = d.decode_map(Kind::String, Kind::I32)?;",
        "let mut m1 = HashMap::with_capacity(n1);","for _ in 0..n1 \x7b",
        "    let k1 = d.decode_string()?;","    m1.insert(k1, d.decode_i32()?);","\x7d",
        "x.f = m1;"] ∧
      (readScoping "for _ in 0..n1 \x7b").border = .opens (some 1) ∧
      (readScoping "    let k1 = d.decode_string()?;").binds = [.key 1] ∧
      ¬ DeeperThan [some 1] (.key 1)) ∧
    ∃ r, (∀ value, ∀ v ∈ locals (bindK1 value).toList, 2 ≤ v.depth → v ∈ locals value.toList) ∧
      reader (TypeIndex.ofFiles []) .bool (.given bindK1) 2 = .ok r ∧
      r.lines = ["let k1 = d.decode_bool()?;"] ∧
      (readScoping "let k1 = d.decode_bool()?;").binds = [.key 1] ∧
      ¬ 2 ≤ (Local.key 1).depth := by
  refine ⟨⟨_,fun value v hv _ => locals_assignF value ▸ hv,rfl,by decide,by decide,by decide,
    fun h => ?_⟩,⟨_,fun value v hv hdepth => ?_,rfl,by decide,by decide,by decide⟩⟩
  · exact absurd (h 1 List.mem_cons_self) (Nat.lt_irrefl 1)
  · rw [locals_bindK1] at hv
    rcases List.mem_cons.mp hv with rfl | hv
    · exact absurd hdepth (by decide)
    · exact hv

end SchemaCodec.Codec
