import SchemaCodec.DirectoryPath
import SchemaCodec.Proofs.Distinct
import SchemaCodec.Proofs.FileTree

/-! # What writing changes in a tree

A file is written at the place that its path spells and nowhere else: of several files that are
written there the last one stays, and a device keeps nothing. Before that, directories are made
where the beginnings of the path lead. All else stays as it is.
-/
namespace SchemaCodec
open Text

namespace FileTree
variable {tree tree' : FileTree} {place : Place} {path : String} {content : List UInt8}

theorem node?_eq_file_iff : tree.node? place = some (.file content) ↔
    tree.files.lookup place = some content := by
  unfold node?
  cases tree.files.lookup place with
  | some c => simp
  | none =>
    simp only [reduceCtorEq,iff_false]
    split_ifs <;> simp

theorem node?_eq_device_iff : tree.node? place = some .device ↔
    tree.files.lookup place = none ∧ place ∈ tree.devices := by
  unfold node?
  cases tree.files.lookup place with
  | some c => simp
  | none =>
    by_cases hdevice : place ∈ tree.devices
    · simp [hdevice]
    · simp only [List.contains_iff_mem,hdevice,if_false,and_false,iff_false]
      split_ifs <;> simp

/-! ## Making directories -/

/-- A tree after directories are made where beginnings of a path lead. -/
structure MakesOnly (tree : FileTree) (path : List Char) (tree' : FileTree) : Prop where
  workingDirectory : tree'.workingDirectory = tree.workingDirectory
  files : tree'.files = tree.files
  devices : tree'.devices = tree.devices
  kept : tree.directories ⊆ tree'.directories
  made : ∀ d ∈ tree'.directories, d ∈ tree.directories ∨
    ∃ front, front <+: path ∧ d = tree.placeOf (String.ofList front)

theorem placeOf_congr (h : tree'.workingDirectory = tree.workingDirectory) (path : String) :
    tree'.placeOf path = tree.placeOf path := by
  rw [placeOf,placeOf,h]

theorem MakesOnly.refl (tree : FileTree) (path : List Char) : tree.MakesOnly path tree :=
  ⟨rfl,rfl,rfl,List.Subset.refl _,fun _ hd => .inl hd⟩

theorem MakesOnly.trans {tree'' : FileTree} {front path : List Char} (h : tree.MakesOnly front tree')
    (hfront : front <+: path) (h' : tree'.MakesOnly path tree'') : tree.MakesOnly path tree'' := by
  refine ⟨h'.workingDirectory.trans h.workingDirectory,h'.files.trans h.files,
    h'.devices.trans h.devices,List.Subset.trans h.kept h'.kept,fun d hd => ?_⟩
  rcases h'.made d hd with hd | ⟨more,hmore,rfl⟩
  · rcases h.made d hd with hd | ⟨begun,hbegun,rfl⟩
    · exact .inl hd
    · exact .inr ⟨begun,hbegun.trans hfront,rfl⟩
  · exact .inr ⟨more,hmore,placeOf_congr h.workingDirectory _⟩

theorem MakesOnly.mono {path path' : List Char} (h : tree.MakesOnly path tree')
    (hfronts : ∀ front, front <+: path →
      ∃ front', front' <+: path' ∧ tree.placeOf (String.ofList front) =
        tree.placeOf (String.ofList front')) : tree.MakesOnly path' tree' := by
  refine ⟨h.workingDirectory,h.files,h.devices,h.kept,fun d hd => (h.made d hd).imp_right ?_⟩
  rintro ⟨front,hfront,rfl⟩
  exact hfronts front hfront

theorem makesOnly_makeDirectory (h : tree.makeDirectory path = .ok tree') :
    tree.MakesOnly path.toList tree' := by
  obtain ⟨place,hplace,h⟩ := bind_eq_ok.mp h
  have hspelled := locate_eq_ok hplace
  split at h
  · cases h
  · split at h
    · cases h
      refine ⟨rfl,rfl,rfl,List.subset_cons_self _ _,fun d hd => ?_⟩
      rcases List.mem_cons.mp hd with rfl | hd
      · exact .inr ⟨path.toList,List.prefix_refl _,by rw [String.ofList_toList,hspelled]⟩
      · exact .inl hd
    · cases h
    · cases h

theorem makesOnly_ensureDirectory (h : tree.ensureDirectory path = .ok tree') :
    tree.MakesOnly path.toList tree' := by
  unfold ensureDirectory at h
  split at h
  · rename_i made hmade
    cases h
    exact makesOnly_makeDirectory hmade
  · split at h
    · cases h
      exact .refl tree _
    · cases h

theorem dropSlashes_begins (path : List Char) : dropSlashes path <+: path := by
  unfold dropSlashes
  split
  · exact List.prefix_refl _
  · rw [← List.reverse_suffix,List.reverse_reverse]
    exact List.dropWhile_suffix _

theorem splitPath_begins (path : String) : (splitPath path).1.toList <+: path.toList := by
  rw [splitPath,String.toList_ofList]
  exact (dropSlashes_begins _).trans (List.take_prefix _ _)

theorem outer?_begins {head name : String} (h : outer? path = some (head,name)) :
    head.toList <+: path.toList := by
  unfold outer? at h
  by_cases hlast : (splitPath path).2 = ""
  · simp only [if_pos hlast,Option.ite_none_left_eq_some,Option.some.injEq,Prod.mk.injEq] at h
    rw [← h.2.1]
    exact (splitPath_begins _).trans (splitPath_begins path)
  · simp only [if_neg hlast,Option.ite_none_left_eq_some,Option.some.injEq,Prod.mk.injEq] at h
    rw [← h.2.1]
    exact splitPath_begins path

theorem makesOnly_ensureDirectories {depth : ℕ}
    (h : tree.ensureDirectories depth path = .ok tree') : tree.MakesOnly path.toList tree' := by
  induction depth generalizing path tree' with
  | zero => exact makesOnly_ensureDirectory h
  | succ depth ih =>
    rw [ensureDirectories] at h
    cases houter : outer? path with
    | none =>
      rw [houter] at h
      exact makesOnly_ensureDirectory h
    | some outer =>
      obtain ⟨head,name⟩ := outer
      have hprefix := outer?_begins houter
      rw [houter] at h
      dsimp only at h
      cases hfind : tree.find head with
      | ok node =>
        rw [hfind] at h
        exact makesOnly_ensureDirectory h
      | error cause =>
        rw [hfind] at h
        obtain ⟨outside,houtside,h⟩ : ∃ outside, tree.MakesOnly head.toList outside ∧
            (if name = "." then .ok outside else outside.ensureDirectory path) = .ok tree' := by
          cases hmade : tree.ensureDirectories depth head with
          | ok outside =>
            rw [hmade] at h
            exact ⟨outside,ih hmade,h⟩
          | error cause =>
            rw [hmade] at h
            cases cause with
            | alreadyExists => exact ⟨tree,.refl tree _,h⟩
            | _ => cases h
        split at h
        · cases h
          exact houtside.trans hprefix (.refl _ _)
        · exact houtside.trans hprefix (makesOnly_ensureDirectory h)

/-- For a file that no directory is named for, nothing is made but where the empty path leads. -/
theorem makesOnly_directoryOf {depth : ℕ} (h : tree.ensureDirectories depth
    (if directoryOf path = "" then "." else directoryOf path) = .ok tree') :
    tree.MakesOnly path.toList tree' := by
  by_cases hempty : directoryOf path = ""
  · rw [if_pos hempty] at h
    refine (makesOnly_ensureDirectories h).mono fun front hfront => ⟨[],List.nil_prefix,?_⟩
    have hdot : front <+: ['.'] := hfront
    rcases List.prefix_cons_iff.mp hdot with rfl | ⟨more,rfl,hmore⟩
    · rfl
    · rw [List.prefix_nil.mp hmore]
      simp [placeOf,splitString,split,isAbsolute,follow]
  · rw [if_neg hempty] at h
    exact (makesOnly_ensureDirectories h).mono fun front hfront =>
      ⟨front,hfront.trans (splitPath_begins path),rfl⟩

/-! ## Writing files -/

theorem lookup_map_content (files : List (Place × List UInt8)) (place other : Place) :
    (files.map fun (p,c) => (p,if p = place then content else c)).lookup other =
      (files.lookup other).map fun c => if other = place then content else c := by
  have hupdate := lookup_map_update (fun p c => if p = place then content else c) files other
  convert hupdate

/-- A file is written at the place of its path, unless a device stands there. -/
theorem write_eq_ok (h : tree.write path content = .ok tree') :
    tree'.workingDirectory = tree.workingDirectory ∧ tree'.devices = tree.devices ∧
    tree'.directories = tree.directories ∧
    ∀ other, tree'.files.lookup other =
      if other = tree.placeOf path ∧ tree.node? other ≠ some .device then some content
      else tree.files.lookup other := by
  obtain ⟨place,hplace,h⟩ := bind_eq_ok.mp h
  have hspelled := locate_eq_ok hplace
  rw [← hspelled]
  cases hnode : tree.node? place with
  | none =>
    rw [hnode] at h
    dsimp only at h
    split at h
    · cases h
      refine ⟨rfl,rfl,rfl,fun other => ?_⟩
      have hnone : tree.files.lookup place = none := by
        by_contra hne
        obtain ⟨c,hc⟩ := Option.ne_none_iff_exists'.mp hne
        rw [node?_eq_file_iff.mpr hc] at hnode
        cases hnode
      rw [List.lookup_append]
      by_cases hother : other = place
      · subst hother
        simp [hnone,hnode]
      · rw [List.lookup_cons,beq_false_of_ne hother]
        simp [hother]
    · cases h
    · cases h
  | some node =>
    rw [hnode] at h
    cases node with
    | directory => cases h
    | device =>
      cases h
      refine ⟨rfl,rfl,rfl,fun other => (if_neg ?_).symm⟩
      rintro ⟨rfl,hno⟩
      exact hno hnode
    | file old =>
      cases h
      refine ⟨rfl,rfl,rfl,fun other => ?_⟩
      rw [lookup_map_content]
      by_cases hother : other = place
      · subst hother
        simp [node?_eq_file_iff.mp hnode,hnode]
      · simp [hother]

/-- What was last written at a place. -/
def lastContent? (tree : FileTree) (written : List (String × List UInt8)) (place : Place) :
    Option (List UInt8) :=
  (written.reverse.find? fun w => tree.placeOf w.1 = place).map (·.2)

/-- What a file at a place holds after some files were written: what was written there last, or what
it held before. A device keeps nothing. -/
def contentAfter? (tree : FileTree) (written : List (String × List UInt8)) (place : Place) :
    Option (List UInt8) :=
  if tree.node? place = some .device then none
  else (tree.lastContent? written place).or (tree.files.lookup place)

/-- A tree after some files were written, each given by its path and content. -/
structure Wrote (tree : FileTree) (written : List (String × List UInt8)) (tree' : FileTree) :
    Prop where
  workingDirectory : tree'.workingDirectory = tree.workingDirectory
  devices : tree'.devices = tree.devices
  kept : tree.directories ⊆ tree'.directories
  made : ∀ d ∈ tree'.directories, d ∈ tree.directories ∨ ∃ w ∈ written,
    ∃ front, front <+: w.1.toList ∧ d = tree.placeOf (String.ofList front)
  files : ∀ place, tree'.files.lookup place = tree.contentAfter? written place

theorem Wrote.refl (tree : FileTree) : tree.Wrote [] tree := by
  refine ⟨rfl,rfl,List.Subset.refl _,fun _ hd => .inl hd,fun place => ?_⟩
  unfold contentAfter?
  split
  · rename_i hdevice
    exact (node?_eq_device_iff.mp hdevice).1
  · rfl

/-- A device stays one, and nothing becomes one. -/
theorem Wrote.device_iff {written : List (String × List UInt8)} (h : tree.Wrote written tree')
    (place : Place) : tree'.node? place = some .device ↔ tree.node? place = some .device := by
  rw [node?_eq_device_iff,h.devices,h.files,contentAfter?]
  by_cases hdevice : tree.node? place = some .device
  · simp [hdevice,(node?_eq_device_iff.mp hdevice).2]
  · simp only [hdevice,if_false,Option.or_eq_none_iff,iff_false]
    rintro ⟨⟨-,hnone⟩,hmem⟩
    exact hdevice (node?_eq_device_iff.mpr ⟨hnone,hmem⟩)

theorem lastContent?_concat (written : List (String × List UInt8)) (path : String)
    (content : List UInt8) (place : Place) :
    tree.lastContent? (written ++ [(path,content)]) place =
      if place = tree.placeOf path then some content else tree.lastContent? written place := by
  rw [lastContent?,List.reverse_append,List.reverse_singleton,List.singleton_append,
    List.find?_cons]
  by_cases hplace : place = tree.placeOf path
  · simp [hplace]
  · simp [hplace,Ne.symm hplace,lastContent?]

/-- What is made or written for a file: its content, and directories on its way. -/
theorem Wrote.concat {written : List (String × List UInt8)} {tree'' : FileTree}
    (h : tree.Wrote written tree') (hwrite : tree'.writeBelow path content = .ok tree'') :
    tree.Wrote (written ++ [(path,content)]) tree'' := by
  obtain ⟨made,hmade,hwrite⟩ := bind_eq_ok.mp hwrite
  have hmakes := makesOnly_directoryOf hmade
  obtain ⟨hworking,hdevices,hdirectories,hlookup⟩ := write_eq_ok hwrite
  have hworking' := hmakes.workingDirectory.trans h.workingDirectory
  refine ⟨hworking.trans hworking',hdevices.trans (hmakes.devices.trans h.devices),?_,?_,?_⟩
  · rw [hdirectories]
    exact List.Subset.trans h.kept hmakes.kept
  · intro d hd
    rw [hdirectories] at hd
    rcases hmakes.made d hd with hd | ⟨front,hfront,rfl⟩
    · rcases h.made d hd with hd | ⟨w,hw,hfront⟩
      · exact .inl hd
      · exact .inr ⟨w,List.mem_append_left _ hw,hfront⟩
    · exact .inr ⟨(path,content),List.mem_append_right _ (List.mem_singleton_self _),front,hfront,
        placeOf_congr h.workingDirectory _⟩
  · intro place
    have hdevice : made.node? place = some .device ↔ tree.node? place = some .device := by
      rw [← h.device_iff,node?_eq_device_iff,node?_eq_device_iff,hmakes.files,hmakes.devices]
    rw [hlookup,hmakes.files,placeOf_congr hworking',h.files,contentAfter?,contentAfter?,
      lastContent?_concat]
    by_cases hkept : tree.node? place = some .device
    · simp [hdevice.mpr hkept,hkept]
    · have hopen := mt hdevice.mp hkept
      by_cases hplace : place = tree.placeOf path
      · simp only [if_pos hplace,if_pos (And.intro hplace hopen),if_neg hkept,Option.some_or]
      · simp only [if_neg hplace,if_neg (mt And.left hplace),if_neg hkept]

end FileTree

end SchemaCodec
