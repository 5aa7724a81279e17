import PagePress.Files.Disk
import PagePress.Proofs.Files.Place
import PagePress.Proofs.Partial

/-!
# What operations do to a tree

Every operation that succeeds does one thing at the place of its path, and none of them takes a
directory away.
-/
namespace PagePress.FileTree

variable {tree later : FileTree} {path : String} {place directory : Place} {name : String}
  {content : Content}

/-- Two paths that lead to the same entry are the same to all operations. -/
theorem find_congr {path other : String} (same : tree.locate path = tree.locate other) :
    tree.find path = tree.find other := by
  unfold find
  rw [same]

theorem write_congr {path other : String} (same : tree.locate path = tree.locate other)
    (content : Content) : tree.write path content = tree.write other content := by
  unfold write
  rw [same]

theorem write_eq_ok_iff : tree.write path content = .ok later ↔
    ∃ directory name, tree.Names path directory name ∧ Path.endsInStroke path = false ∧
      tree.get? (name :: directory) ≠ some .directory ∧
      later = tree.put (name :: directory) (.file content) := by
  constructor
  · intro written
    obtain ⟨goal, located, written⟩ := of_bind_eq_ok written
    cases goal with
    | reached place => cases written
    | named directory name stroke =>
      dsimp only at written
      split at written
      · cases written
      next plain =>
        obtain ⟨place, inside, written⟩ := of_bind_eq_ok written
        obtain ⟨names, rfl, rfl⟩ := Names.of_child located inside
        split at written
        · cases written
        next free =>
          exact ⟨directory, name, names, by simpa using plain, free, (Except.ok.inj written).symm⟩
  · rintro ⟨directory, name, names, plain, free, rfl⟩
    simp only [write, names.located, plain, child_of_short names.short, bind, Except.bind]
    rfl

theorem find_eq_ok_iff {node : FileNode} : tree.find path = .ok node ↔
    (∃ place, tree.locate path = .ok (.reached place) ∧ node = .directory) ∨
    ∃ directory name, tree.Names path directory name ∧ tree.get? (name :: directory) = some node ∧
      (node = .directory ∨ Path.endsInStroke path = false) := by
  constructor
  · intro found
    obtain ⟨goal, located, found⟩ := of_bind_eq_ok found
    cases goal with
    | reached place => exact .inl ⟨place, located, (Except.ok.inj found).symm⟩
    | named directory name stroke =>
      obtain ⟨place, inside, found⟩ := of_bind_eq_ok found
      obtain ⟨names, rfl, rfl⟩ := Names.of_child located inside
      refine .inr ⟨directory, name, names, ?_⟩
      split at found
      · cases found
      next here =>
        rw [← Except.ok.inj found]
        exact ⟨here, .inl rfl⟩
      next content here =>
        split at found
        · cases found
        next plain =>
          rw [← Except.ok.inj found]
          exact ⟨here, .inr (by simpa using plain)⟩
  · rintro (⟨place, located, rfl⟩ | ⟨directory, name, names, here, plain⟩)
    · simp [find, located, bind, Except.bind, pure, Except.pure]
    · cases node with
      | directory =>
        simp [find, names.located, child_of_short names.short, here, bind, Except.bind, pure,
          Except.pure]
      | file content =>
        replace plain := plain.resolve_left FileNode.noConfusion
        simp [find, names.located, child_of_short names.short, here, plain, bind, Except.bind, pure,
          Except.pure]

theorem readText_eq_ok_iff {text : String} : tree.readText path = .ok text ↔
    ∃ content, tree.find path = .ok (.file content) ∧ content.text? = some text := by
  unfold readText
  cases tree.find path with
  | error e => simp [bind, Except.bind]
  | ok node =>
    cases node with
    | directory => simp [bind, Except.bind]
    | file content =>
      cases readable : content.text? with
      | none => simp [bind, Except.bind, readable]
      | some other => simp [bind, Except.bind, pure, Except.pure, readable]

theorem createDirectory_eq_ok_iff : tree.createDirectory path = .ok later ↔
    ∃ directory name, tree.Names path directory name ∧ tree.get? (name :: directory) = none ∧
      later = tree.put (name :: directory) .directory := by
  constructor
  · intro made
    obtain ⟨goal, located, made⟩ := of_bind_eq_ok made
    cases goal with
    | reached place => cases made
    | named directory name stroke =>
      dsimp only at made
      obtain ⟨place, inside, made⟩ := of_bind_eq_ok made
      obtain ⟨names, rfl, rfl⟩ := Names.of_child located inside
      split at made
      · cases made
      next free => exact ⟨directory, name, names, free, (Except.ok.inj made).symm⟩
  · rintro ⟨directory, name, names, free, rfl⟩
    simp [createDirectory, names.located, child_of_short names.short, free, bind, Except.bind, pure,
      Except.pure]

theorem remove_eq_ok_iff : tree.remove path = .ok later ↔
    ∃ directory name content, tree.Names path directory name ∧ Path.endsInStroke path = false ∧
      tree.get? (name :: directory) = some (.file content) ∧
      later = tree.erase (name :: directory) := by
  constructor
  · intro removed
    obtain ⟨goal, located, removed⟩ := of_bind_eq_ok removed
    cases goal with
    | reached place => cases removed
    | named directory name stroke =>
      obtain ⟨place, inside, removed⟩ := of_bind_eq_ok removed
      obtain ⟨names, rfl, rfl⟩ := Names.of_child located inside
      split at removed
      · cases removed
      · cases removed
      next content here =>
        split at removed
        · cases removed
        next plain =>
          exact ⟨directory, name, content, names, by simpa using plain, here,
            (Except.ok.inj removed).symm⟩
  · rintro ⟨directory, name, content, names, plain, here, rfl⟩
    simp [remove, names.located, child_of_short names.short, here, plain, bind, Except.bind, pure,
      Except.pure]

theorem rename_eq_ok_iff {source target : String} : tree.rename source target = .ok later ↔
    ∃ fromDirectory fromName toDirectory toName content,
      tree.Names source fromDirectory fromName ∧ tree.Names target toDirectory toName ∧
      Path.endsInStroke source = false ∧ Path.endsInStroke target = false ∧
      tree.get? (fromName :: fromDirectory) = some (.file content) ∧
      tree.get? (toName :: toDirectory) ≠ some .directory ∧
      later = (tree.erase (fromName :: fromDirectory)).put (toName :: toDirectory)
        (.file content) := by
  constructor
  · intro renamed
    obtain ⟨fromGoal, fromLocated, renamed⟩ := of_bind_eq_ok renamed
    obtain ⟨toGoal, toLocated, renamed⟩ := of_bind_eq_ok renamed
    cases fromGoal with
    | reached place => cases renamed
    | named fromDirectory fromName fromStroke =>
      cases toGoal with
      | reached place => cases renamed
      | named toDirectory toName toStroke =>
        obtain ⟨old, fromInside, renamed⟩ := of_bind_eq_ok renamed
        obtain ⟨fromNames, rfl, rfl⟩ := Names.of_child fromLocated fromInside
        split at renamed
        · cases renamed
        · cases renamed
        next content here =>
          obtain ⟨new, toInside, renamed⟩ := of_bind_eq_ok renamed
          obtain ⟨toNames, rfl, rfl⟩ := Names.of_child toLocated toInside
          split at renamed
          · cases renamed
          next plain =>
            split at renamed
            · cases renamed
            next free =>
              rw [Bool.or_eq_true, not_or] at plain
              exact ⟨fromDirectory, fromName, toDirectory, toName, content, fromNames, toNames,
                by simpa using plain.1, by simpa using plain.2, here, free,
                (Except.ok.inj renamed).symm⟩
  · rintro ⟨fromDirectory, fromName, toDirectory, toName, content, fromNames, toNames, fromPlain,
      toPlain, here, free, rfl⟩
    simp only [rename, fromNames.located, toNames.located, child_of_short fromNames.short,
      child_of_short toNames.short, here, fromPlain, toPlain, bind, Except.bind]
    rfl

theorem isPresent_eq_true_iff : tree.isPresent path = true ↔ ∃ node, tree.find path = .ok node := by
  unfold isPresent
  cases tree.find path <;> simp

/-- What is found under a name in a directory stands at the place of the name. -/
theorem get?_of_find_join (plain : Path.Plain name) {node : FileNode}
    (found : tree.find (Path.join path name) = .ok node) :
    tree.get? (name :: tree.placeOf path) = some node := by
  rcases find_eq_ok_iff.1 found with ⟨place, located, -⟩ | ⟨directory, own, names, here, -⟩
  · obtain ⟨-, follows⟩ := follows_of_locate located
    have last : (Path.names (Path.join path name)).getLast? = some name := by
      rw [Path.names_join plain, List.getLast?_concat]
    cases follows with
    | start none => simp [none] at last
    | points shape point =>
      rw [shape, List.getLast?_concat] at last
      obtain rfl := Option.some.inj last
      exact absurd point (not_or.2 ⟨plain.here, plain.up⟩)
  · rw [← placeOf_join plain, names.placeOf]
    exact here

/-! ### What changes -/

theorem find_file_eq_ok_iff : tree.find path = .ok (.file content) ↔
    ∃ directory name, tree.Names path directory name ∧ Path.endsInStroke path = false ∧
      tree.get? (name :: directory) = some (.file content) := by
  rw [find_eq_ok_iff]
  constructor
  · rintro (⟨_, -, ⟨⟩⟩ | ⟨directory, name, names, here, plain⟩)
    exact ⟨directory, name, names, plain.resolve_left FileNode.noConfusion, here⟩
  · rintro ⟨directory, name, names, plain, here⟩
    exact .inr ⟨directory, name, names, here, .inr plain⟩

theorem of_write (written : tree.write path content = .ok later) :
    Kept tree later ∧ later.find path = .ok (.file content) ∧
      ∀ place, later.file? place =
        if place = tree.placeOf path then some content else tree.file? place := by
  obtain ⟨directory, name, names, plain, free, rfl⟩ := write_eq_ok_iff.1 written
  have filled : name :: directory ≠ [] := List.cons_ne_nil _ _
  have kept : Kept tree (tree.put (name :: directory) (.file content)) := .put filled (.inr free)
  refine ⟨kept, find_file_eq_ok_iff.2 ⟨directory, name, names.kept kept, plain, ?_⟩,
    fun place => ?_⟩
  · rw [get?_put filled, if_pos rfl]
  · rw [file?_put_file filled, names.placeOf]

/-- A file that is found at a path stands at the place of the path. -/
theorem file?_of_find (found : tree.find path = .ok (.file content)) :
    tree.file? (tree.placeOf path) = some content := by
  obtain ⟨directory, name, names, -, here⟩ := find_file_eq_ok_iff.1 found
  rw [names.placeOf]
  exact file?_eq_some.2 here

/-- A file is written at the place of its path and nowhere else. -/
theorem get?_of_write (written : tree.write path content = .ok later) (place : Place) :
    later.get? place =
      if place = tree.placeOf path then some (.file content) else tree.get? place := by
  obtain ⟨directory, name, names, -, -, rfl⟩ := write_eq_ok_iff.1 written
  rw [get?_put (List.cons_ne_nil _ _), names.placeOf]

/-- Where a file can be written that is not found at its path, there is nothing. -/
theorem get?_of_absent (absent : tree.isPresent path = false)
    (written : tree.write path content = .ok later) : tree.get? (tree.placeOf path) = none := by
  obtain ⟨directory, name, names, plain, free, -⟩ := write_eq_ok_iff.1 written
  rw [names.placeOf]
  cases here : tree.get? (name :: directory) with
  | none => rfl
  | some node =>
    have found : tree.find path = .ok node :=
      find_eq_ok_iff.2 (.inr ⟨directory, name, names, here, .inr plain⟩)
    rw [isPresent_eq_true_iff.2 ⟨node, found⟩] at absent
    cases absent

theorem of_remove (removed : tree.remove path = .ok later) :
    Kept tree later ∧ ∀ place, later.file? place =
      if place = tree.placeOf path then none else tree.file? place := by
  obtain ⟨directory, name, content, names, -, here, rfl⟩ := remove_eq_ok_iff.1 removed
  have filled : name :: directory ≠ [] := List.cons_ne_nil _ _
  refine ⟨.erase filled (by simp [here]), fun place => ?_⟩
  rw [file?_erase filled, names.placeOf]

/-- Nothing but a missing file keeps a removal from its work. -/
theorem remove_of_find (found : tree.find path = .ok (.file content)) :
    ∃ later, tree.remove path = .ok later := by
  obtain ⟨directory, name, names, plain, here⟩ := find_file_eq_ok_iff.1 found
  exact ⟨_, remove_eq_ok_iff.2 ⟨directory, name, content, names, plain, here, rfl⟩⟩

theorem of_rename {source target : String} (renamed : tree.rename source target = .ok later) :
    Kept tree later ∧ ∃ content, tree.file? (tree.placeOf source) = some content ∧
      later.find target = .ok (.file content) ∧
      ∀ place, later.file? place =
        if place = tree.placeOf target then some content
        else if place = tree.placeOf source then none else tree.file? place := by
  obtain ⟨inner, old, outer, new, content, out, onto, -, plain, here, free, rfl⟩ :=
    rename_eq_ok_iff.1 renamed
  have filled : ∀ (name : String) (directory : Place), name :: directory ≠ [] :=
    fun _ _ => List.cons_ne_nil _ _
  have vacant : (tree.erase (old :: inner)).get? (new :: outer) ≠ some .directory := by
    rw [get?_erase (filled old inner)]
    split
    · simp
    · exact free
  have kept : Kept tree ((tree.erase (old :: inner)).put (new :: outer) (.file content)) :=
    .trans (.erase (filled old inner) (by simp [here])) (.put (filled new outer) (.inr vacant))
  rw [out.placeOf, onto.placeOf]
  refine ⟨kept, content, file?_eq_some.2 here, ?_, fun place => ?_⟩
  · refine find_file_eq_ok_iff.2 ⟨outer, new, onto.kept kept, plain, ?_⟩
    rw [get?_put (filled new outer), if_pos rfl]
  · rw [file?_put_file (filled new outer), file?_erase (filled old inner)]

/-! ### Making directories -/

/-- No file has changed, and no directory is gone. -/
structure Grown (tree later : FileTree) : Prop extends Kept tree later where
  files : ∀ place, later.file? place = tree.file? place

theorem Grown.refl (tree : FileTree) : Grown tree tree := ⟨.refl tree, fun _ => rfl⟩

theorem Grown.trans {last : FileTree} (first : Grown tree later) (second : Grown later last) :
    Grown tree last :=
  ⟨first.toKept.trans second.toKept, fun place => (second.files place).trans (first.files place)⟩

/-- Whatever was there is there still. -/
theorem Grown.get? (grown : Grown tree later) {node : FileNode}
    (here : tree.get? place = some node) : later.get? place = some node := by
  cases node with
  | directory => exact grown.directories place here
  | file content =>
    rw [← file?_eq_some, grown.files]
    exact file?_eq_some.2 here

/-- Only a directory can have come to a place where there was nothing. -/
theorem Grown.eq_directory (grown : Grown tree later) (free : tree.get? place = none)
    {node : FileNode} (here : later.get? place = some node) : node = .directory := by
  cases node with
  | directory => rfl
  | file content =>
    have old := file?_eq_some.2 here
    rw [grown.files] at old
    exact absurd (free.symm.trans (file?_eq_some.1 old)) nofun

theorem grown_createDirectory (made : tree.createDirectory path = .ok later) :
    Grown tree later := by
  obtain ⟨directory, name, -, free, rfl⟩ := createDirectory_eq_ok_iff.1 made
  have filled : name :: directory ≠ [] := List.cons_ne_nil _ _
  exact ⟨.put filled (.inl rfl), fun _ => file?_put_directory filled free⟩

theorem grown_createNested (tree : FileTree) (paths : List String) :
    Grown tree (tree.createNested paths).1 := by
  induction paths with
  | nil => exact .refl tree
  | cons path parents ih =>
    rw [createNested]
    split
    next made => exact grown_createDirectory made
    · split
      next outer _ first => rwa [first] at ih
      next outer first =>
        rw [first] at ih
        split
        next made => exact ih.trans (grown_createDirectory made)
        · exact ih
    · exact .refl tree

theorem grown_createDirectories (tree : FileTree) (path : String) :
    Grown tree (tree.createDirectories path).1 :=
  grown_createNested tree _

/-- All names of a path can be followed if there is a directory at its end. -/
theorem walk_of_find (found : tree.find path = .ok .directory) :
    tree.walk (tree.start path) (Path.names path) = .ok (tree.placeOf path) := by
  suffices inside : ∃ place, tree.walk (tree.start path) (Path.names path) = .ok place by
    obtain ⟨place, walked⟩ := inside
    rwa [placeOf, ← climb_of_walk walked]
  rcases find_eq_ok_iff.1 found with ⟨place, located, -⟩ | ⟨directory, name, names, there, -⟩
  · obtain ⟨-, follows⟩ := follows_of_locate located
    cases follows with
    | start none => exact ⟨_, by rw [none]; rfl⟩
    | points shape point walked entered =>
      exact ⟨place, by rw [shape, walk_append_of_walk walked, entered]⟩
  · obtain ⟨-, follows⟩ := follows_of_locate names.located
    cases follows with
    | named shape here up walked =>
      exact ⟨_, by
        rw [shape, walk_append_of_walk walked, enter_of_directory names.short there here up]⟩

theorem find_of_createDirectory (made : tree.createDirectory path = .ok later) :
    later.find path = .ok .directory := by
  obtain ⟨directory, name, names, free, rfl⟩ := createDirectory_eq_ok_iff.1 made
  have filled : name :: directory ≠ [] := List.cons_ne_nil _ _
  refine find_eq_ok_iff.2 (.inr ⟨directory, name, names.kept (.put filled (.inl rfl)), ?_, .inl rfl⟩)
  rw [get?_put filled, if_pos rfl]

theorem isDirectory_eq_true_iff : tree.isDirectory path = true ↔
    tree.find path = .ok .directory := by
  unfold isDirectory
  split <;> simp_all

/-- The first of some directories that could be made is there. -/
theorem find_of_createNested {parents : List String}
    (made : tree.createNested (path :: parents) = (later, .ok ())) :
    later.find path = .ok .directory := by
  have present : ∀ {outer : FileTree} {e : FileError},
      (outer, if outer.isDirectory path then Except.ok () else .error e) = (later, .ok ()) →
        later.find path = .ok .directory := by
    intro outer e ended
    obtain ⟨rfl, ended⟩ := Prod.mk.inj ended
    split at ended
    next there => exact isDirectory_eq_true_iff.1 there
    · cases ended
  rw [createNested] at made
  split at made
  next first =>
    obtain rfl := congrArg Prod.fst made
    exact find_of_createDirectory first
  · split at made
    · cases congrArg Prod.snd made
    · split at made
      next second =>
        obtain rfl := congrArg Prod.fst made
        exact find_of_createDirectory second
      · exact present made
  · exact present made

/-- A directory that could be made can be entered. -/
theorem walk_of_createDirectories (made : tree.createDirectories path = (later, .ok ())) :
    later.walk (later.start path) (Path.names path) = .ok (later.placeOf path) := by
  unfold createDirectories at made
  cases shape : Path.withParents path with
  | nil =>
    have points : ∀ name ∈ Path.names path, name = "." :=
      fun name => Path.eq_point_of_steps (Path.steps_of_withParents shape)
    have walked : later.walk (later.start path) (Path.names path) = .ok _ := walk_points points
    rwa [placeOf, ← climb_of_walk walked]
  | cons first parents =>
    rw [shape, Path.eq_of_withParents shape] at made
    exact walk_of_find (find_of_createNested made)

/-- Nothing is made where the directory is there. -/
theorem createDirectories_of_find (found : tree.find path = .ok .directory) :
    tree.createDirectories path = (tree, .ok ()) := by
  have already : tree.createDirectory path = .error .alreadyExists := by
    rcases find_eq_ok_iff.1 found with ⟨place, located, -⟩ | ⟨directory, name, names, there, -⟩
    · simp [createDirectory, located, bind, Except.bind]
    · simp [createDirectory, names.located, child_of_short names.short, there, bind, Except.bind]
  unfold createDirectories
  cases shape : Path.withParents path with
  | nil => rfl
  | cons first parents =>
    rw [Path.eq_of_withParents shape, createNested, already]
    simp only [isDirectory_eq_true_iff.2 found, if_true]

/-! ### Programs on a tree -/

section Programs

variable {α β : Type}

@[simp] theorem run_pure (a : α) (tree : FileTree) :
    (pure a : StateM FileTree α).run tree = (a, tree) := rfl

@[simp] theorem run_bind (x : StateM FileTree α) (f : α → StateM FileTree β) (tree : FileTree) :
    (x >>= f).run tree = (f (x.run tree).1).run (x.run tree).2 := rfl

@[simp] theorem run_isPresent (path : String) (tree : FileTree) :
    (Disk.isPresent path : StateM FileTree Bool).run tree = (tree.isPresent path, tree) := rfl

@[simp] theorem run_readText (path : String) (tree : FileTree) :
    (Disk.readText path : StateM FileTree _).run tree = (tree.readText path, tree) := rfl

@[simp] theorem run_createDirectories (path : String) (tree : FileTree) :
    (Disk.createDirectories path : StateM FileTree _).run tree =
      ((tree.createDirectories path).2, (tree.createDirectories path).1) := rfl

/-- The tree after an operation that may fail. -/
def orElse (tree : FileTree) : Except FileError FileTree → FileTree
  | .ok later => later
  | .error _ => tree

theorem run_attempt (operation : FileTree → Except FileError FileTree) (tree : FileTree) :
    (attempt operation).run tree =
      ((operation tree).map fun _ => (), tree.orElse (operation tree)) := by
  simp only [attempt, StateT.run]
  cases operation tree <;> rfl

@[simp] theorem run_write (path : String) (content : Content) (tree : FileTree) :
    (Disk.write path content : StateM FileTree _).run tree =
      ((tree.write path content).map fun _ => (), tree.orElse (tree.write path content)) :=
  run_attempt _ tree

@[simp] theorem run_rename (source target : String) (tree : FileTree) :
    (Disk.rename source target : StateM FileTree _).run tree =
      ((tree.rename source target).map fun _ => (), tree.orElse (tree.rename source target)) :=
  run_attempt _ tree

@[simp] theorem run_remove (path : String) (tree : FileTree) :
    (Disk.remove path : StateM FileTree _).run tree =
      ((tree.remove path).map fun _ => (), tree.orElse (tree.remove path)) :=
  run_attempt _ tree

end Programs

end PagePress.FileTree
