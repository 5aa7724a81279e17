import PagePress.Files.Tree
import PagePress.Proofs.Files.Path
import PagePress.Proofs.Partial

/-!
# Where paths lead

The place that a path names can be told from the path alone. A path that leads there once leads there
for as long as no directory goes.
-/
namespace PagePress.FileTree

/-- Where a name leads from a directory, whatever stands there. -/
def climb (place : Place) (name : String) : Place :=
  if name = "." then place else if name = ".." then place.tail else name :: place

/-- Where a path begins. -/
def start (tree : FileTree) (path : String) : Place :=
  if Path.isAbsolute path then [] else tree.current

/-- The place that a path names. -/
def placeOf (tree : FileTree) (path : String) : Place :=
  (Path.names path).foldl climb (tree.start path)

/-- What the file at a place holds, if there is one. -/
def file? (tree : FileTree) (place : Place) : Option Content :=
  match tree.get? place with
  | some (.file content) => some content
  | _ => none

variable {tree later : FileTree} {path : String} {place other directory : Place} {name : String}
  {content : Content}

theorem file?_eq_some :
    tree.file? place = some content ↔ tree.get? place = some (.file content) := by
  unfold file?
  split <;> simp_all

/-! ### One change -/

theorem get?_put (filled : place ≠ []) (node : FileNode) :
    (tree.put place node).get? other = if other = place then some node else tree.get? other := by
  unfold get? put
  by_cases top : other = []
  · rw [if_pos top, if_pos top, if_neg (top ▸ Ne.symm filled)]
  · rw [if_neg top, if_neg top, List.lookup_cons]
    by_cases same : other = place
    · simp [same]
    · have differ : (other == place) = false := beq_false_of_ne same
      have kept := lookup_filter_keys (· != place) other tree.nodes
      simpa [differ, same] using kept

theorem get?_erase (filled : place ≠ []) :
    (tree.erase place).get? other = if other = place then none else tree.get? other := by
  unfold get? erase
  by_cases top : other = []
  · rw [if_pos top, if_pos top, if_neg (top ▸ Ne.symm filled)]
  · have kept := lookup_filter_keys (· != place) other tree.nodes
    rw [if_neg top, if_neg top]
    by_cases same : other = place <;> simpa [same] using kept

@[simp] theorem placeOf_put (node : FileNode) :
    (tree.put place node).placeOf path = tree.placeOf path := rfl

theorem file?_put_file (filled : place ≠ []) :
    (tree.put place (.file content)).file? other =
      if other = place then some content else tree.file? other := by
  unfold file?
  rw [get?_put filled]
  by_cases same : other = place <;> simp [same]

theorem file?_erase (filled : place ≠ []) :
    (tree.erase place).file? other = if other = place then none else tree.file? other := by
  unfold file?
  rw [get?_erase filled]
  by_cases same : other = place <;> simp [same]

/-- A directory where there was nothing is no change to any file. -/
theorem file?_put_directory (filled : place ≠ []) (free : tree.get? place = none) :
    (tree.put place .directory).file? other = tree.file? other := by
  unfold file?
  rw [get?_put filled]
  by_cases same : other = place <;> simp [same, free]

/-! ### The way through a tree -/

/-- Relative paths begin where they did, and no directory is gone. -/
structure Kept (tree later : FileTree) : Prop where
  current : later.current = tree.current
  directories : ∀ place, tree.get? place = some .directory → later.get? place = some .directory

theorem Kept.refl (tree : FileTree) : Kept tree tree := ⟨rfl, fun _ here => here⟩

theorem Kept.trans {last : FileTree} (first : Kept tree later) (second : Kept later last) :
    Kept tree last :=
  ⟨second.current.trans first.current,
    fun place here => second.directories place (first.directories place here)⟩

theorem Kept.put (filled : place ≠ []) {node : FileNode}
    (free : node = .directory ∨ tree.get? place ≠ some .directory) :
    Kept tree (tree.put place node) where
  current := rfl
  directories other here := by
    rw [get?_put filled]
    split
    next same =>
      rcases free with rfl | free
      · rfl
      · exact absurd (same ▸ here) free
    · exact here

theorem Kept.erase (filled : place ≠ []) (free : tree.get? place ≠ some .directory) :
    Kept tree (tree.erase place) where
  current := rfl
  directories other here := by
    have elsewhere : other ≠ place := fun same => free (same ▸ here)
    rw [get?_erase filled, if_neg elsewhere]
    exact here

theorem Kept.placeOf (kept : Kept tree later) (path : String) :
    later.placeOf path = tree.placeOf path := by
  unfold FileTree.placeOf start
  rw [kept.current]

theorem child_eq_ok_iff : child directory name = .ok place ↔
    name.utf8ByteSize ≤ maxNameBytes ∧ place = name :: directory := by
  unfold child
  split
  next long => simp [Nat.not_le.2 long]
  next short => simp [Nat.not_lt.1 short, eq_comm]

theorem child_of_short (short : name.utf8ByteSize ≤ maxNameBytes) :
    child directory name = .ok (name :: directory) :=
  child_eq_ok_iff.2 ⟨short, rfl⟩

theorem climb_of_enter (entered : tree.enter directory name = .ok place) :
    place = climb directory name := by
  unfold enter at entered
  unfold climb
  split at entered
  next here => rw [if_pos here, Except.ok.inj entered]
  next notHere =>
    rw [if_neg notHere]
    split at entered
    next up => rw [if_pos up, Except.ok.inj entered]
    next notUp =>
      rw [if_neg notUp]
      split at entered
      · cases entered
      next inside =>
        split at entered
        · cases entered
        · cases entered
        · rw [← Except.ok.inj entered]
          exact (child_eq_ok_iff.1 inside).2

theorem Kept.enter (kept : Kept tree later) (entered : tree.enter directory name = .ok place) :
    later.enter directory name = .ok place := by
  unfold FileTree.enter at entered ⊢
  by_cases here : name = "."
  · rwa [if_pos here] at entered ⊢
  by_cases up : name = ".."
  · rwa [if_neg here, if_pos up] at entered ⊢
  rw [if_neg here, if_neg up] at entered ⊢
  split at entered
  · cases entered
  · split at entered
    · cases entered
    · cases entered
    next found =>
      rw [kept.directories _ found]
      exact entered

theorem walk_cons_eq_ok {names : List String}
    (walked : tree.walk directory (name :: names) = .ok place) :
    ∃ next, tree.enter directory name = .ok next ∧ tree.walk next names = .ok place := by
  rw [walk] at walked
  cases entered : tree.enter directory name with
  | error e => rw [entered] at walked; cases walked
  | ok next => rw [entered] at walked; exact ⟨next, rfl, walked⟩

theorem walk_append_of_walk {before : List String}
    (walked : tree.walk directory before = .ok place) (last : String) :
    tree.walk directory (before ++ [last]) = tree.enter place last := by
  induction before generalizing directory with
  | nil =>
    obtain rfl := Except.ok.inj walked
    rw [List.nil_append, walk]
    cases tree.enter directory last <;> rfl
  | cons name before ih =>
    obtain ⟨next, entered, walked⟩ := walk_cons_eq_ok walked
    rw [List.cons_append, walk, entered]
    exact ih walked

theorem walk_points {names : List String} (points : ∀ name ∈ names, name = ".") :
    tree.walk directory names = .ok directory := by
  induction names with
  | nil => rfl
  | cons name names ih =>
    rw [walk, points name List.mem_cons_self]
    exact ih fun name member => points name (List.mem_cons_of_mem _ member)

theorem enter_of_directory (short : name.utf8ByteSize ≤ maxNameBytes)
    (there : tree.get? (name :: directory) = some .directory) (here : name ≠ ".")
    (up : name ≠ "..") : tree.enter directory name = .ok (name :: directory) := by
  rw [enter, if_neg here, if_neg up, child_of_short short]
  simp only [there]

theorem climb_of_walk {names : List String} (walked : tree.walk directory names = .ok place) :
    place = names.foldl climb directory := by
  induction names generalizing directory with
  | nil => exact (Except.ok.inj walked).symm
  | cons name names ih =>
    obtain ⟨next, entered, walked⟩ := walk_cons_eq_ok walked
    rw [List.foldl_cons, ← climb_of_enter entered]
    exact ih walked

theorem Kept.walk (kept : Kept tree later) {names : List String}
    (walked : tree.walk directory names = .ok place) : later.walk directory names = .ok place := by
  induction names generalizing directory with
  | nil => exact walked
  | cons name names ih =>
    obtain ⟨next, entered, walked⟩ := walk_cons_eq_ok walked
    rw [FileTree.walk, kept.enter entered]
    exact ih walked

/-- A path that can be followed at all. -/
structure Usable (path : String) : Prop where
  nul : path.toList.contains '\x00' = false
  filled : path.isEmpty = false
  short : path.utf8ByteSize < maxPathBytes

/-- Where a path leads, by what its last name is. -/
inductive Follows (tree : FileTree) (path : String) : Goal → Prop where
  | start (none : Path.names path = []) : Follows tree path (.reached (tree.start path))
  | points {before : List String} {last : String} {directory place : Place}
      (shape : Path.names path = before ++ [last]) (point : last = "." ∨ last = "..")
      (walked : tree.walk (tree.start path) before = .ok directory)
      (entered : tree.enter directory last = .ok place) : Follows tree path (.reached place)
  | named {before : List String} {last : String} {directory : Place}
      (shape : Path.names path = before ++ [last]) (here : last ≠ ".") (up : last ≠ "..")
      (walked : tree.walk (tree.start path) before = .ok directory) :
      Follows tree path (.named directory last (Path.endsInStroke path))

theorem follows_of_locate {goal : Goal} (located : tree.locate path = .ok goal) :
    Usable path ∧ Follows tree path goal := by
  unfold locate at located
  split at located
  · cases located
  next nul =>
    split at located
    · cases located
    next filled =>
      split at located
      · cases located
      next short =>
        refine ⟨⟨by simpa using nul, by simpa using filled, Nat.not_le.1 short⟩, ?_⟩
        simp only [← start.eq_1] at located
        split at located
        next none =>
          rw [← Except.ok.inj located]
          exact .start (List.reverse_eq_nil_iff.1 none)
        next last before shape =>
          replace shape : Path.names path = before.reverse ++ [last] := by
            rw [← List.reverse_cons, ← shape, List.reverse_reverse]
          cases walked : tree.walk (tree.start path) before.reverse with
          | error e => rw [walked] at located; cases located
          | ok directory =>
            simp only [walked, bind, Except.bind, pure, Except.pure] at located
            by_cases point : last = "." ∨ last = ".."
            · rw [if_pos (by simpa using point)] at located
              cases entered : tree.enter directory last with
              | error e => rw [entered] at located; cases located
              | ok place =>
                rw [entered] at located
                rw [← Except.ok.inj located]
                exact .points shape point walked entered
            · rw [if_neg (by simpa using point)] at located
              rw [← Except.ok.inj located]
              exact .named shape (not_or.1 point).1 (not_or.1 point).2 walked

theorem locate_of_follows (usable : Usable path) {goal : Goal} (follows : Follows tree path goal) :
    tree.locate path = .ok goal := by
  unfold locate
  rw [usable.nul, usable.filled, if_neg Bool.false_ne_true, if_neg Bool.false_ne_true,
    if_neg (Nat.not_le.2 usable.short)]
  cases follows with
  | start none => simp [none, start]
  | points shape point walked entered =>
    simp only [← start.eq_1, shape, List.reverse_append, List.reverse_singleton,
      List.singleton_append, List.reverse_reverse, walked, bind, Except.bind, pure, Except.pure,
      entered]
    rw [if_pos (by simpa using point)]
  | named shape here up walked =>
    simp [← start.eq_1, shape, walked, bind, Except.bind, pure, Except.pure, here, up]

theorem Kept.start (kept : Kept tree later) (path : String) :
    later.start path = tree.start path := by
  unfold FileTree.start
  rw [kept.current]

theorem Kept.locate (kept : Kept tree later) {goal : Goal} (located : tree.locate path = .ok goal) :
    later.locate path = .ok goal := by
  obtain ⟨usable, follows⟩ := follows_of_locate located
  refine locate_of_follows usable ?_
  cases follows with
  | start none => exact kept.start path ▸ .start none
  | points shape point walked entered =>
    exact .points shape point (kept.start path ▸ kept.walk walked) (kept.enter entered)
  | named shape here up walked =>
    exact .named shape here up (kept.start path ▸ kept.walk walked)

/-! ### The entry that a path names -/

/-- A path names an entry of a directory that it leads to. -/
structure Names (tree : FileTree) (path : String) (directory : Place) (name : String) : Prop where
  located : tree.locate path = .ok (.named directory name (Path.endsInStroke path))
  short : name.utf8ByteSize ≤ maxNameBytes

theorem Names.kept (names : tree.Names path directory name) (kept : Kept tree later) :
    later.Names path directory name :=
  ⟨kept.locate names.located, names.short⟩

theorem stroke_of_locate {stroke : Bool}
    (located : tree.locate path = .ok (.named directory name stroke)) :
    stroke = Path.endsInStroke path := by
  obtain ⟨-, follows⟩ := follows_of_locate located
  cases follows with
  | named shape here up walked => rfl

theorem Names.shape (names : tree.Names path directory name) :
    ∃ before, Path.names path = before ++ [name] ∧ name ≠ "." ∧ name ≠ ".." ∧
      directory = before.foldl climb (tree.start path) := by
  obtain ⟨-, follows⟩ := follows_of_locate names.located
  cases follows with
  | named shape here up walked => exact ⟨_, shape, here, up, climb_of_walk walked⟩

theorem Names.placeOf (names : tree.Names path directory name) :
    tree.placeOf path = name :: directory := by
  obtain ⟨before, shape, here, up, inside⟩ := names.shape
  rw [FileTree.placeOf, shape, List.foldl_append, ← inside, List.foldl_cons, List.foldl_nil, climb,
    if_neg here, if_neg up]

theorem Names.of_child {stroke : Bool}
    (located : tree.locate path = .ok (.named directory name stroke))
    (inside : child directory name = .ok place) :
    tree.Names path directory name ∧ place = name :: directory ∧
      stroke = Path.endsInStroke path := by
  obtain rfl := stroke_of_locate located
  obtain ⟨short, rfl⟩ := child_eq_ok_iff.1 inside
  exact ⟨⟨located, short⟩, rfl, rfl⟩

/-- A name that leads nowhere may be passed over. -/
theorem foldl_climb_leads {names : List String} (filled : ∀ name ∈ names, name ≠ "")
    (place : Place) : (names.filter Path.leads).foldl climb place = names.foldl climb place := by
  induction names generalizing place with
  | nil => rfl
  | cons name names ih =>
    replace ih := ih fun name member => filled name (List.mem_cons_of_mem _ member)
    by_cases here : name = "."
    · subst here
      rw [List.filter_cons_of_neg (by decide), ih]
      rfl
    · have leads : Path.leads name := by
        simp [Path.leads, here, filled name List.mem_cons_self]
      rw [List.filter_cons_of_pos leads, List.foldl_cons, ih]
      rfl

theorem filled_of_names {name : String} (member : name ∈ Path.names path) : name ≠ "" := by
  simpa using (List.mem_filter.1 member).2

theorem placeOf_eq_steps (tree : FileTree) (path : String) :
    tree.placeOf path = (Path.steps path).foldl climb (tree.start path) := by
  rw [← Path.filter_names, foldl_climb_leads fun _ => filled_of_names]
  rfl

theorem Names.steps (names : tree.Names path directory name) :
    ∃ before, Path.steps path = before ++ [name] := by
  obtain ⟨before, shape, here, -⟩ := names.shape
  have filled : name ≠ "" := filled_of_names (shape ▸ List.mem_append_right _ List.mem_cons_self)
  refine ⟨before.filter Path.leads, ?_⟩
  rw [← Path.filter_names, shape, List.filter_append,
    List.filter_cons_of_pos (by simp [Path.leads, here, filled])]
  rfl

/-- The directory of a path is where the entry lies that the path names. -/
theorem Names.placeOf_directory (names : tree.Names path directory name) :
    tree.placeOf (Path.directory path) = directory := by
  obtain ⟨before, steps⟩ := names.steps
  obtain ⟨-, -, here, up, -⟩ := names.shape
  have some : Path.steps path ≠ [] := by simp [steps]
  obtain ⟨outer, absolute⟩ := Path.directory_of_steps some
  have whole := names.placeOf
  rw [placeOf_eq_steps, steps, List.foldl_append, List.foldl_cons, List.foldl_nil, climb,
    if_neg here, if_neg up] at whole
  rw [placeOf_eq_steps, outer, steps, List.dropLast_concat, start, absolute]
  exact (List.cons.inj whole).2

/-- A name seen from a directory names an entry of it. -/
theorem placeOf_join (plain : Path.Plain name) (tree : FileTree) (path : String) :
    tree.placeOf (Path.join path name) = name :: tree.placeOf path := by
  unfold FileTree.placeOf start
  rw [Path.names_join plain, Path.isAbsolute_join plain, List.foldl_append, List.foldl_cons,
    List.foldl_nil, climb, if_neg plain.here, if_neg plain.up]

end PagePress.FileTree
