import PagePress.Proofs.Files.Operations

/-!
# Trees without gaps

In a tree where everything lies in a directory, a path without a step upwards leads to whatever stands
at its place. With a step upwards it may name the place of a file and not lead there, because a
directory on its way is missing.
-/
namespace PagePress.FileTree

/-- Whatever there is lies in a directory. -/
def Rooted (tree : FileTree) : Prop :=
  ∀ name directory node, tree.get? (name :: directory) = some node →
    tree.get? directory = some .directory

variable {tree later : FileTree} {path : String} {place outer directory : Place}
  {names : List String} {content : Content}

theorem Rooted.of_suffix (rooted : Rooted tree) (around : outer <:+ place)
    (there : tree.get? place = some .directory) : tree.get? outer = some .directory := by
  induction place with
  | nil => rwa [List.suffix_nil.1 around]
  | cons name place ih =>
    rcases List.suffix_cons_iff.1 around with rfl | inner
    · exact there
    · exact ih inner (rooted name place _ there)

/-- Without a step upwards, a way only leads further inside. -/
theorem suffix_of_walk (upless : ".." ∉ names) (walked : tree.walk directory names = .ok place) :
    directory <:+ place := by
  rw [climb_of_walk walked]
  clear walked
  induction names generalizing directory with
  | nil => exact List.suffix_rfl
  | cons name names ih =>
    obtain ⟨other, later⟩ := not_or.1 (mt List.mem_cons.2 upless)
    refine .trans ?_ (ih later)
    rw [climb, if_neg (Ne.symm other)]
    split
    · exact List.suffix_rfl
    · exact List.suffix_cons _ _

/-- A way without a step upwards that has come to be in a later tree was there before if its end
was. -/
theorem Rooted.walk (rooted : Rooted tree) (upless : ".." ∉ names)
    (there : tree.get? place = some .directory) (walked : later.walk directory names = .ok place) :
    tree.walk directory names = .ok place := by
  induction names generalizing directory with
  | nil => exact walked
  | cons name names ih =>
    obtain ⟨other, upless⟩ := not_or.1 (mt List.mem_cons.2 upless)
    obtain ⟨next, entered, walked⟩ := walk_cons_eq_ok walked
    have inside := rooted.of_suffix (suffix_of_walk upless walked) there
    have entered : tree.enter directory name = .ok next := by
      unfold enter at entered ⊢
      by_cases here : name = "."
      · rwa [if_pos here] at entered ⊢
      rw [if_neg here, if_neg (Ne.symm other)] at entered ⊢
      split at entered
      · cases entered
      next step =>
        split at entered
        · cases entered
        · cases entered
        · obtain rfl := Except.ok.inj entered
          simp only [inside]
    rw [FileTree.walk, entered]
    exact ih upless walked

/-- A file that can be written at a path without a step upwards, and that is there already, is found at
the path. -/
theorem Rooted.isPresent (rooted : Rooted tree) (upless : ".." ∉ Path.names path)
    (kept : Kept tree later) (here : tree.file? (tree.placeOf path) = some content) {new : Content}
    {after : FileTree} (written : later.write path new = .ok after) :
    tree.isPresent path = true := by
  obtain ⟨directory, name, names, plain, -, -⟩ := write_eq_ok_iff.1 written
  rw [← kept.placeOf, names.placeOf, file?_eq_some] at here
  obtain ⟨usable, follows⟩ := follows_of_locate names.located
  have located : tree.locate path = .ok (.named directory name (Path.endsInStroke path)) := by
    refine locate_of_follows usable ?_
    cases follows with
    | named shape point up walked =>
      rw [shape] at upless
      rw [kept.start] at walked
      exact .named shape point up
        (rooted.walk (mt (List.mem_append_left _) upless) (rooted _ _ _ here) walked)
  exact isPresent_eq_true_iff.2
    ⟨_, find_file_eq_ok_iff.2 ⟨directory, name, ⟨located, names.short⟩, plain, here⟩⟩

end PagePress.FileTree
