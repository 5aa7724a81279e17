import PagePress.Proofs.Files.Operations

/-!
# Saves on a tree

A save writes beside its target and then renames. Whatever goes wrong on the way, the only file that
may be another afterwards is the one beside the target, and that one is gone.
-/
namespace PagePress.Disk

open FileTree

variable {tree after : FileTree} {directory name : String} {content : Content}

/-- What a save leaves, by its first step that fails. -/
theorem run_save (tree : FileTree) (directory name : String) (content : Content) :
    (save directory name content : StateM FileTree _).run tree =
      let target := Path.join directory name
      let scratch := Path.join directory (partialName name)
      match tree.createDirectories directory with
      | (made, .error e) => (.error (.io e.message), made)
      | (made, .ok ()) =>
        match made.write scratch content with
        | .error e => (.error (.save target e.message), made.orElse (made.remove scratch))
        | .ok written =>
          match written.rename scratch target with
          | .error e => (.error (.save target e.message), written.orElse (written.remove scratch))
          | .ok after => (.ok (), after) := by
  unfold save replace
  simp only [run_bind, run_createDirectories]
  rcases first : tree.createDirectories directory with ⟨made, e | _⟩
  · rfl
  · cases second : made.write (Path.join directory (partialName name)) content with
    | error e =>
      simp only [run_bind, run_write, run_remove, run_pure, second, Except.map, orElse]
    | ok written =>
      cases third : written.rename (Path.join directory (partialName name))
          (Path.join directory name) with
      | error e =>
        simp only [run_bind, run_write, run_rename, run_remove, run_pure, second, third, Except.map,
          orElse]
      | ok after =>
        simp only [run_bind, run_write, run_rename, run_pure, second, third, Except.map, orElse]

theorem length_partialName (name : String) : (partialName name).length = name.length + 9 := by
  have ends : ".".length = 1 ∧ ".partial".length = 8 := ⟨rfl, rfl⟩
  rw [partialName, String.length_append, String.length_append, ends.1, ends.2]
  omega

/-- The name of a file in the making is plain if that of the file is. -/
theorem plain_partialName (plain : Path.Plain name) : Path.Plain (partialName name) := by
  have long : ∀ other : String, other.length < 9 → partialName name ≠ other := by
    rintro other short rfl
    rw [length_partialName] at short
    omega
  refine ⟨long "" (by decide), ?_, long "." (by decide), long ".." (by decide)⟩
  simp [partialName, String.toList_append, plain.stroke]

/-- A save that succeeds gives its file the content, and no other file is another. -/
theorem save_stored (plain : Path.Plain name)
    (saved : (save directory name content : StateM FileTree _).run tree = (.ok (), after)) :
    Kept tree after ∧ after.find (Path.join directory name) = .ok (.file content) ∧
      ∀ place, after.file? place =
        if place = name :: tree.placeOf directory then some content
        else if place = partialName name :: tree.placeOf directory then none
        else tree.file? place := by
  rw [run_save] at saved
  dsimp only at saved
  split at saved
  · cases saved
  next made first =>
    split at saved
    · cases saved
    next written second =>
      split at saved
      · cases saved
      next third =>
        obtain rfl := congrArg Prod.snd saved
        have grown := tree.grown_createDirectories directory
        rw [first] at grown
        obtain ⟨scratched, -, files⟩ := of_write second
        obtain ⟨moved, other, here, found, renamed⟩ := of_rename third
        simp only [scratched.placeOf, grown.toKept.placeOf, placeOf_join plain,
          placeOf_join (plain_partialName plain), grown.files] at files here renamed
        obtain rfl : content = other := by
          rw [files, if_pos rfl] at here
          exact Option.some.inj here
        refine ⟨grown.toKept.trans (scratched.trans moved), found, fun place => ?_⟩
        rw [renamed, files]
        split
        · rfl
        · split <;> rfl

/-- A save that fails changes no file but the one in the making, and that one is gone. -/
theorem save_refused (plain : Path.Plain name) {e : BundleError}
    (saved : (save directory name content : StateM FileTree _).run tree = (.error e, after)) :
    Kept tree after ∧
      ∀ place, after.file? place = tree.file? place ∨
        place = partialName name :: tree.placeOf directory ∧ after.file? place = none := by
  have grown := tree.grown_createDirectories directory
  have scratch := placeOf_join (plain_partialName plain) tree directory
  rw [run_save] at saved
  dsimp only at saved
  split at saved
  next made _ first =>
    rw [first] at grown
    obtain rfl := congrArg Prod.snd saved
    exact ⟨grown.toKept, fun place => .inl (grown.files place)⟩
  next made first =>
    rw [first] at grown
    split at saved
    · obtain rfl := congrArg Prod.snd saved
      cases removed : made.remove (Path.join directory (partialName name)) with
      | error e => exact ⟨grown.toKept, fun place => .inl (grown.files place)⟩
      | ok cleared =>
        obtain ⟨kept, files⟩ := of_remove removed
        refine ⟨grown.toKept.trans kept, fun place => ?_⟩
        rw [orElse, files, grown.toKept.placeOf, scratch, grown.files]
        split
        next here => exact .inr ⟨here, rfl⟩
        · exact .inl rfl
    next written second =>
      split at saved
      · obtain rfl := congrArg Prod.snd saved
        obtain ⟨scratched, found, files⟩ := of_write second
        obtain ⟨cleared, removed⟩ := remove_of_find found
        obtain ⟨kept, gone⟩ := of_remove removed
        dsimp only
        rw [removed, orElse]
        refine ⟨grown.toKept.trans (scratched.trans kept), fun place => ?_⟩
        rw [gone, files, scratched.placeOf, grown.toKept.placeOf, scratch,
          grown.files]
        split
        next here => exact .inr ⟨here, rfl⟩
        · exact .inl rfl
      · cases saved

end PagePress.Disk
