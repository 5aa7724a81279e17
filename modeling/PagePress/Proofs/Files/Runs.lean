import PagePress.Proofs.Files.Save

/-!
# Saves, one after the other

However saves in one directory succeed and fail, a name holds what the last save of it that succeeded
gave to it, and no file in the making is left behind. One that is there already stays only if its path
is none that a system takes: it can then neither be written nor be removed.
-/
namespace PagePress

namespace FileTree

variable {tree : FileTree} {directory name own : String} {place : Place}

/-- Whether a system takes the path of a name in a directory at all. -/
structure Addressable (directory name : String) : Prop where
  usable : Usable (Path.join directory name)
  short : name.utf8ByteSize ≤ maxNameBytes

theorem names_join (plain : Path.Plain name) (addressable : Addressable directory name)
    (walked : tree.walk (tree.start directory) (Path.names directory) = .ok place) :
    tree.Names (Path.join directory name) place name := by
  have start : tree.start (Path.join directory name) = tree.start directory := by
    rw [FileTree.start, FileTree.start, Path.isAbsolute_join plain]
  refine ⟨locate_of_follows addressable.usable ?_, addressable.short⟩
  exact .named (Path.names_join plain directory) plain.here plain.up (start ▸ walked)

theorem addressable_of_names (plain : Path.Plain name)
    (names : tree.Names (Path.join directory name) place own) : Addressable directory name := by
  obtain ⟨before, shape, -⟩ := names.shape
  rw [Path.names_join plain] at shape
  obtain ⟨-, same⟩ := List.append_inj' shape rfl
  obtain rfl := List.cons.inj same |>.1
  exact ⟨(follows_of_locate names.located).1, names.short⟩

end FileTree

namespace Disk

open FileTree

section

variable {m : Type → Type} [Monad m] [Disk m]

/-- Saves files in a directory, whatever becomes of those before. -/
def saveAll (directory : String) (files : List (String × Content)) :
    m (List (Except BundleError Unit)) :=
  files.mapM fun file => save directory file.1 file.2

end

/-- What a save was to write, and what came of it. -/
abbrev Call := (String × Content) × Except BundleError Unit

/-- What the last save of a name that succeeded has written. -/
def lastStored? (name : String) (calls : List Call) : Option Content :=
  (calls.findRev? fun call => call.1.1 == name && call.2.isOk).map fun call => call.1.2

/-- A save went on from its directory, which was there or could be made. -/
def Entered (result : Except BundleError Unit) : Prop := ∀ reason, result ≠ .error (.io reason)

variable {tree after : FileTree} {directory name : String} {content : Content}
  {result : Except BundleError Unit}

/-! ### One save -/

theorem partialName_inj {other : String} (same : partialName name = partialName other) :
    name = other := by
  unfold partialName at same
  rwa [String.append_left_inj, String.append_right_inj] at same

theorem ne_partialName (name : String) : name ≠ partialName name := by
  intro same
  have long := length_partialName name
  rw [← same] at long
  omega

/-- What one save does to the files. -/
structure Saved (directory name : String) (content : Content) (tree : FileTree)
    (result : Except BundleError Unit) (after : FileTree) : Prop where
  kept : Kept tree after
  target : after.file? (name :: tree.placeOf directory) =
    if result.isOk then some content else tree.file? (name :: tree.placeOf directory)
  others : ∀ place, place ≠ name :: tree.placeOf directory →
    place ≠ partialName name :: tree.placeOf directory → after.file? place = tree.file? place
  swept : after.file? (partialName name :: tree.placeOf directory) = none ∨
    after.file? (partialName name :: tree.placeOf directory) =
      tree.file? (partialName name :: tree.placeOf directory)

theorem saved_of_save (plain : Path.Plain name)
    (saved : (save directory name content : StateM FileTree _).run tree = (result, after)) :
    Saved directory name content tree result after := by
  have apart : partialName name :: tree.placeOf directory ≠ name :: tree.placeOf directory :=
    fun same => ne_partialName name (List.cons.inj same).1.symm
  cases result with
  | ok =>
    obtain ⟨kept, -, files⟩ := save_stored plain saved
    refine ⟨kept, ?_, fun place elsewhere beside => ?_, .inl ?_⟩
    · rw [files, if_pos rfl]
      rfl
    · rw [files, if_neg elsewhere, if_neg beside]
    · rw [files, if_neg apart, if_pos rfl]
  | error e =>
    obtain ⟨kept, files⟩ := save_refused plain saved
    refine ⟨kept, ?_, fun place _ beside => ?_, ?_⟩
    · exact (files _).resolve_right fun gone => apart gone.1.symm
    · exact (files place).resolve_right fun gone => beside gone.1
    · exact (files _).symm.imp_left And.right

/-- Whether a save goes on from its directory does not depend on what is saved. -/
theorem entered_iff
    (saved : (save directory name content : StateM FileTree _).run tree = (result, after)) :
    Entered result ↔ (tree.createDirectories directory).2 = .ok () := by
  rw [run_save] at saved
  dsimp only at saved
  rcases first : tree.createDirectories directory with ⟨made, e | _⟩
  · rw [first] at saved
    obtain rfl := congrArg Prod.fst saved
    simp [Entered]
  · rw [first] at saved
    refine iff_of_true ?_ rfl
    have result := congrArg Prod.fst saved
    dsimp only at result
    split at result
    · exact result ▸ fun _ => nofun
    · split at result
      · exact result ▸ fun _ => nofun
      · exact result ▸ fun _ => nofun

/-- No file in the making is left by a save that went on from its directory. -/
theorem swept_of_save (plain : Path.Plain name)
    (addressable : Addressable directory (partialName name)) (entered : Entered result)
    (saved : (save directory name content : StateM FileTree _).run tree = (result, after)) :
    after.file? (partialName name :: tree.placeOf directory) = none := by
  have scratch := plain_partialName plain
  obtain ⟨made, ready⟩ : ∃ made, tree.createDirectories directory = (made, .ok ()) :=
    ⟨_, Prod.ext rfl ((entered_iff saved).1 entered)⟩
  have grown := tree.grown_createDirectories directory
  rw [ready] at grown
  have names := names_join scratch addressable (walk_of_createDirectories ready)
  rw [grown.toKept.placeOf] at names
  -- A removal either works or has nothing to remove.
  have cleared : ∀ other : FileTree, Kept made other →
      (other.orElse (other.remove (Path.join directory (partialName name)))).file?
        (partialName name :: tree.placeOf directory) = none := by
    intro other kept
    replace names := names.kept kept
    cases removed : other.remove (Path.join directory (partialName name)) with
    | ok later =>
      rw [orElse, (of_remove removed).2, names.placeOf, if_pos rfl]
    | error e =>
      rw [orElse, Option.eq_none_iff_forall_ne_some]
      intro content here
      have := remove_eq_ok_iff.2 ⟨_, _, content, names, Path.not_endsInStroke_join scratch directory,
        file?_eq_some.1 here, rfl⟩
      rw [removed] at this
      cases this
  cases result with
  | ok =>
    obtain ⟨-, -, files⟩ := save_stored plain saved
    rw [files, if_neg fun same => ne_partialName name (List.cons.inj same).1.symm, if_pos rfl]
  | error e =>
    rw [run_save, ready] at saved
    dsimp only at saved
    split at saved
    · obtain rfl := congrArg Prod.snd saved
      exact cleared made (.refl made)
    next written second =>
      split at saved
      · obtain rfl := congrArg Prod.snd saved
        exact cleared written (of_write second).1
      · cases saved

/-- Nothing is written, and nothing removed, under a path that no system takes. -/
theorem save_of_not_addressable (plain : Path.Plain name)
    (refused : ¬Addressable directory (partialName name))
    (saved : (save directory name content : StateM FileTree _).run tree = (result, after)) :
    result.isOk = false ∧ ∀ place, after.file? place = tree.file? place := by
  have scratch := plain_partialName plain
  have grown := tree.grown_createDirectories directory
  rw [run_save] at saved
  dsimp only at saved
  split at saved
  next first =>
    rw [first] at grown
    obtain ⟨rfl, rfl⟩ := Prod.mk.inj saved
    exact ⟨rfl, grown.files⟩
  next made first =>
    rw [first] at grown
    split at saved
    · obtain ⟨rfl, rfl⟩ := Prod.mk.inj saved
      cases removed : made.remove (Path.join directory (partialName name)) with
      | error e => exact ⟨rfl, grown.files⟩
      | ok later =>
        obtain ⟨_, _, _, names, -⟩ := remove_eq_ok_iff.1 removed
        exact absurd (addressable_of_names scratch names) refused
    next written second =>
      obtain ⟨_, _, names, -⟩ := write_eq_ok_iff.1 second
      exact absurd (addressable_of_names scratch names) refused

/-! ### Many saves -/

variable {file : String × Content} {files : List (String × Content)}
  {results : List (Except BundleError Unit)}

theorem of_run_saveAll_cons
    (ran : (saveAll directory (file :: files) : StateM FileTree _).run tree = (results, after)) :
    ∃ first made rest,
      (save directory file.1 file.2 : StateM FileTree _).run tree = (first, made) ∧
      (saveAll directory files : StateM FileTree _).run made = (rest, after) ∧
      results = first :: rest := by
  rw [saveAll, List.mapM_cons] at ran
  obtain ⟨rfl, rfl⟩ := Prod.mk.inj ran
  exact ⟨_, _, _, rfl, rfl, rfl⟩

theorem length_saveAll
    (ran : (saveAll directory files : StateM FileTree _).run tree = (results, after)) :
    results.length = files.length := by
  induction files generalizing tree results with
  | nil =>
    obtain ⟨rfl, -⟩ := Prod.mk.inj ran
    rfl
  | cons file files ih =>
    obtain ⟨first, made, rest, -, behind, rfl⟩ := of_run_saveAll_cons ran
    rw [List.length_cons, ih behind, List.length_cons]

theorem lastStored?_cons (call : Call) (calls : List Call) :
    lastStored? name (call :: calls) = (lastStored? name calls).or
      (if call.1.1 = name ∧ call.2.isOk then some call.1.2 else none) := by
  unfold lastStored?
  simp only [List.findRev?_eq_find?_reverse, List.reverse_cons, List.find?_append, Option.map_or,
    List.find?_singleton, Bool.and_eq_true, beq_iff_eq]
  split <;> rfl

/-- A name that is none of a file in the making holds what was stored last. -/
theorem file?_saveAll (plain : ∀ file ∈ files, Path.Plain file.1)
    (apart : ∀ file ∈ files, name ≠ partialName file.1)
    (ran : (saveAll directory files : StateM FileTree _).run tree = (results, after)) :
    after.file? (name :: tree.placeOf directory) = (lastStored? name (files.zip results)).or
      (tree.file? (name :: tree.placeOf directory)) := by
  induction files generalizing tree results with
  | nil =>
    obtain ⟨-, rfl⟩ := Prod.mk.inj ran
    rfl
  | cons file files ih =>
    obtain ⟨first, made, rest, saved, behind, rfl⟩ := of_run_saveAll_cons ran
    obtain ⟨kept, target, others, -⟩ := saved_of_save (plain file List.mem_cons_self) saved
    have later := ih (fun file member => plain file (List.mem_cons_of_mem _ member))
      (fun file member => apart file (List.mem_cons_of_mem _ member)) behind
    rw [kept.placeOf] at later
    rw [later, List.zip_cons_cons, lastStored?_cons, Option.or_assoc]
    congr 1
    by_cases same : file.1 = name
    · subst same
      rw [target]
      cases first.isOk <;> simp
    · rw [if_neg fun stored => same stored.1, Option.none_or]
      refine others _ (fun here => same (List.cons.inj here).1.symm) fun here => ?_
      exact apart file List.mem_cons_self (List.cons.inj here).1

/-- A file that no save is about is left alone. -/
theorem file?_saveAll_other (plain : ∀ file ∈ files, Path.Plain file.1) {place : Place}
    (elsewhere : ∀ file ∈ files, place ≠ file.1 :: tree.placeOf directory ∧
      place ≠ partialName file.1 :: tree.placeOf directory)
    (ran : (saveAll directory files : StateM FileTree _).run tree = (results, after)) :
    after.file? place = tree.file? place := by
  induction files generalizing tree results with
  | nil =>
    obtain ⟨-, rfl⟩ := Prod.mk.inj ran
    rfl
  | cons file files ih =>
    obtain ⟨first, made, rest, saved, behind, rfl⟩ := of_run_saveAll_cons ran
    obtain ⟨kept, -, others, -⟩ := saved_of_save (plain file List.mem_cons_self) saved
    rw [← others place (elsewhere file List.mem_cons_self).1 (elsewhere file List.mem_cons_self).2]
    refine ih (fun file member => plain file (List.mem_cons_of_mem _ member)) ?_ behind
    rw [kept.placeOf]
    exact fun file member => elsewhere file (List.mem_cons_of_mem _ member)

/-- A file in the making is not there after saves if it was not before. -/
theorem scratch_saveAll (plain : ∀ file ∈ files, Path.Plain file.1)
    (apart : ∀ file ∈ files, file.1 ≠ partialName name)
    (clear : tree.file? (partialName name :: tree.placeOf directory) = none)
    (ran : (saveAll directory files : StateM FileTree _).run tree = (results, after)) :
    after.file? (partialName name :: tree.placeOf directory) = none := by
  induction files generalizing tree results with
  | nil =>
    obtain ⟨-, rfl⟩ := Prod.mk.inj ran
    exact clear
  | cons file files ih =>
    obtain ⟨first, made, rest, saved, behind, rfl⟩ := of_run_saveAll_cons ran
    obtain ⟨kept, -, others, swept⟩ := saved_of_save (plain file List.mem_cons_self) saved
    have cleared : made.file? (partialName name :: tree.placeOf directory) = none := by
      by_cases same : file.1 = name
      · subst same
        exact swept.elim id fun kept => kept.trans clear
      · refine (others _ (fun here => ?_) fun here => ?_).trans clear
        · exact apart file List.mem_cons_self (List.cons.inj here).1.symm
        · exact same (partialName_inj (List.cons.inj here).1).symm
    rw [← kept.placeOf] at cleared ⊢
    exact ih (fun file member => plain file (List.mem_cons_of_mem _ member))
      (fun file member => apart file (List.mem_cons_of_mem _ member)) cleared behind

/-- After a save that went on from its directory its file in the making stays away. -/
theorem swept_saveAll (plain : ∀ file ∈ files, Path.Plain file.1)
    (apart : ∀ file ∈ files, file.1 ≠ partialName name)
    (addressable : Addressable directory (partialName name))
    (ran : (saveAll directory files : StateM FileTree _).run tree = (results, after))
    {call : Call} (member : call ∈ files.zip results) (own : call.1.1 = name)
    (entered : Entered call.2) :
    after.file? (partialName name :: tree.placeOf directory) = none := by
  induction files generalizing tree results with
  | nil => cases member
  | cons file files ih =>
    obtain ⟨first, made, rest, saved, behind, rfl⟩ := of_run_saveAll_cons ran
    have here := plain file List.mem_cons_self
    have kept := (saved_of_save here saved).kept
    replace plain := fun file member => plain file (List.mem_cons_of_mem _ member)
    replace apart := fun file member => apart file (List.mem_cons_of_mem _ member)
    rcases List.mem_cons.1 member with rfl | member
    · have cleared := swept_of_save here (own ▸ addressable) entered saved
      rw [own, ← kept.placeOf] at cleared
      rw [← kept.placeOf]
      exact scratch_saveAll plain apart cleared behind
    · rw [← kept.placeOf]
      exact ih plain apart behind member

/-- Saves in a directory, with plain names none of which is that of another file in the making, leave
behind what was stored last, and of what they had in the making nothing that has a path. A save that
fails changes no other file. -/
theorem saveAll_atomic (plain : ∀ file ∈ files, Path.Plain file.1)
    (apart : ∀ file ∈ files, ∀ other ∈ files, file.1 ≠ partialName other.1)
    (ran : (saveAll directory files : StateM FileTree _).run tree = (results, after)) :
    let calls := files.zip results
    let place := tree.placeOf directory
    results.length = files.length ∧
    (∀ file ∈ files, after.file? (file.1 :: place) =
      (lastStored? file.1 calls).or (tree.file? (file.1 :: place))) ∧
    (∀ other, (∀ file ∈ files, other ≠ file.1 :: place ∧ other ≠ partialName file.1 :: place) →
      after.file? other = tree.file? other) ∧
    (∀ call ∈ calls, Entered call.2 → Addressable directory (partialName call.1.1) →
      after.file? (partialName call.1.1 :: place) = none) ∧
    ∀ file ∈ files, ∀ before result later,
      (save directory file.1 file.2 : StateM FileTree _).run before = (result, later) →
      (result.isOk = false → ∀ other, other ≠ partialName file.1 :: before.placeOf directory →
        later.file? other = before.file? other) ∧
      (¬Addressable directory (partialName file.1) →
        result.isOk = false ∧ ∀ other, later.file? other = before.file? other) := by
  refine ⟨length_saveAll ran, fun file used => ?_, fun other elsewhere => ?_,
    fun call member entered addressable => ?_, fun file used before result later saved => ⟨?_, ?_⟩⟩
  · exact file?_saveAll plain (apart file used) ran
  · exact file?_saveAll_other plain elsewhere ran
  · have used := (List.of_mem_zip member).1
    exact swept_saveAll plain (fun file other => apart file other call.1 used) addressable ran member
      rfl entered
  · intro failed other beside
    have one := saved_of_save (plain file used) saved
    by_cases own : other = file.1 :: before.placeOf directory
    · rw [own, one.target, failed]
      rfl
    · exact one.others other own beside
  · exact fun refused => save_of_not_addressable (plain file used) refused saved

/-- A directory in the place of a file keeps it from being saved, and what was in the making is gone. -/
theorem saveAll_beside_directory :
    let tree : FileTree := {
      nodes := [(["notes.md", "out", "work"], .directory),
        ([".notes.md.partial", "out", "work"], .file (.ofText "half")),
        (["homepage.zip", "out", "work"], .file (.ofText "old")),
        (["out", "work"], .directory), (["work"], .directory)] }
    let files := [("homepage.zip", .ofText "one"), ("notes.md", .ofText "two"),
      ("homepage.zip", .ofText "three")]
    (∀ file ∈ files, Path.Plain file.1) ∧
    (∀ file ∈ files, ∀ other ∈ files, file.1 ≠ partialName other.1) ∧
    ∃ results after, (saveAll "out" files : StateM FileTree _).run tree = (results, after) ∧
      results = [.ok (), .error (.save "out/notes.md" FileError.isDirectory.message), .ok ()] ∧
      after.file? ["homepage.zip", "out", "work"] = some (.ofText "three") ∧
      after.file? [".notes.md.partial", "out", "work"] = none := by
  intro tree files
  have plain : ∀ file ∈ files, Path.Plain file.1 := by decide +kernel
  have apart : ∀ file ∈ files, ∀ other ∈ files, file.1 ≠ partialName other.1 := by decide +kernel
  have place : tree.placeOf "out" = ["out", "work"] := by decide +kernel
  have addressable : Addressable "out" (partialName "notes.md") :=
    ⟨⟨by decide +kernel, by decide +kernel, by decide +kernel⟩, by decide +kernel⟩
  have ended : ((saveAll "out" files : StateM FileTree _).run tree).1 =
      [.ok (), .error (.save "out/notes.md" FileError.isDirectory.message), .ok ()] := by
    decide +kernel
  rcases ran : (saveAll "out" files : StateM FileTree _).run tree with ⟨results, after⟩
  rw [ran] at ended
  obtain rfl : results = _ := ended
  obtain ⟨-, stored, -, swept, -⟩ := saveAll_atomic plain apart ran
  rw [place] at stored swept
  refine ⟨plain, apart, _, after, rfl, rfl, ?_, ?_⟩
  · exact (stored _ List.mem_cons_self).trans (by decide +kernel)
  · exact swept _ (List.mem_cons_of_mem _ List.mem_cons_self) (fun _ => nofun) addressable

/-! ### A path that is too long -/

/-- A path of points, which leads nowhere. -/
def points : Nat → String
  | 0 => "."
  | n + 1 => points n ++ "/" ++ "."

theorem names_points (n : Nat) : Path.names (points n) = List.replicate n "." ++ ["."] := by
  have one : Path.names "." = ["."] := by decide
  induction n with
  | zero => exact one
  | succ n ih => rw [points, Path.names_append, ih, one, ← List.replicate_succ']

theorem utf8ByteSize_points (n : Nat) : (points n).utf8ByteSize = 2 * n + 1 := by
  have one : ".".utf8ByteSize = 1 ∧ "/".utf8ByteSize = 1 := ⟨rfl, rfl⟩
  induction n with
  | zero => exact one.1
  | succ n ih =>
    rw [points, String.utf8ByteSize_append, String.utf8ByteSize_append, ih, one.1, one.2]
    omega

theorem nul_not_mem_points (n : Nat) : '\x00' ∉ (points n).toList := by
  induction n with
  | zero => decide
  | succ n ih => simp [points, String.toList_append, ih]

theorem head?_points (n : Nat) : (points n).toList.head? = some '.' := by
  induction n with
  | zero => decide
  | succ n ih => simp [points, String.toList_append, ih]

theorem find_points {n : Nat} (short : 2 * n + 1 < maxPathBytes) (tree : FileTree) :
    tree.find (points n) = .ok .directory ∧ tree.placeOf (points n) = tree.current := by
  have start : tree.start (points n) = tree.current := by
    rw [FileTree.start, Path.isAbsolute, head?_points, if_neg (by decide)]
  have still : tree.walk (tree.start (points n)) (List.replicate n ".") = .ok tree.current := by
    rw [start]
    exact walk_points fun _ => List.eq_of_mem_replicate
  have usable : Usable (points n) := by
    refine ⟨by simpa using nul_not_mem_points n, ?_, by rwa [utf8ByteSize_points]⟩
    rw [← Bool.not_eq_true, String.isEmpty_iff]
    intro empty
    have first := head?_points n
    rw [empty] at first
    cases first
  have located := locate_of_follows usable (.points (names_points n) (.inl rfl) still rfl)
  refine ⟨find_eq_ok_iff.2 (.inl ⟨_, located, rfl⟩), ?_⟩
  rw [FileTree.placeOf, names_points, List.foldl_append, ← climb_of_walk still]
  rfl

/-- Where the directory is there and the path of the file in the making is too long, a save gets past
the directory and changes nothing. -/
theorem save_too_long (plain : Path.Plain name) (there : tree.find directory = .ok .directory)
    (long : maxPathBytes ≤ directory.utf8ByteSize + (partialName name).utf8ByteSize)
    (saved : (save directory name content : StateM FileTree _).run tree = (result, after)) :
    Entered result ∧ ∀ place, after.file? place = tree.file? place := by
  refine ⟨(entered_iff saved).2 ?_, (save_of_not_addressable plain (fun addressable => ?_) saved).2⟩
  · rw [createDirectories_of_find there]
  · have least := Path.le_utf8ByteSize_join (plain_partialName plain) directory
    exact absurd addressable.usable.short (Nat.not_lt.2 (long.trans least))

/-- A file in the making that was there before stays if its path is too long, although the directory is
there: it can neither be written nor be removed. -/
theorem save_leaves_scratch_too_long :
    let tree : FileTree := {
      nodes := [([".homepage.zip.partial", "work"], .file (.ofText "old")),
        (["work"], .directory)] }
    Path.Plain "homepage.zip" ∧
    ∃ result after, (save (points 2044) "homepage.zip" (.ofText "PK") : StateM FileTree _).run tree =
        (result, after) ∧
      Entered result ∧
      after.file? (partialName "homepage.zip" :: tree.placeOf (points 2044)) =
        some (.ofText "old") := by
  intro tree
  have plain : Path.Plain "homepage.zip" := by decide
  obtain ⟨there, place⟩ := find_points (n := 2044) (by decide) tree
  rcases saved : (save (points 2044) "homepage.zip" (.ofText "PK") : StateM FileTree _).run tree
    with ⟨result, after⟩
  obtain ⟨entered, same⟩ := save_too_long plain there
    (by rw [utf8ByteSize_points]; decide +kernel) saved
  refine ⟨plain, result, after, rfl, entered, ?_⟩
  rw [same, place]
  decide +kernel

end Disk

end PagePress
