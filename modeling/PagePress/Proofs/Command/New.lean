import PagePress.Proofs.Command.Build
import PagePress.Proofs.Command.Scaffold
import PagePress.Proofs.Files.Rooted

/-!
# What a new document does to the files

A new document destroys no file that its path leads to, unless it is told to. The check looks where
the path leads before the directories on it are made. A path that goes down into a missing directory
and up again leads nowhere then, and to a file afterwards, which is overwritten.
-/
namespace PagePress

open FileTree

namespace Scaffold

variable {tree made drafted after : FileTree} {path themeId : String} {force : Bool}
  {registry : ThemeRegistry} {theme : Theme} {written : List String}
  {result : Except ScaffoldError Unit}

/-- The ways in which a new document comes about or does not, with what each leaves. -/
inductive Leaves (registry : ThemeRegistry) (path themeId : String) (force : Bool)
    (tree : FileTree) : Except ScaffoldError Unit → FileTree → Prop where
  | present (there : tree.isPresent path = true) (unforced : force = false) :
      Leaves registry path themeId force tree (.error (.alreadyExists path)) tree
  | unknown {e : ThemeError} (unresolved : registry.resolve themeId = .error e) :
      Leaves registry path themeId force tree (.error (.unknownTheme path e)) tree
  /-- Directories may have been made for a document that is not written. -/
  | undone {theme : Theme} {e : ScaffoldError} {made : FileTree}
      (allowed : force = true ∨ tree.isPresent path = false)
      (resolved : registry.resolve themeId = .ok theme) (grown : Grown tree made) :
      Leaves registry path themeId force tree (.error e) made
  /-- The document is written. Its settings are there, or cannot be written, or are written now. -/
  | drafted {theme : Theme} {made drafted after : FileTree} {result : Except ScaffoldError Unit}
      (allowed : force = true ∨ tree.isPresent path = false)
      (resolved : registry.resolve themeId = .ok theme) (grown : Grown tree made)
      (wrote : made.write path (Content.ofText theme.defaultContent) = .ok drafted)
      (settled : after = drafted ∧
          (result = .ok () → drafted.isPresent (Config.pathBeside path) = true) ∨
        drafted.isPresent (Config.pathBeside path) = false ∧ drafted.write (Config.pathBeside path)
          (Content.ofText (Config.forTheme theme.id)) = .ok after) :
      Leaves registry path themeId force tree result after

theorem leaves_create
    (ran : (create registry path themeId force : StateM FileTree _).run tree =
      ((written, result), after)) :
    Leaves registry path themeId force tree result after := by
  rw [run_create] at ran
  split at ran
  next refused =>
    obtain ⟨there, unforced⟩ := Bool.and_eq_true_iff.1 refused
    cases ran
    exact .present there (by simpa using unforced)
  next passed =>
    have allowed : force = true ∨ tree.isPresent path = false := by
      cases force <;> simp_all
    split at ran
    next unresolved =>
      cases ran
      exact .unknown unresolved
    next theme resolved =>
      obtain ⟨_, made, first, grown⟩ := run_makeDirectory path tree
      rw [first] at ran
      split at ran
      next same =>
        cases same
        cases ran
        exact .undone allowed resolved grown
      next same =>
        cases same
        split at ran
        · cases ran
          exact .undone allowed resolved grown
        next drafted wrote =>
          refine .drafted allowed resolved grown wrote ?_
          have settled := congrArg Prod.snd ran
          have ended := congrArg (·.1.2) ran
          dsimp only at settled ended
          rw [run_writeConfig] at settled ended
          dsimp only at settled ended
          split at settled
          next present => exact .inl ⟨settled.symm, fun _ => present⟩
          next missing =>
            rw [if_neg missing] at ended
            cases wrote : drafted.write (Config.pathBeside path)
                (Content.ofText (Config.forTheme theme.id)) with
            | error e =>
              rw [wrote] at settled ended
              refine .inl ⟨settled.symm, fun fine => ?_⟩
              rw [← ended] at fine
              cases fine
            | ok later =>
              rw [wrote] at settled
              exact .inr ⟨by simpa using missing, congrArg Except.ok settled⟩

namespace Leaves

/-- Whatever is not at the place of the document stays. -/
theorem others (left : Leaves registry path themeId force tree result after) {place : Place}
    (elsewhere : place ≠ tree.placeOf path) {node : FileNode} (here : tree.get? place = some node) :
    after.get? place = some node := by
  cases left with
  | present => exact here
  | unknown => exact here
  | undone _ _ grown => exact grown.get? here
  | @drafted _ _ drafted _ _ _ _ grown wrote settled =>
    have kept : drafted.get? place = some node := by
      rw [get?_of_write wrote, grown.toKept.placeOf, if_neg elsewhere]
      exact grown.get? here
    rcases settled with ⟨rfl, -⟩ | ⟨missing, configured⟩
    · exact kept
    · have other : place ≠ drafted.placeOf (Config.pathBeside path) := by
        intro same
        rw [same, get?_of_absent missing configured] at kept
        cases kept
      rw [get?_of_write configured, if_neg other]
      exact kept

/-- A document that has been written is found at its path, also once it has its settings. -/
theorem find_of_drafted {content settings : Content} {complete : Prop}
    (wrote : made.write path content = .ok drafted)
    (settled : after = drafted ∧ complete ∨ drafted.isPresent (Config.pathBeside path) = false ∧
      drafted.write (Config.pathBeside path) settings = .ok after) :
    Kept made after ∧ after.find path = .ok (.file content) := by
  obtain ⟨kept, found, -⟩ := of_write wrote
  rcases settled with ⟨rfl, -⟩ | ⟨missing, configured⟩
  · exact ⟨kept, found⟩
  · obtain ⟨directory, name, names, plain, here⟩ := find_file_eq_ok_iff.1 found
    obtain ⟨later, -, -⟩ := of_write configured
    refine ⟨kept.trans later,
      find_file_eq_ok_iff.2 ⟨directory, name, names.kept later, plain, ?_⟩⟩
    have other : name :: directory ≠ drafted.placeOf (Config.pathBeside path) := by
      intro same
      rw [same, get?_of_absent missing configured] at here
      cases here
    rw [get?_of_write configured, if_neg other]
    exact here

/-- No directory goes. -/
theorem kept (left : Leaves registry path themeId force tree result after) : Kept tree after := by
  cases left with
  | present => exact .refl tree
  | unknown => exact .refl tree
  | undone _ _ grown => exact grown.toKept
  | drafted _ _ grown wrote settled =>
    exact grown.toKept.trans (find_of_drafted wrote settled).1

/-- A file that was at the place of the document stays, unless it may be overwritten or the path did
not lead to it. It has the sample text of the theme then. -/
theorem target (left : Leaves registry path themeId force tree result after) {content : Content}
    (here : tree.file? (tree.placeOf path) = some content) :
    after.file? (tree.placeOf path) = some content ∨
      (force = true ∨ tree.isPresent path = false ∧ (Rooted tree → ".." ∈ Path.names path)) ∧
        ∃ theme, registry.resolve themeId = .ok theme ∧
          after.file? (tree.placeOf path) = some (Content.ofText theme.defaultContent) := by
  cases left with
  | present => exact .inl here
  | unknown => exact .inl here
  | undone _ _ grown => exact .inl (file?_eq_some.2 (grown.get? (file?_eq_some.1 here)))
  | @drafted theme made drafted _ _ allowed resolved grown wrote settled =>
    obtain ⟨kept, found⟩ := find_of_drafted wrote settled
    have place := file?_of_find found
    rw [kept.placeOf, grown.toKept.placeOf] at place
    refine .inr ⟨allowed.imp_right fun absent => ⟨absent, fun rooted => ?_⟩, theme, resolved, place⟩
    by_contra upless
    rw [rooted.isPresent upless grown.toKept here wrote] at absent
    cases absent

/-- A new document that is made is found at its path, and settings beside it. -/
theorem completed (left : Leaves registry path themeId force tree (.ok ()) after) :
    ∃ theme, registry.resolve themeId = .ok theme ∧
      after.find path = .ok (.file (Content.ofText theme.defaultContent)) ∧
      after.isPresent (Config.pathBeside path) = true ∧
      ∃ node, after.get? (Config.fileName :: (after.placeOf path).tail) = some node := by
  cases left with
  | @drafted theme made drafted _ _ _ resolved _ wrote settled =>
    obtain ⟨-, found⟩ := find_of_drafted wrote settled
    have present : after.isPresent (Config.pathBeside path) = true := by
      rcases settled with ⟨rfl, present⟩ | ⟨-, configured⟩
      · exact present rfl
      · obtain ⟨-, beside, -⟩ := of_write configured
        exact isPresent_eq_true_iff.2 ⟨_, beside⟩
    refine ⟨theme, resolved, found, present, ?_⟩
    obtain ⟨node, beside⟩ := isPresent_eq_true_iff.1 present
    obtain ⟨directory, name, names, -⟩ := find_file_eq_ok_iff.1 found
    rw [find_congr (Config.locate_pathBeside _ path)] at beside
    have here := get?_of_find_join (by decide : Path.Plain Config.fileName) beside
    rw [names.placeOf_directory] at here
    rw [names.placeOf]
    exact ⟨node, here⟩

/-- A document that is there, or a theme that is not, stops a new document before its first change. -/
theorem refused (left : Leaves registry path themeId force tree result after)
    (cause : tree.isPresent path = true ∧ force = false ∨
      ∀ theme, registry.resolve themeId ≠ .ok theme) :
    after = tree ∧ result ≠ .ok () := by
  have stopped : ∀ theme, (force = true ∨ tree.isPresent path = false) →
      registry.resolve themeId = .ok theme → False := by
    intro theme allowed resolved
    rcases cause with ⟨present, unforced⟩ | unresolved
    · simp [present, unforced] at allowed
    · exact unresolved theme resolved
  cases left with
  | present => exact ⟨rfl, nofun⟩
  | unknown => exact ⟨rfl, nofun⟩
  | undone allowed resolved _ => exact (stopped _ allowed resolved).elim
  | drafted allowed resolved _ _ _ => exact (stopped _ allowed resolved).elim

end Leaves

end Scaffold

namespace Command

/-- A command line that asks for a new document ends as the document does. -/
theorem run_of_new {words : List String} {quiet verbose force : Bool} {file theme : String}
    (asked : parse words = some (.run ⟨quiet, verbose, .new file theme force⟩))
    (tree : FileTree) :
    ∃ report result after, (run words : StateM FileTree Report).run tree = (report, after) ∧
      Scaffold.Leaves .builtin file theme force tree result after ∧
      (report.code = successCode ∧ result = .ok () ∨
        report.code = failureCode ∧ result ≠ .ok ()) := by
  unfold run
  rw [asked]
  dsimp only
  rw [run_bind, perform, new, run_bind]
  rcases ran : (Scaffold.create .builtin file theme force : StateM FileTree _).run tree with
    ⟨⟨written, e | _⟩, after⟩
  · exact ⟨_, _, _, rfl, Scaffold.leaves_create ran, .inr ⟨rfl, nofun⟩⟩
  · exact ⟨_, _, _, rfl, Scaffold.leaves_create ran, .inl ⟨rfl, rfl⟩⟩

/-- A command line that asks for a new document leaves whatever is not at the place of the document. A
file at that place stays too, unless it may be overwritten or the path does not lead to it yet, which
takes a step upwards on the path; it has the sample text of the theme then. If the path leads to
something that may not be overwritten, or there is no such theme, nothing changes. If the command ends
well, the document is found at its path with the sample text, and there are settings beside it. -/
theorem new_spares_files {words : List String} {quiet verbose force : Bool} {file theme : String}
    (asked : parse words = some (.run ⟨quiet, verbose, .new file theme force⟩))
    (tree : FileTree) :
    ∃ report after, (run words : StateM FileTree Report).run tree = (report, after) ∧
      (∀ place node, place ≠ tree.placeOf file → tree.get? place = some node →
        after.get? place = some node) ∧
      (∀ content, tree.file? (tree.placeOf file) = some content →
        after.file? (tree.placeOf file) = some content ∨
        (force = true ∨ tree.isPresent file = false ∧
          (Rooted tree → ".." ∈ Path.names file)) ∧
        ∃ chosen, ThemeRegistry.builtin.resolve theme = .ok chosen ∧
          after.file? (tree.placeOf file) = some (Content.ofText chosen.defaultContent)) ∧
      (tree.isPresent file = true ∧ force = false ∨
          (∀ chosen, ThemeRegistry.builtin.resolve theme ≠ .ok chosen) →
        after = tree ∧ report.code = failureCode) ∧
      (report.code = successCode → ∃ chosen, ThemeRegistry.builtin.resolve theme = .ok chosen ∧
        after.find file = .ok (.file (Content.ofText chosen.defaultContent)) ∧
        after.isPresent (Config.pathBeside file) = true ∧
        ∃ node, after.get? ("homepage.json" :: (after.placeOf file).tail) = some node) := by
  obtain ⟨report, result, after, ran, left, ended⟩ := run_of_new asked tree
  refine ⟨report, after, ran, fun place node elsewhere here => left.others elsewhere here,
    fun content here => left.target here, fun cause => ?_, fun code => ?_⟩
  · obtain ⟨same, failed⟩ := left.refused cause
    exact ⟨same, (ended.resolve_left fun fine => failed fine.2).1⟩
  · obtain ⟨-, rfl⟩ := ended.resolve_right fun failed => by
      rw [code] at failed
      exact absurd failed.1 (by decide)
    exact left.completed

/-- A new document in a directory of its own, beside notes that were there. -/
theorem new_beside_notes :
    let tree : FileTree := {
      nodes := [(["notes.md", "work"], .file (.ofText "mine")), (["work"], .directory)] }
    parse ["new", "cv/doc.md"] = some (.run ⟨false, false, .new "cv/doc.md" "default" false⟩) ∧
    ∃ report after, (run ["new", "cv/doc.md"] : StateM FileTree Report).run tree =
        (report, after) ∧
      report.code = successCode ∧
      after.get? ["notes.md", "work"] = some (.file (.ofText "mine")) ∧
      ∃ chosen, ThemeRegistry.builtin.resolve "default" = .ok chosen ∧
        after.find "cv/doc.md" = .ok (.file (Content.ofText chosen.defaultContent)) ∧
        after.isPresent (Config.pathBeside "cv/doc.md") = true := by
  intro tree
  have asked : parse ["new", "cv/doc.md"] =
      some (.run ⟨false, false, .new "cv/doc.md" "default" false⟩) := by decide +kernel
  obtain ⟨report, after, ran, others, -, -, completed⟩ := new_spares_files asked tree
  have code : ((run ["new", "cv/doc.md"] : StateM FileTree Report).run tree).1.code = 0 := by
    decide +kernel
  rw [ran] at code
  obtain ⟨chosen, resolved, found, present, -⟩ := completed code
  exact ⟨asked, report, after, ran, code, others _ _ (by decide +kernel) (by decide +kernel),
    chosen, resolved, found, present⟩

/-- A document that may not be overwritten, behind a directory that is not there: the command ends well
and has overwritten it. -/
theorem new_overwrites_behind_missing :
    let tree : FileTree := {
      nodes := [(["doc.md", "work"], .file (.ofText "mine")), (["work"], .directory)] }
    let words := ["new", "missing/../doc.md"]
    let ran := (run words : StateM FileTree Report).run tree
    parse words = some (.run ⟨false, false, .new "missing/../doc.md" "default" false⟩) ∧
      ran.1.code = successCode ∧
      tree.file? ["doc.md", "work"] = some (.ofText "mine") ∧
      ran.2.file? ["doc.md", "work"] = some (.ofText Theme.Default.theme.defaultContent) ∧
      ran.2.file? ["doc.md", "work"] ≠ tree.file? ["doc.md", "work"] := by
  intro tree words ran
  have asked : parse words =
      some (.run ⟨false, false, .new "missing/../doc.md" "default" false⟩) := by decide +kernel
  have code : ran.1.code = successCode := by decide +kernel
  have mine : tree.file? ["doc.md", "work"] = some (.ofText "mine") := by decide +kernel
  have other : ran.2.file? ["doc.md", "work"] =
      some (.ofText Theme.Default.theme.defaultContent) := by
    obtain ⟨report, result, after, same, left, ended⟩ := run_of_new asked tree
    rw [show ran = (report, after) from same] at code ⊢
    obtain ⟨-, rfl⟩ := ended.resolve_right fun failed => by
      rw [show report.code = successCode from code] at failed
      exact absurd failed.1 (by decide)
    obtain ⟨chosen, resolved, found, -⟩ := left.completed
    have sample : ThemeRegistry.builtin.resolve "default" = .ok Theme.Default.theme := rfl
    obtain rfl := Except.ok.inj (sample.symm.trans resolved)
    have place : tree.placeOf "missing/../doc.md" = ["doc.md", "work"] := by decide +kernel
    rw [← place, ← left.kept.placeOf]
    exact file?_of_find found
  refine ⟨asked, code, mine, other, ?_⟩
  rw [other, mine]
  intro same
  have texts := String.toByteArray_inj.1 (Content.bytes.inj (Option.some.inj same))
  exact absurd texts (by decide +kernel)

end Command

end PagePress
