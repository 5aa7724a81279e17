import PagePress.Proofs.Build.Site
import PagePress.Proofs.Command.Settings
import PagePress.Proofs.Config

/-!
# New documents and their settings
-/
namespace PagePress

open FileTree

namespace Config

/-- The settings beside a document are written where they are looked for. -/
theorem locate_pathBeside (tree : FileTree) (path : String) :
    tree.locate (pathBeside path) = tree.locate (Path.join (Path.directory path) fileName) := by
  unfold pathBeside Path.directory
  cases Path.parent? path with
  | none => rfl
  | some parent =>
    rw [Option.getD_some]
    dsimp only
    split
    next here =>
      rw [String.isEmpty_iff.1 here]
      rfl
    · rfl

end Config

namespace Scaffold

variable {tree after made drafted : FileTree} {path themeId : String} {force : Bool}
  {registry : ThemeRegistry} {theme : Theme} {written : List String}

theorem run_makeDirectory (path : String) (tree : FileTree) :
    ∃ result made, (makeDirectory path : StateM FileTree _).run tree = (result, made) ∧
      Grown tree made := by
  unfold makeDirectory
  split
  · exact ⟨_, _, rfl, .refl tree⟩
  next parent _ =>
    split
    · exact ⟨_, _, rfl, .refl tree⟩
    · rw [run_bind, run_createDirectories]
      have grown := tree.grown_createDirectories parent
      revert grown
      rcases tree.createDirectories parent with ⟨made, e | _⟩ <;> intro grown
      · exact ⟨_, _, rfl, grown⟩
      · exact ⟨_, _, rfl, grown⟩

theorem run_writeText (path text : String) (tree : FileTree) :
    (writeText path text : StateM FileTree _).run tree =
      match tree.write path (Content.ofText text) with
      | .error e => (.error (.cannotWrite path e), tree)
      | .ok later => (.ok (), later) := by
  rw [writeText, run_bind, run_write]
  cases tree.write path (Content.ofText text) <;> rfl

/-- Settings are written unless there are some. -/
theorem run_writeConfig (path : String) (theme : Theme) (tree : FileTree) :
    (writeConfig path theme : StateM FileTree _).run tree =
      let config := Config.pathBeside path
      if tree.isPresent config then (([], .ok ()), tree)
      else
        match tree.write config (Content.ofText (Config.forTheme theme.id)) with
        | .error e => (([], .error (.cannotWrite config e)), tree)
        | .ok later => (([config], .ok ()), later) := by
  rw [writeConfig, run_bind, run_isPresent]
  dsimp only
  split
  · rfl
  · rw [run_bind, run_writeText]
    cases tree.write (Config.pathBeside path) (Content.ofText (Config.forTheme theme.id)) <;> rfl

/-- What a new document leaves, by its first step that fails. -/
theorem run_create (registry : ThemeRegistry) (path themeId : String) (force : Bool)
    (tree : FileTree) :
    (create registry path themeId force : StateM FileTree _).run tree =
      if tree.isPresent path && !force then (([], .error (.alreadyExists path)), tree)
      else
        match registry.resolve themeId with
        | .error e => (([], .error (.unknownTheme path e)), tree)
        | .ok theme =>
          match (makeDirectory path : StateM FileTree _).run tree with
          | (.error e, made) => (([], .error e), made)
          | (.ok (), made) =>
            match made.write path (Content.ofText theme.defaultContent) with
            | .error e => (([], .error (.cannotWrite path e)), made)
            | .ok drafted =>
              let settled := (writeConfig path theme : StateM FileTree _).run drafted
              ((path :: settled.1.1, settled.1.2), settled.2) := by
  rw [create, run_bind, run_isPresent]
  dsimp only
  split
  · rfl
  · cases registry.resolve themeId with
    | error e => rfl
    | ok theme =>
      dsimp only
      rw [writeAll, run_bind]
      rcases (makeDirectory path : StateM FileTree _).run tree with ⟨e | _, made⟩
      · rfl
      · dsimp only
        rw [run_bind, run_writeText]
        cases made.write path (Content.ofText theme.defaultContent) with
        | error e => rfl
        | ok drafted =>
          dsimp only
          rw [run_bind]
          rcases (writeConfig path theme : StateM FileTree _).run drafted with ⟨⟨_, _⟩, _⟩
          rfl

theorem of_run_writeConfig
    (ran : (writeConfig path theme : StateM FileTree _).run drafted = ((written, .ok ()), after)) :
    drafted.isPresent (Config.pathBeside path) = true ∧ after = drafted ∨
    drafted.isPresent (Config.pathBeside path) = false ∧ drafted.write (Config.pathBeside path)
      (Content.ofText (Config.forTheme theme.id)) = .ok after := by
  rw [run_writeConfig] at ran
  dsimp only at ran
  split at ran
  next present => exact .inl ⟨present, (congrArg Prod.snd ran).symm⟩
  next missing =>
    split at ran
    · cases ran
    next later wrote =>
      obtain rfl : later = after := congrArg Prod.snd ran
      exact .inr ⟨by simpa using missing, wrote⟩

/-- A new document that is made has gone through all its steps. -/
theorem of_run_create
    (ran : (create registry path themeId force : StateM FileTree _).run tree =
      ((written, .ok ()), after)) :
    ∃ theme made drafted written, registry.resolve themeId = .ok theme ∧
      (makeDirectory path : StateM FileTree _).run tree = (.ok (), made) ∧
      made.write path (Content.ofText theme.defaultContent) = .ok drafted ∧
      (writeConfig path theme : StateM FileTree _).run drafted = ((written, .ok ()), after) := by
  rw [run_create] at ran
  split at ran
  · cases ran
  · split at ran
    · cases ran
    next theme resolved =>
      split at ran
      · cases ran
      next made first =>
        split at ran
        · cases ran
        next drafted second =>
          rcases third : (writeConfig path theme : StateM FileTree _).run drafted with
            ⟨⟨files, result⟩, last⟩
          rw [third] at ran
          obtain ⟨own, rfl⟩ := Prod.mk.inj ran
          obtain ⟨-, rfl⟩ := Prod.mk.inj own
          exact ⟨theme, made, drafted, files, resolved, first, second, third⟩

/-- The theme that is asked for bears the identifier it is asked for by. -/
theorem id_of_resolve (resolved : registry.resolve themeId = .ok theme) : theme.id = themeId := by
  unfold ThemeRegistry.resolve at resolved
  split at resolved
  next found =>
    obtain rfl := Except.ok.inj resolved
    simpa using List.find?_some found
  · cases resolved

/-- Where the settings of a new document are looked for before they are written. -/
structure Drafted (made drafted : FileTree) (path : String) : Prop where
  /-- The directory of the document is the one that the settings lie in. -/
  beside : drafted.placeOf (Path.directory path) = (drafted.placeOf path).tail
  /-- Writing the document has left the settings as they were. -/
  settings : drafted.get? (Config.fileName :: (drafted.placeOf path).tail) =
    made.get? (Config.fileName :: (drafted.placeOf path).tail)

theorem drafted_of_write {content : Content}
    (named : (Path.names path).getLast? ≠ some Config.fileName)
    (wrote : made.write path content = .ok drafted) :
    Drafted made drafted path ∧ Kept made drafted := by
  obtain ⟨directory, name, names, -, free, rfl⟩ := write_eq_ok_iff.1 wrote
  have filled : name :: directory ≠ [] := List.cons_ne_nil _ _
  have other : Config.fileName ≠ name := by
    rintro rfl
    obtain ⟨before, shape, -⟩ := names.shape
    exact named (by rw [shape, List.getLast?_concat])
  refine ⟨⟨?_, ?_⟩, .put filled (.inr free)⟩
  · rw [placeOf_put, placeOf_put, names.placeOf_directory, names.placeOf, List.tail_cons]
  · rw [placeOf_put, names.placeOf, List.tail_cons, get?_put filled,
      if_neg fun same => other (List.cons.inj same).1]

/-- After a new document has been made, the settings beside it are those it was made with, unless
the way to the document goes through a directory of their name that is made for it. -/
theorem settings_read_back (created :
      (create registry path themeId force : StateM FileTree _).run tree = ((written, .ok ()), after))
    (named : (Path.names path).getLast? ≠ some "homepage.json")
    (fresh : tree.get? ("homepage.json" :: (tree.placeOf path).tail) = none) :
    ∃ theme made, registry.resolve themeId = .ok theme ∧ theme.id = themeId ∧
      (makeDirectory path : StateM FileTree _).run tree = (.ok (), made) ∧
      (made.get? ("homepage.json" :: (tree.placeOf path).tail) = none ∧
        (Config.loadFor path : StateM FileTree _).run after =
          (.ok ({
            defaultTheme := themeId
            includeSource := true
            outDir := Path.join (Path.directory path) "dist"
            maxSourceBytes := 8 * 1024 * 1024 },
            some (Path.join (Path.directory path) "homepage.json")), after) ∧
        after.placeOf (Path.join (Path.directory path) "dist") =
          "dist" :: (after.placeOf path).tail ∧
        registry.resolveOrFallback themeId = theme ∧
        (∀ quiet out noSource,
          (Command.build registry quiet path none out noSource : StateM FileTree _).run after =
          (Command.build registry quiet path (some themeId) out noSource : StateM FileTree _).run
            after) ∨
      made.get? ("homepage.json" :: (tree.placeOf path).tail) = some .directory ∧
        (Config.loadFor path : StateM FileTree _).run after =
          (.error (.unreadable (Path.join (Path.directory path) "homepage.json") .isDirectory),
            after)) := by
  obtain ⟨theme, made, drafted, _, resolved, first, second, third⟩ := of_run_create created
  obtain ⟨_, _, same, grown⟩ := run_makeDirectory path tree
  obtain ⟨rfl, rfl⟩ := Prod.mk.inj (first.symm.trans same)
  obtain ⟨⟨beside, settings⟩, kept⟩ := drafted_of_write named second
  have place : drafted.placeOf path = tree.placeOf path := by
    rw [kept.placeOf, grown.toKept.placeOf]
  rw [place] at beside settings
  have plain : Path.Plain Config.fileName := by decide
  have id := id_of_resolve resolved
  refine ⟨theme, made, resolved, id, first, ?_⟩
  rcases of_run_writeConfig third with ⟨present, rfl⟩ | ⟨missing, wrote⟩
  · -- There is something in the place of the settings, which can only be a directory.
    obtain ⟨node, found⟩ := isPresent_eq_true_iff.1 present
    rw [find_congr (Config.locate_pathBeside _ path)] at found
    have here := get?_of_find_join plain found
    rw [beside, settings] at here
    obtain rfl := grown.eq_directory fresh here
    exact .inr ⟨here, Config.run_loadFor_of_directory found⟩
  · rw [write_congr (Config.locate_pathBeside _ path)] at wrote
    obtain ⟨last, found, -⟩ := of_write wrote
    have vacant : made.get? ("homepage.json" :: (tree.placeOf path).tail) = none := by
      obtain ⟨directory, name, names, -, free, -⟩ := write_eq_ok_iff.1 wrote
      rw [← names.placeOf, placeOf_join plain, beside, settings] at free
      cases here : made.get? ("homepage.json" :: (tree.placeOf path).tail) with
      | none => rfl
      | some node =>
        obtain rfl := grown.eq_directory fresh here
        exact absurd here free
    have loaded := Config.run_loadFor_of_found found
      (BundleFile.fromUTF8?_bytes (Config.forTheme theme.id)) (Config.parse_forTheme theme.id)
    rw [id] at loaded
    refine .inl ⟨vacant, loaded, ?_, ?_, ?_⟩
    · rw [placeOf_join (by decide), last.placeOf, last.placeOf, beside, place]
    · rw [ThemeRegistry.resolveOrFallback, resolved]
    · intro quiet out noSource
      rw [Command.build, Command.build, run_bind, run_bind, loaded]
      rfl

/-- A document in an empty directory, and the theme it is made with. -/
theorem modern_read_back :
    ∃ written after, (create .builtin "doc.md" "modern" false : StateM FileTree _).run {} =
        ((written, .ok ()), after) ∧
      (Config.loadFor "doc.md" : StateM FileTree _).run after = (.ok ({
        defaultTheme := "modern"
        includeSource := true
        outDir := Path.join (Path.directory "doc.md") "dist"
        maxSourceBytes := 8 * 1024 * 1024 },
        some (Path.join (Path.directory "doc.md") "homepage.json")), after) := by
  have done : ((create .builtin "doc.md" "modern" false : StateM FileTree _).run {}).1.2 =
      .ok () := by decide +kernel
  have created : (create .builtin "doc.md" "modern" false : StateM FileTree _).run {} =
      ((_, .ok ()), _) := Prod.ext (Prod.ext rfl done) rfl
  obtain ⟨theme, made, -, -, first, ends⟩ :=
    settings_read_back created (by decide +kernel) (by decide +kernel)
  rcases ends with ⟨-, loaded, -⟩ | ⟨blocked, -⟩
  · exact ⟨_, _, created, loaded⟩
  · obtain rfl : {} = made := congrArg Prod.snd first
    exact absurd blocked (by decide +kernel)

/-- A document behind a directory with the name of the settings: it is made, and its settings cannot
be read. -/
theorem settings_directory_unreadable :
    let path := "homepage.json/../doc.md"
    let made := (create .builtin path "default" false : StateM FileTree _).run {}
    made.1 = ([path], .ok ()) ∧
      (Path.names path).getLast? = some "doc.md" ∧
      ({} : FileTree).get? ["homepage.json", "work"] = none ∧
      ((Config.loadFor path : StateM FileTree _).run made.2).1 =
        .error (.unreadable "homepage.json/../homepage.json" .isDirectory) := by
  decide +kernel

end Scaffold

end PagePress
