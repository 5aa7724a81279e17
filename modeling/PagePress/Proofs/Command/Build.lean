import PagePress.Proofs.Build.Site
import PagePress.Proofs.Command.Settings
import PagePress.Proofs.Files.Save

/-!
# Builds from the command line

A build from the command line changes the archive or no file at all.
-/
namespace PagePress

/-- Bytes that are read as a text are the bytes of the text. -/
theorem BundleFile.bytes_of_fromUTF8? {data : ByteArray} {s : String}
    (read : String.fromUTF8? data = some s) : (BundleFile.text s).bytes = data := by
  unfold String.fromUTF8? at read
  split at read
  · rw [← Option.some.inj read]
    rfl
  · cases read

/-- A document that cannot be prepared never comes to the save of a new builder. -/
theorem Builder.towardsSave_of_unprepared {options : BuildOptions} {source themeId : String}
    {failure : BuildFailure} (prepared : options.prepare source themeId = .error failure) :
    (follow { options } (towardsSave 0 source themeId)).log =
      [.letIn 0, .ended 0 (.error failure)] := by
  simp [follow, towardsSave, Trail.move, advance, letIn?, progress?, prepared, finish, letGo, save?]

namespace Command

/-- A build of a single site is its preparation and then its save. -/
theorem buildInto_eq {m : Type → Type} [Monad m] [Disk m] (options : BuildOptions)
    (directory source themeId : String) :
    (buildInto options directory source themeId : m _) =
      match options.prepare source themeId with
      | .error failure => pure (.error failure)
      | .ok job => do
        let saved ← Disk.save directory job.bundle.archiveName (.archive job.archive)
        return (Builder.result job (saveOutcome saved)).map Job.bundle := by
  unfold buildInto
  cases prepared : options.prepare source themeId with
  | error failure =>
    have log := Builder.towardsSave_of_unprepared prepared
    have uncalled : (Builder.follow { options } (Builder.towardsSave 0 source themeId)).called? =
        none := by
      rw [Trail.called?, log]
      rfl
    have returned : (Builder.follow { options } (Builder.towardsSave 0 source themeId)).result? =
        some (.error failure) := by
      rw [Trail.result?, log]
      rfl
    simp only [uncalled, returned]
    rfl
  | ok job =>
    have entered :=
      Builder.towardsSave_of_prepared (b := { options }) rfl (by simp) (by simp) prepared
    simp only at entered
    simp only [entered]
    rfl

variable {tree after : FileTree} {report : Report} {file : String} {theme out : Option String}
  {noSource : Bool}

theorem report_code_eq_zero {wanted : Verbosity} {outcome : Outcome} :
    (outcome.report wanted).code = 0 ↔ outcome.result = .ok () := by
  unfold Outcome.report
  rcases outcome.result with (message | -) | -
  · simp [failureCode]
  · simp [crashCode]
  · simp [successCode]

open FileTree in
theorem run_buildInto (options : BuildOptions) (directory source themeId : String)
    (tree : FileTree) :
    (∃ failure, (buildInto options directory source themeId : StateM FileTree _).run tree =
      (.error failure, tree)) ∨
    ∃ job, options.prepare source themeId = .ok job ∧ ∃ saved after,
      (Disk.save directory options.archiveName (.archive job.archive) : StateM FileTree _).run
        tree = (saved, after) ∧
      (buildInto options directory source themeId : StateM FileTree _).run tree =
        ((Builder.result job (saveOutcome saved)).map Job.bundle, after) := by
  rw [buildInto_eq]
  cases prepared : options.prepare source themeId with
  | error failure => exact .inl ⟨failure, rfl⟩
  | ok job =>
    rw [← BuildOptions.prepare_archiveName prepared]
    exact .inr ⟨job, rfl, _, _, rfl, rfl⟩

open FileTree in
/-- A build ends before its save with the tree as it was, or else it ends as its save does. -/
theorem run_build (registry : ThemeRegistry) (quiet : Bool) (file : String)
    (theme out : Option String) (noSource : Bool) (tree : FileTree) :
    ∃ outcome after,
      (build registry quiet file theme out noSource : StateM FileTree Outcome).run tree =
        (outcome, after) ∧
      (outcome.result ≠ .ok () ∧ after = tree ∨
      ∃ config, Config.Beside tree file config ∧ ∃ source, tree.readText file = .ok source ∧
        let options : BuildOptions := {
          registry
          pipeline := { maxSourceBytes := config.maxSourceBytes }
          includeSource := config.includeSource && !noSource }
        let directory := out.getD (Path.join (Path.directory file) config.outDir)
        ∃ job, options.prepare source (theme.getD config.defaultTheme) = .ok job ∧ ∃ saved,
          (Disk.save directory defaultArchiveName (.archive job.archive) :
            StateM FileTree _).run tree = (saved, after) ∧
          (outcome.result = .ok () ↔ saved = .ok ())) := by
  obtain ⟨result, loaded, settings⟩ := Config.run_loadFor file tree
  unfold build
  rw [run_bind, loaded]
  rcases result with e | ⟨config, path⟩
  · exact ⟨_, _, rfl, .inl ⟨nofun, rfl⟩⟩
  obtain ⟨own, beside, rfl⟩ := settings config path rfl
  dsimp only
  rw [run_bind, run_readText]
  cases read : tree.readText file with
  | error e => exact ⟨_, _, rfl, .inl ⟨nofun, rfl⟩⟩
  | ok source =>
    dsimp only
    rw [run_bind]
    rcases run_buildInto {
        registry
        pipeline := { maxSourceBytes := own.maxSourceBytes }
        includeSource := own.includeSource && !noSource }
      (out.getD (Path.join (Path.directory file) own.outDir)) source
      (theme.getD own.defaultTheme) tree with
      ⟨failure, built⟩ | ⟨job, prepared, saved, after, saving, built⟩
    · rw [built]
      exact ⟨_, _, rfl, .inl ⟨nofun, rfl⟩⟩
    · rw [built]
      cases saved with
      | error e =>
        exact ⟨_, _, rfl,
          .inr ⟨own, beside, source, rfl, job, prepared, _, saving, ⟨nofun, nofun⟩⟩⟩
      | ok done =>
        exact ⟨_, _, rfl,
          .inr ⟨own, beside, source, rfl, job, prepared, _, saving, iff_of_true rfl rfl⟩⟩

/-- Where a build puts its archive. -/
def outputDirectory (file : String) (out : Option String) (config : Config) : String :=
  out.getD (Path.join (Path.directory file) config.outDir)

/-- The archive of a site, with its source or without it. -/
def siteArchive (theme : Theme) (html : String) (source : Option ByteArray) : Archive where
  entries := [⟨"index.html", (theme.page html).toUTF8⟩,
    ⟨"stylesheet.css", theme.stylesheet.toUTF8⟩] ++ (source.map (⟨"sourcecode.md", ·⟩)).toList

/-- What a build does that ends well: the settings it works with, the document it reads, the theme
it finds and the HTML it makes of the document, and that it changes the archive and no other file. -/
structure Built (registry : ThemeRegistry) (tree after : FileTree) (file : String)
    (theme out : Option String) (noSource : Bool) (config : Config) (data : ByteArray)
    (source : String) (chosen : Theme) (html : String) : Prop where
  settings : Config.Beside tree file config
  document : tree.find file = .ok (.file (.bytes data))
  text : String.fromUTF8? data = some source
  resolved : registry.resolve (theme.getD config.defaultTheme) = .ok chosen ∨
    registry.resolve (theme.getD config.defaultTheme) =
      .error (.unknown (theme.getD config.defaultTheme)) ∧ chosen = registry.fallback
  rendered : ({ maxSourceBytes := config.maxSourceBytes } : Pipeline).tryRender source = .ok html
  stored : after.find (Path.join (outputDirectory file out config) "homepage.zip") =
    .ok (.file (.archive
      (siteArchive chosen html (if config.includeSource && !noSource then some data else none))))
  files : ∀ place, after.file? place =
    if place = "homepage.zip" :: tree.placeOf (outputDirectory file out config) then
      some (.archive
        (siteArchive chosen html (if config.includeSource && !noSource then some data else none)))
    else tree.file? place

/-- The archive of a job holds the bytes that the source was read from. -/
theorem job_archive {options : BuildOptions} {theme : Theme} {source html : String}
    {data : ByteArray} (read : String.fromUTF8? data = some source) :
    (options.job theme source html).archive =
      siteArchive theme html (if options.includeSource then some data else none) := by
  rw [← BundleFile.bytes_of_fromUTF8? read, BuildOptions.job, BuildOptions.files]
  cases options.includeSource <;> rfl

open FileTree in
/-- A build with no file in the making where its archive goes does all that it is for or changes no
file. -/
theorem of_run_build {registry : ThemeRegistry} {quiet : Bool} {outcome : Outcome}
    (ran : (build registry quiet file theme out noSource : StateM FileTree Outcome).run tree =
      (outcome, after))
    (clear : ∀ config, Config.Beside tree file config → tree.file?
      (".homepage.zip.partial" :: tree.placeOf (outputDirectory file out config)) = none) :
    (outcome.result = .ok () → ∃ config data source chosen html,
      Built registry tree after file theme out noSource config data source chosen html) ∧
    (outcome.result ≠ .ok () → ∀ place, after.file? place = tree.file? place) := by
  have plain : Path.Plain defaultArchiveName := by decide
  have scratch : Disk.partialName defaultArchiveName = ".homepage.zip.partial" := by decide
  obtain ⟨_, _, same, ends⟩ := run_build registry quiet file theme out noSource tree
  obtain ⟨rfl, rfl⟩ := Prod.mk.inj (ran.symm.trans same)
  rcases ends with ⟨failed, rfl⟩ |
    ⟨config, beside, source, read, job, prepared, saved, saving, ended⟩
  · exact ⟨fun fine => absurd fine failed, fun _ _ => rfl⟩
  have none := clear config beside
  rw [← scratch] at none
  obtain ⟨content, found, readable⟩ := readText_eq_ok_iff.1 read
  obtain ⟨html, rendered, rfl⟩ := (BuildOptions.prepare_eq_ok_iff _ _ _ _).1 prepared
  constructor
  · intro fine
    obtain rfl := ended.1 fine
    obtain ⟨-, stored, files⟩ := Disk.save_stored plain saving
    cases content with
    | archive archive => cases readable
    | bytes data =>
      rw [job_archive readable] at stored files
      refine ⟨config, data, source, _, html, beside, found, readable,
        registry.resolveOrFallback_cases _, rendered, stored, fun place => ?_⟩
      by_cases target : place = "homepage.zip" :: tree.placeOf (outputDirectory file out config)
      · exact (files place).trans ((if_pos target).trans (if_pos target).symm)
      · refine (files place).trans ((if_neg target).trans (.trans ?_ (if_neg target).symm))
        split
        next making => exact none.symm.trans (making ▸ rfl)
        · rfl
  · intro failed
    cases saved with
    | ok done => exact absurd (ended.2 rfl) failed
    | error e =>
      obtain ⟨-, files⟩ := Disk.save_refused plain saving
      intro place
      rcases files place with same | ⟨rfl, gone⟩
      · exact same
      · exact gone.trans none.symm

open FileTree in
/-- A command line that asks for no work leaves the tree as it is. One that asks for a build, with
no file in the making where the archive goes, either ends well and has changed the archive alone,
which then holds the site of the document as it was; or it ends with another code and has changed no
file. -/
theorem build_archive_or_nothing (words : List String) (tree : FileTree) :
    ∃ report after, (run words : StateM FileTree Report).run tree = (report, after) ∧
      ((∀ invocation, parse words ≠ some (.run invocation)) → after = tree) ∧
      ∀ quiet verbose file theme out noSource,
        parse words = some (.run ⟨quiet, verbose, .build file theme out noSource⟩) →
        (∀ config, Config.Beside tree file config → tree.file?
          (".homepage.zip.partial" :: tree.placeOf (outputDirectory file out config)) = none) →
        (report.code = 0 → ∃ config data source chosen html,
          Built .builtin tree after file theme out noSource config data source chosen html) ∧
        (report.code ≠ 0 → ∀ place, after.file? place = tree.file? place) := by
  unfold run
  cases request : parse words with
  | none => exact ⟨_, _, rfl, fun _ => rfl, nofun⟩
  | some asked =>
    cases asked with
    | version => exact ⟨_, _, rfl, fun _ => rfl, nofun⟩
    | help => exact ⟨_, _, rfl, fun _ => rfl, nofun⟩
    | run invocation =>
      obtain ⟨outcome, after, ran⟩ : ∃ outcome after,
          (perform .builtin invocation.quiet invocation.task : StateM FileTree Outcome).run tree =
            (outcome, after) := ⟨_, _, rfl⟩
      refine ⟨_, after, by rw [run_bind, ran]; rfl, fun none => absurd rfl (none invocation), ?_⟩
      rintro quiet verbose file theme out noSource ⟨⟩ clear
      obtain ⟨fine, failed⟩ := of_run_build ran clear
      exact ⟨fun code => fine (report_code_eq_zero.1 code),
        fun code => failed (mt report_code_eq_zero.2 code)⟩

/-- A directory with one document, which is built there. -/
theorem build_of_heading :
    let tree : FileTree := {
      nodes := [(["doc.md", "work"], .file (.ofText "# Hi")), (["work"], .directory)] }
    ∃ report after, (run ["build", "doc.md"] : StateM FileTree Report).run tree = (report, after) ∧
      report.code = 0 ∧ ∃ config data source chosen html,
        Built .builtin tree after "doc.md" none none false config data source chosen html := by
  intro tree
  obtain ⟨report, after, ran, -, ends⟩ := build_archive_or_nothing ["build", "doc.md"] tree
  have code : ((run ["build", "doc.md"] : StateM FileTree Report).run tree).1.code = 0 := by
    decide +kernel
  rw [ran] at code
  have asked : parse ["build", "doc.md"] =
      some (.run ⟨false, false, .build "doc.md" none none false⟩) := by decide +kernel
  have missing : tree.isPresent (Path.join (Path.directory "doc.md") Config.fileName) = false := by
    decide +kernel
  refine ⟨report, after, ran, code, (ends _ _ _ _ _ _ asked ?_).1 code⟩
  intro config beside
  cases beside with
  | usual => decide +kernel
  | written found => simp [FileTree.isPresent, found] at missing

end Command

end PagePress
