import PagePress.Build.Basic

/-!
# What a build hands to its save

A build prepares the whole site before anything is saved. The names of its files differ and are short
enough for an archive, so that preparing fails exactly where rendering does.
-/
namespace PagePress

namespace Bundle

theorem insert_fresh {bundle : Bundle} {name : String} (fresh : name ∉ bundle.names)
    (file : BundleFile) :
    ∃ out, bundle.insert name file = .ok out ∧ out.archiveName = bundle.archiveName ∧
      out.files = bundle.files ++ [(name, file)] := by
  rw [insert, dif_neg fresh]
  exact ⟨_, rfl, rfl, rfl⟩

/-- Files with fresh and different names can all be added. -/
theorem insertAll_fresh {bundle : Bundle} {files : List (String × BundleFile)}
    (fresh : (bundle.names ++ files.map Prod.fst).Nodup) :
    ∃ out, bundle.insertAll files = .ok out ∧ out.archiveName = bundle.archiveName ∧
      out.files = bundle.files ++ files := by
  induction files generalizing bundle with
  | nil => exact ⟨bundle, rfl, rfl, by simp⟩
  | cons entry rest ih =>
    obtain ⟨name, file⟩ := entry
    have unused : name ∉ bundle.names := by
      intro member
      exact (List.nodup_append.1 fresh).2.2 name member name (by simp) rfl
    obtain ⟨next, inserted, archiveName, files⟩ := insert_fresh unused file
    have names : next.names = bundle.names ++ [name] := by simp [Bundle.names, files]
    obtain ⟨out, rest_inserted, rest_name, rest_files⟩ :=
      @ih next (by simpa [names] using fresh)
    refine ⟨out, ?_, rest_name.trans archiveName, by simp [rest_files, files]⟩
    simp only [insertAll, List.foldlM_cons, inserted]
    exact rest_inserted

/-- A bundle whose names are short enough has an archive, with one entry for each file. -/
theorem archive_of_short {bundle : Bundle}
    (short : ∀ name ∈ bundle.names, name.utf8ByteSize ≤ Archive.maxNameBytes) :
    bundle.archive = .ok ⟨bundle.files.map fun (name, file) => ⟨name, file.bytes⟩⟩ := by
  rw [archive, if_pos]
  simp only [List.all_eq_true, decide_eq_true_eq]
  exact fun entry member => short entry.1 (List.mem_map_of_mem member)

end Bundle

namespace BuildOptions

/-- The names of the files of a site are among those of `SiteFile`. -/
theorem files_names (options : BuildOptions) (theme : Theme) (source html : String) :
    (options.files theme source html).map Prod.fst =
      [SiteFile.page.name, SiteFile.stylesheet.name] ++
        if options.includeSource then [SiteFile.source.name] else [] := by
  unfold files
  cases options.includeSource <;> rfl

theorem files_names_nodup (options : BuildOptions) (theme : Theme) (source html : String) :
    ((options.files theme source html).map Prod.fst).Nodup := by
  rw [files_names]
  cases options.includeSource <;> decide

theorem files_names_short (options : BuildOptions) (theme : Theme) (source html : String) :
    ∀ name ∈ (options.files theme source html).map Prod.fst,
      name.utf8ByteSize ≤ Archive.maxNameBytes := by
  rw [files_names]
  cases options.includeSource <;> decide

/-- The bundle of a site. -/
def site (options : BuildOptions) (theme : Theme) (source html : String) : Bundle where
  archiveName := options.archiveName
  files := options.files theme source html
  names_nodup := options.files_names_nodup theme source html

/-- The bundle of a site with its archive. -/
def job (options : BuildOptions) (theme : Theme) (source html : String) : Job where
  bundle := options.site theme source html
  archive := ⟨(options.files theme source html).map fun (name, file) => ⟨name, file.bytes⟩⟩

/-- Preparing a site fails exactly where rendering does, and with the same cause. -/
theorem prepare_eq (options : BuildOptions) (source themeId : String) :
    options.prepare source themeId =
      match options.pipeline.tryRender source with
      | .error (.refused refusal) => .error (.refused refusal)
      | .error .crashed => .error .crashed
      | .ok html => .ok (options.job (options.registry.resolveOrFallback themeId) source html) := by
  unfold prepare
  cases rendered : options.pipeline.tryRender source with
  | error e => cases e <;> rfl
  | ok html =>
    let theme := options.registry.resolveOrFallback themeId
    let empty : Bundle := { archiveName := options.archiveName }
    have fresh : (empty.names ++ (options.files theme source html).map Prod.fst).Nodup := by
      simpa [empty, Bundle.names] using options.files_names_nodup theme source html
    obtain ⟨bundle, inserted, archiveName, files⟩ := Bundle.insertAll_fresh fresh
    have same : bundle = options.site theme source html := by
      cases bundle
      simp only [empty, List.nil_append] at archiveName files
      subst archiveName files
      rfl
    have short : ∀ name ∈ (options.site theme source html).names,
        name.utf8ByteSize ≤ Archive.maxNameBytes := options.files_names_short theme source html
    have packed := Bundle.archive_of_short short
    simp only [empty, theme] at inserted same packed
    simp only [inserted, same, packed]
    rfl

/-- Every job is that of some document that was rendered. -/
theorem prepare_eq_ok_iff (options : BuildOptions) (source themeId : String) (job : Job) :
    options.prepare source themeId = .ok job ↔
      ∃ html, options.pipeline.tryRender source = .ok html ∧
        job = options.job (options.registry.resolveOrFallback themeId) source html := by
  rw [prepare_eq]
  cases options.pipeline.tryRender source with
  | error e => cases e <;> simp
  | ok html => simp [eq_comm]

theorem prepare_archiveName {options : BuildOptions} {source themeId : String} {job : Job}
    (h : options.prepare source themeId = .ok job) :
    job.bundle.archiveName = options.archiveName := by
  obtain ⟨html, -, rfl⟩ := (options.prepare_eq_ok_iff source themeId job).1 h
  rfl

end BuildOptions

end PagePress
