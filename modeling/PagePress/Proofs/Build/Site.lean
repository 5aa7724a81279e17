import PagePress.Preview
import PagePress.Proofs.Build.Calls

/-!
# The site of a document

A build that returns with a bundle has made the whole site of its document: the page and the
stylesheet that a preview shows, and the source, from which the same site can be built again. What a
preview shows for a document that is refused never comes into a site.
-/
namespace PagePress

/-- A text is read back from the bytes of its file. -/
theorem BundleFile.fromUTF8?_bytes (s : String) :
    String.fromUTF8? (BundleFile.text s).bytes = some s := by
  show String.fromUTF8? s.toByteArray = some s
  rw [String.fromUTF8?, dif_pos s.isValidUTF8]
  rfl

namespace ThemeRegistry

/-- The theme of a site is the one that is asked for, or else the fallback. -/
theorem resolveOrFallback_cases (registry : ThemeRegistry) (id : String) :
    registry.resolve id = .ok (registry.resolveOrFallback id) ∨
    registry.resolve id = .error (.unknown id) ∧
      registry.resolveOrFallback id = registry.fallback := by
  unfold resolveOrFallback resolve
  cases registry.themes.find? (·.id == id) with
  | some theme => exact .inl rfl
  | none => exact .inr ⟨rfl, rfl⟩

end ThemeRegistry

namespace BuildOptions

/-- No file of a site is refused by the bundle. -/
theorem prepare_ne_bundle (options : BuildOptions) (source themeId : String) (error : BundleError) :
    options.prepare source themeId ≠ .error (.bundle error) := by
  rw [prepare_eq]
  split <;> simp

/-- The source in the archive of a site is the source of the document. -/
theorem source_of_entry {options : BuildOptions} {theme : Theme} {source html : String}
    {entry : Archive.Entry} (member : entry ∈ (options.job theme source html).archive.entries)
    (named : entry.name = SiteFile.source.name) : entry.data = (BundleFile.text source).bytes := by
  obtain ⟨⟨name, file⟩, listed, rfl⟩ := List.mem_map.1 member
  change name = SiteFile.source.name at named
  rcases List.mem_append.1 listed with shown | own
  · have other : name = SiteFile.page.name ∨ name = SiteFile.stylesheet.name := by
      simp only [List.mem_cons, Prod.mk.injEq, List.not_mem_nil, or_false] at shown
      exact shown.imp And.left And.left
    rcases other with rfl | rfl
    · exact absurd named (by decide)
    · exact absurd named (by decide)
  · split at own
    next =>
      simp only [List.mem_singleton, Prod.mk.injEq] at own
      rw [own.2]
    next => cases own

/-- A site depends on its source and its theme, however the theme is asked for. -/
theorem prepare_of_theme (options : BuildOptions) (source : String) {themeId other : String}
    (same : options.registry.resolveOrFallback other = options.registry.resolveOrFallback themeId) :
    options.prepare source other = options.prepare source themeId := by
  rw [prepare_eq, prepare_eq, same]

end BuildOptions

namespace Builder

/-- What a build returns that finds the builder free, with nothing else going on. -/
theorem result?_build {t : Trail} (acc : t.Accounted) (att : t.Attended)
    (free : t.builder.state ≠ .building) (source themeId : String) (outcome : SaveOutcome) :
    (t.builder.build source themeId outcome).result? =
      some (t.builder.options.prepare source themeId >>= (result · outcome)) := by
  have nobody : t.builder.holders = [] :=
    Classical.not_not.1 fun held => free (acc.gate.building_iff.2 held)
  cases prepared : t.builder.options.prepare source themeId with
  | error failure =>
    rw [build_of_unprepared acc att nobody prepared]
    rfl
  | ok job =>
    rw [build_of_prepared acc att nobody prepared]
    rfl

/-- Preparing a document fails with the refusal of its source or with a crash of its rendering, and
never because a file is in the bundle already. A build that finds the builder free comes to this, or
to what its save comes to; so does every build of a run, whatever else goes on. If it returns with a
bundle, its files are the page of the theme around the rendered source, the stylesheet of the theme,
and, if it is wanted, the source as it was; a preview with the usual themes and pipeline shows the
same page and stylesheet; and the source in the archive, built again with the same theme, gives the
same bundle. -/
theorem sites_complete (options : BuildOptions) (moves : List Move) :
    let t := Builder.follow { options } moves
    (∀ source themeId,
      options.prepare source themeId =
        (match options.pipeline.tryRender source with
        | .error (.refused refusal) => .error (.refused refusal)
        | .error .crashed => .error .crashed
        | .ok html =>
          .ok (options.job (options.registry.resolveOrFallback themeId) source html)) ∧
      ∀ error, options.prepare source themeId ≠ .error (.bundle error)) ∧
    (t.builder.state ≠ .building → ∀ source themeId outcome,
      (t.builder.build source themeId outcome).result? =
        some (options.prepare source themeId >>= (result · outcome))) ∧
    (∀ call ∈ calls moves t.log, ∀ ticket, call.ticket? = some ticket →
      ∀ result, call.Returns t.log result →
        Yields options t.log ticket call.source call.themeId result) ∧
    ∀ call ∈ calls moves t.log, ∀ job, call.Returns t.log (.ok job) → ∃ theme html,
      (options.registry.resolve call.themeId = .ok theme ∨
        options.registry.resolve call.themeId = .error (.unknown call.themeId) ∧
          theme = options.registry.fallback) ∧
      options.pipeline.tryRender call.source = .ok html ∧
      options.pipeline.render call.source = .ok html ∧
      job.bundle.files =
        [("index.html", .text (theme.page html)), ("stylesheet.css", .text theme.stylesheet)] ++
          (if options.includeSource then [("sourcecode.md", .text call.source)] else []) ∧
      job.archive.entries = job.bundle.files.map (fun (name, file) => ⟨name, file.bytes⟩) ∧
      (options.registry = .builtin → options.pipeline = {} →
        Preview.page call.source call.themeId = .ok (theme.page html) ∧
        Preview.stylesheet call.themeId = theme.stylesheet) ∧
      ∀ entry ∈ job.archive.entries, entry.name = "sourcecode.md" →
        ∃ again, String.fromUTF8? entry.data = some again ∧
          ∀ others themeId, options.registry.resolveOrFallback themeId = theme →
            let later := Builder.follow { options } others
            later.builder.state ≠ .building →
              (later.builder.build again themeId .stored).result? = some (.ok job) := by
  intro t
  have free : ∀ others, (Builder.follow { options } others).builder.state ≠ .building →
      ∀ source themeId outcome,
        ((Builder.follow { options } others).builder.build source themeId outcome).result? =
          some (options.prepare source themeId >>= (result · outcome)) := by
    intro others free source themeId outcome
    rw [result?_build (accounted options others) (attended options others) free, options_of_run]
  refine ⟨fun source themeId => ⟨options.prepare_eq source themeId,
    options.prepare_ne_bundle source themeId⟩, free moves, ?_, ?_⟩
  · exact fun call member ticket has result returned => yields_of_returns member has returned
  intro call member job returned
  obtain ⟨-, -, prepared, -⟩ := prepared_of_ok member returned
  obtain ⟨html, rendered, rfl⟩ :=
    (options.prepare_eq_ok_iff call.source call.themeId job).1 prepared
  refine ⟨options.registry.resolveOrFallback call.themeId, html,
    options.registry.resolveOrFallback_cases call.themeId, rendered,
    Pipeline.render_of_tryRender rendered, rfl, rfl, ?_, ?_⟩
  · intro builtin usual
    have shown : Preview.render call.source = .ok html := by
      rw [Preview.render, ← usual, Pipeline.render_of_tryRender rendered]
    rw [Preview.page, shown, Preview.stylesheet, Preview.theme, ← builtin]
    exact ⟨rfl, rfl⟩
  · intro entry listed named
    refine ⟨call.source, ?_, fun others themeId theme idle => ?_⟩
    · rw [BuildOptions.source_of_entry listed named, BundleFile.fromUTF8?_bytes]
    · rw [free others idle, options.prepare_of_theme call.source theme, prepared]
      rfl

end Builder

end PagePress
