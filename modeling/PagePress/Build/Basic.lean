import PagePress.Bundle
import PagePress.Pipeline
import PagePress.Theme.Registry

/-!
# Building a site

A document is rendered, put into the page of a theme, and packed with the stylesheet and, if wanted,
its source. Whoever takes the archive does so last; nothing is handed over before it is complete.
-/
namespace PagePress

/-- What a build works with. -/
structure BuildOptions where
  registry : ThemeRegistry := .builtin
  pipeline : Pipeline := {}
  /-- Whether the source goes into the archive. -/
  includeSource : Bool := true
  archiveName : String := defaultArchiveName

/-- Why a build gives no bundle. -/
inductive BuildFailure where
  | busy
  | refused (refusal : Refusal)
  | bundle (error : BundleError)
  /-- Packing or saving came to an unnatural end. -/
  | interrupted
  /-- Rendering came to an unnatural end. -/
  | crashed
  deriving DecidableEq, Repr

def BuildFailure.message : BuildFailure → String
  | busy => "Another build is already in progress"
  | refused refusal => refusal.message
  | bundle error => error.message
  | interrupted => "Archive task did not complete"
  | crashed => ""

/-- A bundle and the archive to be saved. -/
structure Job where
  bundle : Bundle
  archive : Archive

namespace BuildOptions

/-- The files of a site, in order. -/
def files (options : BuildOptions) (theme : Theme) (source html : String) :
    List (String × BundleFile) :=
  [(SiteFile.page.name, .text (theme.page html)),
    (SiteFile.stylesheet.name, .text theme.stylesheet)] ++
  if options.includeSource then [(SiteFile.source.name, .text source)] else []

/-- Everything up to the moment of saving. -/
def prepare (options : BuildOptions) (source themeId : String) : Except BuildFailure Job :=
  let theme := options.registry.resolveOrFallback themeId
  match options.pipeline.tryRender source with
  | .error (.refused refusal) => .error (.refused refusal)
  | .error .crashed => .error .crashed
  | .ok html =>
    let empty : Bundle := { archiveName := options.archiveName }
    match empty.insertAll (options.files theme source html) with
    | .error error => .error (.bundle error)
    | .ok bundle =>
      match bundle.archive with
      | .error _ => .error .interrupted
      | .ok archive => .ok ⟨bundle, archive⟩

end BuildOptions

end PagePress
