import PagePress.Build.Basic

/-!
# Notices

What the program remarks on its work. The remarks are worked out beside the work they are about,
which does not depend on them.
-/
namespace PagePress

inductive Severity where
  | warning
  | information
  | debug
  deriving DecidableEq, Repr

/-- The word for a severity, filled up to five characters. -/
def Severity.tag : Severity → String
  | warning => "WARN "
  | information => "INFO "
  | debug => "DEBUG"

/-- The part of the program that makes a remark. -/
inductive Reporter where
  | config
  | theme
  | pipeline
  | math
  | bundle
  | builder
  deriving DecidableEq, Repr

def Reporter.name : Reporter → String
  | config => "homepage::config"
  | theme => "homepage_core::theme"
  | pipeline => "homepage_core::transform"
  | math => "homepage_core::transform::math"
  | bundle => "homepage_core::bundle"
  | builder => "homepage_core::bundler"

structure Notice where
  severity : Severity
  reporter : Reporter
  text : String
  deriving DecidableEq, Repr

/-- How much of the remarks is wanted. -/
inductive Verbosity where
  | quiet
  | normal
  | verbose
  deriving DecidableEq, Repr

def Verbosity.admits : Verbosity → Severity → Bool
  | quiet, _ => false
  | normal, severity => severity == .warning
  | verbose, _ => true

/-- A remark as a line. The further lines of its text are set in by four places. -/
def Notice.line (n : Notice) : String :=
  let text := String.join (n.text.toList.map fun c => if c == '\n' then "\n    " else c.toString)
  "[" ++ n.severity.tag ++ " " ++ n.reporter.name ++ "] " ++ text ++ "\n"

/-- The wanted remarks as lines. -/
def Notice.lines (wanted : Verbosity) (notices : List Notice) : String :=
  String.join ((notices.filter fun n => wanted.admits n.severity).map Notice.line)

namespace Math

/-- The remark on a formula that stays in the text. -/
def notice? (e : Event) : Option Notice :=
  match ofEvent? e with
  | none => none
  | some (source, display) =>
    match convert source display with
    | .rejected reason =>
      some ⟨.information, .math,
        "math span " ++ literal source display ++ " left as text: " ++ reason.message⟩
    | _ => none

end Math

namespace Pipeline

/-- The remarks of the stages on the events that they are given. -/
def stageNotices : List Stage → List Event → List Notice
  | [], _ => []
  | stage :: rest, events =>
    let here := if stage = .math then events.filterMap Math.notice? else []
    match stage.apply events with
    | .ok events => here ++ stageNotices rest events
    | .error _ => here

/-- The remarks while a source is rendered. -/
def notices (pipeline : Pipeline) (source : String) : List Notice :=
  match pipeline.accept source with
  | .error _ => []
  | .ok events => stageNotices pipeline.stages events

/-- The remarks of a preview, which also names the reason why a source is shown as it is. -/
def previewNotices (pipeline : Pipeline) (source : String) : List Notice :=
  match pipeline.accept source with
  | .error refusal =>
    [⟨.information, .pipeline, refusal.message ++ "; showing source as plain text"⟩]
  | .ok events => stageNotices pipeline.stages events

end Pipeline

/-- The remark on a theme that has to stand in for an unknown one. -/
def ThemeRegistry.notices (registry : ThemeRegistry) (id : String) : List Notice :=
  match registry.resolve id with
  | .ok _ => []
  | .error e =>
    [⟨.warning, .theme, e.message ++ "; using '" ++ registry.fallback.id ++ "' theme"⟩]

/-- The remarks on the files of a bundle while they are archived. -/
def Bundle.notices (bundle : Bundle) : List Notice :=
  bundle.files.map fun (name, file) =>
    ⟨.debug, .bundle, "archiving " ++ name ++ " (" ++ toString file.bytes.size ++ " bytes)"⟩

/-- The remarks of a build up to the moment of saving. -/
def BuildOptions.notices (options : BuildOptions) (source themeId : String) : List Notice :=
  let theme := options.registry.resolveOrFallback themeId
  let started : Notice :=
    ⟨.information, .builder,
      "building " ++ options.archiveName ++ " with theme '" ++ theme.id ++ "'"⟩
  let archiving :=
    match options.prepare source themeId with
    | .ok job => job.bundle.notices
    | .error _ => []
  options.registry.notices themeId ++ [started] ++ options.pipeline.notices source ++ archiving

end PagePress
