import PagePress.Build.Builder
import PagePress.Command.Arguments
import PagePress.Command.Scaffold

/-!
# Running commands

Each command gives what it prints, its remarks, and how it ended. The configuration beside a
document decides what the command line leaves open.
-/
namespace PagePress

/-- Why the configuration of a project cannot be used. -/
inductive ConfigError where
  | unreadable (path : String) (error : FileError)
  | malformed (path : String) (failure : Json.Failure)
  deriving DecidableEq, Repr

def ConfigError.message : ConfigError → String
  | unreadable path error => "Failed to read " ++ path ++ ": " ++ error.message
  | malformed path failure => "Failed to parse " ++ path ++ ": " ++ failure.message

namespace Config

variable {m : Type → Type} [Monad m] [Disk m]

/-- The configuration in a directory and the path it was read from; the usual settings where there
is none. -/
def load (directory : String) : m (Except ConfigError (Config × Option String)) := do
  let path := Path.join directory fileName
  if ← Disk.isPresent path then
    match ← Disk.readText path with
    | .error e => return .error (.unreadable path e)
    | .ok text =>
      match parse text with
      | .error failure => return .error (.malformed path failure)
      | .ok config => return .ok (config, some path)
  else return .ok ({}, none)

/-- The configuration for a document. Its output directory is seen from where the document lies. -/
def loadFor (source : String) : m (Except ConfigError (Config × Option String)) := do
  let directory := Path.directory source
  match ← load directory with
  | .error e => return .error e
  | .ok (config, path) =>
    return .ok ({ config with outDir := Path.join directory config.outDir }, path)

/-- The remark on a configuration that has been read. -/
def notices (path : Option String) : List Notice :=
  path.toList.map fun path => ⟨.debug, .config, "loaded " ++ path⟩

end Config

/-- A failure with its cause, if the cause is told once more by itself. -/
def BuildFailure.chain : BuildFailure → String
  | bundle (.io reason) => (BundleError.io reason).message ++ ": " ++ reason
  | failure => failure.message

namespace Command

/-- How a command ends before its time. -/
inductive Stop where
  | failed (message : String)
  | crashed
  deriving DecidableEq, Repr

structure Outcome where
  out : String := ""
  notices : List Notice := []
  result : Except Stop Unit := .ok ()

/-- What is seen of a run from outside. -/
structure Report where
  code : Nat
  out : String
  err : String
  deriving DecidableEq, Repr

def Outcome.failed (message : String) (notices : List Notice) : Outcome :=
  { notices, result := .error (.failed message) }

/-- The codes with which a run ends. -/
def successCode : Nat := 0
def failureCode : Nat := 1
def misuseCode : Nat := 2
def crashCode : Nat := 101

def Outcome.report (wanted : Verbosity) (o : Outcome) : Report :=
  let log := Notice.lines wanted o.notices
  match o.result with
  | .ok () => ⟨successCode, o.out, log⟩
  | .error (.failed message) => ⟨failureCode, o.out, log ++ "error: " ++ message ++ "\n"⟩
  | .error .crashed => ⟨crashCode, o.out, log⟩

def unreadable (path : String) (e : FileError) : String :=
  "Failed to read '" ++ path ++ "': " ++ e.message

/-- The list of the themes, names to the left in ten columns. -/
def themeList (registry : ThemeRegistry) : String :=
  Theme.ofLines (registry.themes.map fun theme =>
    theme.id ++ "".pushn ' ' (10 - theme.id.length) ++ " " ++ theme.label ++
      if theme.id = registry.fallback.id then " (default)" else "")

def css (registry : ThemeRegistry) (id : String) : Outcome :=
  match registry.resolve id with
  | .ok theme => { out := theme.stylesheet }
  | .error e => .failed e.message []

/-- What a finished build prints. -/
def builtText (directory : String) (bundle : Bundle) : String :=
  Theme.ofLines (("Built " ++ Path.join directory bundle.archiveName) ::
    bundle.names.map ("  file: " ++ ·))

/-- What a new document makes the program print. -/
def createdText (path : String) (written : List String) : Except ScaffoldError Unit → String
  | .ok () =>
    Theme.ofLines (written.map ("  Created " ++ ·) ++ [
      "",
      "Done! Next steps:",
      "  1. Edit " ++ path ++ " with your own content",
      "  2. Run `homepage build " ++ path ++ "` to produce homepage.zip"])
  | .error _ => Theme.ofLines (written.map ("  Created " ++ ·))

variable {m : Type → Type} [Monad m] [Disk m]

def render (file : String) : m Outcome := do
  match ← Config.loadFor file with
  | .error e => return .failed e.message []
  | .ok (config, path) =>
    let notices := Config.notices path
    match ← Disk.readText file with
    | .error e => return .failed (unreadable file e) notices
    | .ok source =>
      let pipeline : Pipeline := { maxSourceBytes := config.maxSourceBytes }
      let notices := notices ++ pipeline.previewNotices source
      match pipeline.render source with
      | .ok html => return { out := html, notices }
      | .error _ => return { notices, result := .error .crashed }

/-- How a build without a result ends the command. -/
def buildStopped (file : String) : BuildFailure → Stop
  | .crashed => .crashed
  | failure => .failed ("Failed to build '" ++ file ++ "': " ++ failure.chain)

/-- The end of a save, as the builder is told of it. -/
def saveOutcome : Except BundleError Unit → SaveOutcome
  | .ok () => .stored
  | .error e => .refused e

/-- Builds a site from a source and saves it in a directory. -/
def buildInto (options : BuildOptions) (directory source themeId : String) :
    m (Except BuildFailure Bundle) := do
  let entered := Builder.follow { options } (Builder.towardsSave 0 source themeId)
  match entered.called? with
  | none => return (entered.result?.getD (.error .interrupted)).map Job.bundle
  | some job =>
    let saved ← Disk.save directory job.bundle.archiveName (.archive job.archive)
    let left := entered.builder.follow (Builder.fromSave 0 (saveOutcome saved))
    return (left.result?.getD (.error .interrupted)).map Job.bundle

def build (registry : ThemeRegistry) (quiet : Bool) (file : String) (theme out : Option String)
    (noSource : Bool) : m Outcome := do
  match ← Config.loadFor file with
  | .error e => return .failed e.message []
  | .ok (config, path) =>
    let directory := out.getD config.outDir
    let options : BuildOptions := {
      registry
      pipeline := { maxSourceBytes := config.maxSourceBytes }
      includeSource := config.includeSource && !noSource }
    let themeId := theme.getD config.defaultTheme
    let notices := Config.notices path
    match ← Disk.readText file with
    | .error e => return .failed (unreadable file e) notices
    | .ok source =>
      let notices := notices ++ options.notices source themeId
      match ← buildInto options directory source themeId with
      | .error failure => return { notices, result := .error (buildStopped file failure) }
      | .ok bundle =>
        return { out := if quiet then "" else builtText directory bundle, notices }

def new (registry : ThemeRegistry) (quiet : Bool) (file theme : String) (force : Bool) :
    m Outcome := do
  let (written, result) ← Scaffold.create registry file theme force
  let out := if quiet then "" else createdText file written result
  match result with
  | .ok () => return { out }
  | .error e => return { out, result := .error (.failed e.message) }

def perform (registry : ThemeRegistry) (quiet : Bool) : Task → m Outcome
  | .build file theme out noSource => build registry quiet file theme out noSource
  | .render file => render file
  | .themes => return { out := themeList registry }
  | .css theme => return css registry theme
  | .new file theme force => new registry quiet file theme force

def versionText : String := "homepage 0.1.0\n"

def usageText : String :=
  Theme.ofLines [
    "Compile a markdown homepage into a themed static site",
    "",
    "Usage: homepage [--quiet] [--verbose] <COMMAND>",
    "",
    "Commands:",
    "  build <FILE> [--theme <THEME>] [--out <OUT>] [--no-source]",
    "  render <FILE>",
    "  themes",
    "  css <THEME>",
    "  new <FILE> [--theme <THEME>] [--force]"]

/-- The run of a whole command line. -/
def run (words : List String) : m Report := do
  match parse words with
  | none => return ⟨misuseCode, "", usageText⟩
  | some .version => return ⟨successCode, versionText, ""⟩
  | some .help => return ⟨successCode, usageText, ""⟩
  | some (.run invocation) =>
    let wanted : Verbosity :=
      if invocation.verbose then .verbose else if invocation.quiet then .quiet else .normal
    let outcome ← perform .builtin invocation.quiet invocation.task
    return outcome.report wanted

end Command

end PagePress
