import PagePress.Config
import PagePress.Files.Disk
import PagePress.Json.Quoted
import PagePress.Theme.Registry

/-!
# New documents

A new document begins with the sample text of a theme. A configuration that names the theme is put
beside it, unless there is one already. Every check comes before the first change.
-/
namespace PagePress

/-- Why a new document cannot be made. -/
inductive ScaffoldError where
  | alreadyExists (path : String)
  | unknownTheme (path : String) (error : ThemeError)
  | cannotCreate (directory : String) (error : FileError)
  | cannotWrite (path : String) (error : FileError)
  deriving DecidableEq, Repr

def ScaffoldError.message : ScaffoldError → String
  | alreadyExists path => "'" ++ path ++ "' already exists (use --force to overwrite)"
  | unknownTheme path error => "Cannot scaffold '" ++ path ++ "': " ++ error.message
  | cannotCreate directory error =>
    "Failed to create '" ++ directory ++ "': " ++ error.message
  | cannotWrite path error => "Failed to write '" ++ path ++ "': " ++ error.message

namespace Config

/-- A configuration that only chooses a theme. -/
def forTheme (themeId : String) : String :=
  Theme.ofLines [
    "\x7b",
    "  \"defaultTheme\": " ++ Json.quote themeId ++ ",",
    "  \"includeSource\": true,",
    "  \"outDir\": \"dist\"",
    "\x7d"]

/-- The path of the configuration beside a document. -/
def pathBeside (path : String) : String :=
  Path.join ((Path.parent? path).getD ".") fileName

end Config

namespace Scaffold

variable {m : Type → Type} [Monad m] [Disk m]

/-- Makes the directory that a document is to lie in. -/
def makeDirectory (path : String) : m (Except ScaffoldError Unit) := do
  match Path.parent? path with
  | none => return .ok ()
  | some parent =>
    if parent.isEmpty then return .ok ()
    else
      match ← Disk.createDirectories parent with
      | .ok () => return .ok ()
      | .error e => return .error (.cannotCreate parent e)

def writeText (path text : String) : m (Except ScaffoldError Unit) := do
  match ← Disk.write path (Content.ofText text) with
  | .ok () => return .ok ()
  | .error e => return .error (.cannotWrite path e)

/-- Puts a configuration beside a document, unless there is one. Gives the files written. -/
def writeConfig (path : String) (theme : Theme) :
    m (List String × Except ScaffoldError Unit) := do
  let config := Config.pathBeside path
  if ← Disk.isPresent config then return ([], .ok ())
  else
    match ← writeText config (Config.forTheme theme.id) with
    | .ok () => return ([config], .ok ())
    | .error e => return ([], .error e)

/-- Writes a document and its configuration. Gives the files written. -/
def writeAll (path : String) (theme : Theme) : m (List String × Except ScaffoldError Unit) := do
  match ← makeDirectory path with
  | .error e => return ([], .error e)
  | .ok () =>
    match ← writeText path theme.defaultContent with
    | .error e => return ([], .error e)
    | .ok () =>
      let (written, result) ← writeConfig path theme
      return (path :: written, result)

/-- Makes a new document. Gives the files written, also if it fails after some of them. -/
def create (registry : ThemeRegistry) (path themeId : String) (force : Bool) :
    m (List String × Except ScaffoldError Unit) := do
  let present ← Disk.isPresent path
  if present && !force then return ([], .error (.alreadyExists path))
  else
    match registry.resolve themeId with
    | .error e => return ([], .error (.unknownTheme path e))
    | .ok theme => writeAll path theme

end Scaffold

end PagePress
