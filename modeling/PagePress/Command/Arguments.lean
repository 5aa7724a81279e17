import PagePress.Notice

/-!
# Command lines

The words of a command line, read from left to right. The first word that cannot be understood ends
the reading, as does a question for help or the version.
-/
namespace PagePress.Command

/-- What the program is asked to do. -/
inductive Task where
  | build (file : String) (theme out : Option String) (noSource : Bool)
  | render (file : String)
  | themes
  | css (theme : String)
  | new (file theme : String) (force : Bool)
  deriving DecidableEq, Repr

structure Invocation where
  quiet : Bool := false
  verbose : Bool := false
  task : Task
  deriving DecidableEq, Repr

/-- What a command line comes to. -/
inductive Request where
  | run (invocation : Invocation)
  | version
  | help
  deriving DecidableEq, Repr

/-- Why the reading ends early. -/
inductive Interrupt where
  | misuse
  | version
  | help
  deriving DecidableEq, Repr

inductive Verb where
  | build
  | render
  | themes
  | css
  | new
  deriving DecidableEq, Repr

def Verb.all : List Verb := [.build, .render, .themes, .css, .new]

def Verb.name : Verb → String
  | build => "build"
  | render => "render"
  | themes => "themes"
  | css => "css"
  | new => "new"

def Verb.ofName? (name : String) : Option Verb := Verb.all.find? (·.name == name)

/-- Options without a value, beside those that every command has. -/
def Verb.flags : Verb → List String
  | build => ["no-source"]
  | new => ["force"]
  | _ => []

/-- Options with a value, and whether the value may be empty. -/
def Verb.settings : Verb → List (String × Bool)
  | build => [("theme", true), ("out", false)]
  | new => [("theme", true)]
  | _ => []

/-- Whether a command has one argument of its own or none. -/
def Verb.takesArgument : Verb → Bool
  | themes => false
  | _ => true

/-- Whether the argument may be empty. A path may not. -/
def Verb.admitsEmpty : Verb → Bool
  | css => true
  | _ => false

/-- What has been read so far. -/
structure Draft where
  flags : List String := []
  settings : List (String × String) := []
  argument : Option String := none
  deriving DecidableEq, Repr

namespace Draft

/-- Sets an option without a value, which may be set only once. -/
def raise (d : Draft) (name : String) : Except Interrupt Draft :=
  if name ∈ d.flags then .error .misuse else .ok { d with flags := name :: d.flags }

/-- Gives an option its value, which may be given only once. -/
def give (d : Draft) (name value : String) (admitsEmpty : Bool) : Except Interrupt Draft :=
  if (d.settings.lookup name).isSome || (value.isEmpty && !admitsEmpty) then .error .misuse
  else .ok { d with settings := (name, value) :: d.settings }

/-- Takes the argument of a command. -/
def take (d : Draft) (verb : Verb) (value : String) : Except Interrupt Draft :=
  if d.argument.isSome || !verb.takesArgument || (value.isEmpty && !verb.admitsEmpty) then
    .error .misuse
  else .ok { d with argument := some value }

end Draft

/-- The kinds of words. -/
inductive Word where
  /-- Two hyphens: no option comes any more. -/
  | endOfOptions
  | long (name : String) (value : Option String)
  | short (letters : List Char)
  | plain (text : String)

def Word.ofString (s : String) : Word :=
  match s.toList with
  | ['-', '-'] => .endOfOptions
  | '-' :: '-' :: rest =>
    let name := String.ofList (rest.takeWhile (· != '='))
    match rest.dropWhile (· != '=') with
    | [] => .long name none
    | _ :: value => .long name (some (String.ofList value))
  | ['-'] => .plain s
  | '-' :: letters => .short letters
  | _ => .plain s

/-- The options of one letter, which may be written together. -/
def readLetters (atTop : Bool) (d : Draft) : List Char → Except Interrupt Draft
  | [] => .ok d
  | 'v' :: rest => do readLetters atTop (← d.raise "verbose") rest
  | 'h' :: _ => .error .help
  | 'V' :: _ => if atTop then .error .version else .error .misuse
  | _ :: _ => .error .misuse

/-- The names of the options that every command has. -/
def commonFlags : List String := ["quiet", "verbose"]

/-- The words after the name of a command. -/
def readWords (verb : Verb) (d : Draft) : List String → Except Interrupt Draft
  | [] => .ok d
  | word :: rest =>
    match Word.ofString word with
    | .endOfOptions => rest.foldlM (·.take verb ·) d
    | .plain text => do readWords verb (← d.take verb text) rest
    | .short letters => do readWords verb (← readLetters false d letters) rest
    | .long name value =>
      match verb.settings.lookup name, value with
      | some admitsEmpty, some value => do
        readWords verb (← d.give name value admitsEmpty) rest
      | some admitsEmpty, none =>
        match rest with
        | [] => .error .misuse
        | value :: rest =>
          match Word.ofString value with
          | .plain value => do readWords verb (← d.give name value admitsEmpty) rest
          | _ => .error .misuse
      | none, some _ => .error .misuse
      | none, none =>
        if name = "help" then .error .help
        else if name ∈ commonFlags ++ verb.flags then do readWords verb (← d.raise name) rest
        else .error .misuse

/-- The task of a command. Its argument must be there. -/
def task (verb : Verb) (d : Draft) : Except Interrupt Task :=
  match verb, d.argument with
  | .build, some file =>
    .ok (.build file (d.settings.lookup "theme") (d.settings.lookup "out")
      (d.flags.contains "no-source"))
  | .render, some file => .ok (.render file)
  | .themes, _ => .ok .themes
  | .css, some theme => .ok (.css theme)
  | .new, some file =>
    .ok (.new file ((d.settings.lookup "theme").getD Theme.defaultId) (d.flags.contains "force"))
  | _, none => .error .misuse

/-- The words from the name of a command on. The options before it are set as if they came after
it, but may come up there again. -/
def readCommand (before : Draft) (name : String) (rest : List String) :
    Except Interrupt Request :=
  if name = "help" then
    match rest with
    | [] => .error .help
    | other :: _ =>
      if other = "help" || (Verb.ofName? other).isSome then .error .help else .error .misuse
  else
    match Verb.ofName? name with
    | none => .error .misuse
    | some verb => do
      let d ← readWords verb {} rest
      let flags := before.flags ++ d.flags
      return .run ⟨flags.contains "quiet", flags.contains "verbose", ← task verb d⟩

/-- The words of a whole command line. -/
def readTop (d : Draft) : List String → Except Interrupt Request
  | [] => .error .misuse
  | word :: rest =>
    match Word.ofString word with
    | .endOfOptions => .error .misuse
    | .plain name => readCommand d name rest
    | .short letters => do readTop (← readLetters true d letters) rest
    | .long _ (some _) => .error .misuse
    | .long name none =>
      if name = "help" then .error .help
      else if name = "version" then .error .version
      else if name ∈ commonFlags then do readTop (← d.raise name) rest
      else .error .misuse

/-- What a command line asks for; none if it is no correct one. -/
def parse (words : List String) : Option Request :=
  match readTop {} words with
  | .ok request => some request
  | .error .version => some .version
  | .error .help => some .help
  | .error .misuse => none

end PagePress.Command
