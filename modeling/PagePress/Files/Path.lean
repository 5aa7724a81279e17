import PagePress.Text.Blank

/-!
# Paths

A path is a text in which strokes separate the names. What is made of it here looks at the text
alone, never at the files.
-/
namespace PagePress.Path

/-- Whether a path begins at the top. -/
def isAbsolute (path : String) : Bool := path.toList.head? == some '/'

def endsInStroke (path : String) : Bool := path.toList.getLast? == some '/'

/-- The texts between the strokes of a path, some of which may be empty. -/
def pieces (path : String) : List String := (Text.pieces '/' path.toList).map String.ofList

/-- The names in a path. -/
def names (path : String) : List String := (pieces path).filter (!·.isEmpty)

/-- A path seen from a directory. -/
def join (directory path : String) : String :=
  if isAbsolute path || directory.isEmpty then path
  else if endsInStroke directory then directory ++ path
  else directory ++ "/" ++ path

/-- Whether a piece counts as a step of the path. One point does only at the beginning. -/
def isStep (isFirst : Bool) (piece : String) : Bool :=
  !piece.isEmpty && (isFirst || piece != ".")

/-- Leaves out the pieces at the end that are no steps; the last piece comes first. -/
def dropIdle (relative : Bool) : List String → List String
  | [] => []
  | piece :: before =>
    if isStep (relative && before.isEmpty) piece then piece :: before else dropIdle relative before

/-- The path without its last step, if it has one. -/
def parent? (path : String) : Option String :=
  let absolute := isAbsolute path
  let body := if absolute then (pieces path).drop 1 else pieces path
  match dropIdle (!absolute) body.reverse with
  | [] => none
  | _ :: before =>
    let kept := "/".intercalate (dropIdle (!absolute) before).reverse
    some (if absolute then "/" ++ kept else kept)

/-- The directories of a path from the innermost on, the path itself first, for as long as they
have a name. Each is shorter than the one before it. -/
def withParents (path : String) : List String := go (path.length + 1) path
where
  go : Nat → String → List String
    | 0, _ => []
    | fuel + 1, path =>
      match parent? path with
      | none => []
      | some parent => path :: go fuel parent

/-- The directory that holds a path; for a mere name the current one. -/
def directory (path : String) : String :=
  match parent? path with
  | none => "."
  | some parent => if parent.isEmpty then "." else parent

end PagePress.Path
