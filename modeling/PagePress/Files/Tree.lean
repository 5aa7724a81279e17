import PagePress.Archive.Basic
import PagePress.Files.Path

/-!
# Trees of files

A tree of directories and files, and the operations of an operating system on it. Each operation
either gives the new tree or says why it cannot be done; of several reasons the one that is met
first on the way through the path counts.
-/
namespace PagePress

/-- Why an operation on files fails. -/
inductive FileError where
  | notFound
  | busy
  | alreadyExists
  | notDirectory
  | isDirectory
  | nameTooLong
  | nulInName
  | notText
  | other (reason : String)
  deriving DecidableEq, Repr

def FileError.message : FileError → String
  | notFound => "No such file or directory (os error 2)"
  | busy => "Device or resource busy (os error 16)"
  | alreadyExists => "File exists (os error 17)"
  | notDirectory => "Not a directory (os error 20)"
  | isDirectory => "Is a directory (os error 21)"
  | nameTooLong => "File name too long (os error 36)"
  | nulInName => "file name contained an unexpected NUL byte"
  | notText => "stream did not contain valid UTF-8"
  | other reason => reason

/-- What a file holds. -/
inductive Content where
  | bytes (data : ByteArray)
  | archive (archive : Archive)
  deriving DecidableEq

def Content.ofText (s : String) : Content := .bytes s.toUTF8

/-- The text in a file. An archive is none. -/
def Content.text? : Content → Option String
  | bytes data => String.fromUTF8? data
  | archive _ => none

/-- A place in a tree: the names on the way up to the top, from the inside out. -/
abbrev Place := List String

inductive FileNode where
  | directory
  | file (content : Content)
  deriving DecidableEq

/-- What there is below the top of a tree, each place at most once, and the directory at which
relative paths begin. -/
structure FileTree where
  nodes : List (Place × FileNode) := [(["work"], .directory)]
  current : Place := ["work"]

namespace FileTree

/-- What stands at a place. The top is a directory. -/
def get? (tree : FileTree) (place : Place) : Option FileNode :=
  if place = [] then some .directory else tree.nodes.lookup place

def put (tree : FileTree) (place : Place) (node : FileNode) : FileTree :=
  { tree with nodes := (place, node) :: tree.nodes.filter (·.1 != place) }

def erase (tree : FileTree) (place : Place) : FileTree :=
  { tree with nodes := tree.nodes.filter (·.1 != place) }

/-! ### Finding the way -/

/-- The greatest size of a name, in bytes. -/
def maxNameBytes : Nat := 255

/-- A path has to be shorter than this, in bytes. -/
def maxPathBytes : Nat := 4096

/-- A name in a directory, if a name may be that long. -/
def child (directory : Place) (name : String) : Except FileError Place :=
  if maxNameBytes < name.utf8ByteSize then .error .nameTooLong else .ok (name :: directory)

/-- Goes from a directory to another one by one step of a path. -/
def enter (tree : FileTree) (directory : Place) (name : String) : Except FileError Place :=
  if name = "." then .ok directory
  else if name = ".." then .ok directory.tail
  else
    match child directory name with
    | .error e => .error e
    | .ok place =>
      match tree.get? place with
      | none => .error .notFound
      | some (.file _) => .error .notDirectory
      | some .directory => .ok place

def walk (tree : FileTree) : Place → List String → Except FileError Place
  | directory, [] => .ok directory
  | directory, name :: rest => do walk tree (← tree.enter directory name) rest

/-- Where a path leads. -/
inductive Goal where
  /-- A directory that the path names by points or as the top. -/
  | reached (directory : Place)
  /-- A name in a directory, whether there is something or not. Only a directory may be named with
  a stroke at the end. -/
  | named (directory : Place) (name : String) (stroke : Bool)

/-- Follows a path up to its last name. -/
def locate (tree : FileTree) (path : String) : Except FileError Goal :=
  if path.toList.contains '\x00' then .error .nulInName
  else if path.isEmpty then .error .notFound
  else if maxPathBytes ≤ path.utf8ByteSize then .error .nameTooLong
  else
    let start := if Path.isAbsolute path then [] else tree.current
    match (Path.names path).reverse with
    | [] => .ok (.reached start)
    | last :: before => do
      let directory ← tree.walk start before.reverse
      if last = "." || last = ".." then return .reached (← tree.enter directory last)
      else return .named directory last (Path.endsInStroke path)

/-- What stands at the end of a path. -/
def find (tree : FileTree) (path : String) : Except FileError FileNode := do
  match ← tree.locate path with
  | .reached _ => return .directory
  | .named directory name stroke =>
    match tree.get? (← child directory name) with
    | none => .error .notFound
    | some .directory => return .directory
    | some (.file content) => if stroke then .error .notDirectory else return .file content

/-! ### Operations -/

def isPresent (tree : FileTree) (path : String) : Bool :=
  match tree.find path with
  | .ok _ => true
  | .error _ => false

def isDirectory (tree : FileTree) (path : String) : Bool :=
  match tree.find path with
  | .ok .directory => true
  | _ => false

def readText (tree : FileTree) (path : String) : Except FileError String := do
  match ← tree.find path with
  | .directory => .error .isDirectory
  | .file content =>
    match content.text? with
    | some s => return s
    | none => .error .notText

/-- Makes a directory. -/
def createDirectory (tree : FileTree) (path : String) : Except FileError FileTree := do
  match ← tree.locate path with
  | .reached _ => .error .alreadyExists
  | .named directory name _ =>
    let place ← child directory name
    match tree.get? place with
    | some _ => .error .alreadyExists
    | none => return tree.put place .directory

/-- Makes the first of some directories. Those after it lie around it and are made first if it
cannot be made without them. What has been made stays even if the rest fails. -/
def createNested (tree : FileTree) : List String → FileTree × Except FileError Unit
  | [] => (tree, .ok ())
  | path :: parents =>
    match tree.createDirectory path with
    | .ok tree => (tree, .ok ())
    | .error .notFound =>
      match tree.createNested parents with
      | (tree, .error e) => (tree, .error e)
      | (tree, .ok ()) =>
        match tree.createDirectory path with
        | .ok tree => (tree, .ok ())
        | .error e => (tree, if tree.isDirectory path then .ok () else .error e)
    | .error e => (tree, if tree.isDirectory path then .ok () else .error e)

/-- Makes a directory and those around it, as far as they are not there. -/
def createDirectories (tree : FileTree) (path : String) : FileTree × Except FileError Unit :=
  tree.createNested (Path.withParents path)

/-- Writes a file; what it held before is lost. -/
def write (tree : FileTree) (path : String) (content : Content) : Except FileError FileTree := do
  match ← tree.locate path with
  | .reached _ => .error .isDirectory
  | .named directory name stroke =>
    if stroke then .error .isDirectory
    else
      let place ← child directory name
      match tree.get? place with
      | some .directory => .error .isDirectory
      | _ => return tree.put place (.file content)

/-- Gives a file another path; a file that was there is lost. -/
def rename (tree : FileTree) (source target : String) : Except FileError FileTree := do
  match ← tree.locate source, ← tree.locate target with
  | .named fromDirectory fromName fromStroke, .named toDirectory toName toStroke =>
    let old ← child fromDirectory fromName
    match tree.get? old with
    | none => .error .notFound
    | some .directory => .error .isDirectory
    | some (.file content) =>
      let new ← child toDirectory toName
      if fromStroke || toStroke then .error .notDirectory
      else
        match tree.get? new with
        | some .directory => .error .isDirectory
        | _ => return (tree.erase old).put new (.file content)
  | _, _ => .error .busy

/-- Removes a file. -/
def remove (tree : FileTree) (path : String) : Except FileError FileTree := do
  match ← tree.locate path with
  | .reached _ => .error .isDirectory
  | .named directory name stroke =>
    let place ← child directory name
    match tree.get? place with
    | none => .error .notFound
    | some .directory => .error .isDirectory
    | some (.file _) => if stroke then .error .notDirectory else return tree.erase place

end FileTree

end PagePress
