import PagePress.Archive.Basic
import PagePress.Math.Conversion

/-!
# Bundles

The files of a site before they are archived: each name once, in the order in which they were
added.
-/
namespace PagePress

inductive BundleFile where
  | text (s : String)
  | binary (data : ByteArray)
  deriving DecidableEq

def BundleFile.bytes : BundleFile → ByteArray
  | text s => s.toUTF8
  | binary data => data

/-- What goes wrong between rendering and saving. -/
inductive BundleError where
  | duplicateEntry (name : String)
  | io (reason : String)
  | save (name reason : String)
  deriving DecidableEq, Repr

def BundleError.message : BundleError → String
  | duplicateEntry name => "Bundle already contains an entry named '" ++ name ++ "'"
  | io reason => "I/O error while bundling: " ++ reason
  | save name reason => "Failed to save '" ++ name ++ "': " ++ reason

/-- Files to be archived under a name. -/
structure Bundle where
  archiveName : String
  files : List (String × BundleFile) := []
  names_nodup : (files.map Prod.fst).Nodup := by simp

namespace Bundle

def names (bundle : Bundle) : List String := bundle.files.map Prod.fst

def get? (bundle : Bundle) (name : String) : Option BundleFile := bundle.files.lookup name

def size (bundle : Bundle) : Nat := bundle.files.length

def isEmpty (bundle : Bundle) : Bool := bundle.files.isEmpty

/-- Adds a file at the end. A name that is taken is refused. -/
def insert (bundle : Bundle) (name : String) (file : BundleFile) : Except BundleError Bundle :=
  if taken : name ∈ bundle.names then .error (.duplicateEntry name)
  else
    .ok {
      archiveName := bundle.archiveName
      files := bundle.files ++ [(name, file)]
      names_nodup := by
        have fresh : ∀ other ∈ bundle.files.map Prod.fst, other ≠ name :=
          fun other hmem heq => taken (heq ▸ hmem)
        simpa [List.nodup_append, bundle.names_nodup] using fresh }

/-- Adds several files, one after the other. -/
def insertAll (bundle : Bundle) (files : List (String × BundleFile)) : Except BundleError Bundle :=
  files.foldlM (fun bundle (name, file) => bundle.insert name file) bundle

/-- The archive of a bundle. A name too long for an archive brings the whole program down. -/
def archive (bundle : Bundle) : Except Crash Archive :=
  if bundle.files.all (fun (name, _) => name.utf8ByteSize ≤ Archive.maxNameBytes) then
    .ok ⟨bundle.files.map fun (name, file) => ⟨name, file.bytes⟩⟩
  else .error {}

end Bundle

end PagePress
