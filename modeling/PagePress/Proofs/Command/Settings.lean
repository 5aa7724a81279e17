import PagePress.Command.Run
import PagePress.Proofs.Files.Operations

/-!
# Settings beside a document
-/
namespace PagePress.Config

open FileTree

/-- The settings that hold for a document: those in the file beside it, or the usual ones. -/
inductive Beside (tree : FileTree) (document : String) : Config → Prop where
  | usual (missing : tree.isPresent (Path.join (Path.directory document) fileName) = false) :
      Beside tree document {}
  | written {content : Content} {text : String} {config : Config}
      (found : tree.find (Path.join (Path.directory document) fileName) = .ok (.file content))
      (readable : content.text? = some text) (parsed : parse text = .ok config) :
      Beside tree document config

variable {tree : FileTree} {document directory text : String} {config : Config}

theorem run_load_of_missing (missing : tree.isPresent (Path.join directory fileName) = false) :
    (load directory : StateM FileTree _).run tree = (.ok ({}, none), tree) := by
  rw [load, run_bind, run_isPresent]
  dsimp only
  rw [missing, if_neg Bool.false_ne_true, run_pure]

theorem run_load_of_present (present : tree.isPresent (Path.join directory fileName) = true) :
    (load directory : StateM FileTree _).run tree =
      (match tree.readText (Path.join directory fileName) with
      | .error e => .error (.unreadable (Path.join directory fileName) e)
      | .ok text =>
        match parse text with
        | .error failure => .error (.malformed (Path.join directory fileName) failure)
        | .ok config => .ok (config, some (Path.join directory fileName)), tree) := by
  rw [load, run_bind, run_isPresent]
  dsimp only
  rw [present, if_pos rfl, run_bind, run_readText]
  dsimp only
  cases tree.readText (Path.join directory fileName) with
  | error e => rfl
  | ok text =>
    dsimp only
    cases parse text <;> rfl

/-- Settings that are written in a file beside a document are those it is looked at with. -/
theorem run_loadFor_of_found {content : Content}
    (found : tree.find (Path.join (Path.directory document) fileName) = .ok (.file content))
    (readable : content.text? = some text) (parsed : parse text = .ok config) :
    (loadFor document : StateM FileTree _).run tree =
      (.ok ({ config with outDir := Path.join (Path.directory document) config.outDir },
        some (Path.join (Path.directory document) fileName)), tree) := by
  have read := readText_eq_ok_iff.2 ⟨content, found, readable⟩
  rw [loadFor, run_bind, run_load_of_present (isPresent_eq_true_iff.2 ⟨_, found⟩), read]
  dsimp only
  rw [parsed]
  rfl

/-- A directory in the place of the settings keeps a document from being looked at. -/
theorem run_loadFor_of_directory
    (found : tree.find (Path.join (Path.directory document) fileName) = .ok .directory) :
    (loadFor document : StateM FileTree _).run tree =
      (.error (.unreadable (Path.join (Path.directory document) fileName) .isDirectory), tree) := by
  have read : tree.readText (Path.join (Path.directory document) fileName) =
      .error .isDirectory := by
    simp [readText, found, bind, Except.bind]
  rw [loadFor, run_bind, run_load_of_present (isPresent_eq_true_iff.2 ⟨_, found⟩), read]
  rfl

/-- A document is looked at with settings that hold for it, or not at all; nothing changes by it. -/
theorem run_loadFor (document : String) (tree : FileTree) :
    ∃ result, (loadFor document : StateM FileTree _).run tree = (result, tree) ∧
      ∀ config path, result = .ok (config, path) → ∃ own, Beside tree document own ∧
        config = { own with outDir := Path.join (Path.directory document) own.outDir } := by
  rw [loadFor, run_bind]
  cases present : tree.isPresent (Path.join (Path.directory document) fileName) with
  | false =>
    rw [run_load_of_missing present]
    refine ⟨_, rfl, fun config path same => ⟨{}, .usual present, ?_⟩⟩
    cases same
    rfl
  | true =>
    rw [run_load_of_present present]
    cases read : tree.readText (Path.join (Path.directory document) fileName) with
    | error e => exact ⟨_, rfl, fun config path same => by cases same⟩
    | ok text =>
      dsimp only
      obtain ⟨content, found, readable⟩ := readText_eq_ok_iff.1 read
      cases parsed : parse text with
      | error failure => exact ⟨_, rfl, fun config path same => by cases same⟩
      | ok own =>
        refine ⟨_, rfl, fun config path same => ⟨own, .written found readable parsed, ?_⟩⟩
        cases same
        rfl

end PagePress.Config
