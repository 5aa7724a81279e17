import Mathlib.Data.Finset.Card
import PagePress.Bundle
import PagePress.Proofs.Partial

/-!
# Bundles as maps

Whatever files a caller asks for, one after the other, a bundle comes to hold the first file of each
name, in the order in which the names came up (`offerAll_exact`).
-/
namespace PagePress.Bundle

/-- Asks for a file. A caller that is refused keeps the bundle it had. -/
def offer (bundle : Bundle) (entry : String × BundleFile) : Bundle × Option BundleError :=
  match bundle.insert entry.1 entry.2 with
  | .ok next => (next, none)
  | .error refusal => (bundle, some refusal)

/-- Asks for several files, one after the other. -/
def offerAll (bundle : Bundle) (entries : List (String × BundleFile)) : Bundle :=
  entries.foldl (fun bundle entry => (bundle.offer entry).1) bundle

/-- The first entry of each name, in the order of these entries. -/
def firsts {α : Type} : List (String × α) → List (String × α)
  | [] => []
  | entry :: rest => entry :: (firsts rest).filter fun later => later.1 != entry.1

section Firsts

variable {α : Type} {entries : List (String × α)} {name : String}

theorem mem_names_firsts : name ∈ (firsts entries).map Prod.fst ↔ name ∈ entries.map Prod.fst := by
  induction entries with
  | nil => rfl
  | cons entry rest ih =>
    rw [firsts, List.map_cons, List.map_cons, List.mem_cons, List.mem_cons, ← ih]
    by_cases same : name = entry.1
    · simp [same]
    · simp [same, List.mem_map, List.mem_filter]

theorem nodup_names_firsts (entries : List (String × α)) :
    ((firsts entries).map Prod.fst).Nodup := by
  induction entries with
  | nil => exact List.nodup_nil
  | cons entry rest ih =>
    rw [firsts, List.map_cons, List.nodup_cons]
    refine ⟨?_, ih.sublist (List.filter_sublist.map _)⟩
    intro member
    obtain ⟨later, kept, same⟩ := List.mem_map.1 member
    exact absurd same (by simpa using (List.mem_filter.1 kept).2)

theorem lookup_firsts (entries : List (String × α)) (name : String) :
    (firsts entries).lookup name = entries.lookup name := by
  induction entries with
  | nil => rfl
  | cons entry rest ih =>
    obtain ⟨first, value⟩ := entry
    rw [firsts, List.lookup_cons, List.lookup_cons, lookup_filter_keys (· != first), ih]
    by_cases same : name = first
    · simp [same]
    · simp [same]

/-- A further entry counts if its name is new. -/
theorem firsts_concat (entries : List (String × α)) (entry : String × α) :
    firsts (entries ++ [entry]) =
      firsts entries ++ if entry.1 ∈ entries.map Prod.fst then [] else [entry] := by
  induction entries with
  | nil => rfl
  | cons first rest ih =>
    rw [List.cons_append, firsts, ih, firsts, List.filter_append, List.cons_append]
    congr 2
    by_cases known : entry.1 ∈ rest.map Prod.fst
    · simp [known]
    · by_cases same : entry.1 = first.1 <;> simp [known, same]

/-- Distinct names are counted by their first entries. -/
theorem length_firsts (entries : List (String × α)) :
    (firsts entries).length = (entries.map Prod.fst).toFinset.card := by
  have same : (entries.map Prod.fst).toFinset = ((firsts entries).map Prod.fst).toFinset := by
    ext name
    rw [List.mem_toFinset, List.mem_toFinset, mem_names_firsts]
  rw [same, List.toFinset_card_of_nodup (nodup_names_firsts entries), List.length_map]

end Firsts

/-! ### What a bundle holds after a run of requests -/

/-- A bundle holds what has come up so far: the first file of each name, in order. -/
structure Holds (archiveName : String) (past : List (String × BundleFile)) (bundle : Bundle) :
    Prop where
  archiveName : bundle.archiveName = archiveName
  files : bundle.files = firsts past

variable {archiveName name : String} {past : List (String × BundleFile)} {bundle : Bundle}
  {entry : String × BundleFile}

theorem Holds.mem_names_iff (holds : Holds archiveName past bundle) :
    name ∈ bundle.names ↔ name ∈ past.map Prod.fst := by
  rw [names, holds.files, mem_names_firsts]

/-- A name that came up before is refused, and the bundle stays. -/
theorem Holds.offer_of_taken (holds : Holds archiveName past bundle)
    (taken : entry.1 ∈ past.map Prod.fst) :
    bundle.insert entry.1 entry.2 = .error (.duplicateEntry entry.1) ∧
      (bundle.offer entry).1 = bundle := by
  have refused : bundle.insert entry.1 entry.2 = .error (.duplicateEntry entry.1) := by
    rw [insert, dif_pos (holds.mem_names_iff.2 taken)]
  rw [offer, refused]
  exact ⟨rfl, rfl⟩

/-- A new name is added at the end. -/
theorem Holds.offer_of_fresh (holds : Holds archiveName past bundle)
    (fresh : entry.1 ∉ past.map Prod.fst) :
    bundle.insert entry.1 entry.2 = .ok (bundle.offer entry).1 ∧
      (bundle.offer entry).1.archiveName = archiveName ∧
      (bundle.offer entry).1.files = bundle.files ++ [entry] := by
  have unused : entry.1 ∉ bundle.names := fun taken => fresh (holds.mem_names_iff.1 taken)
  rw [offer, insert, dif_neg unused]
  exact ⟨rfl, holds.archiveName, rfl⟩

theorem Holds.offer (holds : Holds archiveName past bundle) (entry : String × BundleFile) :
    Holds archiveName (past ++ [entry]) (bundle.offer entry).1 := by
  by_cases taken : entry.1 ∈ past.map Prod.fst
  · rw [(holds.offer_of_taken taken).2]
    refine ⟨holds.archiveName, ?_⟩
    rw [holds.files, firsts_concat, if_pos taken, List.append_nil]
  · obtain ⟨-, archiveName, files⟩ := holds.offer_of_fresh taken
    refine ⟨archiveName, ?_⟩
    rw [files, holds.files, firsts_concat, if_neg taken]

theorem Holds.offerAll (holds : Holds archiveName past bundle)
    (entries : List (String × BundleFile)) :
    Holds archiveName (past ++ entries) (bundle.offerAll entries) := by
  induction entries generalizing past bundle with
  | nil => rwa [List.append_nil]
  | cons entry rest ih =>
    rw [List.append_cons]
    exact ih (holds.offer entry)

theorem holds_offerAll (archiveName : String) (entries : List (String × BundleFile)) :
    Holds archiveName entries (Bundle.offerAll { archiveName } entries) := by
  have start : Holds archiveName [] { archiveName } := ⟨rfl, rfl⟩
  exact start.offerAll entries

theorem offerAll_concat (bundle : Bundle) (entries : List (String × BundleFile))
    (entry : String × BundleFile) :
    bundle.offerAll (entries ++ [entry]) = ((bundle.offerAll entries).offer entry).1 := by
  simp only [Bundle.offerAll, List.foldl_append, List.foldl_cons, List.foldl_nil]

/-- An archive has one entry for each file, and there is one unless a name is too long. -/
theorem archive_eq_ok_iff {archive : Archive} :
    bundle.archive = .ok archive ↔
      (∀ name ∈ bundle.names, name.utf8ByteSize ≤ Archive.maxNameBytes) ∧
      archive.entries = bundle.files.map fun (name, file) => ⟨name, file.bytes⟩ := by
  have short : (bundle.files.all fun (name, _) => name.utf8ByteSize ≤ Archive.maxNameBytes) = true ↔
      ∀ name ∈ bundle.names, name.utf8ByteSize ≤ Archive.maxNameBytes := by
    simp only [names, List.all_eq_true, decide_eq_true_eq, List.forall_mem_map]
  obtain ⟨listed⟩ := archive
  rw [Bundle.archive]
  split
  next fits =>
    rw [Except.ok.injEq, Archive.mk.injEq, eq_comm]
    exact ⟨fun same => ⟨short.1 fits, same⟩, And.right⟩
  next wide => exact ⟨nofun, fun given => absurd (short.2 given.1) wide⟩

/-- After any run of requests for files, a bundle holds the first file of each name, in the order in
which the names came up. A further request is refused exactly if its name came up before, and then
the bundle stays as it is. Looking up a name gives the first file that was asked for under it, and the
size is the number of the names. If the bundle has an archive, which it has unless a name is too long,
the entries of the archive are these files in this order, each name once. -/
theorem offerAll_exact (archiveName : String) (entries : List (String × BundleFile)) :
    let bundle := offerAll { archiveName } entries
    bundle.archiveName = archiveName ∧ bundle.files = firsts entries ∧ bundle.names.Nodup ∧
    (∀ entry : String × BundleFile,
      (entry.1 ∈ entries.map Prod.fst →
        bundle.insert entry.1 entry.2 = .error (.duplicateEntry entry.1) ∧
        offerAll { archiveName } (entries ++ [entry]) = bundle) ∧
      (entry.1 ∉ entries.map Prod.fst →
        ∃ next, bundle.insert entry.1 entry.2 = .ok next ∧
          offerAll { archiveName } (entries ++ [entry]) = next ∧
          next.files = bundle.files ++ [entry])) ∧
    (∀ name, bundle.get? name = entries.lookup name) ∧
    bundle.size = (entries.map Prod.fst).toFinset.card ∧
    ∀ archive, bundle.archive = .ok archive ↔
      (∀ name ∈ bundle.names, name.utf8ByteSize ≤ Archive.maxNameBytes) ∧
      (archive.entries.map Archive.Entry.name).Nodup ∧
      archive.entries = (firsts entries).map fun (name, file) => ⟨name, file.bytes⟩ := by
  intro bundle
  have holds : Holds archiveName entries bundle := holds_offerAll archiveName entries
  have distinct : bundle.names.Nodup := by
    rw [names, holds.files]
    exact nodup_names_firsts entries
  refine ⟨holds.archiveName, holds.files, distinct, fun entry => ⟨fun taken => ?_, fun fresh => ?_⟩,
    fun name => ?_, ?_, fun archive => ?_⟩
  · obtain ⟨refused, stays⟩ := holds.offer_of_taken taken
    exact ⟨refused, (offerAll_concat _ entries entry).trans stays⟩
  · obtain ⟨added, -, files⟩ := holds.offer_of_fresh fresh
    exact ⟨_, added, offerAll_concat _ entries entry, files⟩
  · rw [get?, holds.files, lookup_firsts]
  · rw [size, holds.files, length_firsts]
  · have shape : (bundle.files.map fun (name, file) =>
        (⟨name, file.bytes⟩ : Archive.Entry)).map Archive.Entry.name = bundle.names := by
      rw [List.map_map]
      rfl
    rw [archive_eq_ok_iff, holds.files]
    constructor
    · rintro ⟨short, same⟩
      refine ⟨short, ?_, same⟩
      rw [same, ← holds.files, shape]
      exact distinct
    · rintro ⟨short, -, same⟩
      exact ⟨short, same⟩

end PagePress.Bundle
