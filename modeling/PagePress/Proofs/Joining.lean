import Mathlib.Data.List.TakeWhile

/-!
# Joining pieces

What is known of pieces that are joined by a separator: their characters, and where the separators
stand. Pieces of characters of one kind, joined by a separator of another, are found again as the
maximal runs of that kind.
-/
namespace PagePress.Text

variable {α : Type} {sep : List α} {pieces : List (List α)} {c : α}

/-- The front of the first piece may be put before the others are joined to it. -/
theorem intercalate_append_cons (sep front back : List α) (pieces : List (List α)) :
    sep.intercalate ((front ++ back) :: pieces) = front ++ sep.intercalate (back :: pieces) := by
  cases pieces <;> simp [List.intercalate_cons_cons]

theorem prefix_intercalate (sep piece : List α) (pieces : List (List α)) :
    piece <+: sep.intercalate (piece :: pieces) :=
  ⟨sep.intercalate ([] :: pieces), by rw [← intercalate_append_cons, List.append_nil]⟩

/-- The back of the separator may be put before the pieces that follow one. -/
theorem intercalate_append_sep (sep lead first : List α) (pieces : List (List α)) :
    (sep ++ lead).intercalate (first :: pieces) =
      sep.intercalate (first :: pieces.map (lead ++ ·)) := by
  induction pieces generalizing first with
  | nil => simp
  | cons second pieces ih =>
    rw [List.map_cons, List.intercalate_cons_cons, List.intercalate_cons_cons, ih second,
      intercalate_append_cons sep lead, ← List.append_assoc first]
    simp

theorem intercalate_append {first last : List (List α)} (some : first ≠ [])
    (others : last ≠ []) :
    sep.intercalate (first ++ last) = sep.intercalate first ++ sep ++ sep.intercalate last := by
  induction first with
  | nil => exact absurd rfl some
  | cons piece first ih =>
    cases first with
    | nil =>
      obtain ⟨second, more, rfl⟩ := List.exists_cons_of_ne_nil others
      rw [List.singleton_append, List.intercalate_cons_cons, List.intercalate_singleton]
    | cons second first =>
      rw [List.cons_append, List.cons_append, List.intercalate_cons_cons, ← List.cons_append,
        ih (List.cons_ne_nil _ _), List.intercalate_cons_cons]
      simp only [List.append_assoc]

/-- Groups of pieces may be joined by the separator first. -/
theorem intercalate_flatMap {β : Type} {items : List β} {f : β → List (List α)}
    (some : ∀ item ∈ items, f item ≠ []) :
    sep.intercalate (items.flatMap f) =
      sep.intercalate (items.map fun item => sep.intercalate (f item)) := by
  induction items with
  | nil => rfl
  | cons item items ih =>
    have later := ih fun item member => some item (List.mem_cons_of_mem _ member)
    rw [List.flatMap_cons, List.map_cons]
    cases items with
    | nil => simp
    | cons second items =>
      have others : (second :: items).flatMap f ≠ [] := by
        rw [List.flatMap_cons]
        exact List.append_ne_nil_of_left_ne_nil (some second (by simp)) _
      rw [intercalate_append (some item List.mem_cons_self) others, later, List.map_cons,
        List.intercalate_cons_cons]

theorem mem_of_mem_intercalate (inside : c ∈ sep.intercalate pieces) :
    c ∈ sep ∨ ∃ piece ∈ pieces, c ∈ piece := by
  induction pieces with
  | nil => cases inside
  | cons first pieces ih =>
    cases pieces with
    | nil => exact .inr ⟨first, List.mem_cons_self, by simpa using inside⟩
    | cons second pieces =>
      rw [List.intercalate_cons_cons] at inside
      rcases List.mem_append.1 inside with early | late
      · rcases List.mem_append.1 early with here | between
        · exact .inr ⟨first, List.mem_cons_self, here⟩
        · exact .inl between
      · exact (ih late).imp_right fun ⟨piece, member, found⟩ =>
          ⟨piece, List.mem_cons_of_mem _ member, found⟩

theorem mem_intercalate {piece : List α} (member : piece ∈ pieces) (inside : c ∈ piece) :
    c ∈ sep.intercalate pieces := by
  induction pieces with
  | nil => cases member
  | cons first pieces ih =>
    rcases List.mem_cons.1 member with rfl | later
    · exact (prefix_intercalate sep _ pieces).subset inside
    · cases pieces with
      | nil => cases later
      | cons second pieces =>
        rw [List.intercalate_cons_cons]
        exact List.mem_append_right _ (ih later)

/-- A text that is not empty, with no separator at its ends and no two of them side by side. -/
structure Tidy (separator : α) (text : List α) : Prop where
  filled : text ≠ []
  begins : text.head? ≠ some separator
  ends : text.getLast? ≠ some separator
  apart : ¬ [separator, separator] <:+: text

variable {separator : α}

theorem Tidy.of_plain {piece : List α} (filled : piece ≠ []) (plain : separator ∉ piece) :
    Tidy separator piece where
  filled := filled
  begins := fun first => plain (List.mem_of_head? first)
  ends := fun last => plain (List.mem_of_getLast? last)
  apart := fun twice => plain (twice.subset List.mem_cons_self)

/-- A plain piece and a separator before a tidy text leave it tidy. -/
theorem Tidy.prepend {piece text : List α} (filled : piece ≠ []) (plain : separator ∉ piece)
    (tidy : Tidy separator text) : Tidy separator (piece ++ [separator] ++ text) where
  filled := by simp
  begins := by
    obtain ⟨c, rest, rfl⟩ := List.exists_cons_of_ne_nil filled
    rintro ⟨⟩
    exact plain List.mem_cons_self
  ends := by
    have ends := tidy.ends
    rw [List.getLast?_eq_some_getLast tidy.filled] at ends
    rwa [List.getLast?_append, List.getLast?_eq_some_getLast tidy.filled]
  apart := by
    intro twice
    have behind : [separator, separator] <:+: separator :: text := by
      rw [List.append_assoc] at twice
      clear filled
      induction piece with
      | nil => exact twice
      | cons c piece ih =>
        refine ih (fun member => plain (List.mem_cons_of_mem _ member)) ?_
        refine (List.infix_cons_iff.1 twice).resolve_left fun here => ?_
        exact plain ((List.cons_prefix_cons.1 here).1 ▸ List.mem_cons_self)
    rcases List.infix_cons_iff.1 behind with here | inside
    · obtain ⟨behind, same⟩ := (List.cons_prefix_cons.1 here).2
      exact tidy.begins (by rw [← same]; rfl)
    · exact tidy.apart inside

theorem Tidy.intercalate (some : pieces ≠ [])
    (plain : ∀ piece ∈ pieces, piece ≠ [] ∧ separator ∉ piece) :
    Tidy separator ([separator].intercalate pieces) := by
  induction pieces with
  | nil => exact absurd rfl some
  | cons first pieces ih =>
    obtain ⟨filled, own⟩ := plain first List.mem_cons_self
    cases pieces with
    | nil =>
      rw [List.intercalate_singleton]
      exact .of_plain filled own
    | cons second pieces =>
      rw [List.intercalate_cons_cons]
      exact .prepend filled own
        (ih (List.cons_ne_nil _ _) fun piece member => plain piece (List.mem_cons_of_mem _ member))

/-! ### Runs -/

/-- The maximal runs of elements of one kind. -/
def runs (kind : α → Bool) : List α → List (List α)
  | [] => []
  | c :: rest =>
    if kind c then (c :: rest.takeWhile kind) :: runs kind (rest.dropWhile kind)
    else runs kind rest
termination_by cs => cs.length
decreasing_by
  · exact Nat.lt_succ_of_le (List.dropWhile_suffix _).length_le
  · exact Nat.lt_succ_self _

variable {kind : α → Bool} {cs run : List α}

theorem mem_runs (member : run ∈ runs kind cs) :
    run ≠ [] ∧ ∀ c ∈ run, kind c = true ∧ c ∈ cs := by
  fun_induction runs kind cs with
  | case1 => cases member
  | case2 c rest own ih =>
    rcases List.mem_cons.1 member with rfl | later
    · refine ⟨List.cons_ne_nil _ _, fun d inside => ?_⟩
      rcases List.mem_cons.1 inside with rfl | inside
      · exact ⟨own, List.mem_cons_self⟩
      · exact ⟨List.mem_takeWhile_imp inside,
          List.mem_cons_of_mem _ ((List.takeWhile_prefix _).subset inside)⟩
    · obtain ⟨filled, each⟩ := ih later
      refine ⟨filled, fun d inside => ⟨(each d inside).1, ?_⟩⟩
      exact List.mem_cons_of_mem _ ((List.dropWhile_suffix _).subset (each d inside).2)
  | case3 c rest _ ih =>
    obtain ⟨filled, each⟩ := ih member
    exact ⟨filled, fun d inside => ⟨(each d inside).1, List.mem_cons_of_mem _ (each d inside).2⟩⟩

theorem mem_run_of_mem (inside : c ∈ cs) (own : kind c = true) : ∃ run ∈ runs kind cs, c ∈ run := by
  fun_induction runs kind cs with
  | case1 => cases inside
  | case2 d rest _ ih =>
    rw [← List.takeWhile_append_dropWhile (p := kind) (l := rest)] at inside
    rcases List.mem_cons.1 inside with rfl | inside
    · exact ⟨_, List.mem_cons_self, List.mem_cons_self⟩
    · rcases List.mem_append.1 inside with here | later
      · exact ⟨_, List.mem_cons_self, List.mem_cons_of_mem _ here⟩
      · obtain ⟨run, member, found⟩ := ih later
        exact ⟨run, List.mem_cons_of_mem _ member, found⟩
  | case3 d rest other ih =>
    rcases List.mem_cons.1 inside with rfl | inside
    · exact absurd own other
    · exact ih inside

/-- A run ends where something of another kind begins. -/
theorem runs_append {rest : List α} (filled : run ≠ []) (own : ∀ c ∈ run, kind c = true)
    (edge : ∀ c ∈ rest.head?, kind c = false) :
    runs kind (run ++ rest) = run :: runs kind rest := by
  obtain ⟨c, run, rfl⟩ := List.exists_cons_of_ne_nil filled
  have behind : rest.takeWhile kind = [] ∧ rest.dropWhile kind = rest := by
    cases rest with
    | nil => exact ⟨rfl, rfl⟩
    | cons d rest => simp [edge d rfl]
  have later : ∀ d ∈ run, kind d = true := fun d inside => own d (List.mem_cons_of_mem _ inside)
  rw [List.cons_append, runs, if_pos (own c List.mem_cons_self), List.takeWhile_append_of_pos later,
    List.dropWhile_append_of_pos later, behind.1, behind.2, List.append_nil]

theorem runs_intercalate (other : kind separator = false)
    (own : ∀ piece ∈ pieces, piece ≠ [] ∧ ∀ c ∈ piece, kind c = true) :
    runs kind ([separator].intercalate pieces) = pieces := by
  induction pieces with
  | nil => simp [runs]
  | cons first pieces ih =>
    obtain ⟨filled, first_own⟩ := own first List.mem_cons_self
    have later := ih fun piece member => own piece (List.mem_cons_of_mem _ member)
    cases pieces with
    | nil =>
      have edge : ∀ c ∈ ([] : List α).head?, kind c = false := by simp
      have alone := runs_append filled first_own edge
      rw [List.append_nil, runs] at alone
      rw [List.intercalate_singleton, alone]
    | cons second pieces =>
      have edge : ∀ c ∈ (separator :: [separator].intercalate (second :: pieces)).head?,
          kind c = false := by
        rintro c ⟨⟩
        exact other
      rw [List.intercalate_cons_cons, List.append_assoc, List.singleton_append,
        runs_append filled first_own edge, runs, if_neg (by simp [other]), later]

end PagePress.Text
