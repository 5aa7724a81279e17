import PagePress.Proofs.Joining
import PagePress.Text.Blank

/-!
# Splitting at a separator

The pieces of a text are without the separator, and joined by it they are the text again. Pieces
without the separator that are joined by it are the pieces of what they are joined to.
-/
namespace PagePress.Text

theorem pieces_ne_nil (separator : Char) (cs : List Char) : pieces separator cs ≠ [] := by
  cases cs with
  | nil => exact List.cons_ne_nil _ _
  | cons c rest =>
    unfold pieces
    split
    · exact List.cons_ne_nil _ _
    · split <;> exact List.cons_ne_nil _ _

theorem pieces_append (separator : Char) (front back : List Char) :
    pieces separator (front ++ separator :: back) =
      pieces separator front ++ pieces separator back := by
  induction front with
  | nil => simp [pieces]
  | cons c front ih =>
    rw [List.cons_append, pieces, pieces]
    split
    · rw [ih, List.cons_append]
    · obtain ⟨piece, more, shape⟩ := List.exists_cons_of_ne_nil (pieces_ne_nil separator front)
      rw [ih, shape]
      rfl

theorem not_mem_of_mem_pieces {separator : Char} {cs piece : List Char}
    (member : piece ∈ pieces separator cs) : separator ∉ piece := by
  fun_induction pieces separator cs generalizing piece with
  | case1 => simp_all
  | case2 c rest _ ih =>
    rcases List.mem_cons.1 member with rfl | later
    · exact List.not_mem_nil
    · exact ih later
  | case3 c rest other none ih => exact absurd none (pieces_ne_nil separator rest)
  | case4 c rest other first more shape ih =>
    have differ : separator ≠ c := by simpa using Ne.symm (ne_of_beq_false (by simpa using other))
    rcases List.mem_cons.1 member with rfl | later
    · exact not_or.2 ⟨differ, ih (shape ▸ List.mem_cons_self)⟩ ∘ List.mem_cons.1
    · exact ih (shape ▸ List.mem_cons_of_mem _ later)

theorem pieces_of_plain {separator : Char} {cs : List Char} (plain : separator ∉ cs) :
    pieces separator cs = [cs] := by
  induction cs with
  | nil => rfl
  | cons c rest ih =>
    obtain ⟨other, plain⟩ := not_or.1 (mt List.mem_cons.2 plain)
    have differ : (c == separator) = false := beq_false_of_ne (Ne.symm other)
    rw [pieces, ih plain, differ]
    rfl

/-- The pieces joined again are the text. -/
theorem intercalate_pieces (separator : Char) (cs : List Char) :
    [separator].intercalate (pieces separator cs) = cs := by
  fun_induction pieces separator cs with
  | case1 => rfl
  | case2 c rest same ih =>
    obtain ⟨first, more, shape⟩ := List.exists_cons_of_ne_nil (pieces_ne_nil separator rest)
    rw [shape, List.intercalate_cons_cons, ← shape, ih, eq_of_beq same]
    rfl
  | case3 c rest _ none => exact absurd none (pieces_ne_nil separator rest)
  | case4 c rest _ first more shape ih =>
    rw [shape] at ih
    exact (intercalate_append_cons [separator] [c] first more).trans (congrArg (c :: ·) ih)

theorem mem_of_mem_pieces {separator c : Char} {cs piece : List Char}
    (member : piece ∈ pieces separator cs) (inside : c ∈ piece) : c ∈ cs := by
  rw [← intercalate_pieces separator cs]
  exact mem_intercalate member inside

theorem pieces_intercalate {separator : Char} {texts : List (List Char)} (some : texts ≠ [])
    (plain : ∀ text ∈ texts, separator ∉ text) :
    pieces separator ([separator].intercalate texts) = texts := by
  induction texts with
  | nil => exact absurd rfl some
  | cons first texts ih =>
    have own := pieces_of_plain (plain first List.mem_cons_self)
    cases texts with
    | nil => rw [List.intercalate_singleton, own]
    | cons second texts =>
      rw [List.intercalate_cons_cons, List.append_assoc, List.singleton_append, pieces_append, own,
        ih (List.cons_ne_nil _ _) fun text member => plain text (List.mem_cons_of_mem _ member)]
      rfl

/-- The pieces of texts that are joined by the separator are those of each. -/
theorem pieces_intercalate_flatMap (separator : Char) {texts : List (List Char)} (some : texts ≠ []) :
    pieces separator ([separator].intercalate texts) = texts.flatMap (pieces separator) := by
  induction texts with
  | nil => exact absurd rfl some
  | cons first texts ih =>
    cases texts with
    | nil => simp
    | cons second texts =>
      rw [List.intercalate_cons_cons, List.append_assoc, List.singleton_append, pieces_append,
        ih (List.cons_ne_nil _ _)]
      rfl

theorem pieces_plain_append {separator : Char} {front : List Char} (plain : separator ∉ front) (cs : List Char) :
    pieces separator (front ++ cs) = (pieces separator cs).modifyHead (front ++ ·) := by
  obtain ⟨first, more, shape⟩ := List.exists_cons_of_ne_nil (pieces_ne_nil separator cs)
  rw [shape]
  induction front with
  | nil => exact shape
  | cons c front ih =>
    obtain ⟨other, plain⟩ := not_or.1 (mt List.mem_cons.2 plain)
    rw [List.cons_append, pieces, if_neg (by simpa using Ne.symm other), ih plain]
    rfl

theorem pieces_append_plain {separator : Char} {back : List Char} (plain : separator ∉ back) (cs : List Char) :
    ∃ before last, pieces separator cs = before ++ [last] ∧
      pieces separator (cs ++ back) = before ++ [last ++ back] := by
  induction cs with
  | nil => exact ⟨[], [], rfl, pieces_of_plain plain⟩
  | cons c cs ih =>
    obtain ⟨before, last, own, longer⟩ := ih
    rw [List.cons_append, pieces, pieces, own, longer]
    split
    · exact ⟨[] :: before, last, rfl, rfl⟩
    · cases before with
      | nil => exact ⟨[], c :: last, rfl, rfl⟩
      | cons first before => exact ⟨(c :: first) :: before, last, rfl, rfl⟩

/-- The first piece of a text is followed by a separator or by nothing. -/
theorem exists_first_piece (separator : Char) (cs : List Char) :
    ∃ first more rest, pieces separator cs = first :: more ∧ cs = first ++ rest ∧
      ∀ c ∈ rest.head?, c = separator := by
  obtain ⟨first, more, shape⟩ := List.exists_cons_of_ne_nil (pieces_ne_nil separator cs)
  have whole := intercalate_pieces separator cs
  rw [shape] at whole
  cases more with
  | nil => exact ⟨first, [], [], shape, by simpa using whole.symm, by simp⟩
  | cons second more =>
    rw [List.intercalate_cons_cons, List.append_assoc] at whole
    exact ⟨first, second :: more, _, shape, whole.symm, by simp⟩

end PagePress.Text
