import PagePress.Autolink
import PagePress.Proofs.Splitting

/-!
# Hosts

A host is a dotted name: at least two labels with a point between any two of them. The check that goes
over the characters once accepts just these names.
-/
namespace PagePress

namespace Text

theorem length_pieces (separator : Char) (cs : List Char) :
    (pieces separator cs).length = cs.count separator + 1 := by
  fun_induction pieces separator cs with
  | case1 => rfl
  | case2 c rest same ih => rw [List.length_cons, ih, eq_of_beq same, List.count_cons_self]
  | case3 c rest _ none => exact absurd none (pieces_ne_nil separator rest)
  | case4 c rest other first more shape ih =>
    have differ : c ≠ separator := by simpa using other
    rw [shape] at ih
    rw [List.count_cons_of_ne differ, ← ih]
    rfl

theorem contains_iff_pieces {separator : Char} {cs : List Char} :
    cs.contains separator = true ↔ 2 ≤ (pieces separator cs).length := by
  rw [length_pieces, List.contains_iff_mem, ← List.count_pos_iff]
  omega

end Text

namespace Autolink

/-- A character of a label. -/
def IsLabelChar (c : Char) : Prop := c.isAlphanum = true ∨ c = '-' ∨ c = '_'

/-- A name of at least two labels, none of them empty, with single points between them. -/
def DottedName (name : List Char) : Prop :=
  ∃ labels, 2 ≤ labels.length ∧ (∀ label ∈ labels, label ≠ [] ∧ ∀ c ∈ label, IsLabelChar c) ∧
    name = ['.'].intercalate labels

variable {name : List Char} {c : Char}

theorem isHostChar_iff : isHostChar c = true ↔ IsLabelChar c ∨ c = '.' := by
  simp [isHostChar, IsLabelChar, or_assoc]

theorem IsLabelChar.ne_point (label : IsLabelChar c) : c ≠ '.' := by
  rintro rfl
  rcases label with letter | same | same
  · exact absurd letter (by decide)
  · exact absurd same (by decide)
  · exact absurd same (by decide)

/-- The label that goes on at the start of a text may be empty if it has begun before, the others may
not. -/
theorem labelsFilled_iff (fresh : Bool) {name first : List Char} {others : List (List Char)}
    (shape : Text.pieces '.' name = first :: others) :
    labelsFilled fresh name = true ↔
      (fresh = true → first ≠ []) ∧ ∀ label ∈ others, label ≠ [] := by
  induction name generalizing fresh first others with
  | nil =>
    obtain ⟨rfl, rfl⟩ := List.cons.inj shape
    cases fresh <;> simp [labelsFilled]
  | cons c rest ih =>
    obtain ⟨second, more, later⟩ := List.exists_cons_of_ne_nil (Text.pieces_ne_nil '.' rest)
    rw [Text.pieces] at shape
    rw [labelsFilled]
    split at shape
    next point =>
      obtain ⟨rfl, rfl⟩ := List.cons.inj shape
      rw [if_pos (by simpa using point), Bool.and_eq_true, ih true later, later]
      cases fresh <;> simp
    next other =>
      rw [later] at shape
      obtain ⟨rfl, rfl⟩ := List.cons.inj shape
      rw [if_neg (by simpa using other), ih false later]
      simp

theorem isHost_iff_pieces :
    isHost name = true ↔ 2 ≤ (Text.pieces '.' name).length ∧
      (∀ label ∈ Text.pieces '.' name, label ≠ []) ∧ name.all isHostChar = true := by
  obtain ⟨first, others, shape⟩ := List.exists_cons_of_ne_nil (Text.pieces_ne_nil '.' name)
  have filled := labelsFilled_iff true shape
  rw [isHost, Bool.and_eq_true, Bool.and_eq_true, Text.contains_iff_pieces, filled, shape, and_assoc]
  simp

theorem isHost_iff : isHost name = true ↔ DottedName name := by
  rw [isHost_iff_pieces]
  constructor
  · rintro ⟨several, filled, plain⟩
    refine ⟨Text.pieces '.' name, several, fun label member => ⟨filled label member, ?_⟩,
      (Text.intercalate_pieces '.' name).symm⟩
    intro c inside
    have own := List.all_eq_true.1 plain c (Text.mem_of_mem_pieces member inside)
    refine (isHostChar_iff.1 own).resolve_right ?_
    rintro rfl
    exact Text.not_mem_of_mem_pieces member inside
  · rintro ⟨labels, several, each, rfl⟩
    have pointless : ∀ label ∈ labels, '.' ∉ label :=
      fun label member inside => ((each label member).2 '.' inside).ne_point rfl
    have some : labels ≠ [] := by
      rintro rfl
      cases several
    rw [Text.pieces_intercalate some pointless]
    refine ⟨several, fun label member => (each label member).1, List.all_eq_true.2 fun c inside => ?_⟩
    rcases Text.mem_of_mem_intercalate inside with point | ⟨label, member, own⟩
    · exact isHostChar_iff.2 (.inr (List.mem_singleton.1 point))
    · exact isHostChar_iff.2 (.inl ((each label member).2 c own))

end Autolink

end PagePress
