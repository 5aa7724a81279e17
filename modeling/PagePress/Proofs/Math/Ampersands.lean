import PagePress.Proofs.Math.Reading
import PagePress.Proofs.Math.Sanitize

/-!
# The ampersands that are copied

Whatever the text, an ampersand is copied if it opens a numeric reference or only seems to, and turned
into a reference otherwise. That an ampersand only seems to open one does not happen in the MathML of
formulas, except in MathML that is refused as a whole.
-/
namespace PagePress.Math

namespace Sanitize

/-- Correcting tags brings in nothing that looks like a reference. -/
theorem unlettered_intercalate {first : List Char} {pieces : List (List Char)}
    (h : Unlettered (misspelled.intercalate (first :: pieces))) :
    Unlettered (wellSpelled.intercalate (first :: pieces)) := by
  induction pieces generalizing first with
  | nil => simpa using h
  | cons second pieces ih =>
    rw [List.intercalate_cons_cons, List.append_assoc] at h
    rw [List.intercalate_cons_cons, List.append_assoc]
    have before : Unlettered first := h.of_infix (List.prefix_append _ _).isInfix
    have behind : Unlettered (misspelled.intercalate (second :: pieces)) := by
      rw [← List.append_assoc] at h
      exact h.of_infix (List.suffix_append _ _).isInfix
    have tag : '&' ∉ wellSpelled := by decide
    exact before.append ((ih behind).prepend tag) (.inr ⟨_, rfl⟩)

theorem Unlettered.correctTags {cs : List Char} (h : Unlettered cs) :
    Unlettered (correctTags 0 cs) := by
  obtain ⟨first, pieces, rfl, -, corrected⟩ := correctTags_pieces cs
  rw [corrected]
  exact unlettered_intercalate h

theorem unmarked_of_sanitize {m out : String} (checked : sanitize m = .ok out) :
    ¬ errorMark <:+: m.toList := by
  unfold sanitize at checked
  dsimp only at checked
  split at checked
  next => cases checked
  next unmarked => exact from?_eq_none (by decide) unmarked

end Sanitize

open Sanitize

/-- An ampersand of any text is copied exactly if it opens a numeric reference or only seems to, by
hexadecimal digits that nothing announces, and turned into a reference in all other cases. Those that
are copied are the ones that open references exactly if no ampersand of the text only seems to. None
does in any text that stands in the MathML of a formula, if this passes the check. -/
theorem ampersands_exact (text : List Char) :
    (∀ before after, text = before ++ '&' :: after →
      (Copied before after ↔ Numeric after ∨ Lettered after) ∧
      (Replaced before after ↔ ¬ Copied before after) ∧
      ¬ (Numeric after ∧ Lettered after)) ∧
    ((∀ before after, text = before ++ '&' :: after → (Copied before after ↔ Numeric after)) ↔
      Unlettered text) ∧
    ∀ source display m out, mathml source display = .ok m → sanitize m = .ok out →
      text <:+: correctTags 0 m.toList → Unlettered text := by
  have copied : ∀ before after, Copied before after ↔ Numeric after ∨ Lettered after :=
    fun _ _ => copied_iff.trans startsReference_iff
  refine ⟨fun before after _ => ⟨copied before after, replaced_iff, ?_⟩, ?_, ?_⟩
  · exact fun ⟨reference, lettered⟩ => reference.not_lettered lettered
  · constructor
    · intro exact before after same lettered
      have reference := (exact before after same).1 ((copied before after).2 (.inr lettered))
      exact reference.not_lettered lettered
    · intro unlettered before after same
      rw [copied, or_iff_left (unlettered before after same)]
  · intro source display m out converted checked inside
    have whole := unlettered_mathml converted (unmarked_of_sanitize checked)
    exact whole.correctTags.of_infix inside

/-- An ampersand before digits with a letter among them, which nothing announces. -/
theorem lettered_ampersand_copied :
    escape "&#65a;".toList = "&#65a;".toList ∧
    Copied [] "#65a;".toList ∧ ¬ Numeric "#65a;".toList := by
  have lettered : Lettered "#65a;".toList :=
    ⟨"65a".toList, List.all_eq_true.1 (by decide), ⟨'a', by decide, by decide⟩, [], by decide⟩
  refine ⟨by decide, copied_iff.2 (by decide), ?_⟩
  exact fun reference => reference.not_lettered lettered

end PagePress.Math
