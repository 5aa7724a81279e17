/-!
# Overwritten texts

If stretches of a text are replaced by others that share no character with some word, the word stands
in no place in which it did not stand before.
-/
namespace PagePress

/-- Some stretches of a text are replaced by others that are not empty and have no character of
`word`. -/
inductive Overwritten (word : List Char) : List Char → List Char → Prop
  | nil : Overwritten word [] []
  | keep (c : Char) {cs out : List Char} (later : Overwritten word cs out) :
      Overwritten word (c :: cs) (c :: out)
  | replace (old : List Char) {new cs out : List Char} (some : new ≠ [])
      (foreign : ∀ c ∈ new, c ∉ word) (later : Overwritten word cs out) :
      Overwritten word (old ++ cs) (new ++ out)

/-- No character of a text is in a word, by going over the text. -/
theorem foreign_of_all {word new : List Char} (h : new.all (fun c => !word.contains c) = true) :
    ∀ c ∈ new, c ∉ word := by
  simpa using h

namespace Overwritten

variable {word cs rest out first second : List Char}

theorem refl (cs : List Char) : Overwritten word cs cs := by
  induction cs with
  | nil => exact .nil
  | cons c cs ih => exact .keep c ih

theorem append (start : Overwritten word cs first) (later : Overwritten word rest second) :
    Overwritten word (cs ++ rest) (first ++ second) := by
  induction start with
  | nil => exact later
  | keep c _ ih => exact .keep c ih
  | replace old some foreign _ ih =>
    rw [List.append_assoc, List.append_assoc]
    exact .replace old some foreign ih

theorem isPrefix (h : Overwritten word cs out) {piece : List Char} (own : ∀ c ∈ piece, c ∈ word)
    (found : piece <+: out) : piece <+: cs := by
  induction h generalizing piece with
  | nil => exact found
  | keep c _ ih =>
    cases piece with
    | nil => exact List.nil_prefix
    | cons d piece =>
      obtain ⟨rfl, shorter⟩ := List.cons_prefix_cons.1 found
      have own : ∀ c ∈ piece, c ∈ word := fun c member => own c (List.mem_cons_of_mem _ member)
      exact List.cons_prefix_cons.2 ⟨rfl, ih own shorter⟩
  | @replace old new _ _ some foreign _ ih =>
    cases piece with
    | nil => exact List.nil_prefix
    | cons d piece =>
      cases new with
      | nil => exact absurd rfl some
      | cons n new =>
        obtain ⟨rfl, -⟩ := List.cons_prefix_cons.1 found
        exact absurd (own d List.mem_cons_self) (foreign d List.mem_cons_self)

/-- No new place where `word` stands comes up. -/
theorem isInfix (h : Overwritten word cs out) (filled : word ≠ []) (found : word <:+: out) :
    word <:+: cs := by
  induction h with
  | nil => exact found
  | keep c later ih =>
    rcases List.infix_cons_iff.1 found with here | inside
    · exact (isPrefix (.keep c later) (fun _ member => member) here).isInfix
    · exact List.infix_cons (ih inside)
  | @replace old new _ out some foreign _ ih =>
    have behind : word <:+: out := by
      clear some
      induction new with
      | nil => exact found
      | cons n new shrink =>
        refine shrink (fun c member => foreign c (List.mem_cons_of_mem _ member)) ?_
        refine (List.infix_cons_iff.1 found).resolve_left fun here => ?_
        cases word with
        | nil => exact filled rfl
        | cons w word =>
          obtain ⟨rfl, -⟩ := List.cons_prefix_cons.1 here
          exact foreign w List.mem_cons_self List.mem_cons_self
    exact (ih behind).trans (List.suffix_append _ _).isInfix

end Overwritten

end PagePress
