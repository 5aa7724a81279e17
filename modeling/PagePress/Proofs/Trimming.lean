import Mathlib.Data.List.TakeWhile
import PagePress.Text.Blank

/-!
# Trimming

White space at the ends of a text goes by trimming and nothing else does. A text is neat if it begins
and ends with something else than white space: trimming leaves it as it is, and what trimming leaves
of a text is neat or empty.
-/
namespace PagePress.Text

/-- A text that is not empty, without white space at its ends. -/
structure Neat (cs : List Char) : Prop where
  begins : ∃ c rest, cs = c :: rest ∧ isBlank c = false
  ends : ∃ front c, cs = front ++ [c] ∧ isBlank c = false

variable {cs front back : List Char}

theorem blank_of_space : ∀ c ∈ [' '], isBlank c = true := List.all_eq_true.1 (by decide)

theorem stripEnd_append (blank : ∀ c ∈ back, isBlank c = true) :
    stripEnd (cs ++ back) = stripEnd cs := by
  rw [stripEnd, List.reverse_append,
    List.dropWhile_append_of_pos fun c member => blank c (List.mem_reverse.1 member)]
  rfl

theorem stripEnd_of_ends {c : Char} (filled : isBlank c = false) :
    stripEnd (cs ++ [c]) = cs ++ [c] := by
  rw [stripEnd, List.reverse_append, List.reverse_singleton, List.singleton_append,
    List.dropWhile_cons_of_neg (by simp [filled]), List.reverse_cons, List.reverse_reverse]

/-- Nothing but white space at the end is lost. -/
theorem stripEnd_isPrefix (cs : List Char) : stripEnd cs <+: cs := by
  have kept : cs.reverse.dropWhile isBlank <:+ cs.reverse := List.dropWhile_suffix _
  rw [stripEnd, ← List.reverse_suffix, List.reverse_reverse]
  exact kept

theorem strip_blank_append (blank : ∀ c ∈ front, isBlank c = true) :
    strip (front ++ cs) = strip cs := by
  rw [strip, List.dropWhile_append_of_pos blank]
  rfl

theorem strip_append_blank (blank : ∀ c ∈ back, isBlank c = true) :
    strip (cs ++ back) = strip cs := by
  rw [strip, List.dropWhile_append, List.dropWhile_eq_nil_iff.2 blank]
  split
  next empty => rw [strip, List.isEmpty_iff.1 empty]
  next => exact stripEnd_append blank

theorem Neat.strip_eq (neat : Neat cs) : strip cs = cs := by
  obtain ⟨⟨c, rest, rfl, first⟩, front, d, same, last⟩ := neat
  rw [strip, List.dropWhile_cons_of_neg (by simp [first]), same, stripEnd_of_ends last]

theorem of_dropWhile_blank {c : Char} {rest : List Char} (h : cs.dropWhile isBlank = c :: rest) :
    isBlank c = false := by
  have first := List.head?_dropWhile_not isBlank cs
  rwa [h] at first

theorem neat_strip (filled : strip cs ≠ []) : Neat (strip cs) where
  begins := by
    obtain ⟨c, rest, shape⟩ := List.exists_cons_of_ne_nil filled
    have kept : strip cs <+: cs.dropWhile isBlank := stripEnd_isPrefix _
    rw [shape] at kept
    obtain ⟨behind, same⟩ := kept
    exact ⟨c, rest, shape, of_dropWhile_blank same.symm⟩
  ends := by
    unfold strip stripEnd at filled ⊢
    obtain ⟨c, rest, shape⟩ := List.exists_cons_of_ne_nil (mt List.reverse_eq_nil_iff.2 filled)
    rw [shape, List.reverse_cons]
    exact ⟨rest.reverse, c, rfl, of_dropWhile_blank shape⟩

theorem mem_of_mem_strip {c : Char} (member : c ∈ strip cs) : c ∈ cs :=
  (List.dropWhile_suffix _).subset ((stripEnd_isPrefix _).subset member)

/-- A text is blank exactly if trimming leaves nothing of it. -/
theorem strip_eq_nil_iff : strip cs = [] ↔ ∀ c ∈ cs, isBlank c = true := by
  constructor
  · intro empty
    apply List.dropWhile_eq_nil_iff.1
    cases behind : cs.dropWhile isBlank with
    | nil => rfl
    | cons c rest =>
      -- The first character that is not blank is kept.
      have ends : (cs.dropWhile isBlank).reverse.dropWhile isBlank = [] :=
        List.reverse_eq_nil_iff.1 empty
      have blank := List.dropWhile_eq_nil_iff.1 ends c (by simp [behind])
      rw [of_dropWhile_blank behind] at blank
      cases blank
  · intro blank
    have whole : strip (cs ++ []) = strip [] := strip_blank_append blank
    rwa [List.append_nil] at whole

theorem strip_ne_nil {c : Char} {tail : List Char} (filled : isBlank c = false) :
    strip (c :: tail) ≠ [] := by
  intro empty
  have blank := strip_eq_nil_iff.1 empty c List.mem_cons_self
  rw [filled] at blank
  cases blank

/-- What trimming takes off a text. -/
theorem exists_strip (cs : List Char) : ∃ front back, (∀ c ∈ front, isBlank c = true) ∧
    (∀ c ∈ back, isBlank c = true) ∧ cs = front ++ strip cs ++ back := by
  refine ⟨cs.takeWhile isBlank, ((cs.dropWhile isBlank).reverse.takeWhile isBlank).reverse,
    fun c => List.mem_takeWhile_imp,
    fun c member => List.mem_takeWhile_imp (List.mem_reverse.1 member), ?_⟩
  rw [strip, stripEnd, List.append_assoc, ← List.reverse_append, List.takeWhile_append_dropWhile,
    List.reverse_reverse, List.takeWhile_append_dropWhile]

theorem strip_strip (cs : List Char) : strip (strip cs) = strip cs := by
  by_cases empty : strip cs = []
  · rw [empty]
    rfl
  · exact (neat_strip empty).strip_eq

/-- What stands between two neat texts has no say in it. -/
theorem Neat.append (first : Neat front) (last : Neat back) (between : List Char) :
    Neat (front ++ between ++ back) where
  begins := by
    obtain ⟨c, rest, rfl, filled⟩ := first.begins
    exact ⟨c, rest ++ between ++ back, by simp, filled⟩
  ends := by
    obtain ⟨start, c, rfl, filled⟩ := last.ends
    exact ⟨front ++ between ++ start, c, by simp, filled⟩

theorem Neat.intercalate {first : List Char} {pieces : List (List Char)}
    (neat : ∀ piece ∈ first :: pieces, Neat piece) (sep : List Char) :
    Neat (sep.intercalate (first :: pieces)) := by
  induction pieces generalizing first with
  | nil => simpa using neat first List.mem_cons_self
  | cons second pieces ih =>
    rw [List.intercalate_cons_cons]
    exact (neat first List.mem_cons_self).append
      (ih fun piece member => neat piece (List.mem_cons_of_mem _ member)) sep

end PagePress.Text
