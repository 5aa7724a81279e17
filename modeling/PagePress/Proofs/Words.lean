import PagePress.Proofs.Slug

/-!
# Words as stretches of a text

The maximal runs of a kind are the stretches of a text that cannot be made longer on either side. An
identifier is made of the words that stand in these stretches, from the first to the last.
-/
namespace PagePress

namespace Text

/-- A stretch of a text, as the positions of its first character and of the one after its last. -/
structure Span where
  start : Nat
  stop : Nat
  deriving DecidableEq, Repr

variable {α : Type} {kind : α → Bool} {cs front rest : List α} {c : α} {span other : Span}

/-- What stands in a stretch of a text. -/
def Span.cut (cs : List α) (span : Span) : List α := (cs.drop span.start).take (span.stop - span.start)

/-- A stretch of one kind that cannot be made longer: neither before it nor behind it stands
something of that kind. -/
structure Span.Maximal (kind : α → Bool) (cs : List α) (span : Span) : Prop where
  filled : span.start < span.stop
  inside : span.stop ≤ cs.length
  own : ∀ i, span.start ≤ i → i < span.stop → ∀ c ∈ cs[i]?, kind c = true
  left : ∀ i, i + 1 = span.start → ∀ c ∈ cs[i]?, kind c = false
  right : ∀ c ∈ cs[span.stop]?, kind c = false

namespace Span.Maximal

theorem first (whole : span.Maximal kind cs) : ∃ c, cs[span.start]? = some c ∧ kind c = true := by
  have filled := whole.filled
  have inside := whole.inside
  exact ⟨_, List.getElem?_eq_getElem (by omega), whole.own _ (Nat.le_refl _) filled _
    (List.getElem?_eq_getElem (by omega))⟩

/-- Two of them that begin at one place are the same. -/
theorem ext_start (one : span.Maximal kind cs) (two : other.Maximal kind cs)
    (same : span.start = other.start) : span = other := by
  have stop : ∀ {span other : Span}, span.Maximal kind cs → other.Maximal kind cs →
      span.start = other.start → ¬ span.stop < other.stop := by
    intro span other one two same shorter
    have filled := one.filled
    have inside := two.inside
    have here : cs[span.stop]? = some cs[span.stop] := List.getElem?_eq_getElem (by omega)
    have own := two.own span.stop (by omega) shorter _ here
    rw [one.right _ here] at own
    cases own
  have forth := stop one two same
  have back := stop two one same.symm
  cases span
  cases other
  simp only at same forth back
  rw [same, Nat.le_antisymm (Nat.not_lt.1 back) (Nat.not_lt.1 forth)]

/-- Two of them are the same, or there is something between them: before the second stands nothing of
its kind. -/
theorem eq_or_apart (one : span.Maximal kind cs) (two : other.Maximal kind cs)
    (after : span.start ≤ other.start) : other = span ∨ span.stop < other.start := by
  rcases Nat.eq_or_lt_of_le after with same | later
  · exact .inl (two.ext_start one same.symm)
  · refine .inr (Nat.not_le.1 fun close => ?_)
    have inside := one.inside
    have before := List.getElem?_eq_getElem (show other.start - 1 < cs.length by omega)
    have outer := two.left (other.start - 1) (by omega) _ before
    rw [one.own (other.start - 1) (by omega) (by omega) _ before] at outer
    cases outer

end Span.Maximal

/-- A run of one kind, between neighbours of another, is a maximal stretch. -/
theorem maximal_of_split {run back : List α} (filled : run ≠ [])
    (own : ∀ c ∈ run, kind c = true) (left : ∀ c ∈ front.getLast?, kind c = false)
    (right : ∀ c ∈ back.head?, kind c = false) :
    (⟨front.length, front.length + run.length⟩ : Span).Maximal kind (front ++ (run ++ back)) where
  filled := Nat.lt_add_of_pos_right (List.length_pos_of_ne_nil filled)
  inside := by simp
  own i after before c here := by
    dsimp only at after before
    obtain ⟨k, rfl⟩ := Nat.exists_eq_add_of_le after
    rw [List.getElem?_append_right (Nat.le_add_right _ _), Nat.add_sub_cancel_left,
      List.getElem?_append_left (by omega)] at here
    exact own c (List.mem_of_getElem? here)
  left i next c here := by
    dsimp only at next
    refine left c ?_
    rw [List.getElem?_append_left (by omega)] at here
    rwa [List.getLast?_eq_getElem?, ← next]
  right c here := by
    refine right c ?_
    rw [← List.append_assoc, List.getElem?_append_right (by simp), List.length_append,
      Nat.sub_self] at here
    rwa [List.head?_eq_getElem?]

/-- From a place on that is not inside a run, the runs are what stands in the maximal stretches, in
order. -/
theorem exists_spans_from (kind : α → Bool) (front cs : List α)
    (edge : (∀ c ∈ front.getLast?, kind c = false) ∨ ∀ c ∈ cs.head?, kind c = false) :
    ∃ spans : List Span, spans.Pairwise (fun one next => one.stop < next.start) ∧
      (∀ span, span ∈ spans ↔ span.Maximal kind (front ++ cs) ∧ front.length ≤ span.start) ∧
      runs kind cs = spans.map (Span.cut (front ++ cs)) := by
  fun_induction runs kind cs generalizing front with
  | case1 =>
    refine ⟨[], .nil, fun span => ⟨fun member => absurd member List.not_mem_nil, ?_⟩, rfl⟩
    rintro ⟨whole, after⟩
    have filled := whole.filled
    have inside := whole.inside
    rw [List.append_nil] at inside
    omega
  | case2 c rest letter ih =>
    let run := c :: rest.takeWhile kind
    let behind := rest.dropWhile kind
    let span : Span := ⟨front.length, front.length + run.length⟩
    have split : front ++ c :: rest = front ++ (run ++ behind) := by
      simp [run, behind, List.takeWhile_append_dropWhile]
    have own : ∀ d ∈ run, kind d = true := by
      intro d member
      rcases List.mem_cons.1 member with rfl | later
      · exact letter
      · exact List.mem_takeWhile_imp later
    have left : ∀ d ∈ front.getLast?, kind d = false :=
      edge.resolve_right fun other => by simp [other c rfl] at letter
    have right : ∀ d ∈ behind.head?, kind d = false := by
      intro d first
      have ends := List.head?_dropWhile_not kind rest
      rwa [show (rest.dropWhile kind).head? = some d from first] at ends
    have here : span.Maximal kind (front ++ (run ++ behind)) :=
      maximal_of_split (List.cons_ne_nil _ _) own left right
    obtain ⟨spans, ordered, mem, cut⟩ := ih (front ++ run) (.inr right)
    have length : (front ++ run).length = span.stop := List.length_append
    rw [List.append_assoc] at mem cut
    rw [split]
    refine ⟨span :: spans, List.pairwise_cons.2 ⟨fun next member => ?_, ordered⟩,
      fun other => ?_, ?_⟩
    · obtain ⟨whole, after⟩ := (mem next).1 member
      rw [length] at after
      have filled := here.filled
      refine (here.eq_or_apart whole (by omega)).resolve_left ?_
      rintro rfl
      omega
    · rw [List.mem_cons, mem, length]
      constructor
      · rintro (rfl | ⟨whole, after⟩)
        · exact ⟨here, Nat.le_refl _⟩
        · exact ⟨whole, Nat.le_trans (Nat.le_add_right _ _) after⟩
      · rintro ⟨whole, after⟩
        exact (here.eq_or_apart whole after).imp_right fun later => ⟨whole, Nat.le_of_lt later⟩
    · rw [List.map_cons, ← cut]
      congr 1
      simp [Span.cut, span, run]
  | case3 c rest other ih =>
    have split : front ++ c :: rest = front ++ [c] ++ rest := by simp
    have plain : kind c = false := by simpa using other
    obtain ⟨spans, ordered, mem, cut⟩ := ih (front ++ [c]) (.inl (by simpa using plain))
    rw [← split] at mem cut
    refine ⟨spans, ordered, fun span => ?_, cut⟩
    rw [mem, List.length_append, List.length_singleton]
    refine and_congr_right fun whole => ⟨Nat.le_of_succ_le, fun after => ?_⟩
    refine Nat.lt_of_le_of_ne after fun same => ?_
    obtain ⟨d, first, kept⟩ := whole.first
    rw [← same, List.getElem?_append_right (Nat.le_refl _), Nat.sub_self] at first
    obtain rfl : c = d := Option.some.inj first
    exact other kept

end Text

namespace Slug

open Text (isAlphanumeric lowerCase Span)

/-- The identifier of a text is made of its maximal stretches of letters and digits, each put into
lower case character by character, from the first to the last with one hyphen between two of them. A
text without letters and digits has the identifier of a section. -/
theorem ofText_eq_spans (text : String) :
    ∃ spans : List Span, spans.Pairwise (fun one next => one.stop < next.start) ∧
      (∀ span, span ∈ spans ↔ span.Maximal isAlphanumeric text.toList) ∧
      ofText text = if spans = [] then "section" else
        String.ofList (['-'].intercalate
          (spans.map fun span => (span.cut text.toList).flatMap lowerCase)) := by
  obtain ⟨spans, ordered, mem, cut⟩ :=
    Text.exists_spans_from isAlphanumeric [] text.toList (.inl nofun)
  refine ⟨spans, ordered, fun span => by simpa using mem span, ?_⟩
  have none : words text.toList = [] ↔ spans = [] := by
    rw [words, cut]
    exact List.map_eq_nil_iff
  rw [ofText_eq, if_congr none rfl rfl, join, words, cut, List.map_map]
  rfl

end Slug

end PagePress
