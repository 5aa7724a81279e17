import PagePress.Proofs.Joining
import PagePress.Proofs.Splitting
import PagePress.Proofs.Trimming
import PagePress.Selector

/-!
# Parts of selectors

The parts of a selector list are neat and made of its own characters, so that confining the list to a
neat scope gives a neat text, with no characters but those of the list, of the scope and of the
separators between parts.
-/
namespace PagePress

namespace Text

/-- White space around a text is white space around its pieces. -/
theorem map_strip_pieces {separator : Char} (filled : isBlank separator = false) (cs : List Char) :
    (pieces separator (strip cs)).map strip = (pieces separator cs).map strip := by
  have plain : ∀ text : List Char, (∀ c ∈ text, isBlank c = true) → separator ∉ text :=
    fun text blank member => absurd (blank separator member) (by simp [filled])
  obtain ⟨front, back, before, behind, whole⟩ := exists_strip cs
  obtain ⟨outer, last, own, longer⟩ := pieces_append_plain (plain back behind) (strip cs)
  have ends : (pieces separator (strip cs ++ back)).map strip =
      (pieces separator (strip cs)).map strip := by
    rw [own, longer, List.map_append, List.map_append, List.map_singleton, List.map_singleton,
      strip_append_blank behind]
  have starts : (pieces separator (front ++ (strip cs ++ back))).map strip =
      (pieces separator (strip cs ++ back)).map strip := by
    obtain ⟨first, more, shape⟩ :=
      List.exists_cons_of_ne_nil (pieces_ne_nil separator (strip cs ++ back))
    rw [pieces_plain_append (plain front before), shape, List.modifyHead_cons, List.map_cons,
      List.map_cons, strip_blank_append before]
  rw [← List.append_assoc, ← whole] at starts
  exact (starts.trans ends).symm

end Text

namespace Selector

variable {scope selector part text first : List Char} {texts others : List (List Char)} {c : Char}

/-! ### Trimmed texts -/

/-- The texts that are not blank, without white space around them. -/
def trimmed (texts : List (List Char)) : List (List Char) :=
  (texts.map Text.strip).filter (!·.isEmpty)

theorem parts_eq_trimmed (selector : List Char) :
    parts selector = trimmed (Text.pieces ',' selector) := rfl

theorem trimmed_cons_of_blank (empty : Text.strip text = []) :
    trimmed (text :: texts) = trimmed texts := by
  rw [trimmed, List.map_cons, List.filter_cons_of_neg (by simp [empty])]
  rfl

theorem trimmed_cons (filled : Text.strip text ≠ []) :
    trimmed (text :: texts) = Text.strip text :: trimmed texts := by
  rw [trimmed, List.map_cons, List.filter_cons_of_pos (by simpa using filled)]
  rfl

theorem of_mem_trimmed (member : part ∈ trimmed texts) :
    Text.Neat part ∧ ∃ text ∈ texts, Text.strip text = part := by
  obtain ⟨listed, filled⟩ := List.mem_filter.1 member
  obtain ⟨text, found, rfl⟩ := List.mem_map.1 listed
  exact ⟨Text.neat_strip (by simpa using filled), text, found, rfl⟩

theorem trimmed_neat (neat : ∀ part ∈ texts, Text.Neat part) : trimmed texts = texts := by
  induction texts with
  | nil => rfl
  | cons text texts ih =>
    have own := neat text List.mem_cons_self
    obtain ⟨c, rest, shape, -⟩ := own.begins
    have filled : Text.strip text ≠ [] := by
      rw [own.strip_eq, shape]
      exact List.cons_ne_nil _ _
    rw [trimmed_cons filled, own.strip_eq,
      ih fun part member => neat part (List.mem_cons_of_mem _ member)]

/-! ### Texts behind a comma and a blank -/

/-- What is joined by commas if texts are joined by a comma and a blank. -/
def spaced (first : List Char) (others : List (List Char)) : List (List Char) :=
  first :: others.map (' ' :: ·)

theorem spaced_ne_nil (first : List Char) (others : List (List Char)) : spaced first others ≠ [] :=
  List.cons_ne_nil _ _

theorem intercalate_spaced (first : List Char) (others : List (List Char)) :
    [',', ' '].intercalate (first :: others) = [','].intercalate (spaced first others) :=
  Text.intercalate_append_sep [','] [' '] first others

theorem forall_mem_spaced {p : List Char → Prop} (blank : ∀ part, p part → p (' ' :: part))
    (own : ∀ part ∈ first :: others, p part) : ∀ piece ∈ spaced first others, p piece := by
  refine List.forall_mem_cons.2 ⟨own first List.mem_cons_self, fun piece member => ?_⟩
  obtain ⟨part, inside, rfl⟩ := List.mem_map.1 member
  exact blank part (own part (List.mem_cons_of_mem _ inside))

theorem map_strip_spaced (neat : ∀ part ∈ first :: others, Text.Neat part) :
    (spaced first others).map Text.strip = first :: others := by
  rw [spaced, List.map_cons, (neat first List.mem_cons_self).strip_eq, List.map_map]
  congr 1
  refine (List.map_congr_left fun part member => ?_).trans (List.map_id others)
  have own : Text.strip ([' '] ++ part) = Text.strip part :=
    Text.strip_blank_append Text.blank_of_space
  exact own.trans (neat part (List.mem_cons_of_mem _ member)).strip_eq

theorem trimmed_spaced (neat : ∀ part ∈ first :: others, Text.Neat part) :
    trimmed (spaced first others) = first :: others := by
  have own := trimmed_neat neat
  rw [trimmed, map_strip_spaced neat, ← own, trimmed, List.filter_filter]
  simp

/-- Texts without a comma that are joined by a comma and a blank are found again between the commas. -/
theorem pieces_spaced (plain : ∀ part ∈ first :: others, ',' ∉ part) :
    Text.pieces ',' ([',', ' '].intercalate (first :: others)) = spaced first others := by
  have commaless : ∀ piece ∈ spaced first others, ',' ∉ piece :=
    forall_mem_spaced (fun part own => by simpa using own) plain
  rw [intercalate_spaced, Text.pieces_intercalate (spaced_ne_nil first others) commaless]

/-! ### Parts -/

theorem mem_of_mem_parts (member : part ∈ parts selector) (inside : c ∈ part) : c ∈ selector := by
  obtain ⟨-, piece, found, rfl⟩ := of_mem_trimmed member
  exact Text.mem_of_mem_pieces found (Text.mem_of_mem_strip inside)

theorem parts_strip (cs : List Char) : parts (Text.strip cs) = parts cs := by
  rw [parts, parts, Text.map_strip_pieces (by decide)]

theorem comma_not_mem_part (member : part ∈ parts selector) : ',' ∉ part := by
  obtain ⟨-, piece, found, rfl⟩ := of_mem_trimmed member
  exact fun inside => Text.not_mem_of_mem_pieces found (Text.mem_of_mem_strip inside)

theorem neat_of_mem_parts (member : part ∈ parts selector) : Text.Neat part :=
  (of_mem_trimmed member).1

/-- A character of a confined selector is one of the scope, of the selector, or of a separator. -/
theorem mem_of_mem_confine (inside : c ∈ confine scope selector) :
    c ∈ scope ∨ c ∈ selector ∨ c ∈ [',', ' '] := by
  rcases Text.mem_of_mem_intercalate inside with between | ⟨anchored, listed, found⟩
  · exact .inr (.inr between)
  obtain ⟨part, member, rfl⟩ := List.mem_map.1 listed
  unfold anchor at found
  split at found
  · exact .inr (.inl (mem_of_mem_parts member found))
  · rcases List.mem_append.1 found with outer | inner
    · exact .inl outer
    rcases List.mem_cons.1 inner with rfl | inner
    · exact .inr (.inr (by simp))
    · exact .inr (.inl (mem_of_mem_parts member inner))

/-- Within a neat scope, a confined selector has no white space at its ends. -/
theorem strip_confine (neat : Text.Neat scope) (selector : List Char) :
    Text.strip (confine scope selector) = confine scope selector := by
  have anchored : ∀ piece ∈ (parts selector).map (anchor scope), Text.Neat piece := by
    intro piece listed
    obtain ⟨part, member, rfl⟩ := List.mem_map.1 listed
    unfold anchor
    split
    · exact neat_of_mem_parts member
    · simpa using neat.append (neat_of_mem_parts member) [' ']
  unfold confine
  cases shape : (parts selector).map (anchor scope) with
  | nil => rfl
  | cons first pieces => exact (Text.Neat.intercalate (shape ▸ anchored) _).strip_eq

end Selector

end PagePress
