import Mathlib.Data.List.Infix
import Mathlib.Order.Bounds.Basic
import PagePress.Math.Conversion

/-!
# The guard before the converter

The depth of a formula is counted from its beginning, and closing braces that close nothing count
for nothing. What comes out is the greatest number of braces that any piece of the formula leaves
open, wherever the piece begins. So the converter, which reads groups recursively, is given just the
formulas in which no piece leaves more than 64 braces open.
-/
namespace PagePress.Math

/-- The braces that a piece of a formula opens less those that it closes. -/
def leftOpen (piece : List Char) : Int := piece.count '\x7b' - piece.count '\x7d'

variable {cs piece : List Char}

@[simp] theorem leftOpen_nil : leftOpen [] = 0 := rfl

theorem leftOpen_cons (c : Char) (cs : List Char) :
    leftOpen (c :: cs) = leftOpen [c] + leftOpen cs := by
  unfold leftOpen
  simp only [List.count_cons, List.count_nil]
  omega

/-- A character changes the number of open braces by those that it leaves open, but not to less than
none. -/
theorem braceDepthAfter_eq (depth : Nat) (c : Char) :
    (braceDepthAfter depth c : Int) = max 0 (depth + leftOpen [c]) := by
  unfold braceDepthAfter leftOpen
  by_cases opening : c = '\x7b'
  · subst opening
    simp
    omega
  by_cases closing : c = '\x7d'
  · subst closing
    simp
    omega
  · simp [opening, closing]

theorem le_groupDepthFrom (depth : Nat) (cs : List Char) : depth ≤ groupDepthFrom depth cs := by
  cases cs with
  | nil => exact Nat.le_refl depth
  | cons c rest => exact Nat.le_max_left _ _

/-- What is open at the beginning counts for the pieces at the beginning. -/
theorem leftOpen_le_of_prefix (depth : Nat) (h : piece <+: cs) :
    depth + leftOpen piece ≤ groupDepthFrom depth cs := by
  induction cs generalizing depth piece with
  | nil =>
    obtain rfl := List.prefix_nil.1 h
    simp [groupDepthFrom]
  | cons c rest ih =>
    cases piece with
    | nil =>
      have start := le_groupDepthFrom depth (c :: rest)
      simp only [leftOpen_nil]
      omega
    | cons d piece =>
      obtain ⟨rfl, behind⟩ := List.cons_prefix_cons.1 h
      have later := ih (braceDepthAfter depth d) behind
      rw [leftOpen_cons d piece, groupDepthFrom]
      rw [braceDepthAfter_eq] at later
      omega

theorem leftOpen_le_of_infix (depth : Nat) (h : piece <:+: cs) :
    leftOpen piece ≤ groupDepthFrom depth cs := by
  induction cs generalizing depth with
  | nil =>
    obtain rfl := List.infix_nil.1 h
    simp [groupDepthFrom]
  | cons c rest ih =>
    rcases List.infix_cons_iff.1 h with start | inside
    · have bound := leftOpen_le_of_prefix depth start
      omega
    · have later := ih (braceDepthAfter depth c) inside
      rw [groupDepthFrom]
      omega

/-- The depth is reached by a piece, one that takes along what is open at the beginning or one that
begins where nothing is open. -/
theorem groupDepthFrom_reached (depth : Nat) (cs : List Char) :
    (∃ piece, piece <+: cs ∧ (groupDepthFrom depth cs : Int) = depth + leftOpen piece) ∨
      ∃ piece, piece <:+: cs ∧ (groupDepthFrom depth cs : Int) = leftOpen piece := by
  induction cs generalizing depth with
  | nil => exact .inl ⟨[], List.nil_prefix, by simp [groupDepthFrom]⟩
  | cons c rest ih =>
    rw [groupDepthFrom]
    rcases Nat.le_total (groupDepthFrom (braceDepthAfter depth c) rest) depth with less | more
    · rw [Nat.max_eq_left less]
      exact .inl ⟨[], List.nil_prefix, by simp⟩
    rw [Nat.max_eq_right more]
    rcases ih (braceDepthAfter depth c) with ⟨piece, start, reached⟩ | ⟨piece, inside, reached⟩
    · rw [braceDepthAfter_eq] at reached
      rcases Int.le_total 0 (depth + leftOpen [c]) with some | none
      · refine .inl ⟨c :: piece, List.cons_prefix_cons.2 ⟨rfl, start⟩, ?_⟩
        rw [reached, leftOpen_cons c piece]
        omega
      · -- A closing brace too many: the count begins again behind it.
        refine .inr ⟨piece, List.infix_cons start.isInfix, ?_⟩
        omega
    · exact .inr ⟨piece, List.infix_cons inside, reached⟩

theorem groupDepth_isGreatest (source : String) :
    IsGreatest (leftOpen '' {piece | piece <:+: source.toList}) (groupDepth source) := by
  unfold groupDepth
  constructor
  · rcases groupDepthFrom_reached 0 source.toList with ⟨piece, start, reached⟩ | reached
    · exact ⟨piece, start.isInfix, by simpa using reached.symm⟩
    · obtain ⟨piece, inside, reached⟩ := reached
      exact ⟨piece, inside, reached.symm⟩
  · rintro _ ⟨piece, inside, rfl⟩
    exact leftOpen_le_of_infix 0 inside

theorem groupDepth_le_iff (source : String) (limit : Nat) :
    groupDepth source ≤ limit ↔ ∀ piece, piece <:+: source.toList → leftOpen piece ≤ limit := by
  have greatest := groupDepth_isGreatest source
  constructor
  · intro shallow piece inside
    have bound : leftOpen piece ≤ groupDepth source := greatest.2 ⟨piece, inside, rfl⟩
    omega
  · intro shallow
    obtain ⟨piece, inside, reached⟩ := greatest.1
    have bound := shallow piece inside
    omega

/-! ### When the converter is called -/

/-- What the formula becomes hangs on what the converter answers to it. -/
def Called (source : String) (display : Display) : Prop :=
  ∃ converter other : Converter,
    (∀ s d, (s, d) ≠ (source, display) → converter s d = other s d) ∧
    renderWith converter source display ≠ renderWith other source display

theorem renderWith_deep {source : String} (deep : maxGroupDepth < groupDepth source)
    (converter : Converter) (display : Display) :
    renderWith converter source display = .ok (.text (literal source display)) := by
  simp only [renderWith, convertWith, if_pos deep]

theorem called_iff (source : String) (display : Display) :
    Called source display ↔ groupDepth source ≤ maxGroupDepth := by
  constructor
  · rintro ⟨converter, other, -, differ⟩
    by_contra more
    have deep := Nat.lt_of_not_le more
    rw [renderWith_deep deep, renderWith_deep deep] at differ
    exact differ rfl
  · intro shallow
    -- A converter that stops the program, and one that only refuses this formula.
    refine ⟨fun _ _ => .error .badMiddle, fun s d =>
      if (s, d) = (source, display) then .error (.unknownEnvironment "") else .error .badMiddle,
      fun s d another => (if_neg another).symm, ?_⟩
    simp [renderWith, convertWith, Nat.not_lt.2 shallow]

/-- The depth of a formula is the greatest number of braces that a piece of it leaves open, whatever
closing braces stand before the piece. The converter is called for a formula exactly if no piece of
it leaves more than 64 open; otherwise the formula stays as it was written, between its dollar signs,
whatever the converter is. -/
theorem brace_guard_exact (source : String) :
    IsGreatest (leftOpen '' {piece | piece <:+: source.toList}) (groupDepth source) ∧
    (∀ display, Called source display ↔ ∀ piece, piece <:+: source.toList → leftOpen piece ≤ 64) ∧
    (¬ Called source .inline →
      (∀ converter, renderWith converter source .inline = .ok (.text ("$" ++ source ++ "$"))) ∧
      render source .inline = .ok (.text ("$" ++ source ++ "$"))) ∧
    (¬ Called source .block →
      (∀ converter, renderWith converter source .block = .ok (.text ("$$" ++ source ++ "$$"))) ∧
      render source .block = .ok (.text ("$$" ++ source ++ "$$"))) := by
  have deep : ∀ display, ¬ Called source display → maxGroupDepth < groupDepth source := by
    intro display uncalled
    rw [called_iff] at uncalled
    exact Nat.lt_of_not_le uncalled
  refine ⟨groupDepth_isGreatest source, fun display => ?_, fun uncalled => ?_, fun uncalled => ?_⟩
  · rw [called_iff]
    exact groupDepth_le_iff source maxGroupDepth
  · have kept := fun converter => renderWith_deep (deep .inline uncalled) converter .inline
    rw [literal_inline] at kept
    exact ⟨kept, kept mathml⟩
  · have kept := fun converter => renderWith_deep (deep .block uncalled) converter .block
    rw [literal_block] at kept
    exact ⟨kept, kept mathml⟩

/-- Closing braces that close nothing do not make up for opening braces behind them. -/
example : groupDepth "\x7d\x7d\x7b\x7b\x7d" = 2 := by decide

end PagePress.Math
