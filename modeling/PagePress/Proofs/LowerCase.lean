import Mathlib.Data.List.Chain
import PagePress.Text.Alphanumeric
import PagePress.Text.LowerCase

/-!
# Letters in lower case

A search by halving finds every code point of a set whose ranges ascend. The lower case of a letter
or digit is a letter or digit, and lower-casing leaves it alone. One capital is an exception: the I
with a dot above becomes two characters, and the second, the dot, is no letter.
-/
namespace PagePress.Text

namespace CodeSet

/-- One range ends before another begins. -/
def Before (a b : Nat × Nat) : Prop := a.1 ≤ a.2 ∧ a.2 < b.1 ∧ b.1 ≤ b.2

instance : DecidableRel Before := fun _ _ => inferInstanceAs (Decidable (_ ∧ _ ∧ _))

instance : Trans Before Before Before where
  trans first second := ⟨first.1, by
    obtain ⟨-, early, proper⟩ := first
    obtain ⟨-, late, -⟩ := second
    omega, second.2.2⟩

/-- The ranges of a set ascend. -/
def Ascending (set : CodeSet) : Prop := set.ranges.toList.IsChain Before

instance (set : CodeSet) : Decidable set.Ascending :=
  inferInstanceAs (Decidable (List.IsChain _ _))

/-- Some range holds all code points from one to another. -/
def spans (set : CodeSet) (first last : Nat) : Bool :=
  set.ranges.toList.any fun range => last.ble range.2 && range.1.ble first

/-- A search comes to the range that holds the code point, if it lies between its two ends. -/
theorem search_of_held {ranges : Array (Nat × Nat)} (ascending : ranges.toList.Pairwise Before)
    {n i : Nat} (inside : i < ranges.size) (above : ranges[i].1 ≤ n) (below : n ≤ ranges[i].2)
    {fuel low high : Nat} (after : low ≤ i) (before : i < high) (bound : high ≤ ranges.size)
    (enough : high - low ≤ fuel) : search ranges n fuel low high = true := by
  have apart : ∀ j k, (hj : j < ranges.size) → (hk : k < ranges.size) → j < k →
      Before ranges[j] ranges[k] :=
    fun j k hj hk less => List.pairwise_iff_getElem.1 ascending j k hj hk less
  induction fuel generalizing low high with
  | zero => omega
  | succ fuel ih =>
    have middle : (low + high) / 2 < ranges.size := by omega
    rw [search, if_pos (by omega)]
    simp only [Array.getElem?_eq_getElem middle]
    rcases Nat.lt_trichotomy i ((low + high) / 2) with left | here | right
    · obtain ⟨-, less, -⟩ := apart _ _ inside middle left
      rw [if_pos (by omega)]
      exact ih after left (by omega) (by omega)
    · subst here
      rw [if_neg (by omega), if_neg (by omega)]
    · obtain ⟨proper, less, -⟩ := apart _ _ middle inside right
      rw [if_neg (by omega), if_pos (by omega)]
      exact ih right before bound (by omega)

theorem contains_of_spans {set : CodeSet} (ascending : set.Ascending) {c : Char} {first last : Nat}
    (spanned : set.spans first last = true) (above : first ≤ c.toNat) (below : c.toNat ≤ last) :
    set.contains c = true := by
  obtain ⟨range, member, both⟩ := List.any_eq_true.1 spanned
  simp only [Bool.and_eq_true, Nat.ble_eq] at both
  obtain ⟨i, inside, rfl⟩ := List.getElem_of_mem member
  rw [Array.getElem_toList] at both
  have inside : i < set.ranges.size := by simpa using inside
  exact search_of_held (List.isChain_iff_pairwise.1 ascending) inside (by omega) (by omega)
    (Nat.zero_le i) inside (Nat.le_refl _) (by omega)

end CodeSet

theorem toNat_ofNat {n : Nat} (valid : n.isValidChar) : (Char.ofNat n).toNat = n := by
  rw [Char.ofNat, dif_pos valid]
  rfl

namespace CaseRun

/-- A bound for the targets of a run. -/
def stop (run : CaseRun) : Nat := run.target + (run.last - run.first)

/-- The code points that the code points of a run are mapped to. -/
def targets (run : CaseRun) : List Nat :=
  List.range' run.target ((run.last - run.first) / run.step + 1) run.step

/-- No target of a run is a code point of the other. They lie apart, or they take turns. -/
def apart (run other : CaseRun) : Bool :=
  run.stop.blt other.first || other.last.blt run.target ||
    (run.first.beq run.last || run.step.beq 2) && other.step.beq 2 &&
      ((run.target + other.first) % 2).beq 1

variable {run other : CaseRun} {n : Nat}

theorem target_le (covered : run.covers n = true) :
    run.target ≤ run.target + (n - run.first) ∧ run.target + (n - run.first) ≤ run.stop := by
  simp only [covers, Bool.and_eq_true, decide_eq_true_eq] at covered
  unfold stop
  omega

theorem mem_targets (covered : run.covers n = true) :
    run.target + (n - run.first) ∈ run.targets := by
  simp only [covers, Bool.and_eq_true, decide_eq_true_eq, beq_iff_eq] at covered
  obtain ⟨⟨first, last⟩, whole⟩ := covered
  refine List.mem_range'.2 ⟨(n - run.first) / run.step, ?_, ?_⟩
  · exact Nat.lt_succ_of_le (Nat.div_le_div_right (by omega))
  · rw [Nat.mul_div_cancel' (Nat.dvd_of_mod_eq_zero whole)]

theorem not_covers_of_apart (apart : run.apart other = true) (covered : run.covers n = true) :
    other.covers (run.target + (n - run.first)) = false := by
  obtain ⟨-, bound⟩ := target_le covered
  rw [Bool.eq_false_iff]
  intro again
  simp only [covers, Bool.and_eq_true, decide_eq_true_eq, beq_iff_eq] at covered again
  obtain ⟨⟨first, last⟩, whole⟩ := covered
  obtain ⟨⟨first', last'⟩, whole'⟩ := again
  simp only [CaseRun.apart, Bool.or_eq_true, Bool.and_eq_true, Nat.blt_eq, Nat.beq_eq] at apart
  rcases apart with (early | late) | ⟨⟨turns, turns'⟩, odd⟩
  · omega
  · omega
  · rw [turns'] at whole'
    rcases turns with single | turns
    · omega
    · rw [turns] at whole
      omega

end CaseRun

/-- What a mapping makes of single characters are code points of a set, and the mapping leaves them
alone. -/
structure CaseMap.Settles (map : CaseMap) (set : CodeSet) : Prop where
  valid : ∀ run ∈ map.runs, run.stop < 0xD800
    ∨ 0xDFFF < run.target ∧ run.stop < 0x110000
  inSet : ∀ run ∈ map.runs, set.spans run.target run.stop = true
    ∨ ∀ n ∈ run.targets, set.spans n n = true
  apart : ∀ run ∈ map.runs, (map.runs.all run.apart) = true
  single : ∀ run ∈ map.runs, ∀ entry ∈ map.expansions, entry.1 < run.target ∨ run.stop < entry.1

namespace CaseMap

variable {map : CaseMap} {set : CodeSet} {c : Char}

/-- A character that becomes a single one becomes itself or the target of a run. -/
theorem Settles.apply_single (settles : map.Settles set) (ascending : set.Ascending)
    (plain : ∀ entry ∈ map.expansions, entry.1 ≠ c.toNat) (member : set.contains c = true) :
    ∃ d, map.apply c = [d] ∧ set.contains d = true ∧ map.apply d = [d] := by
  have unexpanded : ∀ n, (∀ entry ∈ map.expansions, entry.1 ≠ n) → map.expansions.lookup n = none :=
    fun n other => List.lookup_eq_none_iff.2 fun entry listed => by
      simpa using (other entry listed).symm
  cases found : map.runs.find? (·.covers c.toNat) with
  | none =>
    have same : map.apply c = [c] := by simp only [apply, found, unexpanded _ plain]
    exact ⟨c, same, member, same⟩
  | some run =>
    have listed := List.mem_of_find?_eq_some found
    have covered : run.covers c.toNat = true := by simpa using List.find?_some found
    obtain ⟨above, below⟩ := CaseRun.target_le covered
    have code : (run.apply c.toNat).toNat = run.target + (c.toNat - run.first) := by
      refine toNat_ofNat ?_
      rcases settles.valid run listed with low | high
      · exact .inl (by omega)
      · exact .inr (by omega)
    refine ⟨run.apply c.toNat, by simp only [apply, found], ?_, ?_⟩
    · rcases settles.inSet run listed with whole | each
      · exact CodeSet.contains_of_spans ascending whole (by omega) (by omega)
      · exact CodeSet.contains_of_spans ascending (each _ (CaseRun.mem_targets covered))
          (by omega) (by omega)
    · have uncovered : map.runs.find? (·.covers (run.apply c.toNat).toNat) = none := by
        refine List.find?_eq_none.2 fun other listed' => ?_
        have apart := List.all_eq_true.1 (settles.apart run listed) other listed'
        rw [code, CaseRun.not_covers_of_apart apart covered]
        exact Bool.false_ne_true
      have plain : ∀ entry ∈ map.expansions, entry.1 ≠ (run.apply c.toNat).toNat := by
        intro entry listed'
        have outside := settles.single run listed entry listed'
        omega
      simp only [apply, uncovered, unexpanded _ plain]

end CaseMap

theorem alphanumericSet_ascending : alphanumericSet.Ascending := by decide +kernel

theorem lowerCaseMap_settles : lowerCaseMap.Settles alphanumericSet where
  valid := by decide +kernel
  inSet := by decide +kernel
  apart := by decide +kernel
  single := by decide +kernel

/-- The lower case of a letter or digit is a letter or digit in lower case, except for the capital I
with a dot above. -/
theorem lowerCase_letter {c : Char} (letter : isAlphanumeric c = true) (undotted : c ≠ '\u0130') :
    ∃ d, lowerCase c = [d] ∧ isAlphanumeric d = true ∧ lowerCase d = [d] := by
  refine lowerCaseMap_settles.apply_single alphanumericSet_ascending ?_ letter
  intro entry listed same
  rw [List.mem_singleton.1 listed] at same
  exact undotted (by rw [← Char.ofNat_toNat c, ← same])

theorem lowerCase_dottedCapital : lowerCase '\u0130' = ['i', '\u0307'] := by decide +kernel

theorem not_isAlphanumeric_dot : isAlphanumeric '\u0307' = false := by decide +kernel

theorem not_isAlphanumeric_hyphen : isAlphanumeric '-' = false := by decide +kernel

end PagePress.Text
