import PagePress.Proofs.Partial
import PagePress.Slug

/-!
# Identifiers differ

The choices for an identifier differ from each other, so the identifiers given out so far cannot
take up more of them than they are. One choice more than that is enough to come to a free one,
wherever the search begins. All choices before the counter of a base have been given out, so that a
search from there finds what a search from the base itself would.
-/
namespace PagePress

theorem Slug.candidate_injective (base : String) {i j : Nat}
    (same : Slug.candidate base i = Slug.candidate base j) : i = j := by
  have numbered : ∀ n : Nat, base ≠ base ++ "-" ++ toString n := by
    intro n equal
    have length := congrArg String.length equal
    rw [String.length_append, String.length_append, show "-".length = 1 from rfl] at length
    omega
  unfold Slug.candidate at same
  split at same <;> split at same
  next first second => rw [first, second]
  next first second => exact absurd same (numbered j)
  next first second => exact absurd same.symm (numbered i)
  next first second =>
    have digits := congrArg (fun cs => Nat.ofDigitChars 10 (String.toList cs) 0)
      ((String.append_right_inj _).1 same)
    simpa [Nat.toString_eq_ofList_toDigits] using digits

namespace Slugger

/-- How far a search goes: over choices that have been given out, to one that has not or to the end
of its fuel. -/
theorem search_spec (s : Slugger) (base : String) (fuel n : Nat) :
    n ≤ s.search base fuel n ∧ s.search base fuel n ≤ n + fuel ∧
      (∀ k, n ≤ k → k < s.search base fuel n → Slug.candidate base k ∈ s.assigned) ∧
      (s.search base fuel n < n + fuel →
        Slug.candidate base (s.search base fuel n) ∉ s.assigned) := by
  induction fuel generalizing n with
  | zero =>
    refine ⟨Nat.le_refl n, Nat.le_refl n, fun k after before => ?_,
      fun less => absurd less (Nat.lt_irrefl n)⟩
    exact absurd (Nat.lt_of_le_of_lt after before) (Nat.lt_irrefl n)
  | succ fuel ih =>
    rw [search]
    split
    next taken =>
      obtain ⟨after, bound, passed, free⟩ := ih (n + 1)
      refine ⟨by omega, by omega, ?_, fun less => free (by omega)⟩
      intro k later before
      rcases Nat.eq_or_lt_of_le later with rfl | later
      · exact List.contains_iff_mem.1 taken
      · exact passed k later before
    next free =>
      refine ⟨Nat.le_refl n, by omega, fun k after before => by omega, fun _ member => ?_⟩
      exact free (List.contains_iff_mem.2 member)

/-- Choices with numbers in a row that have all been given out are no more than the identifiers. -/
theorem passed_le {s : Slugger} {base : String} {n m : Nat}
    (passed : ∀ k, n ≤ k → k < m → Slug.candidate base k ∈ s.assigned) :
    m - n ≤ s.assigned.length := by
  have distinct : ((List.range' n (m - n)).map (Slug.candidate base)).Nodup :=
    List.pairwise_map.2 ((List.nodup_range' 1).imp fun different same =>
      different (Slug.candidate_injective base same))
  have taken : (List.range' n (m - n)).map (Slug.candidate base) ⊆ s.assigned := by
    intro id choice
    obtain ⟨k, inside, rfl⟩ := List.mem_map.1 choice
    obtain ⟨after, before⟩ := List.mem_range'_1.1 inside
    exact passed k after (by omega)
  have length := distinct.length_le_of_subset taken
  rwa [List.length_map, List.length_range'] at length

/-- A search with as much fuel as there are identifiers comes to a free choice. -/
theorem search_free (s : Slugger) (base : String) (n : Nat) :
    Slug.candidate base (s.search base s.assigned.length n) ∉ s.assigned := by
  obtain ⟨-, bound, passed, free⟩ := s.search_spec base s.assigned.length n
  rcases Nat.lt_or_eq_of_le bound with less | last
  · exact free less
  intro member
  rw [last] at member passed
  -- All choices up to this one are given out, and they are more than there are identifiers.
  have taken : ∀ k, n ≤ k → k < n + s.assigned.length + 1 → Slug.candidate base k ∈ s.assigned := by
    intro k after before
    rcases Nat.lt_or_eq_of_le (Nat.le_of_lt_succ before) with less | rfl
    · exact passed k after less
    · exact member
  have few := passed_le taken
  omega

theorem next_fresh (s : Slugger) (text : String) : (s.next text).1 ∉ s.assigned :=
  s.search_free _ _

theorem next_assigned (s : Slugger) (text : String) :
    (s.next text).2.assigned = (s.next text).1 :: s.assigned := rfl

theorem go_fresh (s : Slugger) (texts : List String) :
    (∀ id ∈ all.go s texts, id ∉ s.assigned) ∧ (all.go s texts).Nodup := by
  induction texts generalizing s with
  | nil => exact ⟨fun id member => absurd member List.not_mem_nil, List.nodup_nil⟩
  | cons text rest ih =>
    obtain ⟨later, distinct⟩ := ih (s.next text).2
    rw [next_assigned] at later
    rw [all.go]
    constructor
    · intro id member
      rcases List.mem_cons.1 member with rfl | member
      · exact s.next_fresh text
      · exact fun given => later id member (List.mem_cons_of_mem _ given)
    · exact List.nodup_cons.2 ⟨fun member => later _ member List.mem_cons_self, distinct⟩

/-- The identifiers of a document differ from each other. -/
theorem all_nodup (texts : List String) : (all texts).Nodup := (go_fresh {} texts).2

/-! ### The counters save steps only -/

/-- For each base, every choice before the one to try next has been given out. -/
def Counted (s : Slugger) : Prop :=
  ∀ base, ∀ n < s.counter base, Slug.candidate base n ∈ s.assigned

theorem counter_next (s : Slugger) (text base : String) :
    (s.next text).2.counter base =
      if base = Slug.ofText text then
        s.search base s.assigned.length (s.counter base) + 1
      else s.counter base := by
  unfold next counter
  split
  next same => rw [same, List.lookup_cons_self, Option.getD_some]
  next other =>
    have kept := lookup_filter_keys (· != Slug.ofText text) base s.counters
    rw [if_pos (by simpa using other)] at kept
    rw [List.lookup_cons, beq_false_of_ne other, ← kept]

theorem Counted.next {s : Slugger} (counted : s.Counted) (text : String) :
    (s.next text).2.Counted := by
  intro base n before
  rw [counter_next] at before
  rw [next_assigned]
  split at before
  next same =>
    obtain ⟨-, -, passed, -⟩ := s.search_spec base s.assigned.length (s.counter base)
    rcases Nat.lt_or_eq_of_le (Nat.le_of_lt_succ before) with earlier | rfl
    · by_cases known : n < s.counter base
      · exact List.mem_cons_of_mem _ (counted base n known)
      · exact List.mem_cons_of_mem _ (passed n (Nat.le_of_not_lt known) earlier)
    · subst same
      exact List.mem_cons_self
  next => exact List.mem_cons_of_mem _ (counted base n before)

/-- An identifier is the first choice for its text that has not been given out. -/
theorem Counted.next_least {s : Slugger} (counted : s.Counted) (text : String) :
    ∃ n, (s.next text).1 = Slug.candidate (Slug.ofText text) n ∧
      Slug.candidate (Slug.ofText text) n ∉ s.assigned ∧
      ∀ m < n, Slug.candidate (Slug.ofText text) m ∈ s.assigned := by
  let base := Slug.ofText text
  obtain ⟨-, -, passed, -⟩ := s.search_spec base s.assigned.length (s.counter base)
  refine ⟨_, rfl, s.next_fresh text, fun m before => ?_⟩
  by_cases known : m < s.counter base
  · exact counted base m known
  · exact passed m (Nat.le_of_not_lt known) before

/-- Sluggers that have given out the same identifiers go on with the same one, whatever their
counters. -/
theorem Counted.next_eq {s other : Slugger} (counted : s.Counted) (counted' : other.Counted)
    (same : ∀ id, id ∈ other.assigned ↔ id ∈ s.assigned) (text : String) :
    (other.next text).1 = (s.next text).1 := by
  obtain ⟨n, chosen, free, passed⟩ := counted.next_least text
  obtain ⟨n', chosen', free', passed'⟩ := counted'.next_least text
  have equal : n' = n := by
    rcases Nat.lt_trichotomy n' n with less | equal | more
    · exact absurd ((same _).2 (passed n' less)) free'
    · exact equal
    · exact absurd ((same _).1 (passed' n more)) free
  rw [chosen, chosen', equal]

/-- The slugger after several texts. -/
def after (s : Slugger) (texts : List String) : Slugger :=
  texts.foldl (fun s text => (s.next text).2) s

theorem Counted.after {s : Slugger} (counted : s.Counted) (texts : List String) :
    (s.after texts).Counted := by
  induction texts generalizing s with
  | nil => exact counted
  | cons text rest ih => exact ih (counted.next text)

theorem assigned_after (s : Slugger) (texts : List String) :
    (s.after texts).assigned = (all.go s texts).reverse ++ s.assigned := by
  induction texts generalizing s with
  | nil => rfl
  | cons text rest ih =>
    rw [all.go, List.reverse_cons, List.append_assoc]
    exact ih (s.next text).2

theorem go_length (s : Slugger) (texts : List String) :
    (all.go s texts).length = texts.length := by
  induction texts generalizing s with
  | nil => rfl
  | cons text rest ih => rw [all.go, List.length_cons, List.length_cons, ih]

theorem take_go (s : Slugger) (texts : List String) (k : Nat) :
    (all.go s texts).take k = all.go s (texts.take k) := by
  induction texts generalizing s k with
  | nil => rw [List.take_nil, all.go, List.take_nil]
  | cons text rest ih =>
    cases k with
    | zero => rfl
    | succ k => rw [all.go, List.take_succ_cons, List.take_succ_cons, all.go, ih]

theorem go_getElem? (s : Slugger) (texts : List String) (k : Nat) :
    (all.go s texts)[k]? = texts[k]?.map fun text => ((s.after (texts.take k)).next text).1 := by
  induction texts generalizing s k with
  | nil => rfl
  | cons text rest ih =>
    cases k with
    | zero => rfl
    | succ k => exact ih (s.next text).2 k

/-- Each identifier of a document is the one of its text if that has not been given out, and
otherwise that with the least number from one on with which it has not. It is the one that a search
without counters comes to, and so differs from all before it. -/
theorem all_least_free (texts : List String) :
    (all texts).length = texts.length ∧ (all texts).Nodup ∧
    ∀ k text, texts[k]? = some text →
      let base := Slug.ofText text
      let given := (all texts).take k
      ∃ id, (all texts)[k]? = some id ∧ id ∉ given ∧
        (base ∉ given → id = base) ∧
        (base ∈ given → ∃ n, 1 ≤ n ∧ id = base ++ "-" ++ toString n ∧
          ∀ m, 1 ≤ m → m < n → base ++ "-" ++ toString m ∈ given) ∧
        id = (({ assigned := given } : Slugger).next text).1 := by
  refine ⟨go_length {} texts, all_nodup texts, ?_⟩
  intro k text listed base given
  have start (assigned : List String) : ({ assigned } : Slugger).Counted :=
    fun base n before => absurd before (Nat.not_lt_zero n)
  have counted := (start []).after (texts.take k)
  have known : ∀ id, id ∈ ((({} : Slugger).after (texts.take k)).assigned) ↔ id ∈ given := by
    intro id
    rw [assigned_after, ← take_go, List.append_nil, List.mem_reverse]
    rfl
  have found : (all texts)[k]? = some ((({} : Slugger).after (texts.take k)).next text).1 := by
    rw [all, go_getElem?, listed, Option.map_some]
  obtain ⟨n, chosen, free, passed⟩ := counted.next_least text
  rw [known] at free
  have alone := counted.next_eq (start given) (fun id => (known id).symm) text
  rw [chosen] at found alone
  refine ⟨_, found, free, fun unused => ?_, fun used => ?_, alone.symm⟩
  · -- A search that went past the base would have found it given out.
    rcases Nat.eq_zero_or_pos n with rfl | later
    · exact if_pos rfl
    · exact absurd ((known _).1 (passed 0 later)) unused
  · have later : n ≠ 0 := by
      rintro rfl
      exact free used
    refine ⟨n, by omega, if_neg later, fun m first before => ?_⟩
    have taken := (known _).1 (passed m before)
    rwa [Slug.candidate, if_neg (by omega)] at taken

end Slugger

end PagePress
