import Mathlib.Algebra.Group.Nat.Defs
import Mathlib.Data.List.Basic
import PagePress.Proofs.Slugger

/-!
# The search for an identifier ends

A search goes on from choice to choice until one has not been given out, and nothing in it bounds
its steps (`Seek`). It ends all the same: the choices that it passes over differ from each other and
have all been given out, so they are no more than the identifiers. For the same reason no counter
comes to exceed the number of identifiers, and words of a fixed width hold the counters as long as
they can hold the number of headings (`WordSlugger`).
-/
namespace PagePress

namespace Slugger

/-- The loop of a search. Choices are tried from the number `n` on until one has not been given out;
`tries` of them are tried, and `last` is the number of the last. Numbers are of any kind in which
each has a next one. -/
inductive Seek {N : Type} (given : List String) (choice : N → String) (next : N → N) :
    N → Nat → N → Prop
  | free {n : N} (unused : choice n ∉ given) : Seek given choice next n 1 n
  | taken {n last : N} {tries : Nat} (used : choice n ∈ given)
      (later : Seek given choice next (next n) tries last) :
      Seek given choice next n (tries + 1) last

theorem Seek.unique {N : Type} {given : List String} {choice : N → String} {next : N → N}
    {n last last' : N} {tries tries' : Nat} (first : Seek given choice next n tries last)
    (second : Seek given choice next n tries' last') : tries' = tries ∧ last' = last := by
  induction first generalizing tries' last' with
  | free unused =>
    cases second with
    | free => exact ⟨rfl, rfl⟩
    | taken used => exact absurd used unused
  | taken used _ ih =>
    cases second with
    | free unused => exact absurd used unused
    | taken _ later =>
      obtain ⟨rfl, rfl⟩ := ih later
      exact ⟨rfl, rfl⟩

theorem Seek.le {given : List String} {choice : Nat → String} {n last tries : Nat}
    (seek : Seek given choice (· + 1) n tries last) : n ≤ last := by
  induction seek with
  | free => exact Nat.le_refl _
  | taken _ _ ih => omega

theorem seek_of_passed {given : List String} {choice : Nat → String} {n m : Nat} (after : n ≤ m)
    (passed : ∀ k, n ≤ k → k < m → choice k ∈ given) (free : choice m ∉ given) :
    Seek given choice (· + 1) n (m - n + 1) m := by
  obtain ⟨distance, rfl⟩ := Nat.exists_eq_add_of_le after
  rw [Nat.add_sub_cancel_left]
  induction distance generalizing n with
  | zero => exact .free free
  | succ distance ih =>
    have shift : n + (distance + 1) = n + 1 + distance := by omega
    rw [shift] at passed free ⊢
    refine .taken (passed n (Nat.le_refl n) (by omega)) (ih (by omega) ?_ free)
    exact fun k later before => passed k (by omega) before

/-- Words stand for the numbers of a search up to the last one that they can hold. -/
theorem Seek.words {given : List String} {choice : Nat → String} {n last tries : Nat} (w : Nat)
    (seek : Seek given choice (· + 1) n tries last) (small : last < 2 ^ w) :
    Seek given (fun number : BitVec w => choice number.toNat) (· + 1)
      (BitVec.ofNat w n) tries (BitVec.ofNat w last) := by
  have held {k : Nat} (within : k ≤ last) : (BitVec.ofNat w k).toNat = k := by
    rw [BitVec.toNat_ofNat, Nat.mod_eq_of_lt (by omega)]
  induction seek with
  | free unused =>
    apply Seek.free
    rwa [held (Nat.le_refl _)]
  | @taken n last tries used later ih =>
    have before := later.le
    apply Seek.taken
    · rwa [held (by omega)]
    · have step : BitVec.ofNat w n + 1 = BitVec.ofNat w (n + 1) := (BitVec.ofNat_add n 1).symm
      simp only [step]
      exact ih small held

/-- The number of the choice for a text. -/
def chosen (s : Slugger) (text : String) : Nat :=
  s.search (Slug.ofText text) s.assigned.length (s.counter (Slug.ofText text))

theorem next_eq (s : Slugger) (text : String) :
    let base := Slug.ofText text
    let id := Slug.candidate base (s.chosen text)
    s.next text = (id, ⟨id :: s.assigned,
      (base, s.chosen text + 1) :: s.counters.filter (·.1 != base)⟩) := rfl

theorem seek_chosen (s : Slugger) (text : String) :
    Seek s.assigned (Slug.candidate (Slug.ofText text)) (· + 1) (s.counter (Slug.ofText text))
      (s.chosen text - s.counter (Slug.ofText text) + 1) (s.chosen text) := by
  obtain ⟨after, -, passed, -⟩ :=
    s.search_spec (Slug.ofText text) s.assigned.length (s.counter (Slug.ofText text))
  exact seek_of_passed after passed (s.search_free _ _)

theorem chosen_sub_counter_le (s : Slugger) (text : String) :
    s.chosen text - s.counter (Slug.ofText text) ≤ s.assigned.length := by
  obtain ⟨-, -, passed, -⟩ :=
    s.search_spec (Slug.ofText text) s.assigned.length (s.counter (Slug.ofText text))
  exact passed_le passed

theorem Counted.chosen_le {s : Slugger} (counted : s.Counted) (text : String) :
    s.chosen text ≤ s.assigned.length := by
  obtain ⟨-, -, passed, -⟩ :=
    s.search_spec (Slug.ofText text) s.assigned.length (s.counter (Slug.ofText text))
  have given : ∀ k, 0 ≤ k → k < s.chosen text →
      Slug.candidate (Slug.ofText text) k ∈ s.assigned := by
    intro k _ before
    by_cases known : k < s.counter (Slug.ofText text)
    · exact counted _ k known
    · exact passed k (Nat.le_of_not_lt known) before
  exact passed_le given

/-- No counter is greater than the number of identifiers. -/
def Bounded (s : Slugger) : Prop := ∀ entry ∈ s.counters, entry.2 ≤ s.assigned.length

theorem Bounded.next {s : Slugger} (bounded : s.Bounded) (counted : s.Counted) (text : String) :
    (s.next text).2.Bounded := by
  have last := counted.chosen_le text
  intro entry stored
  rw [next_assigned, List.length_cons]
  rw [next_eq] at stored
  rcases List.mem_cons.1 stored with rfl | kept
  · exact Nat.succ_le_succ last
  · exact Nat.le_succ_of_le (bounded entry (List.mem_filter.1 kept).1)

theorem Bounded.after {s : Slugger} (bounded : s.Bounded) (counted : s.Counted)
    (texts : List String) : (s.after texts).Bounded := by
  induction texts generalizing s with
  | nil => exact bounded
  | cons text rest ih => exact ih (bounded.next counted text) (counted.next text)

theorem length_assigned_after (s : Slugger) (texts : List String) :
    (s.after texts).assigned.length = texts.length + s.assigned.length := by
  rw [assigned_after, List.length_append, List.length_reverse, go_length]

theorem counted_start : ({} : Slugger).Counted :=
  fun _ n before => absurd before (Nat.not_lt_zero n)

theorem bounded_start : ({} : Slugger).Bounded :=
  fun _ stored => absurd stored List.not_mem_nil

end Slugger

/-! ### Counters in words -/

/-- A slugger that counts in words of `w` bits, in which zero comes after the greatest number. -/
structure WordSlugger (w : Nat) where
  assigned : List String := []
  counters : List (String × BitVec w) := []

namespace WordSlugger

variable {w : Nat}

def counter (s : WordSlugger w) (base : String) : BitVec w := (s.counters.lookup base).getD 0

/-- A call for a text. The search from the counter on ends, its last choice is given out, and the
next search for the base begins with the number behind it. -/
inductive Gives (s : WordSlugger w) (text : String) : String → WordSlugger w → Prop
  | found {tries : Nat} {last : BitVec w}
      (ends : Slugger.Seek s.assigned (fun n => Slug.candidate (Slug.ofText text) n.toNat) (· + 1)
        (s.counter (Slug.ofText text)) tries last) :
      Gives s text (Slug.candidate (Slug.ofText text) last.toNat)
        ⟨Slug.candidate (Slug.ofText text) last.toNat :: s.assigned,
          (Slug.ofText text, last + 1) :: s.counters.filter (·.1 != Slug.ofText text)⟩

/-- Calls for several texts in turn, with what they give. -/
inductive GivesAll : WordSlugger w → List String → List String → WordSlugger w → Prop
  | nil {s : WordSlugger w} : GivesAll s [] [] s
  | cons {s between last : WordSlugger w} {text id : String} {texts ids : List String}
      (first : Gives s text id between) (later : GivesAll between texts ids last) :
      GivesAll s (text :: texts) (id :: ids) last

/-- The slugger with its counters read as numbers. -/
def read (s : WordSlugger w) : Slugger :=
  ⟨s.assigned, s.counters.map fun entry => (entry.1, entry.2.toNat)⟩

theorem read_injective : Function.Injective (@read w) := by
  intro s other same
  obtain ⟨identifiers, values⟩ := Slugger.mk.inj same
  have injective : Function.Injective
      fun entry : String × BitVec w => (entry.1, entry.2.toNat) := by
    intro entry entry' equal
    obtain ⟨base, value⟩ := Prod.mk.inj equal
    exact Prod.ext base (BitVec.eq_of_toNat_eq value)
  have counters := List.map_injective_iff.2 injective values
  obtain ⟨assigned, _⟩ := s
  cases identifiers
  cases counters
  rfl

theorem counter_read (s : WordSlugger w) (base : String) :
    s.read.counter base = (s.counter base).toNat := by
  unfold Slugger.counter counter read
  induction s.counters with
  | nil => rfl
  | cons entry rest ih =>
    rw [List.map_cons, List.lookup_cons, List.lookup_cons]
    cases base == entry.1 with
    | true => rfl
    | false => exact ih

theorem Gives.unique {s first second : WordSlugger w} {text id id' : String}
    (gives : Gives s text id first) (gives' : Gives s text id' second) :
    id' = id ∧ second = first := by
  obtain ⟨ends⟩ := gives
  obtain ⟨ends'⟩ := gives'
  obtain ⟨-, rfl⟩ := ends.unique ends'
  exact ⟨rfl, rfl⟩

theorem GivesAll.unique {s first second : WordSlugger w} {texts ids ids' : List String}
    (gives : GivesAll s texts ids first) (gives' : GivesAll s texts ids' second) :
    ids' = ids ∧ second = first := by
  induction gives generalizing second ids' with
  | nil =>
    cases gives'
    exact ⟨rfl, rfl⟩
  | cons call _ ih =>
    obtain _ | ⟨call', later'⟩ := gives'
    obtain ⟨rfl, rfl⟩ := call.unique call'
    obtain ⟨rfl, rfl⟩ := ih later'
    exact ⟨rfl, rfl⟩

/-- A call in words goes as one in numbers if words can hold the number behind the one chosen. -/
theorem gives_next (s : WordSlugger w) (text : String) (small : s.read.chosen text + 1 < 2 ^ w) :
    ∃ after, Gives s text (s.read.next text).1 after ∧ after.read = (s.read.next text).2 := by
  have held {k : Nat} (within : k < 2 ^ w) : (BitVec.ofNat w k).toNat = k := by
    rw [BitVec.toNat_ofNat, Nat.mod_eq_of_lt within]
  have ends := (s.read.seek_chosen text).words w (by omega)
  rw [counter_read, BitVec.ofNat_toNat, BitVec.setWidth_eq] at ends
  have gives := Gives.found ends
  rw [held (by omega)] at gives
  refine ⟨_, gives, ?_⟩
  have behind : (BitVec.ofNat w (s.read.chosen text) + 1).toNat = s.read.chosen text + 1 :=
    (congrArg BitVec.toNat (BitVec.ofNat_add _ 1)).symm.trans (held small)
  rw [read, List.map_cons, behind, Slugger.next_eq]
  simp [read, List.filter_map, Function.comp_def]

theorem givesAll_after (s : WordSlugger w) (texts : List String) (counted : s.read.Counted)
    (few : texts.length + s.assigned.length < 2 ^ w) :
    ∃ last, GivesAll s texts (Slugger.all.go s.read texts) last ∧
      last.read = s.read.after texts := by
  induction texts generalizing s with
  | nil => exact ⟨s, .nil, rfl⟩
  | cons text rest ih =>
    have chosen : s.read.chosen text ≤ s.assigned.length := counted.chosen_le text
    rw [List.length_cons] at few
    obtain ⟨between, first, same⟩ := gives_next s text (by omega)
    have length : between.assigned.length = s.assigned.length + 1 :=
      congrArg (·.assigned.length) same
    have counted' : between.read.Counted := same ▸ counted.next text
    obtain ⟨last, later, reached⟩ := ih between counted' (by omega)
    rw [same] at later reached
    exact ⟨last, .cons first later, reached⟩

end WordSlugger

namespace Slugger

/-- Every search ends. When `k` identifiers have been given out it tries `k + 1` choices at most,
comes to the one that is given out, and leaves no counter greater than the number of identifiers.
So in words of `w` bits, too, the calls for fewer than `2 ^ w` headings all end, and they give the
identifiers and leave the counters that calls with unbounded numbers do: no counter starts over. -/
theorem search_ends (texts : List String) (text : String) :
    let s := ({} : Slugger).after texts
    let base := Slug.ofText text
    let k := texts.length
    s.assigned.length = k ∧
    (∃ tries last,
      Seek s.assigned (Slug.candidate base) (· + 1) (s.counter base) tries last ∧ tries ≤ k + 1 ∧
      s.next text = (Slug.candidate base last, ⟨Slug.candidate base last :: s.assigned,
        (base, last + 1) :: s.counters.filter (·.1 != base)⟩)) ∧
    (∀ entry ∈ (s.next text).2.counters, entry.2 ≤ k + 1) ∧
    ∀ w, k + 1 < 2 ^ w → ∀ ids (last : WordSlugger w),
      WordSlugger.GivesAll {} (texts ++ [text]) ids last ↔
        ids = all (texts ++ [text]) ∧ last.read = (s.next text).2 := by
  intro s base k
  have length : s.assigned.length = k := length_assigned_after {} texts
  have counted : s.Counted := counted_start.after texts
  refine ⟨length, ⟨_, _, s.seek_chosen text, ?_, s.next_eq text⟩, fun entry stored => ?_,
    fun w few ids last => ?_⟩
  · have passed := s.chosen_sub_counter_le text
    omega
  · have bound := (bounded_start.after counted_start texts).next counted text entry stored
    rwa [next_assigned, List.length_cons, length] at bound
  · have reached : ({} : Slugger).after (texts ++ [text]) = (s.next text).2 := List.foldl_concat ..
    obtain ⟨finish, gives, same⟩ :=
      WordSlugger.givesAll_after ({} : WordSlugger w) (texts ++ [text]) counted_start
        (by simpa using few)
    have same : finish.read = (s.next text).2 := same.trans reached
    rw [← same]
    constructor
    · intro given
      obtain ⟨rfl, rfl⟩ := gives.unique given
      exact ⟨rfl, rfl⟩
    · rintro ⟨rfl, equal⟩
      rwa [WordSlugger.read_injective equal]

end Slugger

end PagePress
