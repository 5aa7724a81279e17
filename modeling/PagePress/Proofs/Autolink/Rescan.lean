import PagePress.Proofs.Autolink.Scan

/-!
# Scanning a piece of a text again

A text is cut at its links. In a piece between two cuts the scanner sees the same candidates as in
the whole text, with two exceptions: the beginning of the piece counts as a place where an address
may begin, and a run that a link stands in ends before the link. Neither brings up a new link,
because no address begins right behind a link (`Found.stopped`), and a run has no candidate before
its link (`Found.quiet`).
-/
namespace PagePress.Autolink

theorem Scheme.text_plain (s : Scheme) : ∀ c ∈ s.text, (!endsRun c) = true := by
  have all : s.text.all (!endsRun ·) = true := by cases s <;> rfl
  exact List.all_eq_true.1 all

variable {cs : List Char} {i n : Nat} {s : Scheme}

theorem scheme?_eq_some_iff : scheme? cs i = some s ↔ opens cs i = true ∧ s.text <+: cs.drop i := by
  rw [scheme?, ← Scheme.atStart?_eq_some_iff]
  split
  next may => simp [may]
  next not => simp [not]

/-- An address begins within its run. -/
theorem text_length_le_stretch (candidate : scheme? cs i = some s) :
    s.text.length ≤ (stretch (cs.drop i)).length := by
  obtain ⟨rest, whole⟩ := (scheme?_eq_some_iff.1 candidate).2
  rw [← whole, stretch, List.takeWhile_append_of_pos s.text_plain, List.length_append]
  exact Nat.le_add_right _ _

/-! ### A text that is cut off -/

theorem opens_take (before : i ≤ n) : opens (cs.take n) i = opens cs i := by
  rcases Nat.eq_zero_or_pos i with rfl | positive
  · rfl
  · rw [opens, opens, List.getElem?_take_of_lt (by omega)]

theorem scheme?_take (before : i ≤ n) :
    scheme? (cs.take n) i = some s ↔ scheme? cs i = some s ∧ i + s.text.length ≤ n := by
  rw [scheme?_eq_some_iff, scheme?_eq_some_iff, opens_take before, List.drop_take,
    List.prefix_take_iff, and_assoc]
  refine and_congr_right fun _ => and_congr_right fun _ => ?_
  omega

theorem stretch_take (room : i + (stretch (cs.drop i)).length ≤ n) :
    stretch ((cs.take n).drop i) = stretch (cs.drop i) := by
  rw [List.drop_take, stretch, ← List.take_takeWhile]
  exact List.take_of_length_le (by rw [stretch] at room; omega)

/-- Where there is no candidate, cutting a text off makes none. -/
theorem scheme?_take_eq_none (before : i ≤ n) (absent : scheme? cs i = none) :
    scheme? (cs.take n) i = none := by
  refine Option.eq_none_iff_forall_ne_some.2 fun s candidate => ?_
  rw [((scheme?_take before).1 candidate).1] at absent
  cases absent

/-- A candidate and its run stay as they are if the text is cut off behind the run. -/
theorem linksFrom_take_of_refused (candidate : scheme? cs i = some s)
    (refused : url? s (stretch (cs.drop i)) = none)
    (room : i + (stretch (cs.drop i)).length ≤ n) :
    linksFrom (cs.take n) i = linksFrom (cs.take n) (i + (stretch (cs.drop i)).length) := by
  have fits := text_length_le_stretch candidate
  have kept : scheme? (cs.take n) i = some s :=
    (scheme?_take (by omega)).2 ⟨candidate, by omega⟩
  rw [linksFrom_of_some kept, stretch_take room, refused]

/-! ### The next link -/

/-- The first link that the scanner comes to from a position. -/
structure Found (cs : List Char) (i : Nat) (link : Autolink) : Prop where
  after : i ≤ link.start
  filled : link.start < link.stop
  bound : link.stop ≤ cs.length
  /-- Without the link and all that follows, nothing is found. -/
  quiet : linksFrom (cs.take link.start) i = []
  /-- No address begins right behind the link. -/
  stopped : Scheme.atStart? (cs.drop link.stop) = none

theorem atStart?_eq_none_of_letter {rest : List Char}
    (other : ∀ c, rest.head? = some c → c ≠ 'h' ∧ c ≠ 'w') : Scheme.atStart? rest = none := by
  refine Option.eq_none_iff_forall_ne_some.2 fun s begins => ?_
  obtain ⟨tail, rfl⟩ := Scheme.prefix_of_atStart? begins
  rw [List.head?_append] at other
  rcases s.text_letter with letter | letter
  · exact (other 'h' (by rw [letter]; rfl)).1 rfl
  · exact (other 'w' (by rw [letter]; rfl)).2 rfl

/-- What follows an address is the end of its run or punctuation. -/
theorem atStart?_behind {url : List Char} (accepted : url? s (stretch (cs.drop i)) = some url) :
    Scheme.atStart? (cs.drop (i + url.length)) = none := by
  refine atStart?_eq_none_of_letter fun c next => ?_
  rw [List.head?_drop] at next
  obtain ⟨tail, whole, trimmed⟩ := trim_spec (stretch (cs.drop i))
  rw [← (url?_eq_some accepted).1] at whole
  have length := congrArg List.length whole
  rw [List.length_append] at length
  cases tail with
  | nil =>
    have behind : i + url.length = i + (stretch (cs.drop i)).length := by simp [length]
    have ends := stretch_ends (behind ▸ next)
    constructor <;> rintro rfl <;> cases ends
  | cons d tail =>
    have inside : url.length < (stretch (cs.drop i)).length := by
      rw [length, List.length_cons]
      omega
    rw [stretch_getElem? inside, whole, List.getElem?_append_right (Nat.le_refl _),
      Nat.sub_self] at next
    obtain rfl : d = c := Option.some.inj next
    have punctuation := trimmed d List.mem_cons_self
    constructor <;> rintro rfl <;> exact absurd punctuation (by decide)

theorem Found.of_step {j : Nat} {link : Autolink} (found : Found cs j link) (order : i ≤ j)
    (step : linksFrom (cs.take link.start) i = linksFrom (cs.take link.start) j) :
    Found cs i link where
  after := Nat.le_trans order found.after
  filled := found.filled
  bound := found.bound
  quiet := step.trans found.quiet
  stopped := found.stopped

/-- From a position on, the scanner finds nothing, or a first link and then what there is to find
behind it. -/
theorem linksFrom_next (bound : i ≤ cs.length) :
    linksFrom cs i = [] ∨
      ∃ link, Found cs i link ∧ linksFrom cs i = link :: linksFrom cs link.stop := by
  induction left : cs.length - i using Nat.strongRecOn generalizing i with
  | ind n ih =>
    subst left
    rcases Nat.eq_or_lt_of_le bound with rfl | inside
    · exact .inl linksFrom_length
    cases candidate : scheme? cs i with
    | none =>
      rw [linksFrom_of_none inside candidate]
      refine (ih _ (by omega) inside rfl).imp_right ?_
      rintro ⟨link, found, rest⟩
      have before := found.after
      refine ⟨link, found.of_step (Nat.le_succ i) ?_, rest⟩
      refine linksFrom_of_none ?_ (scheme?_take_eq_none (by omega) candidate)
      rw [List.length_take]
      omega
    | some s =>
      obtain ⟨c, here, plain⟩ := scheme?_plain candidate
      have filled := stretch_filled here plain
      have fits := stretch_length_le bound
      rw [linksFrom_of_some candidate]
      cases accepted : url? s (stretch (cs.drop i)) with
      | none =>
        refine (ih _ (by omega) fits rfl).imp_right ?_
        rintro ⟨link, found, rest⟩
        exact ⟨link, found.of_step (Nat.le_add_right _ _)
          (linksFrom_take_of_refused candidate accepted found.after), rest⟩
      | some url =>
        have shorter := url?_length_le accepted
        refine .inr ⟨⟨i, i + url.length, s.href url⟩, ?_, rfl⟩
        constructor
        · exact Nat.le_refl i
        · exact Nat.lt_add_of_pos_right (url?_eq_some accepted).2
        · show i + url.length ≤ cs.length
          omega
        · have cut : (cs.take i).length = i := by rw [List.length_take, Nat.min_eq_left bound]
          show linksFrom (cs.take i) i = []
          conv => lhs; arg 2; rw [← cut]
          exact linksFrom_length
        · exact atStart?_behind accepted

/-- Going through the links from a position on, each time from the end of the one before. -/
theorem linksFrom_induction {motive : Nat → List Autolink → Prop}
    (done : ∀ i ≤ cs.length, linksFrom cs i = [] → motive i [])
    (next : ∀ i ≤ cs.length, ∀ link, Found cs i link →
      motive link.stop (linksFrom cs link.stop) → motive i (link :: linksFrom cs link.stop))
    (bound : i ≤ cs.length) : motive i (linksFrom cs i) := by
  generalize all : linksFrom cs i = links
  induction links generalizing i with
  | nil => exact done i bound all
  | cons link rest ih =>
    rcases linksFrom_next bound with none | ⟨first, found, step⟩
    · rw [none] at all
      cases all
    rw [step] at all
    obtain ⟨rfl, behind⟩ := List.cons.inj all
    rw [← behind]
    exact next i bound first found (behind.symm ▸ ih found.bound behind)

/-! ### A piece as a text of its own -/

/-- Whether there is anything to find does not hang on the numbers of the positions. -/
theorem scan_eq_nil_of_position {p q : Nat} {boundary : Bool} {skip : Nat} {rest : List Char}
    (nothing : scan p boundary skip rest = []) : scan q boundary skip rest = [] := by
  induction rest generalizing p q boundary skip with
  | nil => rfl
  | cons c rest ih =>
    cases skip with
    | succ skip =>
      rw [scan] at nothing ⊢
      exact ih nothing
    | zero =>
      rw [scan] at nothing ⊢
      cases candidate : (if boundary then Scheme.atStart? (c :: rest) else none) with
      | none =>
        simp only [candidate] at nothing ⊢
        exact ih nothing
      | some s =>
        simp only [candidate] at nothing ⊢
        cases accepted : url? s ((c :: rest).takeWhile fun d => !endsRun d) with
        | none =>
          simp only [accepted] at nothing ⊢
          exact ih nothing
        | some url =>
          simp only [accepted] at nothing
          cases nothing

/-- Where no address begins, it does not matter whether one may. -/
theorem scan_of_atStart?_none {p : Nat} {rest : List Char} (elsewhere : Scheme.atStart? rest = none)
    (boundary : Bool) : scan p boundary 0 rest = scan p true 0 rest := by
  cases rest with
  | nil => rfl
  | cons c rest => cases boundary <;> simp [scan, elsewhere]

/-- Where a piece may begin: at the beginning of the text, or where no address begins. -/
def Settled (cs : List Char) (i : Nat) : Prop := i = 0 ∨ Scheme.atStart? (cs.drop i) = none

/-- A piece without links has none as a text of its own. -/
theorem find_piece (settled : Settled cs i) (nothing : linksFrom (cs.take n) i = []) :
    find (String.ofList ((cs.take n).drop i)) = [] := by
  rw [find, String.toList_ofList]
  rcases settled with rfl | elsewhere
  · exact nothing
  · have shorter : Scheme.atStart? ((cs.take n).drop i) = none := by
      refine Option.eq_none_iff_forall_ne_some.2 fun s begins => ?_
      have whole : s.text <+: cs.drop i := by
        rw [List.drop_take] at begins
        exact (List.prefix_take_iff.1 (Scheme.prefix_of_atStart? begins)).1
      rw [Scheme.atStart?_eq_some_iff.2 whole] at elsewhere
      cases elsewhere
    rw [linksFrom, scan_of_atStart?_none shorter] at nothing
    exact scan_eq_nil_of_position nothing

end PagePress.Autolink
