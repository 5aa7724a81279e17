import PagePress.Proofs.Autolink.Scan

/-!
# Links, run by run

A run is a longest stretch of text without white space and opening angle brackets (`Run.Maximal`). Its
first candidate decides about it: the run has the link that starts there, or none. The scanner finds
just these links, in the order of the runs.
-/
namespace PagePress.Autolink

/-- A stretch of a text, as the positions of its first character and of the one after it. -/
structure Run where
  start : Nat
  stop : Nat
  deriving DecidableEq, Repr

/-- A longest stretch without characters that end it. -/
structure Run.Maximal (cs : List Char) (run : Run) : Prop where
  filled : run.start < run.stop
  plain : ∀ i, run.start ≤ i → i < run.stop → ∃ c, cs[i]? = some c ∧ endsRun c = false
  left : run.start = 0 ∨ ∃ c, cs[run.start - 1]? = some c ∧ endsRun c = true
  right : ∀ c, cs[run.stop]? = some c → endsRun c = true

/-- Whether a run starts at a position. -/
def startsRun (cs : List Char) (i : Nat) : Bool :=
  cs[i]?.any (!endsRun ·) && (i == 0 || cs[i - 1]?.any endsRun)

/-- The run that starts at a position. -/
def runAt (cs : List Char) (i : Nat) : Run := ⟨i, i + (stretch (cs.drop i)).length⟩

/-- The runs of a text, in order. -/
def runs (cs : List Char) : List Run :=
  ((List.range cs.length).filter (startsRun cs)).map (runAt cs)

/-- The first candidate of a run. -/
def Run.candidate? (cs : List Char) (run : Run) : Option Nat :=
  (List.range' run.start (run.stop - run.start)).find? fun i => (scheme? cs i).isSome

/-- The link of a run, if its first candidate is one. -/
def Run.link? (cs : List Char) (run : Run) : Option Autolink := do
  let i ← run.candidate? cs
  let s ← scheme? cs i
  let url ← url? s ((cs.drop i).take (run.stop - i))
  return ⟨i, i + url.length, s.href url⟩

variable {cs : List Char} {i : Nat} {run : Run}

namespace Run.Maximal

theorem stop_le (whole : run.Maximal cs) : run.stop ≤ cs.length := by
  obtain ⟨c, last, -⟩ := whole.plain (run.stop - 1) (by have := whole.filled; omega)
    (by have := whole.filled; omega)
  have inside := (List.getElem?_eq_some_iff.1 last).1
  omega

/-- From every position in it, a run goes on to its end. -/
theorem stretch_eq (whole : run.Maximal cs) (after : run.start ≤ i) (before : i ≤ run.stop) :
    stretch (cs.drop i) = (cs.drop i).take (run.stop - i) := by
  have split : cs.drop i = (cs.drop i).take (run.stop - i) ++ cs.drop run.stop := by
    have rest : (cs.drop i).drop (run.stop - i) = cs.drop run.stop := by
      rw [List.drop_drop, Nat.add_sub_cancel' before]
    rw [← rest, List.take_append_drop]
  have plain : ∀ c ∈ (cs.drop i).take (run.stop - i), (!endsRun c) = true := by
    intro c member
    obtain ⟨k, bound, rfl⟩ := List.mem_iff_getElem.1 member
    rw [List.length_take] at bound
    obtain ⟨c, there, plain⟩ := whole.plain (i + k) (by omega) (by omega)
    rw [← List.getElem?_drop] at there
    rw [List.getElem_take, (List.getElem?_eq_some_iff.1 there).2, plain]
    rfl
  have ended : (cs.drop run.stop).takeWhile (fun c => !endsRun c) = [] := by
    cases rest : cs.drop run.stop with
    | nil => rfl
    | cons c rest' =>
      have first : cs[run.stop]? = some c := by rw [← List.head?_drop, rest]; rfl
      simp [whole.right c first]
  conv => lhs; rw [split]
  rw [stretch, List.takeWhile_append_of_pos plain, ended, List.append_nil]

end Run.Maximal

theorem startsRun_iff : startsRun cs i = true ↔
    (∃ c, cs[i]? = some c ∧ endsRun c = false) ∧
      (i = 0 ∨ ∃ c, cs[i - 1]? = some c ∧ endsRun c = true) := by
  simp [startsRun, Option.any_eq_true]

theorem runAt_maximal (starts : startsRun cs i = true) : (runAt cs i).Maximal cs := by
  obtain ⟨⟨c, here, plain⟩, left⟩ := startsRun_iff.1 starts
  refine ⟨Nat.lt_add_of_pos_right (stretch_filled here plain), ?_, left, fun c => stretch_ends⟩
  intro j after before
  obtain ⟨k, rfl⟩ := Nat.exists_eq_add_of_le after
  exact stretch_plain (Nat.lt_of_add_lt_add_left before)

theorem runAt_of_maximal (whole : run.Maximal cs) : runAt cs run.start = run := by
  have bound := whole.stop_le
  have filled := whole.filled
  rw [runAt, whole.stretch_eq (Nat.le_refl _) (Nat.le_of_lt filled), List.length_take,
    List.length_drop, Nat.min_eq_left (by omega), Nat.add_sub_cancel' (Nat.le_of_lt filled)]

theorem mem_runs_iff : run ∈ runs cs ↔ run.Maximal cs := by
  constructor
  · intro member
    obtain ⟨i, starts, rfl⟩ := List.mem_map.1 member
    exact runAt_maximal (List.mem_filter.1 starts).2
  · intro whole
    have bound := whole.stop_le
    have filled := whole.filled
    have starts : startsRun cs run.start = true :=
      startsRun_iff.2 ⟨whole.plain _ (Nat.le_refl _) filled, whole.left⟩
    exact List.mem_map.2 ⟨run.start,
      List.mem_filter.2 ⟨List.mem_range.2 (by omega), starts⟩, runAt_of_maximal whole⟩

theorem Run.Maximal.of_candidate? (whole : run.Maximal cs) (first : run.candidate? cs = some i) :
    run.start ≤ i ∧ i < run.stop ∧ (∃ s, scheme? cs i = some s) ∧
      (∀ k, run.start ≤ k → k < i → scheme? cs k = none) ∧
      stretch (cs.drop i) = (cs.drop i).take (run.stop - i) ∧
      (stretch (cs.drop i)).length = run.stop - i := by
  obtain ⟨found, member, earlier⟩ := List.find?_range'_eq_some.1 first
  obtain ⟨after, before⟩ := List.mem_range'_1.1 member
  have bound := whole.stop_le
  have rest := whole.stretch_eq (i := i) after (by omega)
  refine ⟨after, by omega, Option.isSome_iff_exists.1 found, ?_, rest, ?_⟩
  · intro k later sooner
    simpa using earlier k later sooner
  · rw [rest, List.length_take, List.length_drop]
    omega

/-- What the scanner does between the start and the end of a run. -/
theorem linksFrom_run (whole : run.Maximal cs) :
    linksFrom cs run.start = (run.link? cs).toList ++ linksFrom cs run.stop := by
  have bound := whole.stop_le
  have filled := whole.filled
  cases first : run.candidate? cs with
  | none =>
    have unlinked : run.link? cs = none := by simp [Run.link?, first]
    rw [unlinked]
    refine linksFrom_of_none_before (Nat.le_of_lt filled) bound fun k after before => ?_
    simpa using List.find?_range'_eq_none.1 first k after (by omega)
  | some i =>
    obtain ⟨after, before, ⟨s, candidate⟩, earlier, rest, length⟩ := whole.of_candidate? first
    have stop : i + (stretch (cs.drop i)).length = run.stop := by omega
    rw [linksFrom_of_none_before after (by omega) earlier, linksFrom_of_some candidate]
    cases accepted : url? s (stretch (cs.drop i)) with
    | none =>
      have unlinked : run.link? cs = none := by
        simp [Run.link?, first, candidate, ← rest, accepted]
      simp only [unlinked, stop]
      rfl
    | some url =>
      have linked : run.link? cs = some ⟨i, i + url.length, s.href url⟩ := by
        simp [Run.link?, first, candidate, ← rest, accepted]
      have shorter := url?_length_le accepted
      have tail : linksFrom cs (i + url.length) = linksFrom cs run.stop := by
        refine linksFrom_of_none_before (by omega) bound fun k later sooner => ?_
        exact scheme?_trimmed accepted later (by omega)
      simp only [linked, tail]
      rfl

/-- A run starts at none of its later positions. -/
theorem filter_startsRun (whole : run.Maximal cs) :
    (List.range' run.start (run.stop - run.start)).filter (startsRun cs) = [run.start] := by
  have filled := whole.filled
  have starts : startsRun cs run.start = true :=
    startsRun_iff.2 ⟨whole.plain _ (Nat.le_refl _) filled, whole.left⟩
  have inner : (List.range' (run.start + 1) (run.stop - run.start - 1)).filter (startsRun cs) = [] := by
    refine List.filter_eq_nil_iff.2 fun j member again => ?_
    obtain ⟨after, before⟩ := List.mem_range'_1.1 member
    obtain ⟨c, there, plain⟩ := whole.plain (j - 1) (by omega) (by omega)
    rcases (startsRun_iff.1 again).2 with zero | ⟨d, ended, ends⟩
    · omega
    · rw [there] at ended
      obtain rfl := Option.some.inj ended
      rw [plain] at ends
      cases ends
  have split : List.range' run.start (run.stop - run.start) =
      run.start :: List.range' (run.start + 1) (run.stop - run.start - 1) := by
    rw [← List.range'_succ]
    congr 1
    omega
  rw [split, List.filter_cons_of_pos starts, inner]

/-- The runs from a position on. -/
def runsFrom (cs : List Char) (i : Nat) : List Run :=
  ((List.range' i (cs.length - i)).filter (startsRun cs)).map (runAt cs)

theorem runs_eq_runsFrom (cs : List Char) : runs cs = runsFrom cs 0 := by
  rw [runs, runsFrom, List.range_eq_range', Nat.sub_zero]

theorem range'_split {i j : Nat} (order : i ≤ j) (bound : j ≤ cs.length) :
    List.range' i (cs.length - i) = List.range' i (j - i) ++ List.range' j (cs.length - j) := by
  have joined := List.range'_append_1 (s := i) (m := j - i) (n := cs.length - j)
  rw [Nat.add_sub_cancel' order] at joined
  rw [joined]
  congr 1
  omega

theorem runsFrom_of_starts (starts : startsRun cs i = true) :
    runsFrom cs i = runAt cs i :: runsFrom cs (runAt cs i).stop := by
  have whole := runAt_maximal starts
  have only : (List.range' i ((runAt cs i).stop - i)).filter (startsRun cs) = [i] :=
    filter_startsRun whole
  have filled : i < (runAt cs i).stop := whole.filled
  rw [runsFrom, range'_split (Nat.le_of_lt filled) whole.stop_le, List.filter_append, only]
  rfl

theorem runsFrom_of_not (inside : i < cs.length) (other : ¬ startsRun cs i = true) :
    runsFrom cs i = runsFrom cs (i + 1) := by
  have here : List.range' i (i + 1 - i) = [i] := by simp
  rw [runsFrom, range'_split (Nat.le_succ i) inside, here, List.filter_append,
    List.filter_cons_of_neg other]
  rfl

/-- Outside of runs, the scanner goes through the runs one by one. -/
theorem linksFrom_eq_runs (i : Nat) (bound : i ≤ cs.length)
    (edge : ∀ c, cs[i]? = some c → endsRun c = false → startsRun cs i = true) :
    linksFrom cs i = (runsFrom cs i).filterMap (Run.link? cs) := by
  induction left : cs.length - i using Nat.strongRecOn generalizing i with
  | ind n ih =>
    subst left
    rcases Nat.eq_or_lt_of_le bound with rfl | inside
    · rw [runsFrom, Nat.sub_self, linksFrom_length]
      rfl
    by_cases starts : startsRun cs i = true
    · have whole := runAt_maximal starts
      have filled : i < (runAt cs i).stop := whole.filled
      have stop := whole.stop_le
      have first : linksFrom cs i = _ := linksFrom_run whole
      have later := ih _ (by omega) (runAt cs i).stop stop (fun c next plain => by
        rw [whole.right c next] at plain
        cases plain) rfl
      rw [first, later, runsFrom_of_starts starts, List.filterMap_cons]
      cases (runAt cs i).link? cs <;> rfl
    · -- A position at which no run starts and that is not inside one ends a run.
      have ends : endsRun cs[i] = true := by
        refine Bool.not_eq_false _ ▸ fun plain => starts ?_
        exact edge _ (List.getElem?_eq_getElem inside) plain
      have none : scheme? cs i = none := by
        refine Option.eq_none_iff_forall_ne_some.2 fun s candidate => ?_
        obtain ⟨c, here, plain⟩ := scheme?_plain candidate
        rw [List.getElem?_eq_getElem inside, Option.some.injEq] at here
        rw [← here, ends] at plain
        cases plain
      have later := ih _ (by omega) (i + 1) inside (fun c next plain =>
        startsRun_iff.2 ⟨⟨c, next, plain⟩, .inr ⟨_, List.getElem?_eq_getElem inside, ends⟩⟩) rfl
      rw [linksFrom_of_none inside none, later, runsFrom_of_not inside starts]

/-- Runs do not touch each other. -/
theorem runs_pairwise (cs : List Char) :
    (runs cs).Pairwise fun first second => first.stop < second.start := by
  refine List.pairwise_map.2 ((List.pairwise_lt_range.filter _).imp_of_mem ?_)
  intro i j iMember jMember order
  have whole := runAt_maximal (List.mem_filter.1 iMember).2
  obtain ⟨⟨c, here, plain⟩, left⟩ := startsRun_iff.1 (List.mem_filter.1 jMember).2
  show (runAt cs i).stop < j
  refine Nat.lt_of_not_le fun inside => ?_
  rcases Nat.eq_or_lt_of_le inside with last | inner
  · rw [whole.right c (last ▸ here)] at plain
    cases plain
  · have inRun : i ≤ j - 1 := by omega
    obtain ⟨d, there, also⟩ := whole.plain (j - 1) inRun (by omega)
    rcases left with zero | ⟨e, before, ends⟩
    · omega
    · rw [there] at before
      obtain rfl := Option.some.inj before
      rw [also] at ends
      cases ends

/-- What is known of the link of a run. -/
structure Run.Holds (cs : List Char) (run : Run) (link : Autolink) : Prop where
  first : run.candidate? cs = some link.start
  after : run.start ≤ link.start
  filled : link.start < link.stop
  before : link.stop ≤ run.stop
  href : ∃ s, scheme? cs link.start = some s ∧
    link.href = s.href ((cs.drop link.start).take (link.stop - link.start))
  trimmed : ∀ i, link.stop ≤ i → i < run.stop → scheme? cs i = none

theorem Run.Maximal.holds (whole : run.Maximal cs) {link : Autolink}
    (linked : run.link? cs = some link) : run.Holds cs link := by
  simp only [Run.link?, Option.bind_eq_bind, Option.bind_eq_some_iff, Option.pure_def,
    Option.some.injEq] at linked
  obtain ⟨i, first, s, candidate, url, accepted, rfl⟩ := linked
  obtain ⟨after, before, -, -, rest, length⟩ := whole.of_candidate? first
  rw [← rest] at accepted
  have shorter := url?_length_le accepted
  have inside : url <+: cs.drop i := by
    obtain ⟨tail, split, -⟩ := trim_spec (stretch (cs.drop i))
    rw [← (url?_eq_some accepted).1] at split
    exact List.IsPrefix.trans ⟨tail, split.symm⟩ (List.takeWhile_prefix _)
  constructor
  · exact first
  · exact after
  · exact Nat.lt_add_of_pos_right (url?_eq_some accepted).2
  · show i + url.length ≤ run.stop
    omega
  · refine ⟨s, candidate, congrArg s.href ?_⟩
    show url = (cs.drop i).take (i + url.length - i)
    rw [Nat.add_sub_cancel_left]
    exact List.prefix_iff_eq_take.1 inside
  · intro k later sooner
    exact scheme?_trimmed accepted later (by omega)

/-- The links of a text are those of its runs, in order. Every run has at most the link that starts at
its first candidate, and no candidate is left in what is trimmed off it. -/
theorem find_eq_runs (text : String) :
    find text = (runs text.toList).filterMap (Run.link? text.toList) ∧
    (∀ run, run ∈ runs text.toList ↔ run.Maximal text.toList) ∧
    ((runs text.toList).Pairwise fun first second => first.stop < second.start) ∧
    (∀ run ∈ runs text.toList, ∀ link, run.link? text.toList = some link →
      run.Holds text.toList link) ∧
    (find text).Pairwise fun first second =>
      ∃ i c, first.stop ≤ i ∧ i < second.start ∧ text.toList[i]? = some c ∧ endsRun c = true := by
  have all : find text = (runs text.toList).filterMap (Run.link? text.toList) := by
    rw [find_eq_linksFrom, runs_eq_runsFrom]
    exact linksFrom_eq_runs 0 (Nat.zero_le _) fun c here plain =>
      startsRun_iff.2 ⟨⟨c, here, plain⟩, .inl rfl⟩
  refine ⟨all, fun run => mem_runs_iff, runs_pairwise _,
    fun run member link linked => (mem_runs_iff.1 member).holds linked, ?_⟩
  rw [all]
  refine List.pairwise_filterMap.2 ((runs_pairwise _).imp_of_mem ?_)
  intro first second firstMember secondMember order one oneLinked two twoLinked
  have whole := mem_runs_iff.1 firstMember
  have early := whole.holds oneLinked
  have late := (mem_runs_iff.1 secondMember).holds twoLinked
  have room : first.stop < text.toList.length := by
    have bound := (mem_runs_iff.1 secondMember).stop_le
    have filled := (mem_runs_iff.1 secondMember).filled
    omega
  have ended := List.getElem?_eq_getElem room
  exact ⟨first.stop, _, early.before, Nat.lt_of_lt_of_le order late.after, ended,
    whole.right _ ended⟩

example : find "www.( next www.example.com." = [⟨11, 26, "http://www.example.com"⟩] := by
  decide +kernel

end PagePress.Autolink
