import PagePress.Autolink

/-!
# The jumps of the scanner

Where the scanner stands is a position of the whole text, and what it still finds depends on that
position alone (`linksFrom`). From a position at which no address can begin it goes on to the next
one, from a link to the end of the link, and from a candidate without a link to the end of the run.
All three lead forward, and what is trimmed off a link has no candidate in it.
-/
namespace PagePress.Autolink

/-- The text up to the end of the run. -/
def stretch (cs : List Char) : List Char := cs.takeWhile fun c => !endsRun c

/-- Whether an address may begin at a position, by what stands before it. -/
def opens (cs : List Char) (i : Nat) : Bool := i == 0 || cs[i - 1]?.any isBoundary

/-- The scheme of the candidate at a position, if there is one. -/
def scheme? (cs : List Char) (i : Nat) : Option Scheme :=
  if opens cs i then Scheme.atStart? (cs.drop i) else none

/-- The links that the scanner finds from a position on. -/
def linksFrom (cs : List Char) (i : Nat) : List Autolink := scan i (opens cs i) 0 (cs.drop i)

theorem find_eq_linksFrom (text : String) : find text = linksFrom text.toList 0 := rfl

variable {cs : List Char} {i : Nat}

/-! ### Stretches -/

theorem stretch_getElem? {k : Nat} (inside : k < (stretch (cs.drop i)).length) :
    cs[i + k]? = (stretch (cs.drop i))[k]? := by
  rw [← List.getElem?_drop, List.getElem?_eq_getElem inside]
  exact List.getElem?_eq_some_iff.2
    ⟨_, ((List.takeWhile_prefix fun c => !endsRun c).getElem inside).symm⟩

theorem stretch_plain {k : Nat} (inside : k < (stretch (cs.drop i)).length) :
    ∃ c, cs[i + k]? = some c ∧ endsRun c = false := by
  have all := List.all_eq_true.1 (List.all_takeWhile (p := fun c => !endsRun c) (l := cs.drop i))
  refine ⟨(stretch (cs.drop i))[k], ?_, by simpa using all _ (List.getElem_mem inside)⟩
  rw [stretch_getElem? inside, List.getElem?_eq_getElem inside]

theorem stretch_next (rest : List Char) :
    rest[(stretch rest).length]? = (rest.dropWhile fun c => !endsRun c).head? := by
  have whole : stretch rest ++ rest.dropWhile (fun c => !endsRun c) = rest :=
    List.takeWhile_append_dropWhile
  calc rest[(stretch rest).length]?
      = (stretch rest ++ rest.dropWhile fun c => !endsRun c)[(stretch rest).length]? := by rw [whole]
    _ = (rest.dropWhile fun c => !endsRun c).head? := by
      rw [List.getElem?_append_right (Nat.le_refl _), Nat.sub_self, List.head?_eq_getElem?]

theorem stretch_ends {c : Char} (next : cs[i + (stretch (cs.drop i)).length]? = some c) :
    endsRun c = true := by
  have ended := List.head?_dropWhile_not (fun c => !endsRun c) (cs.drop i)
  rw [← List.getElem?_drop, stretch_next] at next
  simpa [next] using ended

theorem stretch_filled {c : Char} (here : cs[i]? = some c) (plain : endsRun c = false) :
    0 < (stretch (cs.drop i)).length := by
  rcases Nat.eq_zero_or_pos (stretch (cs.drop i)).length with empty | filled
  · have ended : endsRun c = true := @stretch_ends cs i c (by rw [empty]; exact here)
    rw [plain] at ended
    cases ended
  · exact filled

theorem stretch_length_le (bound : i ≤ cs.length) :
    i + (stretch (cs.drop i)).length ≤ cs.length := by
  have shorter : (stretch (cs.drop i)).length ≤ (cs.drop i).length :=
    (List.takeWhile_prefix _).length_le
  rw [List.length_drop] at shorter
  omega

/-! ### Steps -/

theorem opens_succ (inside : i < cs.length) : opens cs (i + 1) = isBoundary cs[i] := by
  simp [opens, inside]

theorem linksFrom_length : linksFrom cs cs.length = [] := by
  rw [linksFrom, List.drop_length]
  rfl

theorem scan_skip (k : Nat) (bound : i + k ≤ cs.length) :
    scan i (opens cs i) k (cs.drop i) = linksFrom cs (i + k) := by
  induction k generalizing i with
  | zero => rfl
  | succ k ih =>
    have inside : i < cs.length := by omega
    rw [List.drop_eq_getElem_cons inside, scan, ← opens_succ inside, ih (by omega)]
    congr 1
    omega

theorem Scheme.text_letter (s : Scheme) : s.text.head? = some 'h' ∨ s.text.head? = some 'w' := by
  cases s with
  | www => exact .inr rfl
  | _ => exact .inl rfl

/-- No scheme begins with another letter. -/
theorem scheme?_letter {s : Scheme} (h : scheme? cs i = some s) :
    cs[i]? = some 'h' ∨ cs[i]? = some 'w' := by
  unfold scheme? at h
  split at h
  · obtain ⟨rest, whole⟩ := Scheme.prefix_of_atStart? h
    rw [← List.head?_drop, ← whole, List.head?_append]
    refine s.text_letter.imp ?_ ?_ <;>
    · intro letter
      rw [letter]
      rfl
  · cases h

theorem scheme?_plain {s : Scheme} (h : scheme? cs i = some s) :
    ∃ c, cs[i]? = some c ∧ endsRun c = false := by
  rcases scheme?_letter h with letter | letter
  · exact ⟨'h', letter, by decide⟩
  · exact ⟨'w', letter, by decide⟩

theorem linksFrom_of_none (inside : i < cs.length) (none : scheme? cs i = none) :
    linksFrom cs i = linksFrom cs (i + 1) := by
  unfold scheme? at none
  rw [List.drop_eq_getElem_cons inside] at none
  rw [linksFrom, List.drop_eq_getElem_cons inside, scan]
  simp only [none]
  rw [← opens_succ inside]
  rfl

/-- Without a candidate the scanner goes on. -/
theorem linksFrom_of_none_before {j : Nat} (order : i ≤ j) (bound : j ≤ cs.length)
    (none : ∀ k, i ≤ k → k < j → scheme? cs k = none) : linksFrom cs i = linksFrom cs j := by
  induction order with
  | refl => rfl
  | step order ih =>
    rw [ih (by omega) fun k after before => none k after (Nat.lt_succ_of_lt before)]
    exact linksFrom_of_none (by omega) (none _ order (Nat.lt_succ_self _))

theorem trimEnd_spec (opened closed : Nat) (cs : List Char) :
    ∃ tail, cs = tail ++ trimEnd opened closed cs ∧ ∀ c ∈ tail, isTrailing c = true ∨ c = ')' := by
  fun_induction trimEnd opened closed cs with
  | case1 => exact ⟨[], rfl, by simp⟩
  | case2 closed c rest trailing ih =>
    obtain ⟨tail, whole, trimmed⟩ := ih
    refine ⟨c :: tail, by rw [List.cons_append, ← whole], ?_⟩
    simpa [trailing] using trimmed
  | case3 closed c rest kept surplus ih =>
    obtain ⟨tail, whole, trimmed⟩ := ih
    refine ⟨c :: tail, by rw [List.cons_append, ← whole], ?_⟩
    have paren : c = ')' := by simp_all
    simpa [paren] using trimmed
  | case4 => exact ⟨[], rfl, by simp⟩

/-- What is trimmed off a run is punctuation. -/
theorem trim_spec (run : List Char) :
    ∃ tail, run = trim run ++ tail ∧ ∀ c ∈ tail, isTrailing c = true ∨ c = ')' := by
  obtain ⟨tail, whole, trimmed⟩ := trimEnd_spec (run.count '(') (run.count ')') run.reverse
  refine ⟨tail.reverse, ?_, by simpa using trimmed⟩
  rw [trim, ← List.reverse_append, ← whole, List.reverse_reverse]

theorem trim_length_le (run : List Char) : (trim run).length ≤ run.length := by
  obtain ⟨tail, whole, -⟩ := trim_spec run
  have length := congrArg List.length whole
  rw [List.length_append] at length
  omega

/-- An address is what is left of its run, and not empty. -/
theorem url?_eq_some {s : Scheme} {run url : List Char} (h : url? s run = some url) :
    url = trim run ∧ 0 < url.length := by
  unfold url? at h
  dsimp only at h
  split at h
  next valid =>
    obtain rfl := Option.some.inj h
    refine ⟨rfl, List.length_pos_iff.2 fun empty => ?_⟩
    simp [empty, host, isHost] at valid
  next => cases h

theorem url?_length_le {s : Scheme} {run url : List Char} (h : url? s run = some url) :
    url.length ≤ run.length := by
  rw [(url?_eq_some h).1]
  exact trim_length_le run

/-- A candidate leads to the end of its link, or of its run if it has none. -/
theorem linksFrom_of_some {s : Scheme} (candidate : scheme? cs i = some s) :
    linksFrom cs i =
      match url? s (stretch (cs.drop i)) with
      | some url => ⟨i, i + url.length, s.href url⟩ :: linksFrom cs (i + url.length)
      | none => linksFrom cs (i + (stretch (cs.drop i)).length) := by
  obtain ⟨c, here, plain⟩ := scheme?_plain candidate
  have inside := (List.getElem?_eq_some_iff.1 here).1
  have filled := stretch_filled here plain
  have bound := stretch_length_le (Nat.le_of_lt inside)
  have jump : ∀ k, 0 < k → i + k ≤ cs.length →
      scan (i + 1) (opens cs (i + 1)) (k - 1) (cs.drop (i + 1)) = linksFrom cs (i + k) := by
    intro k positive fits
    rw [scan_skip (k - 1) (by omega)]
    congr 1
    omega
  have shape := List.drop_eq_getElem_cons inside
  have found : (if opens cs i then Scheme.atStart? (cs[i] :: cs.drop (i + 1)) else none) = some s := by
    rw [← shape]
    exact candidate
  rw [linksFrom]
  conv => lhs; rw [shape, scan]
  simp only [found]
  rw [← shape, ← opens_succ inside]
  show (match url? s (stretch (cs.drop i)) with
    | some url => _
    | none => _) = _
  cases accepted : url? s (stretch (cs.drop i)) with
  | none => exact jump _ filled bound
  | some url =>
    have shorter := url?_length_le accepted
    simp only [jump _ (url?_eq_some accepted).2 (by omega)]

/-- What is trimmed off a link has no candidate in it. -/
theorem scheme?_trimmed {s : Scheme} {url : List Char}
    (accepted : url? s (stretch (cs.drop i)) = some url) {k : Nat} (after : i + url.length ≤ k)
    (before : k < i + (stretch (cs.drop i)).length) : scheme? cs k = none := by
  obtain ⟨tail, whole, trimmed⟩ := trim_spec (stretch (cs.drop i))
  rw [← (url?_eq_some accepted).1] at whole
  obtain ⟨j, rfl⟩ := Nat.exists_eq_add_of_le after
  have here : cs[i + url.length + j]? = tail[j]? := by
    rw [Nat.add_assoc, stretch_getElem? (by omega)]
    rw [whole, List.getElem?_append_right (Nat.le_add_right _ _), Nat.add_sub_cancel_left]
  refine Option.eq_none_iff_forall_ne_some.2 fun s candidate => ?_
  have letter := scheme?_letter candidate
  rw [here] at letter
  have other : ∀ c, c = 'h' ∨ c = 'w' → ¬ (isTrailing c = true ∨ c = ')') := by
    rintro c (rfl | rfl) <;> decide
  rcases letter with letter | letter
  · exact other 'h' (.inl rfl) (trimmed _ (List.mem_of_getElem? letter))
  · exact other 'w' (.inr rfl) (trimmed _ (List.mem_of_getElem? letter))

end PagePress.Autolink
