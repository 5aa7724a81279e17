import PagePress.Proofs.Slugger
import PagePress.Proofs.Stages

/-!
# Closed headings

A heading is closed if the next heading that starts or ends after its start is one that ends
(`Closed`). The closed headings of a document, in order (`headings`), get the identifiers that their
texts are given one after the other, and nothing else is changed.
-/
namespace PagePress.HeadingIds

def startsHeading : Event → Bool
  | .start (.heading ..) => true
  | _ => false

def endsHeading : Event → Bool
  | .stop (.heading _) => true
  | _ => false

/-- The start or the end of a heading. -/
def isEdge (e : Event) : Bool := startsHeading e || endsHeading e

/-- The heading that starts at `i` ends at `j`, and no heading starts or ends between them. -/
structure Closed (events : List Event) (i j : Nat) : Prop where
  starts : ∃ e, events[i]? = some e ∧ startsHeading e = true
  ends : ∃ e, events[j]? = some e ∧ endsHeading e = true
  order : i < j
  between : ∀ k, i < k → k < j → ∀ e, events[k]? = some e → isEdge e = false

/-- Where the first heading that starts or ends in a document does so, if it ends. -/
def firstEnd? : List Event → Option Nat
  | [] => none
  | e :: rest =>
    if startsHeading e then none
    else if endsHeading e then some 0
    else (firstEnd? rest).map (· + 1)

/-- Where the heading that starts with `e` starts and ends, if it is closed in what follows. -/
def heading? (e : Event) (rest : List Event) : Option (Nat × Nat) :=
  if startsHeading e then (firstEnd? rest).map fun j => (0, j + 1) else none

/-- Where the closed headings of a document start and end, in order. -/
def headings : List Event → List (Nat × Nat)
  | [] => []
  | e :: rest =>
    (heading? e rest).toList ++ (headings rest).map fun place => (place.1 + 1, place.2 + 1)

/-- The text of the heading that stands between two places. -/
def textAt (events : List Event) (place : Nat × Nat) : String :=
  String.join (((events.take place.2).drop (place.1 + 1)).map textOf)

/-- The identifier of the heading that starts at a place. -/
def idAt (events : List Event) (i : Nat) : Option String :=
  match events[i]? with
  | some (.start (.heading _ id _)) => id
  | _ => none

/-- An event without its identifier, if it starts a heading. -/
def withoutId : Event → Event
  | .start (.heading level _ classes) => .start (.heading level none classes)
  | e => e

/-- An event with an identifier, if it starts a heading. -/
def setId (slug : String) : Event → Event
  | .start (.heading level _ classes) => .start (.heading level (some slug) classes)
  | e => e

variable {e : Event} {events rest block : List Event} {i j : Nat}

/-! ### Single events -/

theorem startsHeading_iff :
    startsHeading e = true ↔ ∃ level id classes, e = .start (.heading level id classes) := by
  constructor
  · intro starts
    unfold startsHeading at starts
    split at starts
    · exact ⟨_, _, _, rfl⟩
    · cases starts
  · rintro ⟨level, id, classes, rfl⟩
    rfl

theorem endsHeading_iff : endsHeading e = true ↔ ∃ level, e = .stop (.heading level) := by
  constructor
  · intro ends
    unfold endsHeading at ends
    split at ends
    · exact ⟨_, rfl⟩
    · cases ends
  · rintro ⟨level, rfl⟩
    rfl

theorem setId_other (slug : String) (other : startsHeading e = false) : setId slug e = e := by
  unfold setId
  split
  · cases other
  · rfl

@[simp] theorem startsHeading_setId (slug : String) (e : Event) :
    startsHeading (setId slug e) = startsHeading e := by
  unfold setId
  split <;> rfl

@[simp] theorem withoutId_setId (slug : String) (e : Event) :
    withoutId (setId slug e) = withoutId e := by
  unfold setId
  split <;> rfl

@[simp] theorem setId_setId (slug : String) (e : Event) :
    setId slug (setId slug e) = setId slug e := by
  cases starts : startsHeading e with
  | false => rw [setId_other slug starts, setId_other slug starts]
  | true =>
    obtain ⟨level, id, classes, rfl⟩ := startsHeading_iff.1 starts
    rfl

theorem idAt_setId (slug : String) (starts : startsHeading e = true) (rest : List Event) :
    idAt (setId slug e :: rest) 0 = some slug := by
  obtain ⟨level, id, classes, rfl⟩ := startsHeading_iff.1 starts
  rfl

theorem not_endsHeading (starts : startsHeading e = true) : endsHeading e = false := by
  obtain ⟨level, id, classes, rfl⟩ := startsHeading_iff.1 starts
  rfl

theorem not_startsHeading (ends : endsHeading e = true) : startsHeading e = false := by
  obtain ⟨level, rfl⟩ := endsHeading_iff.1 ends
  rfl

theorem isEdge_eq_false_iff :
    isEdge e = false ↔ startsHeading e = false ∧ endsHeading e = false := Bool.or_eq_false_iff

/-- An event starts a heading, ends one, or does neither. -/
theorem kinds (e : Event) :
    startsHeading e = true ∨ endsHeading e = true ∨ isEdge e = false := by
  cases starts : startsHeading e with
  | true => exact .inl rfl
  | false =>
    cases ends : endsHeading e with
    | true => exact .inr (.inl rfl)
    | false => exact .inr (.inr (isEdge_eq_false_iff.2 ⟨starts, ends⟩))

theorem isEdge_of_starts (starts : startsHeading e = true) : isEdge e = true := by
  rw [isEdge, starts, Bool.true_or]

theorem isEdge_of_ends (ends : endsHeading e = true) : isEdge e = true := by
  rw [isEdge, ends, Bool.or_true]

/-! ### The text ahead -/

theorem headingText?_starts (s : String) (starts : startsHeading e = true) :
    headingText? s (e :: rest) = none := by
  obtain ⟨level, id, classes, rfl⟩ := startsHeading_iff.1 starts
  rfl

theorem headingText?_ends (s : String) (ends : endsHeading e = true) :
    headingText? s (e :: rest) = some s := by
  obtain ⟨level, rfl⟩ := endsHeading_iff.1 ends
  rfl

theorem headingText?_other (s : String) (other : isEdge e = false) :
    headingText? s (e :: rest) = headingText? (s ++ textOf e) rest := by
  rw [headingText?]
  · rintro level id classes rfl
    cases other
  · rintro level rfl
    cases other

/-- What has no edges only adds its text. -/
theorem headingText?_append (s : String) (plain : ∀ e ∈ block, isEdge e = false)
    (rest : List Event) :
    headingText? s (block ++ rest) = headingText? (s ++ String.join (block.map textOf)) rest := by
  induction block generalizing s with
  | nil => rw [List.map_nil, String.join_nil, String.append_empty, List.nil_append]
  | cons e more ih =>
    rw [List.cons_append, headingText?_other s (plain e List.mem_cons_self),
      ih _ fun d member => plain d (List.mem_cons_of_mem e member), List.map_cons, String.join_cons,
      String.append_assoc]

theorem firstEnd?_starts (starts : startsHeading e = true) : firstEnd? (e :: rest) = none :=
  if_pos starts

theorem firstEnd?_ends (ends : endsHeading e = true) : firstEnd? (e :: rest) = some 0 := by
  simp [firstEnd?, not_startsHeading ends, ends]

theorem firstEnd?_other (other : isEdge e = false) :
    firstEnd? (e :: rest) = (firstEnd? rest).map (· + 1) := by
  obtain ⟨starts, ends⟩ := isEdge_eq_false_iff.1 other
  simp [firstEnd?, starts, ends]

/-- The text ahead is that up to the first edge, if this is an end. -/
theorem headingText?_eq (s : String) (rest : List Event) :
    headingText? s rest =
      (firstEnd? rest).map fun j => s ++ String.join ((rest.take j).map textOf) := by
  induction rest generalizing s with
  | nil => rfl
  | cons e rest ih =>
    rcases kinds e with starts | ends | other
    · rw [headingText?_starts s starts, firstEnd?_starts starts]
      rfl
    · rw [headingText?_ends s ends, firstEnd?_ends ends, Option.map_some, List.take_zero,
        List.map_nil, String.join_nil, String.append_empty]
    · rw [headingText?_other s other, firstEnd?_other other, ih, Option.map_map]
      congr 1
      funext j
      show _ = s ++ String.join ((e :: rest.take j).map textOf)
      rw [List.map_cons, String.join_cons, String.append_assoc]

/-! ### What the stage makes of a document -/

theorem named_eq (slugger : Slugger) (e : Event) (rest : List Event) :
    named slugger e rest =
      match if startsHeading e then headingText? "" rest else none with
      | none => (e, slugger)
      | some text => (setId (slugger.next text).1 e, (slugger.next text).2) := by
  unfold named
  split
  next => cases headingText? "" rest <;> rfl
  next other =>
    cases starts : startsHeading e with
    | false => rfl
    | true =>
      obtain ⟨level, id, classes, rfl⟩ := startsHeading_iff.1 starts
      exact absurd rfl (other level id classes)

theorem named_other (slugger : Slugger) (rest : List Event) (other : startsHeading e = false) :
    named slugger e rest = (e, slugger) := by
  rw [named_eq, other]
  rfl

theorem named_unclosed (slugger : Slugger) (unclosed : headingText? "" rest = none) :
    named slugger e rest = (e, slugger) := by
  rw [named_eq, unclosed]
  split <;> simp_all

theorem named_closed (slugger : Slugger) {s : String} (starts : startsHeading e = true)
    (closed : headingText? "" rest = some s) :
    named slugger e rest = (setId (slugger.next s).1 e, (slugger.next s).2) := by
  rw [named_eq, starts, closed]
  rfl

theorem assignedFrom_other (slugger : Slugger) (rest : List Event)
    (other : startsHeading e = false) :
    assignedFrom slugger (e :: rest) = e :: assignedFrom slugger rest := by
  rw [assignedFrom, named_other slugger rest other]

theorem assignedFrom_append (slugger : Slugger) (quiet : ∀ e ∈ block, startsHeading e = false)
    (rest : List Event) :
    assignedFrom slugger (block ++ rest) = block ++ assignedFrom slugger rest := by
  induction block with
  | nil => rfl
  | cons e more ih =>
    rw [List.cons_append, assignedFrom_other slugger _ (quiet e List.mem_cons_self),
      ih fun d member => quiet d (List.mem_cons_of_mem e member), List.cons_append]

theorem map_withoutId_assignedFrom (slugger : Slugger) (events : List Event) :
    (assignedFrom slugger events).map withoutId = events.map withoutId := by
  induction events generalizing slugger with
  | nil => rfl
  | cons e rest ih =>
    have head : withoutId (named slugger e rest).1 = withoutId e := by
      rw [named_eq]
      split
      · rfl
      · exact withoutId_setId _ e
    rw [assignedFrom, List.map_cons, List.map_cons, head, ih]

theorem startsHeading_named (slugger : Slugger) (e : Event) (rest : List Event) :
    startsHeading (named slugger e rest).1 = startsHeading e := by
  rw [named_eq]
  split
  · rfl
  · exact startsHeading_setId _ e

/-- Identifiers are no part of the text of a heading. -/
theorem headingText?_assignedFrom (s : String) (slugger : Slugger) (events : List Event) :
    headingText? s (assignedFrom slugger events) = headingText? s events := by
  induction events generalizing s slugger with
  | nil => rfl
  | cons e rest ih =>
    rcases kinds e with starts | ends | other
    · have still := (startsHeading_named slugger e rest).trans starts
      rw [assignedFrom, headingText?_starts s starts, headingText?_starts s still]
    · rw [assignedFrom_other slugger rest (not_startsHeading ends), headingText?_ends s ends,
        headingText?_ends s ends]
    · rw [assignedFrom_other slugger rest (isEdge_eq_false_iff.1 other).1,
        headingText?_other s other, headingText?_other s other, ih]

/-- A document with its identifiers is left as it is. -/
theorem assignedFrom_assignedFrom (slugger : Slugger) (events : List Event) :
    assignedFrom slugger (assignedFrom slugger events) = assignedFrom slugger events := by
  induction events generalizing slugger with
  | nil => rfl
  | cons e rest ih =>
    have again : named slugger (named slugger e rest).1
        (assignedFrom (named slugger e rest).2 rest) = named slugger e rest := by
      rw [named_eq, startsHeading_named, headingText?_assignedFrom, named_eq]
      split
      next => rfl
      next => simp
    rw [assignedFrom, assignedFrom, again, ih]

/-! ### Closed headings -/

/-- Before an edge there is no later one. -/
theorem eq_zero_of_isEdge (edge : isEdge e = true)
    (before : ∀ k, k < j → ∀ d, (e :: rest)[k]? = some d → isEdge d = false) : j = 0 := by
  cases j with
  | zero => rfl
  | succ j =>
    rw [before 0 (Nat.succ_pos j) e rfl] at edge
    cases edge

theorem firstEnd?_eq_some_iff : firstEnd? events = some j ↔
    (∃ e, events[j]? = some e ∧ endsHeading e = true) ∧
      ∀ k, k < j → ∀ e, events[k]? = some e → isEdge e = false := by
  induction events generalizing j with
  | nil => simp [firstEnd?]
  | cons e rest ih =>
    rcases kinds e with starts | ends | other
    · rw [firstEnd?_starts starts]
      refine iff_of_false (fun found => by cases found) ?_
      rintro ⟨⟨d, there, ends⟩, before⟩
      obtain rfl := eq_zero_of_isEdge (isEdge_of_starts starts) before
      obtain rfl := Option.some.inj there
      rw [not_endsHeading starts] at ends
      cases ends
    · rw [firstEnd?_ends ends]
      constructor
      · rintro ⟨⟩
        exact ⟨⟨e, rfl, ends⟩, fun k before => absurd before (Nat.not_lt_zero k)⟩
      · rintro ⟨-, before⟩
        rw [eq_zero_of_isEdge (isEdge_of_ends ends) before]
    · rw [firstEnd?_other other, Option.map_eq_some_iff]
      constructor
      · rintro ⟨k, later, rfl⟩
        obtain ⟨there, before⟩ := ih.1 later
        refine ⟨there, fun m inside d here => ?_⟩
        cases m with
        | zero =>
          obtain rfl := Option.some.inj here
          exact other
        | succ m => exact before m (Nat.lt_of_succ_lt_succ inside) d here
      · rintro ⟨⟨d, there, ends⟩, before⟩
        cases j with
        | zero =>
          obtain rfl := Option.some.inj there
          rw [isEdge_of_ends ends] at other
          cases other
        | succ j =>
          refine ⟨j, ih.2 ⟨⟨d, there, ends⟩, fun k inside => ?_⟩, rfl⟩
          exact before (k + 1) (Nat.succ_lt_succ inside)

theorem heading?_eq_some_iff :
    heading? e rest = some (i, j) ↔ i = 0 ∧ Closed (e :: rest) 0 j := by
  have shape : heading? e rest = some (i, j) ↔
      startsHeading e = true ∧ ∃ k, firstEnd? rest = some k ∧ 0 = i ∧ k + 1 = j := by
    unfold heading?
    split
    next starts => simp [starts]
    next starts => simp [starts]
  rw [shape]
  constructor
  · rintro ⟨starts, k, first, rfl, rfl⟩
    obtain ⟨ends, before⟩ := firstEnd?_eq_some_iff.1 first
    refine ⟨rfl, ⟨e, rfl, starts⟩, ends, Nat.succ_pos k, fun m after inside d there => ?_⟩
    obtain ⟨m, rfl⟩ := Nat.exists_eq_succ_of_ne_zero (Nat.ne_of_gt after)
    exact before m (Nat.lt_of_succ_lt_succ inside) d there
  · rintro ⟨rfl, ⟨d, here, starts⟩, ends, order, between⟩
    obtain rfl := Option.some.inj here
    obtain ⟨k, rfl⟩ := Nat.exists_eq_succ_of_ne_zero (Nat.ne_of_gt order)
    refine ⟨starts, k, firstEnd?_eq_some_iff.2 ⟨ends, fun m before d there => ?_⟩, rfl, rfl⟩
    exact between (m + 1) (Nat.succ_pos m) (Nat.succ_lt_succ before) d there

theorem closed_succ_iff : Closed (e :: rest) (i + 1) (j + 1) ↔ Closed rest i j := by
  constructor
  · rintro ⟨starts, ends, order, between⟩
    exact ⟨starts, ends, Nat.lt_of_succ_lt_succ order, fun k after before =>
      between (k + 1) (Nat.succ_lt_succ after) (Nat.succ_lt_succ before)⟩
  · rintro ⟨starts, ends, order, between⟩
    refine ⟨starts, ends, Nat.succ_lt_succ order, fun k after before => ?_⟩
    obtain ⟨k, rfl⟩ := Nat.exists_eq_succ_of_ne_zero (Nat.ne_of_gt (Nat.zero_lt_of_lt after))
    exact between k (Nat.lt_of_succ_lt_succ after) (Nat.lt_of_succ_lt_succ before)

theorem mem_headings_iff : (i, j) ∈ headings events ↔ Closed events i j := by
  induction events generalizing i j with
  | nil =>
    refine iff_of_false List.not_mem_nil fun closed => ?_
    obtain ⟨e, here, -⟩ := closed.starts
    cases here
  | cons e rest ih =>
    rw [headings, List.mem_append, Option.mem_toList, heading?_eq_some_iff,
      List.mem_map]
    constructor
    · rintro (⟨rfl, closed⟩ | ⟨place, member, same⟩)
      · exact closed
      · obtain ⟨rfl, rfl⟩ := Prod.mk.inj same
        exact closed_succ_iff.2 (ih.1 member)
    · intro closed
      cases i with
      | zero => exact .inl ⟨rfl, closed⟩
      | succ i =>
        have positive := Nat.zero_lt_of_lt closed.order
        obtain ⟨j, rfl⟩ := Nat.exists_eq_succ_of_ne_zero (Nat.ne_of_gt positive)
        exact .inr ⟨(i, j), ih.2 (closed_succ_iff.1 closed), rfl⟩

/-- The list is in the order of the starts. -/
theorem headings_sorted (events : List Event) :
    (headings events).Pairwise fun first second => first.1 < second.1 := by
  induction events with
  | nil => exact .nil
  | cons e rest ih =>
    have later : ((headings rest).map fun place => (place.1 + 1, place.2 + 1)).Pairwise
        fun first second => first.1 < second.1 :=
      List.pairwise_map.2 (ih.imp Nat.succ_lt_succ)
    rw [headings]
    cases own : heading? e rest with
    | none => exact later
    | some place =>
      refine List.pairwise_cons.2 ⟨fun other member => ?_, later⟩
      obtain ⟨zero, -⟩ := heading?_eq_some_iff.1 own
      obtain ⟨place', -, rfl⟩ := List.mem_map.1 member
      rw [zero]
      exact Nat.succ_pos _

/-- A closed heading that starts behind the start of another starts behind its end. -/
theorem Closed.stop_lt_start {k m : Nat} (first : Closed events i j) (second : Closed events k m)
    (order : i < k) : j < k := by
  obtain ⟨e, there, begins⟩ := second.starts
  refine Nat.lt_of_not_le fun inside => ?_
  rcases Nat.lt_or_eq_of_le inside with before | rfl
  · have plain := first.between k order before e there
    rw [isEdge_of_starts begins] at plain
    cases plain
  · obtain ⟨d, here, ends⟩ := first.ends
    obtain rfl := Option.some.inj (here.symm.trans there)
    rw [not_endsHeading begins] at ends
    cases ends

/-- Closed headings stand one after the other. -/
theorem headings_pairwise (events : List Event) :
    (headings events).Pairwise fun first second => first.2 < second.1 :=
  (headings_sorted events).imp_of_mem fun member after order =>
    (mem_headings_iff.1 member).stop_lt_start (mem_headings_iff.1 after) order

/-! ### Identifiers by place -/

theorem named_of_heading? {place : Nat × Nat} (slugger : Slugger)
    (own : heading? e rest = some place) :
    startsHeading e = true ∧
      named slugger e rest = (setId (slugger.next (textAt (e :: rest) place)).1 e,
        (slugger.next (textAt (e :: rest) place)).2) := by
  unfold heading? at own
  split at own
  next starts =>
    obtain ⟨j, first, rfl⟩ := Option.map_eq_some_iff.1 own
    have ahead : headingText? "" rest = some (textAt (e :: rest) (0, j + 1)) := by
      rw [headingText?_eq, first, Option.map_some, String.empty_append]
      rfl
    exact ⟨starts, named_closed slugger starts ahead⟩
  next => cases own

theorem named_of_heading?_none (slugger : Slugger) (none : heading? e rest = none) :
    named slugger e rest = (e, slugger) := by
  unfold heading? at none
  split at none
  next =>
    refine named_unclosed slugger ?_
    rw [headingText?_eq, Option.map_eq_none_iff.1 none]
    rfl
  next starts => exact named_other slugger rest (Bool.eq_false_iff.2 starts)

/-- The closed headings have the identifiers of their texts, given out in turn. -/
theorem ids_assignedFrom (slugger : Slugger) (events : List Event) :
    (headings events).map (fun place => idAt (assignedFrom slugger events) place.1) =
      (Slugger.all.go slugger ((headings events).map (textAt events))).map some := by
  induction events generalizing slugger with
  | nil => rfl
  | cons e rest ih =>
    -- Behind the first event, all places and texts are those of the rest.
    have later : ∀ (d : Event) (slugger : Slugger),
        ((headings rest).map fun place => (place.1 + 1, place.2 + 1)).map
            (fun place => idAt (d :: assignedFrom slugger rest) place.1) =
          (Slugger.all.go slugger (((headings rest).map fun place => (place.1 + 1, place.2 + 1)).map
            (textAt (e :: rest)))).map some := by
      intro d slugger
      rw [List.map_map, List.map_map]
      exact ih slugger
    rw [headings, assignedFrom]
    cases own : heading? e rest with
    | none =>
      rw [named_of_heading?_none slugger own]
      exact later e slugger
    | some place =>
      obtain ⟨starts, names⟩ := named_of_heading? slugger own
      obtain ⟨zero, -⟩ := heading?_eq_some_iff.1 own
      rw [names, Option.toList_some, List.singleton_append, List.map_cons, List.map_cons, later,
        Slugger.all.go, List.map_cons, zero, idAt_setId _ starts]

/-- What starts no closed heading stays as it is. -/
theorem assignedFrom_getElem? (slugger : Slugger) (unclosed : ∀ j, ¬ Closed events i j) :
    (assignedFrom slugger events)[i]? = events[i]? := by
  induction events generalizing slugger i with
  | nil => rfl
  | cons e rest ih =>
    rw [assignedFrom]
    cases i with
    | zero =>
      have none : heading? e rest = none :=
        Option.eq_none_iff_forall_ne_some.2 fun place own =>
          unclosed place.2 (heading?_eq_some_iff.1 own).2
      rw [named_of_heading?_none slugger none]
      rfl
    | succ i => exact ih _ fun j closed => unclosed (j + 1) (closed_succ_iff.2 closed)

end PagePress.HeadingIds
