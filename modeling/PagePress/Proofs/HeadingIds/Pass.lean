import PagePress.Proofs.HeadingIds.Closed

/-!
# Identifiers in one pass

Headings can be named in one pass that knows nothing of what is to come (`Pass`): it keeps the place
of the last start of a heading and the text since, and writes the identifier back to that place at
the end of the heading. What a pass has made and what is still ahead of it determine a document
(`Pass.outcome`), and no step changes it.
-/
namespace PagePress.HeadingIds

/-- A document in the middle of a pass: the identifiers given out, the events so far, and, while a
heading is open, the place of its start and its text so far. -/
structure Pass where
  slugger : Slugger := {}
  out : Array Event := #[]
  pending : Option (Nat × String) := none

/-- Takes an event over. The end of an open heading gives its start an identifier. -/
def Pass.step (pass : Pass) (e : Event) : Pass :=
  if startsHeading e then
    { pass with out := pass.out.push e, pending := some (pass.out.size, "") }
  else if endsHeading e then
    match pass.pending with
    | none => { pass with out := pass.out.push e }
    | some (place, text) =>
      let (slug, slugger) := pass.slugger.next text
      ⟨slugger, (pass.out.modify place (setId slug)).push e, none⟩
  else
    { pass with
      out := pass.out.push e
      pending := pass.pending.map fun (place, text) => (place, text ++ textOf e) }

def Pass.run (events : List Event) : Pass := events.foldl step {}

variable {e : Event} {events rest : List Event}

namespace Pass

/-- The place that is remembered is one of an event so far. -/
def InBounds (pass : Pass) : Prop := ∀ held ∈ pass.pending, held.1 < pass.out.size

/-- The heading that is open, with its whole text, if it is closed in what is ahead. -/
def ahead? (pass : Pass) (rest : List Event) : Option (Nat × String) :=
  pass.pending.bind fun held => (headingText? held.2 rest).map (held.1, ·)

/-- The document that a pass comes to with what is ahead of it. -/
def outcome (pass : Pass) (rest : List Event) : List Event :=
  match pass.ahead? rest with
  | none => pass.out.toList ++ assignedFrom pass.slugger rest
  | some (place, text) =>
    (pass.out.modify place (setId (pass.slugger.next text).1)).toList ++
      assignedFrom (pass.slugger.next text).2 rest

variable {pass : Pass}

theorem modify_push {out : Array Event} {place : Nat} (inside : place < out.size)
    (f : Event → Event) (e : Event) :
    (out.push e).modify place f = (out.modify place f).push e := by
  apply Array.ext <;> grind

theorem modify_push_size (out : Array Event) (f : Event → Event) (e : Event) :
    (out.push e).modify out.size f = out.push (f e) := by
  apply Array.ext <;> grind

theorem toList_push_append (out : Array Event) (e : Event) (rest : List Event) :
    (out.push e).toList ++ rest = out.toList ++ e :: rest := by
  rw [Array.toList_push, List.append_assoc, List.singleton_append]

/-- The start of a heading: what is open before it stays unclosed. -/
theorem outcome_starts (starts : startsHeading e = true) (rest : List Event) :
    (pass.step e).outcome rest = pass.outcome (e :: rest) := by
  have unclosed : pass.ahead? (e :: rest) = none := by
    unfold ahead?
    cases pass.pending with
    | none => rfl
    | some held => rw [Option.bind_some, headingText?_starts held.2 starts]; rfl
  have now : (pass.step e).ahead? rest = (headingText? "" rest).map (pass.out.size, ·) := by
    rw [step, if_pos starts]
    rfl
  rw [outcome, outcome, unclosed, now, assignedFrom, step, if_pos starts]
  cases text : headingText? "" rest with
  | none =>
    rw [named_unclosed pass.slugger text]
    exact toList_push_append _ _ _
  | some full =>
    rw [named_closed pass.slugger starts text]
    show ((pass.out.push e).modify pass.out.size _).toList ++ _ = _
    rw [modify_push_size, toList_push_append]

/-- The end of a heading closes what is open. -/
theorem outcome_ends (ends : endsHeading e = true) (rest : List Event) :
    (pass.step e).outcome rest = pass.outcome (e :: rest) := by
  have starts := not_startsHeading ends
  cases held : pass.pending with
  | none =>
    have before : pass.ahead? (e :: rest) = none := by rw [ahead?, held]; rfl
    have next : pass.step e = { pass with out := pass.out.push e } := by
      simp [step, starts, ends, held]
    have after : (pass.step e).ahead? rest = none := by rw [next, ahead?, held]; rfl
    rw [outcome, outcome, before, after, next, assignedFrom_other _ rest starts]
    exact toList_push_append _ _ _
  | some open_ =>
    obtain ⟨place, text⟩ := open_
    have before : pass.ahead? (e :: rest) = some (place, text) := by
      rw [ahead?, held, Option.bind_some, headingText?_ends text ends]
      rfl
    have next : pass.step e = ⟨(pass.slugger.next text).2,
        (pass.out.modify place (setId (pass.slugger.next text).1)).push e, none⟩ := by
      simp [step, starts, ends, held]
    have after : (pass.step e).ahead? rest = none := by rw [next]; rfl
    rw [outcome, outcome, before, after, next]
    dsimp only
    rw [assignedFrom_other _ rest starts]
    exact toList_push_append _ _ _

/-- Any other event adds its text to what is open. -/
theorem outcome_other (bounded : pass.InBounds) (other : isEdge e = false) (rest : List Event) :
    (pass.step e).outcome rest = pass.outcome (e :: rest) := by
  obtain ⟨starts, ends⟩ := isEdge_eq_false_iff.1 other
  have next : pass.step e = { pass with
      out := pass.out.push e
      pending := pass.pending.map fun (place, text) => (place, text ++ textOf e) } := by
    simp [step, starts, ends]
  have same : (pass.step e).ahead? rest = pass.ahead? (e :: rest) := by
    rw [next, ahead?, ahead?]
    cases pass.pending with
    | none => rfl
    | some held => rw [Option.bind_some, headingText?_other held.2 other]; rfl
  rw [outcome, outcome, same, next]
  cases ahead : pass.ahead? (e :: rest) with
  | none =>
    dsimp only
    rw [assignedFrom_other _ rest starts]
    exact toList_push_append _ _ _
  | some closed =>
    obtain ⟨held, member, closes⟩ := Option.bind_eq_some_iff.1 ahead
    obtain ⟨text, -, rfl⟩ := Option.map_eq_some_iff.1 closes
    dsimp only
    rw [assignedFrom_other _ rest starts, modify_push (bounded held member)]
    exact toList_push_append _ _ _

theorem outcome_step (bounded : pass.InBounds) (e : Event) (rest : List Event) :
    (pass.step e).outcome rest = pass.outcome (e :: rest) := by
  rcases kinds e with starts | ends | other
  · exact outcome_starts starts rest
  · exact outcome_ends ends rest
  · exact outcome_other bounded other rest

theorem inBounds_step (bounded : pass.InBounds) (e : Event) : (pass.step e).InBounds := by
  unfold step
  split
  next =>
    rintro held ⟨⟩
    rw [Array.size_push]
    exact Nat.lt_succ_self _
  next =>
    split
    next =>
      split
      next free =>
        intro held member
        rw [free] at member
        cases member
      next => rintro held ⟨⟩
    next =>
      intro held member
      obtain ⟨before, there, rfl⟩ := Option.map_eq_some_iff.1 member
      rw [Array.size_push]
      exact Nat.lt_succ_of_lt (bounded before there)

theorem outcome_foldl (bounded : pass.InBounds) (events : List Event) :
    (events.foldl step pass).out.toList = pass.outcome events := by
  induction events generalizing pass with
  | nil =>
    have nothing : pass.ahead? [] = none := by
      unfold ahead?
      cases pass.pending <;> rfl
    rw [outcome, nothing, assignedFrom, List.append_nil]
    rfl
  | cons e rest ih =>
    rw [List.foldl_cons, ih (inBounds_step bounded e), outcome_step bounded]

/-- The pass gives the document that looking ahead does. -/
theorem run_eq_assign (events : List Event) : (run events).out.toList = assign events := by
  have bounded : ({} : Pass).InBounds := by rintro held ⟨⟩
  rw [run, outcome_foldl bounded, assign_eq]
  exact List.nil_append _

end Pass

/-- Only identifiers of headings change. The closed headings, which stand one after the other, get
those that their texts are given in turn, so that all of them differ, and every other event stays as
it is. Doing it again changes nothing, and one pass without looking ahead does the same. -/
theorem assign_exact (events : List Event) :
    (assign events).length = events.length ∧
    (assign events).map withoutId = events.map withoutId ∧
    (∀ i j, (i, j) ∈ headings events ↔ Closed events i j) ∧
    ((headings events).Pairwise fun first second => first.2 < second.1) ∧
    (headings events).map (fun place => idAt (assign events) place.1) =
      (Slugger.all ((headings events).map (textAt events))).map some ∧
    (Slugger.all ((headings events).map (textAt events))).Nodup ∧
    (∀ i, (∀ j, ¬ Closed events i j) → (assign events)[i]? = events[i]?) ∧
    assign (assign events) = assign events ∧
    (Pass.run events).out.toList = assign events := by
  have same : (assign events).map withoutId = events.map withoutId := by
    rw [assign_eq]
    exact map_withoutId_assignedFrom {} events
  refine ⟨?_, same, fun i j => mem_headings_iff, headings_pairwise events, ?_,
    Slugger.all_nodup _, fun i unclosed => ?_, ?_, Pass.run_eq_assign events⟩
  · have length := congrArg List.length same
    rwa [List.length_map, List.length_map] at length
  · rw [assign_eq]
    exact ids_assignedFrom {} events
  · rw [assign_eq]
    exact assignedFrom_getElem? {} unclosed
  · rw [assign_eq, assign_eq]
    exact assignedFrom_assignedFrom {} events

example :
    let one : Level := { val := 1 }
    assign [.start (.heading one none []), .text "A b", .stop (.heading one),
      .start (.heading one (some "kept") []), .rule, .start (.heading one none []), .code "a",
      .softBreak, .text " B", .stop (.heading one)] =
    [.start (.heading one (some "a-b") []), .text "A b", .stop (.heading one),
      .start (.heading one (some "kept") []), .rule, .start (.heading one (some "a-b-1") []),
      .code "a", .softBreak, .text " B", .stop (.heading one)] := by
  decide +kernel

end PagePress.HeadingIds
