import PagePress.Proofs.Autolink.Linking
import PagePress.Proofs.HeadingIds.Closed
import PagePress.Proofs.Pipeline

/-!
# The order of linking and naming headings

Linking leaves the starts and ends of headings where they are and the text between them as it is,
and the identifier of a heading plays no part in linking. So the two stages may change places,
anywhere in a pipeline, and the headings of a document come out of the usual pipeline as they come
out of the stage that names them.
-/
namespace PagePress

namespace Autolink

open HeadingIds

variable {depth : Nat} {e : Event} {events : List Event}

theorem Part.events_plain (part : Part) : ∀ e ∈ part.events, isEdge e = false := by
  have all : part.events.all (!isEdge ·) = true := by cases part <;> rfl
  intro e member
  simpa using List.all_eq_true.1 all e member

theorem Part.allEvents_plain (parts : List Part) : ∀ e ∈ allEvents parts, isEdge e = false := by
  intro e member
  obtain ⟨part, -, inside⟩ := List.mem_flatMap.1 member
  exact part.events_plain e inside

theorem Part.textOf_events (part : Part) : String.join (part.events.map textOf) = part.text := by
  cases part <;> simp [events, textOf, text]

theorem Part.textOf_allEvents (parts : List Part) :
    String.join ((allEvents parts).map textOf) = join parts := by
  induction parts with
  | nil => rfl
  | cons part rest ih =>
    have apart : allEvents (part :: rest) = part.events ++ allEvents rest := rfl
    rw [apart, List.map_append, String.join_append, part.textOf_events, ih, join_cons]

/-- A block in a heading adds just the text of its event to the heading. -/
theorem expand_plain (depth : Nat) (other : isEdge e = false) :
    (∀ d ∈ expand depth e, isEdge d = false) ∧
      String.join ((expand depth e).map textOf) = textOf e := by
  rcases expand_cases depth e with kept | ⟨-, s, parts, rfl, expands, parted⟩
  · rw [kept]
    exact ⟨List.forall_mem_singleton.2 other, by simp⟩
  · rw [expands]
    exact ⟨Part.allEvents_plain parts, (Part.textOf_allEvents parts).trans parted.whole⟩

theorem expand_edge (depth : Nat) (edge : isEdge e = true) : expand depth e = [e] := by
  rcases expand_cases depth e with kept | ⟨-, s, parts, rfl, -⟩
  · exact kept
  · cases edge

/-- No heading starts where none did. -/
theorem expand_quiet (depth : Nat) (quiet : startsHeading e = false) :
    ∀ d ∈ expand depth e, startsHeading d = false := by
  rcases expand_cases depth e with kept | ⟨-, s, parts, rfl, expands, -⟩
  · rw [kept]
    exact List.forall_mem_singleton.2 quiet
  · rw [expands]
    exact fun d member => (isEdge_eq_false_iff.1 (Part.allEvents_plain parts d member)).1

theorem depthAfter_starts (depth : Nat) (starts : startsHeading e = true) :
    depthAfter depth e = depth := by
  obtain ⟨level, id, classes, rfl⟩ := startsHeading_iff.1 starts
  rfl

/-- Linking changes no text of a heading. -/
theorem headingText?_linkFrom (s : String) (depth : Nat) (events : List Event) :
    headingText? s (linkFrom depth events) = headingText? s events := by
  induction events generalizing s depth with
  | nil => rfl
  | cons e rest ih =>
    rw [linkFrom]
    rcases kinds e with starts | ends | other
    · rw [expand_edge depth (isEdge_of_starts starts), List.singleton_append,
        headingText?_starts s starts, headingText?_starts s starts]
    · rw [expand_edge depth (isEdge_of_ends ends), List.singleton_append,
        headingText?_ends s ends, headingText?_ends s ends]
    · obtain ⟨plain, text⟩ := expand_plain depth other
      rw [headingText?_append s plain, text, ih, headingText?_other s other]

theorem named_linkFrom (slugger : Slugger) (e : Event) (depth : Nat) (rest : List Event) :
    named slugger e (linkFrom depth rest) = named slugger e rest := by
  rw [named_eq, named_eq, headingText?_linkFrom]

/-- Naming the headings of a linked document is linking the document with its headings named. -/
theorem assignedFrom_linkFrom (slugger : Slugger) (depth : Nat) (events : List Event) :
    assignedFrom slugger (linkFrom depth events) =
      linkFrom depth (assignedFrom slugger events) := by
  induction events generalizing slugger depth with
  | nil => rfl
  | cons e rest ih =>
    rw [linkFrom]
    cases starts : startsHeading e with
    | true =>
      have still := (startsHeading_named slugger e rest).trans starts
      rw [expand_edge depth (isEdge_of_starts starts), List.singleton_append, assignedFrom,
        named_linkFrom, depthAfter_starts depth starts, ih, assignedFrom, linkFrom,
        expand_edge depth (isEdge_of_starts still), depthAfter_starts depth still,
        List.singleton_append]
    | false =>
      rw [assignedFrom_append slugger (expand_quiet depth starts), ih,
        assignedFrom_other slugger rest starts, linkFrom]

theorem assign_link (events : List Event) :
    HeadingIds.assign (link events) = link (HeadingIds.assign events) := by
  rw [link_eq, link_eq, assign_eq, assign_eq]
  exact assignedFrom_linkFrom {} 0 events

/-- Linking leaves the starts of headings alone. -/
theorem filter_startsHeading_link (events : List Event) :
    (link events).filter startsHeading = events.filter startsHeading := by
  rw [link_eq]
  suffices anywhere : ∀ depth,
      (linkFrom depth events).filter startsHeading = events.filter startsHeading from anywhere 0
  induction events with
  | nil => exact fun _ => rfl
  | cons e rest ih =>
    intro depth
    rw [linkFrom, List.filter_append, ih]
    cases starts : startsHeading e with
    | true =>
      rw [expand_edge depth (isEdge_of_starts starts), ← List.filter_append]
      rfl
    | false =>
      have none : (expand depth e).filter startsHeading = [] :=
        List.filter_eq_nil_iff.2 fun d member => by simp [expand_quiet depth starts d member]
      rw [none, List.nil_append, List.filter_cons_of_neg (by simp [starts])]

end Autolink

open HeadingIds (startsHeading)

namespace Math

/-- Formulas are no starts of headings, neither before nor after they are converted. -/
theorem filter_startsHeading_of_rendered {events out : List Event}
    (h : List.Forall₂ Rendered events out) :
    out.filter startsHeading = events.filter startsHeading := by
  induction h with
  | nil => rfl
  | cons first _ ih =>
    cases first with
    | kept => rw [List.filter_cons, List.filter_cons, ih]
    | inline | display | inlineLiteral | displayLiteral => exact ih

end Math

namespace Pipeline

theorem run_append (before after : List Stage) (events : List Event) :
    run (before ++ after) events = run before events >>= run after := by
  induction before generalizing events with
  | nil => rfl
  | cons stage rest ih =>
    rw [List.cons_append, run_cons, run_cons, bind_assoc]
    exact congrArg _ (funext ih)

/-- The two stages may change places between any others. -/
theorem run_exchange (before after : List Stage) (events : List Event) :
    run (before ++ [.autolink, .headingIds] ++ after) events =
      run (before ++ [.headingIds, .autolink] ++ after) events := by
  rw [List.append_assoc, List.append_assoc, run_append, run_append]
  refine congrArg _ (funext fun events => ?_)
  show run after (HeadingIds.assign (Autolink.link events)) =
    run after (Autolink.link (HeadingIds.assign events))
  rw [Autolink.assign_link]

/-- What becomes of a source hangs on the stages only by what becomes of documents. -/
theorem tryRender_of_run_eq (pipeline : Pipeline) {stages others : List Stage}
    (same : ∀ events, run stages events = run others events) (source : String) :
    { pipeline with stages := stages }.tryRender source =
      { pipeline with stages := others }.tryRender source := by
  have alike : { pipeline with stages := others }.accept source =
      { pipeline with stages := stages }.accept source := rfl
  cases accepts : { pipeline with stages := stages }.accept source with
  | error refusal => rw [tryRender_of_refused accepts, tryRender_of_refused (alike.trans accepts)]
  | ok events =>
    rw [tryRender_of_accepted accepts, tryRender_of_accepted (alike.trans accepts), same]

/-- The usual pipeline returns where converting the formulas does, and its headings are those of a
document whose headings were named and nothing else. -/
theorem run_standard_headings (events : List Event) :
    (run Stage.standard events).map (List.filter startsHeading) =
      (Math.renderAll events).map fun _ => (HeadingIds.assign events).filter startsHeading := by
  have standard : run Stage.standard events =
      Math.renderAll (Autolink.link (HeadingIds.assign events)) := by
    rw [← Autolink.assign_link]
    show (Math.renderAll (HeadingIds.assign (Autolink.link events)) >>= pure) = _
    exact bind_pure _
  have formulas : Math.formulas (Autolink.link (HeadingIds.assign events)) =
      Math.formulas events := by
    rw [Math.formulas_link, Math.formulas_assign]
  rw [standard]
  by_cases crashes : ∃ formula ∈ Math.formulas events, Math.Crashes formula.1
  · obtain ⟨formula, member, crash⟩ := crashes
    rw [Math.renderAll_error member crash, Math.renderAll_error (formulas.symm ▸ member) crash]
    rfl
  · have calm : ∀ formula ∈ Math.formulas events, ¬ Math.Crashes formula.1 :=
      fun formula member crash => crashes ⟨formula, member, crash⟩
    obtain ⟨plain, renders, -⟩ := Math.renderAll_ok calm
    obtain ⟨out, rendered, all⟩ := Math.renderAll_ok (formulas.symm ▸ calm)
    rw [renders, rendered]
    refine congrArg Except.ok ?_
    rw [Math.filter_startsHeading_of_rendered all, Autolink.filter_startsHeading_link]

/-- Linking and naming headings can be done in either order, on every document and next to each
other in every pipeline, and the headings that the usual pipeline gives, with their identifiers, are
those that naming alone gives. -/
theorem autolink_headingIds_exchange :
    (∀ events,
      HeadingIds.assign (Autolink.link events) = Autolink.link (HeadingIds.assign events)) ∧
    (∀ (pipeline : Pipeline) (before after : List Stage) (source : String),
      { pipeline with stages := before ++ [Stage.autolink, .headingIds] ++ after }.tryRender
          source =
        { pipeline with stages := before ++ [Stage.headingIds, .autolink] ++ after }.tryRender
          source) ∧
    ∀ events, (run Stage.standard events).map (List.filter startsHeading) =
      (Math.renderAll events).map fun _ => (HeadingIds.assign events).filter startsHeading := by
  exact ⟨Autolink.assign_link, fun pipeline before after source =>
    pipeline.tryRender_of_run_eq (run_exchange before after) source, run_standard_headings⟩

end Pipeline

end PagePress
