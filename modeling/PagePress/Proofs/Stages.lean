import PagePress.Pipeline
import PagePress.Proofs.Math.Conversion

/-!
# The stages of a pipeline, event by event

The stages collect their output in an array. Here they are lists of what each event becomes, and the
formulas of a document are followed through them: linking and naming headings leave all formulas as
they are, and nothing is left of them after the stage that converts them.
-/
namespace PagePress

namespace Autolink

/-- The events that a document becomes inside `depth` suppressing elements. -/
def linkFrom (depth : Nat) : List Event → List Event
  | [] => []
  | e :: rest => expand depth e ++ linkFrom (depthAfter depth e) rest

theorem link_eq (events : List Event) : link events = linkFrom 0 events := by
  suffices collected : ∀ (out : Array Event) depth,
      (events.foldl (fun s e =>
        ((expand s.2 e).foldl Array.push s.1, depthAfter s.2 e)) (out, depth)).1.toList =
      out.toList ++ linkFrom depth events by
    exact (collected #[] 0).trans (List.nil_append _)
  induction events with
  | nil => simp [linkFrom]
  | cons e rest ih =>
    intro out depth
    rw [List.foldl_cons]
    rw [ih, linkFrom, ← List.append_assoc]
    simp

end Autolink

namespace HeadingIds

/-- What becomes of an event before `rest`, and the identifiers given out after it. -/
def named (slugger : Slugger) (e : Event) (rest : List Event) : Event × Slugger :=
  match e with
  | .start (.heading level id classes) =>
    match headingText? "" rest with
    | none => (.start (.heading level id classes), slugger)
    | some text =>
      let (slug, slugger) := slugger.next text
      (.start (.heading level (some slug) classes), slugger)
  | e => (e, slugger)

/-- The events that a document becomes, given the identifiers given out so far. -/
def assignedFrom (slugger : Slugger) : List Event → List Event
  | [] => []
  | e :: rest => (named slugger e rest).1 :: assignedFrom (named slugger e rest).2 rest

theorem assignFrom_cons (slugger : Slugger) (out : Array Event) (e : Event) (rest : List Event) :
    assignFrom slugger out (e :: rest) =
      assignFrom (named slugger e rest).2 (out.push (named slugger e rest).1) rest := by
  cases e with
  | start tag =>
    cases tag with
    | heading level id classes =>
      cases found : headingText? "" rest <;> simp only [assignFrom, named, found]
    | _ => rfl
  | _ => rfl

theorem assign_eq (events : List Event) : assign events = assignedFrom {} events := by
  suffices collected : ∀ (slugger : Slugger) (out : Array Event),
      (assignFrom slugger out events).toList = out.toList ++ assignedFrom slugger events by
    simpa [assign] using collected {} #[]
  induction events with
  | nil => simp [assignFrom, assignedFrom]
  | cons e rest ih =>
    intro slugger out
    rw [assignFrom_cons, ih, assignedFrom, Array.toList_push, List.append_assoc]
    rfl

end HeadingIds

namespace Math

theorem formulas_append (before after : List Event) :
    formulas (before ++ after) = formulas before ++ formulas after := List.filterMap_append

theorem formulas_piece (text : List Char) : formulas (Autolink.piece text) = [] := by
  unfold Autolink.piece
  split <;> rfl

/-- There are no formulas in a text, also when it is linked. -/
theorem formulas_split (position : Nat) (text : List Char) (links : List Autolink) :
    formulas (Autolink.split position text links) = [] := by
  induction links generalizing position text with
  | nil => exact formulas_piece text
  | cons link rest ih =>
    rw [Autolink.split]
    dsimp only
    rw [formulas_append, formulas_piece, formulas_cons, formulas_cons, formulas_cons, ih]
    rfl

theorem formulas_expand (depth : Nat) (e : Event) :
    formulas (Autolink.expand depth e) = formulas [e] := by
  cases e with
  | text s =>
    unfold Autolink.expand Autolink.splitText
    dsimp only
    split
    · split
      · rfl
      · rw [formulas_split]
        rfl
    · rfl
  | _ => rfl

theorem formulas_link (events : List Event) : formulas (Autolink.link events) = formulas events := by
  rw [Autolink.link_eq]
  suffices anywhere : ∀ depth, formulas (Autolink.linkFrom depth events) = formulas events from
    anywhere 0
  induction events with
  | nil => exact fun _ => rfl
  | cons e rest ih =>
    intro depth
    rw [Autolink.linkFrom, formulas_append, formulas_expand, ih, ← formulas_append]
    rfl

theorem ofEvent?_named (slugger : Slugger) (e : Event) (rest : List Event) :
    ofEvent? (HeadingIds.named slugger e rest).1 = ofEvent? e := by
  unfold HeadingIds.named
  split
  next =>
    split <;> rfl
  next => rfl

theorem formulas_assign (events : List Event) :
    formulas (HeadingIds.assign events) = formulas events := by
  rw [HeadingIds.assign_eq]
  suffices named : ∀ slugger, formulas (HeadingIds.assignedFrom slugger events) = formulas events from
    named {}
  induction events with
  | nil => exact fun _ => rfl
  | cons e rest ih =>
    intro slugger
    rw [HeadingIds.assignedFrom, formulas_cons, formulas_cons, ofEvent?_named, ih]

end Math

end PagePress
