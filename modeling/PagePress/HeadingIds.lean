import PagePress.Markup.Event
import PagePress.Slug

/-!
# Identifiers of headings

Every heading gets an identifier made from its text. A heading that is not closed before the next
one starts keeps the identifier it has.
-/
namespace PagePress.HeadingIds

/-- The text that an event adds to the heading around it. -/
def textOf : Event → String
  | .text s | .code s | .inlineMath s | .displayMath s => s
  | _ => ""

theorem textOf_eq {e : Event} {s : String}
    (shown : e ∈ [Event.text s, .code s, .inlineMath s, .displayMath s]) : textOf e = s := by
  simp only [List.mem_cons, List.not_mem_nil, or_false] at shown
  rcases shown with rfl | rfl | rfl | rfl <;> rfl

theorem textOf_eq_empty {e : Event}
    (hidden : ∀ s, e ∉ [Event.text s, .code s, .inlineMath s, .displayMath s]) : textOf e = "" := by
  cases e with
  | text s | code s | inlineMath s | displayMath s => exact absurd (by simp) (hidden s)
  | _ => rfl

/-- The text of an open heading up to its end, if no other heading starts before it. -/
def headingText? (text : String) : List Event → Option String
  | [] => none
  | .start (.heading ..) :: _ => none
  | .stop (.heading _) :: _ => some text
  | e :: rest => headingText? (text ++ textOf e) rest

/-- Goes through a document with the identifiers given out so far. -/
def assignFrom (slugger : Slugger) (out : Array Event) : List Event → Array Event
  | [] => out
  | e :: rest =>
    match e with
    | .start (.heading level id classes) =>
      match headingText? "" rest with
      | none => assignFrom slugger (out.push (.start (.heading level id classes))) rest
      | some text =>
        let (slug, slugger) := slugger.next text
        assignFrom slugger (out.push (.start (.heading level (some slug) classes))) rest
    | e => assignFrom slugger (out.push e) rest

/-- Gives every closed heading of a document an identifier of its own. -/
def assign (events : List Event) : List Event := (assignFrom {} #[] events).toList

end PagePress.HeadingIds
