import PagePress.Markup.Event

/-!
# Open elements

Reading a document from its beginning, one can keep the elements that are open on a stack. A
document is well nested if every end finds its own start on top of the stack and the stack is empty
at last.
-/
namespace PagePress.Event

/-- The elements that are open after an event, the innermost first. An end that does not belong to
the innermost open element leads nowhere. -/
def openAfter (stack : List Tag) : Event → Option (List Tag)
  | .start tag => some (tag :: stack)
  | .stop close =>
    match stack with
    | [] => none
    | tag :: outer => if tag.close = close then some outer else none
  | _ => some stack

/-- The elements that are open after several events, beginning inside those of `stack`. -/
def openAtEnd (stack : List Tag) : List Event → Option (List Tag)
  | [] => some stack
  | e :: rest => (openAfter stack e).bind fun stack => openAtEnd stack rest

/-- Starts and ends match up. -/
def WellNested (events : List Event) : Prop := openAtEnd [] events = some []

instance : DecidablePred WellNested :=
  fun events => inferInstanceAs (Decidable (openAtEnd [] events = some []))

/-- Events that end just the elements that they start. -/
def Balanced (events : List Event) : Prop := ∀ stack, openAtEnd stack events = some stack

variable {stack : List Tag} {before after events : List Event} {e : Event}

theorem openAtEnd_singleton : openAtEnd stack [e] = openAfter stack e := by
  cases h : openAfter stack e <;> simp [openAtEnd, h]

theorem openAtEnd_append :
    openAtEnd stack (before ++ after) =
      (openAtEnd stack before).bind fun stack => openAtEnd stack after := by
  induction before generalizing stack with
  | nil => rfl
  | cons e rest ih =>
    rw [List.cons_append, openAtEnd, openAtEnd]
    cases openAfter stack e with
    | none => rfl
    | some inner => exact ih

theorem Balanced.append (first : Balanced before) (second : Balanced after) :
    Balanced (before ++ after) := by
  intro stack
  rw [openAtEnd_append, first]
  exact second stack

/-- At every place in a well nested document there is a stack of open elements. -/
theorem WellNested.openAtEnd_take (nested : WellNested events) (i : Nat) :
    ∃ stack, openAtEnd [] (events.take i) = some stack := by
  have whole : openAtEnd [] (events.take i ++ events.drop i) = some [] := by
    rw [List.take_append_drop]
    exact nested
  rw [openAtEnd_append] at whole
  obtain ⟨stack, here, -⟩ := Option.bind_eq_some_iff.1 whole
  exact ⟨stack, here⟩

end PagePress.Event
