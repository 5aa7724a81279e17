import PagePress.Markup.Node
import PagePress.Proofs.Nesting

/-!
# Marks of a document

Whether a document is well nested, and how deep, is settled by the starts and ends of its elements
alone, each of them given by the end that belongs to it (`Mark`). The marks of a tree, put in the
order of its text, are well nested, and the greatest number of elements open at once is its height.
-/
namespace PagePress

/-- The start or the end of an element. -/
inductive Mark where
  | opens (close : TagEnd)
  | closes (close : TagEnd)
  deriving DecidableEq, Repr

namespace Mark

/-- The ends that are still to come after a mark, the next one first. -/
def after? (pending : List TagEnd) : Mark → Option (List TagEnd)
  | opens close => some (close :: pending)
  | closes close =>
    match pending with
    | [] => none
    | next :: outer => if next = close then some outer else none

/-- The ends that are still to come after several marks. -/
def atEnd? (pending : List TagEnd) : List Mark → Option (List TagEnd)
  | [] => some pending
  | m :: rest => (after? pending m).bind fun pending => atEnd? pending rest

/-- The greatest number of elements open at once, beginning at `depth` open ones. -/
def heightFrom (depth : Nat) : List Mark → Nat
  | [] => depth
  | opens _ :: rest => heightFrom (depth + 1) rest
  | closes _ :: rest => max depth (heightFrom (depth - 1) rest)

/-- The mark of an event, if it starts or ends an element. -/
def ofEvent? : Event → Option Mark
  | .start tag => some (opens tag.close)
  | .stop close => some (closes close)
  | _ => none

/-- The marks of a document, in order. -/
def all (events : List Event) : List Mark := events.filterMap ofEvent?

theorem le_heightFrom (depth : Nat) (marks : List Mark) : depth ≤ heightFrom depth marks := by
  cases marks with
  | nil => exact Nat.le_refl depth
  | cons m rest =>
    cases m with
    | opens close => exact Nat.le_trans (Nat.le_succ depth) (le_heightFrom (depth + 1) rest)
    | closes close => exact Nat.le_max_left _ _

theorem all_append (before after : List Event) : all (before ++ after) = all before ++ all after :=
  List.filterMap_append

theorem all_cons (e : Event) (rest : List Event) : all (e :: rest) = (ofEvent? e).toList ++ all rest := by
  cases mark : ofEvent? e <;> simp [all, mark]

/-- The stack of open elements, given by their ends, depends on the marks alone. -/
theorem map_close_openAtEnd (stack : List Tag) (events : List Event) :
    (Event.openAtEnd stack events).map (List.map Tag.close) =
      atEnd? (stack.map Tag.close) (all events) := by
  induction events generalizing stack with
  | nil => rfl
  | cons e rest ih =>
    rw [all_cons, Event.openAtEnd]
    cases e with
    | start tag => exact ih (tag :: stack)
    | stop close =>
      cases stack with
      | nil => rfl
      | cons tag outer =>
        simp only [Event.openAfter, ofEvent?, Option.toList_some, List.singleton_append, atEnd?,
          after?, List.map_cons]
        by_cases own : tag.close = close
        · rw [if_pos own, if_pos own]
          exact ih outer
        · rw [if_neg own, if_neg own]
          rfl
    | _ => exact ih stack

theorem wellNested_iff (events : List Event) :
    Event.WellNested events ↔ atEnd? [] (all events) = some [] := by
  rw [Event.WellNested, ← List.map_nil (f := Tag.close), ← map_close_openAtEnd, List.map_nil]
  cases Event.openAtEnd [] events <;> simp

theorem heightFrom_all (depth : Nat) (events : List Event) :
    heightFrom depth (all events) = Event.heightFrom depth events := by
  induction events generalizing depth with
  | nil => rfl
  | cons e rest ih =>
    rw [all_cons, Event.heightFrom]
    cases e with
    | start tag =>
      have deeper := le_heightFrom (depth + 1) (all rest)
      show heightFrom (depth + 1) (all rest) = max depth (Event.heightFrom (depth + 1) rest)
      rw [← ih]
      omega
    | stop close => exact congrArg (max depth) (ih (depth - 1))
    | _ =>
      have deeper := le_heightFrom depth (all rest)
      show heightFrom depth (all rest) = max depth (Event.heightFrom depth rest)
      rw [← ih]
      omega

end Mark

/-! ### Trees -/

namespace Node

mutual

/-- The greatest number of elements around each other in a node. -/
def height : Node → Nat
  | .element _ children => heightAll children + 1
  | _ => 0

/-- The height of the highest of several nodes. -/
def heightAll : List Node → Nat
  | [] => 0
  | node :: rest => max node.height (heightAll rest)

end

mutual

/-- The marks of a node. -/
def marks : Node → List Mark
  | .element tag children => .opens tag.close :: (marksAll children ++ [.closes tag.close])
  | _ => []

def marksAll : List Node → List Mark
  | [] => []
  | node :: rest => node.marks ++ marksAll rest

end

theorem all_push (out : Array Event) (e : Event) :
    Mark.all (out.push e).toList = Mark.all out.toList ++ (Mark.ofEvent? e).toList := by
  rw [Array.toList_push, Mark.all_append, Mark.all_cons]
  exact congrArg _ (List.append_nil _)

/-- A text that is joined to the one before it brings no mark, like any other. -/
theorem all_append (out : Array Event) (e : Event) :
    Mark.all (Event.append out e).toList = Mark.all out.toList ++ (Mark.ofEvent? e).toList := by
  cases e with
  | text t =>
    unfold Event.append
    dsimp only
    split
    next => exact (List.append_nil _).symm
    next =>
      split
      next s last =>
        obtain ⟨front, rfl⟩ := Array.back?_eq_some_iff.1 last
        rw [Array.pop_push, all_push, all_push]
        exact (List.append_nil _).symm
      next => exact all_push out _
  | _ => exact all_push out _

mutual

theorem all_emit (out : Array Event) :
    (node : Node) → Mark.all (emit out node).toList = Mark.all out.toList ++ node.marks
  | .element tag children => by
    rw [emit, all_push, all_emitAll _ children, all_push, marks, List.append_assoc, List.append_assoc]
    rfl
  | .text s => all_append out (.text s)
  | .code s => all_push out (.code s)
  | .inlineMath s => all_push out (.inlineMath s)
  | .displayMath s => all_push out (.displayMath s)
  | .html s => all_push out (.html s)
  | .inlineHtml s => all_push out (.inlineHtml s)
  | .softBreak => all_push out .softBreak
  | .hardBreak => all_push out .hardBreak
  | .rule => all_push out .rule
  | .task checked => all_push out (.task checked)

theorem all_emitAll (out : Array Event) :
    (nodes : List Node) → Mark.all (emitAll out nodes).toList = Mark.all out.toList ++ marksAll nodes
  | [] => (List.append_nil _).symm
  | node :: rest => by
    rw [emitAll, all_emitAll _ rest, all_emit out node, marksAll, List.append_assoc]

end

theorem all_events (nodes : List Node) : Mark.all (events nodes) = marksAll nodes :=
  all_emitAll #[] nodes

mutual

/-- A node ends what it starts. -/
theorem atEnd?_marks (pending : List TagEnd) (rest : List Mark) :
    (node : Node) → Mark.atEnd? pending (node.marks ++ rest) = Mark.atEnd? pending rest
  | .element tag children => by
    show Mark.atEnd? (tag.close :: pending) (marksAll children ++ [.closes tag.close] ++ rest) = _
    rw [List.append_assoc, atEnd?_marksAll _ _ children]
    simp [Mark.atEnd?, Mark.after?]
  | .text _ | .code _ | .inlineMath _ | .displayMath _ | .html _ | .inlineHtml _ | .softBreak
  | .hardBreak | .rule | .task _ => rfl

theorem atEnd?_marksAll (pending : List TagEnd) (rest : List Mark) :
    (nodes : List Node) → Mark.atEnd? pending (marksAll nodes ++ rest) = Mark.atEnd? pending rest
  | [] => rfl
  | node :: nodes => by
    rw [marksAll, List.append_assoc, atEnd?_marks _ _ node, atEnd?_marksAll _ _ nodes]

end

mutual

theorem heightFrom_marks (depth : Nat) (rest : List Mark) :
    (node : Node) → Mark.heightFrom depth (node.marks ++ rest) =
      max (depth + node.height) (Mark.heightFrom depth rest)
  | .element tag children => by
    show Mark.heightFrom (depth + 1) (marksAll children ++ [.closes tag.close] ++ rest) =
      max (depth + (heightAll children + 1)) _
    rw [List.append_assoc, heightFrom_marksAll _ _ children]
    show max (depth + 1 + heightAll children) (max (depth + 1) (Mark.heightFrom depth rest)) = _
    omega
  | .text _ | .code _ | .inlineMath _ | .displayMath _ | .html _ | .inlineHtml _ | .softBreak
  | .hardBreak | .rule | .task _ => (Nat.max_eq_right (Mark.le_heightFrom depth rest)).symm

theorem heightFrom_marksAll (depth : Nat) (rest : List Mark) :
    (nodes : List Node) → Mark.heightFrom depth (marksAll nodes ++ rest) =
      max (depth + heightAll nodes) (Mark.heightFrom depth rest)
  | [] => (Nat.max_eq_right (Mark.le_heightFrom depth rest)).symm
  | node :: nodes => by
    rw [marksAll, List.append_assoc, heightFrom_marks _ _ node, heightFrom_marksAll _ _ nodes,
      heightAll]
    omega

end

theorem wellNested_events (nodes : List Node) : Event.WellNested (events nodes) := by
  rw [Mark.wellNested_iff, all_events, ← List.append_nil (marksAll nodes), atEnd?_marksAll]
  rfl

/-- The height of a document, counted along its events, is that of its tree. -/
theorem height_events (nodes : List Node) : Event.height (events nodes) = heightAll nodes := by
  rw [Event.height, ← Mark.heightFrom_all, all_events, ← List.append_nil (marksAll nodes),
    heightFrom_marksAll, Mark.heightFrom, Nat.zero_add, Nat.max_zero]

end Node

end PagePress
