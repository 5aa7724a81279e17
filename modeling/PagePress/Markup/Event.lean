/-!
# Documents as events

A document is a flat list of events: text and other leaves, and the starts and ends of the elements
around them. Nothing here demands that starts and ends match up; `height` counts the open elements
even where they do not.
-/
namespace PagePress

/-- The level of a heading, from one to six. -/
structure Level where
  val : Nat
  one_le : 1 ≤ val := by omega
  le_six : val ≤ 6 := by omega
  deriving DecidableEq, Repr

def Level.ofNat? (n : Nat) : Option Level :=
  if h : 1 ≤ n ∧ n ≤ 6 then some ⟨n, h.1, h.2⟩ else none

inductive Alignment where
  | unset | left | center | right
  deriving DecidableEq, Repr

inductive QuoteKind where
  | note | tip | important | warning | caution
  deriving DecidableEq, Repr

/-- How a link was written. -/
inductive LinkKind where
  | inline | reference | collapsed | shortcut | autolink | email
  deriving DecidableEq, Repr

inductive Tag where
  | paragraph
  | heading (level : Level) (id : Option String) (classes : List String)
  | blockquote (kind : Option QuoteKind)
  | codeBlock (info : Option String)
  | htmlBlock
  | list (start : Option Nat)
  | item
  | table (alignments : List Alignment)
  | tableHead
  | tableRow
  | tableCell
  | emphasis
  | strong
  | strikethrough
  | link (kind : LinkKind) (destination title id : String)
  | image (kind : LinkKind) (destination title id : String)
  deriving DecidableEq, Repr

inductive TagEnd where
  | paragraph
  | heading (level : Level)
  | blockquote (kind : Option QuoteKind)
  | codeBlock
  | htmlBlock
  | list (ordered : Bool)
  | item
  | table
  | tableHead
  | tableRow
  | tableCell
  | emphasis
  | strong
  | strikethrough
  | link
  | image
  deriving DecidableEq, Repr

/-- The end that belongs to a start. -/
def Tag.close : Tag → TagEnd
  | .paragraph => .paragraph
  | .heading level _ _ => .heading level
  | .blockquote kind => .blockquote kind
  | .codeBlock _ => .codeBlock
  | .htmlBlock => .htmlBlock
  | .list start => .list start.isSome
  | .item => .item
  | .table _ => .table
  | .tableHead => .tableHead
  | .tableRow => .tableRow
  | .tableCell => .tableCell
  | .emphasis => .emphasis
  | .strong => .strong
  | .strikethrough => .strikethrough
  | .link .. => .link
  | .image .. => .image

inductive Event where
  | start (tag : Tag)
  | stop (tag : TagEnd)
  | text (s : String)
  | code (s : String)
  | inlineMath (s : String)
  | displayMath (s : String)
  | html (s : String)
  | inlineHtml (s : String)
  | softBreak
  | hardBreak
  | rule
  | task (checked : Bool)
  deriving DecidableEq, Repr

namespace Event

/-- One more event at the end. Text that follows text is joined to it, and empty text is dropped. -/
def append (events : Array Event) : Event → Array Event
  | .text t =>
    if t.isEmpty then events
    else
      match events.back? with
      | some (.text s) => events.pop.push (.text (s ++ t))
      | _ => events.push (.text t)
  | e => events.push e

/-- One step of the nesting count: a stray end at the outside counts for nothing. -/
def depthAfter (depth : Nat) : Event → Nat
  | .start _ => depth + 1
  | .stop _ => depth - 1
  | _ => depth

/-- The greatest number of elements open at once, beginning at `depth` open ones. -/
def heightFrom (depth : Nat) : List Event → Nat
  | [] => depth
  | e :: rest => max depth (heightFrom (e.depthAfter depth) rest)

def height (events : List Event) : Nat := heightFrom 0 events

end Event

end PagePress
