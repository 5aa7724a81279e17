import PagePress.Markup.Event

/-!
# Documents as trees

The tree form of a document. Writing a tree out as events puts the start and the end of every
element in its place, so the events of a tree always match up.
-/
namespace PagePress

inductive Node where
  | text (s : String)
  | code (s : String)
  | inlineMath (s : String)
  | displayMath (s : String)
  | html (s : String)
  | inlineHtml (s : String)
  | softBreak
  | hardBreak
  | rule
  | task (checked : Bool)
  | element (tag : Tag) (children : List Node)

namespace Node

mutual

/-- Adds the events of a node. -/
def emit (out : Array Event) : Node → Array Event
  | .text s => Event.append out (.text s)
  | .code s => out.push (.code s)
  | .inlineMath s => out.push (.inlineMath s)
  | .displayMath s => out.push (.displayMath s)
  | .html s => out.push (.html s)
  | .inlineHtml s => out.push (.inlineHtml s)
  | .softBreak => out.push .softBreak
  | .hardBreak => out.push .hardBreak
  | .rule => out.push .rule
  | .task checked => out.push (.task checked)
  | .element tag children => (emitAll (out.push (.start tag)) children).push (.stop tag.close)

/-- Adds the events of several nodes in turn. -/
def emitAll (out : Array Event) : List Node → Array Event
  | [] => out
  | node :: rest => emitAll (emit out node) rest

end

/-- The events of a document. Texts that stand side by side are one event. -/
def events (nodes : List Node) : List Event := (emitAll #[] nodes).toList

end Node

end PagePress
