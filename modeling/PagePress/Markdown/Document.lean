import PagePress.Markdown.Inline
import PagePress.Markdown.Outline

/-!
# Documents

A text is read in two passes: the outline with its link definitions first, then the running text of
each block. The paragraphs directly in the items of a tight list are written without their own
element.
-/
namespace PagePress.Markdown

/-- What the blocks of a document are read against. -/
structure Source where
  text : Chars
  definitions : Definitions

namespace Source

/-- The nodes of running text that stands behind the given groups of braces, and the groups of
braces after it. -/
def leafAfter (source : Source) (braces : Braces) (leaf : Leaf) : List Node × Braces :=
  let (tokens, braces) := Tokens.ofLeaf source.text braces leaf
  ((⟨source.text, leaf, tokens, source.definitions⟩ : Scope).nodes, braces)

def leaf (source : Source) (leaf : Leaf) : List Node := (source.leafAfter {} leaf).1

/-- Running text, with the check box that may stand before it. -/
def labelled (source : Source) (task : Option Bool) (text : Leaf) : List Node :=
  (task.map Node.task).toList ++ source.leaf text

/-- A row of a table, brought to the right number of cells. -/
def row (source : Source) (columns : Nat) (braces : Braces) (cells : List Leaf) :
    List Node × Braces :=
  let (nodes, braces) := cells.foldl
    (fun (nodes, braces) cell =>
      let (children, braces) := source.leafAfter braces cell
      (nodes.push (Node.element .tableCell children), braces))
    (#[], braces)
  let missing := List.replicate (columns - nodes.size) (Node.element .tableCell [])
  ((nodes.take columns).toList ++ missing, braces)

/-- A table. The braces of its first line count before those of its cells, because that line was
read as text before the table was known. -/
def table (source : Source) (table : Table) : Node :=
  let columns := table.alignments.length
  let braces := (Tokens.ofLeaf source.text {} table.firstLine).2
  let (rows, _) := table.rows.foldl
    (fun (rows, braces) cells =>
      let (nodes, braces) := source.row columns braces cells
      let tag := if rows.isEmpty then Tag.tableHead else .tableRow
      (rows.push (Node.element tag nodes), braces))
    ((#[] : Array Node), braces)
  .element (.table table.alignments) rows.toList

mutual

/-- The nodes of a block; `tight` if it stands directly in an item of a tight list. -/
def block (source : Source) (tight : Bool) : Block → List Node
  | .paragraph task text =>
    let children := source.labelled task text
    if tight then children else [.element .paragraph children]
  | .heading level task text =>
    [.element (.heading level none []) (source.labelled task text)]
  | .rule => [.rule]
  | .code info text => [.element (.codeBlock info) [.text text]]
  | .html lines =>
    [.element .htmlBlock
      (lines.flatMap fun line => [.text ("".pushn ' ' line.columns), .html line.text])]
  | .table table => [source.table table]
  | .task checked => [.task checked]
  | .quote blocks => [.element (.blockquote none) (source.blocks false blocks)]
  | .list start tight items => [.element (.list start) (source.blocks tight items)]
  | .item blocks => [.element .item (source.blocks tight blocks)]

def blocks (source : Source) (tight : Bool) : List Block → List Node
  | [] => []
  | b :: rest => source.block tight b ++ source.blocks tight rest

end

end Source

/-- The nodes of a document. -/
def nodes (text : String) : List Node :=
  let text := text.toList.toArray
  let (blocks, definitions) := Outline.ofText text
  (⟨text, definitions⟩ : Source).blocks false blocks

/-- The events of a document. -/
def events (text : String) : List Event := Node.events (nodes text)

end PagePress.Markdown
