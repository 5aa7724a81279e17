import PagePress.Markdown.Margin
import PagePress.Markup.Event
import Std.Data.HashMap

/-!
# The blocks of a document

The tree of blocks before the text in them is read. Running text is kept as the lines of the source
it came from, because link definitions further down may still decide what it means.
-/
namespace PagePress.Markdown

/-- How a line of running text goes over into the next one. -/
inductive LineBreak where
  | soft
  | hard
  | backslash
  deriving DecidableEq, Repr

/-- A line of running text, without its margin and the white space at its end. `next` is where the
line after it starts, and `lineBreak` is absent in the last line. -/
structure Line where
  start : Nat
  stop : Nat
  next : Nat
  lineBreak : Option LineBreak

/-- The line as the last of its paragraph: a backslash at its end is text. -/
def Line.asLast (line : Line) : Line :=
  let stop := if line.lineBreak == some .backslash then line.stop + 1 else line.stop
  { line with stop, lineBreak := none }

/-- Running text: its lines, the containers whose marks stand before them, and the position after
the block. -/
structure Leaf where
  containers : List Container
  lines : List Line
  stop : Nat
  inTable : Bool

/-- A line of an HTML block and the columns of white space to put before it. -/
structure HtmlLine where
  columns : Nat
  text : String

/-- A table: its alignments, its first line as running text, and its rows with the head first. A
row may have more cells than the table has columns. -/
structure Table where
  alignments : List Alignment
  firstLine : Leaf
  rows : List (List Leaf)

inductive Block where
  | paragraph (task : Option Bool) (text : Leaf)
  | heading (level : Level) (task : Option Bool) (text : Leaf)
  | rule
  | code (info : Option String) (text : String)
  | html (lines : List HtmlLine)
  | table (table : Table)
  | task (checked : Bool)
  | quote (blocks : List Block)
  | list (start : Option Nat) (tight : Bool) (items : List Block)
  | item (blocks : List Block)

/-- What a link definition gives to the links that name it. -/
structure Definition where
  destination : String
  title : String

/-- The link definitions of a document by their labels, letter case made even. -/
abbrev Definitions := Std.HashMap String Definition

end PagePress.Markdown
