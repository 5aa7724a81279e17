import PagePress.Markdown.Block
import PagePress.Markdown.BlockStart
import PagePress.Markdown.Link
import PagePress.Text.Folding

/-!
# The outline of a document

Source text is read line by line into a tree of blocks and a table of link definitions. The state
between two lines is the stack of open containers with the blocks that each of them holds so far.
A reading step answers the new state and the position of the next line.
-/
namespace PagePress.Markdown

/-- An open container and the blocks in it, the last one first. A list is tight as long as no blank
line stands between the blocks of its items. -/
structure Frame where
  container : Container
  tight : Bool
  blocks : List Block

/-- The block that a container becomes when it is closed. -/
def Frame.close (frame : Frame) : Block :=
  let blocks := frame.blocks.reverse
  match frame.container with
  | .quote => .quote blocks
  | .item _ => .item blocks
  | .list mark number =>
    .list (if mark == '.' || mark == ')' then some number else none) frame.tight blocks

/-- Makes a list loose. -/
def Frame.loosen (frame : Frame) : Frame :=
  match frame.container with
  | .list .. => { frame with tight := false }
  | _ => frame

/-- The state between two lines. The frames stand innermost first. `afterBlank` says that the last
line was blank, `emptyItem` that the innermost item has no content yet, and `task` is a check box
that waits for its paragraph. -/
structure Outline where
  frames : List Frame := []
  blocks : List Block := []
  definitions : Definitions := {}
  afterBlank : Bool := false
  emptyItem : Bool := false
  task : Option Bool := none

namespace Outline

/-- The open containers, outermost first. -/
def containers (o : Outline) : List Container := (o.frames.map Frame.container).reverse

def append (o : Outline) (block : Block) : Outline :=
  match o.frames with
  | [] => { o with blocks := block :: o.blocks }
  | frame :: rest => { o with frames := { frame with blocks := block :: frame.blocks } :: rest }

def enter (o : Outline) (container : Container) : Outline :=
  { o with frames := ⟨container, true, []⟩ :: o.frames }

/-- Closes the innermost container. -/
def leave (o : Outline) : Outline :=
  match o.frames with
  | [] => o
  | frame :: rest =>
    let o := { o with frames := rest }.append frame.close
    match frame.container with
    | .list .. => if frame.tight then { o with emptyItem := false } else o
    | _ => o

/-- Closes containers until `n` of them are left. -/
def leaveTo (o : Outline) (n : Nat) : Outline :=
  (List.range (o.frames.length - n)).foldl (fun o _ => o.leave) o

def inItem (o : Outline) : Bool :=
  match o.frames with
  | { container := .item _, .. } :: _ => true
  | _ => false

def inList (o : Outline) : Bool :=
  match o.frames with
  | { container := .list .., .. } :: _ => true
  | _ => false

/-- An item that starts with a blank line ends with it. -/
def finishEmptyItem (o : Outline) : Outline :=
  let o := if o.emptyItem && o.afterBlank && o.inItem then o.leave else o
  { o with emptyItem := false }

/-- Closes a list in which no further item starts. A blank line before a block that goes on inside
an item makes the list of that item loose. -/
def finishList (o : Outline) : Outline :=
  let o := o.finishEmptyItem
  let o := if o.inList then o.leave else o
  if o.afterBlank then
    let frames := match o.frames with
      | inner :: outer :: rest => inner :: outer.loosen :: rest
      | frames => frames
    { o with frames, afterBlank := false }
  else o

/-- Goes on with the innermost list if it has the same mark, and starts a new one otherwise. -/
def continueList (o : Outline) (mark : Char) (number : Nat) : Outline :=
  let o := o.finishEmptyItem
  let start (o : Outline) := { o.enter (.list mark number) with afterBlank := false }
  match o.frames with
  | [] => start o
  | frame :: rest =>
    match frame.container with
    | .list mark' _ =>
      if mark' == mark then
        if o.afterBlank then
          { o with frames := { frame with tight := false } :: rest, afterBlank := false }
        else o
      else start o.finishList
    | _ => start o.finishList

/-- A blank line. In a quote it is only the end of a paragraph; an item that has nothing but blank
lines takes no more lines by their indent. -/
def blank (o : Outline) : Outline :=
  match o.frames with
  | { container := .quote, .. } :: _ => o
  | frame :: rest =>
    match frame.container with
    | .item _ =>
      if o.emptyItem then
        { o with frames := { frame with container := .item 0 } :: rest, afterBlank := true }
      else { o with afterBlank := true }
    | _ => { o with afterBlank := true }
  | [] => { o with afterBlank := true }

/-- Where the marks at the start of a line lead: to the end of the line, or to the margin of a
block inside the containers. -/
inductive Entrance where
  | nothing (o : Outline) (next : Nat)
  | block (o : Outline) (m : Margin)

/-- Opens the containers whose marks stand at the margin, up to four columns in. -/
def openContainers (s : Chars) : Nat → Outline → Margin → Entrance
  | 0, o, m => .block o m
  | fuel + 1, o, m =>
    let (inner, columns) := m.columnsUpTo s 4
    if columns == 4 then .block o m
    else
      match ItemMark.scan? s inner columns with
      | some (mark, after) =>
        let o := (o.continueList mark.mark mark.number).enter (.item mark.indent)
        match s.blankLine? after.position with
        | some next => .nothing { o with emptyItem := true } next
        | none =>
          match taskMark? s after with
          | none => openContainers s fuel o after
          | some (checked, text) =>
            match s.blankLine? text.position with
            | some next => .nothing { o.append (.task checked) with emptyItem := true } next
            | none => openContainers s fuel { o with task := some checked } text
      | none =>
        match inner.quoteMark? s with
        | some after => openContainers s fuel (o.finishList.enter .quote) after
        | none => .block o m

/-! ### Code -/

/-- A line of code with the spaces that stand for the unused part of a tab. A carriage return
before the last character is dropped, so that a line ends with a line feed alone. -/
def codeLine (s : Chars) (spare first last : Nat) : String :=
  let text :=
    if s[last - 2]? == some '\r' && 2 ≤ last then
      s.slice first (last - 2) ++ s.slice (last - 1) last
    else s.slice first last
  "".pushn ' ' spare ++ text

/-- Goes through the lines of indented code. `out` and `trimmed` are the text with and without the
blank lines at its end. Answers the text, the position after it, and whether its last line was
blank. -/
def indentedLines (s : Chars) (containers : List Container) :
    Nat → Nat → Nat → Bool → String → String → String × Nat × Bool
  | 0, _, i, blank, _, trimmed => (trimmed, i, blank)
  | fuel + 1, spare, i, blank, out, trimmed =>
    let next := s.nextLine i
    let out := out ++ codeLine s spare i next
    let trimmed := if blank then trimmed else out
    let (m, matched) := (Margin.atLineStart next).matchContainers s containers
    let (m, indented) := m.hasColumns s 4
    if matched < containers.length || !(indented || m.atLineStop s) || m.position == s.size then
      (trimmed, next, blank)
    else
      let blank := (s.blankLine? m.position).isSome
      indentedLines s containers fuel m.spare m.position blank out trimmed

def indentedCode (s : Chars) (o : Outline) (m : Margin) : Outline × Nat :=
  let (text, next, blank) :=
    indentedLines s o.containers (s.size + 1) m.spare m.position false "" ""
  ({ o.append (.code none text) with afterBlank := blank }, next)

/-- The end of a closing fence: at least as many marks as opened the block, and spaces. -/
def closingFence? (s : Chars) (mark : Char) (count i : Nat) : Option Nat :=
  if i == s.size then some i
  else
    let stop := s.skipRun mark i
    if stop - i < count then none
    else
      let last := s.skipRun ' ' stop
      (s.lineEnding? last).map fun _ => last

/-- Goes through the lines of a fenced block, from the one after the opening fence on. -/
def fencedLines (s : Chars) (containers : List Container) (indent : Nat) (mark : Char)
    (count : Nat) : Nat → Nat → String → String × Nat
  | 0, i, out => (out, i)
  | fuel + 1, i, out =>
    let (m, matched) := (Margin.atLineStart i).matchContainers s containers
    if matched < containers.length then (out, i)
    else
      let m := (m.hasColumns s indent).1
      let (fence, tooDeep) := m.hasColumns s (4 - indent)
      match if tooDeep then none else closingFence? s mark count fence.position with
      | some stop => (out, (s.blankLine? stop).getD stop)
      | none =>
        let next := s.nextLine m.position
        fencedLines s containers indent mark count fuel next
          (out ++ codeLine s m.spare m.position next)

/-- A fenced block. Its info string is what follows the fence on the line. -/
def fencedCode (s : Chars) (o : Outline) (i indent : Nat) (mark : Char) (fenceStop : Nat) :
    Outline × Nat :=
  let first := s.skipInlineBlanks fenceStop
  let next := s.nextLine first
  let info := unescape s false first (s.skipBack Text.isAsciiBlank first next)
  let (text, stop) :=
    fencedLines s o.containers indent mark (fenceStop - i) (s.size + 1) next ""
  (o.append (.code (some info) text), stop)

/-! ### HTML -/

/-- Where an HTML block ends: with the line that has the closing text in it, or before a blank
line. -/
inductive HtmlEnd where
  | closer (text : String)
  | blankLine

/-- Goes through the lines of an HTML block. -/
def htmlLines (s : Chars) (containers : List Container) (until_ : HtmlEnd) :
    Nat → Nat → Nat → List HtmlLine → List HtmlLine × Nat
  | 0, _, i, lines => (lines.reverse, i)
  | fuel + 1, columns, i, lines =>
    let next := s.nextLine i
    let lines := ⟨columns, codeLine s 0 i next⟩ :: lines
    let (m, matched) := (Margin.atLineStart next).matchContainers s containers
    let ended := match until_ with
      | .closer text => (s.find? text i next).isSome
      | .blankLine => (s.blankLine? m.position).isSome
    if matched < containers.length || ended || m.position == s.size then (lines.reverse, next)
    else htmlLines s containers until_ fuel m.spare m.position lines

/-- The HTML block that starts at `i`, if one does. -/
def htmlEnd? (s : Chars) (i : Nat) : Option HtmlEnd :=
  if s[i]? == some '<' then
    match RawHtml.closer? s i with
    | some text => some (.closer text)
    | none =>
      if RawHtml.startsBlockElement s i || RawHtml.isTagLine s i then some .blankLine else none
  else none

/-! ### Headings, definitions, tables and paragraphs -/

/-- The end of the text of a heading, without the number signs that may close it. -/
def headingStop (s : Chars) (first last : Nat) : Nat :=
  let stop := s.skipBack (fun c => c == '\n' || c == '\r' || c == ' ') first last
  let closer := s.skipBack (· == '\x23') first stop
  if closer ≤ first then first
  else
    let space := s.skipBack (· == ' ') first closer
    if space < closer then space else stop

def heading (s : Chars) (o : Outline) (level : Level) (i : Nat) : Outline × Nat :=
  match s.lineEnding? i with
  | some next => (o.append (.heading level none ⟨o.containers, [], next, false⟩), next)
  | none =>
    let first := s.skipInlineBlanks i
    let stop := s.lineStop first
    let next := (s.lineEnding? stop).getD stop
    let line : Line := ⟨first, headingStop s first stop, next, none⟩
    (o.append (.heading level none ⟨o.containers, [line], next, false⟩), next)

/-- Where running text goes on after a line end inside a link definition: behind the margin of the
next line, unless another block starts there. -/
def continuation? (s : Chars) (containers : List Container) (i : Nat) : Option Margin :=
  let (m, matched) := (Margin.atLineStart i).matchContainers s containers
  let inside := matched == containers.length
  let (text, deep) := m.hasColumns s 4
  if deep then some text
  else if BlockStart.interrupts s containers inside text.position
      || (inside && (BlockStart.underline? s text.position).isSome) then none
  else some text

/-- White space with at most one line end between the parts of a definition, and how many line ends
it has. -/
def definitionSpace? (s : Chars) (containers : List Container) (i : Nat) : Option (Nat × Nat) :=
  go 2 i 0
where
  go : Nat → Nat → Nat → Option (Nat × Nat)
    | 0, _, _ => none
    | fuel + 1, i, lines =>
      let stop := s.skipInlineBlanks i
      if s.size ≤ stop then none
      else
        match s.lineEnding? stop with
        | none => some (stop, lines)
        | some next =>
          let (m, matched) := (Margin.atLineStart next).matchContainers s containers
          if matched == containers.length then go fuel m.position (lines + 1) else none

/-- A link definition that starts at `i`: its label, what it defines, and the position after it. A
title that does not end its line is no title, and then the destination must end its own. -/
def definition? (s : Chars) (containers : List Container) (i : Nat) :
    Option (String × Definition × Nat) := do
  let (label, colon) ←
    Link.label? s false (fun k => (continuation? s containers k).map Margin.position) i
  if s[colon]? != some ':' then none
  else
    let (first, _) ← definitionSpace? s containers (colon + 1)
    let (span, stop) ← Link.destination? s 1 first
    if stop == first then none
    else
      let plain : Definition := ⟨unescape s false span.start span.stop, ""⟩
      match definitionSpace? s containers stop with
      | none => some (label, plain, stop)
      | some (next, lines) =>
        if next == stop && lines == 0 then none
        else
          let untitled := if 0 < lines then some (label, plain, stop) else none
          match Link.definitionTitle? s (titleLine? s containers) next with
          | none => untitled
          | some (title, last) =>
            if (s.blankLine? last).isSome then
              let title := title.toArray
              some (label, { plain with title := unescape title false 0 title.size }, last)
            else untitled
where
  titleLine? (s : Chars) (containers : List Container) (k : Nat) : Option Nat := do
    let m ← continuation? s containers k
    let text := (m.skipSpaces s).position
    if (s.blankLine? text).isSome then none else some text

/-- The end of the cell at `i`: a bar that no backslash stands before, or the end of the line. -/
def cellStop (s : Chars) : Nat → Nat → Nat
  | 0, i => i
  | fuel + 1, i =>
    match s[i]? with
    | none => i
    | some c =>
      if c == '|' || c == '\n' || c == '\r' then i
      else if c == '\\' && escapes s i then
        if s[i + 1]? == some '\x60' then cellStop s fuel (s.skipRun '\x60' (i + 1))
        else if s.startsAt "\\|" (i + 1) then cellStop s fuel (i + 3)
        else cellStop s fuel (i + 2)
      else cellStop s fuel (i + 1)

/-- The cells of the row at `i`, and the next line. -/
def cells (s : Chars) (containers : List Container) : Nat → Nat → List Leaf → List Leaf × Nat
  | 0, i, out => (out.reverse, i)
  | fuel + 1, i, out =>
    let first := s.skipInlineBlanks (if s[i]? == some '|' then i + 1 else i)
    match s.lineEnding? first with
    | some next => (out.reverse, next)
    | none =>
      let stop := cellStop s (s.size + 1) first
      let line : Line := ⟨first, s.skipBack Text.isInlineBlank first stop, stop, none⟩
      cells s containers fuel stop (⟨containers, [line], stop, true⟩ :: out)

/-- A table fills in no more empty cells than this. -/
def maxFilledCells : Nat := Nat.pow 2 18

/-- The rows of a table from the line at `i` on. A line without cells ends it, and so does one that
starts another block. -/
def rows (s : Chars) (containers : List Container) (columns : Nat) :
    Nat → Nat → Nat → List (List Leaf) → List (List Leaf) × Nat
  | 0, i, _, out => (out.reverse, i)
  | fuel + 1, i, filled, out =>
    let (m, matched) := (Margin.atLineStart i).matchContainers s containers
    let first := (m.skipSpaces s).position
    if matched < containers.length || BlockStart.interruptsRow s true true first then
      (out.reverse, i)
    else
      let (row, next) := cells s containers (s.size + 1) first []
      let filled := filled + (columns - row.length)
      if row.isEmpty || maxFilledCells < filled then (out.reverse, i)
      else rows s containers columns fuel next filled (row :: out)

/-- The alignments of a table that the line at `i` heads, and its third line. -/
def tableHead? (s : Chars) (containers : List Container) (i : Nat) :
    Option (List Alignment × Nat) :=
  let (count, last, stop) := BlockStart.countBars s i
  if 0 < count && stop < s.size then do
    let next ← s.lineEnding? stop
    let (m, matched) := (Margin.atLineStart next).matchContainers s containers
    let (alignments, body) ← BlockStart.delimiterRow? s m
    if matched == containers.length && alignments.length == BlockStart.headerColumns s i count last
    then some (alignments, body)
    else none
  else none

/-- How the line from `i` to `stop` goes over into the next one. An odd number of backslashes at
its end breaks it, and so do two blanks; at the end of the text nothing does. -/
def lineBreak (s : Chars) (i stop : Nat) : Line :=
  let next := (s.lineEnding? stop).getD stop
  let slashes := stop - s.skipBack (· == '\\') i stop
  let text := s.skipBack Text.isInlineBlank i stop
  if stop == s.size then ⟨i, text, next, none⟩
  else if slashes % 2 == 1 && next < s.size then ⟨i, stop - 1, next, some .backslash⟩
  else if 2 ≤ stop - text then ⟨i, text, next, some .hard⟩
  else ⟨i, text, next, some .soft⟩

/-- The lines of a paragraph that ends with `line`; the lines before it stand last one first. -/
def endLines (line : Line) (lines : List Line) : List Line := (line.asLast :: lines).reverse

/-- The lines of the paragraph from `i` on, the level of the heading that an underline makes of
them, and the position after the block. -/
def paragraphLines (s : Chars) (containers : List Container) :
    Nat → Nat → List Line → List Line × Option Level × Nat
  | 0, i, lines => (lines.reverse, none, i)
  | fuel + 1, i, lines =>
    let line := lineBreak s i (s.lineStop i)
    let next := line.next
    let (m, matched) := (Margin.atLineStart next).matchContainers s containers
    let inside := matched == containers.length
    let (text, deep) := m.hasColumns s 4
    let underline := if !deep && inside then BlockStart.underline? s text.position else none
    match underline with
    | some (level, after) => (endLines line lines, some level, after)
    | none =>
      let text' := text.skipSpaces s
      if !deep && BlockStart.interrupts s containers inside text.position || text'.atLineStop s then
        (endLines line lines, none, next)
      else paragraphLines s containers fuel text'.position (line :: lines)

/-- A table, or else a paragraph or the heading that an underline makes of it. A waiting check box
goes into the paragraph. -/
def paragraph (s : Chars) (o : Outline) (i : Nat) : Outline × Nat :=
  let containers := o.containers
  let task := o.task
  let o := { o with task := none }
  match tableHead? s containers i with
  | some (alignments, body) =>
    let firstLine : Leaf := ⟨containers, [(lineBreak s i (s.lineStop i)).asLast], body, false⟩
    let (head, _) := cells s containers (s.size + 1) i []
    let (rest, next) := rows s containers alignments.length (s.size + 1) body 0 []
    (o.append (.table ⟨alignments, firstLine, head :: rest⟩), next)
  | none =>
    let (lines, level, next) := paragraphLines s containers (s.size + 1) i []
    let text : Leaf := ⟨containers, lines, next, false⟩
    match level with
    | some level => (o.append (.heading level task text), next)
    | none => (o.append (.paragraph task text), next)

/-- The block that starts at the margin `m`, which is `columns` columns in; `spare` columns of the
tab before it are unused. -/
def leaf (s : Chars) (o : Outline) (m : Margin) (spare columns : Nat) : Outline × Nat :=
  let i := m.position
  let o := o.finishList
  match htmlEnd? s i with
  | some until_ =>
    let (lines, next) := htmlLines s o.containers until_ (s.size + 1) (max spare columns) i []
    (o.append (.html lines), next)
  | none =>
    match thematicBreak? s i with
    | some next => (o.append .rule, next)
    | none =>
      match BlockStart.heading? s i with
      | some (level, text) => heading s o level text
      | none =>
        match definition? s o.containers i with
        | some (label, definition, stop) =>
          let definitions := o.definitions.insertIfNew (Text.fold label) definition
          ({ o with definitions }, (s.blankLine? stop).getD stop)
        | none =>
          match BlockStart.fence? s i with
          | some (mark, stop) => fencedCode s o i columns mark stop
          | none => paragraph s o i

/-- Reads the block that starts with the line at `i`. -/
def step (s : Chars) (o : Outline) (i : Nat) : Outline × Nat :=
  let (m, matched) := (Margin.atLineStart i).matchContainers s o.containers
  match openContainers s (s.size + 1) (o.leaveTo matched) m with
  | .nothing o next => (o, next)
  | .block o m =>
    match s.blankLine? m.position with
    | some next => (o.blank, next)
    | none =>
      let (inner, columns) := m.columnsUpTo s 4
      if columns == 4 then indentedCode s o.finishList inner
      else leaf s o inner m.spare columns

/-- Reads blocks until the text ends. Every step goes forward, so its length is enough fuel. -/
def read (s : Chars) : Nat → Outline → Nat → Outline
  | 0, o, _ => o
  | fuel + 1, o, i =>
    if i < s.size then
      let (o, next) := o.step s i
      read s fuel o next
    else o

/-- The blocks of a text and its link definitions. -/
def ofText (s : Chars) : List Block × Definitions :=
  let o := (read s (s.size + 1) {} 0).leaveTo 0
  (o.blocks.reverse, o.definitions)

end Outline

end PagePress.Markdown
