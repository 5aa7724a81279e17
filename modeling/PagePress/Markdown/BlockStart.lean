import PagePress.Markdown.Margin
import PagePress.Markdown.RawHtml
import PagePress.Markup.Event

/-!
# How blocks start

What a line has to begin with, its margin taken away, to start a block, and which of these starts
also end a paragraph that stands before them.
-/
namespace PagePress.Markdown.BlockStart

/-- One to six number signs, then white space or the end of the text. -/
def heading? (s : Chars) (i : Nat) : Option (Level × Nat) :=
  let stop := s.skipRun '\x23' i
  if (s[stop]?.map Text.isAsciiBlank).getD true then (Level.ofNat? (stop - i)).map (·, stop)
  else none

/-- A line of equals signs or of hyphens makes the text above it a heading. -/
def underline? (s : Chars) (i : Nat) : Option (Level × Nat) := do
  let c ← s[i]?
  let level ← if c == '=' then Level.ofNat? 1 else if c == '-' then Level.ofNat? 2 else none
  let next ← s.blankLine? (s.skipRun c i)
  return (level, next)

/-- A fence of at least three backticks or tildes. No other backtick may follow backticks. -/
def fence? (s : Chars) (i : Nat) : Option (Char × Nat) :=
  match s[i]? with
  | none => none
  | some c =>
    if c == '\x60' || c == '~' then
      let stop := s.skipRun c i
      if stop - i < 3 then none
      else if c == '\x60' && (s.extract stop (s.nextLine stop)).contains '\x60' then none
      else some (c, stop)
    else none

/-- The state of reading a delimiter row: the finished columns, the alignment of the open one,
whether it is still empty, and what has been seen. -/
structure DelimiterRow where
  columns : Array Alignment := #[]
  alignment : Alignment := .unset
  untouched : Bool := true
  sawBar : Bool := false
  sawHyphen : Bool := false
  hyphenInColumn : Bool := false

/-- One character of a delimiter row; a column without a hyphen refuses it. -/
def DelimiterRow.read? (row : DelimiterRow) (c : Char) : Option DelimiterRow :=
  if c == ' ' then some row
  else if c == ':' then
    let alignment := match row.untouched, row.alignment with
      | true, .unset => .left
      | false, .left => .center
      | false, .unset => .right
      | _, a => a
    some { row with alignment, untouched := false }
  else if c == '-' then
    some { row with untouched := false, sawHyphen := true, hyphenInColumn := true }
  else if c == '|' then
    if row.hyphenInColumn then
      some { row with columns := row.columns.push row.alignment, alignment := .unset,
                      untouched := true, sawBar := true, hyphenInColumn := false }
    else none
  else none

/-- The row of a table that tells its alignments apart from its body. It needs a bar and a hyphen.
Answers the alignments and the next line. -/
def delimiterRow? (s : Chars) (m : Margin) : Option (List Alignment × Nat) :=
  let (m, columns) := m.columnsUpTo s 4
  if 3 < columns || s.size ≤ m.position then none
  else
    let leadingBar := s[m.position]? == some '|'
    let start := if leadingBar then m.position + 1 else m.position
    let stop := s.lineStop start
    let initial : DelimiterRow := { sawBar := leadingBar }
    match (s.extract start stop).foldl (fun row c => row.bind (·.read? c)) (some initial) with
    | none => none
    | some row =>
      let alignments := if row.untouched then row.columns else row.columns.push row.alignment
      if row.sawBar && row.sawHyphen then
        (s.lineEnding? stop).map (alignments.toList, ·)
      else none

/-- How many columns a header line has: one more than the bars inside it. -/
def headerColumns (s : Chars) (start bars lastBar : Nat) : Nat :=
  let inner := if s[s.skipInlineBlanks start]? == some '|' then bars - 1 else bars
  if (s.blankLine? (lastBar + 1)).isSome then inner else inner + 1

/-- The bars of the line at `i` that no backslash stands before: their number, the last of them,
and the end of the line. -/
def countBars (s : Chars) (i : Nat) : Nat × Nat × Nat :=
  let stop := s.lineStop i
  let (bars, last, _) := (List.range' i (stop - i)).foldl
    (fun (bars, last, escaped) k =>
      match s[k]? with
      | some '\\' => (bars, last, true)
      | some '|' => if escaped then (bars, last, false) else (bars + 1, k, false)
      | _ => (bars, last, false))
    (0, 0, false)
  (bars, last, stop)

/-- Whether the line at `i` begins with a bar and heads a table. -/
def table (s : Chars) (containers : List Container) (i : Nat) : Bool :=
  if s[i]? == some '|' then
    let (bars, last, stop) := countBars s i
    match s.lineEnding? stop with
    | none => false
    | some next =>
      let (m, matched) := (Margin.atLineStart next).matchContainers s containers
      stop < s.size && matched == containers.length &&
        match delimiterRow? s m with
        | some (alignments, _) => alignments.length == headerColumns s i bars last
        | none => false
  else false

/-- Whether an item mark at `i` ends a paragraph. Inside the containers of the paragraph the item
must have content within two lines, and an ordered one must be number one. -/
def item (s : Chars) (inContainers inTable : Bool) (i : Nat) : Bool :=
  match s[i]? with
  | none => false
  | some c =>
    if c == '-' || c == '+' || c == '*' then after (i + 1) true
    else if c.isDigit then
      let stop := s.skipWhile Char.isDigit i
      if stop - i ≤ 9 && (s[stop]? == some '.' || s[stop]? == some ')') then
        after (stop + 1) ((s.slice i stop).toNat? == some 1)
      else false
    else false
where
  after (stop : Nat) (first : Bool) : Bool :=
    let space := (s[stop]?.map fun c => c == ' ' || c == '\t' || c == '\n' || c == '\r').getD true
    let empty := ((s.blankLine? stop).bind s.blankLine?).isSome
    space && (!inContainers || inTable || (first && !empty))

/-- Whether a block other than a table starts at `i` and may end a paragraph. -/
def interruptsRow (s : Chars) (inContainers inTable : Bool) (i : Nat) : Bool :=
  (s.lineEnding? i).isSome
    || (thematicBreak? s i).isSome
    || (heading? s i).isSome
    || (fence? s i).isSome
    || s[i]? == some '>'
    || item s inContainers inTable i
    || (s[i]? == some '<' && ((RawHtml.closer? s i).isSome || RawHtml.startsBlockElement s i))

/-- Whether a block starts at `i` that ends the paragraph before it. -/
def interrupts (s : Chars) (containers : List Container) (inContainers : Bool) (i : Nat) : Bool :=
  interruptsRow s inContainers false i || table s containers i

end PagePress.Markdown.BlockStart
