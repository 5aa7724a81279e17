import PagePress.Markdown.Scan

/-!
# The margin of a line

Reading the white space and the container marks at the start of a line. A tab reaches to the next
column that is a multiple of four and may be used up in parts, so a margin remembers how many
columns of the last tab are still unused.
-/
namespace PagePress.Markdown

/-- A block that holds other blocks, seen from one of its lines. -/
inductive Container where
  | quote
  | list (mark : Char) (start : Nat)
  | item (indent : Nat)
  deriving DecidableEq, Repr

/-- How far a line has been read. Tabs are measured from `tabOrigin`; `spare` columns of the last
tab are unused. -/
structure Margin where
  position : Nat
  tabOrigin : Nat
  spare : Nat

namespace Margin

def atLineStart (i : Nat) : Margin := ⟨i, i, 0⟩

/-- Consumes up to `n` columns of white space; the second part is how many were missing. -/
def takeColumns (s : Chars) (m : Margin) (n : Nat) : Margin × Nat :=
  let used := min m.spare n
  go { m with spare := m.spare - used } (n - used) (n - used)
where
  go (m : Margin) : Nat → Nat → Margin × Nat
    | 0, missing => (m, missing)
    | fuel + 1, missing =>
      if missing = 0 then (m, 0)
      else
        match s[m.position]? with
        | some ' ' => go { m with position := m.position + 1 } fuel (missing - 1)
        | some '\t' =>
          let width := 4 - (m.position - m.tabOrigin) % 4
          let used := min width missing
          go ⟨m.position + 1, m.position + 1, width - used⟩ fuel (missing - used)
        | _ => (m, missing)

/-- Consumes up to `n` columns and says how many there were. -/
def columnsUpTo (s : Chars) (m : Margin) (n : Nat) : Margin × Nat :=
  let (m', missing) := m.takeColumns s n
  (m', n - missing)

/-- Consumes exactly `n` columns, or whatever there is and answers `false`. -/
def hasColumns (s : Chars) (m : Margin) (n : Nat) : Margin × Bool :=
  let (m', missing) := m.takeColumns s n
  (m', missing == 0)

def skipSpaces (s : Chars) (m : Margin) : Margin :=
  { m with position := s.skipWhile (fun c => c == ' ' || c == '\t') m.position, spare := 0 }

def atLineStop (s : Chars) (m : Margin) : Bool :=
  match s[m.position]? with
  | none => true
  | some c => c == '\n' || c == '\r'

/-- The mark of a quote and one column of white space after it. -/
def quoteMark? (s : Chars) (m : Margin) : Option Margin :=
  if s[m.position]? == some '>' then
    some (({ m with position := m.position + 1 } : Margin).hasColumns s 1).1
  else none

/-- Reads the marks of the containers, outermost first, and counts those that go on in this line.
An item goes on in a line that is indented to its content, and in a blank line. -/
def matchContainers (s : Chars) (m : Margin) : List Container → Margin × Nat
  | [] => (m, 0)
  | .quote :: rest =>
    match (m.columnsUpTo s 3).1.quoteMark? s with
    | some m' =>
      let (m'', n) := matchContainers s m' rest
      (m'', n + 1)
    | none => (m, 0)
  | .list .. :: rest =>
    let (m', n) := matchContainers s m rest
    (m', n + 1)
  | .item indent :: rest =>
    let (m', indented) := m.hasColumns s indent
    if indented || m'.atLineStop s then
      let (m'', n) := matchContainers s m' rest
      (m'', n + 1)
    else (m, 0)

end Margin

/-- The mark of a list item: its character (the delimiter of an ordered one), its number, and the
column at which the content of the item starts. -/
structure ItemMark where
  mark : Char
  number : Nat
  indent : Nat

/-- A thematic break: at least three of one mark, blanks between them. Answers the next line. -/
def thematicBreak? (s : Chars) (i : Nat) : Option Nat :=
  match s[i]? with
  | none => none
  | some c =>
    if c == '*' || c == '-' || c == '_' then
      let stop := s.lineStop i
      let line := s.extract i stop
      if line.all (fun d => d == c || d == ' ' || d == '\t') && 3 ≤ (line.filter (· == c)).size then
        s.lineEnding? stop
      else none
    else none

namespace ItemMark

/-- The content starts at most four columns after the mark; further in, it is indented code. -/
def finish (s : Chars) (m : Margin) (mark : Char) (number indent : Nat) : ItemMark × Margin :=
  if (s.blankLine? m.position).isSome then (⟨mark, number, indent⟩, m)
  else
    let (m', columns) := m.columnsUpTo s 4
    if columns < 4 then (⟨mark, number, indent + columns⟩, m')
    else (⟨mark, number, indent⟩, m)

/-- Reads an item mark that stands `outer` columns inside its container. -/
def scan? (s : Chars) (m : Margin) (outer : Nat) : Option (ItemMark × Margin) :=
  match s[m.position]? with
  | none => none
  | some c =>
    if c == '-' || c == '+' || c == '*' then
      if (thematicBreak? s m.position).isSome then none
      else after { m with position := m.position + 1 } c 0 (outer + 2)
    else if c.isDigit then
      let stop := s.skipWhile Char.isDigit m.position
      let width := stop - m.position
      match s[stop]? with
      | some d =>
        if width ≤ 9 && (d == '.' || d == ')') then
          after { m with position := stop + 1 } d ((s.slice m.position stop).toNat?.getD 0)
            (outer + width + 2)
        else none
      | none => none
    else none
where
  after (m : Margin) (mark : Char) (number indent : Nat) : Option (ItemMark × Margin) :=
    let (m', space) := m.hasColumns s 1
    if space || m'.atLineStop s then some (finish s m' mark number indent) else none

end ItemMark

/-- A check box after an item mark, up to three columns in and followed by a blank. -/
def taskMark? (s : Chars) (m : Margin) : Option (Bool × Margin) :=
  let m := (m.columnsUpTo s 3).1
  let i := m.position
  match s[i]?, s[i + 1]?, s[i + 2]?, s[i + 3]? with
  | some '[', some c, some ']', some d =>
    if Text.isInlineBlank d then
      if Text.isInlineBlank c then some (false, { m with position := i + 3 })
      else if c == 'x' || c == 'X' then some (true, { m with position := i + 3 })
      else none
    else none
  | _, _, _, _ => none

end PagePress.Markdown
