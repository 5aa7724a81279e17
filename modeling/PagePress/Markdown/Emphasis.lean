import PagePress.Markup.Node

/-!
# Emphasis

Runs of delimiters in a row of finished nodes are paired up: a run that can close looks for the
nearest run before it that can open, and what stands between the two becomes emphasised. Runs that
find no partner are text.
-/
namespace PagePress.Markdown.Emphasis

/-- A member of the row. -/
inductive Piece where
  | node (node : Node)
  | delimiters (mark : Char) (count : Nat) (canOpen canClose : Bool)
  /-- A line break written as a backslash, which is text if nothing follows it. -/
  | backslashBreak

/-- A run that may open, with the nodes after it. `count` of its `length` marks are left; `both`
says that it could also have closed. -/
structure Opener where
  mark : Char
  count : Nat
  length : Nat
  both : Bool
  content : Array Node

def marks (mark : Char) (count : Nat) : Node := .text ("".pushn mark count)

/-- Everything up to the current piece: the nodes before the first opener, the openers, and for
each class of closers the number of openers that are known not to match it. -/
structure Row where
  nodes : Array Node := #[]
  openers : Array Opener := #[]
  bounds : Array Nat := Array.replicate 9 0

namespace Row

/-- Adds a node after the last opener. -/
def push (row : Row) (node : Node) : Row :=
  match row.openers.back? with
  | none => { row with nodes := row.nodes.push node }
  | some last =>
    { row with openers := row.openers.pop.push { last with content := last.content.push node } }

/-- The class of all closers of that mark with the same length modulo three. -/
def residueClass (mark : Char) (length : Nat) : Nat :=
  if mark == '*' then 2 + length % 3 else if mark == '_' then 6 + length % 3 else 5

/-- The class of closers that cannot open as well; strikethrough has no such class. -/
def oneWayClass? (mark : Char) : Option Nat :=
  if mark == '*' then some 1 else if mark == '_' then some 0 else none

def bound (row : Row) (mark : Char) (length : Nat) (both : Bool) : Nat :=
  let residue := row.bounds.getD (residueClass mark length) 0
  match oneWayClass? mark with
  | some oneWay => if both then residue else min residue (row.bounds.getD oneWay 0)
  | none => residue

/-- Remembers that no opener so far matches a closer. -/
def raiseBound (row : Row) (mark : Char) (length : Nat) (both : Bool) : Row :=
  let n := row.openers.size
  let residue := residueClass mark length
  let bounds := match oneWayClass? mark with
    | some oneWay =>
      if both then row.bounds.setIfInBounds residue n
      else if mark == '*' then (row.bounds.setIfInBounds residue n).setIfInBounds oneWay n
      else row.bounds.setIfInBounds oneWay n
    | none => row.bounds.setIfInBounds residue n
  { row with bounds }

/-- Whether an opener and a closer belong together. Strikethrough needs runs of one length. When
one of the two could do both, their lengths must not add up to a multiple of three unless each is
one. -/
def agrees (mark : Char) (length : Nat) (both : Bool) (opener : Opener) : Bool :=
  opener.mark == mark &&
    (mark != '~' || opener.length == length) &&
    ((!both && !opener.both) || (length + opener.length) % 3 != 0 || length % 3 == 0)

/-- The last opener that agrees with a closer. -/
def find? (row : Row) (mark : Char) (length : Nat) (both : Bool) : Option Nat :=
  let low := min row.openers.size (row.bound mark length both)
  (List.range' low (row.openers.size - low)).reverse.find? fun k =>
    (row.openers[k]?.map (agrees mark length both)).getD false

/-- The nodes inside `n` pairs of marks, strong emphasis innermost. -/
def wrap (mark : Char) : Nat → List Node → List Node
  | 0, inner => inner
  | 1, inner =>
    [.element (if mark == '~' then .strikethrough else .emphasis) inner]
  | n + 2, inner =>
    wrap mark n [.element (if mark == '~' then .strikethrough else .strong) inner]

/-- Ends the openers from the `k`-th on: the marks of those after it become text. -/
def cut (row : Row) (k : Nat) : Array Node × Row :=
  let content := (row.openers.extract (k + 1) row.openers.size).foldl
    (fun out o => out.push (marks o.mark o.count) ++ o.content)
    ((row.openers[k]?.map Opener.content).getD #[])
  (content, { row with openers := row.openers.shrink k, bounds := row.bounds.map (min k) })

/-- Closes as many of `count` marks as find openers, and answers how many are left. -/
def close (mark : Char) (length : Nat) (both : Bool) : Nat → Row → Nat → Row × Nat
  | 0, row, count => (row, count)
  | fuel + 1, row, count =>
    if count == 0 then (row, 0)
    else
      match row.find? mark length both with
      | none => (row.raiseBound mark length both, count)
      | some k =>
        match row.openers[k]? with
        | none => (row, count)
        | some opener =>
          let used := min count opener.count
          let (content, row) := row.cut k
          let inner := wrap mark used content.toList
          let row :=
            if used < opener.count then
              let rest := { opener with count := opener.count - used, content := inner.toArray }
              { row with openers := row.openers.push rest }
            else inner.foldl push row
          close mark length both fuel row (count - used)

/-- Adds a run of delimiters. -/
def delimiters (row : Row) (mark : Char) (count : Nat) (canOpen canClose : Bool) : Row :=
  let both := canOpen && canClose
  let (row, left) := if canClose then close mark count both (count + 1) row count else (row, count)
  if left == 0 then row
  else if canOpen then { row with openers := row.openers.push ⟨mark, left, count, both, #[]⟩ }
  else row.push (marks mark left)

/-- All nodes; the openers that are left become text. -/
def toList (row : Row) : List Node :=
  (row.openers.foldl (fun out o => out.push (marks o.mark o.count) ++ o.content) row.nodes).toList

end Row

def Piece.isDelimiters : Piece → Bool
  | .delimiters .. => true
  | _ => false

/-- The nodes of a row without runs of delimiters. -/
def Piece.plain : Piece → Node
  | .node n => n
  | .delimiters mark count _ _ => marks mark count
  | .backslashBreak => .hardBreak

/-- Pairs up the delimiters of a row. In a row with delimiters a backslash at the end breaks no
line. -/
def resolve (pieces : Array Piece) : List Node :=
  if pieces.any Piece.isDelimiters then
    let last := match pieces.back? with
      | some .backslashBreak => [Node.text "\\"]
      | _ => []
    let pieces := if last.isEmpty then pieces else pieces.pop
    let row := pieces.foldl
      (fun (row : Row) piece =>
        match piece with
        | .delimiters mark count canOpen canClose => row.delimiters mark count canOpen canClose
        | other => row.push other.plain)
      {}
    row.toList ++ last
  else (pieces.map Piece.plain).toList

end PagePress.Markdown.Emphasis
