import PagePress.Markdown.Emphasis
import PagePress.Markdown.Link
import PagePress.Markdown.RawHtml
import PagePress.Markdown.Token
import PagePress.Text.Folding

/-!
# Running text

The tokens of a text become nodes. Code spans, math, raw HTML and links are recognised from left to
right; the delimiters of emphasis are paired up afterwards, in the text of each link by itself.
-/
namespace PagePress.Markdown

open Emphasis (Piece)

/-- What running text is read against: the source, the text and its tokens, and the definitions of
the document. -/
structure Scope where
  source : Chars
  leaf : Leaf
  tokens : Array PlacedToken
  definitions : Definitions

namespace Scope

/-- The start of a line without its margin. -/
def margin (scope : Scope) (i : Nat) : Nat :=
  ((Margin.atLineStart i).matchContainers scope.source scope.leaf.containers).1.position

/-- The first token from the `k`-th on that reaches beyond `stop`. -/
def tokenBeyond (scope : Scope) (stop : Nat) (k : Nat) : Nat :=
  if h : k < scope.tokens.size then
    if scope.tokens[k].stop ≤ stop then tokenBeyond scope stop (k + 1) else k
  else k
termination_by scope.tokens.size - k

/-- The source from `i` to `stop` without the margins of the lines, each line end passed through
`ending`. In a table a backslash before a bar is dropped. -/
def verbatim (scope : Scope) (ending : Char → Char) (i stop : Nat) : String :=
  String.ofList (go (stop - i + 1) i []).reverse
where
  go : Nat → Nat → List Char → List Char
    | 0, _, out => out
    | fuel + 1, i, out =>
      if stop ≤ i then out
      else
        match scope.source[i]? with
        | none => out
        | some c =>
          if c == '\n' || c == '\r' then go fuel (scope.margin (i + 1)) (ending c :: out)
          else if c == '\\' && scope.leaf.inTable && scope.source[i + 1]? == some '|' then
            go fuel (i + 2) ('|' :: out)
          else go fuel (i + 1) (c :: out)

/-- The text of a code span: line ends become spaces, and one space is taken away at both ends if
there is one and anything else between. -/
def codeText (scope : Scope) (i stop : Nat) : String :=
  let text := scope.verbatim (fun _ => ' ') i stop
  let chars := text.toList
  if chars.head? == some ' ' && chars.getLast? == some ' ' && chars.any (· != ' ') then
    String.ofList (chars.drop 1).dropLast
  else text

/-- The source of a tag without the margins of its lines. -/
def tagText (scope : Scope) (i stop : Nat) : String :=
  String.ofList (go (stop - i + 1) i []).reverse
where
  go : Nat → Nat → List Char → List Char
    | 0, _, out => out
    | fuel + 1, i, out =>
      if stop ≤ i then out
      else
        match scope.source[i]? with
        | none => out
        | some c =>
          let next := if c == '\n' || c == '\r' then scope.margin (i + 1) else i + 1
          go fuel next (c :: out)

/-- Whether the `k`-th token is a dollar sign. -/
def isDollar (scope : Scope) (k : Nat) : Bool :=
  match scope.tokens[k]?.map PlacedToken.token with
  | some (.dollar ..) => true
  | _ => false

/-- Whether the `k`-th token is a dollar sign in that group of braces. -/
def isDollarIn (scope : Scope) (group k : Nat) : Bool :=
  match scope.tokens[k]?.map PlacedToken.token with
  | some (.dollar _ _ other) => other == group
  | _ => false

def closesMath (scope : Scope) (k : Nat) : Bool :=
  match scope.tokens[k]?.map PlacedToken.token with
  | some (.dollar _ canClose _) => canClose
  | _ => false

/-- The first token from the `k`-th on whose number passes a test. -/
def findToken? (scope : Scope) (p : Nat → Bool) (k : Nat) : Option Nat :=
  if k < scope.tokens.size then
    if p k then some k else findToken? scope p (k + 1)
  else none
termination_by scope.tokens.size - k

/-- The dollar sign that ends the math which the `k`-th token begins. It is the next one in the
same group of braces or none at all. -/
def mathEnd? (scope : Scope) (display : Bool) (group k : Nat) : Option Nat := do
  let j ← scope.findToken? (scope.isDollarIn group) (if display then k + 2 else k + 1)
  if if display then scope.isDollar (j + 1) else scope.closesMath j then some j else none

/-- The first run of exactly `count` backticks after the `k`-th token. -/
def codeEnd? (scope : Scope) (count k : Nat) : Option Nat :=
  scope.findToken? (fun j =>
    match scope.tokens[j]? with
    | some ⟨start, stop, .backticks _⟩ => stop - start == count
    | _ => false) (k + 1)

/-- White space between the parts of an inline link, with at most one line end. -/
def separator (scope : Scope) (i : Nat) : Nat :=
  let s := scope.source
  let stop := s.skipInlineBlanks i
  let next :=
    if stop < s.size then
      match s.lineEnding? stop with
      | some line => scope.margin line
      | none => stop
    else stop
  s.skipInlineBlanks next

/-- Parentheses nest at most this deep in a destination, the outermost pair not counted. -/
def maxParentheses : Nat := 5

/-- The destination and the title in parentheses at `i`, behind the `k`-th token, and the position
after them. -/
def inlineTarget? (scope : Scope) (k i : Nat) : Option (String × String × Nat) := do
  let s := scope.source
  let inTable := scope.leaf.inTable
  if s[i]? != some '(' then none
  else
    let (span, stop) ← Link.destination? s maxParentheses (scope.separator (i + 1))
    let destination := unescape s inTable span.start span.stop
    let next := scope.separator stop
    let (title, last) := match Link.title? s inTable resume next with
      | some (title, last) => (title, scope.separator last)
      | none => ("", next)
    if s[last]? == some ')' && last < scope.leaf.stop then some (destination, title, last + 1)
    else none
where
  /-- A title goes on at the first token after a line end. -/
  resume (i : Nat) : Option Nat :=
    match scope.tokens[scope.tokenBeyond (i + 1) (k + 1)]? with
    | some t => if i < t.start then some t.start else none
    | none => none

/-- The label that opens at `i`, inside the text. -/
def label? (scope : Scope) (i : Nat) : Option (String × Nat) := do
  let (label, stop) ←
    Link.label? scope.source scope.leaf.inTable (fun k => some (scope.margin k)) i
  if stop ≤ scope.leaf.stop then some (label, stop) else none

end Scope

/-- An opening bracket that waits for its partner: where its text stands among the pieces, and
where its label begins. Links do not nest, so a link makes the brackets around it inactive. -/
structure Bracket where
  image : Bool
  active : Bool
  index : Nat
  labelStart : Nat

/-- How far running text has been read: the pieces, the open brackets with the last one first, the
closing bracket that has already failed as the end of a label, the next token, and the position
before which nothing of it counts any more. -/
structure Reading where
  pieces : Array Piece := #[]
  brackets : List Bracket := []
  refused : Option Nat := none
  token : Nat := 0
  position : Nat := 0

namespace Reading

def add (r : Reading) (node : Node) : Reading := { r with pieces := r.pieces.push (.node node) }

/-- Goes on with the `k`-th token. -/
def goto (r : Reading) (k : Nat) : Reading := { r with token := k }

/-- Goes on behind position `stop`. -/
def skipTo (r : Reading) (scope : Scope) (stop : Nat) : Reading :=
  { r with token := scope.tokenBeyond stop (r.token + 1), position := max r.position stop }

/-- An angle bracket: a link in angle brackets, raw HTML, or text. -/
def angle (scope : Scope) (r : Reading) (t : PlacedToken) : Reading :=
  let s := scope.source
  let within (stop : Nat) : Bool := stop ≤ scope.leaf.stop
  match (Link.autolink? s t.stop).filter fun (_, span) => within (span.stop + 1) with
  | some (kind, span) =>
    let text := s.slice span.start span.stop
    (r.add (.element (.link kind text "" "") [.text text])).skipTo scope (span.stop + 1)
  | none =>
    match (RawHtml.special? s t.start).filter within with
    | some stop => (r.add (.inlineHtml (s.slice t.start stop))).skipTo scope stop
    | none =>
      match (RawHtml.tag? s (some scope.margin) t.start).filter within with
      | some stop => (r.add (.inlineHtml (scope.tagText t.start stop))).skipTo scope stop
      | none => (r.add (.text "<")).goto (r.token + 1)

/-- A dollar sign: math up to its partner, or text. -/
def dollar (scope : Scope) (r : Reading) (t : PlacedToken) (canOpen : Bool) (group : Nat) :
    Reading :=
  let k := r.token
  let display := scope.isDollar (k + 1)
  match if canOpen then scope.mathEnd? display group k else none with
  | none => (r.add (.text "$")).goto (k + 1)
  | some j =>
    let first := if display then t.stop + 1 else t.stop
    let last := (scope.tokens[j]?.map PlacedToken.start).getD first
    let text := scope.verbatim id first last
    if display then (r.add (.displayMath text)).goto (j + 2)
    else (r.add (.inlineMath text)).goto (j + 1)

/-- A run of backticks: a code span up to its partner, or text. Of an escaped run the first
backtick is text in any case. -/
def backticks (scope : Scope) (r : Reading) (t : PlacedToken) (escaped : Bool) : Reading :=
  let k := r.token
  let length := t.stop - t.start
  let count := if escaped then length - 1 else length
  match if count == 0 then none else scope.codeEnd? count k with
  | none => (r.add (.text ("".pushn '\x60' length))).goto (k + 1)
  | some j =>
    let last := (scope.tokens[j]?.map PlacedToken.start).getD t.stop
    let r := if escaped then r.add (.text "\x60") else r
    (r.add (.code (scope.codeText t.stop last))).goto (j + 1)

/-- Puts the pieces since a bracket into a link or an image. -/
def wrap (r : Reading) (bracket : Bracket) (kind : LinkKind) (destination title id : String) :
    Reading :=
  let children := Emphasis.resolve (r.pieces.extract (bracket.index + 1) r.pieces.size)
  let tag := if bracket.image then Tag.image kind destination title id
    else .link kind destination title id
  let brackets := if bracket.image then r.brackets
    else r.brackets.map fun b => if b.image then b else { b with active := false }
  let link := Piece.node (.element tag children)
  { r with pieces := (r.pieces.shrink bracket.index).push link, brackets }

/-- How a closing bracket is followed: by another label, by empty brackets, or by neither. -/
inductive Follower where
  | label (text : String) (closing : Nat)
  | empty
  | other

/-- What follows the closing bracket that is the current token. -/
def follower (scope : Scope) (r : Reading) : Follower :=
  match scope.tokens[r.token + 1]? with
  | none => .other
  | some { token := .text true, .. } => .other
  | some t =>
    if scope.source.startsAt "[]" t.start then .empty
    else
      match scope.label? t.start with
      | some (text, stop) => .label text (scope.tokenBeyond (stop - 1) (r.token + 1))
      | none => .other

/-- A reference to a definition, by the text in the brackets or by a label after it. -/
def reference (scope : Scope) (r : Reading) (bracket : Bracket) (t : PlacedToken) : Reading :=
  let plain (r : Reading) := (r.add (.text "]")).goto (r.token + 1)
  let own? :=
    match scope.label? bracket.labelStart with
    | some (text, stop) => if stop == t.stop && r.refused != some t.start then some text else none
    | none => none
  let link (r : Reading) (kind : LinkKind) (label? : Option String) (next : Nat) : Reading :=
    match label? with
    | none => plain r
    | some label =>
      match scope.definitions[Text.fold label]? with
      | none => plain r
      | some d => (r.wrap bracket kind d.destination d.title label).goto next
  match follower scope r with
  | .label text closing =>
    match scope.tokens[closing]? with
    | none => plain r
    | some c => link { r with refused := some c.start } .reference (some text) (closing + 1)
  | .empty => link r .collapsed own? (r.token + 3)
  | .other => link r .shortcut own? (r.token + 1)

/-- A closing bracket: the end of a link or an image, or text. -/
def closeBracket (scope : Scope) (r : Reading) (t : PlacedToken) : Reading :=
  match r.brackets with
  | [] => (r.add (.text "]")).goto (r.token + 1)
  | bracket :: rest =>
    let r := { r with brackets := rest }
    if !bracket.active then (r.add (.text "]")).goto (r.token + 1)
    else
      match scope.inlineTarget? r.token t.stop with
      | some (destination, title, stop) =>
        (r.wrap bracket .inline destination title "").skipTo scope stop
      | none => reference scope r bracket t

/-- An opening bracket, text until its partner is found. -/
def openBracket (r : Reading) (t : PlacedToken) (image : Bool) : Reading :=
  let bracket : Bracket := ⟨image, true, r.pieces.size, t.stop - 1⟩
  let r := (r.add (.text (if image then "![" else "["))).goto (r.token + 1)
  { r with brackets := bracket :: r.brackets }

/-- Reads one token and whatever belongs to it. -/
def step (scope : Scope) (r : Reading) (t : PlacedToken) : Reading :=
  let next := r.token + 1
  match t.token with
  | .text _ => (r.add (.text (scope.source.slice (max t.start r.position) t.stop))).goto next
  | .value s => (r.add (.text s)).goto next
  | .lineBreak .soft => (r.add .softBreak).goto next
  | .lineBreak .hard => (r.add .hardBreak).goto next
  | .lineBreak .backslash => { r with pieces := r.pieces.push .backslashBreak, token := next }
  | .delimiters mark canOpen canClose =>
    { r with pieces := r.pieces.push (.delimiters mark (t.stop - t.start) canOpen canClose),
             token := next }
  | .dollar canOpen _ group => dollar scope r t canOpen group
  | .backticks escaped => backticks scope r t escaped
  | .angle => angle scope r t
  | .openLink => openBracket r t false
  | .openImage => openBracket r t true
  | .closeBracket => closeBracket scope r t

/-- Reads tokens until none is left. Every step goes forward, so their number is enough fuel. -/
def run (scope : Scope) : Nat → Reading → Reading
  | 0, r => r
  | fuel + 1, r =>
    match scope.tokens[r.token]? with
    | none => r
    | some t => run scope fuel (step scope r t)

end Reading

/-- The nodes of running text. -/
def Scope.nodes (scope : Scope) : List Node :=
  Emphasis.resolve (Reading.run scope (scope.tokens.size + 1) {}).pieces

end PagePress.Markdown
