import PagePress.Markdown.Block
import PagePress.Markdown.CharacterReference
import PagePress.Text.Punctuation

/-!
# Tokens of running text

Running text is cut into tokens from left to right: plain text, and the places where markup may
begin or end. What a token means is decided later, when all tokens of the text are known.
-/
namespace PagePress.Markdown

inductive Token where
  /-- Plain text; `escaped` if its first character had a backslash before it. -/
  | text (escaped : Bool)
  /-- The value of a character reference. -/
  | value (s : String)
  | lineBreak (kind : LineBreak)
  /-- A run of one delimiter character. -/
  | delimiters (mark : Char) (canOpen canClose : Bool)
  /-- A dollar sign, and the group of braces that it stands in. -/
  | dollar (canOpen canClose : Bool) (group : Nat)
  /-- A run of backticks; `escaped` if it had a backslash before it. -/
  | backticks (escaped : Bool)
  | angle
  | openLink
  | openImage
  | closeBracket
  deriving DecidableEq

/-- A token and where it stands. -/
structure PlacedToken where
  start : Nat
  stop : Nat
  token : Token

/-- The groups of braces around a dollar sign, innermost first. Groups are numbered in order, and
nothing is kept before the first dollar sign. -/
structure Braces where
  next : Nat := 0
  groups : List Nat := []

namespace Braces

/-- Beyond this depth braces are counted and no longer told apart. -/
def maxDepth : Nat := 25

/-- The number of the outermost group. -/
def outermost : Nat := 255

def openBrace (b : Braces) : Braces :=
  let depth := b.groups.length
  if depth == maxDepth then ⟨maxDepth, b.next % 256 :: b.groups⟩
  else if maxDepth < depth || depth == 0 then { b with next := b.next + 1 }
  else ⟨b.next + 1, b.next % 256 :: b.groups⟩

/-- A brace that closes nothing starts a new outermost group. -/
def closeBrace (b : Braces) : Braces :=
  match b.groups with
  | [] => b
  | [_] => ⟨b.next + 1, [b.next % 256]⟩
  | _ :: rest =>
    if maxDepth < b.groups.length && maxDepth < b.next then { b with next := b.next - 1 }
    else { b with groups := rest }

/-- The group of a dollar sign. -/
def group (b : Braces) : Nat × Braces :=
  if maxDepth < b.groups.length then (b.next % 256, b)
  else
    match b.groups with
    | inner :: _ => (inner, b)
    | [] => (outermost, { b with groups := [outermost] })

end Braces

/-- Whether a run of delimiters from `i` to `stop` can open: what follows must not be white space,
and unless the delimiter may stand inside words, white space or punctuation must come before. -/
def canOpen (s : Chars) (lineStart i stop : Nat) : Bool :=
  match s[i]?, s[stop]? with
  | some mark, some next =>
    !Text.isBlank next &&
      (i == lineStart ||
        (mark == '*' && !Text.isPunctuation next) ||
        (mark == '~' && 1 < stop - i) ||
        match s[i - 1]? with
        | some previous =>
          (mark == '~' && previous == '~' && !Text.isPunctuation next) ||
            Text.isBlank previous || Text.isPunctuation previous
        | none => true)
  | _, _ => false

/-- Whether a run of delimiters from `i` to `stop` can close, which is the same from behind. -/
def canClose (s : Chars) (lineStart i stop : Nat) : Bool :=
  i != lineStart &&
    match s[i]?, s[i - 1]? with
    | some mark, some previous =>
      !Text.isBlank previous &&
        match s[stop]? with
        | none => true
        | some next =>
          ((mark == '*' || (mark == '~' && 1 < stop - i)) && !Text.isPunctuation previous) ||
            (mark == '~' && previous == '~') ||
            Text.isBlank next || Text.isPunctuation next
    | _, _ => false

/-- The tokens read so far, and the groups of braces after them. `first` is where the plain text
begins that is not yet a token. -/
structure Tokens where
  tokens : Array PlacedToken := #[]
  braces : Braces := {}
  first : Nat := 0
  escaped : Bool := false

namespace Tokens

/-- Makes a token of the plain text up to `stop`, and starts new plain text at `first`. -/
def flush (t : Tokens) (stop first : Nat) (escaped : Bool) : Tokens :=
  let t :=
    if t.first < stop then
      { t with tokens := t.tokens.push ⟨t.first, stop, .text t.escaped⟩ }
    else t
  { t with first, escaped }

/-- A token from `start` to `stop`, with the plain text before it. -/
def push (t : Tokens) (before start stop : Nat) (token : Token) : Tokens :=
  let t := t.flush before stop false
  { t with tokens := t.tokens.push ⟨start, stop, token⟩ }

/-- Reads what begins at `i` and answers the position after it. -/
def read (s : Chars) (lineStart : Nat) (inTable : Bool) (t : Tokens) (i : Nat) : Tokens × Nat :=
  match s[i]? with
  | none => (t, i + 1)
  | some c =>
    if c == '\\' then
      if !escapes s i then (t, i + 1)
      else if s[i + 1]? == some '\x60' then
        let stop := s.skipRun '\x60' (i + 1)
        (t.push i (i + 1) stop (.backticks true), stop)
      else if inTable && s[i + 1]? == some '|' then (t.flush i (i + 1) false, i + 2)
      else if inTable && s.startsAt "\\|" (i + 1) then (t.flush i (i + 2) true, i + 3)
      else (t.flush i (i + 1) true, i + 2)
    else if c == '*' || c == '_' || c == '~' then
      let stop := s.skipRun c i
      let opens := canOpen s lineStart i stop
      let closes := canClose s lineStart i stop
      if (opens || closes) && (c != '~' || stop - i ≤ 2) then
        (t.push i i stop (.delimiters c opens closes), stop)
      else (t, stop)
    else if c == '$' then
      let opens := (s[i + 1]?.map fun d => !Text.isAsciiBlank d).getD false
      let closes := lineStart < i && (s[i - 1]?.map fun d => !Text.isAsciiBlank d).getD false
      let (group, braces) := t.braces.group
      let t := t.push i i (i + 1) (.dollar opens closes group)
      ({ t with braces }, i + 1)
    else if c == '\x7b' then ({ t with braces := t.braces.openBrace }, i + 1)
    else if c == '\x7d' then ({ t with braces := t.braces.closeBrace }, i + 1)
    else if c == '\x60' then
      let stop := s.skipRun '\x60' i
      (t.push i i stop (.backticks false), stop)
    else if c == '<' && s[i + 1]? != some '\\' then (t.push i i (i + 1) .angle, i + 1)
    else if c == '!' && s[i + 1]? == some '[' then (t.push i i (i + 2) .openImage, i + 2)
    else if c == '[' then (t.push i i (i + 1) .openLink, i + 1)
    else if c == ']' then (t.push i i (i + 1) .closeBracket, i + 1)
    else if c == '&' then
      match CharacterReference.scan? s i with
      | some (value, stop) => (t.push i i stop (.value value), stop)
      | none => (t, i + 1)
    else (t, i + 1)

/-- Reads from `i` to `stop`. -/
def readTo (s : Chars) (lineStart stop : Nat) (inTable : Bool) : Nat → Tokens → Nat → Tokens
  | 0, t, _ => t
  | fuel + 1, t, i =>
    if i < stop then
      let (t, next) := t.read s lineStart inTable i
      readTo s lineStart stop inTable fuel t next
    else t

/-- Adds the tokens of a line. -/
def readLine (s : Chars) (inTable : Bool) (t : Tokens) (line : Line) : Tokens :=
  let t := { t with first := line.start, escaped := false }
  let t := (t.readTo s line.start line.stop inTable (s.size + 1) line.start).flush line.stop
    line.next false
  match line.lineBreak with
  | some kind => { t with tokens := t.tokens.push ⟨line.stop, line.next, .lineBreak kind⟩ }
  | none => t

/-- The tokens of a text, given the groups of braces before it, and the groups after it. -/
def ofLeaf (s : Chars) (braces : Braces) (leaf : Leaf) : Array PlacedToken × Braces :=
  let t := leaf.lines.foldl (readLine s leaf.inTable) { braces }
  (t.tokens, t.braces)

end Tokens

end PagePress.Markdown
