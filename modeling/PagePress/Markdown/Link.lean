import PagePress.Markdown.CharacterReference
import PagePress.Markup.Event

/-!
# The parts of a link

Destinations, titles and labels, each read from its first character on; and links whose text is
their own destination, in angle brackets. Every scan answers the position after what it read.
-/
namespace PagePress.Markdown.Link

/-- A span of the text. -/
structure Span where
  start : Nat
  stop : Nat

/-- A destination in angle brackets, on one line. -/
def pointedDestination? (s : Chars) : Nat → Nat → Option Nat
  | 0, _ => none
  | fuel + 1, i =>
    match s[i]? with
    | none => none
    | some '>' => some i
    | some '\\' => pointedDestination? s fuel (if escapes s i then i + 2 else i + 1)
    | some c =>
      if c == '\n' || c == '\r' || c == '<' then none else pointedDestination? s fuel (i + 1)

/-- A destination without angle brackets ends at a control character, a space, or a closing
parenthesis that was not opened inside it. -/
def bareDestination? (s : Chars) (maxNesting : Nat) : Nat → Nat → Nat → Option Nat
  | 0, _, _ => none
  | fuel + 1, nesting, i =>
    let stop := if nesting == 0 then some i else none
    match s[i]? with
    | none => stop
    | some '(' =>
      if maxNesting < nesting then none
      else bareDestination? s maxNesting fuel (nesting + 1) (i + 1)
    | some ')' =>
      if nesting == 0 then some i else bareDestination? s maxNesting fuel (nesting - 1) (i + 1)
    | some '\\' =>
      bareDestination? s maxNesting fuel nesting (if escapes s i then i + 2 else i + 1)
    | some c =>
      if c ≤ ' ' || c == '\x7f' then stop
      else bareDestination? s maxNesting fuel nesting (i + 1)

/-- The destination that begins at `i`, and the position after it. It may be empty. -/
def destination? (s : Chars) (maxNesting i : Nat) : Option (Span × Nat) :=
  if s[i]? == some '<' then
    (pointedDestination? s s.size (i + 1)).map fun stop => (⟨i + 1, stop⟩, stop + 1)
  else
    (bareDestination? s maxNesting (s.size + 1) 0 i).map fun stop => (⟨i, stop⟩, stop)

/-- The character that ends a title, given the one that opens it. -/
def titleCloser? : Char → Option Char
  | '(' => some ')'
  | '\x22' => some '\x22'
  | '\x27' => some '\x27'
  | _ => none

/-- The title of an inline link. `resume` says where the text goes on after a line end. -/
def title? (s : Chars) (inTable : Bool) (resume : Nat → Option Nat) (i : Nat) :
    Option (String × Nat) := do
  let opener ← s[i]?
  let closer ← titleCloser? opener
  go opener closer (s.size + 1) (i + 1) []
where
  go (opener closer : Char) : Nat → Nat → List Char → Option (String × Nat)
    | 0, _, _ => none
    | fuel + 1, i, out =>
      match s[i]? with
      | none => none
      | some c =>
        if c == closer then some (String.ofList out.reverse, i + 1)
        else if c == opener then none
        else
          match if c == '\n' || c == '\r' then resume i else none with
          | some next => go opener closer fuel next ('\n' :: out)
          | none =>
            match if c == '&' then CharacterReference.scan? s i else none with
            | some (value, next) => go opener closer fuel next (value.toList.reverse ++ out)
            | none =>
              let kept := if c == '\\' && inTable && s.startsAt "\\|" (i + 1) then i + 2
                else if c == '\\' && escapes s i then i + 1
                else i
              match s[kept]? with
              | some d => go opener closer fuel (kept + 1) (d :: out)
              | none => none

/-- The raw title of a link definition. `nextLine` says where its text goes on after a line end, or
that it cannot. -/
def definitionTitle? (s : Chars) (nextLine : Nat → Option Nat) (i : Nat) :
    Option (List Char × Nat) := do
  let opener ← s[i]?
  let closer ← titleCloser? opener
  go opener closer (s.size + 1) (i + 1) []
where
  go (opener closer : Char) : Nat → Nat → List Char → Option (List Char × Nat)
    | 0, _, _ => none
    | fuel + 1, i, out =>
      match s[i]? with
      | none => none
      | some c =>
        if c == closer then some (out.reverse, i + 1)
        else if c == opener then none
        else if c == '\n' || c == '\r' then do
          let line ← s.lineEnding? i
          let text ← nextLine line
          go opener closer fuel text ('\n' :: out)
        else if c == '\\' then
          match s[i + 1]? with
          | some d =>
            if d == '\n' || d == '\r' then go opener closer fuel (i + 1) (c :: out)
            else go opener closer fuel (i + 2) (d :: c :: out)
          | none => none
        else go opener closer fuel (i + 1) (c :: out)

/-- White space in a label, with at most one line end. -/
def labelSpace? (s : Chars) (nextLine : Nat → Option Nat) : Nat → Bool → Nat → Option Nat
  | 0, _, i => some i
  | fuel + 1, sawLine, i =>
    match s[i]? with
    | none => some i
    | some c =>
      if c == '\n' || c == '\r' then
        if sawLine then none
        else do
          let line ← s.lineEnding? i
          let text ← nextLine line
          labelSpace? s nextLine fuel true text
      else if Text.isInlineBlank c then labelSpace? s nextLine fuel sawLine (i + 1)
      else some i

/-- The label in brackets that opens at `i`: at most 999 characters, not all of them white space,
and no bracket unless escaped. White space in it is reduced to single spaces. -/
def label? (s : Chars) (inTable : Bool) (nextLine : Nat → Option Nat) (i : Nat) :
    Option (String × Nat) :=
  if s[i]? == some '[' then go (s.size + 1) (i + 1) [] else none
where
  limit : Nat := i + 1001
  go : Nat → Nat → List Char → Option (String × Nat)
    | 0, _, _ => none
    | fuel + 1, k, out =>
      if limit ≤ k then none
      else
        match s[k]? with
        | none => none
        | some '[' => none
        | some ']' =>
          let text := ((out.dropWhile (· == ' ')).reverse.dropWhile (· == ' '))
          if text.isEmpty then none else some (String.ofList text, k + 1)
        | some '\\' =>
          if inTable && s.startsAt "\\|" (k + 1) then go fuel (k + 3) ('|' :: out)
          else if inTable && s[k + 1]? == some '|' then go fuel (k + 2) ('|' :: out)
          else go fuel (k + 2) ((s[k + 1]?).toList ++ '\\' :: out)
        | some c =>
          if Text.isAsciiBlank c then do
            let next ← labelSpace? s nextLine (s.size + 1) false k
            go fuel next (' ' :: out)
          else go fuel (k + 1) (c :: out)

/-- An absolute address: a scheme of two to 32 characters, a colon, and no space or angle bracket.
Answers the position of the closing angle bracket. -/
def address? (s : Chars) (i : Nat) : Option Nat := do
  let first ← s[i]?
  let colon := s.skipWhile (fun c => c.isAlphanum || c == '.' || c == '-' || c == '+') (i + 1)
  if first.isAlpha && s[colon]? == some ':' && 2 ≤ colon - i && colon - i ≤ 32 then
    let stop := s.skipWhile (fun c => ' ' < c && c != '<' && c != '>') (colon + 1)
    if s[stop]? == some '>' then some stop else none
  else none

def isMailboxChar (c : Char) : Bool := c.isAlphanum || ".!#$%&\x27*+/=?^_\x60\x7b|\x7d~-".contains c

/-- The labels of a host name, each of at most 63 letters, digits and inner hyphens. -/
def host? (s : Chars) : Nat → Nat → Option Nat
  | 0, _ => none
  | fuel + 1, i =>
    let stop := s.skipWhile (fun c => c.isAlphanum || c == '-') i
    if stop == i || 63 < stop - i || s[i]? == some '-' || s[stop - 1]? == some '-' then none
    else if s[stop]? == some '.' then host? s fuel (stop + 1)
    else some stop

/-- A mail address. Answers the position of the closing angle bracket. -/
def mailbox? (s : Chars) (i : Nat) : Option Nat := do
  let sign := s.skipWhile isMailboxChar i
  if i < sign && s[sign]? == some '@' then
    let stop ← host? s s.size (sign + 1)
    if s[stop]? == some '>' then some stop else none
  else none

/-- A link in angle brackets, from behind the opening one on. -/
def autolink? (s : Chars) (i : Nat) : Option (LinkKind × Span) :=
  match address? s i with
  | some stop => some (.autolink, ⟨i, stop⟩)
  | none => (mailbox? s i).map fun stop => (.email, ⟨i, stop⟩)

end PagePress.Markdown.Link
