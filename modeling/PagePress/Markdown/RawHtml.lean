import PagePress.Markdown.Scan

/-!
# Raw HTML

Tags, comments and the other constructs that pass through as they stand, inside a line of text and
as blocks of their own. A scan starts at the opening angle bracket and answers the position after
the construct.
-/
namespace PagePress.Markdown.RawHtml

def isNameChar (c : Char) : Bool := c.isAlphanum || c == '-'

/-- The end of an attribute name: a letter, an underscore or a colon, then also digits, periods
and hyphens. -/
def attributeName? (s : Chars) (i : Nat) : Option Nat :=
  match s[i]? with
  | some c =>
    if c.isAlpha || c == '_' || c == ':' then
      some (s.skipWhile
        (fun d => d.isAlphanum || d == '_' || d == '.' || d == ':' || d == '-') (i + 1))
    else none
  | none => none

def isUnquotedValueChar (c : Char) : Bool :=
  !(c == '\x27' || c == '\x22' || c == ' ' || c == '=' || c == '>' || c == '<' || c == '\x60'
    || c == '\n' || c == '\r')

/-- The end of an attribute value. A quoted one may go over line ends if the tag may. -/
def attributeValue? (s : Chars) (multiline : Bool) (i : Nat) : Option Nat :=
  match s[i]? with
  | none => none
  | some q =>
    if q == '\x22' || q == '\x27' then
      let stop := s.skipWhile
        (fun c => c != q && (multiline || (c != '\n' && c != '\r'))) (i + 1)
      if s[stop]? == some q then some (stop + 1) else none
    else if isUnquotedValueChar q then some (s.skipWhile isUnquotedValueChar i)
    else none

/-- How a tag goes on after a line end: from the start of the next line to its text. A tag that has
to stand on one line has no such continuation. -/
abbrev Continuation := Option (Nat → Nat)

/-- White space inside a tag, line ends among it. -/
def tagSpace? (s : Chars) (next : Continuation) : Nat → Nat → Option Nat
  | 0, _ => none
  | fuel + 1, i =>
    let stop := s.skipInlineBlanks i
    if stop < s.size then
      match s.lineEnding? stop with
      | none => some stop
      | some line => next.bind fun margin => tagSpace? s next fuel (margin line)
    else none

/-- Attributes and the white space before each of them; the end is where `>` or `/` stands. -/
def attributes? (s : Chars) (next : Continuation) : Nat → Nat → Option Nat
  | 0, _ => none
  | fuel + 1, i => do
    let start ← tagSpace? s next (fuel + 1) i
    let c ← s[start]?
    if c == '/' || c == '>' then some start
    else if start == i then none
    else
      let nameStop ← attributeName? s start
      let equals ← tagSpace? s next (fuel + 1) nameStop
      if s[equals]? == some '=' then
        let value ← tagSpace? s next (fuel + 1) (equals + 1)
        let stop ← attributeValue? s next.isSome value
        attributes? s next fuel stop
      else attributes? s next fuel nameStop

/-- An open tag or a closing tag. -/
def tag? (s : Chars) (next : Continuation) (i : Nat) : Option Nat := do
  let closing := s[i + 1]? == some '/'
  let name := if closing then i + 2 else i + 1
  let c ← s[name]?
  if !c.isAlpha then none
  else
    let nameStop := s.skipWhile isNameChar name
    let body ← if closing then some nameStop else attributes? s next (s.size + 1) nameStop
    let inner := s.skipInlineBlanks body
    let last := if !closing && s[inner]? == some '/' then inner + 1 else inner
    if s[last]? == some '>' then some (last + 1) else none

/-- A comment, whose opening `<!--` may at once be closed by `>` or `->`. -/
def comment? (s : Chars) (i : Nat) : Option Nat :=
  if s.startsAt ">" (i + 4) then some (i + 5)
  else if s.startsAt "->" (i + 4) then some (i + 6)
  else (s.find? "-->" (i + 4) s.size).map (· + 3)

/-- A character data section ends at its first run of closing brackets, and fails if no angle
bracket follows them. -/
def characterData? (s : Chars) (i : Nat) : Option Nat :=
  let first := s.skipWhile (· != ']') (i + 9)
  let last := s.skipRun ']' first
  if first < last && s[last]? == some '>' then some (last + 1) else none

/-- A declaration: a name in letters, then anything up to `>`. -/
def declaration? (s : Chars) (i : Nat) : Option Nat :=
  let stop := s.skipWhile (· != '>') (i + 2)
  if stop < s.size then some (stop + 1) else none

/-- A construct that is not a tag: a comment, a character data section, a declaration or a
processing instruction. -/
def special? (s : Chars) (i : Nat) : Option Nat :=
  match s[i + 1]? with
  | some '!' =>
    if s.startsAt "--" (i + 2) then comment? s i
    else if s.startsAt "[CDATA[" (i + 2) then characterData? s i
    else if (s[i + 2]?.map Char.isAlpha).getD false then declaration? s i
    else none
  | some '?' => (s.find? "?>" (i + 2) s.size).map (· + 2)
  | _ => none

/-- The names of the elements whose tags start a block that ends at a blank line. -/
def blockNames : List String :=
  ["address", "article", "aside", "base", "basefont", "blockquote", "body", "caption", "center",
   "col", "colgroup", "dd", "details", "dialog", "dir", "div", "dl", "dt", "fieldset",
   "figcaption", "figure", "footer", "form", "frame", "frameset", "h1", "h2", "h3", "h4", "h5",
   "h6", "head", "header", "hr", "html", "iframe", "legend", "li", "link", "main", "menu",
   "menuitem", "nav", "noframes", "ol", "optgroup", "option", "p", "param", "search", "section",
   "summary", "table", "tbody", "td", "tfoot", "th", "thead", "title", "tr", "track", "ul"]

/-- What ends a block that began at `i` with one of the constructs which hold blank lines. -/
def closer? (s : Chars) (i : Nat) : Option String :=
  let verbatim := [("pre", "</pre>"), ("style", "</style>"), ("script", "</script>"),
    ("textarea", "</textarea>")]
  match verbatim.find? fun (name, _) =>
      s.startsAtAnyCase name (i + 1) &&
        match s[i + 1 + name.length]? with
        | none => true
        | some c => Text.isAsciiBlank c || c == '>' with
  | some (_, closer) => some closer
  | none =>
    if s.startsAt "!--" (i + 1) then some "-->"
    else if s.startsAt "?" (i + 1) then some "?>"
    else if s.startsAt "![CDATA[" (i + 1) then some "]]>"
    else if s.startsAt "!" (i + 1) && (s[i + 2]?.map Char.isAlpha).getD false then some ">"
    else none

/-- Whether the tag of a block element begins at `i`; the rest of the tag is not looked at. -/
def startsBlockElement (s : Chars) (i : Nat) : Bool :=
  let name := if s[i + 1]? == some '/' then i + 2 else i + 1
  let stop := s.skipWhile Char.isAlphanum name
  blockNames.contains ((s.slice name stop).map Char.toLower) &&
    match s[stop]? with
    | none => true
    | some c =>
      c == ' ' || c == '\t' || c == '\r' || c == '\n' || c == '>' ||
        (c == '/' && s[stop + 1]? == some '>')

/-- Whether a whole line from `i` on is one tag. -/
def isTagLine (s : Chars) (i : Nat) : Bool :=
  match tag? s none i with
  | some stop => (s.blankLine? stop).isSome
  | none => false

end PagePress.Markdown.RawHtml
