import PagePress.Markup.Event

/-!
# Bare links

Addresses in plain text that begin with a scheme or with `www.` become links. A run is a stretch of
text without white space and opening angle brackets. The first place in a run at which an address
can begin decides about the whole run: either a link starts there, or the run holds none.

Positions count characters; `byteOffsets` gives their offsets in the UTF-8 form.
-/
namespace PagePress

/-- A link found in a text, as the positions of its first character and of the one after it. -/
structure Autolink where
  start : Nat
  stop : Nat
  href : String
  deriving DecidableEq, Repr

namespace Autolink

/-- How an address begins. -/
inductive Scheme where
  | https | http | www
  deriving DecidableEq, Repr

namespace Scheme

def text : Scheme → List Char
  | .https => "https://".toList
  | .http => "http://".toList
  | .www => "www.".toList

/-- How many characters stand before the host. The name `www.` is itself part of the host. -/
def hostStart : Scheme → Nat
  | .www => 0
  | s => s.text.length

def atStart? (cs : List Char) : Option Scheme :=
  [https, http, www].find? fun s => s.text.isPrefixOf cs

theorem prefix_of_atStart? {s : Scheme} {cs : List Char} (h : atStart? cs = some s) :
    s.text <+: cs := by
  unfold atStart? at h
  have begins := List.find?_some h
  exact List.isPrefixOf_iff_prefix.1 begins

/-- No text begins with two of the schemes. -/
theorem eq_of_prefix {s t : Scheme} {cs : List Char} (one : s.text <+: cs) (two : t.text <+: cs) :
    s = t := by
  have comparable := List.prefix_or_prefix_of_prefix one two
  revert comparable
  cases s <;> cases t <;> decide

theorem atStart?_eq_some_iff {s : Scheme} {cs : List Char} :
    atStart? cs = some s ↔ s.text <+: cs := by
  refine ⟨prefix_of_atStart?, fun begins => ?_⟩
  have found : (atStart? cs).isSome := by
    refine List.find?_isSome.2 ⟨s, ?_, List.isPrefixOf_iff_prefix.2 begins⟩
    cases s <;> decide
  obtain ⟨t, first⟩ := Option.isSome_iff_exists.1 found
  rw [first, eq_of_prefix begins (prefix_of_atStart? first)]

/-- The address that a link leads to. -/
def href (s : Scheme) (url : List Char) : String :=
  match s with
  | .www => "http://" ++ String.ofList url
  | _ => String.ofList url

theorem href_www (url : List Char) : www.href url = "http://" ++ String.ofList url := rfl

theorem href_of_ne {s : Scheme} (written : s ≠ www) (url : List Char) :
    s.href url = String.ofList url := by
  cases s with
  | www => exact absurd rfl written
  | _ => rfl

end Scheme

/-- Characters after which an address may begin. -/
def isBoundary (c : Char) : Bool :=
  c == ' ' || c == '\t' || c == '\n' || c == '*' || c == '_' || c == '~' || c == '('

/-- Characters that end a run. -/
def endsRun (c : Char) : Bool :=
  c == ' ' || c == '\t' || c == '\n' || c == '\x0c' || c == '\r' || c == '<'

/-- Punctuation that is left outside a link at its end. -/
def isTrailing (c : Char) : Bool :=
  c == '?' || c == '!' || c == '.' || c == ',' || c == ':' || c == '*' || c == '_' || c == '~'
    || c == '\x27' || c == '\x22'

theorem isTrailing_iff {c : Char} : isTrailing c = true ↔
    c ∈ ['?', '!', '.', ',', ':', '*', '_', '~', '\x27', '\x22'] := by
  simp [isTrailing, or_assoc]

/-- Trims a run from its end, last character first: trailing punctuation, and closing parentheses
while there are more of them than opening ones. -/
def trimEnd (opened : Nat) : Nat → List Char → List Char
  | _, [] => []
  | closed, c :: rest =>
    if isTrailing c then trimEnd opened closed rest
    else if c == ')' && opened < closed then trimEnd opened (closed - 1) rest
    else c :: rest

/-- A run without the punctuation at its end. -/
def trim (run : List Char) : List Char :=
  (trimEnd (run.count '(') (run.count ')') run.reverse).reverse

def isHostChar (c : Char) : Bool := c.isAlphanum || c == '-' || c == '_' || c == '.'

/-- Whether no label of a dotted name is empty; `fresh` at the start of a label. -/
def labelsFilled (fresh : Bool) : List Char → Bool
  | [] => !fresh
  | c :: rest => if c == '.' then !fresh && labelsFilled true rest else labelsFilled false rest

/-- A host is a dotted name of at least two labels. -/
def isHost (host : List Char) : Bool :=
  host.contains '.' && labelsFilled true host && host.all isHostChar

/-- The host of an address. -/
def host (s : Scheme) (url : List Char) : List Char :=
  (url.drop s.hostStart).takeWhile fun c => !(c == '/' || c == '?' || c == '\x23' || c == ':')

/-- The address at the start of a run, if its host is plausible. -/
def url? (s : Scheme) (run : List Char) : Option (List Char) :=
  let url := trim run
  if isHost (host s url) then some url else none

/-- Goes through a text. `boundary` says whether an address may begin here, and `skip` how many
characters are already accounted for. -/
def scan : Nat → Bool → Nat → List Char → List Autolink
  | _, _, _, [] => []
  | position, boundary, skip, c :: rest =>
    match skip with
    | skip + 1 => scan (position + 1) (isBoundary c) skip rest
    | 0 =>
      match if boundary then Scheme.atStart? (c :: rest) else none with
      | none => scan (position + 1) (isBoundary c) 0 rest
      | some s =>
        let run := (c :: rest).takeWhile fun d => !endsRun d
        match url? s run with
        | some url =>
          ⟨position, position + url.length, s.href url⟩
            :: scan (position + 1) (isBoundary c) (url.length - 1) rest
        | none => scan (position + 1) (isBoundary c) (run.length - 1) rest

/-- The links in a text, in order. -/
def find (text : String) : List Autolink := scan 0 true 0 text.toList

/-- The offsets of all positions of a text in its UTF-8 form. -/
def byteOffsets (text : String) : Array Nat :=
  text.toList.foldl (fun out c => out.push (out.back?.getD 0 + c.utf8Size)) #[0]

/-! ### Linking the texts of a document -/

/-- The start of the link element for an address. -/
def tag (href : String) : Tag := .link .autolink href "" ""

/-- A piece of text, if there is any. -/
def piece (text : List Char) : List Event :=
  if text.isEmpty then [] else [.text (String.ofList text)]

/-- The events of what is left of a text from `position` on, with its links as elements. -/
def split (position : Nat) (text : List Char) : List Autolink → List Event
  | [] => piece text
  | link :: rest =>
    let (before, text) := text.splitAt (link.start - position)
    let (inside, text) := text.splitAt (link.stop - link.start)
    piece before
      ++ .start (tag link.href)
        :: .text (String.ofList inside)
        :: .stop .link
        :: split link.stop text rest

/-- A text with its links as elements. A text without links stays as it is, even an empty one. -/
def splitText (s : String) : List Event :=
  match find s with
  | [] => [.text s]
  | links => split 0 s.toList links

/-- Whether an element keeps the text in it from being linked. -/
def opensSuppression : Event → Bool
  | .start (.link ..) | .start (.image ..) | .start (.codeBlock _) | .start .htmlBlock => true
  | _ => false

def closesSuppression : Event → Bool
  | .stop .link | .stop .image | .stop .codeBlock | .stop .htmlBlock => true
  | _ => false

/-- How many suppressing elements are open after an event. -/
def depthAfter (depth : Nat) (e : Event) : Nat :=
  if opensSuppression e then depth + 1 else if closesSuppression e then depth - 1 else depth

/-- What becomes of an event inside `depth` suppressing elements. -/
def expand (depth : Nat) (e : Event) : List Event :=
  match e with
  | .text s => if depth = 0 then splitText s else [e]
  | e => [e]

/-- Links the texts of a document that stand outside links, images, code blocks and HTML blocks. -/
def link (events : List Event) : List Event :=
  (events.foldl
    (fun (out, depth) e => ((expand depth e).foldl Array.push out, depthAfter depth e))
    ((#[] : Array Event), 0)).1.toList

end Autolink

end PagePress
