import PagePress.Text.Blank

/-!
# Scanning text by position

Source text is an array of characters. The scanners return positions, never lengths, so that they
chain. The end of the text counts as the end of a line.
-/
namespace PagePress.Markdown

/-- Text addressed by character position. -/
abbrev Chars := Array Char

def isAsciiPunctuation (c : Char) : Bool :=
  ('!' ≤ c && c ≤ '/') || (':' ≤ c && c ≤ '@') || ('[' ≤ c && c ≤ '\x60')
    || ('\x7b' ≤ c && c ≤ '~')

namespace Chars

def slice (s : Chars) (first last : Nat) : String :=
  String.ofList (s.extract first last).toList

/-- The first position from `i` on whose character fails the test. -/
def skipWhile (s : Chars) (p : Char → Bool) (i : Nat) : Nat :=
  if h : i < s.size then
    if p s[i] then skipWhile s p (i + 1) else i
  else i
termination_by s.size - i

/-- The end of the run of `c` that starts at `i`. -/
def skipRun (s : Chars) (c : Char) (i : Nat) : Nat := s.skipWhile (· == c) i

/-- The least position, not under `low`, from which on all characters before `i` pass the test. -/
def skipBack (s : Chars) (p : Char → Bool) (low : Nat) : Nat → Nat
  | 0 => 0
  | i + 1 =>
    if low ≤ i then
      match s[i]? with
      | some c => if p c then skipBack s p low i else i + 1
      | none => i + 1
    else i + 1

def skipInlineBlanks (s : Chars) (i : Nat) : Nat := s.skipWhile Text.isInlineBlank i

/-- The position after the line ending at `i`; the end of the text is one, of no width. -/
def lineEnding? (s : Chars) (i : Nat) : Option Nat :=
  match s[i]? with
  | none => some i
  | some '\n' => some (i + 1)
  | some '\r' => if s[i + 1]? == some '\n' then some (i + 2) else some (i + 1)
  | some _ => none

/-- The position after the line, if nothing but blanks stands between `i` and its end. -/
def blankLine? (s : Chars) (i : Nat) : Option Nat := s.lineEnding? (s.skipInlineBlanks i)

/-- The position of the first line ending from `i` on. -/
def lineStop (s : Chars) (i : Nat) : Nat := s.skipWhile (fun c => c != '\n' && c != '\r') i

/-- The position after the next line feed. A lone carriage return does not count. -/
def nextLine (s : Chars) (i : Nat) : Nat :=
  min (s.skipWhile (· != '\n') i + 1) s.size

/-- Whether `word` stands at `i`. -/
def startsAt (s : Chars) (word : String) (i : Nat) : Bool :=
  go word.toList i
where
  go : List Char → Nat → Bool
    | [], _ => true
    | c :: rest, i => s[i]? == some c && go rest (i + 1)

/-- Whether `word`, given in lower case, stands at `i` in any mixture of ASCII cases. -/
def startsAtAnyCase (s : Chars) (word : String) (i : Nat) : Bool :=
  go word.toList i
where
  go : List Char → Nat → Bool
    | [], _ => true
    | c :: rest, i => s[i]?.map Char.toLower == some c && go rest (i + 1)

/-- The first position from `i` on at which `word` stands and ends by `last`. -/
def find? (s : Chars) (word : String) (i last : Nat) : Option Nat :=
  if i + word.length ≤ last then
    if s.startsAt word i then some i else find? s word (i + 1) last
  else none
termination_by last + 1 - i
decreasing_by omega

end Chars

end PagePress.Markdown
