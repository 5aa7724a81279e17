import PagePress.Markdown.Scan
import PagePress.Text.NamedReference

/-!
# Character references and backslash escapes

A character reference names a character, gives its number in decimal, or gives it in hexadecimal.
Link destinations and the info strings of code blocks are written with references and escapes and
read by `unescape`.
-/
namespace PagePress.Markdown

namespace CharacterReference

/-- The character of that number; a number that no character has gives the replacement character,
and so does zero. -/
def ofNumber (n : Nat) : String :=
  if n ≠ 0 ∧ n.isValidChar then String.singleton (Char.ofNat n) else "\uFFFD"

def hexDigit? (c : Char) : Option Nat :=
  if c.isDigit then some (c.toNat - '0'.toNat)
  else if 'a' ≤ c && c ≤ 'f' then some (c.toNat - 'a'.toNat + 10)
  else if 'A' ≤ c && c ≤ 'F' then some (c.toNat - 'A'.toNat + 10)
  else none

def decimalDigit? (c : Char) : Option Nat :=
  if c.isDigit then some (c.toNat - '0'.toNat) else none

/-- Reads at most `count` digits and gives the number and the position after them. -/
def number (s : Chars) (base : Nat) (digit? : Char → Option Nat) (count i : Nat) : Nat × Nat :=
  go count i 0
where
  go : Nat → Nat → Nat → Nat × Nat
    | 0, i, value => (value, i)
    | count + 1, i, value =>
      match s[i]?.bind digit? with
      | some d => go count (i + 1) (value * base + d)
      | none => (value, i)

/-- Reads the character reference that begins with the ampersand at `i`. A number has at most six
hexadecimal or seven decimal digits. -/
def scan? (s : Chars) (i : Nat) : Option (String × Nat) :=
  if s[i + 1]? == some '#' then
    let hex := s[i + 2]? == some 'x' || s[i + 2]? == some 'X'
    let start := if hex then i + 3 else i + 2
    let (value, stop) :=
      if hex then number s 16 hexDigit? 6 start else number s 10 decimalDigit? 7 start
    if start < stop && s[stop]? == some ';' then some (ofNumber value, stop + 1) else none
  else
    let stop := s.skipWhile Char.isAlphanum (i + 1)
    if s[stop]? == some ';' then
      (Text.NamedReference.find? (s.slice (i + 1) stop)).map (·, stop + 1)
    else none

end CharacterReference

/-- Whether a backslash at `i` stands before a character that it can escape. -/
def escapes (s : Chars) (i : Nat) : Bool := (s[i + 1]?.map isAsciiPunctuation).getD false

/-- The text between two positions with its escapes and references resolved and its carriage
returns dropped. In a table two backslashes before a bar are dropped both, as in the cells. -/
def unescape (s : Chars) (inTable : Bool) (first last : Nat) : String :=
  let t := s.extract first last
  String.ofList (go t (t.size + 1) 0 []).reverse
where
  go (t : Chars) : Nat → Nat → List Char → List Char
    | 0, _, out => out
    | fuel + 1, i, out =>
      match t[i]? with
      | none => out
      | some '\\' =>
        if inTable && t.startsAt "\\|" (i + 1) then go t fuel (i + 3) ('|' :: out)
        else if escapes t i then go t fuel (i + 2) ((t[i + 1]?).toList ++ out)
        else go t fuel (i + 1) ('\\' :: out)
      | some '&' =>
        match CharacterReference.scan? t i with
        | some (value, next) => go t fuel next (value.toList.reverse ++ out)
        | none => go t fuel (i + 1) ('&' :: out)
      | some '\r' => go t fuel (i + 1) out
      | some c => go t fuel (i + 1) (c :: out)

end PagePress.Markdown
