import PagePress.Text.CodePoints

/-!
# White space, and cutting texts

Three classes of white space: the Unicode property White_Space, the ASCII characters that separate
words, and those of them that stay within a line. Trimming goes by the first. A text is cut into
pieces at a single character.
-/
namespace PagePress.Text

def blankSet : CodeSet := ⟨#[
  (0x9, 0xD), (0x20, 0x20), (0x85, 0x85), (0xA0, 0xA0), (0x1680, 0x1680), (0x2000, 0x200A),
  (0x2028, 0x2029), (0x202F, 0x202F), (0x205F, 0x205F), (0x3000, 0x3000)]⟩

/-- White space in the sense of Unicode. -/
def isBlank (c : Char) : Bool := blankSet.contains c

/-- ASCII white space that does not end a line: tab, vertical tab, form feed, space. -/
def isInlineBlank (c : Char) : Bool :=
  c == ' ' || c == '\t' || c == '\x0b' || c == '\x0c'

/-- ASCII white space, the two characters that end a line among it. -/
def isAsciiBlank (c : Char) : Bool :=
  isInlineBlank c || c == '\n' || c == '\r'

/-- The characters without the white space at their end. -/
def stripEnd (cs : List Char) : List Char := (cs.reverse.dropWhile isBlank).reverse

/-- The characters without the white space at both ends. -/
def strip (cs : List Char) : List Char := stripEnd (cs.dropWhile isBlank)

/-- The text without the white space at its end. -/
def trimEnd (s : String) : String := String.ofList (stripEnd s.toList)

/-- The text without the white space at both ends. -/
def trim (s : String) : String := String.ofList (strip s.toList)

/-- The pieces of a text between the occurrences of a separator: one more than there are
occurrences. -/
def pieces (separator : Char) : List Char → List (List Char)
  | [] => [[]]
  | c :: rest =>
    if c == separator then [] :: pieces separator rest
    else
      match pieces separator rest with
      | [] => [[c]]
      | piece :: more => (c :: piece) :: more

end PagePress.Text
