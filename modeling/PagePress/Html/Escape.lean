/-!
# Escaping

How text is put into HTML: into the text of an element, into a quoted attribute value, and into an
address. These escape character by character, so that nothing is escaped twice. Text that may stand
in either of the first two places is escaped by four replacements, the ampersand's first.
-/
namespace PagePress.Html

/-- Each character replaced by the text that stands for it. -/
def substitute (f : Char → String) (s : String) : String :=
  s.foldl (fun out c => out ++ f c) ""

/-- The text of an element. -/
def escapeText : String → String :=
  substitute fun
    | '&' => "&amp;"
    | '<' => "&lt;"
    | '>' => "&gt;"
    | c => c.toString

/-- The value of an attribute, in quotes of either kind. -/
def escapeAttribute : String → String :=
  substitute fun
    | '&' => "&amp;"
    | '<' => "&lt;"
    | '>' => "&gt;"
    | '\x22' => "&quot;"
    | '\x27' => "&#x27;"
    | c => c.toString

/-- The characters that an address keeps as they are. -/
def isAddressChar (c : Char) : Bool := c.isAlphanum || "!#$%()*+,-./:;=?@_~".contains c

def upperHexDigit (n : Nat) : Char :=
  if n < 10 then Char.ofNat ('0'.toNat + n) else Char.ofNat ('A'.toNat + n - 10)

def percentByte (b : UInt8) : String :=
  String.ofList ['%', upperHexDigit (b.toNat / 16), upperHexDigit (b.toNat % 16)]

/-- An address as an attribute value: what an address cannot hold is written byte by byte. -/
def escapeAddress : String → String :=
  substitute fun c =>
    if isAddressChar c then c.toString
    else if c == '&' then "&amp;"
    else if c == '\x27' then "&#x27;"
    else String.join (c.toString.toUTF8.toList.map percentByte)

/-- Every occurrence of a character replaced by a text. -/
def replaceChar (c : Char) (replacement : String) : String → String :=
  substitute fun d => if d == c then replacement else d.toString

/-- Text for an element or for an attribute value in double quotes. The ampersands that the later
replacements write must not be replaced again, so theirs comes first. -/
def escapePlain (s : String) : String :=
  replaceChar '\x22' "&quot;" (replaceChar '>' "&gt;" (replaceChar '<' "&lt;"
    (replaceChar '&' "&amp;" s)))

end PagePress.Html
