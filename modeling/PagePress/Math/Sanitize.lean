/-!
# Safe MathML

MathML from the formula converter is checked and escaped before it goes into a page. The content of
a token element, such as an identifier or a number, is character data: markup characters in it are
escaped, and the element has to be closed right behind it. Numeric character references stay.
-/
namespace PagePress.Math

/-- Why MathML is refused. -/
inductive Flaw where
  | parseError (detail : String)
  | unterminatedTag
  | unclosed (element : String)
  deriving DecidableEq, Repr

def Flaw.message : Flaw → String
  | .parseError detail => detail
  | .unterminatedTag => "unterminated tag"
  | .unclosed element => "<" ++ element ++ "> is not closed"

namespace Sanitize

/-- The elements whose content is character data. -/
def tokenElements : List String := ["mi", "mn", "mo", "ms", "mtext"]

/-- The rest of a text after the first place where `word` stands, `word` included. -/
def from? (word : List Char) : List Char → Option (List Char)
  | [] => if word.isEmpty then some [] else none
  | c :: rest => if word.isPrefixOf (c :: rest) then some (c :: rest) else from? word rest

/-- What stands before the first place where `word` stands, or everything. -/
def before (word : List Char) : List Char → List Char
  | [] => []
  | c :: rest => if word.isPrefixOf (c :: rest) then [] else c :: before word rest

/-- What the converter leaves in its output for a part that it could not read. -/
def errorMark : List Char := "[PARSE ERROR".toList

/-- The converter closes sized parentheses by a tag of another name. -/
def misspelled : List Char := "</mro>".toList

/-- Gives every misspelled closing tag its right name. -/
def correctTags : Nat → List Char → List Char
  | _, [] => []
  | skip + 1, _ :: rest => correctTags skip rest
  | 0, c :: rest =>
    if misspelled.isPrefixOf (c :: rest) then
      "</mo>".toList ++ correctTags (misspelled.length - 1) rest
    else c :: correctTags 0 rest

def isHexDigit (c : Char) : Bool :=
  c.isDigit || ('a' ≤ c && c ≤ 'f') || ('A' ≤ c && c ≤ 'F')

/-- Whether digits and then a semicolon follow. -/
def closesReference (cs : List Char) : Bool :=
  !(cs.takeWhile isHexDigit).isEmpty && (cs.dropWhile isHexDigit).head? == some ';'

/-- Whether what follows an ampersand makes it a numeric character reference. -/
def startsReference : List Char → Bool
  | '\x23' :: 'x' :: rest => closesReference rest
  | '\x23' :: 'X' :: rest => closesReference rest
  | '\x23' :: rest => closesReference rest
  | _ => false

/-- Character data with its markup characters escaped. -/
def escape : List Char → List Char
  | [] => []
  | c :: rest =>
    if c == '<' then "&lt;".toList ++ escape rest
    else if c == '>' then "&gt;".toList ++ escape rest
    else if c == '&' && !startsReference rest then "&amp;".toList ++ escape rest
    else c :: escape rest

/-- The token element that a tag opens, if it opens one. -/
def tokenElement? (tag : List Char) : Option String :=
  if "</".toList.isPrefixOf tag || "/>".toList.isSuffixOf tag then none
  else
    let name := String.ofList ((tag.drop 1).takeWhile fun c => c != ' ' && c != '>')
    tokenElements.find? (· == name)

/-- Goes through MathML with `fuel` tags at most; their number is no greater than the length. -/
def scan : Nat → List Char → Except Flaw (List Char)
  | 0, cs => .ok (escape cs)
  | fuel + 1, cs =>
    let text := escape (cs.takeWhile (· != '<'))
    match cs.dropWhile (· != '<') with
    | [] => .ok text
    | rest =>
      if !rest.contains '>' then .error .unterminatedTag
      else
        let tag := rest.takeWhile (· != '>') ++ ['>']
        let rest := (rest.dropWhile (· != '>')).drop 1
        match tokenElement? tag with
        | none => return text ++ tag ++ (← scan fuel rest)
        | some name =>
          let content := before "</".toList rest
          let rest := rest.drop content.length
          if ("</" ++ name ++ ">").toList.isPrefixOf rest then
            return text ++ tag ++ escape content ++ (← scan fuel rest)
          else .error (.unclosed name)

end Sanitize

/-- Safe MathML, or what is wrong with it. -/
def sanitize (mathml : String) : Except Flaw String :=
  let cs := mathml.toList
  match Sanitize.from? Sanitize.errorMark cs with
  | some found =>
    .error (.parseError (String.ofList ((found.drop 1).takeWhile (· != ']'))))
  | none =>
    let cs := Sanitize.correctTags 0 cs
    (Sanitize.scan (cs.length + 1) cs).map String.ofList

end PagePress.Math
