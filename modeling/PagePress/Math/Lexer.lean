import PagePress.Math.Command

/-!
# Reading tokens

A formula is cut into tokens from left to right. White space only separates them. The character
with code point zero reads as an end of the input, and more may follow it.
-/
namespace PagePress.Math

def isSpace (c : Char) : Bool := c == ' ' || c == '\t' || c == '\n' || c == '\r'

/-- A command without its backslash, and the rest. Letters join to a name; any other character is a
command by itself, and so is the missing one at the end of the input. -/
def splitCommand : List Char → String × List Char
  | [] => ("\x00", [])
  | c :: rest =>
    if c.isAlpha then
      (String.ofList (c :: rest.takeWhile Char.isAlpha), rest.dropWhile Char.isAlpha)
    else (c.toString, rest)

/-- The digits of a number, with one period at most, and the rest. -/
def splitNumber (cs : List Char) : String × List Char :=
  let whole := cs.takeWhile Char.isDigit
  match cs.dropWhile Char.isDigit with
  | '.' :: rest =>
    (String.ofList (whole ++ '.' :: rest.takeWhile Char.isDigit), rest.dropWhile Char.isDigit)
  | rest => (String.ofList whole, rest)

/-- The token of a single character that begins neither a number nor a command. -/
def charToken (c : Char) : Token :=
  match c with
  | '\x00' => .endOfInput
  | '\x7b' => .openBrace
  | '\x7d' => .closeBrace
  | '_' => .subscript
  | '^' => .superscript
  | '&' => .ampersand
  | c =>
    if "()[]|".contains c then .fence c.toString
    else if "=;,.\x27+-*/!<>:".contains c then .operator c
    else if c.isAlpha then .letter c .italic
    else .letter c .normal

/-- The first token of a text that does not begin with white space, and the rest. After a token
that takes a digit, a number is one digit long. -/
def nextToken (single : Bool) (c : Char) (rest : List Char) : Token × List Char :=
  if c == '\\' then
    let (name, rest) := splitCommand rest
    (Command.token name, rest)
  else if c.isDigit then
    if single then (.number c.toString, rest)
    else
      let (digits, rest) := splitNumber (c :: rest)
      (.number digits, rest)
  else if c == ':' && rest.head? == some '=' then (.fence ":=", rest.drop 1)
  else (charToken c, rest)

/-- Every token uses up a character, so the length of the text is enough fuel. -/
def tokensFrom : Nat → Bool → List Char → List Token
  | 0, _, _ => []
  | fuel + 1, single, cs =>
    match cs.dropWhile isSpace with
    | [] => []
    | c :: rest =>
      let (token, rest) := nextToken single c rest
      token :: tokensFrom fuel token.takesDigit rest

def tokens (source : String) : List Token :=
  let cs := source.toList
  tokensFrom cs.length false cs

end PagePress.Math
