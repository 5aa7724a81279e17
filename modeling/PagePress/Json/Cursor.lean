/-!
# Places in a JSON text

A cursor stands before the next character of a text and knows its line and column. Columns count
bytes. Errors name the place either before the next character or just after its first byte.
-/
namespace PagePress.Json

structure Position where
  line : Nat := 1
  column : Nat := 0
  deriving DecidableEq, Repr

def Position.after (p : Position) (c : Char) : Position :=
  if c == '\n' then ⟨p.line + 1, 0⟩ else ⟨p.line, p.column + c.utf8Size⟩

/-- The position after the first byte of the next character, if there is one. -/
def Position.within (p : Position) : List Char → Position
  | [] => p
  | '\n' :: _ => ⟨p.line + 1, 0⟩
  | _ :: _ => ⟨p.line, p.column + 1⟩

/-- The position `n` bytes further on. -/
def Position.skipBytes (p : Position) : Nat → List Char → Position
  | 0, _ | _, [] => p
  | n + 1, c :: rest =>
    if c.utf8Size ≤ n + 1 then (p.after c).skipBytes (n + 1 - c.utf8Size) rest
    else ⟨p.line, p.column + (n + 1)⟩
termination_by _ cs => cs.length

structure Cursor where
  rest : List Char
  position : Position := {}

namespace Cursor

def advance (c : Cursor) : Cursor :=
  match c.rest with
  | [] => c
  | x :: rest => ⟨rest, c.position.after x⟩

def isBlank (x : Char) : Bool := x == ' ' || x == '\n' || x == '\t' || x == '\r'

def skipBlanksFrom (p : Position) : List Char → Cursor
  | [] => ⟨[], p⟩
  | x :: rest => if isBlank x then skipBlanksFrom (p.after x) rest else ⟨x :: rest, p⟩

/-- Goes over white space. -/
def skipBlanks (c : Cursor) : Cursor := skipBlanksFrom c.position c.rest

end Cursor

/-- What is wrong with a text. -/
inductive Fault where
  | endInValue
  | endInObject
  | endInList
  | endInString
  | expectedColon
  | expectedListEnd
  | expectedObjectEnd
  | expectedWord
  | expectedValue
  | invalidEscape
  | invalidNumber
  | numberOutOfRange
  | controlCharacter
  | keyNotString
  | loneSurrogate
  | unfinishedSurrogate
  | trailingComma
  | trailingCharacters
  | wrongType (found expected : String)
  | wrongValue (found expected : String)
  | duplicateField (name : String)
  deriving DecidableEq, Repr

def Fault.message : Fault → String
  | endInValue => "EOF while parsing a value"
  | endInObject => "EOF while parsing an object"
  | endInList => "EOF while parsing a list"
  | endInString => "EOF while parsing a string"
  | expectedColon => "expected `:`"
  | expectedListEnd => "expected `,` or `]`"
  | expectedObjectEnd => "expected `,` or `\x7d`"
  | expectedWord => "expected ident"
  | expectedValue => "expected value"
  | invalidEscape => "invalid escape"
  | invalidNumber => "invalid number"
  | numberOutOfRange => "number out of range"
  | controlCharacter => "control character (\\u0000-\\u001F) found while parsing a string"
  | keyNotString => "key must be a string"
  | loneSurrogate => "lone leading surrogate in hex escape"
  | unfinishedSurrogate => "unexpected end of hex escape"
  | trailingComma => "trailing comma"
  | trailingCharacters => "trailing characters"
  | wrongType found expected => "invalid type: " ++ found ++ ", expected " ++ expected
  | wrongValue found expected => "invalid value: " ++ found ++ ", expected " ++ expected
  | duplicateField name => "duplicate field `" ++ name ++ "`"

structure Failure where
  fault : Fault
  position : Position
  deriving DecidableEq, Repr

def Failure.message (f : Failure) : String :=
  f.fault.message ++ " at line " ++ toString f.position.line ++ " column " ++
    toString f.position.column

/-- A failure before the next character. -/
def Cursor.fail {α : Type} (c : Cursor) (fault : Fault) : Except Failure α :=
  .error ⟨fault, c.position⟩

/-- A failure at the next character. -/
def Cursor.failAhead {α : Type} (c : Cursor) (fault : Fault) : Except Failure α :=
  .error ⟨fault, c.position.within c.rest⟩

end PagePress.Json
