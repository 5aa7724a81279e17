import PagePress.Text.Blank

/-!
# Selectors in a scope

A stylesheet is confined to the elements inside its scope by writing the selector of the scope
before each part of every selector. A part that already starts at the scope stays as it is.
-/
namespace PagePress.Selector

/-- The parts of a selector list that are not blank, without white space around them. Every comma
separates parts, also one inside brackets or quotes. -/
def parts (selector : List Char) : List (List Char) :=
  ((Text.pieces ',' selector).map Text.strip).filter (!·.isEmpty)

/-- A character after which a name goes on as something else: more conditions on the same element,
or a step to another one. -/
def endsName (c : Char) : Bool :=
  Text.isBlank c || c == ':' || c == '.' || c == '[' || c == '>' || c == '+' || c == '~' || c == '#'

/-- Whether a part starts at the scope. A part whose first name only begins like the scope does
not. -/
def targets (scope part : List Char) : Bool :=
  scope.isPrefixOf part &&
    match part.drop scope.length with
    | [] => true
    | c :: _ => endsName c

/-- A part of a selector, within the scope. -/
def anchor (scope part : List Char) : List Char :=
  if targets scope part then part else scope ++ ' ' :: part

/-- A selector list, within the scope. -/
def confine (scope selector : List Char) : List Char :=
  [',', ' '].intercalate ((parts selector).map (anchor scope))

end PagePress.Selector
