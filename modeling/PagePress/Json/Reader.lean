import PagePress.Json.Scalar

/-!
# Values in JSON

Readers for values of which the kind is known beforehand, and one that goes over a value of any
kind. A value of another kind than the expected one is read as far as a message needs it.
-/
namespace PagePress.Json

/-- Refuses a value because of its kind. -/
def wrongKind {α : Type} (expected : String) (c : Cursor) : Except Failure α :=
  match c.rest with
  | 'n' :: _ => do (← word ['u', 'l', 'l'] c.advance).fail (.wrongType "null" expected)
  | 't' :: _ => do (← word ['r', 'u', 'e'] c.advance).fail (.wrongType "boolean `true`" expected)
  | 'f' :: _ => do
    (← word ['a', 'l', 's', 'e'] c.advance).fail (.wrongType "boolean `false`" expected)
  | '\x22' :: _ => do
    let (s, c) ← string c.advance
    c.fail (.wrongType ("string " ++ Text.quoted s) expected)
  | '[' :: _ => c.fail (.wrongType "sequence" expected)
  | '\x7b' :: _ => c.fail (.wrongType "map" expected)
  | '-' :: _ => do
    let (n, c) ← number false c.advance
    c.fail (.wrongType n.describe expected)
  | x :: _ =>
    if isDigit x then do
      let (n, c) ← number true c
      c.fail (.wrongType n.describe expected)
    else c.failAhead .expectedValue
  | [] => c.failAhead .expectedValue

/-- Goes over white space to the value that must follow. -/
def toValue (c : Cursor) : Except Failure Cursor :=
  let c := c.skipBlanks
  if c.rest.isEmpty then c.failAhead .endInValue else .ok c

def stringValue (expected : String) (c : Cursor) : Except Failure (String × Cursor) := do
  let c ← toValue c
  match c.rest with
  | '\x22' :: _ => string c.advance
  | _ => wrongKind expected c

def boolValue (c : Cursor) : Except Failure (Bool × Cursor) := do
  let c ← toValue c
  match c.rest with
  | 't' :: _ => return (true, ← word ['r', 'u', 'e'] c.advance)
  | 'f' :: _ => return (false, ← word ['a', 'l', 's', 'e'] c.advance)
  | _ => wrongKind "a boolean" c

/-- A number that must be a natural one of 64 bits. -/
def naturalFrom (expected : String) (positive : Bool) (c : Cursor) :
    Except Failure (Nat × Cursor) := do
  match ← number positive c with
  | (.natural n, c) => return (n, c)
  | (.negative n, c) => c.fail (.wrongValue (Number.negative n).describe expected)
  | (.float x, c) => c.fail (.wrongType (Number.float x).describe expected)

def naturalValue (expected : String) (c : Cursor) : Except Failure (Nat × Cursor) := do
  let c ← toValue c
  match c.rest with
  | '-' :: _ => naturalFrom expected false c.advance
  | x :: _ => if isDigit x then naturalFrom expected true c else wrongKind expected c
  | [] => wrongKind expected c

/-- Goes over the colon after a key. -/
def colon (c : Cursor) : Except Failure Cursor :=
  let c := c.skipBlanks
  match c.rest with
  | ':' :: _ => .ok c.advance
  | [] => c.failAhead .endInObject
  | _ => c.failAhead .expectedColon

mutual

/-- Goes over a value of any kind. Its length bounds the depth of the recursion. -/
def skipValue : Nat → Cursor → Except Failure Cursor
  | 0, c => c.fail .endInValue
  | fuel + 1, c => do
    let c ← toValue c
    match c.rest with
    | 'n' :: _ => word ['u', 'l', 'l'] c.advance
    | 't' :: _ => word ['r', 'u', 'e'] c.advance
    | 'f' :: _ => word ['a', 'l', 's', 'e'] c.advance
    | '-' :: _ => skipNumber c.advance
    | '\x22' :: _ => skipString c.advance
    | '[' :: _ =>
      let c := c.advance.skipBlanks
      match c.rest with
      | ']' :: _ => .ok c.advance
      | [] => c.failAhead .endInList
      | _ => skipElements fuel c
    | '\x7b' :: _ =>
      let c := c.advance.skipBlanks
      match c.rest with
      | '\x7d' :: _ => .ok c.advance
      | [] => c.failAhead .endInObject
      | _ => skipMembers fuel c
    | x :: _ => if isDigit x then skipNumber c else c.failAhead .expectedValue
    | [] => c.failAhead .expectedValue

/-- Goes over the elements of a list and its end. -/
def skipElements : Nat → Cursor → Except Failure Cursor
  | 0, c => c.fail .endInList
  | fuel + 1, c => do
    let c := (← skipValue fuel c).skipBlanks
    match c.rest with
    | ',' :: _ => skipElements fuel c.advance
    | ']' :: _ => .ok c.advance
    | [] => c.failAhead .endInList
    | _ => c.failAhead .expectedListEnd

/-- Goes over the members of an object and its end. -/
def skipMembers : Nat → Cursor → Except Failure Cursor
  | 0, c => c.fail .endInObject
  | fuel + 1, c => do
    let c := c.skipBlanks
    match c.rest with
    | '\x22' :: _ =>
      let c ← colon (← skipString c.advance)
      let c := (← skipValue fuel c).skipBlanks
      match c.rest with
      | ',' :: _ => skipMembers fuel c.advance
      | '\x7d' :: _ => .ok c.advance
      | [] => c.failAhead .endInObject
      | _ => c.failAhead .expectedObjectEnd
    | [] => c.failAhead .endInObject
    | _ => c.failAhead .keyNotString

end

/-- Goes over any value. Each character of it makes for at most two calls inside one another. -/
def skip (c : Cursor) : Except Failure Cursor := skipValue (2 * c.rest.length + 2) c

/-- The text must end here. -/
def finish {α : Type} (a : α) (c : Cursor) : Except Failure α :=
  let c := c.skipBlanks
  if c.rest.isEmpty then .ok a else c.failAhead .trailingCharacters

end PagePress.Json
