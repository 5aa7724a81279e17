import PagePress.Json.Reader
import PagePress.Pipeline
import PagePress.Theme.Basic

/-!
# Project configuration

A configuration is a JSON object with four optional members. It may hold others, which mean nothing;
and it may be written as a list of the four values in order, the last ones left out.
-/
namespace PagePress

/-- The settings of a project. -/
structure Config where
  defaultTheme : String := Theme.defaultId
  includeSource : Bool := true
  outDir : String := "dist"
  maxSourceBytes : Nat := ({} : Pipeline).maxSourceBytes
  deriving DecidableEq, Repr

namespace Config

/-- The name of the file that holds the settings. -/
def fileName : String := "homepage.json"

inductive Key where
  | defaultTheme
  | includeSource
  | outDir
  | maxSourceBytes
  deriving DecidableEq, Repr

def Key.name : Key → String
  | defaultTheme => "defaultTheme"
  | includeSource => "includeSource"
  | outDir => "outDir"
  | maxSourceBytes => "maxSourceBytes"

/-- The keys in the order of a list. -/
def Key.all : List Key := [defaultTheme, includeSource, outDir, maxSourceBytes]

def Key.ofName? (name : String) : Option Key := Key.all.find? (·.name == name)

/-- The settings that have been read so far. -/
structure Draft where
  defaultTheme : Option String := none
  includeSource : Option Bool := none
  outDir : Option String := none
  maxSourceBytes : Option Nat := none
  deriving DecidableEq, Repr

namespace Draft

def has (d : Draft) : Key → Bool
  | .defaultTheme => d.defaultTheme.isSome
  | .includeSource => d.includeSource.isSome
  | .outDir => d.outDir.isSome
  | .maxSourceBytes => d.maxSourceBytes.isSome

/-- Reads the value of a key. -/
def read (d : Draft) (key : Key) (c : Json.Cursor) :
    Except Json.Failure (Draft × Json.Cursor) := do
  match key with
  | .defaultTheme =>
    let (v, c) ← Json.stringValue "a string" c
    return ({ d with defaultTheme := some v }, c)
  | .includeSource =>
    let (v, c) ← Json.boolValue c
    return ({ d with includeSource := some v }, c)
  | .outDir =>
    let (v, c) ← Json.stringValue "path string" c
    return ({ d with outDir := some v }, c)
  | .maxSourceBytes =>
    let (v, c) ← Json.naturalValue "usize" c
    return ({ d with maxSourceBytes := some v }, c)

/-- The settings, those that were not given at their defaults. -/
def complete (d : Draft) : Config :=
  let usual : Config := {}
  ⟨d.defaultTheme.getD usual.defaultTheme, d.includeSource.getD usual.includeSource,
    d.outDir.getD usual.outDir, d.maxSourceBytes.getD usual.maxSourceBytes⟩

end Draft

/-- Refuses a key that came before. The end of the object is gone over if it follows. -/
def refuseRepeated {α : Type} (key : Key) (c : Json.Cursor) : Except Json.Failure α :=
  let c := c.skipBlanks
  let c :=
    match c.rest with
    | '\x7d' :: _ => c.advance
    | _ => c
  c.fail (.duplicateField key.name)

/-- A member of the object, after the opening quote of its key. -/
def member (d : Draft) (c : Json.Cursor) : Except Json.Failure (Draft × Json.Cursor) := do
  let (name, c) ← Json.string c
  match Key.ofName? name with
  | none => return (d, ← Json.skip (← Json.colon c))
  | some key => if d.has key then refuseRepeated key c else d.read key (← Json.colon c)

/-- The members of the object and its end. Every member shortens the rest. -/
def members : Nat → Bool → Draft → Json.Cursor → Except Json.Failure (Draft × Json.Cursor)
  | 0, _, _, c => c.fail .endInObject
  | fuel + 1, first, d, c => do
    let c := c.skipBlanks
    match c.rest with
    | [] => c.failAhead .endInObject
    | '\x7d' :: _ => return (d, c.advance)
    | x :: _ =>
      if first then
        if x == '\x22' then
          let (d, c) ← member d c.advance
          members fuel false d c
        else c.failAhead .keyNotString
      else if x == ',' then
        let c := c.advance.skipBlanks
        match c.rest with
        | '\x22' :: _ =>
          let (d, c) ← member d c.advance
          members fuel false d c
        | '\x7d' :: _ => c.failAhead .trailingComma
        | [] => c.failAhead .endInValue
        | _ => c.failAhead .keyNotString
      else c.failAhead .expectedObjectEnd

/-- The end of the list. -/
def listEnd (d : Draft) (c : Json.Cursor) : Except Json.Failure (Draft × Json.Cursor) :=
  let c := c.skipBlanks
  match c.rest with
  | ']' :: _ => .ok (d, c.advance)
  | ',' :: _ =>
    let c := c.advance.skipBlanks
    match c.rest with
    | ']' :: _ => c.failAhead .trailingComma
    | _ => c.failAhead .trailingCharacters
  | [] => c.failAhead .endInList
  | _ => c.failAhead .trailingCharacters

/-- The values of the list for the given keys, and its end. -/
def elements : List Key → Bool → Draft → Json.Cursor →
    Except Json.Failure (Draft × Json.Cursor)
  | [], _, d, c => listEnd d c
  | key :: keys, first, d, c => do
    let c := c.skipBlanks
    match c.rest with
    | [] => c.failAhead .endInList
    | ']' :: _ => listEnd d c
    | x :: _ =>
      if first then
        let (d, c) ← d.read key c
        elements keys false d c
      else if x == ',' then
        let c := c.advance.skipBlanks
        match c.rest with
        | ']' :: _ => c.failAhead .trailingComma
        | [] => c.failAhead .endInValue
        | _ =>
          let (d, c) ← d.read key c
          elements keys false d c
      else c.failAhead .expectedListEnd

/-- The settings in a text. -/
def parse (text : String) : Except Json.Failure Config := do
  let c ← Json.toValue ⟨text.toList, {}⟩
  match c.rest with
  | '\x7b' :: _ =>
    let (d, c) ← members (c.rest.length + 1) true {} c.advance
    Json.finish d.complete c
  | '[' :: _ =>
    let (d, c) ← elements Key.all true {} c.advance
    Json.finish d.complete c
  | _ => Json.wrongKind "struct HomepageConfig" c

end Config

end PagePress
