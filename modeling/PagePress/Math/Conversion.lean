import PagePress.Markup.Event
import PagePress.Math.Parser
import PagePress.Math.Sanitize

/-!
# Formulas in a document

The formulas of a document become MathML. One that cannot be converted stays in the text as it was
written. Only a middle delimiter without a rule has no such way out.
-/
namespace PagePress

/-- The end of the whole program in the middle of its work. -/
structure Crash where
  deriving DecidableEq, Repr

namespace Math

/-- Braces may nest this deep in a formula. -/
def maxGroupDepth : Nat := 64

/-- The number of open braces after a character; a closing brace too many counts for nothing. -/
def braceDepthAfter (depth : Nat) (c : Char) : Nat :=
  if c == '\x7b' then depth + 1 else if c == '\x7d' then depth - 1 else depth

/-- The greatest number of braces that are open at once, beginning at `depth`. -/
def groupDepthFrom (depth : Nat) : List Char → Nat
  | [] => depth
  | c :: rest => max depth (groupDepthFrom (braceDepthAfter depth c) rest)

def groupDepth (source : String) : Nat := groupDepthFrom 0 source.toList

/-- Why a formula stays in the text. -/
inductive Rejection where
  | nestedTooDeep
  | unreadable (failure : Failure)
  | unsafeMathml (flaw : Flaw)
  deriving DecidableEq, Repr

def Rejection.message : Rejection → String
  | .nestedTooDeep => "groups nested deeper than " ++ toString maxGroupDepth
  | .unreadable failure => failure.message
  | .unsafeMathml flaw => flaw.message

/-- What comes of a formula. -/
inductive Conversion where
  | mathml (s : String)
  | rejected (reason : Rejection)
  | crash
  deriving DecidableEq, Repr

/-- What gives MathML to a formula. -/
abbrev Converter := String → Display → Except Failure String

/-- Converts a formula, given the converter. -/
def convertWith (converter : Converter) (source : String) (display : Display) : Conversion :=
  if maxGroupDepth < groupDepth source then .rejected .nestedTooDeep
  else
    match converter source display with
    | .error .badMiddle | .error .noRoom => .crash
    | .error failure => .rejected (.unreadable failure)
    | .ok m =>
      match sanitize m with
      | .ok m => .mathml m
      | .error flaw => .rejected (.unsafeMathml flaw)

def convert : String → Display → Conversion := convertWith mathml

/-- The marks around a formula in the source text. -/
def Display.delimiter : Display → String
  | .inline => "$"
  | .block => "$$"

def Display.className : Display → String
  | .inline => "math math-inline"
  | .block => "math math-display"

/-- A formula as it was written. -/
def literal (source : String) (display : Display) : String :=
  display.delimiter ++ source ++ display.delimiter

@[simp] theorem literal_inline (source : String) : literal source .inline = "$" ++ source ++ "$" := rfl

@[simp] theorem literal_block (source : String) : literal source .block = "$$" ++ source ++ "$$" := rfl

/-- MathML in the element that marks it as inline or display math. -/
def wrap (mathml : String) (display : Display) : String :=
  "<span class=\"" ++ display.className ++ "\">" ++ mathml ++ "</span>"

@[simp] theorem wrap_inline (mathml : String) :
    wrap mathml .inline = "<span class=\"math math-inline\">" ++ mathml ++ "</span>" := rfl

@[simp] theorem wrap_block (mathml : String) :
    wrap mathml .block = "<span class=\"math math-display\">" ++ mathml ++ "</span>" := rfl

/-- The event that a formula becomes, given the converter. -/
def renderWith (converter : Converter) (source : String) (display : Display) : Except Crash Event :=
  match convertWith converter source display with
  | .mathml m => .ok (.inlineHtml (wrap m display))
  | .rejected _ => .ok (.text (literal source display))
  | .crash => .error {}

def render : String → Display → Except Crash Event := renderWith mathml

/-- The formula of an event. -/
def ofEvent? : Event → Option (String × Display)
  | .inlineMath s => some (s, .inline)
  | .displayMath s => some (s, .block)
  | _ => none

def renderEventWith (converter : Converter) (e : Event) : Except Crash Event :=
  match ofEvent? e with
  | some (source, display) => renderWith converter source display
  | none => .ok e

/-- Converts the formulas of a document, in order, given the converter. -/
def renderAllWith (converter : Converter) (events : List Event) : Except Crash (List Event) :=
  events.mapM (renderEventWith converter)

def renderAll : List Event → Except Crash (List Event) := renderAllWith mathml

end Math

end PagePress
