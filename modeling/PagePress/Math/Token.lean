import PagePress.Text.Quoted

/-!
# Tokens of a formula

The words of LaTeX formulas, after commands have been looked up, and their names in messages.
-/
namespace PagePress.Math

/-- The style of a letter. -/
inductive Variant where
  | italic | normal | bold | boldItalic | script | doubleStruck | fraktur | sansSerif | monospace
  deriving DecidableEq, Repr

inductive Token where
  | endOfInput
  | number (digits : String)
  | letter (c : Char) (variant : Variant)
  | operator (c : Char)
  /-- A parenthesis or another delimiter. -/
  | fence (s : String)
  | function (name : String)
  /-- An operator such as `lim`, which takes its limit below. -/
  | limit (name : String)
  | space (width : String)
  | squareRoot
  | fraction
  | binomial
  | over (mark : Char)
  | under (mark : Char)
  | overset
  | underset
  | overbrace (mark : Char)
  | underbrace (mark : Char)
  | bigOperator (c : Char)
  | integral (c : Char)
  | slashed
  | style (variant : Variant)
  | left
  | right
  | middle
  /-- A parenthesis of a fixed size follows. -/
  | sized (size : String)
  | openBrace
  | closeBrace
  | openEnvironment
  | closeEnvironment
  | operatorName
  | text
  | subscript
  | superscript
  | ampersand
  | newLine
  | unknown (command : String)
  deriving DecidableEq, Repr

namespace Variant

def describe : Variant → String
  | .italic => "Italic"
  | .normal => "Normal"
  | .bold => "Bold"
  | .boldItalic => "BoldItalic"
  | .script => "Script"
  | .doubleStruck => "DoubleStruck"
  | .fraktur => "Fraktur"
  | .sansSerif => "SansSerif"
  | .monospace => "Monospace"

end Variant

namespace Token

/-- The name of a token that carries a character. -/
def describeMark (name : String) (c : Char) : String :=
  name ++ "(" ++ Text.quotedMark c ++ ")"

/-- The name of a token that carries a text. -/
def describeText (name s : String) : String := name ++ "(" ++ Text.quoted s ++ ")"

/-- How messages name a token. -/
def describe : Token → String
  | .endOfInput => "EOF"
  | .number digits => describeText "Number" digits
  | .letter c v => "Letter(" ++ Text.quotedMark c ++ ", " ++ v.describe ++ ")"
  | .operator c => describeMark "Operator" c
  | .fence s => describeText "Paren" s
  | .function name => describeText "Function" name
  | .limit name => describeText "Lim" name
  | .space width => "Space(" ++ (if width.contains '.' then width else width ++ ".0") ++ ")"
  | .squareRoot => "Sqrt"
  | .fraction => "Frac"
  | .binomial => "Binom"
  | .over mark => describeMark "Over" mark
  | .under mark => describeMark "Under" mark
  | .overset => "Overset"
  | .underset => "Underset"
  | .overbrace mark => describeMark "Overbrace" mark
  | .underbrace mark => describeMark "Underbrace" mark
  | .bigOperator c => describeMark "BigOp" c
  | .integral c => describeMark "Integral" c
  | .slashed => "Slashed"
  | .style v => "Style(" ++ v.describe ++ ")"
  | .left => "Left"
  | .right => "Right"
  | .middle => "Middle"
  | .sized size => describeText "Big" size
  | .openBrace => "LBrace"
  | .closeBrace => "RBrace"
  | .openEnvironment => "Begin"
  | .closeEnvironment => "End"
  | .operatorName => "OperatorName"
  | .text => "Text"
  | .subscript => "Underscore"
  | .superscript => "Circumflex"
  | .ampersand => "Ampersand"
  | .newLine => "NewLine"
  | .unknown command => describeText "Command" command

/-- Whether a digit right after the token stands for itself, so that it begins no longer number. -/
def takesDigit : Token → Bool
  | .squareRoot | .fraction | .binomial | .style _ => true
  | _ => false

end Token

end PagePress.Math
