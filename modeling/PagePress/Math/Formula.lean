import PagePress.Math.Token

/-!
# Formulas

The tree that a formula is read into, and its MathML.
-/
namespace PagePress.Math

inductive Formula where
  | number (digits : String)
  | letter (c : Char) (variant : Variant)
  | operator (c : Char)
  | fence (s : String)
  | function (name : String)
  | space (width : String)
  | text (s : String)
  | subscript (base sub : Formula)
  | superscript (base super : Formula)
  | subSuperscript (base sub super : Formula)
  /-- A mark over a base; `accent` says whether it belongs to the base like an accent. -/
  | markOver (accent : Bool) (mark : Char) (base : Formula)
  | markUnder (mark : Char) (base : Formula)
  | over (top base : Formula)
  | under (bottom base : Formula)
  | underOver (base bottom top : Formula)
  | squareRoot (content : Formula)
  | root (degree content : Formula)
  | fraction (line : Bool) (numerator denominator : Formula)
  | fenced (opening closing : String) (content : Formula)
  | stretched (s : String)
  | sized (size paren : String)
  | row (items : List Formula)
  | matrix (leftAligned : Bool) (content : Formula)
  | slashed (content : Formula)
  | ampersand
  | newLine
  /-- A token that begins no formula. -/
  | undefined (token : Token)

namespace Formula

/-- The formula with its letters in another style. Only the letters in rows are reached. -/
def styled (v : Variant) : Formula → Formula
  | .letter c _ => .letter c v
  | .row items => .row (styledAll v items)
  | f => f
where
  styledAll (v : Variant) : List Formula → List Formula
    | [] => []
    | f :: rest => styled v f :: styledAll v rest

/-- The formula with a prime. -/
def primed (f : Formula) : Formula := .superscript f (.operator '′')

/-- A sequence of formulas; a single one stands for itself. -/
def group : List Formula → Formula
  | [f] => f
  | items => .row items

/-- The name of a style in MathML. -/
def variantName : Variant → String
  | .italic => "italic"
  | .normal => "normal"
  | .bold => "bold"
  | .boldItalic => "bold-italic"
  | .script => "script"
  | .doubleStruck => "double-struck"
  | .fraktur => "fraktur"
  | .sansSerif => "sans-serif"
  | .monospace => "monospace"

/-- What stands in the output for a part that could not be read. -/
def errorText (detail : String) : String := "<mtext>[PARSE ERROR: " ++ detail ++ "]</mtext>"

/-- A slash through a letter or an operator; anything else stays as it is. -/
def slashedLeaf? : Formula → Option String
  | .letter c v =>
    some ("<mi mathvariant=\"" ++ variantName v ++ "\">" ++ c.toString ++ "&#x0338;</mi>")
  | .operator c => some ("<mo>" ++ c.toString ++ "&#x0338;</mo>")
  | _ => none

def fenceTag (form s : String) : String :=
  "<mo stretchy=\"true\" form=\"" ++ form ++ "\">" ++ s ++ "</mo>"

/-- The MathML of a formula. -/
def mathml : Formula → String
  | .number digits => "<mn>" ++ digits ++ "</mn>"
  | .letter c .italic => "<mi>" ++ c.toString ++ "</mi>"
  | .letter c v => "<mi mathvariant=\"" ++ variantName v ++ "\">" ++ c.toString ++ "</mi>"
  | .operator c =>
    if c == '∂' then "<mo mathvariant=\"italic\">∂</mo>" else "<mo>" ++ c.toString ++ "</mo>"
  | .fence s => "<mo>" ++ s ++ "</mo>"
  | .function name => "<mi>" ++ name ++ "</mi>"
  | .space width => "<mspace width=\"" ++ width ++ "em\"/>"
  | .text s => "<mtext>" ++ s ++ "</mtext>"
  | .subscript base sub => "<msub>" ++ base.mathml ++ sub.mathml ++ "</msub>"
  | .superscript base super => "<msup>" ++ base.mathml ++ super.mathml ++ "</msup>"
  | .subSuperscript base sub super =>
    "<msubsup>" ++ base.mathml ++ sub.mathml ++ super.mathml ++ "</msubsup>"
  | .markOver accent mark base =>
    "<mover>" ++ base.mathml ++ "<mo accent=\"" ++ (if accent then "true" else "false") ++ "\">"
      ++ mark.toString ++ "</mo></mover>"
  | .markUnder mark base =>
    "<munder>" ++ base.mathml ++ "<mo accent=\"true\">" ++ mark.toString ++ "</mo></munder>"
  | .over top base => "<mover>" ++ base.mathml ++ top.mathml ++ "</mover>"
  | .under bottom base => "<munder>" ++ base.mathml ++ bottom.mathml ++ "</munder>"
  | .underOver base bottom top =>
    "<munderover>" ++ base.mathml ++ bottom.mathml ++ top.mathml ++ "</munderover>"
  | .squareRoot content => "<msqrt>" ++ content.mathml ++ "</msqrt>"
  | .root degree content => "<mroot>" ++ content.mathml ++ degree.mathml ++ "</mroot>"
  | .fraction line numerator denominator =>
    (if line then "<mfrac>" else "<mfrac linethickness=\"0\">")
      ++ numerator.mathml ++ denominator.mathml ++ "</mfrac>"
  | .fenced opening closing content =>
    "<mrow>" ++ fenceTag "prefix" opening ++ content.mathml ++ fenceTag "postfix" closing
      ++ "</mrow>"
  | .stretched s => "<mo stretchy=\"true\">" ++ s ++ "</mo>"
  | .sized size paren =>
    "<mrow><mo maxsize=\"" ++ size ++ "\" minsize=\"" ++ size ++ "\">" ++ paren ++ "</mro></mrow>"
  | .row items => "<mrow>" ++ allMathml items ++ "</mrow>"
  | .matrix leftAligned content =>
    let cells := match content with
      | .row items => cellsMathml items
      | f => f.mathml
    (if leftAligned then "<mtable columnalign=left>" else "<mtable>")
      ++ "<mtr><mtd>" ++ cells ++ "</mtd></mtr></mtable>"
  | .slashed content => (slashedLeaf? content).getD content.mathml
  | .ampersand => errorText "Ampersand"
  | .newLine => errorText "NewLine"
  | .undefined token => errorText (Token.describeText "Undefined" token.describe)
where
  /-- Several formulas in turn. -/
  allMathml : List Formula → String
    | [] => ""
    | f :: rest => f.mathml ++ allMathml rest
  /-- The inside of a matrix: ampersands end its cells and line ends its rows. -/
  cellsMathml : List Formula → String
    | [] => ""
    | .newLine :: rest => "</mtd></mtr><mtr><mtd>" ++ cellsMathml rest
    | .ampersand :: rest => "</mtd><mtd>" ++ cellsMathml rest
    | f :: rest => f.mathml ++ cellsMathml rest

end Formula

end PagePress.Math
