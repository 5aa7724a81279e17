import PagePress.Math.Formula
import PagePress.Math.Lexer

/-!
# Reading formulas

Tokens are read into a formula by recursive descent. A reader takes the tokens from the first one of
its part on and answers the tokens after it; a missing token reads as the end of the input. What a
reader does is given up to the parts that it calls for (`Reading`), and `read` carries the calls out,
with room for so many of them inside each other.
-/
namespace PagePress.Math

/-- Why a formula cannot be read. -/
inductive Failure where
  | unexpectedToken (expected found : Token)
  | missingParenthesis (place found : Token)
  | unknownEnvironment (name : String)
  /-- A middle delimiter that is neither an operator nor a parenthesis. There is no answer to it:
  the whole program stops. -/
  | badMiddle
  /-- No room for one more call inside the others. There is no answer to this either. -/
  | noRoom
  deriving DecidableEq, Repr

/-- The wording of a failure. -/
def Failure.message : Failure → String
  | .unexpectedToken expected found =>
    "Expected token \"" ++ expected.describe ++ "\", but got \"" ++ found.describe ++ "\"."
  | .missingParenthesis place found =>
    "There must be a parenthesis after \"" ++ place.describe
      ++ "\", but not found. Insted, \"" ++ found.describe ++ "\" was found."
  | .unknownEnvironment name => "An unknown environment \"" ++ name ++ "\" was found"
  | .badMiddle => "not implemented"
  | .noRoom => "stack overflow"

namespace Parser

abbrev Tokens := List Token

def first (ts : Tokens) : Token := ts.headD .endOfInput

/-- The letters at the start, and the tokens after them. -/
def letters : Tokens → List Char × Tokens
  | .letter c _ :: rest =>
    let (cs, rest) := letters rest
    (c :: cs, rest)
  | ts => ([], ts)

/-- The letters of a text in braces. Whatever stands around the letters counts as the braces. -/
def bracedText (ts : Tokens) : String × Tokens :=
  let (cs, rest) := letters (ts.drop 1)
  (String.ofList cs, rest.drop 1)

/-- A parenthesis after `place`; where `dot` is set, a period stands for an invisible one. -/
def parenthesis (place : Token) (dot : Bool) (ts : Tokens) : Except Failure (String × Tokens) :=
  match first ts with
  | .fence s => .ok (s, ts.drop 1)
  | .operator '.' =>
    if dot then .ok ("", ts.drop 1) else .error (.missingParenthesis place (.operator '.'))
  | found => .error (.missingParenthesis place found)

/-- The matrix of an environment. -/
def environment (name : String) (content : Formula) : Except Failure Formula :=
  match name with
  | "matrix" => .ok (.matrix false content)
  | "pmatrix" => .ok (.fenced "(" ")" (.matrix false content))
  | "bmatrix" => .ok (.fenced "[" "]" (.matrix false content))
  | "vmatrix" => .ok (.fenced "|" "|" (.matrix false content))
  | "align" => .ok (.matrix true content)
  | name => .error (.unknownEnvironment name)

/-- A prime after a formula. -/
def withPrime (f : Formula) (ts : Tokens) : Formula × Tokens :=
  match ts with
  | .operator '\x27' :: rest => (f.primed, rest)
  | _ => (f, ts)

/-- The delimiter that a middle delimiter is. -/
def middleDelimiter : Formula → Except Failure Formula
  | .operator c => .ok (.stretched c.toString)
  | .fence s => .ok (.stretched s)
  | _ => .error .badMiddle

/-- The parts of a formula whose readers call each other. -/
inductive Part where
  /-- A formula with its index or exponent. -/
  | node
  /-- A formula without index and exponent, with the prime that may follow it. -/
  | single
  /-- The formulas before a closing token, as one formula. -/
  | group (closing : Token)
  deriving DecidableEq, Repr

/-- What a reader does, up to the parts that it calls for. -/
inductive Reading (α : Type) where
  | done (answer : α)
  | failed (failure : Failure)
  | calls (part : Part) (ts : Tokens) (next : Formula × Tokens → Reading α)

namespace Reading

variable {α β : Type}

def bind : Reading α → (α → Reading β) → Reading β
  | done a, f => f a
  | failed failure, _ => failed failure
  | calls part ts next, f => calls part ts fun x => (next x).bind f

instance : Monad Reading where
  pure := done
  bind := bind

/-- What a step without calls answers. -/
def ofExcept : Except Failure α → Reading α
  | .ok a => done a
  | .error failure => failed failure

/-- Carries a reading out, given what is answered to its calls. -/
def run (answer : Part → Tokens → Except Failure (Formula × Tokens)) : Reading α → Except Failure α
  | done a => .ok a
  | failed failure => .error failure
  | calls part ts next => answer part ts >>= fun x => (next x).run answer

end Reading

def node (ts : Tokens) : Reading (Formula × Tokens) := .calls .node ts .done

def single (ts : Tokens) : Reading (Formula × Tokens) := .calls .single ts .done

def group (closing : Token) (ts : Tokens) : Reading (Formula × Tokens) :=
  .calls (.group closing) ts .done

/-- What is made of the next formula. -/
def ofNode (make : Formula → Formula) (ts : Tokens) : Reading (Formula × Tokens) := do
  let (f, rest) ← node ts
  return (make f, rest)

/-- What is made of the next two formulas. -/
def ofNodes (make : Formula → Formula → Formula) (ts : Tokens) : Reading (Formula × Tokens) := do
  let (f, rest) ← node ts
  let (g, rest) ← node rest
  return (make f g, rest)

/-- A formula with the index or the exponent that may follow it, which may have one itself. -/
def indexed (base : Formula) : Tokens → Reading (Formula × Tokens)
  | .subscript :: rest => ofNode (.subscript base) rest
  | .superscript :: rest => ofNode (.superscript base) rest
  | rest => .done (base, rest)

/-- A formula with the script that may follow behind `mark`. -/
def withScript (mark : Token) (scripted : Formula → Formula) (bare : Formula) (ts : Tokens) :
    Reading (Formula × Tokens) :=
  if first ts == mark then do
    let (script, rest) ← single (ts.drop 1)
    return (scripted script, rest)
  else .done (bare, ts)

/-- The formula that begins with `token`. -/
def unprimed (token : Token) (ts : Tokens) : Reading (Formula × Tokens) :=
  match token with
  | .number digits => .done (.number digits, ts)
  | .letter c v => .done (.letter c v, ts)
  | .operator c => .done (.operator c, ts)
  | .fence s => .done (.fence s, ts)
  | .function name => .done (.function name, ts)
  | .space width => .done (.space width, ts)
  | .ampersand => .done (.ampersand, ts)
  | .newLine => .done (.newLine, ts)
  | .squareRoot =>
    match ts with
    | .fence "[" :: rest => do
      let (degree, rest) ← group (.fence "]") rest
      ofNode (.root degree) rest
    | _ => ofNode .squareRoot ts
  | .fraction => ofNodes (.fraction true) ts
  | .binomial => ofNodes (fun top bottom => .fenced "(" ")" (.fraction false top bottom)) ts
  | .over mark => ofNode (.markOver true mark) ts
  | .under mark => ofNode (.markUnder mark) ts
  | .overset => ofNodes .over ts
  | .underset => ofNodes .under ts
  | .overbrace mark => do
    let (base, rest) ← single ts
    withScript .superscript (fun note => .over (.over note (.operator mark)) base)
      (.over (.operator mark) base) rest
  | .underbrace mark => do
    let (base, rest) ← single ts
    withScript .subscript (fun note => .under (.under note (.operator mark)) base)
      (.under (.operator mark) base) rest
  | .bigOperator c =>
    match ts with
    | .subscript :: rest => do
      let (bottom, rest) ← single rest
      withScript .superscript (.underOver (.operator c) bottom) (.under bottom (.operator c)) rest
    | .superscript :: rest => do
      let (top, rest) ← single rest
      withScript .subscript (.underOver (.operator c) · top) (.markOver false c top) rest
    | _ => .done (.operator c, ts)
  | .limit name => withScript .subscript (.under · (.function name)) (.function name) ts
  | .integral c =>
    match ts with
    | .subscript :: rest => do
      let (sub, rest) ← single rest
      withScript .superscript (.subSuperscript (.operator c) sub) (.subscript (.operator c) sub) rest
    | .superscript :: rest => do
      let (super, rest) ← single rest
      withScript .subscript (.subSuperscript (.operator c) · super) (.superscript (.operator c) super)
        rest
    | _ => .done (.operator c, ts)
  | .slashed => do
    let (content, rest) ← node (ts.drop 1)
    return (.slashed content, rest.drop 1)
  | .style v => ofNode (·.styled v) ts
  | .openBrace => group .closeBrace ts
  | .left => do
    let (opening, rest) ← .ofExcept (parenthesis .left true ts)
    let (content, rest) ← group .right rest
    let (closing, rest) ← .ofExcept (parenthesis .right true rest)
    return (.fenced opening closing content, rest)
  | .middle => do
    let (f, rest) ← single ts
    return (← .ofExcept (middleDelimiter f), rest)
  | .sized size => do
    let (paren, rest) ← .ofExcept (parenthesis (.sized size) false ts)
    return (.sized size paren, rest)
  | .openEnvironment => do
    let (name, rest) := bracedText ts
    let (content, rest) ← group .closeEnvironment rest
    let f ← .ofExcept (environment name content)
    return (f, (bracedText rest).2)
  | .operatorName =>
    let (name, rest) := bracedText ts
    .done (.function name, rest)
  | .text =>
    let (s, rest) := bracedText ts
    .done (.text s, rest)
  | token => .done (.undefined token, ts)

/-- The formulas before `closing`. Each of them takes a token, so there are no more than `n` in as many
tokens. -/
def items (closing : Token) : Nat → Tokens → Reading (List Formula × Tokens)
  | 0, _ => .failed (.unexpectedToken closing .endOfInput)
  | n + 1, ts =>
    if first ts == closing then .done ([], ts.drop 1)
    else if first ts == .endOfInput then .failed (.unexpectedToken closing .endOfInput)
    else do
      let (f, rest) ← node ts
      let (fs, rest) ← items closing n rest
      return (f :: fs, rest)

/-- What the reader of a part does. -/
def reader : Part → Tokens → Reading (Formula × Tokens)
  | .node, ts => do
    let (base, rest) ← single ts
    indexed base rest
  | .single, ts => do
    let (f, rest) ← unprimed (first ts) (ts.drop 1)
    return withPrime f rest
  | .group closing, ts => do
    let (items, rest) ← items closing ts.length ts
    return (Formula.group items, rest)

/-- The formulas of a whole text, of which there are no more than `n` in as many tokens. -/
def all : Nat → Tokens → Reading (List Formula)
  | 0, _ => .done []
  | n + 1, ts =>
    if first ts == .endOfInput then .done []
    else do
      let (f, rest) ← node ts
      let fs ← all n rest
      return f :: fs

/-- Reads a part, with room for `room` calls inside each other, its own among them. -/
def read : Nat → Part → Tokens → Except Failure (Formula × Tokens)
  | 0, _, _ => .error .noRoom
  | room + 1, part, ts => (reader part ts).run (read room)

/-- Room for all calls that these tokens can put inside each other: three for each of them, and two at
the end. -/
def roomFor (ts : Tokens) : Nat := 3 * ts.length + 2

end Parser

/-- Reads a formula, with room for `room` calls of readers inside each other. -/
def parseWithin (room : Nat) (source : String) : Except Failure (List Formula) :=
  let ts := tokens source
  (Parser.all ts.length ts).run (Parser.read room)

/-- Reads a formula, with room for all calls. -/
def parse (source : String) : Except Failure (List Formula) :=
  parseWithin (Parser.roomFor (tokens source)) source

/-- How a formula is set: within a line, or on a line of its own. -/
inductive Display where
  | inline | block
  deriving DecidableEq, Repr

def Display.name : Display → String
  | .inline => "inline"
  | .block => "block"

/-- The MathML of a formula that is read with room for `room` calls inside each other. -/
def mathmlWithin (room : Nat) (source : String) (display : Display) : Except Failure String := do
  let formulas ← parseWithin room source
  return "<math xmlns=\"http://www.w3.org/1998/Math/MathML\" display=\"" ++ display.name ++ "\">"
    ++ String.join (formulas.map Formula.mathml) ++ "</math>"

/-- The MathML of a formula. -/
def mathml (source : String) (display : Display) : Except Failure String :=
  mathmlWithin (Parser.roomFor (tokens source)) source display

end PagePress.Math
