import PagePress.Math.Token

/-!
# Commands

What follows a backslash in a formula: a name in letters, or one other character.
-/
namespace PagePress.Math.Command

/-- Functions that are written as their own names. -/
def functions : List String := [
  "sin", "cos", "tan", "csc", "sec", "cot", "arcsin", "arccos", "arctan", "sinh", "cosh",
  "tanh", "coth", "exp", "ln", "log", "erf", "erfc", "arg", "ker", "dim", "det"]

/-- Operators that take their limits below. -/
def limits : List String := ["lim", "sup", "inf", "min", "max"]

/-- Letters in italics. -/
def italicLetters : List (String × Char) := [
  ("alpha", 'α'), ("beta", 'β'), ("gamma", 'γ'), ("digamma", 'ϝ'), ("delta", 'δ'),
  ("epsilon", 'ϵ'), ("varepsilon", 'ε'), ("zeta", 'ζ'), ("eta", 'η'), ("theta", 'θ'),
  ("vartheta", 'ϑ'), ("iota", 'ι'), ("kappa", 'κ'), ("lambda", 'λ'), ("mu", 'μ'), ("nu", 'ν'),
  ("xi", 'ξ'), ("omicron", 'ο'), ("pi", 'π'), ("varpi", 'ϖ'), ("rho", 'ρ'), ("varrho", 'ϱ'),
  ("sigma", 'σ'), ("varsigma", 'ς'), ("tau", 'τ'), ("upsilon", 'υ'), ("phi", 'ϕ'), ("varphi", 'φ'),
  ("chi", 'χ'), ("psi", 'ψ'), ("omega", 'ω'), ("wp", '℘'), ("hbar", 'ℏ'), ("hslash", 'ℏ'),
  ("ell", 'ℓ')]

/-- Upright letters and signs. -/
def uprightLetters : List (String × Char) := [
  ("Alpha", 'Α'), ("Beta", 'Β'), ("Gamma", 'Γ'), ("Delta", 'Δ'), ("Epsilon", 'Ε'), ("Zeta", 'Ζ'),
  ("Eta", 'Η'), ("Theta", 'Θ'), ("Iota", 'Ι'), ("Kappa", 'Κ'), ("Lambda", 'Λ'), ("Mu", 'Μ'),
  ("Nu", 'Ν'), ("Xi", 'Ξ'), ("Omicron", 'Ο'), ("Pi", 'Π'), ("Rho", 'Ρ'), ("Sigma", 'Σ'),
  ("Tau", 'Τ'), ("Upsilon", 'Υ'), ("Phi", 'Φ'), ("Chi", 'Χ'), ("Psi", 'Ψ'), ("Omega", 'Ω'),
  ("aleph", 'ℵ'), ("beth", 'ℶ'), ("gimel", 'ℷ'), ("daleth", 'ℸ'), ("A", 'Å'), ("a", 'å'),
  ("AE", 'Æ'), ("ae", 'æ'), ("DH", 'Ð'), ("dh", 'ð'), ("dj", 'đ'), ("L", 'Ł'), ("l", 'ł'),
  ("NG", 'Ŋ'), ("ng", 'ŋ'), ("O", 'Ø'), ("o", 'ø'), ("OE", 'Œ'), ("oe", 'œ'), ("ss", 'ß'),
  ("TH", 'Þ'), ("th", 'þ'), ("infty", '∞'), ("Re", 'ℜ'), ("Im", 'ℑ'), ("complement", '∁'),
  ("emptyset", '∅'), ("varnothing", '∅'), ("therefore", '∴'), ("because", '∵'), ("Diamond", '◊'),
  ("Box", '◻'), ("triangle", '△'), ("angle", '∠'), ("dagger", '†'), ("dag", '†'), ("Dagger", '‡'),
  ("ddag", '‡'), ("And", '&'), ("eth", 'ð'), ("S", '§'), ("P", '¶'), ("copyright", '©'),
  ("checkmark", '✓'), ("circledR", 'Ⓡ'), ("maltese", '✠'), ("colon", ':'), ("bigtriangleup", '△'),
  ("sphericalangle", '∢'), ("square", '□'), ("lozenge", '◊'), ("diamondsuit", '♢'),
  ("heartsuit", '♡'), ("clubsuit", '♣'), ("spadesuit", '♠'), ("Game", '⅁'), ("flat", '♭'),
  ("natural", '♮'), ("sharp", '♯'), ("pounds", '£'), ("textyen", '¥'), ("euro", '€'),
  ("rupee", '₹'), ("sun", '☼'), ("mercury", '☿'), ("venus", '♀'), ("earth", '♁'), ("mars", '♂'),
  ("jupiter", '♃'), ("saturn", '♄'), ("uranus", '⛢'), ("neptune", '♆'), ("#", '\x23'), ("$", '$'),
  ("%", '%'), ("&", '&'), ("_", '_')]

/-- Operators, relations, quantifiers and arrows. -/
def operators : List (String × Char) := [
  ("times", '×'), ("div", '÷'), ("pm", '±'), ("mp", '∓'), ("cdot", '·'), ("ast", '*'),
  ("star", '⋆'), ("circ", '∘'), ("bullet", '•'), ("diamond", '⋄'), ("bigcirc", '◯'), ("oplus", '⊕'),
  ("ominus", '⊖'), ("otimes", '⊗'), ("oslash", '⊘'), ("odot", '⊙'), ("cap", '∩'), ("cup", '∪'),
  ("amalg", '⨿'), ("ltimes", '⋉'), ("rtimes", '⋊'), ("Join", '⋈'), ("lhd", '⊲'), ("rhd", '⊳'),
  ("unlhd", '⊴'), ("unrhd", '⊵'), ("vee", '∨'), ("lor", '∨'), ("uplus", '⊎'), ("wedge", '∧'),
  ("land", '∧'), ("lnot", '¬'), ("neg", '¬'), ("boxdot", '⊡'), ("boxplus", '⊞'), ("boxminus", '⊟'),
  ("boxtimes", '⊠'), ("boxbox", '⧈'), ("boxslash", '⧄'), ("boxbslash", '⧅'), ("Cap", '⋒'),
  ("Cup", '⋓'), ("centerdot", '∙'), ("circledast", '⊛'), ("circledcirc", '⊚'), ("circleddash", '⊝'),
  ("curlyvee", '⋎'), ("curlywedge", '⋏'), ("dotplus", '∔'), ("intercal", '⊺'),
  ("divideontimes", '⋇'), ("leftthreetimes", '⋋'), ("rightthreetimes", '⋌'), ("barwedge", '⊼'),
  ("veebar", '⊻'), ("doublebarwedge", '⩞'), ("cdots", '⋯'), ("ldots", '…'), ("dots", '…'),
  ("vdots", '⋮'), ("ddots", '⋱'), ("equiv", '≡'), ("sim", '∼'), ("simeq", '≃'), ("cong", '≅'),
  ("approx", '≈'), ("asymp", '≍'), ("doteq", '≐'), ("propto", '∝'), ("neq", '≠'), ("ne", '≠'),
  ("bowtie", '⋈'), ("mid", '∣'), ("nmid", '∤'), ("parallel", '∥'), ("perp", '⊥'), ("forall", '∀'),
  ("exists", '∃'), ("nexists", '∄'), ("lt", '<'), ("gt", '>'), ("leq", '≤'), ("le", '≤'),
  ("geq", '≥'), ("ge", '≥'), ("ll", '≪'), ("gg", '≫'), ("lll", '⋘'), ("ggg", '⋙'), ("leqq", '≦'),
  ("geqq", '≧'), ("leqslant", '⩽'), ("geqslant", '⩾'), ("lesssim", '≲'), ("gtrsim", '≳'),
  ("lessgtr", '≶'), ("gtrless", '≷'), ("nless", '≮'), ("ngtr", '≯'), ("nleq", '≰'), ("ngeq", '≱'),
  ("prec", '≺'), ("succ", '≻'), ("preceq", '⪯'), ("succeq", '⪰'), ("to", '→'), ("leftarrow", '←'),
  ("gets", '←'), ("rightarrow", '→'), ("nleftarrow", '↚'), ("nrightarrow", '↛'),
  ("leftrightarrow", '↔'), ("nleftrightarrow", '↮'), ("longleftarrow", '⟵'),
  ("longrightarrow", '⟶'), ("longleftrightarrow", '⟷'), ("Leftarrow", '⇐'), ("Rightarrow", '⇒'),
  ("nLeftarrow", '⇍'), ("nRightarrow", '⇏'), ("Leftrightarrow", '⇔'), ("nLeftrightarrow", '⇎'),
  ("Longleftarrow", '⟸'), ("impliedby", '⟸'), ("Longrightarrow", '⟹'), ("implies", '⟹'),
  ("Longleftrightarrow", '⟺'), ("iff", '⟺'), ("uparrow", '↑'), ("downarrow", '↓'),
  ("updownarrow", '↕'), ("Uparrow", '⇑'), ("Downarrow", '⇓'), ("Updownarrow", '⇕'),
  ("nearrow", '↗'), ("searrow", '↘'), ("swarrow", '↙'), ("nwarrow", '↖'), ("rightharpoonup", '⇀'),
  ("rightharpoondown", '⇁'), ("leftharpoonup", '↼'), ("leftharpoondown", '↽'),
  ("upharpoonleft", '↿'), ("upharpoonright", '↾'), ("downharpoonleft", '⇃'),
  ("downharpoonright", '⇂'), ("rightleftharpoons", '⇌'), ("leftrightharpoons", '⇋'),
  ("curvearrowleft", '↶'), ("circlearrowleft", '↺'), ("Lsh", '↰'), ("upuparrows", '⇈'),
  ("rightrightarrows", '⇉'), ("rightleftarrows", '⇄'), ("Rrightarrow", '⇛'),
  ("rightarrowtail", '↣'), ("looparrowright", '↬'), ("curvearrowright", '↷'),
  ("circlearrowright", '↻'), ("Rsh", '↱'), ("downdownarrows", '⇊'), ("leftleftarrows", '⇇'),
  ("leftrightarrows", '⇆'), ("Lleftarrow", '⇚'), ("leftarrowtail", '↢'), ("looparrowleft", '↫'),
  ("mapsto", '↦'), ("longmapsto", '⟼'), ("hookrightarrow", '↪'), ("hookleftarrow", '↩'),
  ("multimap", '⊸'), ("leftrightsquigarrow", '↭'), ("rightsquigarrow", '⇝'), ("lightning", '↯'),
  ("Yleft", '⤙'), ("Yright", '⤚'), ("in", '∈'), ("ni", '∉'), ("notin", '∉'), ("subset", '⊂'),
  ("supset", '⊃'), ("subseteq", '⊆'), ("supseteq", '⊇'), ("nsubseteq", '⊈'), ("nsupseteq", '⊉'),
  ("subsetneq", '⊊'), ("supsetneq", '⊋'), ("sqsubset", '⊏'), ("sqsubseteq", '⊑'), ("sqsupset", '⊐'),
  ("sqsupseteq", '⊒'), ("sqcap", '⊓'), ("sqcup", '⊔'), ("setminus", '∖'), ("partial", '∂'),
  ("nabla", '∇'), ("smile", '⌣'), ("from", '⌢'), ("wr", '≀'), ("bot", '⊥'), ("top", '⊤'),
  ("vdash", '⊢'), ("vDash", '⊨'), ("Vdash", '⊩'), ("models", '⊨')]

/-- Accents above. -/
def overAccents : List (String × Char) := [
  ("dot", '˙'), ("ddot", '¨'), ("bar", '¯'), ("hat", '^'), ("check", 'ˇ'), ("breve", '˘'),
  ("acute", '´'), ("grave", '\x60'), ("tilde", '~'), ("vec", '→'), ("overline", '_'),
  ("widehat", '^'), ("widetilde", '~'), ("overrightarrow", '→'), ("overleftarrow", '←')]

/-- Braces above, which may carry a note. -/
def overbraces : List (String × Char) := [
  ("overbrace", '⏞'), ("overparen", '⏜'), ("overbracket", '⎴')]

/-- Braces below, which may carry a note. -/
def underbraces : List (String × Char) := [
  ("underbrace", '⏟'), ("underparen", '⏝'), ("underbracket", '⎵')]

/-- Operators that take their limits above and below. -/
def bigOperators : List (String × Char) := [
  ("sum", '∑'), ("prod", '∏'), ("coprod", '∐'), ("bigcap", '⋂'), ("bigcup", '⋃'),
  ("bigsqcup", '⨆'), ("bigwedge", '⋀'), ("bigvee", '⋁'), ("bigodot", '⨀'), ("biguplus", '⨄'),
  ("bigoplus", '⨁')]

/-- Integral signs, which take their limits beside them. -/
def integrals : List (String × Char) := [
  ("int", '∫'), ("iint", '∬'), ("iiint", '∭'), ("oint", '∮'), ("oiint", '∯'), ("oiiint", '∰')]

/-- Styles of letters. -/
def styles : List (String × Variant) := [
  ("mathrm", .normal), ("mathit", .italic), ("textit", .italic), ("mathbf", .bold),
  ("textbf", .bold), ("bm", .boldItalic), ("symbf", .boldItalic), ("boldsymbol", .boldItalic),
  ("mathscr", .script), ("mathbb", .doubleStruck), ("mathfrak", .fraktur), ("mathsf", .sansSerif),
  ("texttt", .monospace), ("mathtt", .monospace)]

/-- Parentheses and other delimiters. -/
def fences : List (String × String) := [
  ("langle", "&lang;"), ("rangle", "&rang;"), ("lceil", "⌈"), ("rceil", "⌉"), ("lfloor", "⌊"),
  ("rfloor", "⌋"), ("lgroup", "⦗"), ("rgroup", "⦘"), ("\x7b", "\x7b"), ("\x7d", "\x7d"),
  ("|", "∥")]

/-- Sizes of parentheses. -/
def sizes : List (String × String) := [
  ("bigl", "1.2em"), ("bigr", "1.2em"), ("Bigl", "1.623em"), ("Bigr", "1.623em"),
  ("biggl", "2.047em"), ("biggr", "2.047em"), ("Biggl", "2.470em"), ("Biggr", "2.470em")]

/-- Widths of spaces. -/
def spaces : List (String × String) := [
  (" ", "1"), ("!", "-0.16666667"), (",", "0.16666667"), (":", "0.22222222"), (";", "0.2777778"),
  ("quad", "1"), ("qquad", "2")]

/-- Commands that each have a token of their own. -/
def structural : List (String × Token) := [
  ("left", .left), ("right", .right), ("middle", .middle), ("begin", .openEnvironment),
  ("end", .closeEnvironment), ("sqrt", .squareRoot), ("frac", .fraction), ("binom", .binomial),
  ("underline", .under '_'), ("overset", .overset), ("underset", .underset),
  ("slashed", .slashed), ("operatorname", .operatorName), ("text", .text), ("\\", .newLine)]

/-- The token of a command, if there is one of that name. -/
def find? (name : String) : Option Token :=
  structural.lookup name
    <|> (functions.find? (· == name)).map .function
    <|> (limits.find? (· == name)).map .limit
    <|> (italicLetters.lookup name).map (.letter · .italic)
    <|> (uprightLetters.lookup name).map (.letter · .normal)
    <|> (operators.lookup name).map .operator
    <|> (overAccents.lookup name).map .over
    <|> (overbraces.lookup name).map .overbrace
    <|> (underbraces.lookup name).map .underbrace
    <|> (bigOperators.lookup name).map .bigOperator
    <|> (integrals.lookup name).map .integral
    <|> (styles.lookup name).map .style
    <|> (fences.lookup name).map .fence
    <|> (sizes.lookup name).map .sized
    <|> (spaces.lookup name).map .space

def token (name : String) : Token := (find? name).getD (.unknown name)

end PagePress.Math.Command
