import PagePress.Theme.Basic

/-!
# The classic theme

A resume with serifs and red headings.
-/
namespace PagePress.Theme.Classic

/-- The document that a new site of this theme begins with. -/
def content : String :=
  ofLines [
    "# Marius Hoffmann",
    "",
    "## About Me",
    "",
    "I have been a PhD student in mathematics at [Berkeley](https://math.berkeley.edu/) "
      ++ "since August 2021. My advisor is [Prof. Hopkins](https://math.berkeley.edu/) and my "
      ++ "main research interest is [tropical "
      ++ "geometry](https://en.wikipedia.org/wiki/Tropical_geometry). Previously, I did my "
      ++ "undergraduate at [Emory University](https://www.math.emory.edu/home/) (2017-2021).",
    "",
    "You can email me at "
      ++ "[marius.hoffman@fake.berkeley.edu](mailto:marius.hoffman@fake.berkeley.edu).",
    "",
    "## Education",
    "",
    "|   Major           | University        | Year          |",
    "|-----------        | -------------     | ------------- |",
    "| MSc Mathematics   | UC Berkeley       | since 2021    |",
    "| BSc Mathematics   | Emory University  | 2017-2021     |",
    "",
    "## Research",
    "",
    "* [Some Invertibility Results for Parabolic "
      ++ "Categories](https://thatsmathematics.com/mathgen/), 2021. With P. Wilson.",
    "* [Uniqueness Methods In Representation "
      ++ "Theory](https://thatsmathematics.com/mathgen/), 2020. With C. T. Li.",
    "* [Integrability In Applied Representation "
      ++ "Theory](https://thatsmathematics.com/mathgen/), 2020. With G. White.",
    "",
    "## Essays",
    "",
    "- [Spectral theorem of synthetic operators (pdf)](https://www.google.de)",
    "- [Newton's matrix decomposition $SV_\x7b\\lambda\x7d$](https://www.google.de)",
    "- [Lindelöf-Locatelli Theorem (pdf)](https://www.google.de)"]

/-- Styles for the whole page. -/
def preamble : String :=
  Stylesheet.writeAll [
    .ofLines "html"
      ["margin: 0;", "padding: 0;", "display: flex;", "justify-content: center;",
       "font-size: 1.1rem;"],
    .ofLines "img" ["width: 100%;"]]

/-- Styles for narrow or wide screens. -/
def responsive : String :=
  Stylesheet.onMedia "min-width: 576px" [(".wrapper", ["width: 500px;"])]
    ++ Stylesheet.onMedia "min-width: 768px" [(".wrapper", ["width: 640px;"])]

def rules : List Stylesheet.Rule :=
  [
    .here ["font-family: 'Lora', serif;", "line-height: 1.5;"],
    .inside "h1"
      ["font-size: 2rem;", "font-weight: 500;", "line-height: 2;", "margin: 0;", "padding: 0;"],
    .inside "h2, h3, h4, h5, h6"
      ["margin: 0;", "padding: 0;", "color: #a81010;", "font-weight: 500;", "line-height: 2;"],
    .inside "h2" ["font-size: 1.7rem;"],
    .inside "h3" ["font-size: 1.5rem;"],
    .inside "h4" ["font-size: 1.3rem;"],
    .inside "h5" ["font-size: 1.2rem;"],
    .inside "h6" ["font-size: 1.1rem;"],
    .inside "p" ["font-size: 1rem;"],
    .inside "code"
      ["font-family: source-code-pro, Menlo, Monaco, Consolas, 'Courier New', monospace;",
       "color: #d63384;", "font-size: 0.875rem;", "word-wrap: break-word;"],
    .inside "table"
      ["border-color: grey;", "border-spacing: 2px;", "max-width: 100%;", "width: 100%;",
       "border-collapse: collapse;", "margin: 2em 0;"],
    .inside "table th, table td"
      ["padding: 0.75rem;", "vertical-align: top;", "border-top: 1px solid #dee2e6;"]]

def theme : Theme where
  id := "classic"
  rootClass := "wrapper"
  label := "Classic Theme"
  title := "My Resume"
  defaultContent := content
  scopeDeclaration := some (Stylesheet.declarations
    ["margin-top: 1rem;", "width: 100%;", "padding: 1rem;", "box-sizing: border-box;"])
  preamble
  trailing := some responsive
  headLinks := [
    "<link rel=\"preconnect\" href=\"https://fonts.googleapis.com\">",
    "<link rel=\"preconnect\" href=\"https://fonts.gstatic.com\" crossorigin>",
    "<link href=\"https://fonts.googleapis.com/"
      ++ "css2?family=Lora:ital,wght@0,400;0,500;0,700;1,400;1,500;1,"
      ++ "700&family=Marcellus+SC&display=swap\" rel=\"stylesheet\">"]
  rules

end PagePress.Theme.Classic
