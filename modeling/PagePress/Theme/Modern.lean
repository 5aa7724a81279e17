import PagePress.Theme.Basic

/-!
# The modern theme

A wide page without serifs, with coloured headings and tables like cards.
-/
namespace PagePress.Theme.Modern

/-- The document that a new site of this theme begins with. -/
def content : String :=
  ofLines [
    "# Alex Rivera",
    "",
    "Designer & developer building small, fast tools for the web.",
    "",
    "## Work",
    "",
    "1. ~~Agency work~~ Independent since 2022",
    "2. Open-source contributor to several markdown tooling projects",
    "",
    "## Stack",
    "",
    "| Area     | Tools              |",
    "|----------|--------------------|",
    "| Design   | Figma, pen & paper |",
    "| Frontend | TypeScript, CSS    |",
    "",
    "## Writing",
    "",
    "> Good typography is invisible.",
    "",
    "Notes on layout, colour and the maths of spacing: "
      ++ "$$\\sum_\x7bi=1\x7d^\x7bn\x7d s_i = h$$",
    "",
    "## Elsewhere",
    "",
    "Find me at www.example.org or https://github.com/example."]

/-- Styles for the whole page. -/
def preamble : String :=
  "@import url('https://fonts.googleapis.com/css2?"
    ++ "family=Inter:wght@400;600;800&display=swap');\n\n"
    ++ Stylesheet.writeAll [
    .ofLines "html" ["margin: 0;", "padding: 0;", "background: #f4f5f7;"],
    .ofLines "img" ["width: 100%;", "border-radius: 8px;"]]

/-- Styles for narrow or wide screens. -/
def responsive : String :=
  Stylesheet.onMedia "max-width: 600px"
    [(".page", ["margin: 0;", "border-radius: 0;", "padding: 1.5rem 1rem;"]),
     (".page h1", ["font-size: 2rem;"])]

def rules : List Stylesheet.Rule :=
  [
    .here
      ["font-family: 'Inter', system-ui, sans-serif;", "color: #1f2933;", "line-height: 1.7;"],
    .here
      ["background: #ffffff;", "border-radius: 12px;",
       "box-shadow: 0 10px 30px rgba(15, 23, 42, 0.08);"],
    .inside "h1"
      ["font-size: 3rem;", "font-weight: 800;", "letter-spacing: -0.03em;", "margin: 0 0 1rem;"],
    .inside "h2, h3, h4, h5, h6"
      ["font-weight: 600;", "color: #6d28d9;", "margin: 2rem 0 0.5rem;"],
    .inside "h2" ["font-size: 1.6rem;"],
    .inside "h3" ["font-size: 1.3rem;"],
    .inside "a"
      ["color: #6d28d9;", "text-decoration-thickness: 2px;", "text-underline-offset: 3px;"],
    .inside "blockquote"
      ["margin: 1.5rem 0;", "padding: 1rem 1.5rem;", "background: #f5f3ff;",
       "border-radius: 8px;", "font-style: italic;"],
    .inside "code"
      ["font-family: 'JetBrains Mono', Menlo, monospace;", "font-size: 0.85em;",
       "color: #be185d;"],
    .inside "table"
      ["width: 100%;", "border-collapse: separate;", "border-spacing: 0;",
       "border: 1px solid #e4e7eb;", "border-radius: 8px;", "overflow: hidden;"],
    .inside "th" ["background: #f5f3ff;", "text-align: left;"],
    .inside "th, td" ["padding: 0.75rem 1rem;", "border-bottom: 1px solid #e4e7eb;"],
    .inside "del" ["color: #9aa5b1;"]]

def theme : Theme where
  id := "modern"
  rootClass := "page"
  label := "Modern Theme"
  defaultContent := content
  scopeDeclaration := some (Stylesheet.declarations
    ["max-width: 860px;", "margin: 3rem auto;", "padding: 3rem;", "box-sizing: border-box;"])
  preamble
  trailing := some responsive
  rules

end PagePress.Theme.Modern
