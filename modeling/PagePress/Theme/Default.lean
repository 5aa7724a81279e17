import PagePress.Theme.Basic

/-!
# The default theme

A plain page with blue links.
-/
namespace PagePress.Theme.Default

/-- The document that a new site of this theme begins with. -/
def content : String :=
  ofLines [
    "# Jane Doe",
    "",
    "Software engineer working on compilers and developer tooling.",
    "",
    "## Projects",
    "",
    "- **Parsers**: incremental parsing for editors",
    "- **Typesetting**: math such as $e^\x7bi\\pi\x7d + 1 = 0$ rendered inline",
    "",
    "## Contact",
    "",
    "| Channel | Address               |",
    "|---------|-----------------------|",
    "| Email   | jane@example.com      |",
    "| Web     | https://example.com   |"]

/-- Styles for the whole page. -/
def preamble : String :=
  Stylesheet.writeAll [
    .ofLines "html" ["margin: 0;", "padding: 0;", "font-size: 1rem;"],
    .ofLines "body" ["margin: 0;", "background: #ffffff;", "color: #212529;"],
    .ofLines "img" ["max-width: 100%;"]]

/-- Styles for narrow or wide screens. -/
def responsive : String :=
  Stylesheet.onMedia "min-width: 768px" [(".content", ["padding: 2rem 0;"])]

def rules : List Stylesheet.Rule :=
  [
    .here
      ["font-family: -apple-system, BlinkMacSystemFont, 'Segoe UI', Roboto, 'Helvetica "
        ++ "Neue', Arial, sans-serif;",
       "line-height: 1.6;"],
    .inside "h1, h2, h3, h4, h5, h6"
      ["margin: 1.5rem 0 0.5rem;", "font-weight: 600;", "line-height: 1.25;"],
    .inside "h1" ["font-size: 2.25rem;", "margin-top: 0;"],
    .inside "h2"
      ["font-size: 1.5rem;", "border-bottom: 1px solid #e9ecef;", "padding-bottom: 0.3rem;"],
    .inside "h3" ["font-size: 1.25rem;"],
    .inside "a" ["color: #0d6efd;", "text-decoration: none;"],
    .inside "a:hover" ["text-decoration: underline;"],
    .inside "code"
      ["font-family: SFMono-Regular, Menlo, Consolas, monospace;", "font-size: 0.875em;",
       "background: #f6f8fa;", "padding: 0.1em 0.3em;", "border-radius: 3px;"],
    .inside "pre" ["background: #f6f8fa;", "padding: 1rem;", "overflow-x: auto;"],
    .inside "pre code" ["background: none;", "padding: 0;"],
    .inside "blockquote"
      ["margin: 1rem 0;", "padding: 0 1rem;", "color: #6c757d;",
       "border-left: 4px solid #dee2e6;"],
    .inside "table" ["width: 100%;", "border-collapse: collapse;", "margin: 1rem 0;"],
    .inside "th, td" ["padding: 0.5rem;", "border: 1px solid #dee2e6;", "text-align: left;"],
    .inside ".math-display" ["display: block;", "margin: 1rem 0;", "overflow-x: auto;"]]

def theme : Theme where
  id := defaultId
  rootClass := "content"
  label := "Default Theme"
  defaultContent := content
  scopeDeclaration := some (Stylesheet.declarations
    ["max-width: 720px;", "margin: 0 auto;", "padding: 1rem;", "box-sizing: border-box;"])
  preamble
  trailing := some responsive
  rules

end PagePress.Theme.Default
