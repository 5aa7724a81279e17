import PagePress.Html.Escape
import PagePress.Stylesheet

/-!
# Themes and the files of a site

A theme is a page around the HTML of a document, and a stylesheet confined to the element in which
the page holds it. The page names the file of the stylesheet.
-/
namespace PagePress

/-- What a site consists of. -/
inductive SiteFile where
  | page
  | stylesheet
  | source
  deriving DecidableEq, Repr

def SiteFile.name : SiteFile → String
  | page => "index.html"
  | stylesheet => "stylesheet.css"
  | source => "sourcecode.md"

/-- The name under which a site is packed, if no other is given. -/
def defaultArchiveName : String := "homepage.zip"

/-- The looks of a site. The content of a page stands in an element of the class `rootClass`. -/
structure Theme where
  id : String
  rootClass : String
  label : String := id
  title : String := "My Homepage"
  /-- The document that a new site begins with. -/
  defaultContent : String := ""
  scopeDeclaration : Option String := none
  /-- Styles before the composed ones, for the whole page. -/
  preamble : String := ""
  /-- Styles after the composed ones, kept as they are. -/
  trailing : Option String := none
  /-- Further elements for the head of the page. -/
  headLinks : List String := []
  rules : List Stylesheet.Rule := []
  deriving DecidableEq, Repr

namespace Theme

/-- The identifier of the theme that is used where none is chosen. -/
def defaultId : String := "default"

/-- The selector of the element that holds the content. -/
def scope (theme : Theme) : String := "." ++ theme.rootClass

/-- Lines, each with its end. -/
def ofLines (lines : List String) : String := String.join (lines.map (· ++ "\n"))

/-- The page around a body, which loses the white space at its end. -/
def page (theme : Theme) (body : String) : String :=
  ofLines ([
      "<!DOCTYPE html>",
      "<html lang=\"en\">",
      "<head>",
      "  <meta charset=\"utf-8\">",
      "  <meta name=\"viewport\" content=\"width=device-width, initial-scale=1\">",
      "  <title>" ++ Html.escapePlain theme.title ++ "</title>",
      "  <link rel=\"stylesheet\" href=\"" ++ SiteFile.stylesheet.name ++ "\">"]
    ++ theme.headLinks.map ("  " ++ ·)
    ++ [
      "</head>",
      "<body>",
      "<div class=\"" ++ Html.escapePlain theme.rootClass ++ "\">",
      Text.trimEnd body,
      "</div>",
      "</body>",
      "</html>"])

/-- The composed rules of a theme. -/
def scopedStyles (theme : Theme) : String :=
  Stylesheet.compose theme.rules theme.scope theme.scopeDeclaration theme.trailing

/-- The whole stylesheet of a theme. -/
def stylesheet (theme : Theme) : String :=
  if theme.preamble.isEmpty then theme.scopedStyles
  else Text.trimEnd theme.preamble ++ "\n\n" ++ theme.scopedStyles

end Theme

end PagePress
