import PagePress.Json.Quoted
import PagePress.Pipeline
import PagePress.Theme.Registry

/-!
# Previews

What an editor shows while a document is written: with the themes that are always there and the
usual pipeline.
-/
namespace PagePress.Preview

def theme (id : String) : Theme := ThemeRegistry.builtin.resolveOrFallback id

def render (source : String) : Except Crash String := ({} : Pipeline).render source

/-- The whole page of a document. -/
def page (source themeId : String) : Except Crash String := do
  return (theme themeId).page (← render source)

def stylesheet (themeId : String) : String := (theme themeId).stylesheet

/-- The document that a site of a theme begins with. -/
def defaultContent (themeId : String) : String := (theme themeId).defaultContent

/-- The identifiers of the themes as a JSON text. -/
def themeIds : String := Json.quoteAll ThemeRegistry.builtin.ids

end PagePress.Preview
