import PagePress.Html.Escape
import PagePress.Markup.Event

/-!
# Writing HTML

Events are written one after the other. Block elements start on a line of their own, so the writer
knows whether it is at the start of a line. The text of an image goes into an attribute, without
its markup.
-/
namespace PagePress.Html

/-- The text of an image that is being written: how many elements are open in it, and its title. -/
structure ImageText where
  nesting : Nat
  title : String

/-- What has been written, and what the next event depends on. -/
structure Writer where
  out : String := ""
  lineStart : Bool := true
  inHead : Bool := true
  alignments : List Alignment := []
  cell : Nat := 0
  image : Option ImageText := none

namespace Writer

def write (w : Writer) (s : String) : Writer :=
  { w with out := w.out ++ s, lineStart := if s.isEmpty then w.lineStart else s.endsWith "\n" }

/-- Writes text that has been escaped from `raw`. -/
def writeText (w : Writer) (raw escaped : String) : Writer :=
  { w with out := w.out ++ escaped, lineStart := raw.endsWith "\n" }

/-- Writes something that has to stand at the start of a line. -/
def writeLine (w : Writer) (s : String) : Writer :=
  if w.lineStart then w.write s else w.write ("\n" ++ s)

def quoteClass : QuoteKind → String
  | .note => "markdown-alert-note"
  | .tip => "markdown-alert-tip"
  | .important => "markdown-alert-important"
  | .warning => "markdown-alert-warning"
  | .caution => "markdown-alert-caution"

/-- The end of the start tag of a cell. -/
def cellStyle (w : Writer) : String :=
  match w.alignments[w.cell]? with
  | some .left => " style=\"text-align: left\">"
  | some .center => " style=\"text-align: center\">"
  | some .right => " style=\"text-align: right\">"
  | _ => ">"

def titleAttribute (title : String) : String :=
  if title.isEmpty then "" else "\" title=\"" ++ escapeAttribute title

/-- The language of a code block is the first word of its info string. -/
def language (info : String) : String := String.ofList (info.toList.takeWhile (· != ' '))

def headingAttributes (id : Option String) (classes : List String) : String :=
  let id := match id with
    | some id => " id=\"" ++ escapeAttribute id ++ "\""
    | none => ""
  let classes :=
    if classes.isEmpty then ""
    else " class=\"" ++ " ".intercalate (classes.map escapeAttribute) ++ "\""
  id ++ classes

def openTag (w : Writer) : Tag → Writer
  | .htmlBlock => w
  | .paragraph => w.writeLine "<p>"
  | .heading level id classes =>
    w.writeLine ("<h" ++ toString level.val ++ headingAttributes id classes ++ ">")
  | .table alignments => { w with alignments }.write "<table>"
  | .tableHead => { w with inHead := true, cell := 0 }.write "<thead><tr>"
  | .tableRow => { w with cell := 0 }.write "<tr>"
  | .tableCell => w.write ((if w.inHead then "<th" else "<td") ++ w.cellStyle)
  | .blockquote none => w.writeLine "<blockquote>\n"
  | .blockquote (some kind) => w.writeLine ("<blockquote class=\"" ++ quoteClass kind ++ "\">\n")
  | .codeBlock info =>
    let language := (info.map language).getD ""
    w.writeLine
      (if language.isEmpty then "<pre><code>"
      else "<pre><code class=\"language-" ++ escapeAttribute language ++ "\">")
  | .list none => w.writeLine "<ul>\n"
  | .list (some n) =>
    w.writeLine (if n == 1 then "<ol>\n" else "<ol start=\"" ++ toString n ++ "\">\n")
  | .item => w.writeLine "<li>"
  | .emphasis => w.write "<em>"
  | .strong => w.write "<strong>"
  | .strikethrough => w.write "<del>"
  | .link kind destination title _ =>
    let scheme := if kind == .email then "mailto:" else ""
    w.write ("<a href=\"" ++ scheme ++ escapeAddress destination ++ titleAttribute title ++ "\">")
  | .image _ destination title _ =>
    { w with image := some ⟨0, title⟩ }.write
      ("<img src=\"" ++ escapeAddress destination ++ "\" alt=\"")

def closeTag (w : Writer) : TagEnd → Writer
  | .htmlBlock => w
  | .paragraph => w.write "</p>\n"
  | .heading level => w.write ("</h" ++ toString level.val ++ ">\n")
  | .table => w.write "</tbody></table>\n"
  | .tableHead => { w with inHead := false }.write "</tr></thead><tbody>\n"
  | .tableRow => w.write "</tr>\n"
  | .tableCell => { w with cell := w.cell + 1 }.write (if w.inHead then "</th>" else "</td>")
  | .blockquote _ => w.write "</blockquote>\n"
  | .codeBlock => w.write "</code></pre>\n"
  | .list ordered => w.write (if ordered then "</ol>\n" else "</ul>\n")
  | .item => w.write "</li>\n"
  | .emphasis => w.write "</em>"
  | .strong => w.write "</strong>"
  | .strikethrough => w.write "</del>"
  | .link => w.write "</a>"
  | .image => w

/-- Writes an event outside images. -/
def event (w : Writer) : Event → Writer
  | .start tag => w.openTag tag
  | .stop tag => w.closeTag tag
  | .text s => w.writeText s (escapeText s)
  | .code s => w.write ("<code>" ++ escapeText s ++ "</code>")
  | .inlineMath s => w.write ("<span class=\"math math-inline\">" ++ escapeAttribute s ++ "</span>")
  | .displayMath s =>
    w.write ("<span class=\"math math-display\">" ++ escapeAttribute s ++ "</span>")
  | .html s => w.write s
  | .inlineHtml s => w.write s
  | .softBreak => w.write "\n"
  | .hardBreak => w.write "<br />\n"
  | .rule => w.writeLine "<hr />\n"
  | .task true => w.write "<input disabled=\"\" type=\"checkbox\" checked=\"\"/>\n"
  | .task false => w.write "<input disabled=\"\" type=\"checkbox\"/>\n"

/-- Ends the attribute that holds the text of an image. -/
def closeImage (w : Writer) (image : ImageText) : Writer :=
  { w with image := none }.write (titleAttribute image.title ++ "\" />")

/-- Writes an event inside an image. -/
def imageEvent (w : Writer) (image : ImageText) : Event → Writer
  | .start _ => { w with image := some { image with nesting := image.nesting + 1 } }
  | .stop _ =>
    if image.nesting == 0 then w.closeImage image
    else { w with image := some { image with nesting := image.nesting - 1 } }
  | .html _ => w
  | .inlineHtml s => w.writeText s (escapeAttribute s)
  | .code s => w.writeText s (escapeAttribute s)
  | .text s => w.writeText s (escapeAttribute s)
  | .inlineMath s => w.write ("$" ++ escapeAttribute s ++ "$")
  | .displayMath s => w.write ("$$" ++ escapeAttribute s ++ "$$")
  | .softBreak => w.write " "
  | .hardBreak => w.write " "
  | .rule => w.write " "
  | .task true => w.write "[x]"
  | .task false => w.write "[ ]"

def step (w : Writer) (e : Event) : Writer :=
  match w.image with
  | some image => w.imageEvent image e
  | none => w.event e

end Writer

/-- The HTML of a document. -/
def write (events : List Event) : String :=
  let w := events.foldl Writer.step {}
  match w.image with
  | some image => (w.closeImage image).out
  | none => w.out

end PagePress.Html
