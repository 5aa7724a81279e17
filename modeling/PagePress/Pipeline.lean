import PagePress.Autolink
import PagePress.HeadingIds
import PagePress.Html.Escape
import PagePress.Html.Writer
import PagePress.Markdown.Document
import PagePress.Math.Conversion

/-!
# From a source text to HTML

A source text is read as Markdown, passes through the stages of a pipeline, and is written as HTML.
A source that is too long or nested too deep is refused; a preview shows it as plain text instead.
-/
namespace PagePress

/-- A pass over the events of a document. -/
inductive Stage where
  | autolink
  | headingIds
  | math
  deriving DecidableEq, Repr

namespace Stage

def name : Stage → String
  | autolink => "autolink"
  | headingIds => "heading_ids"
  | math => "math"

def ofName? : String → Option Stage
  | "autolink" => some autolink
  | "heading_ids" => some headingIds
  | "math" => some math
  | _ => none

/-- The stages of a usual pipeline, in order. -/
def standard : List Stage := [autolink, headingIds, math]

/-- What a stage makes of a document, given the converter of formulas. -/
def applyWith (converter : Math.Converter) : Stage → List Event → Except Crash (List Event)
  | autolink, events => .ok (Autolink.link events)
  | headingIds, events => .ok (HeadingIds.assign events)
  | math, events => Math.renderAllWith converter events

def apply : Stage → List Event → Except Crash (List Event) := applyWith Math.mathml

end Stage

/-- The part of a run in which a source is refused. -/
inductive Phase where
  | parse
  | transform
  deriving DecidableEq, Repr

def Phase.name : Phase → String
  | parse => "parse"
  | transform => "transform"

/-- Why a source is not rendered. -/
inductive Refusal where
  | tooLong (size limit : Nat)
  | tooDeep (height limit : Nat)
  deriving DecidableEq, Repr

namespace Refusal

def phase : Refusal → Phase
  | tooLong .. => .parse
  | tooDeep .. => .transform

def reason : Refusal → String
  | tooLong size limit => "source is " ++ toString size ++ " bytes, limit is " ++ toString limit
  | tooDeep height limit =>
    "nesting depth " ++ toString height ++ " exceeds limit of " ++ toString limit

def message (refusal : Refusal) : String :=
  "Build failed in " ++ refusal.phase.name ++ " stage: " ++ refusal.reason

end Refusal

/-- What keeps a source from being rendered. -/
inductive RenderError where
  | refused (refusal : Refusal)
  | crashed
  deriving DecidableEq, Repr

/-- The stages a document goes through, and the bounds on what is accepted. -/
structure Pipeline where
  stages : List Stage := Stage.standard
  /-- The greatest size of a source, in bytes. -/
  maxSourceBytes : Nat := 8 * 1024 * 1024
  /-- The greatest number of elements inside one another. -/
  maxNesting : Nat := 256
  deriving DecidableEq, Repr

namespace Pipeline

/-- Sends events through stages, one after the other, given the converter of formulas. -/
def runWith (converter : Math.Converter) : List Stage → List Event → Except Crash (List Event)
  | [], events => .ok events
  | stage :: rest, events => do runWith converter rest (← stage.applyWith converter events)

def run : List Stage → List Event → Except Crash (List Event) := runWith Math.mathml

theorem run_nil (events : List Event) : run [] events = .ok events := rfl

theorem run_cons (stage : Stage) (rest : List Stage) (events : List Event) :
    run (stage :: rest) events = stage.apply events >>= run rest := rfl

/-- The events of a source that is accepted. -/
def accept (pipeline : Pipeline) (source : String) : Except Refusal (List Event) :=
  if pipeline.maxSourceBytes < source.utf8ByteSize then
    .error (.tooLong source.utf8ByteSize pipeline.maxSourceBytes)
  else
    let events := Markdown.events source
    let height := Event.height events
    if pipeline.maxNesting < height then .error (.tooDeep height pipeline.maxNesting)
    else .ok events

/-- The HTML of a source, if there is no reason to refuse it, given the converter of formulas. -/
def tryRenderWith (converter : Math.Converter) (pipeline : Pipeline) (source : String) :
    Except RenderError String :=
  match pipeline.accept source with
  | .error refusal => .error (.refused refusal)
  | .ok events =>
    match runWith converter pipeline.stages events with
    | .error _ => .error .crashed
    | .ok events => .ok (Html.write events)

def tryRender (pipeline : Pipeline) (source : String) : Except RenderError String :=
  pipeline.tryRenderWith Math.mathml source

theorem tryRender_of_refused {pipeline : Pipeline} {source : String} {refusal : Refusal}
    (refused : pipeline.accept source = .error refusal) :
    pipeline.tryRender source = .error (.refused refusal) := by
  unfold tryRender tryRenderWith
  rw [refused]

theorem tryRender_of_accepted {pipeline : Pipeline} {source : String} {events : List Event}
    (accepted : pipeline.accept source = .ok events) :
    pipeline.tryRender source =
      ((run pipeline.stages events).mapError fun _ => .crashed).map Html.write := by
  unfold tryRender tryRenderWith run
  rw [accepted]
  dsimp only
  cases runWith Math.mathml pipeline.stages events <;> rfl

/-- A source as plain text. -/
def plain (source : String) : String := "<pre>" ++ Html.escapePlain source ++ "</pre>\n"

/-- The HTML of a source, for a preview: a refused source is shown as plain text. -/
def renderWith (converter : Math.Converter) (pipeline : Pipeline) (source : String) :
    Except Crash String :=
  match pipeline.tryRenderWith converter source with
  | .ok html => .ok html
  | .error (.refused _) => .ok (plain source)
  | .error .crashed => .error {}

def render (pipeline : Pipeline) (source : String) : Except Crash String :=
  pipeline.renderWith Math.mathml source

theorem render_of_tryRender {pipeline : Pipeline} {source html : String}
    (rendered : pipeline.tryRender source = .ok html) : pipeline.render source = .ok html := by
  rw [tryRender] at rendered
  rw [render, renderWith, rendered]

theorem render_of_refused {pipeline : Pipeline} {source : String} {refusal : Refusal}
    (refused : pipeline.tryRender source = .error (.refused refusal)) :
    pipeline.render source = .ok (plain source) := by
  rw [tryRender] at refused
  rw [render, renderWith, refused]

end Pipeline

end PagePress
