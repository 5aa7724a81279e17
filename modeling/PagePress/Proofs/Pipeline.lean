import PagePress.Proofs.Stages

/-!
# What stops a rendering

Only the stage that converts formulas can stop the program, and it meets the formulas of the document
as they were read, whatever stages come before it. A run is therefore stopped exactly if a pipeline
with this stage accepts a document with a formula on which the converter stops: at a middle delimiter
(`Math.Crashes`), or for want of room (`Math.Aborts`).
-/
namespace PagePress

namespace Pipeline

/-- A formula of the document stops the program. -/
def CrashesOn (pipeline : Pipeline) (source : String) : Prop :=
  ∃ events, pipeline.accept source = .ok events ∧ .math ∈ pipeline.stages ∧
    ∃ formula ∈ Math.formulas events, Math.Crashes formula.1

/-- A formula of the document stops the program in a room for so many calls inside each other. -/
def AbortsOn (room : Nat) (pipeline : Pipeline) (source : String) : Prop :=
  ∃ events, pipeline.accept source = .ok events ∧ .math ∈ pipeline.stages ∧
    ∃ formula ∈ Math.formulas events, Math.Aborts room formula.1

section Limited

variable {converter : Math.Converter} (limited : converter.Limited)

include limited

theorem runWith_error_iff (stages : List Stage) (events : List Event) :
    runWith converter stages events = .error {} ↔ .math ∈ stages ∧
      ∃ formula ∈ Math.formulas events, Math.convertWith converter formula.1 formula.2 = .crash := by
  induction stages generalizing events with
  | nil => simp [runWith]
  | cons stage rest ih =>
    cases stage with
    | autolink =>
      show runWith converter rest (Autolink.link events) = .error {} ↔ _
      rw [ih, Math.formulas_link]
      simp
    | headingIds =>
      show runWith converter rest (HeadingIds.assign events) = .error {} ↔ _
      rw [ih, Math.formulas_assign]
      simp
    | math =>
      show (Math.renderAllWith converter events >>= runWith converter rest) = .error {} ↔ _
      by_cases crashes : ∃ formula ∈ Math.formulas events,
          Math.convertWith converter formula.1 formula.2 = .crash
      · obtain ⟨formula, member, crash⟩ := crashes
        rw [Math.renderAllWith_error member crash]
        exact iff_of_true rfl ⟨List.mem_cons_self, formula, member, crash⟩
      · have calm : ∀ formula ∈ Math.formulas events,
            Math.convertWith converter formula.1 formula.2 ≠ .crash :=
          fun formula member crash => crashes ⟨formula, member, crash⟩
        obtain ⟨out, rendered, all⟩ := Math.renderAllWith_ok limited calm
        rw [rendered]
        -- The formulas are gone, so that no later stage meets one.
        show runWith converter rest out = .error {} ↔ _
        rw [ih, Math.formulas_of_rendered all]
        simpa using crashes

theorem tryRenderWith_crashed_iff (pipeline : Pipeline) (source : String) :
    pipeline.tryRenderWith converter source = .error .crashed ↔
      ∃ events, pipeline.accept source = .ok events ∧ .math ∈ pipeline.stages ∧
        ∃ formula ∈ Math.formulas events,
          Math.convertWith converter formula.1 formula.2 = .crash := by
  unfold tryRenderWith
  cases pipeline.accept source with
  | error refusal => simp
  | ok events =>
    simp only [Except.ok.injEq, exists_eq_left',
      ← runWith_error_iff limited pipeline.stages events]
    cases runWith converter pipeline.stages events <;> simp

omit limited in
theorem renderWith_error_iff (converter : Math.Converter) (pipeline : Pipeline) (source : String) :
    pipeline.renderWith converter source = .error {} ↔
      pipeline.tryRenderWith converter source = .error .crashed := by
  unfold renderWith
  cases pipeline.tryRenderWith converter source with
  | ok html => simp
  | error e => cases e <;> simp

end Limited

theorem tryRender_crashed_iff (pipeline : Pipeline) (source : String) :
    pipeline.tryRender source = .error .crashed ↔ pipeline.CrashesOn source := by
  rw [tryRender, tryRenderWith_crashed_iff Math.limited_mathml]
  simp only [Math.mathml_crash_iff]
  rfl

theorem tryRenderWithin_crashed_iff (room : Nat) (pipeline : Pipeline) (source : String) :
    pipeline.tryRenderWith (Math.mathmlWithin room) source = .error .crashed ↔
      pipeline.AbortsOn room source := by
  rw [tryRenderWith_crashed_iff (Math.limited_mathmlWithin room)]
  simp only [Math.mathmlWithin_crash_iff]
  rfl

theorem render_crashed_iff (pipeline : Pipeline) (source : String) :
    pipeline.render source = .error {} ↔ pipeline.CrashesOn source := by
  rw [← tryRender_crashed_iff]
  exact renderWith_error_iff ..

theorem renderWithin_crashed_iff (room : Nat) (pipeline : Pipeline) (source : String) :
    pipeline.renderWith (Math.mathmlWithin room) source = .error {} ↔
      pipeline.AbortsOn room source := by
  rw [← tryRenderWithin_crashed_iff]
  exact renderWith_error_iff ..

end Pipeline

namespace Math

/-- A formula aborts a rendering exactly if it is not nested too deep for the converter and the
converter stops at a middle delimiter that is none, or cannot put as many calls inside each other as
it needs. Without such a formula, the stage returns an event for every event: other events stay, and a
formula becomes its safe MathML, or the text that it was if it has none. With one, no run of a pipeline
that comes to this stage returns. Where there is room for all calls, the first cause is the only one.
Formulas whose middle delimiters are followed by delimiters are free of it; one before a letter or a
number is not, after tokens that are formulas by themselves. The second cause is out of the question
with room for three calls at each token and two more. No room is so great that it cannot come about,
even without braces. -/
theorem rendering_aborts_exact (room : Nat) (events : List Event) (pipeline : Pipeline)
    (document : String) :
    ((∀ formula ∈ formulas events, ¬ Crashes formula.1) →
      ∃ out, renderAll events = .ok out ∧ List.Forall₂ Rendered events out) ∧
    ((∃ formula ∈ formulas events, Crashes formula.1) → renderAll events = .error {}) ∧
    (pipeline.tryRender document = .error .crashed ↔ pipeline.CrashesOn document) ∧
    (pipeline.render document = .error {} ↔ pipeline.CrashesOn document) ∧
    ((∀ formula ∈ formulas events, ¬ Aborts room formula.1) →
      ∃ out, renderAllWith (mathmlWithin room) events = .ok out ∧
        List.Forall₂ Rendered events out) ∧
    ((∃ formula ∈ formulas events, Aborts room formula.1) →
      renderAllWith (mathmlWithin room) events = .error {}) ∧
    (pipeline.tryRenderWith (mathmlWithin room) document = .error .crashed ↔
      pipeline.AbortsOn room document) ∧
    (pipeline.renderWith (mathmlWithin room) document = .error {} ↔
      pipeline.AbortsOn room document) ∧
    (∀ source, Crashes source → ¬ Parser.Delimited (tokens source)) ∧
    (∀ source before token after, groupDepth source ≤ maxGroupDepth →
      tokens source = before ++ .middle :: token :: after →
      (∀ token ∈ before, Parser.isPlain token = true) → Parser.isLetterOrNumber token = true →
      Crashes source) ∧
    (∀ source, Overflows room source → room < 3 * (tokens source).length + 2) ∧
    ∃ source, groupDepth source = 0 ∧ Overflows room source := by
  refine ⟨fun calm => renderAll_ok calm, ?_, pipeline.tryRender_crashed_iff document,
    pipeline.render_crashed_iff document, fun calm => ?_, ?_,
    pipeline.tryRenderWithin_crashed_iff room document,
    pipeline.renderWithin_crashed_iff room document, fun source => Crashes.not_delimited,
    fun source before token after => crashes_of_middle, fun source => Overflows.room_lt,
    _, groupDepth_chainText _, overflows_chainText room⟩
  · rintro ⟨formula, member, crashes⟩
    exact renderAll_error member crashes
  · refine renderAllWith_ok (limited_mathmlWithin room) fun formula member crash => ?_
    exact calm formula member ((mathmlWithin_crash_iff room _ _).1 crash)
  · rintro ⟨formula, member, aborts⟩
    exact renderAllWith_error member ((mathmlWithin_crash_iff room _ _).2 aborts)

theorem crashes_middle_letter : Crashes "\\middle x" := by
  have letter : charToken 'x' = .letter 'x' .italic := by simp [charToken]
  have shape : tokens "\\middle x" = [] ++ .middle :: .letter 'x' .italic :: [] := by
    rw [← letter]
    rfl
  exact crashes_of_middle (by decide) shape (by simp) rfl

/-- A middle delimiter before a letter aborts the stage and every usual rendering. -/
theorem middle_letter_aborts :
    renderAll [.inlineMath "\\middle x"] = .error {} ∧
    ({} : Pipeline).tryRender "$\\middle x$" = .error .crashed ∧
    ({} : Pipeline).render "$\\middle x$" = .error {} := by
  have read : Markdown.events "$\\middle x$" =
      [.start .paragraph, .inlineMath "\\middle x", .stop .paragraph] := by decide +kernel
  have accepted : ({} : Pipeline).accept "$\\middle x$" =
      .ok [.start .paragraph, .inlineMath "\\middle x", .stop .paragraph] := by
    unfold Pipeline.accept
    rw [read]
    rfl
  have crashes : ({} : Pipeline).CrashesOn "$\\middle x$" :=
    ⟨_, accepted, by decide, _, List.mem_singleton_self _, crashes_middle_letter⟩
  exact ⟨renderAll_error (List.mem_singleton_self _) crashes_middle_letter,
    (Pipeline.tryRender_crashed_iff _ _).2 crashes, (Pipeline.render_crashed_iff _ _).2 crashes⟩

end Math

end PagePress
