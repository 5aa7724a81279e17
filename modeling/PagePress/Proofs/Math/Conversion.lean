import Mathlib.Data.List.Forall2
import PagePress.Math.Conversion
import PagePress.Proofs.Math.Stops

/-!
# What becomes of the formulas of a document

A formula becomes MathML in its element or stays in the text as it was written, and all other events
stay as they are. The one way out of this is the end of the program. A formula takes it with a middle
delimiter that is none (`Crashes`), or with more calls of readers inside each other than there is room
for (`Overflows`).
-/
namespace PagePress.Math

/-- The converter is given the formula and stops the program. -/
def Crashes (source : String) : Prop :=
  groupDepth source ≤ maxGroupDepth ∧ parse source = .error .badMiddle

/-- The converter is given the formula and has no room for one more call. -/
def Overflows (room : Nat) (source : String) : Prop :=
  groupDepth source ≤ maxGroupDepth ∧ parseWithin room source = .error .noRoom

/-- The formula stops the program, one way or the other. -/
def Aborts (room : Nat) (source : String) : Prop := Crashes source ∨ Overflows room source

/-- The formula has safe MathML. -/
def Converts (source : String) (display : Display) (safe : String) : Prop :=
  groupDepth source ≤ maxGroupDepth ∧
    ∃ m, mathml source display = .ok m ∧ sanitize m = .ok safe

/-- What an event becomes. -/
inductive Rendered : Event → Event → Prop
  | kept {e : Event} (noInline : ∀ source, e ≠ .inlineMath source)
      (noDisplay : ∀ source, e ≠ .displayMath source) : Rendered e e
  | inline {source safe : String} (converts : Converts source .inline safe) :
      Rendered (.inlineMath source)
        (.inlineHtml ("<span class=\"math math-inline\">" ++ safe ++ "</span>"))
  | display {source safe : String} (converts : Converts source .block safe) :
      Rendered (.displayMath source)
        (.inlineHtml ("<span class=\"math math-display\">" ++ safe ++ "</span>"))
  | inlineLiteral {source : String} (rejected : ∀ safe, ¬ Converts source .inline safe) :
      Rendered (.inlineMath source) (.text ("$" ++ source ++ "$"))
  | displayLiteral {source : String} (rejected : ∀ safe, ¬ Converts source .block safe) :
      Rendered (.displayMath source) (.text ("$$" ++ source ++ "$$"))

/-- The formulas of a document, in order. -/
def formulas (events : List Event) : List (String × Display) := events.filterMap ofEvent?

/-! ### Ways to stop -/

theorem Crashes.not_delimited {source : String} (h : Crashes source) :
    ¬ Parser.Delimited (tokens source) := fun delimited => parse_ne_badMiddle delimited h.2

theorem crashes_of_middle {source : String} {before after : Parser.Tokens} {token : Token}
    (shallow : groupDepth source ≤ maxGroupDepth)
    (shape : tokens source = before ++ .middle :: token :: after)
    (plain : ∀ token ∈ before, Parser.isPlain token = true)
    (bad : Parser.isLetterOrNumber token = true) : Crashes source :=
  ⟨shallow, parse_badMiddle shape plain bad⟩

theorem Overflows.room_lt {room : Nat} {source : String} (h : Overflows room source) :
    room < 3 * (tokens source).length + 2 := by
  by_contra enough
  exact (fails_of_parseWithin (Nat.le_of_not_lt enough) h.2).1 rfl

theorem groupDepth_chainText (n : Nat) : groupDepth (String.ofList (chainText n)) = 0 := by
  unfold groupDepth
  rw [String.toList_ofList]
  induction n with
  | zero => rfl
  | succ n ih =>
    show max 0 (max 0 (groupDepthFrom 0 (chainText n))) = 0
    rw [ih]
    rfl

theorem overflows_chainText (room : Nat) :
    Overflows room (String.ofList (chainText (room + 1))) :=
  ⟨Nat.le_trans (Nat.le_of_eq (groupDepth_chainText _)) (Nat.zero_le _), parseWithin_chainText room⟩

/-! ### Converters with and without a limit -/

/-- A converter that gives the MathML that there is, or has no room for it. -/
def Converter.Limited (converter : Converter) : Prop :=
  ∀ source display, converter source display = .error .noRoom ∨
    converter source display = mathml source display

theorem limited_mathml : Converter.Limited mathml := fun _ _ => .inr rfl

theorem limited_mathmlWithin (room : Nat) : Converter.Limited (mathmlWithin room) := by
  intro source display
  show (parseWithin room source >>= _) = _ ∨ (parseWithin room source >>= _) = (parse source >>= _)
  rcases parseWithin_eq room source with empty | same
  · rw [empty]
    exact .inl rfl
  · rw [same]
    exact .inr rfl

theorem mathmlWithin_error_iff (room : Nat) (source : String) (display : Display)
    (failure : Failure) :
    mathmlWithin room source display = .error failure ↔ parseWithin room source = .error failure := by
  unfold mathmlWithin
  cases parseWithin room source with
  | error other =>
    constructor
    · rintro ⟨⟩
      rfl
    · rintro ⟨⟩
      rfl
  | ok formulas => constructor <;> rintro ⟨⟩

/-- What the converter does not answer stops the program. -/
theorem convertWith_crash_iff (converter : Converter) (source : String) (display : Display) :
    convertWith converter source display = .crash ↔
      groupDepth source ≤ maxGroupDepth ∧ (converter source display = .error .badMiddle ∨
        converter source display = .error .noRoom) := by
  unfold convertWith
  by_cases deep : maxGroupDepth < groupDepth source
  · rw [if_pos deep]
    constructor
    · rintro ⟨⟩
    · rintro ⟨shallow, -⟩
      omega
  rw [if_neg deep]
  cases converter source display with
  | error failure => cases failure <;> simp [Nat.le_of_not_lt deep]
  | ok m =>
    dsimp only
    cases sanitize m <;> simp

theorem convertWith_mathml_iff {converter : Converter} (limited : converter.Limited)
    {source : String} {display : Display} (calm : convertWith converter source display ≠ .crash)
    (safe : String) :
    convertWith converter source display = .mathml safe ↔ Converts source display safe := by
  rw [Ne, convertWith_crash_iff] at calm
  unfold Converts convertWith
  by_cases deep : maxGroupDepth < groupDepth source
  · rw [if_pos deep]
    constructor
    · rintro ⟨⟩
    · rintro ⟨shallow, -⟩
      omega
  have shallow := Nat.le_of_not_lt deep
  rw [if_neg deep]
  rcases limited source display with empty | same
  · exact absurd ⟨shallow, .inr empty⟩ calm
  rw [same]
  cases mathml source display with
  | error failure => cases failure <;> simp
  | ok m =>
    dsimp only
    cases clean : sanitize m with
    | error flaw => simp [clean]
    | ok out => simp [clean, shallow]

/-- With room for all calls the program stops at middle delimiters only. -/
theorem mathml_crash_iff (source : String) (display : Display) :
    convertWith mathml source display = .crash ↔ Crashes source := by
  have answers : ∀ failure, mathml source display = .error failure ↔ parse source = .error failure :=
    fun failure => mathmlWithin_error_iff _ source display failure
  rw [convertWith_crash_iff, answers, answers]
  simp only [parse_ne_noRoom, or_false]
  rfl

theorem mathmlWithin_crash_iff (room : Nat) (source : String) (display : Display) :
    convertWith (mathmlWithin room) source display = .crash ↔ Aborts room source := by
  rw [convertWith_crash_iff, mathmlWithin_error_iff, mathmlWithin_error_iff]
  constructor
  · rintro ⟨shallow, stops | empty⟩
    · rcases parseWithin_eq room source with empty | same
      · exact absurd (empty.symm.trans stops) nofun
      · exact .inl ⟨shallow, same.symm.trans stops⟩
    · exact .inr ⟨shallow, empty⟩
  · rintro (⟨shallow, stops⟩ | ⟨shallow, empty⟩)
    · rcases parseWithin_eq room source with empty | same
      · exact ⟨shallow, .inr empty⟩
      · exact ⟨shallow, .inl (same.trans stops)⟩
    · exact ⟨shallow, .inr empty⟩

/-! ### The events of a document -/

section Events

variable {converter : Converter}

theorem renderWith_error_iff (source : String) (display : Display) :
    renderWith converter source display = .error {} ↔
      convertWith converter source display = .crash := by
  unfold renderWith
  cases convertWith converter source display <;> simp

theorem renderEventWith_error_iff (e : Event) :
    renderEventWith converter e = .error {} ↔
      ∃ formula ∈ ofEvent? e, convertWith converter formula.1 formula.2 = .crash := by
  unfold renderEventWith
  cases ofEvent? e with
  | none => simp
  | some formula => simpa using renderWith_error_iff formula.1 formula.2

/-- What becomes of a formula, by what the converter gives for it. -/
theorem renderWith_ok (limited : converter.Limited) {source : String} {display : Display}
    {out : Event} (h : renderWith converter source display = .ok out) :
    (∃ safe, Converts source display safe ∧ out = .inlineHtml (wrap safe display)) ∨
      (∀ safe, ¬ Converts source display safe) ∧ out = .text (literal source display) := by
  have calm : convertWith converter source display ≠ .crash := by
    intro crash
    rw [(renderWith_error_iff source display).2 crash] at h
    cases h
  have converts := convertWith_mathml_iff limited calm
  unfold renderWith at h
  cases done : convertWith converter source display with
  | mathml safe =>
    rw [done] at h
    exact .inl ⟨safe, (converts safe).1 done, (Except.ok.inj h).symm⟩
  | rejected reason =>
    rw [done] at h
    refine .inr ⟨fun safe found => ?_, (Except.ok.inj h).symm⟩
    exact absurd (done.symm.trans ((converts safe).2 found)) nofun
  | crash => exact absurd done calm

theorem renderEventWith_ok (limited : converter.Limited) {e out : Event}
    (h : renderEventWith converter e = .ok out) : Rendered e out := by
  cases e with
  | inlineMath source =>
    rcases renderWith_ok limited h with ⟨safe, converts, rfl⟩ | ⟨rejected, rfl⟩
    · rw [wrap_inline]
      exact .inline converts
    · rw [literal_inline]
      exact .inlineLiteral rejected
  | displayMath source =>
    rcases renderWith_ok limited h with ⟨safe, converts, rfl⟩ | ⟨rejected, rfl⟩
    · rw [wrap_block]
      exact .display converts
    · rw [literal_block]
      exact .displayLiteral rejected
  | _ =>
    cases h
    exact .kept nofun nofun

theorem renderAllWith_cons (e : Event) (rest : List Event) :
    renderAllWith converter (e :: rest) = do
      let first ← renderEventWith converter e
      let later ← renderAllWith converter rest
      return first :: later := List.mapM_cons

theorem formulas_cons (e : Event) (rest : List Event) :
    formulas (e :: rest) = (ofEvent? e).toList ++ formulas rest := by
  cases formula : ofEvent? e <;> simp [formulas, formula]

/-- Without a formula that stops the program, every event becomes what it should. -/
theorem renderAllWith_ok (limited : converter.Limited) {events : List Event}
    (calm : ∀ formula ∈ formulas events, convertWith converter formula.1 formula.2 ≠ .crash) :
    ∃ out, renderAllWith converter events = .ok out ∧ List.Forall₂ Rendered events out := by
  induction events with
  | nil => exact ⟨[], rfl, .nil⟩
  | cons e rest ih =>
    rw [formulas_cons] at calm
    obtain ⟨later, rendered, all⟩ :=
      ih fun formula member => calm formula (List.mem_append_right _ member)
    cases done : renderEventWith converter e with
    | error crash =>
      obtain ⟨formula, found, crashes⟩ := (renderEventWith_error_iff e).1 done
      exact absurd crashes (calm formula (by simp [Option.mem_def.1 found]))
    | ok first =>
      refine ⟨first :: later, ?_, .cons (renderEventWith_ok limited done) all⟩
      rw [renderAllWith_cons, done, rendered]
      rfl

theorem renderAllWith_error {events : List Event} {formula : String × Display}
    (member : formula ∈ formulas events)
    (crashes : convertWith converter formula.1 formula.2 = .crash) :
    renderAllWith converter events = .error {} := by
  induction events with
  | nil => cases member
  | cons e rest ih =>
    rw [formulas_cons] at member
    rw [renderAllWith_cons]
    rcases List.mem_append.1 member with here | later
    · rw [(renderEventWith_error_iff e).2 ⟨formula, Option.mem_toList.1 here, crashes⟩]
      rfl
    · cases renderEventWith converter e with
      | error crash => rfl
      | ok first =>
        rw [ih later]
        rfl

theorem rendered_of_renderAllWith (limited : converter.Limited) {events out : List Event}
    (h : renderAllWith converter events = .ok out) : List.Forall₂ Rendered events out := by
  have calm : ∀ formula ∈ formulas events,
      convertWith converter formula.1 formula.2 ≠ .crash := by
    intro formula member crashes
    rw [renderAllWith_error member crashes] at h
    cases h
  obtain ⟨rendered, same, all⟩ := renderAllWith_ok limited calm
  obtain rfl := Except.ok.inj (h.symm.trans same)
  exact all

end Events

theorem renderAll_ok {events : List Event}
    (calm : ∀ formula ∈ formulas events, ¬ Crashes formula.1) :
    ∃ out, renderAll events = .ok out ∧ List.Forall₂ Rendered events out :=
  renderAllWith_ok limited_mathml fun formula member crash =>
    calm formula member ((mathml_crash_iff _ _).1 crash)

theorem renderAll_error {events : List Event} {formula : String × Display}
    (member : formula ∈ formulas events) (crashes : Crashes formula.1) :
    renderAll events = .error {} :=
  renderAllWith_error member ((mathml_crash_iff _ _).2 crashes)

theorem Rendered.ofEvent?_eq_none {e out : Event} (h : Rendered e out) : ofEvent? out = none := by
  cases h with
  | kept noInline noDisplay =>
    cases e with
    | inlineMath source => exact absurd rfl (noInline source)
    | displayMath source => exact absurd rfl (noDisplay source)
    | _ => rfl
  | _ => rfl

/-- No formula is left behind. -/
theorem formulas_of_rendered {events out : List Event} (h : List.Forall₂ Rendered events out) :
    formulas out = [] := by
  induction h with
  | nil => rfl
  | cons first _ ih => rw [formulas_cons, first.ofEvent?_eq_none, ih]; rfl

end PagePress.Math
