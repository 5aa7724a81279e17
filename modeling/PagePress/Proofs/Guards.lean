import PagePress.Proofs.Autolink.Linking
import PagePress.Proofs.HeadingIds.Closed
import PagePress.Proofs.Marks
import PagePress.Proofs.Pipeline

/-!
# The bounds of a pipeline

A source is refused exactly if it is too long or its tree is too high, the length being looked at
first. No stage can undo this: naming headings and converting formulas leave the marks of a document as
they are, and a link is put only where no link is open yet, so that a document has at most one level
more at last than it had at first. What carries this through any number of stages is that a place may
be one level too deep only inside an element in which nothing is linked (`Bounded`).
-/
namespace PagePress

namespace Mark

/-- Elements in which nothing is linked, given by their ends. -/
def forbids (close : TagEnd) : Bool := Autolink.closesSuppression (.stop close)

/-- A place in a document may be deeper than the limit by one level, if nothing can be linked there. -/
def Fits (limit : Nat) (pending : List TagEnd) : Prop :=
  pending.length ≤ limit + if pending.any forbids then 1 else 0

/-- Marks that end all elements, no place between them being too deep. -/
inductive Bounded (limit : Nat) : List TagEnd → List Mark → Prop
  | done : Bounded limit [] []
  | next {pending inner : List TagEnd} {m : Mark} {rest : List Mark} (fits : Fits limit pending)
      (after : after? pending m = some inner) (later : Bounded limit inner rest) :
      Bounded limit pending (m :: rest)

variable {limit depth : Nat} {pending : List TagEnd} {marks rest : List Mark}

theorem Bounded.fits (bounded : Bounded limit pending marks) : Fits limit pending := by
  cases bounded with
  | done => exact Nat.zero_le _
  | next fits _ _ => exact fits

theorem Bounded.atEnd? (bounded : Bounded limit pending marks) :
    Mark.atEnd? pending marks = some [] := by
  induction bounded with
  | done => rfl
  | next _ after _ ih =>
    rw [Mark.atEnd?, after]
    exact ih

/-- The number of elements that are open after a mark. -/
theorem heightFrom_after {m : Mark} {inner : List TagEnd} (after : after? pending m = some inner) :
    heightFrom pending.length (m :: rest) = max pending.length (heightFrom inner.length rest) := by
  cases m with
  | opens close =>
    obtain rfl := Option.some.inj after
    have deeper := le_heightFrom (close :: pending).length rest
    rw [List.length_cons] at deeper
    rw [heightFrom, List.length_cons]
    omega
  | closes close =>
    cases pending with
    | nil => cases after
    | cons next outer =>
      rw [after?] at after
      split at after
      next =>
        obtain rfl := Option.some.inj after
        rfl
      next => cases after

theorem Bounded.heightFrom_le (bounded : Bounded limit pending marks) :
    heightFrom pending.length marks ≤ limit + 1 := by
  have room : ∀ {pending : List TagEnd}, Fits limit pending → pending.length ≤ limit + 1 := by
    intro pending fits
    unfold Fits at fits
    split at fits <;> omega
  induction bounded with
  | done => exact Nat.zero_le _
  | next fits after _ ih =>
    rw [heightFrom_after after]
    exact Nat.max_le.2 ⟨room fits, ih⟩

theorem bounded_of_heightFrom (ends : Mark.atEnd? pending marks = some [])
    (low : heightFrom pending.length marks ≤ limit) : Bounded limit pending marks := by
  induction marks generalizing pending with
  | nil =>
    obtain rfl := Option.some.inj ends
    exact .done
  | cons m rest ih =>
    obtain ⟨inner, after, later⟩ := Option.bind_eq_some_iff.1 ends
    rw [heightFrom_after after] at low
    obtain ⟨here, behind⟩ := Nat.max_le.1 low
    exact .next (Nat.le_add_right_of_le here) after (ih later behind)

/-! ### Links -/

/-- A link where none may be is one level too deep, and no more. -/
theorem Bounded.link (free : pending.any forbids = false) (bounded : Bounded limit pending rest) :
    Bounded limit pending (.opens .link :: .closes .link :: rest) := by
  have fits := bounded.fits
  have inside : Fits limit (.link :: pending) := by
    unfold Fits at fits ⊢
    rw [free] at fits
    exact Nat.succ_le_succ fits
  have ended : after? (.link :: pending) (.closes .link) = some pending := by
    rw [after?, if_pos rfl]
  exact .next fits rfl (.next inside ended bounded)

theorem Bounded.parts (free : pending.any forbids = false) (parts : List Autolink.Part)
    (bounded : Bounded limit pending rest) :
    Bounded limit pending (all (Autolink.Part.allEvents parts) ++ rest) := by
  induction parts with
  | nil => exact bounded
  | cons part parts ih =>
    cases part with
    | plain text => exact ih
    | linked href text => exact ih.link free

theorem depthAfter_leaf {e : Event} (leaf : ofEvent? e = none) (depth : Nat) :
    Autolink.depthAfter depth e = depth := by
  cases e with
  | start | stop => cases leaf
  | _ => rfl

/-- The count of the stage that links is that of the open elements in which nothing is linked. -/
theorem depthAfter_mark {e : Event} {m : Mark} {inner : List TagEnd} (mark : ofEvent? e = some m)
    (after : after? pending m = some inner) :
    Autolink.depthAfter (pending.countP forbids) e = inner.countP forbids := by
  cases e with
  | start tag =>
    obtain rfl := Option.some.inj mark
    obtain rfl := Option.some.inj after
    have same : Autolink.opensSuppression (.start tag) = forbids tag.close :=
      (Autolink.opensSuppression_start tag).trans (Autolink.closesSuppression_close tag).symm
    rw [Autolink.depthAfter, same, List.countP_cons]
    cases forbids tag.close <;> rfl
  | stop close =>
    obtain rfl := Option.some.inj mark
    cases pending with
    | nil => cases after
    | cons next outer =>
      rw [after?] at after
      split at after
      next own =>
        obtain rfl := Option.some.inj after
        have same : Autolink.closesSuppression (.stop close) = forbids next := by rw [own]; rfl
        rw [Autolink.depthAfter, same, List.countP_cons]
        cases forbids next <;> rfl
      next => cases after
  | _ => cases mark

theorem Bounded.linkFrom {events : List Event} (bounded : Bounded limit pending (all events)) :
    Bounded limit pending (all (Autolink.linkFrom (pending.countP forbids) events)) := by
  induction events generalizing pending with
  | nil => exact bounded
  | cons e rest ih =>
    rw [all_cons] at bounded
    rw [Autolink.linkFrom, all_append]
    cases mark : ofEvent? e with
    | none =>
      rw [mark] at bounded
      have later := ih bounded
      rw [depthAfter_leaf mark]
      rcases Autolink.expand_cases (pending.countP forbids) e with kept | ⟨outside, s, parts, -, cut, -⟩
      · rw [kept, all_cons, mark]
        exact later
      · have free : pending.any forbids = false := by
          rw [List.any_eq_false]
          exact fun close member => List.countP_eq_zero.1 outside close member
        rw [cut]
        exact later.parts free parts
    | some m =>
      rw [mark] at bounded
      obtain _ | ⟨fits, after, later⟩ := bounded
      have kept : Autolink.expand (pending.countP forbids) e = [e] := by
        rcases Autolink.expand_cases (pending.countP forbids) e with kept | ⟨-, s, parts, rfl, -⟩
        · exact kept
        · cases mark
      rw [kept, all_cons, mark, depthAfter_mark mark after]
      exact .next fits after (ih later)

/-! ### All stages -/

theorem ofEvent?_withoutId (e : Event) : ofEvent? (HeadingIds.withoutId e) = ofEvent? e := by
  unfold HeadingIds.withoutId
  split <;> rfl

theorem all_assign (events : List Event) : all (HeadingIds.assign events) = all events := by
  have unnamed : ∀ events : List Event, all (events.map HeadingIds.withoutId) = all events := by
    intro events
    rw [all, List.filterMap_map]
    exact List.filterMap_congr fun e _ => ofEvent?_withoutId e
  rw [← unnamed, HeadingIds.assign_eq, HeadingIds.map_withoutId_assignedFrom, unnamed]

/-- Neither a formula nor what it becomes is a mark. -/
theorem all_of_rendered {events out : List Event} (h : List.Forall₂ Math.Rendered events out) :
    all out = all events := by
  induction h with
  | nil => rfl
  | cons first _ ih =>
    rw [all_cons, all_cons, ih]
    cases first with
    | kept => rfl
    | inline | display | inlineLiteral | displayLiteral => rfl

theorem Bounded.apply {stage : Stage} {events out : List Event}
    (bounded : Bounded limit [] (all events)) (applied : stage.apply events = .ok out) :
    Bounded limit [] (all out) := by
  cases stage with
  | autolink =>
    obtain rfl := Except.ok.inj applied
    rw [Autolink.link_eq]
    exact bounded.linkFrom
  | headingIds =>
    obtain rfl := Except.ok.inj applied
    rwa [all_assign]
  | math =>
    rwa [all_of_rendered (Math.rendered_of_renderAllWith Math.limited_mathml applied)]

theorem Bounded.run {stages : List Stage} {events out : List Event}
    (bounded : Bounded limit [] (all events)) (ran : Pipeline.run stages events = .ok out) :
    Bounded limit [] (all out) := by
  induction stages generalizing events with
  | nil =>
    obtain rfl := Except.ok.inj ran
    exact bounded
  | cons stage rest ih =>
    rw [Pipeline.run_cons] at ran
    cases applied : stage.apply events with
    | error crash =>
      rw [applied] at ran
      cases ran
    | ok between =>
      rw [applied] at ran
      exact ih (bounded.apply applied) ran

end Mark

namespace Pipeline

/-- The height that counts is that of the tree. -/
theorem accept_eq (pipeline : Pipeline) (source : String) :
    pipeline.accept source =
      if pipeline.maxSourceBytes < source.utf8ByteSize then
        .error (.tooLong source.utf8ByteSize pipeline.maxSourceBytes)
      else if pipeline.maxNesting < Node.heightAll (Markdown.nodes source) then
        .error (.tooDeep (Node.heightAll (Markdown.nodes source)) pipeline.maxNesting)
      else .ok (Markdown.events source) := by
  have height : Event.height (Markdown.events source) = Node.heightAll (Markdown.nodes source) :=
    Node.height_events _
  rw [← height]
  rfl

/-- What becomes of a source, with the height of its tree. -/
theorem tryRender_eq (pipeline : Pipeline) (source : String) :
    pipeline.tryRender source =
      if pipeline.maxSourceBytes < source.utf8ByteSize then
        .error (.refused (.tooLong source.utf8ByteSize pipeline.maxSourceBytes))
      else if pipeline.maxNesting < Node.heightAll (Markdown.nodes source) then
        .error (.refused
          (.tooDeep (Node.heightAll (Markdown.nodes source)) pipeline.maxNesting))
      else
        ((run pipeline.stages (Markdown.events source)).mapError fun _ => .crashed).map Html.write := by
  have accepts := pipeline.accept_eq source
  by_cases long : pipeline.maxSourceBytes < source.utf8ByteSize
  · rw [if_pos long] at accepts ⊢
    exact tryRender_of_refused accepts
  rw [if_neg long] at accepts ⊢
  by_cases deep : pipeline.maxNesting < Node.heightAll (Markdown.nodes source)
  · rw [if_pos deep] at accepts ⊢
    exact tryRender_of_refused accepts
  · rw [if_neg deep] at accepts ⊢
    exact tryRender_of_accepted accepts

theorem tryRender_refused_iff {pipeline : Pipeline} {source : String} {refusal : Refusal} :
    pipeline.tryRender source = .error (.refused refusal) ↔
      pipeline.maxSourceBytes < source.utf8ByteSize ∧
        refusal = .tooLong source.utf8ByteSize pipeline.maxSourceBytes ∨
      source.utf8ByteSize ≤ pipeline.maxSourceBytes ∧
        pipeline.maxNesting < Node.heightAll (Markdown.nodes source) ∧
        refusal = .tooDeep (Node.heightAll (Markdown.nodes source)) pipeline.maxNesting := by
  rw [tryRender_eq]
  by_cases long : pipeline.maxSourceBytes < source.utf8ByteSize
  · simp [long, Nat.not_le_of_lt long, eq_comm]
  by_cases deep : pipeline.maxNesting < Node.heightAll (Markdown.nodes source)
  · simp [long, deep, Nat.le_of_not_lt long, eq_comm]
  · cases ran : run pipeline.stages (Markdown.events source) <;>
      simp [long, deep, Except.map, Except.mapError]

theorem tryRender_ok_iff {pipeline : Pipeline} {source html : String} :
    pipeline.tryRender source = .ok html ↔
      source.utf8ByteSize ≤ pipeline.maxSourceBytes ∧
      Node.heightAll (Markdown.nodes source) ≤ pipeline.maxNesting ∧
      ∃ out, run pipeline.stages (Markdown.events source) = .ok out ∧ html = Html.write out := by
  rw [tryRender_eq]
  by_cases long : pipeline.maxSourceBytes < source.utf8ByteSize
  · simp [long, Nat.not_le_of_lt long]
  by_cases deep : pipeline.maxNesting < Node.heightAll (Markdown.nodes source)
  · simp [long, deep, Nat.not_le_of_lt deep]
  · cases ran : run pipeline.stages (Markdown.events source) <;>
      simp [long, deep, Except.map, Except.mapError, Nat.le_of_not_lt long, Nat.le_of_not_lt deep,
        eq_comm]

/-- The stages leave a document well nested and make it higher by one level at most. -/
theorem run_bounded {stages : List Stage} {events out : List Event} {limit : Nat}
    (nested : Event.WellNested events) (low : Event.height events ≤ limit)
    (ran : run stages events = .ok out) : Event.WellNested out ∧ Event.height out ≤ limit + 1 := by
  have bounded : Mark.Bounded limit [] (Mark.all events) := by
    refine Mark.bounded_of_heightFrom ((Mark.wellNested_iff events).1 nested) ?_
    rw [List.length_nil, Mark.heightFrom_all]
    exact low
  have kept := bounded.run ran
  refine ⟨(Mark.wellNested_iff out).2 kept.atEnd?, ?_⟩
  rw [Event.height, ← Mark.heightFrom_all]
  exact kept.heightFrom_le

example :
    let events : List Event := [.start .paragraph, .text "www.a.b", .stop .paragraph]
    Event.height events = 1 ∧ Event.height (Autolink.link events) = 2 := by decide +kernel

/-- The documents that are read are well nested, and counting along them gives the height of their
trees. A source is refused in the first phase exactly if it is too long, and in the second one exactly
if it is not, but its tree is too high. Every other source is rendered unless a formula stops the
program, and what is written as HTML is well nested and at most one level higher than allowed, whatever
the stages are. With greater bounds, what was rendered is rendered alike. -/
theorem bounds_exact (pipeline : Pipeline) (source : String) :
    let events := Markdown.events source
    let height := Node.heightAll (Markdown.nodes source)
    let result := pipeline.tryRender source
    (Event.WellNested events ∧ Event.height events = height) ∧
    ((∃ refusal, result = .error (.refused refusal) ∧ refusal.phase = .parse) ↔
      pipeline.maxSourceBytes < source.utf8ByteSize) ∧
    ((∃ refusal, result = .error (.refused refusal) ∧ refusal.phase = .transform) ↔
      source.utf8ByteSize ≤ pipeline.maxSourceBytes ∧ pipeline.maxNesting < height) ∧
    ((∃ html, result = .ok html) ↔
      source.utf8ByteSize ≤ pipeline.maxSourceBytes ∧ height ≤ pipeline.maxNesting ∧
        ¬ pipeline.CrashesOn source) ∧
    (∀ html, result = .ok html →
      ∃ out, run pipeline.stages events = .ok out ∧ html = Html.write out ∧
        Event.WellNested out ∧ Event.height out ≤ pipeline.maxNesting + 1) ∧
    ∀ maxSourceBytes maxNesting html, pipeline.maxSourceBytes ≤ maxSourceBytes →
      pipeline.maxNesting ≤ maxNesting → result = .ok html →
      { pipeline with maxSourceBytes, maxNesting }.tryRender source = .ok html := by
  intro events height result
  have nested : Event.WellNested events := Node.wellNested_events _
  have counted : Event.height events = height := Node.height_events _
  refine ⟨⟨nested, counted⟩, ?_, ?_, ?_, ?_, ?_⟩
  · constructor
    · rintro ⟨refusal, refused, phase⟩
      rcases tryRender_refused_iff.1 refused with ⟨long, -⟩ | ⟨-, -, rfl⟩
      · exact long
      · cases phase
    · exact fun long => ⟨_, tryRender_refused_iff.2 (.inl ⟨long, rfl⟩), rfl⟩
  · constructor
    · rintro ⟨refusal, refused, phase⟩
      rcases tryRender_refused_iff.1 refused with ⟨-, rfl⟩ | ⟨short, deep, -⟩
      · cases phase
      · exact ⟨short, deep⟩
    · exact fun ⟨short, deep⟩ => ⟨_, tryRender_refused_iff.2 (.inr ⟨short, deep, rfl⟩), rfl⟩
  · constructor
    · rintro ⟨html, rendered⟩
      obtain ⟨short, low, -⟩ := tryRender_ok_iff.1 rendered
      refine ⟨short, low, fun crashes => ?_⟩
      rw [← tryRender_crashed_iff] at crashes
      cases rendered.symm.trans crashes
    · rintro ⟨short, low, calm⟩
      cases outcome : pipeline.tryRender source with
      | ok html => exact ⟨html, outcome⟩
      | error failure =>
        cases failure with
        | crashed => exact absurd ((pipeline.tryRender_crashed_iff source).1 outcome) calm
        | refused refusal =>
          rcases tryRender_refused_iff.1 outcome with ⟨long, -⟩ | ⟨-, deep, -⟩
          · exact absurd short (Nat.not_le_of_lt long)
          · exact absurd low (Nat.not_le_of_lt deep)
  · intro html rendered
    obtain ⟨-, low, out, ran, rfl⟩ := tryRender_ok_iff.1 rendered
    exact ⟨out, ran, rfl, run_bounded nested (Nat.le_trans (Nat.le_of_eq counted) low) ran⟩
  · intro maxSourceBytes maxNesting html longer deeper rendered
    obtain ⟨short, low, ran⟩ := tryRender_ok_iff.1 rendered
    exact tryRender_ok_iff.2 ⟨Nat.le_trans short longer, Nat.le_trans low deeper, ran⟩

end Pipeline

end PagePress
