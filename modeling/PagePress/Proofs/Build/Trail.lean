import PagePress.Build.Session

/-!
# Runs of a builder

What one move can do to a builder, said once: `advance_changes` names the nine kinds of changes with
everything that must hold before them, and the facts about whole runs are derived from it by
`Trail.follow_keeps`. The requests of a session are runs of moves as well (`Session.step_moves`), so
that what holds after every run of moves holds in every session.
-/
namespace PagePress

namespace Trail

@[simp] theorem follow_nil (t : Trail) : t.follow [] = t := rfl

@[simp] theorem follow_cons (t : Trail) (m : Move) (moves : List Move) :
    t.follow (m :: moves) = (t.move m).follow moves := rfl

theorem follow_append (t : Trail) (first second : List Move) :
    t.follow (first ++ second) = (t.follow first).follow second := List.foldl_append

/-- What every move keeps is kept by every run. -/
theorem follow_keeps {P : Trail → Prop} (keeps : ∀ t m, P t → P (t.move m)) {t : Trail} (h : P t)
    (moves : List Move) : P (t.follow moves) := by
  induction moves generalizing t with
  | nil => exact h
  | cons m rest ih => exact ih (keeps t m h)

/-- What is kept by every move, told with the moves so far, is kept by every run. -/
theorem follow_keeps_past {P : List Move → Trail → Prop}
    (keeps : ∀ past t m, P past t → P (past ++ [m]) (t.move m)) {past : List Move} {t : Trail}
    (h : P past t) (moves : List Move) : P (past ++ moves) (t.follow moves) := by
  induction moves generalizing past t with
  | nil => simpa using h
  | cons m rest ih => simpa using ih (keeps past t m h)

theorem move_of_advance {t : Trail} {m : Move} {b : Builder} {o : Occurrence}
    (h : t.builder.advance m = some (b, o)) : t.move m = ⟨b, t.log ++ [o]⟩ := by
  simp only [move, h]

theorem move_of_stuck {t : Trail} {m : Move} (h : t.builder.advance m = none) : t.move m = t := by
  simp only [move, h]

/-- The log so far has no influence on what happens next. -/
theorem follow_prepend (earlier : List Occurrence) (t : Trail) (moves : List Move) :
    Trail.follow ⟨t.builder, earlier ++ t.log⟩ moves =
      ⟨(t.follow moves).builder, earlier ++ (t.follow moves).log⟩ := by
  induction moves generalizing t with
  | nil => rfl
  | cons m rest ih =>
    simp only [follow_cons]
    cases step : t.builder.advance m with
    | none =>
      rw [move_of_stuck (t := ⟨t.builder, earlier ++ t.log⟩) step, move_of_stuck step]
      exact ih t
    | some change =>
      rw [move_of_advance (t := ⟨t.builder, earlier ++ t.log⟩) step, move_of_advance step,
        List.append_assoc]
      exact ih ⟨change.1, t.log ++ [change.2]⟩

theorem follow_eq (t : Trail) (moves : List Move) :
    t.follow moves =
      ⟨(t.builder.follow moves).builder, t.log ++ (t.builder.follow moves).log⟩ := by
  have h := follow_prepend t.log ⟨t.builder, []⟩ moves
  rw [List.append_nil] at h
  exact h

end Trail

namespace Builder

theorem follow_append (b : Builder) (first second : List Move) :
    b.follow (first ++ second) = (b.follow first).follow second :=
  Trail.follow_append _ first second

/-- At most one build holds a builder, the state says whether one does, and it is the build that was
let in last. -/
inductive Gate (b : Builder) : Prop
  | free (nobody : b.holders = []) (state : b.state ≠ .building)
  | held (ticket : Nat) (progress : Progress) (one : b.holders = [⟨ticket, progress⟩])
      (state : b.state = .building) (last : b.admitted = ticket + 1)

/-- What a move does to a builder, by what is seen of it. -/
inductive Changes (b : Builder) : Occurrence → Builder → Prop
  | turnedAway (busy : b.state = .building) : Changes b .turnedAway b
  | letIn (source themeId : String) (nobody : b.holders = []) :
      Changes b (.letIn b.admitted) { b with
        state := .building
        holders := [⟨b.admitted, .preparing source themeId⟩]
        admitted := b.admitted + 1 }
  | refused (ticket : Nat) (source themeId : String) (failure : BuildFailure)
      (one : b.holders = [⟨ticket, .preparing source themeId⟩])
      (prepared : b.options.prepare source themeId = .error failure) :
      Changes b (.ended ticket (.error failure)) { b with state := .failed, holders := [] }
  | handedOff (ticket : Nat) (source themeId : String) (job : Job)
      (one : b.holders = [⟨ticket, .preparing source themeId⟩])
      (prepared : b.options.prepare source themeId = .ok job) :
      Changes b (.handedOff ticket) { b with
        holders := [⟨ticket, .waiting⟩]
        saves := b.saves ++ [{ ticket, job }] }
  | saveCalled (ticket : Nat) (job : Job) (queued : ⟨ticket, job, false⟩ ∈ b.saves) :
      Changes b (.saveCalled ticket job) (b.runSave ticket)
  | saveEnded (ticket : Nat) (job : Job) (outcome : SaveOutcome)
      (running : ⟨ticket, job, true⟩ ∈ b.saves) :
      Changes b (.saveEnded ticket job outcome)
        ((b.dropSave ticket).note ticket (.settled (Builder.result job outcome)))
  | saveCancelled (ticket : Nat) (job : Job) (queued : ⟨ticket, job, false⟩ ∈ b.saves) :
      Changes b (.saveCancelled ticket)
        ((b.dropSave ticket).note ticket (.settled (.error .interrupted)))
  | concluded (ticket : Nat) (result : Except BuildFailure Job)
      (one : b.holders = [⟨ticket, .settled result⟩]) :
      Changes b (.ended ticket result) { b with
        state := Builder.stateAfter result
        holders := [] }
  | givenUp (ticket : Nat) (progress : Progress) (one : b.holders = [⟨ticket, progress⟩])
      (suspended : ∀ source themeId, progress ≠ .preparing source themeId) :
      Changes b (.givenUp ticket) { b with state := .failed, holders := [] }

theorem mem_saves_of_save? {b : Builder} {ticket t : Nat} {job : Job} {running : Bool}
    (h : b.save? ticket = some ⟨t, job, running⟩) : ⟨ticket, job, running⟩ ∈ b.saves := by
  have same : t = ticket := by simpa using List.find?_some h
  exact same ▸ List.mem_of_find?_eq_some h

theorem Gate.holders_of_progress? {b : Builder} (gate : Gate b) {ticket : Nat} {p : Progress}
    (h : b.progress? ticket = some p) : b.holders = [⟨ticket, p⟩] := by
  cases gate with
  | free nobody => simp [progress?, nobody] at h
  | held t q one =>
    by_cases same : t = ticket
    · subst same
      simp only [progress?, one, List.find?_cons, beq_self_eq_true, Option.map_some,
        Option.some.injEq] at h
      rw [one, h]
    · simp [progress?, one, same] at h

theorem letGo_one {b : Builder} {ticket : Nat} {p : Progress} (one : b.holders = [⟨ticket, p⟩])
    (state : BuildState) : b.letGo ticket state = { b with state, holders := [] } := by
  simp [letGo, one]

theorem note_one {b : Builder} {ticket : Nat} {p : Progress} (one : b.holders = [⟨ticket, p⟩])
    (q : Progress) : b.note ticket q = { b with holders := [⟨ticket, q⟩] } := by
  simp [note, one]

/-- A build is let in exactly when nobody holds the builder. -/
theorem Gate.letIn? {b : Builder} (gate : Gate b) (source themeId : String) :
    b.letIn? source themeId =
      if b.holders = [] then
        some { b with
          state := .building
          holders := [⟨b.admitted, .preparing source themeId⟩]
          admitted := b.admitted + 1 }
      else none := by
  cases gate with
  | free nobody state => simp [Builder.letIn?, nobody, state]
  | held ticket p one state => simp [Builder.letIn?, one, state]

/-- Whatever move is made, behind the gate it makes one of the named changes. -/
theorem advance_changes {b after : Builder} {m : Move} {o : Occurrence} (gate : Gate b)
    (h : b.advance m = some (after, o)) : Changes b o after := by
  cases m with
  | start source themeId =>
    simp only [advance, gate.letIn?] at h
    cases gate with
    | free nobody state =>
      simp only [nobody, if_true, Option.some.injEq, Prod.mk.injEq] at h
      obtain ⟨rfl, rfl⟩ := h
      exact .letIn source themeId nobody
    | held ticket p one state =>
      simp only [one, List.cons_ne_nil, if_false, Option.some.injEq, Prod.mk.injEq] at h
      obtain ⟨rfl, rfl⟩ := h
      exact .turnedAway state
  | prepare ticket =>
    simp only [advance] at h
    split at h
    next source themeId found =>
      have one := gate.holders_of_progress? found
      split at h
      next failure prepared =>
        simp only [finish, letGo_one one, Option.some.injEq, Prod.mk.injEq] at h
        obtain ⟨rfl, rfl⟩ := h
        exact .refused ticket source themeId failure one prepared
      next job prepared =>
        simp only [note_one one, addSave, Option.some.injEq, Prod.mk.injEq] at h
        obtain ⟨rfl, rfl⟩ := h
        exact .handedOff ticket source themeId job one prepared
    next => cases h
  | callSave ticket =>
    simp only [advance] at h
    split at h
    next t job found =>
      cases h
      exact .saveCalled ticket job (mem_saves_of_save? found)
    next => cases h
  | endSave ticket outcome =>
    simp only [advance] at h
    split at h
    next t job found =>
      cases h
      exact .saveEnded ticket job outcome (mem_saves_of_save? found)
    next => cases h
  | cancelSave ticket =>
    simp only [advance] at h
    split at h
    next t job found =>
      cases h
      exact .saveCancelled ticket job (mem_saves_of_save? found)
    next => cases h
  | conclude ticket =>
    simp only [advance] at h
    split at h
    next result found =>
      have one := gate.holders_of_progress? found
      simp only [finish, letGo_one one, Option.some.injEq, Prod.mk.injEq] at h
      obtain ⟨rfl, rfl⟩ := h
      exact .concluded ticket result one
    next => cases h
  | giveUp ticket =>
    simp only [advance] at h
    split at h
    next found =>
      have one := gate.holders_of_progress? found
      simp only [letGo_one one, Option.some.injEq, Prod.mk.injEq] at h
      obtain ⟨rfl, rfl⟩ := h
      exact .givenUp ticket .waiting one (by simp)
    next result found =>
      have one := gate.holders_of_progress? found
      simp only [letGo_one one, Option.some.injEq, Prod.mk.injEq] at h
      obtain ⟨rfl, rfl⟩ := h
      exact .givenUp ticket _ one (by simp)
    next => cases h

end Builder

namespace Session

/-- The session after a run of requests. -/
def through (s : Session) (requests : List Request) : Session :=
  requests.foldl (fun s request => (s.step request).1) s

theorem after_start (s : Session) : s.after ⟨s.builder, []⟩ = s := rfl

theorem after_after (s : Session) (t : Trail) (moves : List Move) :
    (s.after t).after ((s.after t).builder.follow moves) = s.after (t.follow moves) := by
  rw [Trail.follow_eq]
  simp [after, Trail.stored]

theorem duringSave_moves (s : Session) (mode : SaveMode) :
    ∃ moves, (s.duringSave mode).1 = s.after (s.builder.follow moves) := by
  cases mode with
  | asksFirst source themeId => exact ⟨_, rfl⟩
  | _ => exact ⟨[], (after_start s).symm⟩

/-- A request does nothing but moves of the builder. -/
theorem step_moves (s : Session) (request : Request) :
    ∃ moves, (s.step request).1 = s.after (s.builder.follow moves) := by
  cases request with
  | build source themeId mode =>
    simp only [step]
    split
    next => exact ⟨_, rfl⟩
    next job called =>
      obtain ⟨moves, during⟩ := duringSave_moves
        (s.after (s.builder.follow (Builder.towardsSave s.builder.admitted source themeId))) mode
      simp only [leave, during, after_after, ← Builder.follow_append]
      exact ⟨_, rfl⟩
  | begin source themeId =>
    simp only [step]
    split <;> exact ⟨_, rfl⟩
  | finish outcome =>
    simp only [step]
    split
    next => exact ⟨[], (after_start s).symm⟩
    next => exact ⟨_, rfl⟩
  | abandon =>
    simp only [step]
    split
    next => exact ⟨[], (after_start s).symm⟩
    next => exact ⟨_, rfl⟩
  | release outcome =>
    simp only [step]
    split
    next => exact ⟨[], (after_start s).symm⟩
    next => exact ⟨_, rfl⟩

theorem through_moves (s : Session) (requests : List Request) :
    ∃ moves, s.through requests = s.after (s.builder.follow moves) := by
  induction requests generalizing s with
  | nil => exact ⟨[], (after_start s).symm⟩
  | cons request rest ih =>
    obtain ⟨first, made⟩ := step_moves s request
    obtain ⟨second, followed⟩ := ih (s.step request).1
    refine ⟨first ++ second, ?_⟩
    rw [through, List.foldl_cons, ← through, followed, made, after_after, Builder.follow_append]

end Session

end PagePress
