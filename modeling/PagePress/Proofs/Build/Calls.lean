import PagePress.Proofs.Build.Saves

/-!
# Calls for builds

A call for a build is answered at once: it is turned away, or it is let in with a ticket. All that is
seen of its build later on is told of the ticket. `calls` puts every call of a run beside its answer,
and `Trail.Known` follows the document of a call through the run: what is handed over and what is
returned under a ticket is about the document of the one call with it.
-/
namespace PagePress

/-- A call for a build, with the ticket under which it was let in, if it was. -/
structure Call where
  source : String
  themeId : String
  ticket? : Option Nat

/-- The document and the theme that are called for. -/
def Move.call? : Move → Option (String × String)
  | .start source themeId => some (source, themeId)
  | _ => none

/-- The answer to a call: the ticket, or none for one that is turned away. -/
def Occurrence.answer? : Occurrence → Option (Option Nat)
  | .turnedAway => some none
  | .letIn ticket => some (some ticket)
  | _ => none

/-- The calls of a run with their answers, in order. -/
def calls (moves : List Move) (log : List Occurrence) : List Call :=
  ((moves.filterMap Move.call?).zip (log.filterMap Occurrence.answer?)).map fun answered =>
    ⟨answered.1.1, answered.1.2, answered.2⟩

/-- The call has returned, or crashed. One that is turned away returns at once. -/
def Call.Returns (log : List Occurrence) (call : Call) (result : Except BuildFailure Job) : Prop :=
  match call.ticket? with
  | none => result = .error .busy
  | some ticket => .ended ticket result ∈ log

/-- Each call of a run has one answer. -/
def Answered (moves : List Move) (log : List Occurrence) : Prop :=
  (moves.filterMap Move.call?).length = (log.filterMap Occurrence.answer?).length

namespace Answered

variable {moves : List Move} {log : List Occurrence}

theorem documents (answered : Answered moves log) :
    (calls moves log).map (fun call => (call.source, call.themeId)) =
      moves.filterMap Move.call? := by
  rw [calls, List.map_map]
  exact List.map_fst_zip (Nat.le_of_eq answered)

theorem answers (answered : Answered moves log) :
    (calls moves log).map Call.ticket? = log.filterMap Occurrence.answer? := by
  rw [calls, List.map_map]
  exact List.map_snd_zip (Nat.le_of_eq answered.symm)

theorem tickets (answered : Answered moves log) :
    (calls moves log).filterMap Call.ticket? = log.filterMap Occurrence.admission? := by
  have same : ∀ o : Occurrence, (o.answer?.bind id) = o.admission? := by
    intro o
    cases o <;> rfl
  have joined := congrArg (List.filterMap id) answered.answers
  simpa only [List.filterMap_map, List.filterMap_filterMap, Function.id_comp, same] using joined

/-- A move that is no call leaves the calls as they are. -/
theorem other (answered : Answered moves log) {m : Move} (none : m.call? = none) :
    Answered (moves ++ [m]) log ∧ calls (moves ++ [m]) log = calls moves log := by
  have same : (moves ++ [m]).filterMap Move.call? = moves.filterMap Move.call? := by simp [none]
  simpa only [Answered, calls, same, and_true] using answered

theorem quiet (answered : Answered moves log) {o : Occurrence} (none : o.answer? = none) :
    Answered moves (log ++ [o]) ∧ calls moves (log ++ [o]) = calls moves log := by
  have same : (log ++ [o]).filterMap Occurrence.answer? = log.filterMap Occurrence.answer? := by
    simp [none]
  simpa only [Answered, calls, same, and_true] using answered

theorem start (answered : Answered moves log) (source themeId : String) {o : Occurrence}
    {answer : Option Nat} (given : o.answer? = some answer) :
    Answered (moves ++ [.start source themeId]) (log ++ [o]) ∧
    calls (moves ++ [.start source themeId]) (log ++ [o]) =
      calls moves log ++ [⟨source, themeId, answer⟩] := by
  simp only [Answered, calls, List.filterMap_append, List.filterMap_cons, List.filterMap_nil,
    Move.call?, given, List.length_append]
  rw [List.zip_append answered, List.map_append]
  exact ⟨congrArg (· + 1) answered, rfl⟩

end Answered

/-- If the tickets differ, a ticket has one call. -/
theorem filter_ticket {calls : List Call} (distinct : (calls.filterMap Call.ticket?).Nodup)
    {call : Call} (member : call ∈ calls) {ticket : Nat} (has : call.ticket? = some ticket) :
    calls.filter (·.ticket? == some ticket) = [call] := by
  induction calls with
  | nil => cases member
  | cons first rest ih =>
    by_cases mine : first.ticket? = some ticket
    · have alone : ∀ other ∈ rest, other.ticket? ≠ some ticket := by
        intro other later same
        rw [List.filterMap_cons_some mine] at distinct
        exact (List.nodup_cons.1 distinct).1 (List.mem_filterMap.2 ⟨other, later, same⟩)
      obtain rfl : call = first :=
        (List.mem_cons.1 member).resolve_right fun later => alone call later has
      have none : rest.filter (·.ticket? == some ticket) = [] := by simpa using alone
      rw [List.filter_cons_of_pos (by simpa using mine), none]
    · have later : call ∈ rest :=
        (List.mem_cons.1 member).resolve_left fun same => mine (same ▸ has)
      rw [List.filter_cons_of_neg (by simpa using mine)]
      exact ih (distinct.sublist ((List.sublist_cons_self first rest).filterMap _)) later

/-- The document that was let in with a ticket is of a kind. -/
def LetInFor (calls : List Call) (ticket : Nat) (kind : String → String → Prop) : Prop :=
  ∃ source themeId, ⟨source, themeId, some ticket⟩ ∈ calls ∧ kind source themeId

/-- What a document comes to: preparing it fails, its archive is saved, or its save is dropped. -/
inductive Yields (options : BuildOptions) (log : List Occurrence) (ticket : Nat)
    (source themeId : String) : Except BuildFailure Job → Prop
  | unprepared (failure : BuildFailure)
      (prepared : options.prepare source themeId = .error failure) :
      Yields options log ticket source themeId (.error failure)
  | saved (job : Job) (outcome : SaveOutcome) (prepared : options.prepare source themeId = .ok job)
      (ended : .saveEnded ticket job outcome ∈ log) :
      Yields options log ticket source themeId (Builder.result job outcome)
  | dropped (job : Job) (prepared : options.prepare source themeId = .ok job)
      (cancelled : .saveCancelled ticket ∈ log) :
      Yields options log ticket source themeId (.error .interrupted)

variable {options : BuildOptions} {moves : List Move} {log : List Occurrence} {ticket : Nat}
  {source themeId : String} {job : Job}

theorem LetInFor.mono {calls more : List Call} {kind wider : String → String → Prop}
    (h : LetInFor calls ticket kind) (sub : ∀ call ∈ calls, call ∈ more)
    (weaker : ∀ source themeId, kind source themeId → wider source themeId) :
    LetInFor more ticket wider := by
  obtain ⟨source, themeId, member, this⟩ := h
  exact ⟨source, themeId, sub _ member, weaker source themeId this⟩

theorem Yields.append {result : Except BuildFailure Job}
    (h : Yields options log ticket source themeId result) (o : Occurrence) :
    Yields options (log ++ [o]) ticket source themeId result := by
  cases h with
  | unprepared failure prepared => exact .unprepared failure prepared
  | saved job outcome prepared ended =>
    exact .saved job outcome prepared (List.mem_append_left _ ended)
  | dropped job prepared cancelled =>
    exact .dropped job prepared (List.mem_append_left _ cancelled)

/-- A bundle comes from an archive that was stored. -/
theorem Yields.of_ok (h : Yields options log ticket source themeId (.ok job)) :
    options.prepare source themeId = .ok job ∧ .saveEnded ticket job .stored ∈ log := by
  generalize shape : Except.ok job = result at h
  cases h with
  | unprepared failure prepared => cases shape
  | saved job' outcome prepared ended =>
    cases outcome <;> cases shape
    exact ⟨prepared, ended⟩
  | dropped job' prepared cancelled => cases shape

/-- No save makes a refusal or a crash while rendering: they come from preparing the document. -/
theorem Yields.of_unprepared {failure : BuildFailure}
    (h : Yields options log ticket source themeId (.error failure))
    (early : failure = .crashed ∨ ∃ refusal, failure = .refused refusal) :
    options.prepare source themeId = .error failure := by
  generalize shape : Except.error failure = result at h
  cases h with
  | unprepared failure' prepared => cases shape; exact prepared
  | saved job outcome prepared ended => cases outcome <;> cases shape <;> simp at early
  | dropped job prepared cancelled => cases shape; simp at early

namespace Trail

/-- What goes on under a ticket is about the document that was let in with it. -/
structure Known (calls : List Call) (t : Trail) : Prop where
  preparing : ∀ ticket source themeId, ⟨ticket, .preparing source themeId⟩ ∈ t.builder.holders →
    ⟨source, themeId, some ticket⟩ ∈ calls
  saves : ∀ save ∈ t.builder.saves,
    LetInFor calls save.ticket (t.builder.options.prepare · · = .ok save.job)
  handed : ∀ ticket job, .saveCalled ticket job ∈ t.log →
    LetInFor calls ticket (t.builder.options.prepare · · = .ok job)
  settled : ∀ ticket result, ⟨ticket, .settled result⟩ ∈ t.builder.holders →
    LetInFor calls ticket (Yields t.builder.options t.log ticket · · result)
  returned : ∀ ticket result, .ended ticket result ∈ t.log →
    LetInFor calls ticket (Yields t.builder.options t.log ticket · · result)

theorem known_start (options : BuildOptions) : Known [] ⟨{ options }, []⟩ := by
  constructor <;> simp

namespace Known

variable {calls more : List Call} {t : Trail} {b : Builder} {o : Occurrence}

/-- What a step adds is about a document that was let in, so everything is after it. -/
theorem carry (known : Known calls t) (sub : ∀ call ∈ calls, call ∈ more)
    (options : b.options = t.builder.options)
    (preparing : ∀ ticket source themeId, ⟨ticket, .preparing source themeId⟩ ∈ b.holders →
      ⟨ticket, .preparing source themeId⟩ ∈ t.builder.holders ∨
        ⟨source, themeId, some ticket⟩ ∈ more)
    (saves : ∀ save ∈ b.saves,
      (∃ old ∈ t.builder.saves, old.ticket = save.ticket ∧ old.job = save.job) ∨
        LetInFor calls save.ticket (t.builder.options.prepare · · = .ok save.job))
    (handed : ∀ ticket job, o = .saveCalled ticket job →
      LetInFor calls ticket (t.builder.options.prepare · · = .ok job))
    (settled : ∀ ticket result, ⟨ticket, .settled result⟩ ∈ b.holders →
      ⟨ticket, .settled result⟩ ∈ t.builder.holders ∨
        LetInFor calls ticket (Yields t.builder.options (t.log ++ [o]) ticket · · result))
    (returned : ∀ ticket result, o = .ended ticket result →
      LetInFor calls ticket (Yields t.builder.options t.log ticket · · result)) :
    Known more ⟨b, t.log ++ [o]⟩ where
  preparing ticket source themeId listed :=
    (preparing ticket source themeId listed).elim
      (fun old => sub _ (known.preparing ticket source themeId old)) id
  saves save listed := by
    rw [options]
    rcases saves save listed with ⟨old, member, ticket, job⟩ | new
    · rw [← ticket, ← job]
      exact (known.saves old member).mono sub fun _ _ => id
    · exact new.mono sub fun _ _ => id
  handed ticket job listed := by
    rw [options]
    rcases List.mem_append.1 listed with old | new
    · exact (known.handed ticket job old).mono sub fun _ _ => id
    · exact (handed ticket job (List.mem_singleton.1 new).symm).mono sub fun _ _ => id
  settled ticket result listed := by
    rw [options]
    rcases settled ticket result listed with old | new
    · exact (known.settled ticket result old).mono sub fun _ _ this => this.append o
    · exact new.mono sub fun _ _ => id
  returned ticket result listed := by
    rw [options]
    rcases List.mem_append.1 listed with old | new
    · exact (known.returned ticket result old).mono sub fun _ _ this => this.append o
    · exact (returned ticket result (List.mem_singleton.1 new).symm).mono sub
        fun _ _ this => this.append o

theorem turnedAway (known : Known calls t) (source themeId : String) :
    Known (calls ++ [⟨source, themeId, none⟩]) ⟨t.builder, t.log ++ [.turnedAway]⟩ :=
  known.carry (fun _ => List.mem_append_left _) rfl (fun _ _ _ => .inl)
    (fun save member => .inl ⟨save, member, rfl, rfl⟩) (by simp) (fun _ _ => .inl) (by simp)

theorem letIn (known : Known calls t) (source themeId : String) :
    Known (calls ++ [⟨source, themeId, some t.builder.admitted⟩])
      ⟨{ t.builder with
        state := .building
        holders := [⟨t.builder.admitted, .preparing source themeId⟩]
        admitted := t.builder.admitted + 1 }, t.log ++ [.letIn t.builder.admitted]⟩ := by
  refine known.carry (fun _ => List.mem_append_left _) rfl ?_
    (fun save member => .inl ⟨save, member, rfl, rfl⟩) (by simp) (by simp) (by simp)
  intro ticket s i listed
  obtain ⟨rfl, rfl, rfl⟩ : ticket = t.builder.admitted ∧ s = source ∧ i = themeId := by
    simpa using listed
  exact .inr (by simp)

/-- A save that is over settles what its document comes to. -/
theorem dropped (known : Known calls t) {ticket : Nat} {job : Job} {running : Bool}
    (member : ⟨ticket, job, running⟩ ∈ t.builder.saves) {result : Except BuildFailure Job}
    (settles : ∀ source themeId, t.builder.options.prepare source themeId = .ok job →
      Yields t.builder.options (t.log ++ [o]) ticket source themeId result)
    (uncalled : ∀ ticket job, o ≠ .saveCalled ticket job)
    (unended : ∀ ticket result, o ≠ .ended ticket result) :
    Known calls
      ⟨(t.builder.dropSave ticket).note ticket (.settled result), t.log ++ [o]⟩ := by
  refine known.carry (fun _ => id) rfl ?_ ?_ (fun _ _ same => absurd same (uncalled _ _)) ?_
    (fun _ _ same => absurd same (unended _ _))
  · intro other source themeId listed
    exact (Builder.eq_or_mem_of_mem_note listed).elim nofun .inl
  · intro save listed
    exact .inl ⟨save, (List.mem_filter.1 listed).1, rfl, rfl⟩
  · intro other result' listed
    rcases Builder.eq_or_mem_of_mem_note listed with noted | old
    · obtain ⟨rfl, rfl⟩ : other = ticket ∧ result' = result := by simpa using noted
      exact .inr ((known.saves _ member).mono (fun _ => id) settles)
    · exact .inl old

/-- A change that answers no call is about documents that are known. -/
theorem changes (known : Known calls t) (change : t.builder.Changes o b) (quiet : o.answer? = none) :
    Known calls ⟨b, t.log ++ [o]⟩ := by
  cases change with
  | turnedAway busy => cases quiet
  | letIn source themeId nobody => cases quiet
  | refused ticket source themeId failure one prepared =>
    refine known.carry (fun _ => id) rfl (by simp)
      (fun save member => .inl ⟨save, member, rfl, rfl⟩) (by simp) (by simp) ?_
    intro other result same
    cases same
    exact ⟨source, themeId, known.preparing ticket source themeId (by simp [one]),
      .unprepared failure prepared⟩
  | handedOff ticket source themeId job one prepared =>
    refine known.carry (fun _ => id) rfl (by simp) ?_ (by simp) (by simp) (by simp)
    intro save member
    rcases List.mem_append.1 member with old | new
    · exact .inl ⟨save, old, rfl, rfl⟩
    · rw [List.mem_singleton.1 new]
      exact .inr ⟨source, themeId, known.preparing ticket source themeId (by simp [one]), prepared⟩
  | saveCalled ticket job queued =>
    refine known.carry (fun _ => id) rfl (fun _ _ _ => .inl) ?_ ?_ (fun _ _ => .inl) (by simp)
    · intro save member
      obtain ⟨old, listed, rfl⟩ := List.mem_map.1 member
      refine .inl ⟨old, listed, ?_⟩
      split <;> exact ⟨rfl, rfl⟩
    · intro other job' same
      cases same
      exact known.saves _ queued
  | saveEnded ticket job outcome running =>
    exact known.dropped running (fun _ _ prepared => .saved job outcome prepared (by simp))
      (by simp) (by simp)
  | saveCancelled ticket job queued =>
    exact known.dropped queued (fun _ _ prepared => .dropped job prepared (by simp))
      (by simp) (by simp)
  | concluded ticket result one =>
    refine known.carry (fun _ => id) rfl (by simp)
      (fun save member => .inl ⟨save, member, rfl, rfl⟩) (by simp) (by simp) ?_
    intro other result' same
    cases same
    exact known.settled ticket result (by simp [one])
  | givenUp ticket progress one suspended =>
    exact known.carry (fun _ => id) rfl (by simp)
      (fun save member => .inl ⟨save, member, rfl, rfl⟩) (by simp) (by simp) (by simp)

end Known

end Trail

namespace Builder

theorem answer?_of_advance {b after : Builder} {m : Move} {o : Occurrence}
    (made : b.advance m = some (after, o)) (other : m.call? = none) : o.answer? = none := by
  cases m with
  | start source themeId => cases other
  | prepare ticket =>
    simp only [advance] at made
    split at made
    next =>
      split at made
      all_goals cases made; rfl
    next => cases made
  | conclude ticket =>
    simp only [advance] at made
    split at made <;> cases made
    rfl
  | _ =>
    simp only [advance] at made
    split at made <;> cases made <;> rfl

/-- A call is answered by the gate; whatever else is done is about documents that are known. -/
theorem known_move {past : List Move} {t : Trail} (acc : t.Accounted)
    (answered : Answered past t.log) (known : t.Known (calls past t.log)) (m : Move) :
    Answered (past ++ [m]) (t.move m).log ∧
      (t.move m).Known (calls (past ++ [m]) (t.move m).log) := by
  by_cases other : m.call? = none
  · obtain ⟨answered, same⟩ := answered.other other
    cases made : t.builder.advance m with
    | none =>
      rw [Trail.move_of_stuck made, same]
      exact ⟨answered, known⟩
    | some next =>
      have silent := answer?_of_advance made other
      obtain ⟨answered, unchanged⟩ := answered.quiet silent
      rw [Trail.move_of_advance made, unchanged, same]
      exact ⟨answered, known.changes (advance_changes acc.gate made) silent⟩
  · cases m with
    | start source themeId =>
      by_cases nobody : t.builder.holders = []
      · rw [start_of_free acc.gate nobody]
        obtain ⟨answered, added⟩ := answered.start source themeId (o := .letIn _) rfl
        exact ⟨answered, added ▸ known.letIn source themeId⟩
      · rw [start_of_held acc.gate nobody]
        obtain ⟨answered, added⟩ := answered.start source themeId (o := .turnedAway) rfl
        exact ⟨answered, added ▸ known.turnedAway source themeId⟩
    | _ => exact absurd rfl other

/-- After every run, each call has its answer, and all that was seen is about the documents that were
let in. -/
theorem known (options : BuildOptions) (moves : List Move) :
    let t := Builder.follow { options } moves
    Answered moves t.log ∧ t.Known (calls moves t.log) := by
  let Holds (past : List Move) (t : Trail) : Prop :=
    t.Accounted ∧ Answered past t.log ∧ t.Known (calls past t.log)
  have keeps : ∀ past t m, Holds past t → Holds (past ++ [m]) (t.move m) :=
    fun past t m ⟨acc, answered, known⟩ => ⟨acc.move m, known_move acc answered known m⟩
  have start : Holds [] ⟨{ options }, []⟩ :=
    ⟨Trail.accounted_start options, rfl, Trail.known_start options⟩
  exact (Trail.follow_keeps_past keeps start moves).2

/-- One call has the ticket of a build. -/
theorem one_call {call : Call} (member : call ∈ calls moves (Builder.follow { options } moves).log)
    (has : call.ticket? = some ticket) :
    (calls moves (Builder.follow { options } moves).log).filter (·.ticket? == some ticket) =
      [call] := by
  refine filter_ticket ?_ member has
  rw [(known options moves).1.tickets, (accounted options moves).admissions]
  exact List.nodup_range

/-- What is known under the ticket of a call is known of the document of the call. -/
theorem document_of_call {call : Call}
    (member : call ∈ calls moves (Builder.follow { options } moves).log)
    (has : call.ticket? = some ticket) {kind : String → String → Prop}
    (h : LetInFor (calls moves (Builder.follow { options } moves).log) ticket kind) :
    kind call.source call.themeId := by
  obtain ⟨source, themeId, asked, this⟩ := h
  obtain rfl : call = ⟨source, themeId, some ticket⟩ := by
    simpa using (one_call member has).symm.trans (one_call asked rfl)
  exact this

/-- What a call that was let in returns is what its document comes to. -/
theorem yields_of_returns {call : Call}
    (member : call ∈ calls moves (Builder.follow { options } moves).log)
    (has : call.ticket? = some ticket) {result : Except BuildFailure Job}
    (returned : call.Returns (Builder.follow { options } moves).log result) :
    Yields options (Builder.follow { options } moves).log ticket call.source call.themeId result := by
  simp only [Call.Returns, has] at returned
  have yields := document_of_call member has ((known options moves).2.returned ticket _ returned)
  rwa [options_of_run] at yields

/-- The bundle that a call returns with was made from its document, and its archive was stored. -/
theorem prepared_of_ok {call : Call}
    (member : call ∈ calls moves (Builder.follow { options } moves).log)
    (returned : call.Returns (Builder.follow { options } moves).log (.ok job)) :
    ∃ ticket, call.ticket? = some ticket ∧
      options.prepare call.source call.themeId = .ok job ∧
      .saveEnded ticket job .stored ∈ (Builder.follow { options } moves).log := by
  cases has : call.ticket? with
  | none => simp [Call.Returns, has] at returned
  | some ticket => exact ⟨ticket, rfl, (yields_of_returns member has returned).of_ok⟩

end Builder

end PagePress
