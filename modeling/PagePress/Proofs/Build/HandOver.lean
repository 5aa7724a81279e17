import PagePress.Proofs.Build.Calls

/-!
# What comes to the save target

An archive comes to the save target when its save calls it. `Trail.Delivered` says at every moment
what has come there under a ticket: nothing before the hand-off, nothing from a save that waits in
its queue, and the archive of its job, once, from a save that has called. With what `Trail.Known`
tells of the document behind a ticket, a call has either handed over the whole archive of its site or
nothing.
-/
namespace PagePress

namespace Occurrence

/-- The job whose archive comes to the save target under a ticket. -/
def handedOver? (ticket : Nat) : Occurrence → Option Job
  | .saveCalled other job => if other = ticket then some job else none
  | _ => none

theorem handedOver?_of_uncalled {o : Occurrence} (uncalled : ∀ ticket job, o ≠ .saveCalled ticket job)
    (ticket : Nat) : o.handedOver? ticket = none := by
  cases o with
  | saveCalled other job => exact absurd rfl (uncalled other job)
  | _ => rfl

end Occurrence

/-- The jobs whose archives have come to the save target under a ticket. -/
def handedOver (log : List Occurrence) (ticket : Nat) : List Job :=
  log.filterMap (Occurrence.handedOver? ticket)

/-- The jobs whose archives a call has handed over: none, if it was turned away. -/
def Call.handedOver (log : List Occurrence) (call : Call) : List Job :=
  match call.ticket? with
  | none => []
  | some ticket => PagePress.handedOver log ticket

/-- The archive of a job has all files of its bundle, in order, with their bytes. -/
def Job.Complete (job : Job) : Prop :=
  job.archive.entries = job.bundle.files.map fun (name, file) => ⟨name, file.bytes⟩

theorem BuildOptions.complete_of_prepared {options : BuildOptions} {source themeId : String}
    {job : Job} (prepared : options.prepare source themeId = .ok job) : job.Complete := by
  obtain ⟨html, -, rfl⟩ := (options.prepare_eq_ok_iff source themeId job).1 prepared
  rfl

theorem mem_handedOver_iff {log : List Occurrence} {ticket : Nat} {job : Job} :
    job ∈ handedOver log ticket ↔ .saveCalled ticket job ∈ log := by
  constructor
  · intro member
    obtain ⟨o, listed, handed⟩ := List.mem_filterMap.1 member
    cases o with
    | saveCalled other job' =>
      simp only [Occurrence.handedOver?] at handed
      split at handed
      next same => cases handed; exact same ▸ listed
      next => cases handed
    | _ => cases handed
  · intro listed
    exact List.mem_filterMap.2 ⟨_, listed, by simp [Occurrence.handedOver?]⟩

theorem handedOver_append (log : List Occurrence) (o : Occurrence) (ticket : Nat) :
    handedOver (log ++ [o]) ticket = handedOver log ticket ++ (o.handedOver? ticket).toList := by
  cases handed : o.handedOver? ticket <;> simp [handedOver, handed]

theorem handedOver_uncalled (log : List Occurrence) {o : Occurrence}
    (uncalled : ∀ ticket job, o ≠ .saveCalled ticket job) (ticket : Nat) :
    handedOver (log ++ [o]) ticket = handedOver log ticket := by
  simp [handedOver_append, Occurrence.handedOver?_of_uncalled uncalled]

namespace Trail

/-- What has come to the save target under each ticket. -/
structure Delivered (t : Trail) : Prop where
  /-- A save has handed over its archive if it runs, and nothing if it does not. -/
  saves : ∀ save ∈ t.builder.saves,
    handedOver t.log save.ticket = if save.running then [save.job] else []
  /-- Nothing is handed over under a ticket that is still to be given out. -/
  unused : ∀ ticket, t.builder.admitted ≤ ticket → handedOver t.log ticket = []
  /-- Nothing is handed over before the hand-off. -/
  preparing : ∀ ticket source themeId, ⟨ticket, .preparing source themeId⟩ ∈ t.builder.holders →
    handedOver t.log ticket = []
  once : ∀ ticket, (handedOver t.log ticket).length ≤ 1
  ended : ∀ ticket job outcome, .saveEnded ticket job outcome ∈ t.log →
    handedOver t.log ticket = [job]

theorem delivered_start (options : BuildOptions) : Delivered ⟨{ options }, []⟩ := by
  constructor <;> simp [handedOver]

namespace Delivered

variable {t : Trail} {b : Builder} {o : Occurrence}

/-- Only a call of the save target hands anything over. -/
theorem uncalled (delivered : Delivered t) (none : ∀ ticket job, o ≠ .saveCalled ticket job)
    (admitted : t.builder.admitted ≤ b.admitted)
    (saves : ∀ save ∈ b.saves, save ∈ t.builder.saves ∨
      save.running = false ∧ handedOver t.log save.ticket = [])
    (preparing : ∀ ticket source themeId, ⟨ticket, .preparing source themeId⟩ ∈ b.holders →
      ⟨ticket, .preparing source themeId⟩ ∈ t.builder.holders ∨ t.builder.admitted ≤ ticket)
    (ended : ∀ ticket job outcome, o = .saveEnded ticket job outcome →
      handedOver t.log ticket = [job]) : Delivered ⟨b, t.log ++ [o]⟩ := by
  have same := handedOver_uncalled t.log none
  constructor
  · intro save member
    rw [same]
    rcases saves save member with old | ⟨queued, nothing⟩
    · exact delivered.saves save old
    · rw [nothing, queued]
      rfl
  · intro ticket later
    rw [same]
    exact delivered.unused ticket (Nat.le_trans admitted later)
  · intro ticket source themeId listed
    rw [same]
    rcases preparing ticket source themeId listed with old | later
    · exact delivered.preparing ticket source themeId old
    · exact delivered.unused ticket later
  · intro ticket
    rw [same]
    exact delivered.once ticket
  · intro ticket job outcome listed
    rw [same]
    rcases List.mem_append.1 listed with old | new
    · exact delivered.ended ticket job outcome old
    · exact ended ticket job outcome (List.mem_singleton.1 new).symm

/-- A save that calls the save target has not done so before. -/
theorem saveCalled (acc : Accounted t) (att : Attended t) (delivered : Delivered t) {ticket : Nat}
    {job : Job} (queued : ⟨ticket, job, false⟩ ∈ t.builder.saves) :
    Delivered ⟨t.builder.runSave ticket, t.log ++ [.saveCalled ticket job]⟩ := by
  have before : handedOver t.log ticket = [] := delivered.saves _ queued
  have own : handedOver (t.log ++ [.saveCalled ticket job]) ticket = [job] := by
    simp [handedOver_append, before, Occurrence.handedOver?]
  have others : ∀ other, other ≠ ticket →
      handedOver (t.log ++ [.saveCalled ticket job]) other = handedOver t.log other := by
    intro other different
    simp [handedOver_append, Occurrence.handedOver?, different.symm]
  have alone : ∀ save ∈ t.builder.saves, save.ticket = ticket → save = ⟨ticket, job, false⟩ := by
    intro save member same
    have found := Builder.save?_of_mem att.sorted member
    rw [same, Builder.save?_of_mem att.sorted queued] at found
    exact (Option.some.inj found).symm
  constructor
  · intro save member
    obtain ⟨old, listed, rfl⟩ := List.mem_map.1 member
    by_cases same : old.ticket = ticket
    · rw [if_pos same, alone old listed same]
      exact own
    · rw [if_neg same, others _ same]
      exact delivered.saves old listed
  · intro later unused
    have known := att.bound _ queued
    rw [others later (Nat.ne_of_gt (Nat.lt_of_lt_of_le known unused))]
    exact delivered.unused later unused
  · intro other source themeId listed
    by_cases same : other = ticket
    · exact absurd (same ▸ listed) (att.not_preparing acc queued source themeId)
    · rw [others other same]
      exact delivered.preparing other source themeId listed
  · intro other
    by_cases same : other = ticket
    · simp [same, own]
    · rw [others other same]
      exact delivered.once other
  · intro other job' outcome listed
    replace listed : .saveEnded other job' outcome ∈ t.log := by simpa using listed
    have handed := delivered.ended other job' outcome listed
    have different : other ≠ ticket := by
      rintro rfl
      rw [before] at handed
      cases handed
    rw [others other different, handed]

open Occurrence in
theorem changes (acc : Accounted t) (att : Attended t) (delivered : Delivered t)
    (change : t.builder.Changes o b) : Delivered ⟨b, t.log ++ [o]⟩ := by
  cases change with
  | turnedAway busy =>
    exact delivered.uncalled (by simp) (Nat.le_refl _) (fun _ => .inl) (fun _ _ _ => .inl) (by simp)
  | letIn source themeId nobody =>
    refine delivered.uncalled (by simp) (Nat.le_succ _) (fun _ => .inl) ?_ (by simp)
    intro ticket s i listed
    have new : ticket = t.builder.admitted ∧ s = source ∧ i = themeId := by simpa using listed
    exact .inr (Nat.le_of_eq new.1.symm)
  | refused ticket source themeId failure one prepared =>
    exact delivered.uncalled (by simp) (Nat.le_refl _) (fun _ => .inl) (by simp) (by simp)
  | handedOff ticket source themeId job one prepared =>
    refine delivered.uncalled (by simp) (Nat.le_refl _) ?_ (by simp) (by simp)
    intro save member
    rcases List.mem_append.1 member with old | new
    · exact .inl old
    · rw [List.mem_singleton.1 new]
      exact .inr ⟨rfl, delivered.preparing ticket source themeId (by simp [one])⟩
  | saveCalled ticket job queued => exact delivered.saveCalled acc att queued
  | saveEnded ticket job outcome running =>
    refine delivered.uncalled (by simp) (Nat.le_refl _) ?_ ?_ ?_
    · exact fun save member => .inl (List.mem_filter.1 member).1
    · exact fun _ _ _ listed => (Builder.eq_or_mem_of_mem_note listed).elim nofun .inl
    · intro other job' outcome' same
      cases same
      exact delivered.saves _ running
  | saveCancelled ticket job queued =>
    refine delivered.uncalled (by simp) (Nat.le_refl _) ?_ ?_ (by simp)
    · exact fun save member => .inl (List.mem_filter.1 member).1
    · exact fun _ _ _ listed => (Builder.eq_or_mem_of_mem_note listed).elim nofun .inl
  | concluded ticket result one =>
    exact delivered.uncalled (by simp) (Nat.le_refl _) (fun _ => .inl) (by simp) (by simp)
  | givenUp ticket progress one suspended =>
    exact delivered.uncalled (by simp) (Nat.le_refl _) (fun _ => .inl) (by simp) (by simp)

end Delivered

end Trail

namespace Builder

theorem delivered (options : BuildOptions) (moves : List Move) :
    (Builder.follow { options } moves).Delivered := by
  let Holds (t : Trail) : Prop := t.Attended ∧ t.Delivered
  have keeps : ∀ {t : Trail}, t.Accounted → Holds t → ∀ o b, t.builder.Changes o b →
      Holds ⟨b, t.log ++ [o]⟩ :=
    fun acc ⟨att, delivered⟩ _ _ change =>
      ⟨att.changes acc change, delivered.changes acc att change⟩
  have start : Holds ⟨{ options }, []⟩ :=
    ⟨Trail.attended_start options, Trail.delivered_start options⟩
  exact ((Trail.accounted_start options).keeps keeps start moves).2

theorem handedOver_length_le (options : BuildOptions) (moves : List Move) (call : Call) :
    (call.handedOver (Builder.follow { options } moves).log).length ≤ 1 := by
  cases has : call.ticket? with
  | none => simp [Call.handedOver, has]
  | some ticket =>
    simpa only [Call.handedOver, has] using (delivered options moves).once ticket

variable {options : BuildOptions} {moves : List Move} {call : Call} {job : Job}
  {failure : BuildFailure}

/-- What has come to the save target under a ticket is the archive of the site of the one document
that was let in with it. -/
theorem handedOver_site {ticket : Nat}
    (handed : .saveCalled ticket job ∈ (Builder.follow { options } moves).log) :
    ∃ call html,
      (calls moves (Builder.follow { options } moves).log).filter (·.ticket? == some ticket) =
        [call] ∧
      options.pipeline.tryRender call.source = .ok html ∧
      job.bundle =
        options.site (options.registry.resolveOrFallback call.themeId) call.source html ∧
      job.Complete := by
  obtain ⟨source, themeId, member, prepared⟩ := (known options moves).2.handed ticket job handed
  rw [options_of_run] at prepared
  obtain ⟨html, rendered, rfl⟩ := (options.prepare_eq_ok_iff source themeId job).1 prepared
  exact ⟨_, html, one_call member rfl, rendered, rfl, rfl⟩

/-- A call that returns with a bundle has handed over the archive that goes with it. -/
theorem handedOver_of_ok (member : call ∈ calls moves (Builder.follow { options } moves).log)
    (returned : call.Returns (Builder.follow { options } moves).log (.ok job)) :
    call.handedOver (Builder.follow { options } moves).log = [job] := by
  obtain ⟨ticket, has, -, stored⟩ := prepared_of_ok member returned
  simpa only [Call.handedOver, has] using (delivered options moves).ended ticket job .stored stored

/-- A call whose document cannot be prepared hands nothing over. -/
theorem handedOver_of_unprepared
    (member : call ∈ calls moves (Builder.follow { options } moves).log)
    (unprepared : options.prepare call.source call.themeId = .error failure) :
    call.handedOver (Builder.follow { options } moves).log = [] := by
  cases has : call.ticket? with
  | none => simp only [Call.handedOver, has]
  | some ticket =>
    simp only [Call.handedOver, has]
    refine List.eq_nil_iff_forall_not_mem.2 fun job listed => ?_
    have prepared := document_of_call member has
      ((known options moves).2.handed ticket job (mem_handedOver_iff.1 listed))
    rw [options_of_run, unprepared] at prepared
    cases prepared

/-- A call whose document is refused, or on which the program stops, hands nothing over. -/
theorem handedOver_of_failure (member : call ∈ calls moves (Builder.follow { options } moves).log)
    (returned : call.Returns (Builder.follow { options } moves).log (.error failure))
    (early : failure = .crashed ∨ ∃ refusal, failure = .refused refusal) :
    call.handedOver (Builder.follow { options } moves).log = [] := by
  cases has : call.ticket? with
  | none => simp only [Call.handedOver, has]
  | some ticket =>
    have yields := yields_of_returns member has returned
    exact handedOver_of_unprepared member (yields.of_unprepared early)

/-- A call that is told that the builder is busy hands nothing over. -/
theorem handedOver_of_busy
    (busy : call.Returns (Builder.follow { options } moves).log (.error .busy)) :
    call.handedOver (Builder.follow { options } moves).log = [] := by
  cases has : call.ticket? with
  | none => simp only [Call.handedOver, has]
  | some ticket =>
    simp only [Call.Returns, has] at busy
    exact absurd busy ((candid options moves).told ticket)

/-- What is handed over does not depend on calls that were turned away. -/
theorem handedOver_of_held {t : Trail} (gate : t.builder.Gate) (held : t.builder.holders ≠ [])
    (source themeId : String) (later : List Move) (ticket : Nat) :
    handedOver ((t.move (.start source themeId)).follow later).log ticket =
      handedOver (t.follow later).log ticket := by
  have quiet := handedOver_uncalled t.log (o := .turnedAway) (by simp) ticket
  rw [start_of_held gate held, Trail.follow_eq, Trail.follow_eq t later]
  simp only [handedOver, List.filterMap_append] at quiet ⊢
  rw [quiet]

/-- A save that stored its archive had handed it over before. -/
theorem handedOver_of_stored (stored : job ∈ (Builder.follow { options } moves).stored) :
    ∃ ticket, handedOver (Builder.follow { options } moves).log ticket = [job] := by
  obtain ⟨o, listed, shape⟩ := List.mem_filterMap.1 stored
  split at shape
  next ticket job' =>
    cases shape
    exact ⟨ticket, (delivered options moves).ended ticket job .stored listed⟩
  next => cases shape

end Builder

/-- The store of a session holds what was stored, under the names of the bundles. -/
theorem Session.saved_after (s : Session) (t : Trail) :
    (s.after t).store.saved =
      s.store.saved ++ t.stored.map fun job => (job.bundle.archiveName, job.archive) := by
  have kept : ∀ (jobs : List Job) (store : MemoryStore Archive),
      (jobs.foldl (fun store job => store.save job.bundle.archiveName job.archive) store).saved =
        store.saved ++ jobs.map fun job => (job.bundle.archiveName, job.archive) := by
    intro jobs
    induction jobs with
    | nil => simp
    | cons job rest ih =>
      intro store
      rw [List.foldl_cons, ih]
      simp [MemoryStore.save]
  exact kept t.stored s.store

namespace Builder

/-- In every run, calls have their answers in order, and what comes to the save target under a ticket
is the whole archive of the site of the one call with this ticket, whose source was rendered. Each
call hands over at most one archive: exactly one, that of its bundle, if it returns with a bundle;
none, at any later moment, if it returns because the builder is busy or because its source is refused,
or if it crashes while rendering. Calls that are turned away make no difference to what is handed
over. All sessions are runs, and their stores hold what was handed over and stored. -/
theorem archives_all_or_nothing (options : BuildOptions) (moves : List Move) :
    let t := Builder.follow { options } moves
    let calls := calls moves t.log
    (calls.map (fun call => (call.source, call.themeId)) = moves.filterMap Move.call? ∧
      calls.map Call.ticket? = t.log.filterMap Occurrence.answer?) ∧
    (∀ ticket job, .saveCalled ticket job ∈ t.log → ∃ call html,
      calls.filter (·.ticket? == some ticket) = [call] ∧
      options.pipeline.tryRender call.source = .ok html ∧
      job.bundle =
        options.site (options.registry.resolveOrFallback call.themeId) call.source html ∧
      job.Complete) ∧
    (∀ call ∈ calls,
      (call.handedOver t.log).length ≤ 1 ∧
      (∀ job, call.Returns t.log (.ok job) → call.handedOver t.log = [job] ∧
        job.Complete ∧ job.bundle.archiveName = options.archiveName) ∧
      (call.Returns t.log (.error .busy) → call.handedOver t.log = []) ∧
      (∀ refusal, call.Returns t.log (.error (.refused refusal)) → call.handedOver t.log = []) ∧
      (call.Returns t.log (.error .crashed) → call.handedOver t.log = [])) ∧
    (∀ source themeId later ticket, t.builder.state = .building →
      handedOver ((t.move (.start source themeId)).follow later).log ticket =
        handedOver (t.follow later).log ticket) ∧
    (∀ requests, ∃ moves, (Session.mk { options } {}).through requests =
      (Session.mk { options } {}).after (Builder.follow { options } moves)) ∧
    ((Session.mk { options } {}).after t).store.saved =
      t.stored.map (fun job => (job.bundle.archiveName, job.archive)) ∧
    ∀ job ∈ t.stored, ∃ ticket, handedOver t.log ticket = [job] := by
  intro t calls
  have acc : t.Accounted := accounted options moves
  obtain ⟨answered, -⟩ := known options moves
  refine ⟨⟨answered.documents, answered.answers⟩, fun ticket job => handedOver_site,
    fun call member => ⟨handedOver_length_le options moves call, fun job returned => ?_,
      handedOver_of_busy,
      fun refusal returned => handedOver_of_failure member returned (.inr ⟨refusal, rfl⟩),
      fun returned => handedOver_of_failure member returned (.inl rfl)⟩,
    fun source themeId later ticket building =>
      handedOver_of_held acc.gate (acc.gate.building_iff.1 building) source themeId later ticket,
    fun requests => Session.through_moves _ requests, by simp [Session.saved_after],
    fun job => handedOver_of_stored⟩
  obtain ⟨-, -, prepared, -⟩ := prepared_of_ok member returned
  exact ⟨handedOver_of_ok member returned, BuildOptions.complete_of_prepared prepared,
    BuildOptions.prepare_archiveName prepared⟩

end Builder

end PagePress
