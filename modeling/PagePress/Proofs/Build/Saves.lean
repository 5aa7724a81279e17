import PagePress.Proofs.Build.Gate
import PagePress.Proofs.Build.Prepare

/-!
# Saves under way

A save outlives its build when the build is given up, so the gate of the builder does not keep saves
apart by itself. `Trail.Attended` says what does hold: every save but that of the holder belongs to a
build that was given up before its save was over, and only the saves of such builds end out of
order. Giving up a build inside its save is also enough to break both (`Builder.overlap_of_giveUp`).
-/
namespace PagePress

namespace Occurrence

/-- The ticket of a save that has left the save target. -/
def saved? : Occurrence → Option Nat
  | .saveEnded ticket _ _ => some ticket
  | _ => none

/-- The ticket of a save that is over, whether or not it came to the save target. -/
def over? : Occurrence → Option Nat
  | .saveEnded ticket _ _ | .saveCancelled ticket => some ticket
  | _ => none

theorem over?_of_saved? {o : Occurrence} {ticket : Nat} (h : o.saved? = some ticket) :
    o.over? = some ticket := by
  cases o <;> simp_all [saved?, over?]

end Occurrence

/-- The tickets of the saves that have left the save target, in order. -/
def savedTickets (log : List Occurrence) : List Nat := log.filterMap Occurrence.saved?

/-- A build was given up before its save was over. -/
def GivenUpInSave (log : List Occurrence) (ticket : Nat) : Prop :=
  ∃ before after, log = before ++ .givenUp ticket :: after ∧ ∀ o ∈ before, o.over? ≠ some ticket

/-- A save is in order if its build was let in after those of all earlier saves. -/
def SavedInOrder (log : List Occurrence) : Prop :=
  (savedTickets log).Pairwise fun earlier later => earlier < later ∨ GivenUpInSave log later

theorem GivenUpInSave.append {log : List Occurrence} {ticket : Nat} (h : GivenUpInSave log ticket)
    (o : Occurrence) : GivenUpInSave (log ++ [o]) ticket := by
  obtain ⟨before, after, rfl, earlier⟩ := h
  exact ⟨before, after ++ [o], by simp, earlier⟩

theorem GivenUpInSave.mem {log : List Occurrence} {ticket : Nat} (h : GivenUpInSave log ticket) :
    .givenUp ticket ∈ log := by
  obtain ⟨before, after, rfl, -⟩ := h
  simp

theorem savedTickets_append (log : List Occurrence) (o : Occurrence) :
    savedTickets (log ++ [o]) = savedTickets log ++ o.saved?.toList := by
  cases h : o.saved? <;> simp [savedTickets, h]

theorem over_of_saved {log : List Occurrence} {ticket : Nat} (h : ticket ∈ savedTickets log) :
    ticket ∈ log.filterMap Occurrence.over? := by
  obtain ⟨o, member, saved⟩ := List.mem_filterMap.1 h
  exact List.mem_filterMap.2 ⟨o, member, Occurrence.over?_of_saved? saved⟩

theorem SavedInOrder.append {log : List Occurrence} (h : SavedInOrder log) {o : Occurrence}
    (none : o.saved? = none) : SavedInOrder (log ++ [o]) := by
  unfold SavedInOrder
  rw [savedTickets_append, none, Option.toList_none, List.append_nil]
  exact h.imp fun order => order.imp_right fun given => given.append o

namespace Trail

/-- Where the saves of a builder belong. -/
structure Attended (t : Trail) : Prop where
  sorted : t.builder.saves.Pairwise fun older newer => older.ticket < newer.ticket
  bound : ∀ save ∈ t.builder.saves, save.ticket < t.builder.admitted
  owned : ∀ save ∈ t.builder.saves,
    GivenUpInSave t.log save.ticket ∨ ⟨save.ticket, .waiting⟩ ∈ t.builder.holders
  prepared : ∀ save ∈ t.builder.saves,
    ∃ source themeId, t.builder.options.prepare source themeId = .ok save.job
  /-- A save that is over has been handed off, and is over for good. -/
  past : ∀ ticket ∈ t.log.filterMap Occurrence.over?, ticket < t.builder.admitted ∧
    (∀ save ∈ t.builder.saves, save.ticket ≠ ticket) ∧
    ∀ source themeId, ⟨ticket, .preparing source themeId⟩ ∉ t.builder.holders
  order : SavedInOrder t.log

theorem attended_start (options : BuildOptions) : Attended ⟨{ options }, []⟩ := by
  constructor <;> simp [savedTickets, SavedInOrder]

/-- A build that was given up does not hold the builder. -/
theorem Accounted.givenUp_ne {t : Trail} (acc : Accounted t) {ticket other : Nat} {p : Progress}
    (one : t.builder.holders = [⟨ticket, p⟩]) (gone : .givenUp other ∈ t.log) : other ≠ ticket := by
  rintro rfl
  exact acc.not_departed one (List.mem_filterMap.2 ⟨_, gone, rfl⟩)

namespace Attended

variable {t : Trail} {b : Builder} {o : Occurrence}

/-- A move that touches no save keeps the saves in order, if each waiting build goes on waiting or is
given up by it. -/
theorem untouched (att : Attended t) (saves : b.saves = t.builder.saves)
    (options : b.options = t.builder.options) (admitted : t.builder.admitted ≤ b.admitted)
    (none : o.over? = none)
    (waiting : ∀ ticket, ⟨ticket, .waiting⟩ ∈ t.builder.holders →
      o = .givenUp ticket ∨ ⟨ticket, .waiting⟩ ∈ b.holders)
    (fresh : ∀ ticket source themeId, ⟨ticket, .preparing source themeId⟩ ∈ b.holders →
      ⟨ticket, .preparing source themeId⟩ ∈ t.builder.holders ∨ t.builder.admitted ≤ ticket) :
    Attended ⟨b, t.log ++ [o]⟩ where
  sorted := by simpa only [saves] using att.sorted
  bound save member := Nat.lt_of_lt_of_le (att.bound save (saves ▸ member)) admitted
  owned save member := by
    rcases att.owned save (saves ▸ member) with gone | held
    · exact .inl (gone.append o)
    · rcases waiting save.ticket held with rfl | still
      · refine .inl ⟨t.log, [], rfl, fun o listed ended => ?_⟩
        obtain ⟨-, unsaved, -⟩ := att.past save.ticket (List.mem_filterMap.2 ⟨o, listed, ended⟩)
        exact unsaved save (saves ▸ member) rfl
      · exact .inr still
  prepared := by simpa only [saves, options] using att.prepared
  past ticket member := by
    rw [List.filterMap_append, List.mem_append] at member
    replace member := member.resolve_right (by simp [none])
    obtain ⟨known, ended, handedOff⟩ := att.past ticket member
    refine ⟨Nat.lt_of_lt_of_le known admitted, by simpa only [saves] using ended, ?_⟩
    intro source themeId preparing
    rcases fresh ticket source themeId preparing with old | later
    · exact handedOff source themeId old
    · omega
  order := by
    refine att.order.append ?_
    cases saved : o.saved? with
    | none => rfl
    | some ticket => rw [Occurrence.over?_of_saved? saved] at none; cases none

/-- A new save is that of the holder, who was let in after all that have one. -/
theorem handedOff (acc : Accounted t) (att : Attended t) {ticket : Nat} {source themeId : String}
    {job : Job} (one : t.builder.holders = [⟨ticket, .preparing source themeId⟩])
    (done : t.builder.options.prepare source themeId = .ok job) :
    Attended ⟨{ t.builder with
      holders := [⟨ticket, .waiting⟩]
      saves := t.builder.saves ++ [{ ticket, job }] }, t.log ++ [.handedOff ticket]⟩ := by
  have newest := acc.gate.admitted_eq one
  have given : ∀ save ∈ t.builder.saves, GivenUpInSave t.log save.ticket := by
    intro save member
    rcases att.owned save member with gone | held
    · exact gone
    · simp [one] at held
  have older : ∀ save ∈ t.builder.saves, save.ticket < ticket := by
    intro save member
    have other := acc.givenUp_ne one (given save member).mem
    have known := att.bound save member
    omega
  constructor
  · simpa [List.pairwise_append] using ⟨att.sorted, older⟩
  · intro save member
    rcases List.mem_append.1 member with old | new
    · exact att.bound save old
    · rw [List.mem_singleton.1 new]
      exact newest ▸ Nat.lt_succ_self ticket
  · intro save member
    rcases List.mem_append.1 member with old | new
    · exact .inl ((given save old).append _)
    · rw [List.mem_singleton.1 new]
      exact .inr (by simp)
  · intro save member
    rcases List.mem_append.1 member with old | new
    · exact att.prepared save old
    · rw [List.mem_singleton.1 new]
      exact ⟨source, themeId, done⟩
  · intro saved member
    obtain ⟨known, ended, handedOff⟩ := att.past saved (by simpa [Occurrence.over?] using member)
    refine ⟨known, ?_, by simp⟩
    intro save listed
    rcases List.mem_append.1 listed with old | new
    · exact ended save old
    · rw [List.mem_singleton.1 new]
      rintro rfl
      exact handedOff source themeId (by simp [one])
  · exact att.order.append rfl

theorem saveCalled (att : Attended t) (ticket : Nat) (job : Job) :
    Attended ⟨t.builder.runSave ticket, t.log ++ [.saveCalled ticket job]⟩ := by
  have same : ∀ save : Save,
      (if save.ticket = ticket then { save with running := true } else save).ticket = save.ticket ∧
      (if save.ticket = ticket then { save with running := true } else save).job = save.job := by
    intro save
    split <;> exact ⟨rfl, rfl⟩
  constructor
  · simp only [Builder.runSave, List.pairwise_map, same]
    exact att.sorted
  · simp only [Builder.runSave, List.forall_mem_map, same]
    exact att.bound
  · simp only [Builder.runSave, List.forall_mem_map, same]
    exact fun save member => (att.owned save member).imp_left fun given => given.append _
  · simp only [Builder.runSave, List.forall_mem_map, same]
    exact att.prepared
  · simp only [Builder.runSave, List.forall_mem_map, same]
    simpa [Occurrence.over?] using att.past
  · exact att.order.append rfl

/-- The build of a save is not before its hand-off. -/
theorem not_preparing (acc : Accounted t) (att : Attended t) {save : Save}
    (member : save ∈ t.builder.saves) (source themeId : String) :
    ⟨save.ticket, .preparing source themeId⟩ ∉ t.builder.holders := by
  intro preparing
  have one := acc.gate.eq_of_mem preparing
  rcases att.owned save member with gone | held
  · exact acc.givenUp_ne one gone.mem rfl
  · simp [one] at held

/-- A save that is over was that of the holder, or of a build that was given up. -/
theorem dropped (acc : Accounted t) (att : Attended t) {ticket : Nat} {job : Job} {running : Bool}
    (member : ⟨ticket, job, running⟩ ∈ t.builder.saves) {p : Progress}
    (settled : ∀ source themeId, p ≠ .preparing source themeId)
    (ends : ∀ other ∈ o.over?, other = ticket) :
    Attended ⟨(t.builder.dropSave ticket).note ticket p, t.log ++ [o]⟩ := by
  have kept : ∀ save ∈ t.builder.saves.filter (·.ticket != ticket),
      save ∈ t.builder.saves ∧ save.ticket ≠ ticket := by
    intro save listed
    simpa using List.mem_filter.1 listed
  have preparing : ∀ other source themeId,
      ⟨other, .preparing source themeId⟩ ∈
        ((t.builder.dropSave ticket).note ticket p).holders →
      ⟨other, .preparing source themeId⟩ ∈ t.builder.holders := by
    intro other source themeId listed
    rcases Builder.mem_note listed with noted | old
    · exact absurd noted.symm (settled source themeId)
    · exact old
  constructor
  · exact att.sorted.filter _
  · exact fun save listed => att.bound save (kept save listed).1
  · intro save listed
    refine (att.owned save (kept save listed).1).imp (fun given => given.append _) fun held => ?_
    exact List.mem_map.2 ⟨_, held, if_neg (kept save listed).2⟩
  · exact fun save listed => att.prepared save (kept save listed).1
  · intro other listed
    rw [List.filterMap_append] at listed
    rcases List.mem_append.1 listed with old | new
    · obtain ⟨known, past, handedOff⟩ := att.past other old
      exact ⟨known, fun save listed => past save (kept save listed).1,
        fun source themeId listed => handedOff source themeId (preparing _ _ _ listed)⟩
    · obtain rfl := ends other (by simpa using new)
      exact ⟨att.bound _ member, fun save listed => (kept save listed).2,
        fun source themeId listed =>
          att.not_preparing acc member source themeId (preparing _ _ _ listed)⟩
  · unfold SavedInOrder
    rw [savedTickets_append, List.pairwise_append]
    refine ⟨att.order.imp fun order => order.imp_right fun given => given.append o, ?_, ?_⟩
    · cases o.saved? <;> simp
    · intro earlier old later new
      obtain rfl := ends later (Occurrence.over?_of_saved? (by simpa using new))
      obtain ⟨known, past, -⟩ := att.past earlier (over_of_saved old)
      rcases att.owned _ member with gone | held
      · exact .inr (gone.append o)
      · -- The holder has the newest ticket, and its own archive is not saved yet.
        have newest := acc.gate.admitted_eq_of_mem held
        have other := past _ member
        simp only at newest other
        exact .inl (by omega)

/-- The next ticket is not that of a save. -/
theorem fresh (att : Attended t) : ∀ save ∈ t.builder.saves, save.ticket ≠ t.builder.admitted :=
  fun save known => Nat.ne_of_lt (att.bound save known)

end Attended

open Occurrence in
theorem Attended.changes {t : Trail} (acc : Accounted t) (att : Attended t) {o : Occurrence}
    {b : Builder} (change : t.builder.Changes o b) : Attended ⟨b, t.log ++ [o]⟩ := by
  cases change with
  | turnedAway busy =>
    exact att.untouched rfl rfl (Nat.le_refl _) rfl (fun _ held => .inr held)
      (fun _ _ _ held => .inl held)
  | letIn source themeId nobody =>
    refine att.untouched rfl rfl (Nat.le_succ _) rfl (by simp [nobody]) ?_
    intro ticket s i listed
    have new : ticket = t.builder.admitted ∧ s = source ∧ i = themeId := by simpa using listed
    exact .inr (Nat.le_of_eq new.1.symm)
  | refused ticket source themeId failure one prepared =>
    exact att.untouched rfl rfl (Nat.le_refl _) rfl (by simp [one]) (by simp)
  | handedOff ticket source themeId job one prepared => exact att.handedOff acc one prepared
  | saveCalled ticket job queued => exact att.saveCalled ticket job
  | saveEnded ticket job outcome running => exact att.dropped acc running (by simp) (by simp [over?])
  | saveCancelled ticket job queued => exact att.dropped acc queued (by simp) (by simp [over?])
  | concluded ticket result one =>
    exact att.untouched rfl rfl (Nat.le_refl _) rfl (by simp [one]) (by simp)
  | givenUp ticket progress one suspended =>
    refine att.untouched rfl rfl (Nat.le_refl _) rfl ?_ (by simp)
    intro other held
    have same : other = ticket ∧ .waiting = progress := by simpa [one] using held
    exact .inl (same.1 ▸ rfl)

theorem Attended.follow {t : Trail} (acc : Accounted t) (att : Attended t) (moves : List Move) :
    Attended (t.follow moves) :=
  acc.keeps (fun acc att _ _ change => att.changes acc change) att moves

end Trail

namespace Builder

theorem save?_of_mem {b : Builder}
    (sorted : b.saves.Pairwise fun older newer => older.ticket < newer.ticket) {save : Save}
    (member : save ∈ b.saves) : b.save? save.ticket = some save := by
  unfold save?
  generalize b.saves = saves at sorted member
  induction saves with
  | nil => cases member
  | cons first rest ih =>
    obtain ⟨before, sorted⟩ := List.pairwise_cons.1 sorted
    rcases List.mem_cons.1 member with rfl | later
    · simp
    · have other := before save later
      rw [List.find?_cons_of_neg (by simp only [beq_iff_eq]; omega)]
      exact ih sorted later

/-- A free builder takes a document that can be prepared all the way into its save. -/
theorem towardsSave_of_prepared {b : Builder} (nobody : b.holders = []) (state : b.state ≠ .building)
    (fresh : ∀ save ∈ b.saves, save.ticket ≠ b.admitted) {source themeId : String} {job : Job}
    (prepared : b.options.prepare source themeId = .ok job) :
    b.follow (towardsSave b.admitted source themeId) =
      ⟨{ b with
        state := .building
        holders := [⟨b.admitted, .waiting⟩]
        saves := b.saves ++ [⟨b.admitted, job, true⟩]
        admitted := b.admitted + 1 },
      [.letIn b.admitted, .handedOff b.admitted, .saveCalled b.admitted job]⟩ := by
  have none : b.saves.find? (·.ticket == b.admitted) = none := by simpa using fresh
  have others : b.saves.map (fun save =>
      if save.ticket = b.admitted then { save with running := true } else save) = b.saves :=
    (List.map_congr_left fun save member => if_neg (fresh save member)).trans (List.map_id _)
  simp only [towardsSave, follow, Trail.follow_cons, Trail.follow_nil, Trail.move, advance, letIn?,
    if_neg state, nobody, List.nil_append, progress?, List.find?_cons, beq_self_eq_true,
    Option.map_some, prepared, note, addSave, save?, List.find?_append, none, Option.none_or,
    runSave, List.map_append, others, List.map_cons, List.map_nil, if_true]
  rfl

/-- A build whose save ends returns with what the save came to. -/
theorem fromSave_of_running {b : Builder} {ticket : Nat} {job : Job}
    (one : b.holders = [⟨ticket, .waiting⟩]) (running : b.save? ticket = some ⟨ticket, job, true⟩)
    (outcome : SaveOutcome) :
    b.follow (fromSave ticket outcome) =
      ⟨{ b with
        state := stateAfter (result job outcome)
        holders := []
        saves := b.saves.filter (·.ticket != ticket) },
      [.saveEnded ticket job outcome, .ended ticket (result job outcome)]⟩ := by
  simp [fromSave, follow, Trail.move, advance, running, note, dropSave, one, progress?, finish,
    letGo]

theorem giveUp_of_waiting {t : Trail} {ticket : Nat}
    (one : t.builder.holders = [⟨ticket, .waiting⟩]) :
    t.move (.giveUp ticket) =
      ⟨{ t.builder with state := .failed, holders := [] }, t.log ++ [.givenUp ticket]⟩ :=
  Trail.move_of_advance (by simp [advance, progress?, one, letGo])

theorem endSave_of_running {t : Trail} {ticket : Nat} {job : Job}
    (running : t.builder.save? ticket = some ⟨ticket, job, true⟩) (outcome : SaveOutcome) :
    t.move (.endSave ticket outcome) =
      ⟨(t.builder.dropSave ticket).note ticket (.settled (result job outcome)),
        t.log ++ [.saveEnded ticket job outcome]⟩ :=
  Trail.move_of_advance (by simp only [advance, running])

/-- The save of a build goes on when the build is given up. -/
theorem running_of_giveUp {t : Trail} (acc : t.Accounted) {ticket : Nat}
    (waits : ⟨ticket, .waiting⟩ ∈ t.builder.holders) :
    (t.move (.giveUp ticket)).builder.holders = [] ∧
    (t.move (.giveUp ticket)).builder.running = t.builder.running := by
  rw [giveUp_of_waiting (acc.gate.eq_of_mem waits)]
  exact ⟨rfl, rfl⟩

theorem Gate.idle {b : Builder} (gate : b.Gate) (nobody : b.holders = []) : b.state ≠ .building :=
  fun building => gate.building_iff.1 building nobody

/-- A free builder is one that the next build takes into its save, whatever saves are under way. -/
theorem follow_towardsSave {t : Trail} (acc : t.Accounted) (att : t.Attended)
    (nobody : t.builder.holders = []) {source themeId : String} {job : Job}
    (prepared : t.builder.options.prepare source themeId = .ok job) :
    t.follow (towardsSave t.builder.admitted source themeId) =
      ⟨{ t.builder with
        state := .building
        holders := [⟨t.builder.admitted, .waiting⟩]
        saves := t.builder.saves ++ [⟨t.builder.admitted, job, true⟩]
        admitted := t.builder.admitted + 1 },
      t.log ++ [.letIn t.builder.admitted, .handedOff t.builder.admitted,
        .saveCalled t.builder.admitted job]⟩ := by
  rw [Trail.follow_eq, towardsSave_of_prepared nobody (acc.gate.idle nobody) att.fresh prepared]

theorem running_of_towardsSave {t : Trail} (acc : t.Accounted) (att : t.Attended)
    (nobody : t.builder.holders = []) {source themeId : String} {job : Job}
    (prepared : t.builder.options.prepare source themeId = .ok job) :
    (t.follow (towardsSave t.builder.admitted source themeId)).builder.running =
      t.builder.running ++ [⟨t.builder.admitted, job, true⟩] := by
  rw [follow_towardsSave acc att nobody prepared]
  simp [Builder.running, List.filter_append]

/-- A build from its call to its return, with nothing else going on. -/
def build (b : Builder) (source themeId : String) (outcome : SaveOutcome) : Trail :=
  b.follow (towardsSave b.admitted source themeId ++ fromSave b.admitted outcome)

/-- A build of a document that can be prepared leaves no save behind. -/
theorem build_of_prepared {t : Trail} (acc : t.Accounted) (att : t.Attended)
    (nobody : t.builder.holders = []) {source themeId : String} {job : Job}
    (prepared : t.builder.options.prepare source themeId = .ok job) (outcome : SaveOutcome) :
    t.builder.build source themeId outcome =
      ⟨{ t.builder with
        state := stateAfter (result job outcome)
        holders := []
        admitted := t.builder.admitted + 1 },
      [.letIn t.builder.admitted, .handedOff t.builder.admitted,
        .saveCalled t.builder.admitted job, .saveEnded t.builder.admitted job outcome,
        .ended t.builder.admitted (result job outcome)]⟩ := by
  have none : t.builder.saves.find? (·.ticket == t.builder.admitted) = none := by
    simpa using att.fresh
  have older : t.builder.saves.filter (·.ticket != t.builder.admitted) = t.builder.saves :=
    List.filter_eq_self.2 (by simpa using att.fresh)
  let busy : Builder := { t.builder with
    state := .building
    holders := [⟨t.builder.admitted, .waiting⟩]
    saves := t.builder.saves ++ [⟨t.builder.admitted, job, true⟩]
    admitted := t.builder.admitted + 1 }
  have newest : busy.save? t.builder.admitted = some ⟨t.builder.admitted, job, true⟩ := by
    simp [save?, busy, List.find?_append, none]
  have ended := fromSave_of_running (b := busy) rfl newest outcome
  rw [build, follow_append, towardsSave_of_prepared nobody (acc.gate.idle nobody) att.fresh prepared,
    Trail.follow_eq, ended]
  simp [busy, List.filter_append, older]

/-- A document that cannot be prepared never comes to a save. -/
theorem build_of_unprepared {t : Trail} (acc : t.Accounted) (att : t.Attended)
    (nobody : t.builder.holders = []) {source themeId : String} {failure : BuildFailure}
    (prepared : t.builder.options.prepare source themeId = .error failure) (outcome : SaveOutcome) :
    t.builder.build source themeId outcome =
      ⟨{ t.builder with state := .failed, holders := [], admitted := t.builder.admitted + 1 },
        [.letIn t.builder.admitted, .ended t.builder.admitted (.error failure)]⟩ := by
  have idle := acc.gate.idle nobody
  have none : t.builder.saves.find? (·.ticket == t.builder.admitted) = none := by
    simpa using att.fresh
  simp [build, follow, towardsSave, fromSave, Trail.move, advance, letIn?, idle, nobody, progress?,
    prepared, finish, letGo, stateAfter, save?, none]

/-- The archive of the next build can be stored before one whose save is under way already. -/
theorem savedTickets_of_stray {t : Trail} (acc : t.Accounted) (att : t.Attended)
    (nobody : t.builder.holders = []) {save : Save} (member : save ∈ t.builder.running)
    {source themeId : String} {job : Job}
    (prepared : t.builder.options.prepare source themeId = .ok job) :
    savedTickets (t.follow (towardsSave t.builder.admitted source themeId ++
        fromSave t.builder.admitted .stored ++ [.endSave save.ticket .stored])).log =
      savedTickets t.log ++ [t.builder.admitted, save.ticket] := by
  obtain ⟨ticket, stray, running⟩ := save
  obtain ⟨listed, rfl⟩ : ⟨ticket, stray, running⟩ ∈ t.builder.saves ∧ running = true :=
    List.mem_filter.1 member
  -- The build leaves the older save as it is.
  let left : Builder := { t.builder with
    state := .idle
    holders := []
    admitted := t.builder.admitted + 1 }
  have returned : t.follow
      (towardsSave t.builder.admitted source themeId ++ fromSave t.builder.admitted .stored) =
      ⟨left, t.log ++ [.letIn t.builder.admitted, .handedOff t.builder.admitted,
        .saveCalled t.builder.admitted job, .saveEnded t.builder.admitted job .stored,
        .ended t.builder.admitted (.ok job)]⟩ := by
    have built := build_of_prepared acc att nobody prepared .stored
    rw [build] at built
    rw [Trail.follow_eq, built]
    rfl
  have oldest : left.save? ticket = some ⟨ticket, stray, true⟩ :=
    save?_of_mem (b := left) att.sorted listed
  have ended (log : List Occurrence) := endSave_of_running (t := ⟨left, log⟩) oldest .stored
  rw [Trail.follow_append, returned, Trail.follow_cons, ended, Trail.follow_nil]
  simp only [savedTickets, List.filterMap_append, List.append_assoc]
  rfl

/-- Running saves are kept in the order of their builds, and only the newest can be that of a build
that was not given up. -/
theorem running_pairwise {t : Trail} (acc : t.Accounted) (att : t.Attended) :
    t.builder.running.Pairwise fun older newer =>
      older.ticket < newer.ticket ∧ GivenUpInSave t.log older.ticket := by
  refine (att.sorted.filter _).imp_of_mem ?_
  intro older newer oldListed newListed order
  refine ⟨order, (att.owned older (List.mem_filter.1 oldListed).1).resolve_right fun held => ?_⟩
  have newest := acc.gate.admitted_eq_of_mem held
  have known := att.bound newer (List.mem_filter.1 newListed).1
  simp only at newest
  omega

theorem options_follow {t : Trail} (acc : t.Accounted) (moves : List Move) :
    (t.follow moves).builder.options = t.builder.options := by
  refine acc.keeps (P := fun later => later.builder.options = t.builder.options) ?_ rfl moves
  intro _ _ same o b change
  cases change <;> exact same

/-- No move changes what a builder works with. -/
theorem options_of_run (options : BuildOptions) (moves : List Move) :
    (Builder.follow { options } moves).builder.options = options :=
  options_follow (Trail.accounted_start options) moves

theorem attended (options : BuildOptions) (moves : List Move) :
    (Builder.follow { options } moves).Attended :=
  (Trail.attended_start options).follow (Trail.accounted_start options) moves

/-- After every run, all running saves but the newest belong to builds that were given up inside
them, and so do all saves that ended after a newer one. If no build was given up inside its save, at
most one save runs at a time and archives are stored in the order of their builds. Otherwise the next
build to come to the save target runs beside the older save, under the same archive name, and can be
stored first. -/
theorem saves_overlap_exact (options : BuildOptions) (moves : List Move) :
    let t := Builder.follow { options } moves
    (t.builder.running.Pairwise fun older newer =>
      older.ticket < newer.ticket ∧ GivenUpInSave t.log older.ticket) ∧
    SavedInOrder t.log ∧
    ((∀ ticket, ¬ GivenUpInSave t.log ticket) →
      t.builder.running.length ≤ 1 ∧ (savedTickets t.log).Pairwise (· < ·)) ∧
    (∀ save ∈ t.builder.running, ⟨save.ticket, .waiting⟩ ∈ t.builder.holders →
      (t.move (.giveUp save.ticket)).builder.holders = [] ∧
      (t.move (.giveUp save.ticket)).builder.running = t.builder.running) ∧
    (t.builder.holders = [] → ∀ source themeId job, options.prepare source themeId = .ok job →
      ((t.follow (towardsSave t.builder.admitted source themeId)).builder.running.length ≤ 1 ↔
        ∀ save ∈ t.builder.running, ¬ GivenUpInSave t.log save.ticket) ∧
      ∀ save ∈ t.builder.running,
        job.bundle.archiveName = save.job.bundle.archiveName ∧
        save.ticket < t.builder.admitted ∧
        savedTickets (t.follow (towardsSave t.builder.admitted source themeId ++
            fromSave t.builder.admitted .stored ++ [.endSave save.ticket .stored])).log =
          savedTickets t.log ++ [t.builder.admitted, save.ticket]) := by
  intro t
  have acc : t.Accounted := accounted options moves
  have att : t.Attended := attended options moves
  have same : t.builder.options = options := options_of_run options moves
  refine ⟨running_pairwise acc att, att.order, fun none => ⟨?_, ?_⟩,
    fun save _ waits => running_of_giveUp acc waits, fun nobody source themeId job done => ?_⟩
  · have pairs := running_pairwise acc att
    cases shape : t.builder.running with
    | nil => simp
    | cons first rest =>
      cases rest with
      | nil => simp
      | cons second rest =>
        rw [shape, List.pairwise_cons] at pairs
        exact absurd (pairs.1 second (by simp)).2 (none first.ticket)
  · exact att.order.imp fun order => order.resolve_right (none _)
  · have prepared : t.builder.options.prepare source themeId = .ok job := same ▸ done
    refine ⟨?_, fun save member => ⟨?_, ?_, savedTickets_of_stray acc att nobody member prepared⟩⟩
    · rw [running_of_towardsSave acc att nobody prepared, List.length_append]
      constructor
      · intro few save member _
        have some := List.length_pos_of_mem member
        simp only [List.length_singleton] at few
        omega
      · intro none
        suffices alone : t.builder.running = [] by simp [alone]
        refine List.eq_nil_iff_forall_not_mem.2 fun save member => none save member ?_
        refine (att.owned save (List.mem_filter.1 member).1).resolve_right ?_
        simp [nobody]
    · obtain ⟨source', themeId', prepared'⟩ := att.prepared save (List.mem_filter.1 member).1
      rw [BuildOptions.prepare_archiveName prepared, BuildOptions.prepare_archiveName prepared']
    · exact att.bound save (List.mem_filter.1 member).1

/-- The empty document can be prepared under the default options. -/
theorem prepare_empty : ∃ job, ({} : BuildOptions).prepare "" "" = .ok job := by
  have read : Markdown.events "" = [] := by decide +kernel
  have accepted : ({} : Pipeline).accept "" = .ok [] := by
    unfold Pipeline.accept
    rw [read]
    rfl
  have rendered : ({} : Pipeline).tryRender "" = .ok "" := Pipeline.tryRender_of_accepted accepted
  exact ⟨_, (BuildOptions.prepare_eq_ok_iff {} "" "" _).2 ⟨"", rendered, rfl⟩⟩

/-- Two saves of empty documents under way at once, and the older one stored last. -/
theorem empty_saves_overlap :
    let t := Builder.follow { options := {} }
      (towardsSave 0 "" "" ++ .giveUp 0 :: towardsSave 1 "" "")
    t.builder.running.map (fun save => (save.ticket, save.job.bundle.archiveName)) =
      [(0, "homepage.zip"), (1, "homepage.zip")] ∧
    savedTickets (t.follow (fromSave 1 .stored ++ [.endSave 0 .stored])).log = [1, 0] := by
  obtain ⟨job, prepared⟩ := prepare_empty
  have name : job.bundle.archiveName = "homepage.zip" := BuildOptions.prepare_archiveName prepared
  -- The first build is given up inside its save.
  have early : Builder.follow { options := {} } (towardsSave 0 "" "" ++ [.giveUp 0]) =
      ⟨{ options := {}, state := .failed, saves := [⟨0, job, true⟩], admitted := 1 },
        [.letIn 0, .handedOff 0, .saveCalled 0 job, .givenUp 0]⟩ := by
    have entered := towardsSave_of_prepared (b := { options := {} }) rfl (by simp) (by simp) prepared
    rw [follow_append, entered, Trail.follow_cons, giveUp_of_waiting rfl]
    rfl
  have acc := accounted {} (towardsSave 0 "" "" ++ [.giveUp 0])
  have att := attended {} (towardsSave 0 "" "" ++ [.giveUp 0])
  rw [early] at acc att
  have moves : towardsSave 0 "" "" ++ .giveUp 0 :: towardsSave 1 "" "" =
      (towardsSave 0 "" "" ++ [.giveUp 0]) ++ towardsSave 1 "" "" := rfl
  rw [moves, follow_append, early]
  refine ⟨?_, ?_⟩
  · rw [running_of_towardsSave acc att rfl prepared]
    simp [Builder.running, name]
  · have runs : (⟨0, job, true⟩ : Save) ∈ Builder.running
        { options := {}, state := .failed, saves := [⟨0, job, true⟩], admitted := 1 } := by
      simp [Builder.running]
    have saved := savedTickets_of_stray acc att rfl runs prepared
    rw [← Trail.follow_append, ← List.append_assoc]
    exact saved

end Builder

end PagePress
