import PagePress.Proofs.Build.Trail

/-!
# The gate of a builder

Who held a builder is read off the log: the builds that were let in, in order, and those that have
let go. `Trail.Accounted` ties the state of the builder to both, so that the state tells whether a
build is at work and, if none is, how the last one ended. A call is turned away exactly while a build
holds the builder, and leaves no trace but its own answer.
-/
namespace PagePress

namespace Occurrence

/-- The ticket given out. -/
def admission? : Occurrence → Option Nat
  | .letIn ticket => some ticket
  | _ => none

/-- The ticket of a build that lets go of the builder. -/
def departure? : Occurrence → Option Nat
  | .ended ticket _ | .givenUp ticket => some ticket
  | _ => none

/-- A build returns with its bundle. -/
def EndsWell (ticket : Nat) (o : Occurrence) : Prop := ∃ job, o = .ended ticket (.ok job)

end Occurrence

/-- The build that was the last one to hold the builder. -/
def lastHolder (log : List Occurrence) : Option Nat :=
  (log.filterMap Occurrence.admission?).getLast?

def EndedWell (log : List Occurrence) (ticket : Nat) : Prop := ∃ o ∈ log, o.EndsWell ticket

theorem endedWell_append (log : List Occurrence) (o : Occurrence) (ticket : Nat) :
    EndedWell (log ++ [o]) ticket ↔ EndedWell log ticket ∨ o.EndsWell ticket := by
  simp [EndedWell, or_and_right, exists_or]

theorem EndedWell.mem_departures {log : List Occurrence} {ticket : Nat} (h : EndedWell log ticket) :
    ticket ∈ log.filterMap Occurrence.departure? := by
  obtain ⟨o, member, job, rfl⟩ := h
  exact List.mem_filterMap.2 ⟨_, member, rfl⟩

namespace Builder

theorem Gate.of_same {b c : Builder} (gate : b.Gate) (state : c.state = b.state)
    (tickets : c.holders.map Holder.ticket = b.holders.map Holder.ticket)
    (admitted : c.admitted = b.admitted) : c.Gate := by
  cases gate with
  | free nobody idle => exact .free (by simpa [nobody] using tickets) (state ▸ idle)
  | held ticket progress one building last =>
    have single : c.holders.map Holder.ticket = [ticket] := by rw [tickets, one]; rfl
    obtain ⟨⟨t, p⟩, shape, same⟩ := List.map_eq_singleton_iff.1 single
    simp only at same
    exact .held ticket p (same ▸ shape) (state ▸ building) (admitted ▸ last)

theorem Gate.eq_of_mem {b : Builder} (gate : b.Gate) {holder : Holder}
    (member : holder ∈ b.holders) : b.holders = [holder] := by
  cases gate with
  | free nobody => simp [nobody] at member
  | held ticket p one =>
    rw [one, List.mem_singleton] at member
    rw [one, member]

/-- Who holds the builder has the newest ticket. -/
theorem Gate.admitted_eq_of_mem {b : Builder} (gate : b.Gate) {holder : Holder}
    (member : holder ∈ b.holders) : b.admitted = holder.ticket + 1 := by
  cases gate with
  | free nobody => simp [nobody] at member
  | held ticket p one _ last =>
    rw [one, List.mem_singleton] at member
    rw [last, member]

theorem Gate.admitted_eq {b : Builder} (gate : b.Gate) {ticket : Nat} {p : Progress}
    (one : b.holders = [⟨ticket, p⟩]) : b.admitted = ticket + 1 := by
  have member : (⟨ticket, p⟩ : Holder) ∈ b.holders := by simp [one]
  exact gate.admitted_eq_of_mem member

theorem note_tickets (b : Builder) (ticket : Nat) (p : Progress) :
    (b.note ticket p).holders.map Holder.ticket = b.holders.map Holder.ticket := by
  simp only [note, List.map_map]
  apply List.map_congr_left
  intro holder _
  by_cases same : holder.ticket = ticket <;> simp [same]

end Builder

namespace Trail

/-- The state of a builder accounts for all builds that held it. Tickets are given out in order, and
given back in the same order. -/
structure Accounted (t : Trail) : Prop where
  gate : t.builder.Gate
  admissions : t.log.filterMap Occurrence.admission? = List.range t.builder.admitted
  departures : t.log.filterMap Occurrence.departure? ++ t.builder.holders.map Holder.ticket =
    List.range t.builder.admitted
  idle : t.builder.holders = [] →
    (t.builder.state = .idle ↔ ∀ ticket ∈ lastHolder t.log, EndedWell t.log ticket)

theorem accounted_start (options : BuildOptions) : Accounted ⟨{ options }, []⟩ where
  gate := .free rfl (by simp)
  admissions := rfl
  departures := rfl
  idle := by simp [lastHolder]

namespace Accounted

variable {t : Trail} {b : Builder} {o : Occurrence}

/-- Who holds the builder is the last one who was let in. -/
theorem lastHolder_eq (acc : Accounted t) {ticket : Nat} {p : Progress}
    (one : t.builder.holders = [⟨ticket, p⟩]) : lastHolder t.log = some ticket := by
  rw [lastHolder, acc.admissions, acc.gate.admitted_eq one, List.range_succ, List.getLast?_concat]

/-- Who holds the builder has not let go before. -/
theorem not_departed (acc : Accounted t) {ticket : Nat} {p : Progress}
    (one : t.builder.holders = [⟨ticket, p⟩]) :
    ticket ∉ t.log.filterMap Occurrence.departure? := by
  have distinct := List.nodup_range (n := t.builder.admitted)
  rw [← acc.departures, one] at distinct
  intro gone
  exact (List.nodup_append.1 distinct).2.2 ticket gone ticket (by simp) rfl

/-- A move that neither lets a build in nor ends one keeps the account. -/
theorem quiet (acc : Accounted t) (entered : o.admission? = none) (left : o.departure? = none)
    (state : b.state = t.builder.state)
    (tickets : b.holders.map Holder.ticket = t.builder.holders.map Holder.ticket)
    (admitted : b.admitted = t.builder.admitted) : Accounted ⟨b, t.log ++ [o]⟩ where
  gate := acc.gate.of_same state tickets admitted
  admissions := by simp [entered, acc.admissions, admitted]
  departures := by
    rw [List.filterMap_append, tickets, admitted, ← acc.departures]
    simp [left]
  idle nobody := by
    have unheld : t.builder.holders = [] := by
      rw [show b.holders = [] from nobody, List.map_nil] at tickets
      exact List.map_eq_nil_iff.1 tickets.symm
    have unchanged : ∀ ticket, EndedWell (t.log ++ [o]) ticket ↔ EndedWell t.log ticket := by
      intro ticket
      rw [endedWell_append, or_iff_left]
      rintro ⟨job, rfl⟩
      simp [Occurrence.departure?] at left
    have same : lastHolder (t.log ++ [o]) = lastHolder t.log := by simp [lastHolder, entered]
    simp only [state, same, unchanged]
    exact acc.idle unheld

/-- A build that lets go leaves the state by which its own end is known. -/
theorem depart (acc : Accounted t) {ticket : Nat} {p : Progress} {state : BuildState}
    (one : t.builder.holders = [⟨ticket, p⟩]) (entered : o.admission? = none)
    (left : o.departure? = some ticket) (stopped : state ≠ .building)
    (well : state = .idle ↔ o.EndsWell ticket) :
    Accounted ⟨{ t.builder with state, holders := [] }, t.log ++ [o]⟩ where
  gate := .free rfl stopped
  admissions := by simp [entered, acc.admissions]
  departures := by
    have account := acc.departures
    rw [one] at account
    simpa [left] using account
  idle _ := by
    have same : lastHolder (t.log ++ [o]) = lastHolder t.log := by simp [lastHolder, entered]
    have fresh : ¬ EndedWell t.log ticket := fun h => acc.not_departed one h.mem_departures
    simp [same, acc.lastHolder_eq one, endedWell_append, fresh, well]

/-- A build that is let in takes the next ticket. -/
theorem enter (acc : Accounted t) (source themeId : String) (nobody : t.builder.holders = []) :
    Accounted ⟨{ t.builder with
      state := .building
      holders := [⟨t.builder.admitted, .preparing source themeId⟩]
      admitted := t.builder.admitted + 1 }, t.log ++ [.letIn t.builder.admitted]⟩ where
  gate := .held _ _ rfl rfl rfl
  admissions := by simp [Occurrence.admission?, acc.admissions, List.range_succ]
  departures := by
    have account := acc.departures
    rw [nobody, List.map_nil, List.append_nil] at account
    simp [Occurrence.departure?, account, List.range_succ]
  idle held := by cases held

end Accounted

open Occurrence in
/-- Every change keeps the account. -/
theorem Accounted.changes {t : Trail} (acc : Accounted t) {o : Occurrence} {b : Builder}
    (change : t.builder.Changes o b) : Accounted ⟨b, t.log ++ [o]⟩ := by
  cases change with
  | turnedAway busy => exact acc.quiet rfl rfl rfl rfl rfl
  | letIn source themeId nobody => exact acc.enter source themeId nobody
  | refused ticket source themeId failure one prepared =>
    exact acc.depart one rfl rfl (by simp) (by simp [EndsWell])
  | handedOff ticket source themeId job one prepared =>
    exact acc.quiet rfl rfl rfl (by simp [one]) rfl
  | saveCalled ticket job queued => exact acc.quiet rfl rfl rfl rfl rfl
  | saveEnded ticket job outcome running =>
    exact acc.quiet rfl rfl rfl (Builder.note_tickets _ _ _) rfl
  | saveCancelled ticket job queued =>
    exact acc.quiet rfl rfl rfl (Builder.note_tickets _ _ _) rfl
  | concluded ticket result one =>
    cases result with
    | ok job =>
      exact acc.depart one rfl rfl (by simp [Builder.stateAfter])
        (by simp [Builder.stateAfter, EndsWell])
    | error failure =>
      exact acc.depart one rfl rfl (by simp [Builder.stateAfter])
        (by simp [Builder.stateAfter, EndsWell])
  | givenUp ticket progress one suspended =>
    exact acc.depart one rfl rfl (by simp) (by simp [EndsWell])

theorem Accounted.move {t : Trail} (acc : Accounted t) (m : Move) : Accounted (t.move m) := by
  cases made : t.builder.advance m with
  | none => rwa [move_of_stuck made]
  | some next =>
    rw [move_of_advance made]
    exact acc.changes (Builder.advance_changes acc.gate made)

theorem Accounted.follow {t : Trail} (acc : Accounted t) (moves : List Move) :
    Accounted (t.follow moves) := follow_keeps (fun _ m h => h.move m) acc moves

/-- What every change keeps, given the account, is kept by every run. -/
theorem Accounted.keeps {P : Trail → Prop}
    (changes : ∀ {t : Trail}, Accounted t → P t →
      ∀ o b, t.builder.Changes o b → P ⟨b, t.log ++ [o]⟩)
    {t : Trail} (acc : Accounted t) (h : P t) (moves : List Move) : P (t.follow moves) := by
  have both : ∀ t m, Accounted t ∧ P t → Accounted (t.move m) ∧ P (t.move m) := by
    rintro t m ⟨acc, h⟩
    refine ⟨acc.move m, ?_⟩
    cases made : t.builder.advance m with
    | none => rwa [move_of_stuck made]
    | some next =>
      rw [move_of_advance made]
      exact changes acc h _ _ (Builder.advance_changes acc.gate made)
  exact (follow_keeps both ⟨acc, h⟩ moves).2

/-- Only a call that is turned away is told that the builder is busy. -/
structure Candid (t : Trail) : Prop where
  told : ∀ ticket, .ended ticket (.error .busy) ∉ t.log
  pending : ∀ holder ∈ t.builder.holders, holder.progress ≠ .settled (.error .busy)

end Trail

namespace BuildOptions

theorem prepare_ne_busy (options : BuildOptions) (source themeId : String) :
    options.prepare source themeId ≠ .error .busy := by
  unfold prepare
  dsimp only
  split
  · simp
  · simp
  · split
    · simp
    · split <;> simp

end BuildOptions

namespace Builder

theorem result_ne_busy (job : Job) (outcome : SaveOutcome) : result job outcome ≠ .error .busy := by
  cases outcome <;> simp [result]

/-- Who is noted to have come this far has come this far, and nobody else has moved. -/
theorem eq_or_mem_of_mem_note {b : Builder} {ticket : Nat} {p : Progress} {holder : Holder}
    (h : holder ∈ (b.note ticket p).holders) : holder = ⟨ticket, p⟩ ∨ holder ∈ b.holders := by
  obtain ⟨old, member, shape⟩ := List.mem_map.1 h
  by_cases same : old.ticket = ticket
  · rw [if_pos same, same] at shape
    exact .inl shape.symm
  · rw [if_neg same] at shape
    exact .inr (shape ▸ member)

theorem mem_note {b : Builder} {ticket : Nat} {p : Progress} {holder : Holder}
    (h : holder ∈ (b.note ticket p).holders) : holder.progress = p ∨ holder ∈ b.holders :=
  (eq_or_mem_of_mem_note h).imp_left (congrArg Holder.progress ·)

end Builder

namespace Trail

theorem Candid.changes {t : Trail} (candid : Candid t) {o : Occurrence} {b : Builder}
    (change : t.builder.Changes o b) : Candid ⟨b, t.log ++ [o]⟩ := by
  obtain ⟨told, pending⟩ := candid
  cases change with
  | turnedAway busy => exact ⟨by simpa using told, pending⟩
  | letIn source themeId nobody => exact ⟨by simpa using told, by simp⟩
  | refused ticket source themeId failure one prepared =>
    have other : failure ≠ .busy := by
      rintro rfl
      exact t.builder.options.prepare_ne_busy source themeId prepared
    exact ⟨by simpa [other.symm] using told, by simp⟩
  | handedOff ticket source themeId job one prepared => exact ⟨by simpa using told, by simp⟩
  | saveCalled ticket job queued => exact ⟨by simpa using told, pending⟩
  | saveEnded ticket job outcome running =>
    refine ⟨by simpa using told, fun holder member => ?_⟩
    rcases Builder.mem_note member with noted | old
    · simpa [noted] using Builder.result_ne_busy job outcome
    · exact pending holder old
  | saveCancelled ticket job queued =>
    refine ⟨by simpa using told, fun holder member => ?_⟩
    rcases Builder.mem_note member with noted | old
    · simp [noted]
    · exact pending holder old
  | concluded ticket result one =>
    have other : result ≠ .error .busy := by
      simpa using pending ⟨ticket, .settled result⟩ (by simp [one])
    exact ⟨by simpa [other.symm] using told, by simp⟩
  | givenUp ticket progress one suspended => exact ⟨by simpa using told, by simp⟩

theorem Candid.follow {t : Trail} (acc : Accounted t) (candid : Candid t) (moves : List Move) :
    Candid (t.follow moves) :=
  acc.keeps (fun _ candid _ _ change => candid.changes change) candid moves

end Trail

namespace Builder

theorem accounted (options : BuildOptions) (moves : List Move) :
    (Builder.follow { options } moves).Accounted := (Trail.accounted_start options).follow moves

theorem candid (options : BuildOptions) (moves : List Move) :
    (Builder.follow { options } moves).Candid :=
  Trail.Candid.follow (Trail.accounted_start options) ⟨by simp, by simp⟩ moves

/-- A call is turned away while a build holds the builder. -/
theorem start_of_held {t : Trail} (gate : t.builder.Gate) (held : t.builder.holders ≠ [])
    (source themeId : String) :
    t.move (.start source themeId) = ⟨t.builder, t.log ++ [.turnedAway]⟩ :=
  Trail.move_of_advance (by simp [advance, gate.letIn?, held])

theorem start_of_free {t : Trail} (gate : t.builder.Gate) (nobody : t.builder.holders = [])
    (source themeId : String) :
    t.move (.start source themeId) =
      ⟨{ t.builder with
        state := .building
        holders := [⟨t.builder.admitted, .preparing source themeId⟩]
        admitted := t.builder.admitted + 1 }, t.log ++ [.letIn t.builder.admitted]⟩ :=
  Trail.move_of_advance (by simp [advance, gate.letIn?, nobody])

/-- The state says whether the builder is held. -/
theorem Gate.building_iff {b : Builder} (gate : b.Gate) :
    b.state = .building ↔ b.holders ≠ [] := by
  cases gate with
  | free nobody state => simp [nobody, state]
  | held ticket progress one state => simp [one, state]

/-- A free builder is idle or failed. -/
theorem Gate.failed_iff {b : Builder} (gate : b.Gate) (nobody : b.holders = []) :
    b.state = .failed ↔ b.state ≠ .idle := by
  cases gate with
  | free _ stopped => cases state : b.state <;> simp_all
  | held ticket progress one => simp [nobody] at one

/-- At every moment of every run at most one build holds the builder. The state is `building` exactly
while one does; otherwise it is `idle` if no build has held the builder or the last one to hold it
returned its bundle, and `failed` if that one ended in any other way. A call is turned away exactly
while a build holds the builder, and this changes nothing for anybody else. All sessions are runs. -/
theorem gate_exact (options : BuildOptions) (moves : List Move) :
    let t := Builder.follow { options } moves
    t.builder.holders.length ≤ 1 ∧
    (t.builder.state = .building ↔ t.builder.holders ≠ []) ∧
    (t.builder.holders = [] →
      (t.builder.state = .idle ↔ ∀ ticket ∈ lastHolder t.log, EndedWell t.log ticket) ∧
      (t.builder.state = .failed ↔ ∃ ticket ∈ lastHolder t.log, ¬ EndedWell t.log ticket)) ∧
    (∀ ticket, .ended ticket (.error .busy) ∉ t.log) ∧
    (∀ source themeId, t.builder.holders = [] →
      (t.move (.start source themeId)).log = t.log ++ [.letIn t.builder.admitted]) ∧
    (∀ source themeId, t.builder.holders ≠ [] →
      (t.move (.start source themeId)).log = t.log ++ [.turnedAway] ∧
      ∀ later,
        ((t.move (.start source themeId)).follow later).builder = (t.follow later).builder ∧
        ((t.move (.start source themeId)).follow later).stored = (t.follow later).stored ∧
        ∃ rest, (t.follow later).log = t.log ++ rest ∧
          ((t.move (.start source themeId)).follow later).log = t.log ++ .turnedAway :: rest) ∧
    ∀ requests, ∃ moves, (Session.mk { options } {}).through requests =
      (Session.mk { options } {}).after (Builder.follow { options } moves) := by
  intro t
  have acc : t.Accounted := accounted options moves
  refine ⟨?_, acc.gate.building_iff, ?_, (candid options moves).told, ?_, ?_,
    fun requests => Session.through_moves _ requests⟩
  · cases acc.gate with
    | free nobody => simp [nobody]
    | held ticket progress one => simp [one]
  · intro nobody
    have idle := acc.idle nobody
    refine ⟨idle, ?_⟩
    rw [acc.gate.failed_iff nobody, ne_eq, idle]
    simp only [Classical.not_forall, exists_prop]
  · intro source themeId nobody
    rw [start_of_free acc.gate nobody]
  · intro source themeId held
    rw [start_of_held acc.gate held]
    refine ⟨rfl, fun later => ?_⟩
    rw [Trail.follow_eq, Trail.follow_eq t later]
    refine ⟨rfl, by simp [Trail.stored], (t.builder.follow later).log, rfl, by simp⟩

end Builder

end PagePress
