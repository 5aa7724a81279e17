import PagePress.Math.Parser

/-!
# Readers and the calls between them

What a reader does is a tree of calls with what follows each of them, and `read` carries the calls
out. So two things can be said of all readers at once. Less room changes nothing but that it may not
be enough (`parseWithin_of_le`). And what every reader keeps on the word of those that it calls, all
of them keep (`outcome_read`). Room counts the calls that wait for each other. How many bytes a call
takes of a stack is not said, nor that they take equally many.
-/
namespace PagePress.Math.Parser

variable {α β : Type}

namespace Reading

theorem run_bind (answer : Part → Tokens → Except Failure (Formula × Tokens)) (r : Reading α)
    (next : α → Reading β) :
    (r >>= next).run answer = r.run answer >>= fun a => (next a).run answer := by
  induction r with
  | done a => rfl
  | failed failure => rfl
  | calls part ts rest ih =>
    show (answer part ts >>= fun x => (rest x >>= next).run answer) =
      (answer part ts >>= fun x => (rest x).run answer) >>= fun a => (next a).run answer
    cases answer part ts with
    | error failure => rfl
    | ok x => exact ih x

/-- Calls that have less room answer alike, or there is not enough of it. -/
theorem run_of_refines {less more : Part → Tokens → Except Failure (Formula × Tokens)}
    (refines : ∀ part ts, less part ts = .error .noRoom ∨ less part ts = more part ts)
    (r : Reading α) : r.run less = .error .noRoom ∨ r.run less = r.run more := by
  induction r with
  | done a => exact .inr rfl
  | failed failure => exact .inr rfl
  | calls part ts next ih =>
    rw [run, run]
    rcases refines part ts with empty | same
    · rw [empty]
      exact .inl rfl
    · rw [same]
      cases more part ts with
      | error failure => exact .inr rfl
      | ok x => exact ih x

end Reading

/-! ### More room -/

theorem read_succ (room : Nat) (part : Part) (ts : Tokens) :
    read room part ts = .error .noRoom ∨ read room part ts = read (room + 1) part ts := by
  induction room generalizing part ts with
  | zero => exact .inl rfl
  | succ room ih => exact Reading.run_of_refines ih (reader part ts)

theorem read_of_le {room more : Nat} (le : room ≤ more) (part : Part) (ts : Tokens) :
    read room part ts = .error .noRoom ∨ read room part ts = read more part ts := by
  induction le with
  | refl => exact .inr rfl
  | @step more _ ih =>
    rcases ih with empty | same
    · exact .inl empty
    · rw [same]
      exact read_succ more part ts

/-- With more room a formula is read alike, unless there was not enough of it. -/
theorem parseWithin_of_le {room more : Nat} (le : room ≤ more) (source : String) :
    parseWithin room source = .error .noRoom ∨ parseWithin room source = parseWithin more source :=
  Reading.run_of_refines (read_of_le le) _

/-! ### What readers promise each other -/

/-- What may be asked of the readers with how much room, what they promise of their answers, and with
which failures they may end. -/
structure Contract where
  asks : Nat → Part → Tokens → Prop
  answers : Part → Tokens → Formula × Tokens → Prop
  fails : Failure → Prop

/-- A good answer, or a failure that may be. -/
def Outcome (good : α → Prop) (fails : Failure → Prop) : Except Failure α → Prop
  | .ok a => good a
  | .error failure => fails failure

/-- With room for `room` calls inside each other, a reading asks for what it may, and as long as it is
answered as promised, it comes to a good answer or to a failure that may be. -/
def Reading.Keeps (c : Contract) (room : Nat) (good : α → Prop) : Reading α → Prop
  | .done a => good a
  | .failed failure => c.fails failure
  | .calls part ts next =>
    c.asks room part ts ∧ ∀ x, c.answers part ts x → (next x).Keeps c room good

namespace Reading

variable {c : Contract} {room : Nat} {good : α → Prop} {fine : β → Prop}

theorem Keeps.bind {r : Reading α} {next : α → Reading β} (kept : r.Keeps c room good)
    (later : ∀ a, good a → (next a).Keeps c room fine) : (r >>= next).Keeps c room fine := by
  induction r with
  | done a => exact later a kept
  | failed failure => exact kept
  | calls part ts rest ih => exact ⟨kept.1, fun x promised => ih x (kept.2 x promised)⟩

theorem Keeps.mono {better : α → Prop} {r : Reading α} (kept : r.Keeps c room better)
    (implies : ∀ a, better a → good a) : r.Keeps c room good := by
  induction r with
  | done a => exact implies a kept
  | failed failure => exact kept
  | calls part ts rest ih => exact ⟨kept.1, fun x promised => ih x (kept.2 x promised)⟩

/-- A reading whose calls are answered as promised comes to what it should. -/
theorem Keeps.outcome {answer : Part → Tokens → Except Failure (Formula × Tokens)}
    (answered : ∀ part ts, c.asks room part ts →
      Outcome (c.answers part ts) c.fails (answer part ts))
    {r : Reading α} (kept : r.Keeps c room good) : Outcome good c.fails (r.run answer) := by
  induction r with
  | done a => exact kept
  | failed failure => exact kept
  | calls part ts next ih =>
    have promised := answered part ts kept.1
    rw [run]
    cases found : answer part ts with
    | error failure =>
      rw [found] at promised
      exact promised
    | ok x =>
      rw [found] at promised
      exact ih x (kept.2 x promised)

end Reading

/-- Readers that keep a contract on the word of those that they call keep it, if no more is asked of
them without any room than that they may run out of it. -/
theorem outcome_read {c : Contract}
    (empty : ∀ part ts, c.asks 0 part ts → c.fails .noRoom)
    (kept : ∀ room part ts, c.asks (room + 1) part ts →
      (reader part ts).Keeps c room (c.answers part ts))
    (room : Nat) (part : Part) (ts : Tokens) (asked : c.asks room part ts) :
    Outcome (c.answers part ts) c.fails (read room part ts) := by
  induction room generalizing part ts with
  | zero => exact empty part ts asked
  | succ room ih => exact (kept room part ts asked).outcome ih

theorem keeps_call {c : Contract} {room : Nat} {part : Part} {ts : Tokens}
    (asked : c.asks room part ts) :
    (Reading.calls part ts .done).Keeps c room (c.answers part ts) :=
  ⟨asked, fun _ promised => promised⟩

/-! ### Steps that several readers take

A formula that is read is good, and the tokens behind it are such that the next one may be asked for. -/

/-- A good formula before good tokens. -/
def Leaves (good : Formula → Prop) (fine : Tokens → Prop) (x : Formula × Tokens) : Prop :=
  good x.1 ∧ fine x.2

section Shapes

variable {c : Contract} {room : Nat} {good : Formula → Prop} {fine : Tokens → Prop} {ts : Tokens}

theorem keeps_ofNode (nodes : ∀ us, fine us → (node us).Keeps c room (Leaves good fine))
    (here : fine ts) {make : Formula → Formula} (made : ∀ f, good f → good (make f)) :
    (ofNode make ts).Keeps c room (Leaves good fine) := by
  refine (nodes ts here).bind fun (f, rest) ⟨inner, later⟩ => ?_
  exact ⟨made f inner, later⟩

theorem keeps_ofNodes (nodes : ∀ us, fine us → (node us).Keeps c room (Leaves good fine))
    (here : fine ts) {make : Formula → Formula → Formula}
    (made : ∀ f g, good f → good g → good (make f g)) :
    (ofNodes make ts).Keeps c room (Leaves good fine) := by
  refine (nodes ts here).bind fun (f, rest) ⟨first, later⟩ => ?_
  refine (nodes rest later).bind fun (g, rest) ⟨second, last⟩ => ?_
  exact ⟨made f g first second, last⟩

theorem keeps_withScript (singles : ∀ us, fine us → (single us).Keeps c room (Leaves good fine))
    (drop : ∀ us, fine us → fine (us.drop 1)) (here : fine ts) (mark : Token)
    {scripted : Formula → Formula} {bare : Formula} (made : ∀ f, good f → good (scripted f))
    (plain : good bare) :
    (withScript mark scripted bare ts).Keeps c room (Leaves good fine) := by
  unfold withScript
  split
  · refine (singles _ (drop ts here)).bind fun (f, rest) ⟨inner, later⟩ => ?_
    exact ⟨made f inner, later⟩
  · exact ⟨plain, here⟩

end Shapes

/-! ### Formulas one after the other -/

section Loops

variable {c : Contract} {room : Nat} {good : Formula → Prop} {fine : Tokens → Prop} {ts : Tokens}
  (drop : ∀ us, fine us → fine (us.drop 1))
  (nodes : ∀ us, fine us → (node us).Keeps c room (Leaves good fine))

include drop nodes in
theorem keeps_items {closing : Token} (unclosed : c.fails (.unexpectedToken closing .endOfInput))
    (n : Nat) (start : fine ts) :
    (items closing n ts).Keeps c room fun x => (∀ f ∈ x.1, good f) ∧ fine x.2 := by
  induction n generalizing ts with
  | zero => exact unclosed
  | succ n ih =>
    unfold items
    split
    · exact ⟨by simp, drop ts start⟩
    split
    · exact unclosed
    · refine (nodes ts start).bind fun (f, rest) ⟨here, later⟩ => ?_
      refine (ih later).bind fun (fs, rest) ⟨all, last⟩ => ?_
      exact ⟨List.forall_mem_cons.2 ⟨here, all⟩, last⟩

include nodes in
theorem keeps_all (n : Nat) (start : fine ts) :
    (all n ts).Keeps c room fun fs => ∀ f ∈ fs, good f := by
  induction n generalizing ts with
  | zero => exact fun f member => absurd member (by simp)
  | succ n ih =>
    unfold all
    split
    · exact fun f member => absurd member (by simp)
    · refine (nodes ts start).bind fun (f, rest) ⟨here, later⟩ => ?_
      refine (ih later).bind fun fs all => ?_
      exact List.forall_mem_cons.2 ⟨here, all⟩

end Loops

/-- What comes of a whole formula, if all readers keep their contract. -/
theorem outcome_parseWithin {c : Contract} {room : Nat} {good : Formula → Prop}
    {fine : Tokens → Prop} {source : String} (empty : ∀ part ts, c.asks 0 part ts → c.fails .noRoom)
    (kept : ∀ room part ts, c.asks (room + 1) part ts →
      (reader part ts).Keeps c room (c.answers part ts))
    (nodes : ∀ us, fine us → (node us).Keeps c room (Leaves good fine))
    (start : fine (tokens source)) :
    Outcome (fun fs => ∀ f ∈ fs, good f) c.fails (parseWithin room source) :=
  (keeps_all nodes _ start).outcome (outcome_read empty kept room)

end PagePress.Math.Parser
