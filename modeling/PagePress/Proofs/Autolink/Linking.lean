import PagePress.Proofs.Autolink.Parts
import PagePress.Proofs.Nesting
import PagePress.Proofs.Stages

/-!
# Linking a document

Linking turns every event into a block of events (`blocks`): the event itself, or the parts of a
text. Whatever is open around a text is open around all of its parts, so a document stays well
nested. In a well nested document the number kept by the stage is that of the open elements in which
nothing may be linked (`depthAt_eq_countP`), and it is zero just outside all of them. A linked
document is left as it is by linking it again.
-/
namespace PagePress.Autolink

/-- Elements in which nothing is linked. -/
def forbidsLinks : Tag → Bool
  | .link .. | .image .. | .codeBlock _ | .htmlBlock => true
  | _ => false

/-- What may become of an event: the event itself, or the parts of a text, at least one and none of
them empty. -/
inductive Becomes : Event → List Event → Prop
  | same (e : Event) : Becomes e [e]
  | parts {s : String} {parts : List Part} (some : parts ≠ [])
      (filled : ∀ part ∈ parts, part.text ≠ "") (whole : Part.join parts = s) :
      Becomes (.text s) (Part.allEvents parts)

/-- What becomes of each event of a document inside `depth` suppressing elements. -/
def blocksFrom (depth : Nat) : List Event → List (List Event)
  | [] => []
  | e :: rest => expand depth e :: blocksFrom (depthAfter depth e) rest

def blocks (events : List Event) : List (List Event) := blocksFrom 0 events

/-- How many suppressing elements the stage counts as open after several events. -/
def depthAt (depth : Nat) (events : List Event) : Nat := events.foldl depthAfter depth

variable {depth : Nat} {e : Event} {events rest : List Event} {stack inner : List Tag}
  {parts : List Part}

/-! ### Blocks -/

theorem linkFrom_eq_flatten (depth : Nat) (events : List Event) :
    linkFrom depth events = (blocksFrom depth events).flatten := by
  induction events generalizing depth with
  | nil => rfl
  | cons e rest ih => rw [linkFrom, blocksFrom, List.flatten_cons, ih]

/-- A block is its event, or the parts of a text outside all suppressing elements. -/
theorem expand_cases (depth : Nat) (e : Event) :
    expand depth e = [e] ∨ depth = 0 ∧ ∃ s parts, e = .text s ∧
      expand depth e = Part.allEvents parts ∧ Parted s parts := by
  cases e with
  | text s =>
    unfold expand
    dsimp only
    split
    next outside =>
      obtain ⟨parts, splits, parted⟩ := splitText_parts s
      exact .inr ⟨outside, s, parts, rfl, splits, parted⟩
    next => exact .inl rfl
  | _ => exact .inl rfl

theorem becomes_expand (depth : Nat) (e : Event) : Becomes e (expand depth e) := by
  rcases expand_cases depth e with kept | ⟨-, s, parts, rfl, expands, parted⟩
  · rw [kept]
    exact .same e
  · rw [expands]
    rcases parted.filled with ⟨some, filled⟩ | rfl
    · exact .parts some filled parted.whole
    · exact .same (.text s)

theorem becomes_blocksFrom (depth : Nat) (events : List Event) :
    List.Forall₂ Becomes events (blocksFrom depth events) := by
  induction events generalizing depth with
  | nil => exact .nil
  | cons e rest ih => exact .cons (becomes_expand depth e) (ih _)

theorem blocksFrom_take (depth : Nat) (events : List Event) (i : Nat) :
    (blocksFrom depth events).take i = blocksFrom depth (events.take i) := by
  induction events generalizing depth i with
  | nil => simp [blocksFrom]
  | cons e rest ih =>
    cases i with
    | zero => rfl
    | succ i => rw [blocksFrom, List.take_succ_cons, List.take_succ_cons, blocksFrom, ih]

theorem blocksFrom_getElem? (depth : Nat) (events : List Event) (i : Nat) :
    (blocksFrom depth events)[i]? = events[i]?.map (expand (depthAt depth (events.take i))) := by
  induction events generalizing depth i with
  | nil => rfl
  | cons e rest ih =>
    cases i with
    | zero => rfl
    | succ i => exact ih (depthAfter depth e) i

/-! ### Open elements -/

theorem Part.balanced (part : Part) : Event.Balanced part.events := by
  cases part <;> exact fun _ => rfl

theorem Part.allEvents_balanced (parts : List Part) : Event.Balanced (Part.allEvents parts) := by
  induction parts with
  | nil => exact fun _ => rfl
  | cons part rest ih => exact part.balanced.append ih

/-- A block opens and ends the elements that its event does. -/
theorem openAtEnd_expand (depth : Nat) (e : Event) :
    Event.openAtEnd stack (expand depth e) = Event.openAfter stack e := by
  rcases expand_cases depth e with kept | ⟨-, s, parts, rfl, expands, -⟩
  · rw [kept]
    exact Event.openAtEnd_singleton
  · rw [expands]
    exact Part.allEvents_balanced parts stack

theorem openAtEnd_blocksFrom (depth : Nat) (events : List Event) :
    Event.openAtEnd stack (blocksFrom depth events).flatten = Event.openAtEnd stack events := by
  induction events generalizing stack depth with
  | nil => rfl
  | cons e rest ih =>
    rw [blocksFrom, List.flatten_cons, Event.openAtEnd_append, openAtEnd_expand, Event.openAtEnd]
    cases Event.openAfter stack e with
    | none => rfl
    | some inner => exact ih _

theorem opensSuppression_start (tag : Tag) : opensSuppression (.start tag) = forbidsLinks tag := by
  cases tag <;> rfl

theorem closesSuppression_close (tag : Tag) :
    closesSuppression (.stop tag.close) = forbidsLinks tag := by
  cases tag <;> rfl

theorem depthAfter_eq_countP (after : Event.openAfter stack e = some inner) :
    depthAfter (stack.countP forbidsLinks) e = inner.countP forbidsLinks := by
  cases e with
  | start tag =>
    obtain rfl := Option.some.inj after
    rw [depthAfter, opensSuppression_start, List.countP_cons]
    cases forbidsLinks tag <;> rfl
  | stop close =>
    cases stack with
    | nil => cases after
    | cons tag outer =>
      rw [Event.openAfter] at after
      split at after
      next own =>
        obtain rfl := Option.some.inj after
        rw [← own, depthAfter, closesSuppression_close, List.countP_cons]
        cases forbidsLinks tag <;> rfl
      next => cases after
  | _ =>
    obtain rfl := Option.some.inj after
    rfl

/-- The count of the stage is the number of open elements in which nothing may be linked. -/
theorem depthAt_eq_countP (after : Event.openAtEnd stack events = some inner) :
    depthAt (stack.countP forbidsLinks) events = inner.countP forbidsLinks := by
  induction events generalizing stack with
  | nil =>
    obtain rfl := Option.some.inj after
    rfl
  | cons e rest ih =>
    obtain ⟨between, first, later⟩ := Option.bind_eq_some_iff.1 after
    rw [depthAt, List.foldl_cons, depthAfter_eq_countP first]
    exact ih later

/-- Linking takes a document over event by event. Only a text may be cut into parts, which make up
the text and are not empty. In a well nested document, if nothing may be linked in one of the
elements that are open before a text, the text stays as it is; outside all such elements its links
are those that the scanner finds, and just the elements that were open before the text are open
before each of its parts. -/
theorem link_exact (events : List Event) :
    link events = (blocks events).flatten ∧ List.Forall₂ Becomes events (blocks events) ∧
    (Event.WellNested events → Event.WellNested (link events) ∧
      ∀ i s, events[i]? = some (.text s) →
        ∃ stack, Event.openAtEnd [] (events.take i) = some stack ∧
          ((∃ tag ∈ stack, forbidsLinks tag = true) → (blocks events)[i]? = some [.text s]) ∧
          ((∀ tag ∈ stack, forbidsLinks tag = false) →
            ∃ parts, (blocks events)[i]? = some (Part.allEvents parts) ∧ Part.join parts = s ∧
              Part.links 0 parts = find s ∧
              ∀ first, first <+: parts → Event.openAtEnd []
                (((blocks events).take i).flatten ++ Part.allEvents first) = some stack)) := by
  have whole : link events = (blocks events).flatten :=
    (link_eq events).trans (linkFrom_eq_flatten 0 events)
  refine ⟨whole, becomes_blocksFrom 0 events, fun nested => ⟨?_, fun i s here => ?_⟩⟩
  · rw [Event.WellNested, whole, blocks, openAtEnd_blocksFrom]
    exact nested
  obtain ⟨stack, opened⟩ := nested.openAtEnd_take i
  have depth : depthAt 0 (events.take i) = stack.countP forbidsLinks := depthAt_eq_countP opened
  have block : (blocks events)[i]? = some (expand (stack.countP forbidsLinks) (.text s)) := by
    rw [blocks, blocksFrom_getElem?, here, depth]
    rfl
  refine ⟨stack, opened, fun inside => ?_, fun outside => ?_⟩
  · have positive : stack.countP forbidsLinks ≠ 0 := Nat.ne_of_gt (List.countP_pos_iff.2 inside)
    rw [block, expand, if_neg positive]
  · have zero : stack.countP forbidsLinks = 0 :=
      List.countP_eq_zero.2 fun tag member => by simp [outside tag member]
    obtain ⟨parts, splits, parted⟩ := splitText_parts s
    refine ⟨parts, ?_, parted.whole, parted.links, fun first _ => ?_⟩
    · rw [block, zero, expand, if_pos rfl, splits]
    · rw [Event.openAtEnd_append, blocks, blocksFrom_take, openAtEnd_blocksFrom, opened]
      exact Part.allEvents_balanced first stack

example :
    link [.start .paragraph, .text "see www.a.bc.", .start (.link .inline "/" "" ""),
      .text "www.a.bc", .stop .link, .stop .paragraph] =
    [.start .paragraph, .text "see ", .start (.link .autolink "http://www.a.bc" "" ""),
      .text "www.a.bc", .stop .link, .text ".", .start (.link .inline "/" "" ""), .text "www.a.bc",
      .stop .link, .stop .paragraph] := by
  decide +kernel

/-! ### Linking again -/

/-- The parts of a text are left as they are: some have no links, the others are inside of one. -/
theorem linkFrom_parts (quiet : ∀ text, .plain text ∈ parts → find text = []) (rest : List Event) :
    linkFrom 0 (Part.allEvents parts ++ rest) = Part.allEvents parts ++ linkFrom 0 rest := by
  induction parts with
  | nil => rfl
  | cons part others ih =>
    have later := ih fun text member => quiet text (List.mem_cons_of_mem _ member)
    cases part with
    | plain text =>
      have whole : splitText text = [.text text] := by
        rw [splitText, quiet text List.mem_cons_self]
      show splitText text ++ linkFrom 0 (Part.allEvents others ++ rest) = _
      rw [whole, later]
      rfl
    | linked href text =>
      show .start (tag href) :: .text text :: .stop .link ::
        linkFrom 0 (Part.allEvents others ++ rest) = _
      rw [later]
      rfl

theorem linkFrom_expand (depth : Nat) (e : Event) (rest : List Event) :
    linkFrom depth (expand depth e ++ rest) =
      expand depth e ++ linkFrom (depthAfter depth e) rest := by
  rcases expand_cases depth e with kept | ⟨rfl, s, parts, rfl, expands, parted⟩
  · rw [kept, List.singleton_append, linkFrom, kept]
  · rw [expands]
    exact linkFrom_parts parted.quiet rest

/-- Linking a linked document changes nothing, whether or not it is well nested: the parts of a text
that stay text have no links when they are scanned as texts of their own. -/
theorem link_link (events : List Event) :
    link (link events) = link events ∧
    ∀ s, ∃ parts, splitText s = Part.allEvents parts ∧ Part.links 0 parts = find s ∧
      ∀ text, .plain text ∈ parts → find text = [] := by
  constructor
  · rw [link_eq, link_eq]
    suffices anywhere : ∀ depth, linkFrom depth (linkFrom depth events) = linkFrom depth events from
      anywhere 0
    induction events with
    | nil => exact fun _ => rfl
    | cons e rest ih =>
      intro depth
      rw [linkFrom, linkFrom_expand, ih]
  · intro s
    obtain ⟨parts, splits, parted⟩ := splitText_parts s
    exact ⟨parts, splits, parted.links, parted.quiet⟩

end PagePress.Autolink
