import PagePress.Proofs.Anchoring
import PagePress.Proofs.TopLevel

/-!
# Selector lists in a scope

A balanced selector list is cut at all of its commas, those inside brackets and quotes too. What
becomes of it is right exactly if every comma inside is followed by one blank and a piece that starts
at the scope, as it would be after the cut.
-/
namespace PagePress.Selector

open Text (Neat strip isBlank pieces)

variable {scope selector part text first : List Char} {before after : List Enclosure}
  {texts others : List (List Char)}

/-! ### Parts at the top level -/

/-- The top pieces of a selector list that are not blank, without white space around them. -/
def topParts (selector : List Char) : List (List Char) :=
  trimmed (topPieces [] selector)

theorem neat_of_mem_topParts (member : part ∈ topParts selector) : Neat part :=
  (of_mem_trimmed member).1

theorem Uncut.strip (uncut : Uncut before text after) : Uncut before (strip text) after := by
  obtain ⟨front, back, blank, blank', whole⟩ := Text.exists_strip text
  rw [whole] at uncut
  obtain ⟨between, outer, last⟩ := uncut.split
  obtain ⟨start, first, own⟩ := outer.split
  obtain rfl := (uncut_of_blank blank).unique first
  obtain rfl := (uncut_of_blank blank').unique last
  exact own

theorem Balanced.uncut_of_mem (balanced : Balanced selector) (member : part ∈ topParts selector) :
    Uncut [] part [] := by
  obtain ⟨-, piece, found, rfl⟩ := of_mem_trimmed member
  exact (balanced.uncut found).strip

/-- Neat parts that are not cut are the top parts of the list that they make. -/
theorem topParts_intercalate (neat : ∀ part ∈ texts, Neat part)
    (uncut : ∀ part ∈ texts, Uncut [] part []) :
    topParts ([',', ' '].intercalate texts) = texts := by
  cases texts with
  | nil => rfl
  | cons first others =>
    have blank : Uncut [] [' '] [] := uncut_of_blank Text.blank_of_space
    have own : ∀ piece ∈ spaced first others, Uncut [] piece [] :=
      forall_mem_spaced (fun _ => blank.append) uncut
    rw [topParts, intercalate_spaced, topPieces_intercalate (spaced_ne_nil first others) own,
      trimmed_spaced neat]

/-- The parts of a list are those of its top parts. -/
theorem parts_eq_flatMap (selector : List Char) :
    parts selector = (topParts selector).flatMap parts := by
  have kept : ∀ texts : List (List Char),
      texts.flatMap parts = (trimmed texts).flatMap parts := by
    intro texts
    induction texts with
    | nil => rfl
    | cons text texts ih =>
      rw [List.flatMap_cons, ih, ← parts_strip]
      by_cases empty : strip text = []
      · rw [trimmed_cons_of_blank empty, empty]
        rfl
      · rw [trimmed_cons empty, List.flatMap_cons]
  rw [topParts, ← kept]
  conv_lhs => rw [parts, ← intercalate_topPieces [] selector,
    Text.pieces_intercalate_flatMap ',' (topPieces_ne_nil [] selector)]
  rw [List.map_flatMap, List.filter_flatMap]
  rfl

/-- The first piece of a part at the top level begins as the part does: a comma there would
separate. -/
theorem begins_of_first_piece {piece rest : List Char} (neat : Neat (piece ++ rest))
    (uncut : Uncut [] (piece ++ rest) []) (behind : ∀ c ∈ rest.head?, c = ',') :
    ∃ c tail, piece = c :: tail ∧ isBlank c = false := by
  obtain ⟨c, own, begins, filled⟩ := neat.begins
  cases piece with
  | nil =>
    obtain rfl : rest = c :: own := begins
    obtain rfl := behind c rfl
    exact absurd rfl uncut.comma.1
  | cons d tail => exact ⟨d, tail, rfl, (List.cons.inj begins).1 ▸ filled⟩

/-- A part at the top level begins with a part of its own. -/
theorem exists_first_part (neat : Neat part) (uncut : Uncut [] part []) :
    ∃ first others blank rest, parts part = first :: others ∧ part = first ++ (blank ++ rest) ∧
      (∀ c ∈ blank, isBlank c = true) ∧ ∀ c ∈ rest.head?, c = ',' := by
  obtain ⟨piece, more, rest, shape, rfl, behind⟩ := Text.exists_first_piece ',' part
  obtain ⟨c, tail, rfl, filled⟩ := begins_of_first_piece neat uncut behind
  obtain ⟨front, back, before, after, whole⟩ := Text.exists_strip (c :: tail)
  have start : front = [] := by
    cases front with
    | nil => rfl
    | cons d front =>
      have blank := before d List.mem_cons_self
      rw [← (List.cons.inj whole).1, filled] at blank
      cases blank
  rw [start, List.nil_append] at whole
  refine ⟨strip (c :: tail), trimmed more, back, rest, ?_, ?_, after, behind⟩
  · rw [parts_eq_trimmed, shape, trimmed_cons (Text.strip_ne_nil filled)]
  · rw [← List.append_assoc, ← whole]

/-- What starts at the scope is at the top level, so that a part does if its own first part does. -/
theorem startsAt_of_first (single : Uncut [] scope []) (uncut : Uncut [] part [])
    {blank rest : List Char} (shape : part = first ++ (blank ++ rest))
    (blanks : ∀ c ∈ blank, isBlank c = true) (behind : ∀ c ∈ rest.head?, c = ',')
    (starts : StartsAt scope first) : StartsAt scope part := by
  obtain ⟨own, rfl, next⟩ := starts
  refine ⟨own ++ (blank ++ rest), by rw [shape, List.append_assoc], fun c member => ?_⟩
  cases own with
  | cons d own => exact next c member
  | nil =>
    cases blank with
    | cons d blank =>
      obtain rfl := Option.some.inj member
      exact .inl (blanks d List.mem_cons_self)
    | nil =>
      cases rest with
      | nil => cases member
      | cons d rest =>
        obtain rfl := behind d rfl
        rw [shape, List.append_nil] at uncut
        obtain ⟨between, outer, inner⟩ := uncut.split
        obtain rfl := single.unique outer
        exact absurd rfl inner.comma.1

/-! ### What becomes of a part -/

/-- What is written before a part. -/
def lead (scope part : List Char) : List Char := if targets scope part then [] else scope ++ [' ']

/-- A text with one blank behind each comma, and no other white space around it. -/
def respaced (cs : List Char) : List Char := [',', ' '].intercalate (parts cs)

theorem anchor_eq_lead (scope part : List Char) : anchor scope part = lead scope part ++ part := by
  unfold anchor lead
  split
  · rfl
  · rw [List.append_assoc, List.singleton_append]

theorem uncut_lead (single : Uncut [] scope []) (part : List Char) :
    Uncut [] (lead scope part) [] := by
  unfold lead
  split
  · exact .nil []
  · exact single.append (uncut_of_blank Text.blank_of_space)

/-- The scope goes before the first piece of a part if at all, and then before the part as well. -/
def Led (scope part : List Char) : Prop :=
  ∃ (first : List Char) (others : List (List Char)), parts part = first :: others ∧
    (StartsAt scope part ↔ StartsAt scope first) ∧ ∀ own ∈ others, StartsAt scope own

/-- Nothing but its beginning and the blanks at its commas change in such a part. -/
theorem Led.confine_eq (led : Led scope part) :
    confine scope part = lead scope part ++ respaced part := by
  obtain ⟨first, others, shape, same, starts⟩ := led
  have kept : others.map (anchor scope) = others :=
    (List.map_congr_left fun own member => anchor_of_startsAt (starts own member)).trans
      (List.map_id others)
  have start : lead scope part = lead scope first :=
    if_congr (targets_iff.trans (same.trans targets_iff.symm)) rfl rfl
  rw [confine, respaced, shape, List.map_cons, kept, anchor_eq_lead, ← start,
    Text.intercalate_append_cons]

theorem Led.neat_confine (led : Led scope part)
    (begins : ∃ c name, scope = c :: name ∧ isBlank c = false) : Neat (confine scope part) := by
  obtain ⟨first, others, shape, -⟩ := led
  rw [confine, shape, List.map_cons]
  refine Neat.intercalate (fun anchored listed => ?_) _
  rw [← List.map_cons, ← shape] at listed
  obtain ⟨own, member, rfl⟩ := List.mem_map.1 listed
  exact neat_anchor begins (neat_of_mem_parts member)

/-- A list in a scope is made of its top parts in the scope. -/
theorem confine_eq_intercalate (balanced : Balanced selector) (scope : List Char) :
    confine scope selector = [',', ' '].intercalate ((topParts selector).map (confine scope)) := by
  rw [confine, parts_eq_flatMap, List.map_flatMap, Text.intercalate_flatMap]
  · rfl
  · intro part member
    obtain ⟨first, others, _, _, shape, -⟩ :=
      exists_first_part (neat_of_mem_topParts member) (balanced.uncut_of_mem member)
    simp [shape]

/-- Where something is open, pieces that are joined in another way close it as well. -/
theorem uncut_respaced_pieces (some : texts ≠ [])
    (uncut : Uncut before ([','].intercalate texts) [])
    (opened : before ≠ [] ∨ ∀ text ∈ texts.head?, strip text ≠ []) :
    trimmed texts ≠ [] ∧ Uncut before ([',', ' '].intercalate (trimmed texts)) [] := by
  induction texts generalizing before with
  | nil => exact absurd rfl some
  | cons text texts ih =>
    cases texts with
    | nil =>
      rw [List.intercalate_singleton] at uncut
      have filled : strip text ≠ [] := by
        rcases opened with opened | filled
        · intro empty
          exact opened ((uncut_of_blank (Text.strip_eq_nil_iff.1 empty)).unique uncut)
        · exact filled text rfl
      have alone : trimmed [text] = [strip text] := trimmed_cons filled
      rw [alone, List.intercalate_singleton]
      exact ⟨List.cons_ne_nil _ _, uncut.strip⟩
    | cons second texts =>
      rw [List.intercalate_cons_cons, List.append_assoc] at uncut
      obtain ⟨between, own, rest⟩ := uncut.split
      obtain ⟨inside, rest⟩ := rest.comma
      obtain ⟨some, later⟩ := ih (List.cons_ne_nil _ _) rest (.inl inside)
      by_cases empty : strip text = []
      · obtain rfl := (uncut_of_blank (Text.strip_eq_nil_iff.1 empty)).unique own
        rw [trimmed_cons_of_blank empty]
        exact ⟨some, later⟩
      · rw [trimmed_cons empty]
        refine ⟨List.cons_ne_nil _ _, ?_⟩
        obtain ⟨next, more, shape⟩ := List.exists_cons_of_ne_nil some
        rw [shape] at later ⊢
        rw [List.intercalate_cons_cons, List.append_assoc]
        have comma : Uncut between [',', ' '] between :=
          .cons (step_of_plain isPlain_comma) (fun _ => inside) (uncut_of_blank Text.blank_of_space)
        exact own.strip.append (comma.append later)

/-- The changes around commas leave a part uncut. -/
theorem uncut_respaced (neat : Neat part) (uncut : Uncut [] part []) : Uncut [] (respaced part) [] := by
  obtain ⟨piece, more, rest, shape, rfl, behind⟩ := Text.exists_first_piece ',' part
  obtain ⟨c, tail, rfl, filled⟩ := begins_of_first_piece neat uncut behind
  rw [← Text.intercalate_pieces ',' (c :: tail ++ rest)] at uncut
  refine (uncut_respaced_pieces (Text.pieces_ne_nil _ _) uncut (.inr fun text member => ?_)).2
  rw [shape] at member
  obtain rfl := Option.some.inj member
  exact Text.strip_ne_nil filled

/-! ### Parts that stay as they are -/

/-- Every comma in a part has no white space before it, one blank behind it and then a piece that starts
at the scope. -/
def Settled (scope part : List Char) : Prop :=
  ∃ (first : List Char) (others : List (List Char)),
    pieces ',' part = spaced first others ∧ Neat first ∧
      ∀ own ∈ others, Neat own ∧ StartsAt scope own

theorem settled_of_plain (neat : Neat part) (plain : ',' ∉ part) : Settled scope part :=
  ⟨part, [], Text.pieces_of_plain plain, neat, by simp⟩

theorem Settled.exists_parts (settled : Settled scope part) :
    ∃ first others, pieces ',' part = spaced first others ∧ parts part = first :: others ∧
      ∀ own ∈ others, StartsAt scope own := by
  obtain ⟨first, others, split, neat, starts⟩ := settled
  refine ⟨first, others, split, ?_, fun own member => (starts own member).2⟩
  rw [parts_eq_trimmed, split,
    trimmed_spaced (List.forall_mem_cons.2 ⟨neat, fun own member => (starts own member).1⟩)]

theorem Settled.respaced_eq (settled : Settled scope part) : respaced part = part := by
  obtain ⟨first, others, split, shape, -⟩ := settled.exists_parts
  rw [respaced, shape, intercalate_spaced, ← split, Text.intercalate_pieces]

theorem settled_of_respaced (shape : parts part = first :: others) (same : respaced part = part)
    (starts : ∀ own ∈ others, StartsAt scope own) : Settled scope part := by
  have neat : ∀ piece ∈ first :: others, Neat piece := fun _ member =>
    neat_of_mem_parts (shape ▸ member)
  refine ⟨first, others, ?_, neat first List.mem_cons_self, fun own member =>
    ⟨neat own (List.mem_cons_of_mem _ member), starts own member⟩⟩
  rw [← same, respaced, shape, pieces_spaced fun _ member => comma_not_mem_part (shape ▸ member)]

/-- A settled part starts at the scope exactly if its first piece does. -/
theorem Settled.led (settled : Settled scope part) (neat : Neat part) (single : Uncut [] scope [])
    (uncut : Uncut [] part []) : Led scope part := by
  obtain ⟨first, others, blank, rest, shape, whole, blanks, behind⟩ := exists_first_part neat uncut
  obtain ⟨piece, more, -, own, later⟩ := settled.exists_parts
  obtain ⟨rfl, rfl⟩ := List.cons.inj (shape.symm.trans own)
  refine ⟨first, others, shape, ⟨fun starts => ?_, startsAt_of_first single uncut whole blanks behind⟩,
    later⟩
  have same := settled.respaced_eq
  rw [respaced, shape] at same
  cases others with
  | nil => rwa [← same, List.intercalate_singleton] at starts
  | cons second others =>
    -- A piece without a comma starts at the scope, so that the scope has none.
    have commaless : ',' ∉ scope := by
      obtain ⟨tail, begins, -⟩ := later second List.mem_cons_self
      have member : second ∈ parts part := by rw [shape]; simp
      exact fun inside => comma_not_mem_part member (begins ▸ List.mem_append_left _ inside)
    obtain ⟨tail, begins, next⟩ := starts
    rw [List.intercalate_cons_cons, List.append_assoc] at same
    rw [← same] at begins
    rcases List.append_eq_append_iff.1 begins with ⟨excess, rfl, cut⟩ | ⟨excess, rfl, rfl⟩
    · cases excess with
      | nil => exact ⟨[], by simp, by simp⟩
      | cons d excess =>
        obtain rfl := (List.cons.inj cut).1
        exact absurd (List.mem_append_right _ List.mem_cons_self) commaless
    · refine ⟨excess, rfl, fun c member => ?_⟩
      cases excess with
      | nil => cases member
      | cons d excess => exact next c member

/-- A settled part becomes what a part without commas becomes. -/
theorem Settled.confine_eq (settled : Settled scope part) (neat : Neat part)
    (single : Uncut [] scope []) (uncut : Uncut [] part []) :
    confine scope part = anchor scope part := by
  rw [(settled.led neat single uncut).confine_eq, settled.respaced_eq, anchor_eq_lead]

/-! ### How much is written -/

/-- What does not change when blanks are moved around commas. -/
def isSolid (c : Char) : Bool := c != ',' && !isBlank c

/-- How much there is in a text but commas and white space. -/
def weight (cs : List Char) : Nat := cs.countP isSolid

theorem weight_append (front back : List Char) : weight (front ++ back) = weight front + weight back :=
  List.countP_append

theorem weight_of_blank (blank : ∀ c ∈ text, isBlank c = true) : weight text = 0 :=
  List.countP_eq_zero.2 fun c member => by simp [isSolid, blank c member]

theorem weight_strip (cs : List Char) : weight (strip cs) = weight cs := by
  obtain ⟨front, back, before, after, whole⟩ := Text.exists_strip cs
  conv_rhs => rw [whole]
  rw [weight_append, weight_append, weight_of_blank before, weight_of_blank after, Nat.zero_add,
    Nat.add_zero]

theorem weight_intercalate {sep : List Char} (light : weight sep = 0) (texts : List (List Char)) :
    weight (sep.intercalate texts) = weight texts.flatten := by
  induction texts with
  | nil => rfl
  | cons first texts ih =>
    cases texts with
    | nil => simp
    | cons second texts =>
      rw [List.intercalate_cons_cons, weight_append, weight_append, light, ih, Nat.add_zero,
        ← weight_append]
      rfl

/-- Nothing of weight goes with the white space and the blank texts. -/
theorem weight_trimmed (texts : List (List Char)) :
    weight (trimmed texts).flatten = weight texts.flatten := by
  induction texts with
  | nil => rfl
  | cons text texts ih =>
    rw [List.flatten_cons, weight_append, ← weight_strip text, ← ih]
    by_cases empty : strip text = []
    · rw [trimmed_cons_of_blank empty, empty]
      exact (Nat.zero_add _).symm
    · rw [trimmed_cons empty, List.flatten_cons, weight_append]

theorem weight_comma : weight [','] = 0 := by decide

theorem weight_parts (cs : List Char) : weight (parts cs).flatten = weight cs := by
  rw [parts_eq_trimmed, weight_trimmed, ← weight_intercalate weight_comma, Text.intercalate_pieces]

theorem weight_topParts (cs : List Char) : weight (topParts cs).flatten = weight cs := by
  rw [topParts, weight_trimmed, ← weight_intercalate weight_comma, intercalate_topPieces]

theorem weight_flatten_le {f g : List Char → List Char}
    (le : ∀ text ∈ texts, weight (f text) ≤ weight (g text)) :
    weight (texts.map f).flatten ≤ weight (texts.map g).flatten := by
  induction texts with
  | nil => exact Nat.le_refl _
  | cons text texts ih =>
    simp only [List.map_cons, List.flatten_cons, weight_append]
    exact Nat.add_le_add (le text List.mem_cons_self)
      (ih fun other member => le other (List.mem_cons_of_mem _ member))

/-- Where no text loses weight and all of them together gain none, none of them gains any. -/
theorem weight_eq_of_flatten {f g : List Char → List Char}
    (le : ∀ text ∈ texts, weight (f text) ≤ weight (g text))
    (same : weight (texts.map f).flatten = weight (texts.map g).flatten) :
    ∀ text ∈ texts, weight (f text) = weight (g text) := by
  induction texts with
  | nil => simp
  | cons text texts ih =>
    have own := le text List.mem_cons_self
    replace le := fun other member => le other (List.mem_cons_of_mem _ member)
    have rest := weight_flatten_le le
    simp only [List.map_cons, List.flatten_cons, weight_append] at same
    exact List.forall_mem_cons.2 ⟨by omega, ih le (by omega)⟩

/-- A selector does not begin with a comma that separates. -/
theorem weight_pos (begins : ∃ c name, scope = c :: name ∧ isBlank c = false)
    (single : Uncut [] scope []) : 0 < weight scope := by
  obtain ⟨c, name, rfl, filled⟩ := begins
  have other : c ≠ ',' := by
    rintro rfl
    exact single.comma.1 rfl
  rw [weight, List.countP_cons_of_pos (by simp [isSolid, other, filled])]
  exact Nat.succ_pos _

theorem weight_anchor (scope part : List Char) :
    weight (anchor scope part) = weight part + if targets scope part then 0 else weight scope := by
  unfold anchor
  split
  · rfl
  · rw [weight_append, Nat.add_comm]
    congr 1

/-- A list in a scope has the weight of the scope more for each of its parts that is elsewhere. -/
theorem weight_confine (scope cs : List Char) :
    weight (confine scope cs) =
      weight cs + (parts cs).countP (!targets scope ·) * weight scope := by
  rw [confine, weight_intercalate (by decide), ← weight_parts cs]
  generalize parts cs = texts
  induction texts with
  | nil => simp
  | cons text texts ih =>
    simp only [List.map_cons, List.flatten_cons, weight_append, ih, weight_anchor, List.countP_cons]
    by_cases target : targets scope text
    · simp only [target, if_true, Bool.not_true, Bool.false_eq_true, if_false, Nat.add_zero]
      omega
    · simp only [target, Bool.false_eq_true, if_false, Bool.not_false, if_true, Nat.add_mul,
        Nat.one_mul]
      omega

/-- The scope is written into a part at least as often as before it. -/
theorem weight_anchor_le (neat : Neat part) (single : Uncut [] scope [])
    (uncut : Uncut [] part []) : weight (anchor scope part) ≤ weight (confine scope part) := by
  obtain ⟨first, others, blank, rest, shape, whole, blanks, behind⟩ := exists_first_part neat uncut
  have starts : StartsAt scope first → StartsAt scope part :=
    startsAt_of_first single uncut whole blanks behind
  rw [← targets_iff, ← targets_iff] at starts
  rw [weight_anchor, weight_confine, shape, List.countP_cons]
  by_cases target : targets scope part
  · simp [target]
  · simp [target, mt starts target, Nat.add_mul]

/-- If it is written no more often, then only before the part. -/
theorem led_of_weight_eq (neat : Neat part) (single : Uncut [] scope []) (uncut : Uncut [] part [])
    (heavy : 0 < weight scope)
    (same : weight (anchor scope part) = weight (confine scope part)) : Led scope part := by
  obtain ⟨first, others, blank, rest, shape, whole, blanks, behind⟩ := exists_first_part neat uncut
  have starts : StartsAt scope first → StartsAt scope part :=
    startsAt_of_first single uncut whole blanks behind
  rw [← targets_iff, ← targets_iff] at starts
  rw [weight_anchor, weight_confine, shape, List.countP_cons, Nat.add_left_cancel_iff] at same
  have once : others.countP (!targets scope ·) + (if !targets scope first then 1 else 0) =
      if targets scope part then 0 else 1 := by
    refine Nat.eq_of_mul_eq_mul_right heavy (same.symm.trans ?_)
    split <;> simp
  have none : (targets scope part ↔ targets scope first) ∧
      others.countP (!targets scope ·) = 0 := by
    by_cases target : targets scope part <;> by_cases own : targets scope first
    · simpa [target, own] using once
    · simp [target, own] at once
    · exact absurd (starts own) target
    · simpa [target, own] using once
  refine ⟨first, others, shape, by rw [← targets_iff, ← targets_iff, none.1],
    fun own member => ?_⟩
  have kept := List.countP_eq_zero.1 none.2 own member
  exact targets_iff.1 (by simpa using kept)

/-! ### Lists -/

theorem anchored_iff {anchored : List Char} :
    Anchored scope part anchored ↔ anchor scope part = anchored := by
  constructor
  · intro given
    by_cases starts : StartsAt scope part
    · rw [given.kept starts, anchor_of_startsAt starts]
    · rw [given.moved starts, anchor_of_not starts]
  · rintro rfl
    exact anchored_anchor scope part

theorem forall₂_anchored_iff {anchored : List (List Char)} :
    List.Forall₂ (Anchored scope) texts anchored ↔ texts.map (anchor scope) = anchored := by
  have same : Anchored scope = fun part anchored => anchor scope part = anchored :=
    funext₂ fun _ _ => propext anchored_iff
  rw [same, ← List.forall₂_map_left_iff, List.forall₂_eq_eq_eq]

/-- Within a scope that is one selector, the top parts of a balanced list are each kept, and the scope
stands before those that do not start at it, exactly if every comma inside brackets or quotes is settled.
-/
theorem confine_intact_iff (begins : ∃ c name, scope = c :: name ∧ isBlank c = false)
    (closed : Balanced scope) (single : topPieces [] scope = [scope]) (balanced : Balanced selector) :
    List.Forall₂ (Anchored scope) (topParts selector) (topParts (confine scope selector)) ↔
      ∀ part ∈ topParts selector, Settled scope part := by
  have one := closed.uncut_of_single single
  have neat : ∀ part ∈ topParts selector, Neat part := fun _ => neat_of_mem_topParts
  have uncut : ∀ part ∈ topParts selector, Uncut [] part [] := fun _ => balanced.uncut_of_mem
  rw [forall₂_anchored_iff, confine_eq_intercalate balanced]
  constructor
  · intro same
    -- The scope is not written anywhere but before the parts, for nothing else takes its weight away.
    have weights : weight ((topParts selector).map (anchor scope)).flatten =
        weight ((topParts selector).map (confine scope)).flatten := by
      rw [same, weight_topParts, weight_intercalate (by decide)]
    have heavy := weight_pos begins one
    have le : ∀ part ∈ topParts selector,
        weight (anchor scope part) ≤ weight (confine scope part) := fun part member =>
      weight_anchor_le (neat part member) one (uncut part member)
    have led : ∀ part ∈ topParts selector, Led scope part := fun part member =>
      led_of_weight_eq (neat part member) one (uncut part member) heavy
        (weight_eq_of_flatten le weights part member)
    have found : topParts ([',', ' '].intercalate ((topParts selector).map (confine scope))) =
        (topParts selector).map (confine scope) := by
      refine topParts_intercalate (fun confined listed => ?_) fun confined listed => ?_
      · obtain ⟨part, member, rfl⟩ := List.mem_map.1 listed
        exact (led part member).neat_confine begins
      · obtain ⟨part, member, rfl⟩ := List.mem_map.1 listed
        rw [(led part member).confine_eq]
        exact (uncut_lead one part).append (uncut_respaced (neat part member) (uncut part member))
    intro part member
    have own := List.map_inj_left.1 (same.trans found) part member
    rw [anchor_eq_lead, (led part member).confine_eq] at own
    obtain ⟨first, others, shape, -, starts⟩ := led part member
    exact settled_of_respaced shape (List.append_cancel_left own).symm starts
  · intro settled
    have each : (topParts selector).map (confine scope) = (topParts selector).map (anchor scope) :=
      List.map_congr_left fun part member =>
        (settled part member).confine_eq (neat part member) one (uncut part member)
    rw [each, topParts_intercalate]
    · intro anchored listed
      obtain ⟨part, member, rfl⟩ := List.mem_map.1 listed
      exact neat_anchor begins (neat part member)
    · intro anchored listed
      obtain ⟨part, member, rfl⟩ := List.mem_map.1 listed
      rw [anchor_eq_lead]
      exact (uncut_lead one part).append (uncut part member)

/-- A list with a comma inside brackets that is settled, and an empty piece. -/
theorem confine_intact_nested :
    let scope := ".w".toList
    let selector := ".w:is(h1, .w h2),, [title=\"x;y\"]".toList
    (∃ c name, scope = c :: name ∧ isBlank c = false) ∧ Balanced scope ∧
      topPieces [] scope = [scope] ∧ Balanced selector ∧
      (∀ part ∈ topParts selector, Settled scope part) ∧
      List.Forall₂ (Anchored scope) (topParts selector)
        [".w:is(h1, .w h2)".toList, ".w [title=\"x;y\"]".toList] := by
  intro scope selector
  have begins : ∃ c name, scope = c :: name ∧ isBlank c = false :=
    ⟨'.', ['w'], by decide, by decide⟩
  have closed : Balanced scope := by decide
  have single : topPieces [] scope = [scope] := by decide
  have balanced : Balanced selector := by decide +kernel
  have listed : topParts selector = [".w:is(h1, .w h2)".toList, "[title=\"x;y\"]".toList] := by
    decide +kernel
  have settled : ∀ part ∈ topParts selector, Settled scope part := by
    rw [listed]
    refine List.forall_mem_cons.2 ⟨?_, List.forall_mem_cons.2 ⟨?_, by simp⟩⟩
    · have shape : parts ".w:is(h1, .w h2)".toList = [".w:is(h1".toList, ".w h2)".toList] := by
        decide +kernel
      refine settled_of_respaced shape (by decide +kernel) fun own member => ?_
      rw [List.mem_singleton.1 member]
      exact targets_iff.1 (by decide)
    · have member : "[title=\"x;y\"]".toList ∈ topParts selector := by
        rw [listed]
        simp
      exact settled_of_plain (neat_of_mem_topParts member) (by decide +kernel)
  have found : topParts (confine scope selector) =
      [".w:is(h1, .w h2)".toList, ".w [title=\"x;y\"]".toList] := by decide +kernel
  refine ⟨begins, closed, single, balanced, settled, ?_⟩
  rw [← found]
  exact (confine_intact_iff begins closed single balanced).2 settled

/-- A comma in a quoted value: the scope is written into the value. -/
theorem confine_breaks_quoted :
    let scope := ".w".toList
    let selector := "[title=\"a,b\"]".toList
    Balanced selector ∧ topParts selector = [selector] ∧
      confine scope selector = ".w [title=\"a, .w b\"]".toList ∧
      ¬ List.Forall₂ (Anchored scope) (topParts selector) (topParts (confine scope selector)) := by
  intro scope selector
  refine ⟨by decide +kernel, by decide +kernel, by decide +kernel, ?_⟩
  rw [forall₂_anchored_iff]
  decide +kernel

end PagePress.Selector
