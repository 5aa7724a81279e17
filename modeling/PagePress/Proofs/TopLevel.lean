import PagePress.Proofs.Splitting
import PagePress.Proofs.Trimming

/-!
# Commas at the top level

Inside brackets and quotes a comma separates nothing. A text is balanced if all brackets and quotes in
it are closed, each before those around it; its top pieces are what stands between the commas that are
inside none of them. A backslash is a character like others here.
-/
namespace PagePress.Selector

/-- What can stand around a comma so that it separates nothing. -/
inductive Enclosure where
  | round
  | square
  | single
  | double
  deriving DecidableEq, Repr

namespace Enclosure

def opening : Enclosure → Char
  | round => '('
  | square => '['
  | single => '\x27'
  | double => '\x22'

def closing : Enclosure → Char
  | round => ')'
  | square => ']'
  | single => '\x27'
  | double => '\x22'

/-- In quotes nothing counts but their end. -/
def isQuote : Enclosure → Bool
  | round | square => false
  | single | double => true

/-- What a character opens. -/
def ofOpening? (c : Char) : Option Enclosure :=
  [round, square, single, double].find? (·.opening == c)

end Enclosure

/-- What is open after a character outside quotes that closes nothing, the innermost first. A bracket
that could close something else is an error. -/
def open? (around : List Enclosure) (c : Char) : Option (List Enclosure) :=
  match Enclosure.ofOpening? c with
  | some enclosure => some (enclosure :: around)
  | none => if c = ')' ∨ c = ']' then none else some around

/-- What is open after one more character. -/
def step : List Enclosure → Char → Option (List Enclosure)
  | [], c => open? [] c
  | inner :: outer, c =>
    if c = inner.closing then some outer
    else if inner.isQuote then some (inner :: outer)
    else open? (inner :: outer) c

/-- What is open at the end of a text. -/
def openAtEnd (around : List Enclosure) (cs : List Char) : Option (List Enclosure) :=
  cs.foldlM step around

/-- All that is opened is closed, and nothing else is. -/
def Balanced (cs : List Char) : Prop := openAtEnd [] cs = some []

instance (cs : List Char) : Decidable (Balanced cs) :=
  inferInstanceAs (Decidable (openAtEnd [] cs = some []))

/-- The pieces of a text between the commas at which nothing is open. -/
def topPieces : List Enclosure → List Char → List (List Char)
  | _, [] => [[]]
  | around, c :: rest =>
    if c = ',' ∧ around = [] then [] :: topPieces [] rest
    else
      match topPieces ((step around c).getD around) rest with
      | [] => [[c]]
      | piece :: more => (c :: piece) :: more

/-- A text with no comma at which nothing is open, by what is open before it and after it. -/
inductive Uncut : List Enclosure → List Char → List Enclosure → Prop where
  | nil (around : List Enclosure) : Uncut around [] around
  | cons {before between after : List Enclosure} {c : Char} {cs : List Char}
      (stepped : step before c = some between) (inside : c = ',' → before ≠ [])
      (rest : Uncut between cs after) : Uncut before (c :: cs) after

variable {around before between after : List Enclosure} {cs front back text : List Char} {c : Char}

/-- A character that neither opens nor closes anything. -/
def IsPlain (c : Char) : Prop := c ∉ ['(', ')', '[', ']', '\x27', '\x22']

theorem step_of_plain (plain : IsPlain c) : step around c = some around := by
  obtain ⟨hr, hr', hs, hs', h1, h2⟩ : c ≠ '(' ∧ c ≠ ')' ∧ c ≠ '[' ∧ c ≠ ']' ∧ c ≠ '\x27' ∧
      c ≠ '\x22' := by simpa [IsPlain] using plain
  have passed : open? around c = some around := by
    have nothing : Enclosure.ofOpening? c = none := by
      simp [Enclosure.ofOpening?, Enclosure.opening, Ne.symm hr, Ne.symm hs, Ne.symm h1, Ne.symm h2]
    rw [open?, nothing, if_neg (not_or.2 ⟨hr', hs'⟩)]
  cases around with
  | nil => exact passed
  | cons inner outer =>
    have other : c ≠ inner.closing := by cases inner <;> assumption
    rw [step, if_neg other, passed, ite_self]

theorem isPlain_comma : IsPlain ',' := by unfold IsPlain; decide

theorem isPlain_of_blank (blank : Text.isBlank c = true) : IsPlain c := by
  have filled : ['(', ')', '[', ']', '\x27', '\x22'].all (!Text.isBlank ·) := by decide
  intro member
  have other := List.all_eq_true.1 filled c member
  rw [blank] at other
  cases other

theorem topPieces_ne_nil (around : List Enclosure) (cs : List Char) : topPieces around cs ≠ [] := by
  cases cs with
  | nil => exact List.cons_ne_nil _ _
  | cons c rest =>
    unfold topPieces
    split
    · exact List.cons_ne_nil _ _
    · split <;> exact List.cons_ne_nil _ _

theorem intercalate_topPieces (around : List Enclosure) (cs : List Char) :
    [','].intercalate (topPieces around cs) = cs := by
  fun_induction topPieces around cs with
  | case1 => rfl
  | case2 around c rest here ih =>
    obtain ⟨first, more, shape⟩ := List.exists_cons_of_ne_nil (topPieces_ne_nil [] rest)
    rw [shape, List.intercalate_cons_cons, ← shape, ih, here.1]
    rfl
  | case3 around c rest _ none => exact absurd none (topPieces_ne_nil _ rest)
  | case4 around c rest _ first more shape ih =>
    rw [shape] at ih
    exact (Text.intercalate_append_cons [','] [c] first more).trans (congrArg (c :: ·) ih)

/-! ### Texts that are not cut -/

theorem Uncut.append (first : Uncut before front between) (last : Uncut between back after) :
    Uncut before (front ++ back) after := by
  induction first with
  | nil => exact last
  | cons stepped inside _ ih => exact .cons stepped inside (ih last)

theorem Uncut.split (whole : Uncut before (front ++ back) after) :
    ∃ between, Uncut before front between ∧ Uncut between back after := by
  induction front generalizing before with
  | nil => exact ⟨before, .nil before, whole⟩
  | cons c front ih =>
    cases whole with
    | cons stepped inside rest =>
      obtain ⟨between, first, last⟩ := ih rest
      exact ⟨between, .cons stepped inside first, last⟩

theorem Uncut.openAtEnd_eq (uncut : Uncut before text after) :
    openAtEnd before text = some after := by
  induction uncut with
  | nil => rfl
  | cons stepped _ _ ih => rw [openAtEnd, List.foldlM_cons, stepped]; exact ih

theorem Uncut.unique {other : List Enclosure} (one : Uncut before text after)
    (same : Uncut before text other) : after = other :=
  Option.some.inj (one.openAtEnd_eq.symm.trans same.openAtEnd_eq)

/-- Where a comma follows that does not separate, something is open. -/
theorem Uncut.comma (uncut : Uncut before (',' :: text) after) :
    before ≠ [] ∧ Uncut before text after := by
  cases uncut with
  | cons stepped inside rest =>
    rw [step_of_plain isPlain_comma] at stepped
    obtain rfl := Option.some.inj stepped
    exact ⟨inside rfl, rest⟩

theorem uncut_of_plain (plain : ∀ c ∈ text, IsPlain c ∧ (c = ',' → around ≠ [])) :
    Uncut around text around := by
  induction text with
  | nil => exact .nil around
  | cons c text ih =>
    obtain ⟨own, inside⟩ := plain c List.mem_cons_self
    exact .cons (step_of_plain own) inside (ih fun d member => plain d (List.mem_cons_of_mem _ member))

theorem uncut_of_blank (blank : ∀ c ∈ text, Text.isBlank c = true) : Uncut around text around := by
  refine uncut_of_plain fun c member => ⟨isPlain_of_blank (blank c member), ?_⟩
  rintro rfl
  exact absurd (blank ',' member) (by decide)

/-- A text that is not cut stands at the front of the first piece. -/
theorem Uncut.topPieces_append (uncut : Uncut before front after) (back : List Char) :
    topPieces before (front ++ back) = (topPieces after back).modifyHead (front ++ ·) := by
  induction uncut with
  | nil around =>
    obtain ⟨first, more, shape⟩ := List.exists_cons_of_ne_nil (topPieces_ne_nil around back)
    rw [List.nil_append, shape, List.modifyHead_cons, List.nil_append]
  | cons stepped inside _ ih =>
    rw [List.cons_append, topPieces, if_neg fun cut => inside cut.1 cut.2, stepped, Option.getD_some,
      ih]
    obtain ⟨first, more, shape⟩ := List.exists_cons_of_ne_nil (topPieces_ne_nil _ back)
    rw [shape]
    rfl

theorem Uncut.topPieces_eq (uncut : Uncut before text after) : topPieces before text = [text] := by
  have whole := uncut.topPieces_append []
  simpa [topPieces] using whole

theorem Uncut.topPieces_comma (uncut : Uncut before front []) (back : List Char) :
    topPieces before (front ++ ',' :: back) = front :: topPieces [] back := by
  rw [uncut.topPieces_append, topPieces, if_pos ⟨rfl, rfl⟩, List.modifyHead_cons, List.append_nil]

/-- Pieces that are not cut are found again between the commas that join them. -/
theorem topPieces_intercalate {texts : List (List Char)} (some : texts ≠ [])
    (uncut : ∀ text ∈ texts, Uncut [] text []) :
    topPieces [] ([','].intercalate texts) = texts := by
  induction texts with
  | nil => exact absurd rfl some
  | cons first texts ih =>
    have own := uncut first List.mem_cons_self
    cases texts with
    | nil => rw [List.intercalate_singleton, own.topPieces_eq]
    | cons second texts =>
      rw [List.intercalate_cons_cons, List.append_assoc, List.singleton_append, own.topPieces_comma,
        ih (List.cons_ne_nil _ _) fun text member => uncut text (List.mem_cons_of_mem _ member)]

/-- No piece of a text that closes all that is open is cut itself. -/
theorem uncut_of_topPieces (closed : openAtEnd around cs = some []) :
    ∃ first more, topPieces around cs = first :: more ∧ Uncut around first [] ∧
      ∀ piece ∈ more, Uncut [] piece [] := by
  induction cs generalizing around with
  | nil =>
    obtain rfl := Option.some.inj closed
    exact ⟨[], [], rfl, .nil [], by simp⟩
  | cons c rest ih =>
    rw [openAtEnd, List.foldlM_cons] at closed
    obtain ⟨between, stepped, closed⟩ := Option.bind_eq_some_iff.1 closed
    obtain ⟨first, more, shape, own, others⟩ := ih closed
    by_cases cut : c = ',' ∧ around = []
    · obtain ⟨rfl, rfl⟩ := cut
      obtain rfl := Option.some.inj ((step_of_plain isPlain_comma).symm.trans stepped)
      refine ⟨[], topPieces [] rest, by rw [topPieces, if_pos ⟨rfl, rfl⟩], .nil [], ?_⟩
      rw [shape]
      exact List.forall_mem_cons.2 ⟨own, others⟩
    · refine ⟨c :: first, more, ?_, .cons stepped (fun comma none => cut ⟨comma, none⟩) own, others⟩
      rw [topPieces, if_neg cut, stepped, Option.getD_some, shape]

theorem Balanced.uncut (balanced : Balanced cs) {piece : List Char}
    (member : piece ∈ topPieces [] cs) : Uncut [] piece [] := by
  obtain ⟨first, more, shape, own, others⟩ := uncut_of_topPieces balanced
  rw [shape] at member
  rcases List.mem_cons.1 member with rfl | later
  · exact own
  · exact others piece later

/-- One balanced selector is a text that is not cut. -/
theorem Balanced.uncut_of_single (balanced : Balanced cs) (single : topPieces [] cs = [cs]) :
    Uncut [] cs [] :=
  balanced.uncut (single ▸ List.mem_cons_self)

end PagePress.Selector
