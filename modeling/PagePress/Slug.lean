import PagePress.Text.Alphanumeric
import PagePress.Text.LowerCase

/-!
# Heading identifiers

An identifier is made from the letters and digits of a text, with one hyphen for everything that
stands between them. Within a document the second use of an identifier gets a number, and so on.
-/
namespace PagePress

namespace Slug

/-- The identifier so far, last character first, and whether a hyphen is due. -/
structure Builder where
  out : List Char := []
  gap : Bool := false

def Builder.add (b : Builder) (c : Char) : Builder :=
  if Text.isAlphanumeric c then
    let out := if b.gap && !b.out.isEmpty then '-' :: b.out else b.out
    ⟨(Text.lowerCase c).reverse ++ out, false⟩
  else { b with gap := true }

/-- The identifier of a text without letters and digits. -/
def empty : String := "section"

/-- The identifier of a text: its letters and digits in lower case, their runs joined by hyphens. -/
def ofText (text : String) : String :=
  let b := text.toList.foldl Builder.add {}
  if b.out.isEmpty then empty else String.ofList b.out.reverse

/-- The `n`-th choice for an identifier: the base itself, then the base with a number. -/
def candidate (base : String) (n : Nat) : String :=
  if n = 0 then base else base ++ "-" ++ toString n

end Slug

/-- The identifiers given out in a document, the last one first, and for each base the number of
the choice to try next. -/
structure Slugger where
  assigned : List String := []
  counters : List (String × Nat) := []

namespace Slugger

def counter (s : Slugger) (base : String) : Nat := (s.counters.lookup base).getD 0

/-- The first number from `n` on whose choice has not been given out; at most `fuel` choices are
passed over. -/
def search (s : Slugger) (base : String) : Nat → Nat → Nat
  | 0, n => n
  | fuel + 1, n =>
    if s.assigned.contains (Slug.candidate base n) then search s base fuel (n + 1) else n

/-- A new identifier for a text. One choice more than there are identifiers is enough to find one
that is free. -/
def next (s : Slugger) (text : String) : String × Slugger :=
  let base := Slug.ofText text
  let n := s.search base s.assigned.length (s.counter base)
  let id := Slug.candidate base n
  (id, ⟨id :: s.assigned, (base, n + 1) :: s.counters.filter (·.1 != base)⟩)

/-- The identifiers of several texts in turn. -/
def all (texts : List String) : List String :=
  go {} texts
where
  go (s : Slugger) : List String → List String
    | [] => []
    | t :: rest =>
      let (id, s) := s.next t
      id :: go s rest

end Slugger

end PagePress
