/-!
# Tables of code points

Two shapes of table: a set of code points as ranges, and a case mapping as runs. The data of each
property stands in a module named for the property; this module only looks things up.
-/
namespace PagePress.Text

/-- A set of code points, as ascending and disjoint inclusive ranges. -/
structure CodeSet where
  ranges : Array (Nat × Nat)

namespace CodeSet

/-- Binary search between the indices `low` and `high`; each round halves the gap, so the number
of ranges is more than enough fuel. -/
def search (ranges : Array (Nat × Nat)) (n : Nat) : Nat → Nat → Nat → Bool
  | 0, _, _ => false
  | fuel + 1, low, high =>
    if low < high then
      let middle := (low + high) / 2
      match ranges[middle]? with
      | none => false
      | some (first, last) =>
        if n < first then search ranges n fuel low middle
        else if last < n then search ranges n fuel (middle + 1) high
        else true
    else false

def contains (set : CodeSet) (c : Char) : Bool :=
  search set.ranges c.toNat (set.ranges.size + 1) 0 set.ranges.size

end CodeSet

/-- Code points `first`, `first + step`, … up to `last`, each mapped to the point as far after
`target` as it is after `first`. -/
structure CaseRun where
  first : Nat
  last : Nat
  step : Nat
  target : Nat

def CaseRun.covers (run : CaseRun) (n : Nat) : Bool :=
  run.first ≤ n && n ≤ run.last && (n - run.first) % run.step == 0

def CaseRun.apply (run : CaseRun) (n : Nat) : Char :=
  Char.ofNat (run.target + (n - run.first))

/-- A case mapping: runs of single replacements, and points that become several characters. -/
structure CaseMap where
  runs : List CaseRun
  expansions : List (Nat × List Nat)

/-- The replacement of a character; a character that the mapping does not name stays itself. -/
def CaseMap.apply (map : CaseMap) (c : Char) : List Char :=
  match map.runs.find? (·.covers c.toNat) with
  | some run => [run.apply c.toNat]
  | none =>
    match map.expansions.lookup c.toNat with
    | some points => points.map Char.ofNat
    | none => [c]

end PagePress.Text
