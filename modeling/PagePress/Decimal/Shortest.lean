/-!
# Shortest decimals

The shortest decimal that stands for a given floating-point number: of all decimals between the
midpoints to its two neighbours those with the fewest digits, and of these the nearest.
-/
namespace PagePress

/-- A decimal `digits * 10 ^ exponent`. -/
structure Decimal where
  digits : Nat
  exponent : Int

namespace Decimal

/-- A positive number `value / unit` and the ends of the interval of reals that are rounded to it,
in the same unit. The ends belong to the interval if it is closed. -/
structure Rounding where
  low : Nat
  value : Nat
  high : Nat
  unit : Nat
  closed : Bool

/-- The interval of a positive finite number. Below a power of two the neighbour is only half as
far away. -/
def Rounding.ofBits (bits : Nat) : Rounding :=
  let exponent := bits / Nat.pow 2 52 % Nat.pow 2 11
  let fraction := bits % Nat.pow 2 52
  let mantissa := if exponent = 0 then fraction else fraction + Nat.pow 2 52
  let below := if fraction = 0 ∧ 1 < exponent then 1 else 2
  let scale := max exponent 1
  -- The number is `4 * mantissa * 2 ^ (scale - 1077)`.
  let factor := Nat.pow 2 (scale - 1077)
  ⟨(4 * mantissa - below) * factor, 4 * mantissa * factor, (4 * mantissa + 2) * factor,
    Nat.pow 2 (1077 - scale), mantissa % 2 = 0⟩

namespace Rounding

/-- A decimal in the unit of the interval, and the denominator that remains. -/
def scaled (r : Rounding) (d : Decimal) : Nat × Nat :=
  match d.exponent with
  | .ofNat e => (d.digits * Nat.pow 10 e * r.unit, 1)
  | .negSucc e => (d.digits * r.unit, Nat.pow 10 (e + 1))

/-- Whether a decimal is rounded to the number. -/
def contains (r : Rounding) (d : Decimal) : Bool :=
  let (n, den) := r.scaled d
  if r.closed then r.low * den ≤ n && n ≤ r.high * den
  else r.low * den < n && n < r.high * den

/-- Twice the distance of a decimal from the number, in a unit that hangs on the exponent alone. -/
def distance (r : Rounding) (d : Decimal) : Nat :=
  let (n, den) := r.scaled d
  (n - r.value * den) + (r.value * den - n)

/-- The exponent of the highest decimal digit. `fuel` bounds how far below one it is searched. -/
def leading (r : Rounding) (fuel : Nat) : Int :=
  if r.unit ≤ r.value then Int.ofNat ((Nat.toDigits 10 (r.value / r.unit)).length - 1)
  else go fuel 1
where
  go : Nat → Nat → Int
    | 0, k => -(k : Int)
    | fuel + 1, k => if r.unit ≤ r.value * Nat.pow 10 k then -(k : Int) else go fuel (k + 1)

/-- The greatest decimal with the given exponent that is not above the number. -/
def floorAt (r : Rounding) (exponent : Int) : Decimal :=
  match exponent with
  | .ofNat e => ⟨r.value / (r.unit * Nat.pow 10 e), exponent⟩
  | .negSucc e => ⟨r.value * Nat.pow 10 (e + 1) / r.unit, exponent⟩

/-- The decimal on a grid that stands for the number, if there is one: the nearer of the two beside
it, and of two as near the even one. -/
def onGrid? (r : Rounding) (exponent : Int) : Option Decimal :=
  let below := r.floorAt exponent
  let above : Decimal := { below with digits := below.digits + 1 }
  match r.contains below, r.contains above with
  | true, true =>
    let (a, b) := (r.distance below, r.distance above)
    if a < b ∨ (a = b ∧ below.digits % 2 = 0) then some below else some above
  | true, false => some below
  | false, true => some above
  | false, false => none

/-- The first grid on which the number has a decimal, from coarse to fine. Seventeen digits are
always enough. -/
def shortest (r : Rounding) : Decimal :=
  let top := r.leading 400
  let grids := (List.range 17).map fun (n : Nat) => top - n
  (grids.findSome? r.onGrid?).getD (r.floorAt (top - 16))

end Rounding

/-- A whole number without the zeros at its end, and how many those are. -/
def dropZeros : Nat → Nat → Nat × Nat
  | 0, n => (n, 0)
  | fuel + 1, n =>
    if n ≠ 0 ∧ n % 10 = 0 then
      let (m, k) := dropZeros fuel (n / 10)
      (m, k + 1)
    else (n, 0)

def zeros (n : Nat) : String := "".pushn '0' n

/-- How a positive decimal is written: with a point if its highest digit stands between the fifth
place after the point and the sixteenth before it, else with an exponent that has a sign. -/
def text (d : Decimal) : String :=
  let (digits, dropped) := dropZeros 400 d.digits
  let text := toString digits
  let exponent := d.exponent + dropped + (text.length - 1 : Nat)
  match exponent with
  | .ofNat e =>
    if 15 < e then mantissa text ++ "e+" ++ toString e
    else if text.length ≤ e + 1 then text ++ zeros (e + 1 - text.length) ++ ".0"
    else
      String.ofList (text.toList.take (e + 1)) ++ "." ++ String.ofList (text.toList.drop (e + 1))
  | .negSucc e =>
    if 4 < e then mantissa text ++ "e-" ++ toString (e + 1)
    else "0." ++ zeros e ++ text
where
  mantissa (text : String) : String :=
    match text.toList with
    | [] | [_] => text
    | c :: rest => String.ofList (c :: '.' :: rest)

/-- The shortest text that is read as a finite number again. -/
def ofFloat (x : Float) : String :=
  let bits := x.toBits.toNat
  let magnitude := bits % Nat.pow 2 63
  let text := if magnitude = 0 then "0.0" else (Rounding.ofBits magnitude).shortest.text
  if bits = magnitude then text else "-" ++ text

end Decimal

end PagePress
