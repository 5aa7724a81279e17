import PagePress.Decimal.Shortest
import PagePress.Json.Cursor
import PagePress.Text.Quoted

/-!
# Words, strings and numbers in JSON

Readers for the values without parts, each from its first character on. A number that is too large
for 64 bits, or that is written with a point or an exponent, is a floating-point number.
-/
namespace PagePress.Json

/-- Goes over the letters of a word. -/
def word : List Char → Cursor → Except Failure Cursor
  | [], c => .ok c
  | x :: letters, c =>
    match c.rest with
    | [] => c.fail .endInValue
    | y :: _ => if y == x then word letters c.advance else c.failAhead .expectedWord

/-! ### Strings -/

def hexValue? (c : Char) : Option Nat :=
  if '0' ≤ c && c ≤ '9' then some (c.toNat - '0'.toNat)
  else if 'a' ≤ c && c ≤ 'f' then some (c.toNat - 'a'.toNat + 10)
  else if 'A' ≤ c && c ≤ 'F' then some (c.toNat - 'A'.toNat + 10)
  else none

/-- The number of four hexadecimal digits. -/
def hexFour? : List Char → Option Nat
  | a :: b :: c :: d :: _ => do
    let high := (← hexValue? a) * 16 + (← hexValue? b)
    let low := (← hexValue? c) * 16 + (← hexValue? d)
    return high * 256 + low
  | _ => none

/-- Reads four hexadecimal digits. What stands there instead is gone over before it is refused. -/
def hexFour (c : Cursor) : Except Failure (Nat × Cursor) :=
  match hexFour? c.rest with
  | some n => .ok (n, c.advance.advance.advance.advance)
  | none =>
    let size := (String.ofList c.rest).utf8ByteSize
    if size < 4 then .error ⟨.endInString, c.position.skipBytes size c.rest⟩
    else .error ⟨.invalidEscape, c.position.skipBytes 4 c.rest⟩

/-- Goes over a character that must follow the first half of a surrogate pair. -/
def pairMark (x : Char) (c : Cursor) : Except Failure Cursor :=
  match c.rest with
  | [] => c.fail .endInString
  | y :: _ => if y == x then .ok c.advance else c.failAhead .unfinishedSurrogate

/-- The character of an escape with four digits; two escapes may stand for one character. -/
def unicodeEscape (c : Cursor) : Except Failure (Char × Cursor) := do
  let (high, c) ← hexFour c
  if 0xDC00 ≤ high && high ≤ 0xDFFF then c.fail .loneSurrogate
  else if high < 0xD800 || 0xDBFF < high then return (Char.ofNat high, c)
  else
    let c ← pairMark '\\' c
    let c ← pairMark 'u' c
    let (low, c) ← hexFour c
    if low < 0xDC00 || 0xDFFF < low then c.fail .loneSurrogate
    else return (Char.ofNat ((high - 0xD800) * 0x400 + (low - 0xDC00) + 0x10000), c)

/-- The character that an escape without digits stands for. -/
def simpleEscape? : Char → Option Char
  | '\x22' => some '\x22'
  | '\\' => some '\\'
  | '/' => some '/'
  | 'b' => some '\x08'
  | 'f' => some '\x0c'
  | 'n' => some '\n'
  | 'r' => some '\r'
  | 't' => some '\t'
  | _ => none

/-- The character of an escape, after its backslash. -/
def escape (c : Cursor) : Except Failure (Char × Cursor) :=
  match c.rest with
  | [] => c.fail .endInString
  | 'u' :: _ => unicodeEscape c.advance
  | x :: _ =>
    match simpleEscape? x with
    | some y => .ok (y, c.advance)
    | none => c.failAhead .invalidEscape

/-- The rest of a string, given its characters so far with the last one first. -/
def stringFrom : Nat → List Char → Cursor → Except Failure (String × Cursor)
  | 0, _, c => c.fail .endInString
  | fuel + 1, out, c =>
    match c.rest with
    | [] => c.fail .endInString
    | '\x22' :: _ => .ok (String.ofList out.reverse, c.advance)
    | '\\' :: _ => do
      let (x, c) ← escape c.advance
      stringFrom fuel (x :: out) c
    | x :: _ =>
      if x < ' ' then c.failAhead .controlCharacter else stringFrom fuel (x :: out) c.advance

/-- A string, after its opening quote. Every character shortens the rest. -/
def string (c : Cursor) : Except Failure (String × Cursor) := stringFrom (c.rest.length + 1) [] c

/-- Goes over an escape in a string that nobody wants: surrogates may stand alone in it. -/
def skipEscape (c : Cursor) : Except Failure Cursor :=
  match c.rest with
  | [] => c.fail .endInString
  | 'u' :: _ => return (← hexFour c.advance).2
  | x :: _ => if (simpleEscape? x).isSome then .ok c.advance else c.failAhead .invalidEscape

def skipStringFrom : Nat → Cursor → Except Failure Cursor
  | 0, c => c.fail .endInString
  | fuel + 1, c =>
    match c.rest with
    | [] => c.fail .endInString
    | '\x22' :: _ => .ok c.advance
    | '\\' :: _ => do skipStringFrom fuel (← skipEscape c.advance)
    | x :: _ => if x < ' ' then c.fail .controlCharacter else skipStringFrom fuel c.advance

/-- Goes over a string that nobody wants, after its opening quote. -/
def skipString (c : Cursor) : Except Failure Cursor := skipStringFrom (c.rest.length + 1) c

/-! ### Numbers -/

inductive Number where
  | natural (n : Nat)
  /-- The negative of a positive number. -/
  | negative (n : Nat)
  | float (x : Float)

/-- How messages name a number. -/
def Number.describe : Number → String
  | natural n => "integer `" ++ toString n ++ "`"
  | negative n => "integer `-" ++ toString n ++ "`"
  | float x => "floating point `" ++ Decimal.ofFloat x ++ "`"

def isDigit (c : Char) : Bool := '0' ≤ c && c ≤ '9'

def digitValue (c : Char) : Nat := c.toNat - '0'.toNat

/-- Goes over digits. -/
def skipDigitsFrom (p : Position) : List Char → Cursor
  | [] => ⟨[], p⟩
  | x :: rest => if isDigit x then skipDigitsFrom (p.after x) rest else ⟨x :: rest, p⟩

def Cursor.skipDigits (c : Cursor) : Cursor := skipDigitsFrom c.position c.rest

/-- The number of digits from here on. -/
def Cursor.digits (c : Cursor) : Nat := (c.rest.takeWhile isDigit).length

/-- Digits that were read: their value together with what stood before, how many they are, and
whether the next digit is the first one too many for 64 bits. -/
structure Digits where
  value : Nat
  count : Nat
  full : Bool
  cursor : Cursor

/-- Reads digits for as long as the value fits into 64 bits. -/
def digitsFrom (value count : Nat) (p : Position) : List Char → Digits
  | [] => ⟨value, count, false, ⟨[], p⟩⟩
  | x :: rest =>
    if isDigit x then
      let next := value * 10 + digitValue x
      if Nat.pow 2 64 ≤ next then ⟨value, count, true, ⟨x :: rest, p⟩⟩
      else digitsFrom next (count + 1) (p.after x) rest
    else ⟨value, count, false, ⟨x :: rest, p⟩⟩

def powerOfTen (n : Nat) : Float := Float.ofScientific 1 false n

/-- Brings a value to its power of ten, at most 308 places at a time. There is none for too large a
result. -/
def scaleFloat : Nat → Float → Int → Option Float
  | 0, f, _ => some f
  | fuel + 1, f, e =>
    if e.natAbs ≤ 308 then
      if 0 ≤ e then
        let f := f * powerOfTen e.natAbs
        if f.isInf then none else some f
      else some (f / powerOfTen e.natAbs)
    else if f == 0.0 then some f
    else if 0 ≤ e then none
    else scaleFloat fuel (f / powerOfTen 308) (e + 308)

/-- A floating-point number from its digits and exponent. Ten steps bring any value to zero. -/
def floatOf (positive : Bool) (value : Nat) (exponent : Int) (c : Cursor) :
    Except Failure (Number × Cursor) :=
  match scaleFloat 10 (Float.ofNat value) exponent with
  | some f => .ok (.float (if positive then f else -f), c)
  | none => c.fail .numberOutOfRange

def maxExponent : Nat := Nat.pow 2 31 - 1

/-- Reads the digits of an exponent; the flag tells that they are too many. -/
def exponentFrom (value : Nat) (p : Position) : List Char → Nat × Bool × Cursor
  | [] => (value, false, ⟨[], p⟩)
  | x :: rest =>
    if isDigit x then
      let next := value * 10 + digitValue x
      if maxExponent < next then (value, true, ⟨rest, p.after x⟩)
      else exponentFrom next (p.after x) rest
    else (value, false, ⟨x :: rest, p⟩)

/-- The exponent of a number, from its letter on. -/
def exponentPart (positive : Bool) (value : Nat) (before : Int) (c : Cursor) :
    Except Failure (Number × Cursor) :=
  let c := c.advance
  let (raises, c) :=
    match c.rest with
    | '+' :: _ => (true, c.advance)
    | '-' :: _ => (false, c.advance)
    | _ => (true, c)
  match c.rest with
  | [] => c.fail .endInValue
  | x :: _ =>
    if isDigit x then
      let (e, tooMany, c) := exponentFrom 0 c.position c.rest
      if tooMany then
        if value ≠ 0 && raises then c.fail .numberOutOfRange
        else .ok (.float (if positive then 0.0 else -0.0), c.skipDigits)
      else
        let exponent := if raises then before + e else before - e
        floatOf positive value (max (-maxExponent - 1) (min exponent maxExponent)) c
    else c.failAhead .invalidNumber

/-- What follows the digits of a floating-point number. -/
def floatEnd (positive : Bool) (value : Nat) (exponent : Int) (c : Cursor) :
    Except Failure (Number × Cursor) :=
  match c.rest with
  | 'e' :: _ | 'E' :: _ => exponentPart positive value exponent c
  | _ => floatOf positive value exponent c

/-- The digits after the point, from the point on. Digits too many for 64 bits are passed over. -/
def decimalPart (positive : Bool) (value : Nat) (before : Int) (c : Cursor) :
    Except Failure (Number × Cursor) :=
  let c := c.advance
  let d := digitsFrom value 0 c.position c.rest
  let exponent := before - d.count
  if d.full then floatEnd positive d.value exponent d.cursor.skipDigits
  else if d.count = 0 then
    match c.rest with
    | [] => c.failAhead .endInValue
    | _ :: _ => c.failAhead .invalidNumber
  else floatEnd positive d.value exponent d.cursor

/-- A number whose digits before the point have been read. -/
def numberEnd (positive : Bool) (value : Nat) (c : Cursor) :
    Except Failure (Number × Cursor) :=
  match c.rest with
  | '.' :: _ => decimalPart positive value 0 c
  | 'e' :: _ | 'E' :: _ => exponentPart positive value 0 c
  | _ =>
    if positive then .ok (.natural value, c)
    else if 0 < value && value ≤ Nat.pow 2 63 then .ok (.negative value, c)
    else .ok (.float (-(Float.ofNat value)), c)

/-- A number, after its sign. -/
def number (positive : Bool) (c : Cursor) :
    Except Failure (Number × Cursor) :=
  match c.rest with
  | [] => c.fail .endInValue
  | '0' :: rest =>
    let c := c.advance
    match rest with
    | x :: _ => if isDigit x then c.failAhead .invalidNumber else numberEnd positive 0 c
    | [] => numberEnd positive 0 c
  | x :: _ =>
    if isDigit x then
      let d := digitsFrom 0 0 c.position c.rest
      if d.full then
        let exponent : Int := d.cursor.digits
        let c := d.cursor.skipDigits
        match c.rest with
        | '.' :: _ => decimalPart positive d.value exponent c
        | _ => floatEnd positive d.value exponent c
      else numberEnd positive d.value d.cursor
    else c.failAhead .invalidNumber

/-- Goes over the exponent of a number that nobody wants, from its letter on. -/
def skipExponent (c : Cursor) : Except Failure Cursor :=
  let c := c.advance
  let c :=
    match c.rest with
    | '+' :: _ | '-' :: _ => c.advance
    | _ => c
  match c.rest with
  | x :: _ => if isDigit x then .ok c.skipDigits else c.failAhead .invalidNumber
  | [] => c.fail .invalidNumber

/-- Goes over what follows the digits before the point. -/
def skipNumberEnd (c : Cursor) : Except Failure Cursor :=
  match c.rest with
  | '.' :: _ =>
    let c := c.advance
    if c.digits = 0 then c.failAhead .invalidNumber
    else
      let c := c.skipDigits
      match c.rest with
      | 'e' :: _ | 'E' :: _ => skipExponent c
      | _ => .ok c
  | 'e' :: _ | 'E' :: _ => skipExponent c
  | _ => .ok c

/-- Goes over a number that nobody wants, after its sign. -/
def skipNumber (c : Cursor) : Except Failure Cursor :=
  match c.rest with
  | [] => c.fail .invalidNumber
  | '0' :: _ =>
    let c := c.advance
    if c.digits = 0 then skipNumberEnd c else c.failAhead .invalidNumber
  | x :: _ => if isDigit x then skipNumberEnd c.skipDigits else c.failAhead .invalidNumber

end PagePress.Json
