import Mathlib.Data.List.Forall2
import PagePress.Json.Scalar

/-!
# The grammar of JSON

Values, and the texts that stand for them. A value forgets the white space between its parts and the
way in which a character of a string is escaped; a number is kept as it is written. This is the
grammar of the format itself, stated without any reader.
-/
namespace PagePress.Json

/-- White space between the parts of a text. -/
def Blanks (text : List Char) : Prop := text ⊆ [' ', '\t', '\n', '\r']

theorem blanks_nil : Blanks [] := List.nil_subset _

theorem blanks_singleton {c : Char} (listed : c ∈ [' ', '\t', '\n', '\r']) : Blanks [c] :=
  List.cons_subset.2 ⟨listed, List.nil_subset _⟩

/-! ### Numbers -/

def decimalDigits : List Char := ['0', '1', '2', '3', '4', '5', '6', '7', '8', '9']

def AllDigits (text : List Char) : Prop := text ⊆ decimalDigits

/-- The digits before the point: none but zero itself begins with a zero. -/
inductive Whole : List Char → Prop
  | zero : Whole ['0']
  | digits {first : Char} {later : List Char} (leading : first ≠ '0')
      (all : AllDigits (first :: later)) : Whole (first :: later)

/-- The point and the digits after it, or nothing. -/
inductive Fraction : List Char → Prop
  | absent : Fraction []
  | present {digits : List Char} (filled : digits ≠ []) (all : AllDigits digits) :
      Fraction ('.' :: digits)

/-- The exponent with its letter, or nothing. -/
inductive Exponent : List Char → Prop
  | absent : Exponent []
  | present {letter : Char} {sign digits : List Char} (marked : letter = 'e' ∨ letter = 'E')
      (signed : sign = [] ∨ sign = ['+'] ∨ sign = ['-']) (filled : digits ≠ [])
      (all : AllDigits digits) : Exponent (letter :: (sign ++ digits))

/-- A number as it is written. -/
structure Numeral where
  negative : Bool := false
  whole : List Char
  fraction : List Char := []
  exponent : List Char := []
  whole_shape : Whole whole
  fraction_shape : Fraction fraction := by exact .absent
  exponent_shape : Exponent exponent := by exact .absent

namespace Numeral

/-- What is written after the sign. -/
def magnitude (n : Numeral) : List Char := n.whole ++ (n.fraction ++ n.exponent)

def text (n : Numeral) : List Char := if n.negative then '-' :: n.magnitude else n.magnitude

end Numeral

/-- One digit more. -/
def appendDigit (n : Nat) (c : Char) : Nat := n * 10 + digitValue c

/-- The number that digits stand for. -/
def decimal (digits : List Char) : Nat := digits.foldl appendDigit 0

/-! ### Strings -/

/-- A hexadecimal digit, in either case. -/
def HexDigit (n : Nat) (c : Char) : Prop :=
  "0123456789abcdef".toList[n]? = some c ∨ "0123456789ABCDEF".toList[n]? = some c

/-- Four hexadecimal digits and the number that they stand for. -/
inductive HexFour : Nat → List Char → Prop
  | digits {n₁ n₂ n₃ n₄ : Nat} {c₁ c₂ c₃ c₄ : Char} (first : HexDigit n₁ c₁)
      (second : HexDigit n₂ c₂) (third : HexDigit n₃ c₃) (fourth : HexDigit n₄ c₄) :
      HexFour (((n₁ * 16 + n₂) * 16 + n₃) * 16 + n₄) [c₁, c₂, c₃, c₄]

/-- The escapes of one letter or mark, and the characters that they stand for. -/
def shortEscapes : List (Char × Char) :=
  [('\x22', '\x22'), ('\\', '\\'), ('/', '/'), ('b', '\x08'), ('f', '\x0c'), ('n', '\n'),
    ('r', '\r'), ('t', '\t')]

/-- The ways to write a character in a string: as it is, by a short escape, by its number, or by the
numbers of its surrogate pair. -/
inductive CharText : Char → List Char → Prop
  | plain {c : Char} (printable : ' ' ≤ c) (unquoted : c ≠ '\x22') (unescaped : c ≠ '\\') :
      CharText c [c]
  | short {mark c : Char} (listed : (mark, c) ∈ shortEscapes) : CharText c ['\\', mark]
  | number {c : Char} {digits : List Char} (four : HexFour c.toNat digits) :
      CharText c ('\\' :: 'u' :: digits)
  | pair {c : Char} {high low : Nat} {first second : List Char}
      (leading : 0xD800 ≤ high ∧ high ≤ 0xDBFF) (trailing : 0xDC00 ≤ low ∧ low ≤ 0xDFFF)
      (sum : c.toNat = (high - 0xD800) * 0x400 + (low - 0xDC00) + 0x10000)
      (early : HexFour high first) (late : HexFour low second) :
      CharText c ('\\' :: 'u' :: (first ++ '\\' :: 'u' :: second))

/-- The characters of a string, written one after the other. -/
inductive StringText : List Char → List Char → Prop
  | empty : StringText [] []
  | cons {c : Char} {cs text rest : List Char} (first : CharText c text)
      (later : StringText cs rest) : StringText (c :: cs) (text ++ rest)

/-! ### Values -/

inductive Value where
  | null
  | bool (b : Bool)
  | number (n : Numeral)
  | string (s : String)
  | list (elements : List Value)
  | object (members : List (String × Value))

/-- A text with white space around it. -/
structure Piece where
  before : List Char := []
  text : List Char
  after : List Char := []
  before_blank : Blanks before := by exact blanks_nil
  after_blank : Blanks after := by exact blanks_nil

def Piece.written (p : Piece) : List Char := p.before ++ (p.text ++ p.after)

/-- Texts with commas between them. -/
def joined (pieces : List Piece) : List Char := [','].intercalate (pieces.map Piece.written)

/-- A text that is to stand for a value. -/
structure Element extends Piece where
  value : Value

/-- A member of an object: its name in quotes, a colon, and a text that is to stand for a value. -/
structure Member extends Element where
  margin : List Char := []
  name : String
  spelling : List Char
  gap : List Char := []
  margin_blank : Blanks margin := by exact blanks_nil
  spelled : StringText name.toList spelling
  gap_blank : Blanks gap := by exact blanks_nil

namespace Member

/-- What is written between the opening quote of the name and the end of the value. -/
def behindQuote (m : Member) : List Char :=
  m.spelling ++ '\x22' :: (m.gap ++ ':' :: (m.before ++ m.text))

def piece (m : Member) : Piece where
  before := m.margin
  text := '\x22' :: m.behindQuote
  after := m.after
  before_blank := m.margin_blank
  after_blank := m.after_blank

def entry (m : Member) : String × Value := (m.name, m.value)

end Member

/-- The texts that stand for a value. -/
inductive Spells : Value → List Char → Prop
  | null : Spells .null ['n', 'u', 'l', 'l']
  | yes : Spells (.bool true) ['t', 'r', 'u', 'e']
  | no : Spells (.bool false) ['f', 'a', 'l', 's', 'e']
  | number (n : Numeral) : Spells (.number n) n.text
  | string {s : String} {text : List Char} (spelled : StringText s.toList text) :
      Spells (.string s) ('\x22' :: (text ++ ['\x22']))
  | emptyList {inside : List Char} (blank : Blanks inside) :
      Spells (.list []) ('[' :: (inside ++ [']']))
  | list {elements : List Element} (filled : elements ≠ [])
      (each : ∀ e ∈ elements, Spells e.value e.text) :
      Spells (.list (elements.map Element.value))
        ('[' :: (joined (elements.map Element.toPiece) ++ [']']))
  | emptyObject {inside : List Char} (blank : Blanks inside) :
      Spells (.object []) ('\x7b' :: (inside ++ ['\x7d']))
  | object {members : List Member} (filled : members ≠ [])
      (each : ∀ m ∈ members, Spells m.value m.text) :
      Spells (.object (members.map Member.entry))
        ('\x7b' :: (joined (members.map Member.piece) ++ ['\x7d']))

/-- A text that holds one value and nothing else but white space around it. -/
def Document (v : Value) (text : List Char) : Prop :=
  ∃ e : Element, e.value = v ∧ Spells e.value e.text ∧ e.written = text

theorem Spells.document {v : Value} {before text after : List Char} (spelled : Spells v text)
    (front : Blanks before) (back : Blanks after) : Document v (before ++ (text ++ after)) :=
  ⟨⟨⟨before, text, after, front, back⟩, v⟩, rfl, spelled, rfl⟩

/-- Values that differ at most in the order in which the members of objects are written. -/
inductive Alike : Value → Value → Prop
  | same (v : Value) : Alike v v
  | list {first second : List Value} (each : List.Forall₂ Alike first second) :
      Alike (.list first) (.list second)
  | object {first reordered second : List (String × Value)} (order : first.Perm reordered)
      (names : reordered.map Prod.fst = second.map Prod.fst)
      (values : List.Forall₂ Alike (reordered.map Prod.snd) (second.map Prod.snd)) :
      Alike (.object first) (.object second)

end PagePress.Json
