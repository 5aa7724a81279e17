import PagePress.Json.Reader
import PagePress.Proofs.Json.Grammar

/-!
# Numbers by the grammar

A number that nobody wants is gone over to its end. A natural number is read from digits alone, and
only from those that make a number of 64 bits: every other number is a negative one, a
floating-point one, or too large even for that.
-/
namespace PagePress.Json

/-- No digit follows. -/
def Stops (rest : List Char) : Prop := ∀ c ∈ rest.head?, isDigit c = false

/-- Nothing follows that could belong to a number. -/
def Ends (rest : List Char) : Prop :=
  ∀ c ∈ rest.head?, isDigit c = false ∧ c ≠ '.' ∧ c ≠ 'e' ∧ c ≠ 'E'

/-- A reader goes over a text to its end, wherever it stands, if what comes after it could not
belong to a number. -/
def Passes (reader : Cursor → Except Failure Cursor) (text : List Char) : Prop :=
  ∀ rest position, Ends rest → ∃ behind, reader ⟨text ++ rest, position⟩ = .ok ⟨rest, behind⟩

variable {c : Char} {text digits rest : List Char}

theorem Ends.stops (ends : Ends rest) : Stops rest := fun c head => (ends c head).1

theorem isDigit_of_mem : ∀ c ∈ decimalDigits, isDigit c = true :=
  List.all_eq_true.1 (by decide)

theorem AllDigits.head (all : AllDigits (c :: digits)) : isDigit c = true :=
  isDigit_of_mem c (all (List.mem_cons_self ..))

theorem AllDigits.tail (all : AllDigits (c :: digits)) : AllDigits digits :=
  List.subset_of_cons_subset all

/-! ### Numbers that nobody wants -/

theorem skipDigitsFrom_append (all : AllDigits digits) (stops : Stops rest) (position : Position) :
    ∃ behind, skipDigitsFrom position (digits ++ rest) = ⟨rest, behind⟩ := by
  induction digits generalizing position with
  | nil =>
    cases rest with
    | nil => exact ⟨position, rfl⟩
    | cons c rest => exact ⟨position, if_neg (by simp [stops c rfl])⟩
  | cons c digits ih =>
    obtain ⟨behind, passed⟩ := ih all.tail (position.after c)
    exact ⟨behind, (if_pos all.head).trans passed⟩

theorem digits_append (all : AllDigits digits) (stops : Stops rest) (position : Position) :
    Cursor.digits ⟨digits ++ rest, position⟩ = digits.length := by
  have none : rest.takeWhile isDigit = [] := by
    cases rest with
    | nil => rfl
    | cons c rest => simp [stops c rfl]
  have whole : ∀ c ∈ digits, isDigit c = true := fun c inside => isDigit_of_mem c (all inside)
  rw [Cursor.digits, List.takeWhile_append_of_pos whole, none, List.append_nil]

theorem skipExponent_append (letter : Char) {sign : List Char}
    (signed : sign = [] ∨ sign = ['+'] ∨ sign = ['-']) (filled : digits ≠ [])
    (all : AllDigits digits) (stops : Stops rest) (position : Position) :
    ∃ behind, skipExponent ⟨letter :: (sign ++ (digits ++ rest)), position⟩ =
      .ok ⟨rest, behind⟩ := by
  obtain ⟨first, later, rfl⟩ := List.exists_cons_of_ne_nil filled
  have digit := all.head
  -- Behind the sign, the digits are gone over.
  have passed : ∀ place, ∃ behind, (if isDigit first = true then
      Except.ok (Cursor.skipDigits ⟨first :: (later ++ rest), place⟩)
      else Cursor.failAhead ⟨first :: (later ++ rest), place⟩ .invalidNumber) =
        .ok ⟨rest, behind⟩ := by
    intro place
    obtain ⟨behind, gone⟩ := skipDigitsFrom_append all stops place
    exact ⟨behind, by rw [if_pos digit, Cursor.skipDigits]; exact congrArg _ gone⟩
  rcases signed with rfl | rfl | rfl
  · have plus : first ≠ '+' := by rintro rfl; exact absurd digit (by decide)
    have minus : first ≠ '-' := by rintro rfl; exact absurd digit (by decide)
    obtain ⟨behind, gone⟩ := passed (position.after letter)
    refine ⟨behind, Eq.trans ?_ gone⟩
    simp [skipExponent, Cursor.advance, plus, minus]
  · exact passed ((position.after letter).after '+')
  · exact passed ((position.after letter).after '-')

/-- Goes over the exponent of a number, if there is one. -/
def skipTail (c : Cursor) : Except Failure Cursor :=
  match c.rest with
  | 'e' :: _ | 'E' :: _ => skipExponent c
  | _ => .ok c

theorem Exponent.head (shape : Exponent text) (ends : Ends rest) :
    ∀ c ∈ (text ++ rest).head?, isDigit c = false ∧ c ≠ '.' := by
  cases shape with
  | absent => exact fun c first => ⟨(ends c first).1, (ends c first).2.1⟩
  | present marked =>
    rintro c ⟨⟩
    rcases marked with rfl | rfl <;> decide

theorem Fraction.stops (shape : Fraction text) (stops : Stops rest) : Stops (text ++ rest) := by
  cases shape with
  | absent => exact stops
  | present => rintro c ⟨⟩; rfl

theorem passes_skipTail (shape : Exponent text) : Passes skipTail text := by
  intro rest position ends
  cases shape with
  | absent =>
    refine ⟨position, ?_⟩
    unfold skipTail
    split
    next later same => exact absurd rfl (ends 'e' (by rw [show rest = _ from same]; rfl)).2.2.1
    next later same => exact absurd rfl (ends 'E' (by rw [show rest = _ from same]; rfl)).2.2.2
    next => rfl
  | @present letter sign digits marked signed filled all =>
    obtain ⟨behind, passed⟩ := skipExponent_append letter signed filled all ends.stops position
    refine ⟨behind, ?_⟩
    rw [List.cons_append, List.append_assoc]
    rcases marked with rfl | rfl <;> exact passed

theorem skipNumberEnd_append (shape : Fraction text)
    (head : ∀ c ∈ rest.head?, isDigit c = false ∧ c ≠ '.') (position : Position) :
    ∃ between, skipNumberEnd ⟨text ++ rest, position⟩ = skipTail ⟨rest, between⟩ := by
  have stops : Stops rest := fun c first => (head c first).1
  cases shape with
  | absent =>
    refine ⟨position, ?_⟩
    rw [List.nil_append, skipNumberEnd, skipTail]
    split
    next later same => exact absurd rfl (head '.' (by rw [show rest = _ from same]; rfl)).2
    next later same => simp only [show rest = 'e' :: later from same]
    next later same => simp only [show rest = 'E' :: later from same]
    next noLower noUpper =>
      split
      next later same => exact absurd same (noLower later)
      next later same => exact absurd same (noUpper later)
      next => rfl
  | @present digits filled all =>
    obtain ⟨between, passed⟩ := skipDigitsFrom_append all stops (position.after '.')
    refine ⟨between, ?_⟩
    have some : digits.length ≠ 0 := by simpa using filled
    simp only [List.cons_append, skipNumberEnd, Cursor.advance, digits_append all stops, some,
      if_false, Cursor.skipDigits, passed]
    rfl

theorem passes_skipNumber (n : Numeral) : Passes skipNumber n.magnitude := by
  intro rest position ends
  have head := n.exponent_shape.head ends
  have stops : Stops (n.fraction ++ (n.exponent ++ rest)) :=
    n.fraction_shape.stops fun c first => (head c first).1
  have finished : ∀ place, ∃ behind,
      skipNumberEnd ⟨n.fraction ++ (n.exponent ++ rest), place⟩ = .ok ⟨rest, behind⟩ := by
    intro place
    obtain ⟨between, passed⟩ := skipNumberEnd_append n.fraction_shape head place
    rw [passed]
    exact passes_skipTail n.exponent_shape rest between ends
  have shape := n.whole_shape
  rw [Numeral.magnitude, List.append_assoc, List.append_assoc]
  generalize n.whole = whole at shape
  cases shape with
  | zero =>
    obtain ⟨behind, passed⟩ := finished (position.after '0')
    refine ⟨behind, ?_⟩
    have few := digits_append (List.nil_subset _) stops (position.after '0')
    rw [List.nil_append, List.length_nil] at few
    simp [skipNumber, Cursor.advance, few, passed]
  | @digits first later leading all =>
    obtain ⟨between, gone⟩ := skipDigitsFrom_append all stops position
    obtain ⟨behind, passed⟩ := finished between
    refine ⟨behind, ?_⟩
    simp only [List.cons_append] at gone ⊢
    simp [skipNumber, all.head, Cursor.skipDigits, gone, passed]

/-! ### Natural numbers -/

/-- The natural number of 64 bits that is written with digits alone. -/
def Numeral.natural? (n : Numeral) : Option Nat :=
  if n.negative = false ∧ n.fraction = [] ∧ n.exponent = [] ∧ decimal n.whole < Nat.pow 2 64 then
    some (decimal n.whole)
  else none

/-- No natural number is read. -/
def Unnatural (result : Except Failure (Number × Cursor)) : Prop :=
  ∀ n c, result ≠ .ok (.natural n, c)

variable {positive : Bool} {value : Nat} {exponent : Int} {cursor : Cursor}

theorem unnatural_floatOf : Unnatural (floatOf positive value exponent cursor) := by
  unfold floatOf
  split <;> exact nofun

theorem unnatural_exponentPart : Unnatural (exponentPart positive value exponent cursor) := by
  unfold exponentPart
  dsimp only
  repeat' split
  all_goals first | exact unnatural_floatOf | exact nofun

theorem unnatural_floatEnd : Unnatural (floatEnd positive value exponent cursor) := by
  unfold floatEnd
  split
  · exact unnatural_exponentPart
  · exact unnatural_exponentPart
  · exact unnatural_floatOf

theorem unnatural_decimalPart : Unnatural (decimalPart positive value exponent cursor) := by
  unfold decimalPart
  dsimp only
  repeat' split
  all_goals first | exact unnatural_floatEnd | exact nofun

theorem unnatural_numberEnd_negative : Unnatural (numberEnd false value cursor) := by
  unfold numberEnd
  rw [if_neg Bool.false_ne_true]
  repeat' split
  all_goals first | exact unnatural_decimalPart | exact unnatural_exponentPart | exact nofun

/-- A point or an exponent makes a number a floating-point one. -/
theorem unnatural_numberEnd {fraction exponent : List Char} (fractional : Fraction fraction)
    (exponential : Exponent exponent) (marked : ¬ (fraction = [] ∧ exponent = []))
    (position : Position) :
    Unnatural (numberEnd positive value ⟨fraction ++ (exponent ++ rest), position⟩) := by
  cases fractional with
  | present => exact unnatural_decimalPart
  | absent =>
    cases exponential with
    | absent => exact absurd ⟨rfl, rfl⟩ marked
    | present letter => rcases letter with rfl | rfl <;> exact unnatural_exponentPart

theorem numberEnd_of_ends (ends : Ends rest) (position : Position) :
    numberEnd true value ⟨rest, position⟩ = .ok (.natural value, ⟨rest, position⟩) := by
  unfold numberEnd
  split
  next later same =>
    exact absurd rfl (ends '.' (by rw [show rest = _ from same]; rfl)).2.1
  next later same =>
    exact absurd rfl (ends 'e' (by rw [show rest = _ from same]; rfl)).2.2.1
  next later same =>
    exact absurd rfl (ends 'E' (by rw [show rest = _ from same]; rfl)).2.2.2
  next => rfl

theorem le_foldl_appendDigit (digits : List Char) (value : Nat) :
    value ≤ digits.foldl appendDigit value := by
  induction digits generalizing value with
  | nil => exact Nat.le_refl _
  | cons c digits ih => exact Nat.le_trans (by rw [appendDigit]; omega) (ih (appendDigit value c))

/-- Digits are read to their end if they make a number of 64 bits. -/
theorem digitsFrom_of_lt (all : AllDigits digits) (stops : Stops rest)
    (small : digits.foldl appendDigit value < Nat.pow 2 64) (count : Nat) (position : Position) :
    ∃ total behind, digitsFrom value count position (digits ++ rest) =
      ⟨digits.foldl appendDigit value, total, false, ⟨rest, behind⟩⟩ := by
  induction digits generalizing value count position with
  | nil =>
    refine ⟨count, position, ?_⟩
    cases rest with
    | nil => rfl
    | cons c rest => exact if_neg (by simp [stops c rfl])
  | cons c digits ih =>
    have next : ¬ Nat.pow 2 64 ≤ appendDigit value c :=
      Nat.not_le.2 (Nat.lt_of_le_of_lt (le_foldl_appendDigit digits _) small)
    obtain ⟨total, behind, read⟩ := ih all.tail small (count + 1) (position.after c)
    exact ⟨total, behind, (if_pos all.head).trans ((if_neg next).trans read)⟩

/-- Digits too many for 64 bits are noticed. -/
theorem full_digitsFrom_of_le (all : AllDigits digits) (fits : value < Nat.pow 2 64)
    (large : Nat.pow 2 64 ≤ digits.foldl appendDigit value) (rest : List Char) (count : Nat)
    (position : Position) :
    (digitsFrom value count position (digits ++ rest)).full = true := by
  induction digits generalizing value count position with
  | nil => exact absurd large (Nat.not_le.2 fits)
  | cons c digits ih =>
    rw [List.cons_append, digitsFrom, if_pos all.head]
    by_cases exceeds : Nat.pow 2 64 ≤ appendDigit value c
    · exact congrArg Digits.full (if_pos exceeds)
    · exact (congrArg Digits.full (if_neg exceeds)).trans
        (ih all.tail (Nat.not_le.1 exceeds) large (count + 1) (position.after c))

/-- Digits before the point, as they are read. -/
theorem number_whole (shape : Whole text) (stops : Stops rest) (positive : Bool)
    (position : Position) :
    (decimal text < Nat.pow 2 64 ∧ ∃ between, number positive ⟨text ++ rest, position⟩ =
      numberEnd positive (decimal text) ⟨rest, between⟩) ∨
    (Nat.pow 2 64 ≤ decimal text ∧ Unnatural (number positive ⟨text ++ rest, position⟩)) := by
  cases shape with
  | zero =>
    refine .inl ⟨by decide, position.after '0', ?_⟩
    cases rest with
    | nil => rfl
    | cons c rest => simp [number, Cursor.advance, stops c rfl]; rfl
  | @digits first later leading all =>
    rcases Nat.lt_or_ge (decimal (first :: later)) (Nat.pow 2 64) with small | large
    · obtain ⟨total, between, read⟩ := digitsFrom_of_lt all stops small 0 position
      refine .inl ⟨small, between, ?_⟩
      rw [List.cons_append] at read ⊢
      simp [number, all.head, read]
      rfl
    · have full := full_digitsFrom_of_le all (by decide) large rest 0 position
      refine .inr ⟨large, ?_⟩
      rw [List.cons_append] at full ⊢
      simp only [number, all.head, full, if_true]
      split
      · exact unnatural_decimalPart
      · exact unnatural_floatEnd

theorem number_natural {n : Numeral} (natural : n.natural? = some value) (ends : Ends rest)
    (position : Position) : n.negative = false ∧ ∃ behind,
      number true ⟨n.magnitude ++ rest, position⟩ = .ok (.natural value, ⟨rest, behind⟩) := by
  unfold Numeral.natural? at natural
  split at natural
  case isFalse => cases natural
  case isTrue plain =>
    obtain ⟨unsigned, fraction, exponent, small⟩ := plain
    obtain rfl : decimal n.whole = value := Option.some.inj natural
    refine ⟨unsigned, ?_⟩
    rw [Numeral.magnitude, fraction, exponent, List.append_nil, List.append_nil]
    rcases number_whole n.whole_shape ends.stops true position with ⟨-, between, read⟩ | ⟨large, -⟩
    · exact ⟨between, read.trans (numberEnd_of_ends ends between)⟩
    · exact absurd large (Nat.not_le.2 small)

theorem unnatural_number {n : Numeral} (other : n.natural? = none) (ends : Ends rest)
    (position : Position) : Unnatural (number (!n.negative) ⟨n.magnitude ++ rest, position⟩) := by
  have stops : Stops (n.fraction ++ (n.exponent ++ rest)) :=
    n.fraction_shape.stops fun c first => (n.exponent_shape.head ends c first).1
  rw [Numeral.magnitude, List.append_assoc, List.append_assoc]
  rcases number_whole n.whole_shape stops (!n.negative) position with
    ⟨small, between, read⟩ | ⟨-, unnatural⟩
  · rw [read]
    cases unsigned : n.negative with
    | true => exact unnatural_numberEnd_negative
    | false =>
      refine unnatural_numberEnd n.fraction_shape n.exponent_shape (fun bare => ?_) between
      rw [Numeral.natural?, if_pos ⟨unsigned, bare.1, bare.2, small⟩] at other
      cases other
  · exact unnatural

end PagePress.Json
