import PagePress.Proofs.Json.Skipping

/-!
# Values by their kinds

A reader that expects a kind of value reads the values of that kind from every text that stands for
them, and refuses the texts of all others.
-/
namespace PagePress.Json

variable {α : Type} {reader : Cursor → Except Failure (α × Cursor)} {blanks text : List Char}
  {c : Char} {v : Value}

/-- What a reader makes of a text: the value, or none if it refuses the text. -/
def Decides (reader : Cursor → Except Failure (α × Cursor)) (text : List Char)
    (result : Option α) : Prop :=
  ∀ rest position, Ends rest → ∃ behind,
    (reader ⟨text ++ rest, position⟩).toOption = result.map fun a => (a, ⟨rest, behind⟩)

theorem decides_some {a : α} (read : ∀ rest position, Ends rest → ∃ behind,
    reader ⟨text ++ rest, position⟩ = .ok (a, ⟨rest, behind⟩)) : Decides reader text (some a) := by
  intro rest position ends
  obtain ⟨behind, read⟩ := read rest position ends
  exact ⟨behind, by rw [read]; rfl⟩

theorem decides_none (refused : ∀ rest position, Ends rest → ∃ failure,
    reader ⟨text ++ rest, position⟩ = .error failure) : Decides reader text none := by
  intro rest position ends
  obtain ⟨failure, refused⟩ := refused rest position ends
  exact ⟨position, by rw [refused]; rfl⟩

namespace Value

def string? : Value → Option String
  | string s => some s
  | _ => none

def bool? : Value → Option Bool
  | bool b => some b
  | _ => none

def natural? : Value → Option Nat
  | number n => n.natural?
  | _ => none

end Value

theorem exists_error_bind {β : Type} {result : Except Failure α} {next : α → Except Failure β}
    (fails : ∀ a, ∃ failure, next a = .error failure) :
    ∃ failure, result >>= next = .error failure := by
  cases result with
  | error failure => exact ⟨failure, rfl⟩
  | ok a => exact fails a

/-- A value of the wrong kind is refused, whatever it is. -/
theorem exists_wrongKind_eq (expected : String) (c : Cursor) :
    ∃ failure, (wrongKind expected c : Except Failure α) = .error failure := by
  unfold wrongKind
  repeat' split
  all_goals first
    | exact ⟨_, rfl⟩
    | exact exists_error_bind fun _ => ⟨_, rfl⟩

theorem exists_naturalFrom_eq (expected : String) {positive : Bool} {cursor : Cursor}
    (unnatural : Unnatural (number positive cursor)) :
    ∃ failure, naturalFrom expected positive cursor = .error failure := by
  unfold naturalFrom
  cases read : number positive cursor with
  | error failure => exact ⟨failure, rfl⟩
  | ok result =>
    obtain ⟨value, c⟩ := result
    cases value with
    | natural value => exact absurd read (unnatural value c)
    | negative value => exact ⟨_, rfl⟩
    | float value => exact ⟨_, rfl⟩

section

variable (expected : String) (blank : Blanks blanks)
include blank

theorem stringValue_of_ne (solid : Cursor.isBlank c = false) (other : c ≠ '\x22')
    (rest : List Char) (position : Position) :
    ∃ failure, stringValue expected ⟨blanks ++ c :: rest, position⟩ = .error failure := by
  obtain ⟨behind, passed⟩ := toValue_append blank solid rest position
  obtain ⟨failure, refused⟩ :=
    exists_wrongKind_eq (α := String × Cursor) expected ⟨c :: rest, behind⟩
  exact ⟨failure, by simp [stringValue, passed, other, bind, Except.bind, refused]⟩

theorem boolValue_of_ne (solid : Cursor.isBlank c = false) (yes : c ≠ 't') (no : c ≠ 'f')
    (rest : List Char) (position : Position) :
    ∃ failure, boolValue ⟨blanks ++ c :: rest, position⟩ = .error failure := by
  obtain ⟨behind, passed⟩ := toValue_append blank solid rest position
  obtain ⟨failure, refused⟩ :=
    exists_wrongKind_eq (α := Bool × Cursor) "a boolean" ⟨c :: rest, behind⟩
  exact ⟨failure, by simp [boolValue, passed, yes, no, bind, Except.bind, refused]⟩

theorem naturalValue_of_ne (solid : Cursor.isBlank c = false) (sign : c ≠ '-')
    (digit : isDigit c = false) (rest : List Char) (position : Position) :
    ∃ failure, naturalValue expected ⟨blanks ++ c :: rest, position⟩ = .error failure := by
  obtain ⟨behind, passed⟩ := toValue_append blank solid rest position
  obtain ⟨failure, refused⟩ := exists_wrongKind_eq (α := Nat × Cursor) expected ⟨c :: rest, behind⟩
  exact ⟨failure, by simp [naturalValue, passed, bind, Except.bind, digit, refused]⟩

/-- The readers look at a value from its first character on, whatever white space is before it. -/
theorem stringValue_eq (rest : List Char) (position : Position) : ∃ behind,
    stringValue expected ⟨blanks ++ '\x22' :: rest, position⟩ = string ⟨rest, behind⟩ := by
  obtain ⟨behind, passed⟩ := toValue_append blank (c := '\x22') rfl rest position
  exact ⟨behind.after '\x22', by rw [stringValue, passed]; rfl⟩

theorem decides_stringValue (spelled : Spells v text) :
    Decides (stringValue expected) (blanks ++ text) v.string? := by
  cases spelled with
  | string spelled =>
    refine decides_some fun rest position _ => ?_
    obtain ⟨between, same⟩ := stringValue_eq expected blank (_ ++ ['\x22'] ++ rest) position
    obtain ⟨behind, read⟩ := reads_string spelled rest between
    refine ⟨behind, ?_⟩
    rw [List.append_assoc, List.cons_append, same, read]
  | number n =>
    obtain ⟨c, later, text, solid, other⟩ := n.exists_cons
    refine decides_none fun rest position _ => ?_
    rw [List.append_assoc, text, List.cons_append]
    exact stringValue_of_ne expected blank solid (fun same => other (by simp [same])) _ _
  | _ =>
    refine decides_none fun rest position _ => ?_
    rw [List.append_assoc, List.cons_append]
    exact stringValue_of_ne expected blank rfl (by decide) _ _

theorem decides_boolValue (spelled : Spells v text) :
    Decides boolValue (blanks ++ text) v.bool? := by
  cases spelled with
  | yes =>
    refine decides_some fun rest position _ => ?_
    obtain ⟨behind, passed⟩ := toValue_append blank (c := 't') rfl
      (['r', 'u', 'e'] ++ rest) position
    exact ⟨_, by rw [List.append_assoc, List.cons_append, boolValue, passed]; rfl⟩
  | no =>
    refine decides_some fun rest position _ => ?_
    obtain ⟨behind, passed⟩ := toValue_append blank (c := 'f') rfl
      (['a', 'l', 's', 'e'] ++ rest) position
    exact ⟨_, by rw [List.append_assoc, List.cons_append, boolValue, passed]; rfl⟩
  | number n =>
    obtain ⟨c, later, text, solid, other⟩ := n.exists_cons
    refine decides_none fun rest position _ => ?_
    rw [List.append_assoc, text, List.cons_append]
    exact boolValue_of_ne blank solid (fun same => other (by simp [same]))
      (fun same => other (by simp [same])) _ _
  | _ =>
    refine decides_none fun rest position _ => ?_
    rw [List.append_assoc, List.cons_append]
    exact boolValue_of_ne blank rfl (by decide) (by decide) _ _

theorem naturalValue_magnitude (digit : c ∈ decimalDigits) {later : List Char}
    (magnitude : text = c :: later) (rest : List Char) (position : Position) : ∃ between,
      naturalValue expected ⟨blanks ++ text ++ rest, position⟩ =
        naturalFrom expected true ⟨text ++ rest, between⟩ := by
  obtain ⟨solid, other⟩ := plain_of_digit digit
  have sign : c ≠ '-' := fun same => other (by simp [same])
  obtain ⟨between, passed⟩ := toValue_append blank solid (later ++ rest) position
  refine ⟨between, ?_⟩
  rw [List.append_assoc, magnitude, List.cons_append]
  simp [naturalValue, passed, bind, Except.bind, isDigit_of_mem c digit]

theorem decides_naturalValue (spelled : Spells v text) :
    Decides (naturalValue expected) (blanks ++ text) v.natural? := by
  cases spelled with
  | number n =>
    rcases n.text_eq with ⟨negative, text⟩ | ⟨positive, text, c, digit, later, magnitude⟩
    · have other : n.natural? = none := if_neg (by simp [negative])
      rw [Value.natural?, other, text]
      refine decides_none fun rest position ends => ?_
      obtain ⟨behind, passed⟩ := toValue_append blank (c := '-') rfl (n.magnitude ++ rest) position
      have unnatural := unnatural_number other ends (behind.after '-')
      rw [negative] at unnatural
      obtain ⟨failure, refused⟩ := exists_naturalFrom_eq expected unnatural
      refine ⟨failure, ?_⟩
      rw [List.append_assoc, List.cons_append, naturalValue, passed]
      exact refused
    · rw [text]
      have same := naturalValue_magnitude expected blank digit magnitude
      cases natural : n.natural? with
      | none =>
        rw [Value.natural?, natural]
        refine decides_none fun rest position ends => ?_
        obtain ⟨between, same⟩ := same rest position
        have unnatural := unnatural_number natural ends between
        rw [positive] at unnatural
        rw [same]
        exact exists_naturalFrom_eq expected unnatural
      | some value =>
        rw [Value.natural?, natural]
        refine decides_some fun rest position ends => ?_
        obtain ⟨between, same⟩ := same rest position
        obtain ⟨-, behind, read⟩ := number_natural natural ends between
        exact ⟨behind, by rw [same, naturalFrom, read]; rfl⟩
  | _ =>
    refine decides_none fun rest position _ => ?_
    rw [List.append_assoc, List.cons_append]
    exact naturalValue_of_ne expected blank rfl (by decide) rfl _ _

end

end PagePress.Json
