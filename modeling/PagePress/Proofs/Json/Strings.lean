import Mathlib.Tactic.IntervalCases
import PagePress.Json.Reader
import PagePress.Proofs.Json.Grammar

/-!
# Strings by the grammar

Every way to write a string is read as the string, wherever it stands in a text, and gone over to
the same place by the reader that does not want it.
-/
namespace PagePress.Json

/-- A reader takes a text for a value, whatever comes after the text and wherever it stands. -/
def Reads {α : Type} (reader : Cursor → Except Failure (α × Cursor)) (text : List Char) (a : α) :
    Prop :=
  ∀ rest position, ∃ behind, reader ⟨text ++ rest, position⟩ = .ok (a, ⟨rest, behind⟩)

variable {n : Nat} {c : Char} {cs text : List Char}

/-! ### Numbers of characters -/

theorem hexValue?_of_hexDigit (digit : HexDigit n c) : hexValue? c = some n := by
  have small : n < 16 := by
    rcases digit with lower | upper
    · exact (List.getElem?_eq_some_iff.1 lower).1
    · exact (List.getElem?_eq_some_iff.1 upper).1
  interval_cases n <;> rcases digit with ⟨⟨⟩⟩ | ⟨⟨⟩⟩ <;> rfl

theorem hexFour?_append (four : HexFour n text) (rest : List Char) :
    hexFour? (text ++ rest) = some n := by
  obtain ⟨first, second, third, fourth⟩ := four
  simp only [List.cons_append, hexFour?, hexValue?_of_hexDigit first,
    hexValue?_of_hexDigit second, hexValue?_of_hexDigit third, hexValue?_of_hexDigit fourth,
    Option.bind_eq_bind, Option.bind_some, Option.pure_def]
  congr 1
  omega

theorem reads_hexFour (four : HexFour n text) : Reads hexFour text n := by
  intro rest position
  have value := hexFour?_append four rest
  unfold hexFour
  simp only [value]
  obtain ⟨-, -, -, -⟩ := four
  exact ⟨_, rfl⟩

/-- A character is no surrogate. -/
theorem toNat_not_surrogate (c : Char) : c.toNat < 0xD800 ∨ 0xDFFF < c.toNat := by
  rcases c.valid with low | high
  · exact .inl low
  · exact .inr high.1

theorem reads_unicodeEscape_number (four : HexFour c.toNat text) :
    Reads unicodeEscape text c := by
  intro rest position
  obtain ⟨behind, read⟩ := reads_hexFour four rest position
  have whole := toNat_not_surrogate c
  refine ⟨behind, ?_⟩
  rw [unicodeEscape, read]
  simp only [bind, Except.bind, pure, Except.pure]
  rw [if_neg (by simp; omega), if_pos (by simp; omega), Char.ofNat_toNat]

theorem reads_unicodeEscape_pair {high low : Nat} {first second : List Char}
    (leading : 0xD800 ≤ high ∧ high ≤ 0xDBFF) (trailing : 0xDC00 ≤ low ∧ low ≤ 0xDFFF)
    (sum : c.toNat = (high - 0xD800) * 0x400 + (low - 0xDC00) + 0x10000)
    (early : HexFour high first) (late : HexFour low second) :
    Reads unicodeEscape (first ++ '\\' :: 'u' :: second) c := by
  intro rest position
  obtain ⟨between, one⟩ := reads_hexFour early ('\\' :: 'u' :: (second ++ rest)) position
  obtain ⟨behind, other⟩ := reads_hexFour late rest ((between.after '\\').after 'u')
  refine ⟨behind, ?_⟩
  rw [List.append_assoc, List.cons_append, List.cons_append, unicodeEscape, one]
  simp only [bind, Except.bind, pure, Except.pure]
  rw [if_neg (by simp; omega), if_neg (by simp; omega)]
  simp only [pairMark, Cursor.advance, beq_self_eq_true, if_true, other]
  rw [if_neg (by simp; omega), ← sum, Char.ofNat_toNat]

/-! ### Characters -/

theorem simpleEscape?_of_listed {mark : Char} (listed : (mark, c) ∈ shortEscapes) :
    simpleEscape? mark = some c ∧ mark ≠ 'u' := by
  revert listed
  simp only [shortEscapes, List.mem_cons, List.not_mem_nil, or_false, Prod.mk.injEq]
  rintro (⟨rfl, rfl⟩ | ⟨rfl, rfl⟩ | ⟨rfl, rfl⟩ | ⟨rfl, rfl⟩ | ⟨rfl, rfl⟩ | ⟨rfl, rfl⟩ | ⟨rfl, rfl⟩ |
    ⟨rfl, rfl⟩) <;> exact ⟨rfl, by decide⟩

/-- What is written after a backslash is read as one character. -/
theorem reads_escape {mark : Char} (listed : (mark, c) ∈ shortEscapes) :
    Reads escape [mark] c := by
  intro rest position
  obtain ⟨value, short⟩ := simpleEscape?_of_listed listed
  refine ⟨position.after mark, ?_⟩
  simp [escape, value, Cursor.advance]

/-- A character is read from any of its spellings in one step. -/
theorem stringFrom_charText (spelled : CharText c text) (rest : List Char) (position : Position) :
    ∃ behind, ∀ fuel out, stringFrom (fuel + 1) out ⟨text ++ rest, position⟩ =
      stringFrom fuel (c :: out) ⟨rest, behind⟩ := by
  -- An escape is read as the character by `escape`, and the string goes on behind it.
  have escaped : ∀ {text}, Reads escape text c → ∃ behind, ∀ fuel out,
      stringFrom (fuel + 1) out ⟨'\\' :: text ++ rest, position⟩ =
        stringFrom fuel (c :: out) ⟨rest, behind⟩ := by
    intro text read
    obtain ⟨behind, read⟩ := read rest (position.after '\\')
    refine ⟨behind, fun fuel out => ?_⟩
    simp only [List.cons_append, stringFrom, Cursor.advance, read, bind, Except.bind]
  cases spelled with
  | plain printable unquoted unescaped =>
    refine ⟨position.after c, fun fuel out => ?_⟩
    rw [stringFrom]
    simp [Cursor.advance, Char.not_lt.2 printable]
  | short listed => exact escaped (reads_escape listed)
  | number four =>
    exact escaped fun rest position => reads_unicodeEscape_number four rest (position.after 'u')
  | pair leading trailing sum early late =>
    exact escaped fun rest position =>
      reads_unicodeEscape_pair leading trailing sum early late rest (position.after 'u')

/-- The reader that does not want a string goes over a character in at most as many steps as there
are characters written. -/
theorem skipStringFrom_charText (spelled : CharText c text) (rest : List Char)
    (position : Position) : ∃ steps ≤ text.length, ∃ behind, ∀ fuel,
      skipStringFrom (fuel + steps) ⟨text ++ rest, position⟩ =
        skipStringFrom fuel ⟨rest, behind⟩ := by
  cases spelled with
  | plain printable unquoted unescaped =>
    refine ⟨1, Nat.le_refl _, position.after c, fun fuel => ?_⟩
    rw [skipStringFrom]
    simp [Cursor.advance, Char.not_lt.2 printable]
  | short listed =>
    rename_i mark
    obtain ⟨value, short⟩ := simpleEscape?_of_listed listed
    refine ⟨1, by simp, (position.after '\\').after mark, fun fuel => ?_⟩
    simp [skipStringFrom, skipEscape, value, Cursor.advance, bind, Except.bind]
  | number four =>
    obtain ⟨behind, read⟩ := reads_hexFour four rest ((position.after '\\').after 'u')
    refine ⟨1, by simp, behind, fun fuel => ?_⟩
    simp [skipStringFrom, skipEscape, read, Cursor.advance, bind, Except.bind, pure, Except.pure]
  | pair leading trailing sum early late =>
    rename_i high low first second
    obtain ⟨between, one⟩ := reads_hexFour early ('\\' :: 'u' :: (second ++ rest))
      ((position.after '\\').after 'u')
    obtain ⟨behind, other⟩ := reads_hexFour late rest ((between.after '\\').after 'u')
    refine ⟨2, by simp, behind, fun fuel => ?_⟩
    simp [skipStringFrom, skipEscape, one, other, Cursor.advance, bind, Except.bind, pure,
      Except.pure]

/-! ### Strings -/

theorem stringFrom_stringText (spelled : StringText cs text) (rest : List Char)
    (position : Position) : ∃ behind, ∀ fuel out,
      stringFrom (fuel + cs.length) out ⟨text ++ rest, position⟩ =
        stringFrom fuel (cs.reverse ++ out) ⟨rest, behind⟩ := by
  induction spelled generalizing position with
  | empty => exact ⟨position, fun fuel out => rfl⟩
  | @cons c cs text later first _ ih =>
    obtain ⟨between, one⟩ := stringFrom_charText first (later ++ rest) position
    obtain ⟨behind, others⟩ := ih between
    refine ⟨behind, fun fuel out => ?_⟩
    rw [List.length_cons, ← Nat.add_assoc, List.append_assoc, one, others, List.reverse_cons,
      List.append_assoc, List.singleton_append]

theorem skipStringFrom_stringText (spelled : StringText cs text) (rest : List Char)
    (position : Position) : ∃ steps ≤ text.length, ∃ behind, ∀ fuel,
      skipStringFrom (fuel + steps) ⟨text ++ rest, position⟩ =
        skipStringFrom fuel ⟨rest, behind⟩ := by
  induction spelled generalizing position with
  | empty => exact ⟨0, Nat.le_refl _, position, fun fuel => rfl⟩
  | @cons c cs text later first _ ih =>
    obtain ⟨some, few, between, one⟩ := skipStringFrom_charText first (later ++ rest) position
    obtain ⟨more, bound, behind, others⟩ := ih between
    refine ⟨more + some, by rw [List.length_append]; omega, behind, fun fuel => ?_⟩
    rw [← Nat.add_assoc, List.append_assoc, one, others]

theorem CharText.length_pos (spelled : CharText c text) : 0 < text.length := by
  cases spelled <;> simp

theorem StringText.length_le (spelled : StringText cs text) : cs.length ≤ text.length := by
  induction spelled with
  | empty => exact Nat.le_refl _
  | cons first _ ih =>
    have filled := first.length_pos
    rw [List.length_cons, List.length_append]
    omega

/-- A string is read from any of its spellings, after its opening quote. -/
theorem reads_string {s : String} (spelled : StringText s.toList text) :
    Reads string (text ++ ['\x22']) s := by
  intro rest position
  obtain ⟨behind, read⟩ := stringFrom_stringText spelled ('\x22' :: rest) position
  obtain ⟨fuel, long⟩ : ∃ fuel, (text ++ '\x22' :: rest).length + 1 = fuel + 1 + s.toList.length :=
    ⟨(text ++ '\x22' :: rest).length - s.toList.length, by
      have bound := spelled.length_le
      rw [List.length_append]
      omega⟩
  refine ⟨behind.after '\x22', ?_⟩
  rw [string, List.append_assoc, List.singleton_append, long, read, List.append_nil]
  simp [stringFrom, Cursor.advance]

theorem skipString_stringText (spelled : StringText cs text) (rest : List Char)
    (position : Position) :
    ∃ behind, skipString ⟨text ++ '\x22' :: rest, position⟩ = .ok ⟨rest, behind⟩ := by
  obtain ⟨steps, few, behind, passed⟩ :=
    skipStringFrom_stringText spelled ('\x22' :: rest) position
  obtain ⟨fuel, long⟩ : ∃ fuel, (text ++ '\x22' :: rest).length + 1 = fuel + 1 + steps :=
    ⟨(text ++ '\x22' :: rest).length - steps, by rw [List.length_append]; omega⟩
  refine ⟨behind.after '\x22', ?_⟩
  rw [skipString, long, passed]
  rfl

end PagePress.Json
