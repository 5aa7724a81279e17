import PagePress.Math.Sanitize
import PagePress.Proofs.Overwritten

/-!
# Character data

Escaped text is inert: no character of it is taken for markup, and every ampersand in it opens a
reference, one of the three that escaping writes or a numeric one that stood there before. What was
escaped comes back when those three are turned into characters again (`unescape_escape`).
-/
namespace PagePress.Math.Sanitize

/-- A character reference, of those by a name only the three that escaping uses. -/
def OpensReference (after : List Char) : Prop :=
  "lt;".toList <+: after ∨ "gt;".toList <+: after ∨ "amp;".toList <+: after ∨
    startsReference after = true

/-- Text in which no character is taken for markup. -/
structure Inert (text : List Char) : Prop where
  opening : '<' ∉ text
  closing : '>' ∉ text
  references : ∀ before after, text = before ++ '&' :: after → OpensReference after

/-- Turns the three references that escaping uses back into characters. -/
def unescape : List Char → List Char
  | [] => []
  | '&' :: 'l' :: 't' :: ';' :: rest => '<' :: unescape rest
  | '&' :: 'g' :: 't' :: ';' :: rest => '>' :: unescape rest
  | '&' :: 'a' :: 'm' :: 'p' :: ';' :: rest => '&' :: unescape rest
  | c :: rest => c :: unescape rest

variable {c : Char} {cs text rest digits : List Char}

theorem inert_nil : Inert [] := ⟨by simp, by simp, by simp⟩

theorem Inert.cons (opening : c ≠ '<') (closing : c ≠ '>') (reference : c = '&' → OpensReference cs)
    (inert : Inert cs) : Inert (c :: cs) where
  opening := by simp [Ne.symm opening, inert.opening]
  closing := by simp [Ne.symm closing, inert.closing]
  references before after same := by
    cases before with
    | nil =>
      obtain ⟨ampersand, rfl⟩ := List.cons.inj same
      exact reference ampersand
    | cons d before => exact inert.references before after (List.cons.inj same).2

theorem escape_ampersand (lone : startsReference cs = false) :
    escape ('&' :: cs) = "&amp;".toList ++ escape cs := by
  simp [escape, lone]

theorem escape_other (opening : c ≠ '<') (closing : c ≠ '>')
    (reference : c = '&' → startsReference cs = true) : escape (c :: cs) = c :: escape cs := by
  rw [escape, if_neg (by simpa using opening), if_neg (by simpa using closing), if_neg]
  by_cases ampersand : c = '&'
  · simp [reference ampersand]
  · simp [ampersand]

/-- The ways in which a character is escaped. -/
theorem escape_cases (c : Char) (cs : List Char) :
    c = '<' ∨ c = '>' ∨ (c = '&' ∧ startsReference cs = false) ∨
      (c ≠ '<' ∧ c ≠ '>' ∧ (c = '&' → startsReference cs = true)) := by
  by_cases opening : c = '<'
  · exact .inl opening
  by_cases closing : c = '>'
  · exact .inr (.inl closing)
  by_cases ampersand : c = '&'
  · cases reference : startsReference cs with
    | false => exact .inr (.inr (.inl ⟨ampersand, rfl⟩))
    | true => exact .inr (.inr (.inr ⟨opening, closing, fun _ => rfl⟩))
  · exact .inr (.inr (.inr ⟨opening, closing, fun same => absurd same ampersand⟩))

theorem isHexDigit_plain (digit : isHexDigit c = true) : c ≠ '<' ∧ c ≠ '>' ∧ c ≠ '&' := by
  refine ⟨?_, ?_, ?_⟩ <;> rintro rfl <;> exact absurd digit (by decide)

/-- Digits are not escaped. -/
theorem escape_digits (all : ∀ c ∈ digits, isHexDigit c = true)
    (rest : List Char) : escape (digits ++ rest) = digits ++ escape rest := by
  induction digits with
  | nil => rfl
  | cons c digits ih =>
    obtain ⟨opening, closing, ampersand⟩ := isHexDigit_plain (all c List.mem_cons_self)
    rw [List.cons_append, escape_other opening closing fun same => absurd same ampersand,
      ih fun d member => all d (List.mem_cons_of_mem _ member), List.cons_append]

/-- Digits before a semicolon are read to their end. -/
theorem takeWhile_of_digits (all : ∀ c ∈ digits, isHexDigit c = true)
    (here : digits ++ [';'] <+: cs) : cs.takeWhile isHexDigit = digits := by
  obtain ⟨rest, rfl⟩ := here
  have stop : isHexDigit ';' = false := by decide
  rw [List.append_assoc, List.takeWhile_append_of_pos all]
  simp [stop]

theorem closesReference_iff :
    closesReference cs = true ↔
      ∃ digits, digits ≠ [] ∧ (∀ c ∈ digits, isHexDigit c = true) ∧ digits ++ [';'] <+: cs := by
  unfold closesReference
  rw [Bool.and_eq_true, beq_iff_eq, Bool.not_eq_true', List.isEmpty_eq_false_iff]
  constructor
  · rintro ⟨some, semicolon⟩
    refine ⟨cs.takeWhile isHexDigit, some,
      fun c member => List.all_eq_true.1 List.all_takeWhile c member, ?_⟩
    obtain ⟨rest, behind⟩ : ∃ rest, cs.dropWhile isHexDigit = ';' :: rest := by
      cases behind : cs.dropWhile isHexDigit with
      | nil => simp [behind] at semicolon
      | cons c rest => exact ⟨rest, by simpa [behind] using semicolon⟩
    refine ⟨rest, ?_⟩
    conv => rhs; rw [← List.takeWhile_append_dropWhile (p := isHexDigit) (l := cs), behind]
    simp
  · rintro ⟨digits, some, all, here⟩
    have read := takeWhile_of_digits all here
    refine ⟨by rwa [read], ?_⟩
    obtain ⟨rest, rfl⟩ := here
    have stop : isHexDigit ';' = false := by decide
    rw [List.append_assoc, List.dropWhile_append_of_pos all]
    simp [stop]

theorem closesReference_escape (closes : closesReference cs = true) :
    closesReference (escape cs) = true := by
  obtain ⟨digits, some, all, rest, rfl⟩ := closesReference_iff.1 closes
  rw [List.append_assoc, escape_digits all]
  exact closesReference_iff.2 ⟨digits, some, all, escape rest, by simp [escape]⟩

/-- Without a letter that announces digits, the first of them stands right behind the number sign. -/
theorem startsReference_of_closes (closes : closesReference cs = true) :
    startsReference ('\x23' :: cs) = true := by
  cases cs with
  | nil => exact absurd closes (by decide)
  | cons c rest =>
    have digit : isHexDigit c = true := by
      cases digit : isHexDigit c with
      | true => rfl
      | false => simp [closesReference, digit] at closes
    unfold startsReference
    split
    next same => cases same; exact absurd digit (by decide)
    next same => cases same; exact absurd digit (by decide)
    next same => cases same; exact closes
    next none => exact absurd rfl (none _)

/-- A reference stays one when what follows its ampersand is escaped. -/
theorem startsReference_escape (starts : startsReference cs = true) :
    startsReference (escape cs) = true := by
  unfold startsReference at starts
  split at starts
  · exact closesReference_escape starts
  · exact closesReference_escape starts
  · exact startsReference_of_closes (closesReference_escape starts)
  · cases starts

theorem Inert.append {name : List Char} (plain : ∀ c ∈ name, c ∉ ['<', '>', '&']) (inert : Inert cs) :
    Inert (name ++ cs) := by
  induction name with
  | nil => exact inert
  | cons c name ih =>
    have other : c ≠ '<' ∧ c ≠ '>' ∧ c ≠ '&' := by simpa using plain c List.mem_cons_self
    exact .cons other.1 other.2.1 (fun same => absurd same other.2.2)
      (ih fun d member => plain d (List.mem_cons_of_mem _ member))

theorem escape_inert (cs : List Char) : Inert (escape cs) := by
  induction cs with
  | nil => exact inert_nil
  | cons c rest ih =>
    rcases escape_cases c rest with rfl | rfl | ⟨rfl, lone⟩ | ⟨opening, closing, reference⟩
    · exact .cons (by decide) (by decide) (fun _ => .inl (List.prefix_append _ _))
        (.append (foreign_of_all (by decide)) ih)
    · exact .cons (by decide) (by decide) (fun _ => .inr (.inl (List.prefix_append _ _)))
        (.append (foreign_of_all (by decide)) ih)
    · rw [escape_ampersand lone]
      exact .cons (by decide) (by decide) (fun _ => .inr (.inr (.inl (List.prefix_append _ _))))
        (.append (foreign_of_all (by decide)) ih)
    · rw [escape_other opening closing reference]
      refine ih.cons opening closing fun ampersand => ?_
      exact .inr (.inr (.inr (startsReference_escape (reference ampersand))))

theorem of_startsReference (starts : startsReference cs = true) :
    ∃ behind, cs = '\x23' :: behind := by
  unfold startsReference at starts
  split at starts
  · exact ⟨_, rfl⟩
  · exact ⟨_, rfl⟩
  · exact ⟨_, rfl⟩
  · cases starts

theorem unescape_cons (other : c ≠ '&') (cs : List Char) : unescape (c :: cs) = c :: unescape cs := by
  rw [unescape] <;> exact fun _ same => absurd same other

theorem unescape_escape (cs : List Char) : unescape (escape cs) = cs := by
  induction cs with
  | nil => rfl
  | cons c rest ih =>
    rcases escape_cases c rest with rfl | rfl | ⟨rfl, lone⟩ | ⟨opening, closing, reference⟩
    · exact congrArg ('<' :: ·) ih
    · exact congrArg ('>' :: ·) ih
    · rw [escape_ampersand lone]
      exact congrArg ('&' :: ·) ih
    · rw [escape_other opening closing reference]
      by_cases ampersand : c = '&'
      · obtain ⟨behind, rfl⟩ := of_startsReference (reference ampersand)
        rw [ampersand]
        exact congrArg ('&' :: ·) ih
      · rw [unescape_cons ampersand, ih]

theorem escape_overwritten (cs : List Char) : Overwritten errorMark cs (escape cs) := by
  induction cs with
  | nil => exact .nil
  | cons c rest ih =>
    rcases escape_cases c rest with rfl | rfl | ⟨rfl, lone⟩ | ⟨opening, closing, reference⟩
    · exact .replace ['<'] (show "&lt;".toList ≠ [] by decide) (foreign_of_all (by decide)) ih
    · exact .replace ['>'] (show "&gt;".toList ≠ [] by decide) (foreign_of_all (by decide)) ih
    · rw [escape_ampersand lone]
      exact .replace ['&'] (by decide) (foreign_of_all (by decide)) ih
    · rw [escape_other opening closing reference]
      exact .keep c ih

end PagePress.Math.Sanitize
