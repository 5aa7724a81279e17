import PagePress.Proofs.Math.CharacterData

/-!
# Which ampersands are copied

Escaping copies an ampersand if it opens a numeric character reference and writes `&amp;` for it
otherwise. The recogniser takes the letter that announces hexadecimal digits for optional, so that it
also lets pass what is no reference: hexadecimal digits with a letter among them that nothing
announces (`Lettered`).
-/
namespace PagePress.Math.Sanitize

/-- What stands behind an ampersand makes it open a numeric character reference: decimal digits, or
hexadecimal ones that a letter announces, and a semicolon. -/
inductive Numeric (after : List Char) : Prop
  | decimal (digits : List Char) (some : digits ≠ []) (all : ∀ c ∈ digits, c.isDigit = true)
      (here : '\x23' :: digits ++ [';'] <+: after)
  | hexadecimal (announcer : Char) (digits : List Char) (announced : announcer ∈ ['x', 'X'])
      (some : digits ≠ []) (all : ∀ c ∈ digits, isHexDigit c = true)
      (here : '\x23' :: announcer :: digits ++ [';'] <+: after)

/-- What stands behind an ampersand looks like a decimal reference, but has a hexadecimal digit in it
that is none of the decimal ones. -/
def Lettered (after : List Char) : Prop :=
  ∃ digits : List Char, (∀ c ∈ digits, isHexDigit c = true) ∧ (∃ c ∈ digits, c.isDigit = false) ∧
    '\x23' :: digits ++ [';'] <+: after

variable {before after : List Char}

theorem isHexDigit_of_isDigit {c : Char} (decimal : c.isDigit = true) : isHexDigit c = true := by
  simp [isHexDigit, decimal]

theorem not_isHexDigit_announcer {c : Char} (h : c ∈ ['x', 'X']) : isHexDigit c = false := by
  rcases List.mem_cons.1 h with rfl | h
  · decide
  · obtain rfl := List.mem_singleton.1 h
    decide

/-- What the recogniser takes for a reference: a numeric one, or one that only looks like it. -/
theorem startsReference_iff : startsReference after = true ↔ Numeric after ∨ Lettered after := by
  constructor
  · intro starts
    unfold startsReference at starts
    split at starts
    next rest =>
      obtain ⟨digits, some, all, here⟩ := closesReference_iff.1 starts
      exact .inl (.hexadecimal 'x' digits (by simp) some all (by simpa using here))
    next rest =>
      obtain ⟨digits, some, all, here⟩ := closesReference_iff.1 starts
      exact .inl (.hexadecimal 'X' digits (by simp) some all (by simpa using here))
    next rest _ _ =>
      obtain ⟨digits, some, all, here⟩ := closesReference_iff.1 starts
      have here : '\x23' :: digits ++ [';'] <+: '\x23' :: rest := by simpa using here
      by_cases decimal : ∀ c ∈ digits, c.isDigit = true
      · exact .inl (.decimal digits some decimal here)
      · obtain ⟨c, member, letter⟩ : ∃ c ∈ digits, c.isDigit = false := by simpa using decimal
        exact .inr ⟨digits, all, ⟨c, member, letter⟩, here⟩
    next => cases starts
  · have unannounced : ∀ digits : List Char, digits ≠ [] → (∀ c ∈ digits, isHexDigit c = true) →
        '\x23' :: digits ++ [';'] <+: after → startsReference after = true := by
      rintro digits some all ⟨rest, rfl⟩
      exact startsReference_of_closes (closesReference_iff.2 ⟨digits, some, all, rest, rfl⟩)
    rintro (reference | ⟨digits, all, ⟨c, member, -⟩, here⟩)
    · cases reference with
      | decimal digits some all here =>
        exact unannounced digits some (fun c member => isHexDigit_of_isDigit (all c member)) here
      | hexadecimal announcer digits announced some all here =>
        obtain ⟨rest, rfl⟩ := here
        have closes : closesReference (digits ++ [';'] ++ rest) = true :=
          closesReference_iff.2 ⟨digits, some, all, rest, rfl⟩
        rcases List.mem_cons.1 announced with rfl | announced
        · exact closes
        · obtain rfl := List.mem_singleton.1 announced
          exact closes
    · exact unannounced digits (List.ne_nil_of_mem member) all here

/-- What only looks like a reference is none. -/
theorem Numeric.not_lettered (reference : Numeric after) : ¬ Lettered after := by
  rintro ⟨digits, all, ⟨c, member, letter⟩, rest, rfl⟩
  have looks : digits ++ [';'] <+: digits ++ [';'] ++ rest := List.prefix_append _ _
  have read := takeWhile_of_digits all looks
  cases reference with
  | decimal digits' some all' here =>
    have here : digits' ++ [';'] <+: digits ++ [';'] ++ rest := by simpa using here
    have same := takeWhile_of_digits (fun c member => isHexDigit_of_isDigit (all' c member)) here
    rw [read] at same
    rw [same] at member
    rw [all' c member] at letter
    cases letter
  | hexadecimal announcer digits' announced some all' here =>
    have here : announcer :: digits' ++ [';'] <+: digits ++ [';'] ++ rest := by simpa using here
    obtain ⟨rest', same⟩ := here
    rw [← same, List.cons_append, List.cons_append, List.takeWhile_cons_of_neg (by
      simp [not_isHexDigit_announcer announced])] at read
    rw [← read] at member
    cases member

/-! ### What is written for an ampersand -/

/-- The ampersand between two texts is copied: right before what is written for the second of them
stands an ampersand. -/
def Copied (before after : List Char) : Prop :=
  '&' :: escape after <:+ escape (before ++ '&' :: after)

/-- The ampersand between two texts is turned into a reference. -/
def Replaced (before after : List Char) : Prop :=
  "&amp;".toList ++ escape after <:+ escape (before ++ '&' :: after)

theorem escape_suffix (before after : List Char) : escape after <:+ escape (before ++ after) := by
  induction before with
  | nil => exact List.suffix_refl _
  | cons c rest ih =>
    refine ih.trans ?_
    rcases escape_cases c (rest ++ after) with rfl | rfl | ⟨rfl, lone⟩ | ⟨opening, closing, reference⟩
    · exact List.suffix_append "&lt;".toList _
    · exact List.suffix_append "&gt;".toList _
    · rw [List.cons_append, escape_ampersand lone]
      exact List.suffix_append _ _
    · rw [List.cons_append, escape_other opening closing reference]
      exact List.suffix_cons _ _

/-- An ampersand is not both copied and turned into a reference: one ends as an ampersand, the other
as a semicolon. -/
theorem Copied.not_replaced (copied : Copied before after) : ¬ Replaced before after := by
  rintro ⟨first, replaced⟩
  obtain ⟨first', copied⟩ := copied
  have same : first' ++ ['&'] ++ escape after = first ++ "&amp;".toList ++ escape after := by
    simpa using copied.trans replaced.symm
  have ends := congrArg List.getLast? (List.append_cancel_right same)
  simp at ends

theorem copied_iff : Copied before after ↔ startsReference after = true := by
  have written := escape_suffix before ('&' :: after)
  cases starts : startsReference after with
  | true =>
    rw [escape_other (by decide) (by decide) fun _ => starts] at written
    exact iff_of_true written rfl
  | false =>
    rw [escape_ampersand starts] at written
    exact iff_of_false (fun copied => copied.not_replaced written) Bool.false_ne_true

theorem replaced_iff : Replaced before after ↔ ¬ Copied before after := by
  constructor
  · exact fun replaced copied => copied.not_replaced replaced
  · intro uncopied
    rw [copied_iff, Bool.not_eq_true] at uncopied
    have written := escape_suffix before ('&' :: after)
    rwa [escape_ampersand uncopied] at written

end PagePress.Math.Sanitize
