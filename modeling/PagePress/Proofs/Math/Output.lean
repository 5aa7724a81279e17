import PagePress.Math.Conversion
import PagePress.Proofs.Math.References

/-!
# What the converter writes

The converter writes tags and, in token elements, short texts that come from its tables and from the
letters and digits of the formula. Behind an ampersand of them there is never what only looks like a
numeric reference: an ampersand and a number sign of the formula can come into one text, but no
semicolon of it.
-/
namespace PagePress.Math

namespace Sanitize

/-- Behind no ampersand stands what only looks like a reference. -/
def Unlettered (cs : List Char) : Prop :=
  ∀ before after, cs = before ++ '&' :: after → ¬ Lettered after

variable {cs rest first second before after : List Char}

theorem Lettered.of_prefix (h : Lettered after) (longer : after <+: rest) : Lettered rest := by
  obtain ⟨digits, all, letter, here⟩ := h
  exact ⟨digits, all, letter, here.trans longer⟩

theorem prefix_of_not_mem {c : Char} {word : List Char} (foreign : c ∉ word)
    (h : word <+: cs ++ c :: rest) : word <+: cs := by
  rcases Nat.lt_or_ge cs.length word.length with longer | shorter
  · have reaches : cs ++ [c] <+: cs ++ c :: rest := ⟨rest, by simp⟩
    have inside : cs ++ [c] <+: word :=
      List.prefix_of_prefix_length_le reaches h (by simp; omega)
    exact absurd (inside.subset (by simp)) foreign
  · exact List.prefix_of_prefix_length_le h (List.prefix_append _ _) shorter

/-- What looks like a reference ends before the next tag. -/
theorem Lettered.before_tag (h : Lettered (after ++ '<' :: rest)) : Lettered after := by
  obtain ⟨digits, all, letter, here⟩ := h
  refine ⟨digits, all, letter, prefix_of_not_mem ?_ here⟩
  have plain : '<' ∉ digits := fun member => (isHexDigit_plain (all '<' member)).1 rfl
  simpa using plain

theorem Unlettered.of_infix (h : Unlettered cs) (inside : first <:+: cs) : Unlettered first := by
  rintro before after rfl lettered
  obtain ⟨left, right, rfl⟩ := inside
  refine h (left ++ before) (after ++ right) (by simp) ?_
  exact lettered.of_prefix (List.prefix_append _ _)

theorem unlettered_of_ampersand (none : '&' ∉ cs) : Unlettered cs := by
  rintro before after rfl
  simp at none

theorem unlettered_of_semicolon (none : ';' ∉ cs) : Unlettered cs := by
  rintro before after rfl ⟨digits, -, -, here⟩
  have member : ';' ∈ after := here.subset (by simp)
  simp [member] at none

theorem unlettered_of_numberSign (none : '\x23' ∉ cs) : Unlettered cs := by
  rintro before after rfl ⟨digits, -, -, here⟩
  have member : '\x23' ∈ after := here.subset (by simp)
  simp [member] at none

theorem unlettered_singleton (c : Char) : Unlettered [c] := by
  rintro before after same ⟨digits, -, -, here⟩
  have length := congrArg List.length same
  have filled := here.length_le
  simp at length filled
  omega

theorem Unlettered.cons {c : Char} (here : c = '&' → ¬ Lettered cs) (h : Unlettered cs) :
    Unlettered (c :: cs) := by
  intro before after same
  cases before with
  | nil =>
    obtain ⟨ampersand, rfl⟩ := List.cons.inj same
    exact here ampersand
  | cons d before => exact h before after (List.cons.inj same).2

theorem Unlettered.prepend (none : '&' ∉ first) (h : Unlettered second) :
    Unlettered (first ++ second) := by
  intro before after same
  rcases List.append_eq_append_iff.1 same with ⟨left, rfl, behind⟩ | ⟨left, rfl, behind⟩
  · exact h left after behind
  · cases left with
    | nil => exact h [] after behind.symm
    | cons c left =>
      obtain ⟨rfl, -⟩ := List.cons.inj behind
      simp at none

/-- A text and what begins with a tag. -/
theorem Unlettered.append (h : Unlettered first) (h' : Unlettered second)
    (apart : second = [] ∨ ∃ rest, second = '<' :: rest) : Unlettered (first ++ second) := by
  intro before after same lettered
  rcases List.append_eq_append_iff.1 same with ⟨left, rfl, behind⟩ | ⟨left, rfl, behind⟩
  · exact h' left after behind lettered
  · cases left with
    | nil => exact h' [] after behind.symm lettered
    | cons c left =>
      obtain ⟨rfl, rfl⟩ := List.cons.inj behind
      rcases apart with rfl | ⟨rest, rfl⟩
      · exact h before left rfl (lettered.of_prefix (by simp))
      · exact h before left rfl lettered.before_tag

end Sanitize

open Sanitize

/-! ### The MathML of a formula -/

/-- MathML that can stand between other MathML: it begins with a tag, unless it is empty, and has no
ampersand before what only looks like a reference, unless it is refused as a whole. -/
structure Output (s : String) : Prop where
  apart : s.toList = [] ∨ ∃ rest, s.toList = '<' :: rest
  clean : errorMark <:+: s.toList ∨ Unlettered s.toList

/-- A tag without an ampersand, or several of them. -/
def isTag (s : String) : Bool := s.toList.head? == some '<' && !s.toList.contains '&'

theorem Output.append {s t : String} (first : Output s) (second : Output t) : Output (s ++ t) where
  apart := by
    rw [String.toList_append]
    rcases first.apart with none | ⟨rest, some⟩
    · rw [none]
      exact second.apart
    · exact .inr ⟨_, by rw [some, List.cons_append]⟩
  clean := by
    rw [String.toList_append]
    rcases first.clean with mark | clean
    · exact .inl (mark.trans (List.prefix_append _ _).isInfix)
    rcases second.clean with mark | clean'
    · exact .inl (mark.trans (List.suffix_append _ _).isInfix)
    · exact .inr (clean.append clean' second.apart)

theorem output_empty : Output "" := ⟨.inl rfl, .inr (unlettered_of_ampersand (by simp))⟩

theorem exists_of_isTag {s : String} (tag : isTag s = true) :
    ∃ rest, s.toList = '<' :: rest ∧ '&' ∉ s.toList := by
  unfold isTag at tag
  rw [Bool.and_eq_true, beq_iff_eq, Bool.not_eq_true'] at tag
  obtain ⟨rest, shape⟩ := List.head?_eq_some_iff.1 tag.1
  exact ⟨rest, shape, by simpa using tag.2⟩

theorem output_of_isTag {s : String} (tag : isTag s = true) : Output s := by
  obtain ⟨rest, shape, plain⟩ := exists_of_isTag tag
  exact ⟨.inr ⟨rest, shape⟩, .inr (unlettered_of_ampersand plain)⟩

theorem isTag_append {s t : String} (tag : isTag s = true) (plain : '&' ∉ t.toList) :
    isTag (s ++ t) = true := by
  obtain ⟨rest, shape, first⟩ := exists_of_isTag tag
  rw [shape] at first
  simpa [isTag, shape, plain] using first

/-- A text between two tags. -/
theorem output_element {opening content closing : String} (first : isTag opening = true)
    (last : isTag closing = true) (inside : Unlettered content.toList) :
    Output (opening ++ content ++ closing) := by
  obtain ⟨rest, shape, plain⟩ := exists_of_isTag first
  have starts : Output (opening ++ content) := by
    refine ⟨.inr ⟨rest ++ content.toList, by simp [shape]⟩, .inr ?_⟩
    rw [String.toList_append]
    exact inside.prepend plain
  exact starts.append (output_of_isTag last)

/-- What is refused as a whole may say what it likes. -/
theorem output_errorText (detail : String) : Output (Formula.errorText detail) := by
  have shape : Formula.errorText detail =
      "<mtext>" ++ ("[PARSE ERROR" ++ (": " ++ detail ++ "]</mtext>")) := by
    have opening : "<mtext>[PARSE ERROR: " = "<mtext>" ++ "[PARSE ERROR" ++ ": " := by simp
    calc Formula.errorText detail
        = "<mtext>" ++ "[PARSE ERROR" ++ ": " ++ detail ++ "]</mtext>" :=
          congrArg (· ++ detail ++ "]</mtext>") opening
      _ = _ := by simp only [String.append_assoc]
  obtain ⟨rest, tag, -⟩ := exists_of_isTag (show isTag "<mtext>" = true by decide)
  rw [shape]
  constructor
  · rw [String.toList_append, tag]
    exact .inr ⟨_, rfl⟩
  · rw [String.toList_append, String.toList_append]
    exact .inl ⟨_, _, List.append_assoc ..⟩

namespace Formula

/-- The texts of a formula that are not those of its parts bring in no semicolon, unless they are
parentheses. -/
def Own : Formula → Prop
  | .number digits => ';' ∉ digits.toList
  | .function s | .text s => ';' ∉ s.toList
  | .fence s | .stretched s => Unlettered s.toList
  | .space width => '&' ∉ width.toList
  | .fenced opening closing _ => Unlettered opening.toList ∧ Unlettered closing.toList
  | .sized size paren => '&' ∉ size.toList ∧ Unlettered paren.toList
  | _ => True

/-- The formulas that a formula is made of. -/
def parts : Formula → List Formula
  | .subscript f g | .superscript f g | .over f g | .under f g | .root f g | .fraction _ f g => [f, g]
  | .subSuperscript f g h | .underOver f g h => [f, g, h]
  | .markOver _ _ f | .markUnder _ f | .squareRoot f | .fenced _ _ f | .matrix _ f | .slashed f => [f]
  | .row items => items
  | _ => []

/-- A formula that is harmless in all its parts. -/
inductive Harmless : Formula → Prop
  | intro {f : Formula} (own : f.Own) (parts : ∀ g ∈ f.parts, Harmless g) : Harmless f

theorem output_allMathml {items : List Formula} (all : ∀ f ∈ items, Output f.mathml) :
    Output (mathml.allMathml items) := by
  induction items with
  | nil => exact output_empty
  | cons f rest ih =>
    obtain ⟨first, later⟩ := List.forall_mem_cons.1 all
    rw [mathml.allMathml]
    exact first.append (ih later)

theorem output_cellsMathml {items : List Formula} (all : ∀ f ∈ items, Output f.mathml) :
    Output (mathml.cellsMathml items) := by
  induction items with
  | nil => exact output_empty
  | cons f rest ih =>
    obtain ⟨first, later⟩ := List.forall_mem_cons.1 all
    have cells := ih later
    cases f with
    | newLine => exact (output_of_isTag (by decide)).append cells
    | ampersand => exact (output_of_isTag (by decide)).append cells
    | _ => exact first.append cells

theorem isTag_variant (v : Variant) : isTag ("<mi mathvariant=\"" ++ variantName v ++ "\">") = true := by
  cases v <;> decide

theorem unlettered_toString (c : Char) : Unlettered c.toString.toList := by
  simpa using unlettered_singleton c

theorem output_letter (c : Char) (v : Variant) : Output (Formula.letter c v).mathml := by
  have text := unlettered_toString c
  cases v with
  | italic => exact output_element (by decide) (by decide) text
  | _ => exact output_element (isTag_variant _) (by decide) text

theorem output_operator (c : Char) : Output (Formula.operator c).mathml := by
  unfold mathml
  split
  · exact output_of_isTag (by decide)
  · exact output_element (by decide) (by decide) (unlettered_toString c)

/-- The slash behind a character is a reference of its own. -/
theorem unlettered_slashed (c : Char) : Unlettered (c.toString ++ "&#x0338;").toList := by
  have reference : Numeric "#x0338;".toList :=
    .hexadecimal 'x' "0338".toList (by decide) (by decide) (List.all_eq_true.1 (by decide))
      ⟨[], by decide⟩
  have slash : Unlettered ('&' :: "#x0338;".toList) :=
    .cons (fun _ => reference.not_lettered) (unlettered_of_ampersand (by decide))
  have shape : (c.toString ++ "&#x0338;").toList = c :: '&' :: "#x0338;".toList := by simp
  rw [shape]
  refine slash.cons fun _ lettered => ?_
  obtain ⟨digits, -, -, here⟩ := lettered
  exact absurd (List.cons_prefix_cons.1 here).1 (by decide)

/-- The closing tag stands right behind the slash. -/
theorem output_slash {opening closing behind : String} (first : isTag opening = true)
    (last : isTag closing = true) (joined : "&#x0338;" ++ closing = behind) (c : Char) :
    Output (opening ++ c.toString ++ behind) := by
  have element := output_element first last (unlettered_slashed c)
  rw [← joined]
  simpa only [String.append_assoc] using element

theorem output_slashed {f : Formula} (h : Output f.mathml) : Output (Formula.slashed f).mathml := by
  cases f with
  | letter c v =>
    have joined : "&#x0338;" ++ "</mi>" = "&#x0338;</mi>" := by simp
    exact output_slash (isTag_variant v) (by decide) joined c
  | operator c =>
    have joined : "&#x0338;" ++ "</mo>" = "&#x0338;</mo>" := by simp
    exact output_slash (by decide : isTag "<mo>" = true) (by decide) joined c
  | _ => exact h

section Enclosed

variable {opening closing s t u : String} (first : isTag opening = true)
  (last : isTag closing = true)
include first last

theorem output_one (h : Output s) : Output (opening ++ s ++ closing) :=
  ((output_of_isTag first).append h).append (output_of_isTag last)

theorem output_two (h : Output s) (h' : Output t) : Output (opening ++ s ++ t ++ closing) :=
  (((output_of_isTag first).append h).append h').append (output_of_isTag last)

theorem output_three (h : Output s) (h' : Output t) (h'' : Output u) :
    Output (opening ++ s ++ t ++ u ++ closing) :=
  ((((output_of_isTag first).append h).append h').append h'').append (output_of_isTag last)

end Enclosed

/-- A formula and a mark over or under it. -/
theorem output_mark {opening start closing s : String} (first : isTag opening = true)
    (middle : isTag start = true) (last : isTag closing = true) (h : Output s) (mark : Char) :
    Output (opening ++ s ++ start ++ mark.toString ++ closing) := by
  have element := output_element middle last (unlettered_toString mark)
  have whole := ((output_of_isTag first).append h).append element
  simpa only [String.append_assoc] using whole

theorem output_accented {opening start value stop closing s : String} (first : isTag opening = true)
    (middle : isTag (start ++ value ++ stop) = true) (last : isTag closing = true) (h : Output s)
    (mark : Char) :
    Output (opening ++ s ++ start ++ value ++ stop ++ mark.toString ++ closing) := by
  have whole := output_mark first middle last h mark
  simpa only [String.append_assoc] using whole

theorem output_matrix {leftAligned : Bool} {f : Formula} (h : Output f.mathml)
    (all : ∀ g ∈ f.parts, Output g.mathml) : Output (Formula.matrix leftAligned f).mathml := by
  have opening : isTag ((if leftAligned then "<mtable columnalign=left>" else "<mtable>") ++
      "<mtr><mtd>") = true := by
    cases leftAligned <;> decide
  cases f with
  | row items => exact output_one opening (by decide) (output_cellsMathml all)
  | _ => exact output_one opening (by decide) h

/-- A harmless formula is written without what only looks like a reference. -/
theorem Harmless.output {f : Formula} (h : Harmless f) :
    Output f.mathml ∧ ∀ g ∈ f.parts, Output g.mathml := by
  induction h with
  | @intro f own _ ih =>
    have inside : ∀ g ∈ f.parts, Output g.mathml := fun g member => (ih g member).1
    refine ⟨?_, inside⟩
    cases f with
    | number digits => exact output_element (by decide) (by decide) (unlettered_of_semicolon own)
    | letter c v => exact output_letter c v
    | operator c => exact output_operator c
    | fence s => exact output_element (by decide) (by decide) own
    | function name => exact output_element (by decide) (by decide) (unlettered_of_semicolon own)
    | text s => exact output_element (by decide) (by decide) (unlettered_of_semicolon own)
    | stretched s => exact output_element (by decide) (by decide) own
    | space width =>
      exact output_of_isTag (isTag_append (isTag_append (by decide) own) (by decide))
    | subscript f g =>
      have first := inside f (.head _)
      have second := inside g (.tail _ (.head _))
      exact output_two (by decide) (by decide) first second
    | superscript f g =>
      have first := inside f (.head _)
      have second := inside g (.tail _ (.head _))
      exact output_two (by decide) (by decide) first second
    | «over» f g =>
      have first := inside f (.head _)
      have second := inside g (.tail _ (.head _))
      exact output_two (by decide) (by decide) second first
    | under f g =>
      have first := inside f (.head _)
      have second := inside g (.tail _ (.head _))
      exact output_two (by decide) (by decide) second first
    | root f g =>
      have first := inside f (.head _)
      have second := inside g (.tail _ (.head _))
      exact output_two (by decide) (by decide) second first
    | fraction line f g =>
      have first := inside f (.head _)
      have second := inside g (.tail _ (.head _))
      have opening : isTag (if line then "<mfrac>" else "<mfrac linethickness=\"0\">") = true := by
        cases line <;> decide
      exact output_two opening (by decide) first second
    | subSuperscript f g h =>
      have first := inside f (.head _)
      have second := inside g (.tail _ (.head _))
      have third := inside h (.tail _ (.tail _ (.head _)))
      exact output_three (by decide) (by decide) first second third
    | underOver f g h =>
      have first := inside f (.head _)
      have second := inside g (.tail _ (.head _))
      have third := inside h (.tail _ (.tail _ (.head _)))
      exact output_three (by decide) (by decide) first second third
    | markOver accent mark f =>
      have start : isTag ("<mo accent=\"" ++ (if accent then "true" else "false") ++ "\">") = true := by
        cases accent <;> decide
      exact output_accented (by decide) start (by decide) (inside f (.head _)) mark
    | markUnder mark f =>
      exact output_mark (by decide) (by decide) (by decide) (inside f (.head _)) mark
    | squareRoot f => exact output_one (by decide) (by decide) (inside f (.head _))
    | fenced opening closing f =>
      refine output_three (by decide) (by decide) ?_ (inside f (.head _)) ?_
      · exact output_element (by decide) (by decide) own.1
      · exact output_element (by decide) (by decide) own.2
    | sized size paren =>
      refine output_element ?_ (by decide) own.2
      exact isTag_append (isTag_append (isTag_append (isTag_append (by decide) own.1) (by decide))
        own.1) (by decide)
    | matrix leftAligned f =>
      obtain ⟨written, parts⟩ := ih f (.head _)
      exact output_matrix written parts
    | slashed f => exact output_slashed (inside f (.head _))
    | row items => exact output_one (by decide) (by decide) (output_allMathml inside)
    | ampersand => exact output_errorText _
    | newLine => exact output_errorText _
    | undefined token => exact output_errorText _

end Formula

end PagePress.Math
